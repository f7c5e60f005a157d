import NexusHelpdesk.Lib.Table

/-!
# Stable sorting, and lists served under a limit

* `pairwise_insertionSort_lex`: an insertion sort keeps the order of what is equal by the key, so
  that sorting and filtering commute (`insertionSort_filter`);
* `Conserving`: a server with a number of places looks at the first `limit` that still wait, takes
  the first one it may and looks again; the waiting list for which it ends with no place left or
  nobody waiting whom it may take.
-/

namespace Lib

section Stable
variable {α κ : Type} [LinearOrder κ] (key : α → κ) {lt : α → α → Prop} {l : List α}

lemma pairwise_orderedInsert_lex {a : α} (ha : ∀ b ∈ l, lt a b)
    (h : l.Pairwise fun x y => key x < key y ∨ key x = key y ∧ lt x y) :
    (l.orderedInsert (fun x y => key x ≤ key y) a).Pairwise
      fun x y => key x < key y ∨ key x = key y ∧ lt x y := by
  induction l with
  | nil => exact List.pairwise_singleton _ _
  | cons b l ih =>
    have hb := List.pairwise_cons.1 h
    rw [List.orderedInsert_cons]
    split_ifs with hab
    · refine List.pairwise_cons.2 ⟨?_, h⟩
      intro c hc
      have hkey : key a ≤ key c := by
        rcases List.mem_cons.1 hc with rfl | hc
        · exact hab
        · rcases hb.1 c hc with hlt | ⟨heq, -⟩
          · exact hab.trans hlt.le
          · exact hab.trans heq.le
      rcases hkey.lt_or_eq with hlt | heq
      · exact Or.inl hlt
      · exact Or.inr ⟨heq, ha c hc⟩
    · refine List.pairwise_cons.2 ⟨?_, ih (fun c hc => ha c (List.mem_cons_of_mem _ hc)) hb.2⟩
      intro c hc
      rcases (List.mem_orderedInsert _).1 hc with rfl | hc
      · exact Or.inl (not_le.1 hab)
      · exact hb.1 c hc

lemma pairwise_insertionSort_lex (h : l.Pairwise lt) :
    (l.insertionSort fun x y => key x ≤ key y).Pairwise
      fun x y => key x < key y ∨ key x = key y ∧ lt x y := by
  induction l with
  | nil => exact List.Pairwise.nil
  | cons a l ih =>
    obtain ⟨ha, hl⟩ := List.pairwise_cons.1 h
    rw [List.insertionSort_cons]
    refine pairwise_orderedInsert_lex key ?_ (ih hl)
    intro b hb
    exact ha b ((List.mem_insertionSort _).1 hb)

lemma insertionSort_filter (hlt : ∀ a b, lt a b → ¬lt b a) (h : l.Pairwise lt) (p : α → Bool) :
    (l.filter p).insertionSort (fun x y => key x ≤ key y) =
      (l.insertionSort fun x y => key x ≤ key y).filter p := by
  have hperm : ((l.filter p).insertionSort fun x y => key x ≤ key y).Perm
      ((l.insertionSort fun x y => key x ≤ key y).filter p) :=
    (List.perm_insertionSort _ _).trans ((List.perm_insertionSort _ l).filter p).symm
  refine hperm.eq_of_pairwise ?_ (pairwise_insertionSort_lex key (h.filter p))
    ((pairwise_insertionSort_lex key h).filter p)
  intro a b _ _ hab hba
  rcases hab with hab | ⟨heq, hab⟩
  · rcases hba with hba | ⟨heq, -⟩
    · exact absurd hba hab.asymm
    · exact absurd heq hab.ne'
  · rcases hba with hba | ⟨-, hba⟩
    · exact absurd heq hba.ne'
    · exact absurd hba (hlt a b hab)

end Stable

/-! ## serving under a limit -/

section Conserving
variable {α : Type} (limit : ℕ) (may fits : α → Bool)

/-- with `n` places and `skipped` in front whom the server may not take: whom it may take stands
within the limit, and if taking fails there is nobody else. -/
def Conserving : ℕ → ℕ → List α → Prop
  | 0, _, _ => True
  | _ + 1, _, [] => True
  | n + 1, skipped, x :: rest =>
    if may x then
      skipped < limit ∧ if fits x then Conserving n skipped rest else ∀ y ∈ rest, may y = false
    else Conserving (n + 1) (skipped + 1) rest

instance (n skipped : ℕ) (l : List α) : Decidable (Conserving limit may fits n skipped l) :=
  match n, l with
  | 0, _ => isTrue (by rw [Conserving]; trivial)
  | _ + 1, [] => isTrue trivial
  | n + 1, x :: rest =>
    have := instDecidableConserving n skipped rest
    have := instDecidableConserving (n + 1) (skipped + 1) rest
    inferInstanceAs (Decidable (if may x then
      skipped < limit ∧ if fits x then Conserving limit may fits n skipped rest
        else ∀ y ∈ rest, may y = false
      else Conserving limit may fits (n + 1) (skipped + 1) rest))

variable {limit may fits} {n skipped : ℕ} {front rest l : List α} {x : α}

lemma conserving_skip (h : ∀ y ∈ front, may y = false) :
    Conserving limit may fits n skipped (front ++ rest) ↔
      Conserving limit may fits n (skipped + front.length) rest := by
  cases n with
  | zero => exact Iff.of_eq (by rw [Conserving, Conserving])
  | succ n =>
    induction front generalizing skipped with
    | nil => exact Iff.rfl
    | cons y front ih =>
      have hy : may y = false := h y (List.mem_cons_self ..)
      rw [List.cons_append, Conserving, hy, if_neg Bool.false_ne_true,
        ih fun z hz => h z (List.mem_cons_of_mem _ hz), List.length_cons]
      rw [Nat.add_assoc, Nat.add_comm 1]

lemma conserving_zero : Conserving limit may fits 0 skipped l := by
  rw [Conserving]
  trivial

lemma conserving_nil : Conserving limit may fits n skipped [] := by
  cases n with
  | zero => trivial
  | succ n => trivial

lemma conserving_map {β : Type} {may' fits' : β → Bool} (f : β → α) {m : List β}
    (h : ∀ y ∈ m, may' y = may (f y) ∧ fits' y = fits (f y)) :
    Conserving limit may' fits' n skipped m ↔ Conserving limit may fits n skipped (m.map f) := by
  induction m generalizing n skipped with
  | nil => exact ⟨fun _ => conserving_nil, fun _ => conserving_nil⟩
  | cons y m ih =>
    cases n with
    | zero => exact ⟨fun _ => conserving_zero, fun _ => conserving_zero⟩
    | succ n =>
      obtain ⟨hmay, hfits⟩ := h y (List.mem_cons_self ..)
      have hrest := fun z hz => h z (List.mem_cons_of_mem _ hz)
      have hstop : (∀ z ∈ m, may' z = false) ↔ ∀ z ∈ m.map f, may z = false := by
        rw [List.forall_mem_map]
        exact forall₂_congr fun z hz => by rw [(hrest z hz).1]
      rw [List.map_cons, Conserving, Conserving, hmay, hfits, ih hrest, ih hrest, hstop]

lemma conserving_blind (h : ∀ y ∈ l.take limit, may y = false) :
    Conserving limit may fits (n + 1) 0 l ↔ ∀ y ∈ l, may y = false := by
  have hsplit : Conserving limit may fits (n + 1) 0 l ↔
      Conserving limit may fits (n + 1) (l.take limit).length (l.drop limit) := by
    conv_lhs => rw [← List.take_append_drop limit l]
    rw [conserving_skip h, Nat.zero_add]
  rw [hsplit]
  have hrest : ∀ m, m = limit ∨ l.drop limit = [] →
      (Conserving limit may fits (n + 1) m (l.drop limit) ↔
        ∀ y ∈ l.drop limit, may y = false) := by
    intro m hm
    have hgen : ∀ (q : List α) (m : ℕ), limit ≤ m →
        (Conserving limit may fits (n + 1) m q ↔ ∀ y ∈ q, may y = false) := by
      intro q
      induction q with
      | nil =>
        intro m _
        exact ⟨fun _ => nofun, fun _ => conserving_nil⟩
      | cons y q ih =>
        intro m hm
        rw [Conserving, List.forall_mem_cons]
        cases hy : may y with
        | false =>
          rw [if_neg Bool.false_ne_true, ih (m + 1) (by omega)]
          exact (and_iff_right rfl).symm
        | true =>
          rw [if_pos rfl]
          constructor
          · intro hlt
            omega
          · intro hno
            cases hno.1
    rcases hm with hm | hnil
    · exact hgen _ m hm.ge
    · rw [hnil]
      exact ⟨fun _ => nofun, fun _ => conserving_nil⟩
  rw [hrest]
  · constructor
    · intro hdrop y hy
      rw [← List.take_append_drop limit l, List.mem_append] at hy
      rcases hy with hy | hy
      · exact h y hy
      · exact hdrop y hy
    · intro hall y hy
      exact hall y (List.mem_of_mem_drop hy)
  · rw [List.length_take]
    rcases Nat.le_total limit l.length with hle | hle
    · exact Or.inl (Nat.min_eq_left hle)
    · exact Or.inr (List.drop_eq_nil_of_le hle)

lemma conserving_take (h : ∀ y ∈ front, may y = false) (hlen : front.length < limit)
    (hx : may x = true) (hfit : fits x = true) :
    Conserving limit may fits (n + 1) 0 (front ++ x :: rest) ↔
      Conserving limit may fits n 0 (front ++ rest) := by
  rw [conserving_skip h, conserving_skip h, Nat.zero_add, Conserving, hx, hfit, if_pos rfl,
    if_pos rfl]
  exact and_iff_right hlen

lemma conserving_stop (h : ∀ y ∈ front, may y = false) (hlen : front.length < limit)
    (hx : may x = true) (hfit : fits x = false) :
    Conserving limit may fits (n + 1) 0 (front ++ x :: rest) ↔
      ∀ y ∈ front ++ rest, may y = false := by
  rw [conserving_skip h, Nat.zero_add, Conserving, hx, hfit, if_pos rfl,
    if_neg Bool.false_ne_true, List.forall_mem_append]
  constructor
  · intro hstop
    exact ⟨h, hstop.2⟩
  · intro hall
    exact ⟨hlen, hall.2⟩

end Conserving

namespace Table
variable {α : Type} (t : Table α)

lemma count_eq_card (p : ℕ → α → Bool) :
    t.count p = ((Finset.range t.next).filter fun i => (t.get? i).any (p i) = true).card := by
  have hkeys : ((t.select p).map Prod.fst).toFinset =
      (Finset.range t.next).filter fun i => (t.get? i).any (p i) = true := by
    ext i
    rw [List.mem_toFinset, List.mem_map, Finset.mem_filter, Finset.mem_range, Option.any_eq_true]
    constructor
    · rintro ⟨⟨j, a⟩, hmem, rfl⟩
      obtain ⟨hrow, hp⟩ := t.mem_select.1 hmem
      exact ⟨lt_next hrow, a, hrow, hp⟩
    · rintro ⟨-, a, hrow, hp⟩
      exact ⟨(i, a), t.mem_select.2 ⟨hrow, hp⟩, rfl⟩
  rw [← hkeys, List.toFinset_card_of_nodup (t.nodup_keys_select p), List.length_map]
  rfl

end Table

end Lib
