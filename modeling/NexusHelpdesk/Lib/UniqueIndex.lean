import NexusHelpdesk.Lib.Table

/-!
# Updates under a unique index

Rows are rewritten one after the other, in the order of their ids, and a database refuses a row
whose key another row has at that moment.

* `updateEach`: the rows with the given ids are rewritten;
* `FreshKeys`: no row gets a key that another row has when it is written.

`updateEach_eq_some`: **the rows are all rewritten exactly if their keys are fresh**.
-/

namespace Lib
namespace Table

section Index
variable {α κ : Type} [DecidableEq κ] (key : α → κ) (f : ℕ → α → α)

def taken (t : Table α) (i : ℕ) (k : κ) : Bool := t.rows.any fun r => r.1 ≠ i && key r.2 = k

/-- rows `is` become `f` of them, under the index. -/
def updateEach : List ℕ → Table α → Option (Table α)
  | [], t => some t
  | i :: is, t =>
    match t.get? i with
    | none => updateEach is t
    | some a => if taken key t i (key (f i a)) then none else updateEach is (t.modify i (f i))

/-- row `j` when row `i` is written. -/
def whenWritten (ids : List ℕ) (i j : ℕ) (b : α) : α := if j ∈ ids ∧ j < i then f j b else b

def FreshKeys (ids : List ℕ) (t : Table α) : Prop :=
  ∀ i ∈ ids, ∀ a, t.get? i = some a → ∀ j b, t.get? j = some b → j ≠ i →
    key (whenWritten f ids i j b) ≠ key (f i a)

/-- rows `ids` become `f` of them. -/
def updated (ids : List ℕ) (t : Table α) : Table α :=
  t.mapRows fun i a => if i ∈ ids then f i a else a

variable {key f} {t t' : Table α} {i : ℕ} {is : List ℕ} {a : α}

lemma taken_eq_false {k : κ} :
    taken key t i k = false ↔ ∀ j b, t.get? j = some b → j ≠ i → key b ≠ k := by
  unfold taken
  rw [List.any_eq_false]
  constructor
  · intro h j b hrow hne hkey
    refine h (j, b) (t.mem_rows.2 hrow) ?_
    rw [Bool.and_eq_true_iff]
    exact ⟨decide_eq_true hne, decide_eq_true hkey⟩
  · rintro h ⟨j, b⟩ hmem htrue
    obtain ⟨hne, hkey⟩ := Bool.and_eq_true_iff.1 htrue
    exact h j b (t.mem_rows.1 hmem) (of_decide_eq_true hne) (of_decide_eq_true hkey)

lemma updated_nil : updated f [] t = t := by
  unfold updated
  ext j : 1
  · rfl
  · rw [get?_mapRows]
    cases t.get? j with
    | none => rfl
    | some b => rfl

lemma updated_cons (hi : i ∉ is) : updated f is (t.modify i (f i)) = updated f (i :: is) t := by
  unfold updated
  ext j : 1
  · rfl
  · rw [get?_mapRows, get?_mapRows, get?_modify]
    cases hrow : t.get? j with
    | none => rw [Option.map_none, ite_self]; rfl
    | some b =>
      by_cases hj : j = i
      · subst hj
        rw [if_pos rfl, Option.map_some, Option.map_some, Option.map_some, if_neg hi,
          if_pos (List.mem_cons_self ..)]
      · rw [if_neg hj, Option.map_some, Option.map_some]
        by_cases hmem : j ∈ is
        · rw [if_pos hmem, if_pos (List.mem_cons_of_mem _ hmem)]
        · rw [if_neg hmem, if_neg]
          intro hc
          exact (List.mem_cons.1 hc).elim hj hmem

lemma whenWritten_head (hlt : ∀ j ∈ is, i < j) (j : ℕ) (b : α) :
    whenWritten f (i :: is) i j b = b := by
  unfold whenWritten
  rw [if_neg]
  rintro ⟨hmem, hji⟩
  rcases List.mem_cons.1 hmem with rfl | hmem
  · exact lt_irrefl _ hji
  · exact lt_asymm hji (hlt j hmem)

lemma whenWritten_tail {j k : ℕ} {b : α} (hj : j ≠ i) :
    whenWritten f (i :: is) k j b = whenWritten f is k j b := by
  unfold whenWritten
  by_cases hc : j ∈ is ∧ j < k
  · rw [if_pos hc, if_pos ⟨List.mem_cons_of_mem _ hc.1, hc.2⟩]
  · rw [if_neg hc, if_neg]
    rintro ⟨hmem, hlt⟩
    exact hc ⟨(List.mem_cons.1 hmem).resolve_left hj, hlt⟩

lemma whenWritten_first {k : ℕ} {b : α} (hk : i < k) :
    whenWritten f (i :: is) k i b = f i b := if_pos ⟨List.mem_cons_self .., hk⟩

lemma whenWritten_of_notMem {j k : ℕ} {b : α} (hj : j ∉ is) : whenWritten f is k j b = b :=
  if_neg fun hc => hj hc.1

lemma freshKeys_cons (hrow : t.get? i = some a) (hlt : ∀ j ∈ is, i < j) :
    FreshKeys key f (i :: is) t ↔
      taken key t i (key (f i a)) = false ∧ FreshKeys key f is (t.modify i (f i)) := by
  have hi : i ∉ is := fun hmem => lt_irrefl i (hlt i hmem)
  rw [taken_eq_false]
  constructor
  · intro h
    constructor
    · intro j b hb hne
      have hkey := h i (List.mem_cons_self ..) a hrow j b hb hne
      rwa [whenWritten_head hlt] at hkey
    · intro k hk c hc j b hb hne
      have hki : k ≠ i := fun hki => hi (hki ▸ hk)
      rw [get?_modify_of_ne _ _ hki] at hc
      by_cases hji : j = i
      · subst hji
        rw [get?_modify_self, hrow] at hb
        cases hb
        have hkey := h k (List.mem_cons_of_mem _ hk) c hc j a hrow hne
        rw [whenWritten_first (hlt k hk)] at hkey
        rwa [whenWritten_of_notMem hi]
      · rw [get?_modify_of_ne _ _ hji] at hb
        have hkey := h k (List.mem_cons_of_mem _ hk) c hc j b hb hne
        rwa [whenWritten_tail hji] at hkey
  · rintro ⟨hhead, htail⟩ k hk c hc j b hb hne
    rcases List.mem_cons.1 hk with rfl | hkis
    · rw [hrow] at hc
      cases hc
      rw [whenWritten_head hlt]
      exact hhead j b hb hne
    · have hki : k ≠ i := fun hki => hi (hki ▸ hkis)
      have hrowk : (t.modify i (f i)).get? k = some c := by rwa [get?_modify_of_ne _ _ hki]
      by_cases hji : j = i
      · subst hji
        rw [hrow] at hb
        cases hb
        have hrowj : (t.modify j (f j)).get? j = some (f j a) := by rw [get?_modify_self, hrow]; rfl
        have hkey := htail k hkis c hrowk j (f j a) hrowj hne
        rw [whenWritten_of_notMem hi] at hkey
        rwa [whenWritten_first (hlt k hkis)]
      · have hrowj : (t.modify i (f i)).get? j = some b := by rwa [get?_modify_of_ne _ _ hji]
        rw [whenWritten_tail hji]
        exact htail k hkis c hrowk j b hrowj hne

omit [DecidableEq κ] in
lemma freshKeys_cons_none (hrow : t.get? i = none) :
    FreshKeys key f (i :: is) t ↔ FreshKeys key f is t := by
  have hne : ∀ j b, t.get? j = some b → j ≠ i := by
    rintro j b hb rfl
    rw [hrow] at hb
    cases hb
  constructor
  · intro h k hk c hc j b hb hjk
    have hkey := h k (List.mem_cons_of_mem _ hk) c hc j b hb hjk
    rwa [whenWritten_tail (hne j b hb)] at hkey
  · intro h k hk c hc j b hb hjk
    rw [whenWritten_tail (hne j b hb)]
    refine h k ((List.mem_cons.1 hk).resolve_left (hne k c hc)) c hc j b hb hjk

lemma updated_cons_none (hrow : t.get? i = none) : updated f (i :: is) t = updated f is t := by
  unfold updated
  ext j : 1
  · rfl
  · rw [get?_mapRows, get?_mapRows]
    cases hb : t.get? j with
    | none => rfl
    | some b =>
      have hne : j ≠ i := by
        rintro rfl
        rw [hrow] at hb
        cases hb
      rw [Option.map_some, Option.map_some]
      by_cases hmem : j ∈ is
      · rw [if_pos hmem, if_pos (List.mem_cons_of_mem _ hmem)]
      · rw [if_neg hmem, if_neg]
        intro hc
        exact (List.mem_cons.1 hc).elim hne hmem

theorem updateEach_eq_some (hids : is.Pairwise (· < ·)) :
    updateEach key f is t = some t' ↔ FreshKeys key f is t ∧ t' = updated f is t := by
  induction is generalizing t with
  | nil =>
    rw [updated_nil]
    constructor
    · intro h
      cases h
      refine ⟨?_, rfl⟩
      intro i hi
      cases hi
    · rintro ⟨-, rfl⟩
      rfl
  | cons i is ih =>
    obtain ⟨hlt, htail⟩ := List.pairwise_cons.1 hids
    have hi : i ∉ is := fun hmem => lt_irrefl i (hlt i hmem)
    unfold updateEach
    cases hrow : t.get? i with
    | none => rw [freshKeys_cons_none hrow, updated_cons_none hrow]; exact ih htail
    | some a =>
      rw [freshKeys_cons hrow hlt, ← updated_cons hi, and_assoc, ← ih htail]
      dsimp only
      cases htaken : taken key t i (key (f i a)) with
      | true =>
        rw [if_pos rfl]
        constructor
        · intro h
          cases h
        · rintro ⟨h, -⟩
          cases h
      | false =>
        rw [if_neg Bool.false_ne_true]
        exact ⟨fun h => ⟨rfl, h⟩, fun h => h.2⟩

lemma pairwise_ids (p : ℕ → α → Bool) : ((t.select p).map Prod.fst).Pairwise (· < ·) :=
  List.Pairwise.map _ (fun _ _ h => h) (t.pairwise_select p)

end Index

end Table
end Lib
