import NexusHelpdesk.Lib.Table

/-!
# Appending once per key

Rows that carry an idempotency key: the first append under a key inserts the row, a later one
finds it and is refused unless the row is the same.

* `Table.appendOnce`: the append; `AppendOnce` says what it does;
* `Table.KeysDistinct`: no two rows have one key, which an append keeps;
* `Table.latest p`: the last inserted row that satisfies `p`.
-/

set_option linter.unusedSectionVars false
namespace Lib
namespace Table

section Once
variable {α κ : Type} [DecidableEq κ] (key : α → κ) (same : α → α → Bool)

/-- the append of `a` under its key; `none` is a conflict. -/
def appendOnce (t : Table α) (a : α) : Option (Table α) :=
  match (t.select fun _ r => key r = key a).head? with
  | some (i, r) => if same r a then some t else none
  | none => some (t.insert a)

inductive AppendOnce (t : Table α) (a : α) : Option (Table α) → Prop
  | inserted (hnew : ∀ i r, t.get? i = some r → key r ≠ key a) :
      AppendOnce t a (some (t.insert a))
  | found (i : ℕ) (r : α) (hr : t.get? i = some r) (hkey : key r = key a)
      (hsame : same r a = true) : AppendOnce t a (some t)
  | conflict (i : ℕ) (r : α) (hr : t.get? i = some r) (hkey : key r = key a)
      (hdiff : same r a = false) : AppendOnce t a none

lemma appendOnce_spec (t : Table α) (a : α) :
    AppendOnce key same t a (t.appendOnce key same a) := by
  unfold appendOnce
  cases hhead : (t.select fun _ r => decide (key r = key a)).head? with
  | none =>
    have hnil := List.head?_eq_none_iff.1 hhead
    refine .inserted ?_
    intro i r hr hkey
    have hmem : (i, r) ∈ t.select fun _ r => decide (key r = key a) :=
      (t.mem_select).2 ⟨hr, decide_eq_true hkey⟩
    rw [hnil] at hmem
    cases hmem
  | some x =>
    obtain ⟨i, r⟩ := x
    have hmem := List.mem_of_head? hhead
    obtain ⟨hr, hkey⟩ := (t.mem_select).1 hmem
    dsimp only
    cases hsame : same r a with
    | true => exact .found i r hr (of_decide_eq_true hkey) hsame
    | false => exact .conflict i r hr (of_decide_eq_true hkey) hsame

def KeysDistinct (t : Table α) : Prop :=
  ∀ i j r s, t.get? i = some r → t.get? j = some s → key r = key s → i = j

variable {key same}

lemma keysDistinct_empty : KeysDistinct key (empty : Table α) := by
  intro i j r s hr
  cases hr

lemma KeysDistinct.insert {t : Table α} {a : α} (h : KeysDistinct key t)
    (hnew : ∀ i r, t.get? i = some r → key r ≠ key a) : KeysDistinct key (t.insert a) := by
  intro i j r s hr hs hkey
  rw [get?_insert] at hr hs
  by_cases hi : i = t.next
  · by_cases hj : j = t.next
    · rw [hi, hj]
    · rw [if_pos hi] at hr
      rw [if_neg hj] at hs
      cases hr
      exact absurd hkey.symm (hnew j s hs)
  · rw [if_neg hi] at hr
    by_cases hj : j = t.next
    · rw [if_pos hj] at hs
      cases hs
      exact absurd hkey (hnew i r hr)
    · rw [if_neg hj] at hs
      exact h i j r s hr hs hkey

end Once

section Latest
variable {α : Type} (t : Table α) (p : ℕ → α → Bool)

/-- the last inserted row that satisfies `p`. -/
def latest : Option (ℕ × α) := (t.select p).getLast?

lemma latest_insert (a : α) :
    (t.insert a).latest p = if p t.next a then some (t.next, a) else t.latest p := by
  unfold latest
  rw [select_insert]
  by_cases hp : p t.next a
  · rw [if_pos hp, if_pos hp, List.getLast?_concat]
  · rw [if_neg hp, if_neg hp, List.append_nil]

variable {t p} {i : ℕ} {a : α}

lemma get?_of_latest (h : t.latest p = some (i, a)) : t.get? i = some a ∧ p i a = true :=
  (t.mem_select).1 (List.mem_of_getLast? h)

lemma le_of_latest {j : ℕ} {b : α} (h : t.latest p = some (i, a)) (hb : t.get? j = some b)
    (hp : p j b = true) : j ≤ i := by
  have hmem : (j, b) ∈ t.select p := (t.mem_select).2 ⟨hb, hp⟩
  obtain ⟨front, hfront⟩ := List.getLast?_eq_some_iff.1 h
  have hsorted := t.pairwise_select p
  rw [hfront] at hmem hsorted
  rcases List.mem_append.1 hmem with hin | hlast
  · have hbefore := (List.pairwise_append.1 hsorted).2.2 (j, b) hin (i, a) (List.mem_singleton_self _)
    exact hbefore.le
  · obtain ⟨rfl, rfl⟩ := Prod.mk.inj (List.mem_singleton.1 hlast)
    exact le_refl _

lemma latest_eq_none : t.latest p = none ↔ ∀ j b, t.get? j = some b → p j b = false := by
  unfold latest
  rw [List.getLast?_eq_none_iff]
  constructor
  · intro hnil j b hb
    by_contra hp
    have hmem : (j, b) ∈ t.select p := (t.mem_select).2 ⟨hb, eq_true_of_ne_false hp⟩
    rw [hnil] at hmem
    cases hmem
  · intro hall
    refine List.eq_nil_iff_forall_not_mem.2 ?_
    rintro ⟨j, b⟩ hmem
    obtain ⟨hb, hp⟩ := (t.mem_select).1 hmem
    rw [hall j b hb] at hp
    cases hp

end Latest

end Table
end Lib
