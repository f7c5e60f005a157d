import NexusHelpdesk.Lib.Table

/-!
# Batches of due rows

A worker takes the first `k` rows, in some total order, among those that satisfy a filter, and
updates each of them.

* `earlier f`: the order by an instant of the row, then by its key;
* `Table.ordered r p`: the rows that satisfy `p`, in the order `r`;
* `Table.batch r p k`: the keys of the first `k` of them;
* `Table.modifyAll`: the loop over the keys of a batch;
* `Table.mem_batch_or_full`: **a row that satisfies the filter is in the batch, or the batch is full
  of rows that come before it**.
-/

namespace Lib
namespace Table

/-- the order of `ORDER BY f, id`. -/
def earlier {α : Type} (f : α → ℤ) (a b : ℕ × α) : Prop :=
  f a.2 < f b.2 ∨ (f a.2 = f b.2 ∧ a.1 ≤ b.1)

instance {α : Type} (f : α → ℤ) : DecidableRel (earlier f) := fun a b =>
  inferInstanceAs (Decidable (_ ∨ _))

instance {α : Type} (f : α → ℤ) : Std.Total (earlier f) where
  total a b := by
    unfold earlier
    omega

instance {α : Type} (f : α → ℤ) : IsTrans (ℕ × α) (earlier f) where
  trans a b c hab hbc := by
    unfold earlier at *
    omega

section Batch
variable {α : Type} (t : Table α) (r : ℕ × α → ℕ × α → Prop) [DecidableRel r]

/-- the rows that satisfy `p`, in the order `r`. -/
def ordered (p : ℕ → α → Bool) : List (ℕ × α) := (t.select p).insertionSort r

/-- the keys of the first `k` rows that satisfy `p`, in the order `r`. -/
def batch (p : ℕ → α → Bool) (k : ℕ) : List ℕ := ((t.ordered r p).take k).map (·.1)

/-- the rows under the given keys become their images under `f`, one after the other. -/
def modifyAll (ids : List ℕ) (f : α → α) : Table α := ids.foldl (fun u i => u.modify i f) t

variable {t r} {p : ℕ → α → Bool} {k : ℕ} {i : ℕ} {a : α}

lemma get?_modifyAll (t : Table α) {ids : List ℕ} (hids : ids.Nodup) (f : α → α) (j : ℕ) :
    (t.modifyAll ids f).get? j = if j ∈ ids then (t.get? j).map f else t.get? j := by
  unfold modifyAll
  induction ids generalizing t with
  | nil => simp
  | cons i ids ih =>
    obtain ⟨hi, hrest⟩ := List.nodup_cons.1 hids
    rw [List.foldl_cons, ih _ hrest, get?_modify]
    by_cases hj : j = i
    · subst hj
      simp [hi]
    · simp [hj]

lemma mem_ordered :
    (i, a) ∈ t.ordered r p ↔ t.get? i = some a ∧ p i a = true := by
  unfold ordered
  rw [List.mem_insertionSort, mem_select]

lemma nodup_keys_ordered : ((t.ordered r p).map (·.1)).Nodup := by
  have hperm : (t.ordered r p).Perm (t.select p) := List.perm_insertionSort r _
  exact (hperm.map _).nodup_iff.2 (t.nodup_keys_select p)

lemma nodup_batch : (t.batch r p k).Nodup := by
  have hsub : List.Sublist (((t.ordered r p).take k).map (·.1)) ((t.ordered r p).map (·.1)) :=
    (List.take_sublist k _).map _
  exact nodup_keys_ordered.sublist hsub

lemma mem_batch (h : i ∈ t.batch r p k) :
    ∃ a, t.get? i = some a ∧ p i a = true := by
  obtain ⟨x, hx, rfl⟩ := List.mem_map.1 h
  have hmem : (x.1, x.2) ∈ t.ordered r p := List.mem_of_mem_take hx
  exact ⟨x.2, mem_ordered.1 hmem⟩

lemma get?_modifyAll_batch (f : α → α) (j : ℕ) :
    (t.modifyAll (t.batch r p k) f).get? j =
      if j ∈ t.batch r p k then (t.get? j).map f else t.get? j :=
  t.get?_modifyAll nodup_batch f j

lemma mem_batch_or_full [Std.Total r] [IsTrans (ℕ × α) r] (hi : t.get? i = some a)
    (hp : p i a = true) :
    i ∈ t.batch r p k ∨
      ((t.batch r p k).length = k ∧ ∀ x ∈ (t.ordered r p).take k, r x (i, a)) := by
  have hmem : (i, a) ∈ t.ordered r p := mem_ordered.2 ⟨hi, hp⟩
  have hsorted : (t.ordered r p).Pairwise r := List.pairwise_insertionSort r _
  rw [← List.take_append_drop k (t.ordered r p)] at hmem hsorted
  rcases List.mem_append.1 hmem with htake | hdrop
  · left
    exact List.mem_map.2 ⟨(i, a), htake, rfl⟩
  · right
    constructor
    · have hlen : k ≤ (t.ordered r p).length := by
        by_contra hlt
        rw [List.drop_eq_nil_of_le (by omega)] at hdrop
        cases hdrop
      unfold batch
      rw [List.length_map, List.length_take]
      omega
    · intro x hx
      exact (List.pairwise_append.1 hsorted).2.2 x hx (i, a) hdrop

end Batch

end Table
end Lib
