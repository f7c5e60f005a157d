import NexusHelpdesk.Lib.Table

/-!
# Tables that only grow

`Table.Appends t u`: the rows of `t` are in `u` as they were, and `u` may have more of them.
`Appends.select`: **a query answers what it answered before, followed by the new rows.**
-/

namespace Lib
namespace Table

variable {α : Type}

structure Appends (t u : Table α) : Prop where
  next : t.next ≤ u.next
  rows : ∀ i, i < t.next → u.get? i = t.get? i

variable {t u v : Table α}

lemma Appends.refl (t : Table α) : Appends t t := ⟨le_rfl, fun _ _ => rfl⟩

lemma Appends.trans (h : Appends t u) (h' : Appends u v) : Appends t v :=
  ⟨h.next.trans h'.next,
    fun i hi => (h'.rows i (hi.trans_le h.next)).trans (h.rows i hi)⟩

lemma appends_insert (t : Table α) (a : α) : Appends t (t.insert a) :=
  ⟨Nat.le_succ _, fun i hi => get?_insert_of_ne _ a hi.ne⟩

lemma Appends.rows_eq (h : Appends t u) :
    u.rows = t.rows ++ u.rows.filter fun r => decide (t.next ≤ r.1) := by
  obtain ⟨n, hn⟩ := Nat.exists_eq_add_of_le h.next
  have hsplit : u.rows = t.rows ++ ((List.range n).map (t.next + ·)).filterMap
      fun i => (u.row i).map fun a => (i, a) := by
    unfold Table.rows
    rw [hn, List.range_add, List.filterMap_append]
    congr 1
    apply List.filterMap_congr
    intro i hi
    have hrow : u.row i = t.row i := h.rows i (List.mem_range.1 hi)
    rw [hrow]
  have hold : t.rows.filter (fun r => decide (t.next ≤ r.1)) = [] := by
    rw [List.filter_eq_nil_iff]
    intro r hr hle
    have hlt := lt_next ((mem_rows t).1 hr)
    have := of_decide_eq_true hle
    omega
  have hnew : ∀ r ∈ ((List.range n).map (t.next + ·)).filterMap
      (fun i => (u.row i).map fun a => (i, a)), decide (t.next ≤ r.1) = true := by
    intro r hr
    obtain ⟨i, hi, hrow⟩ := List.mem_filterMap.1 hr
    obtain ⟨j, -, rfl⟩ := List.mem_map.1 hi
    obtain ⟨a, -, rfl⟩ := Option.map_eq_some_iff.1 hrow
    exact decide_eq_true (Nat.le_add_right _ _)
  rw [hsplit, List.filter_append, hold, List.nil_append, List.filter_eq_self.2 hnew]

lemma Appends.select (h : Appends t u) (p : ℕ → α → Bool) :
    u.select p = t.select p ++ u.select fun i a => p i a && decide (t.next ≤ i) := by
  unfold Table.select
  rw [h.rows_eq, List.filter_append, ← h.rows_eq, List.filter_filter]

end Table
end Lib
