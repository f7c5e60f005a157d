import Mathlib

/-!
# Directories

A directory is a finite map from names to contents: a file is written as a whole, replacing what was
under its name, or removed.

* `Dir.get?`, `Dir.write`, `Dir.remove`, `Dir.names`: the operations;
* `get?_write`, `get?_remove`: what is under each name afterwards;
* `mem_entries`, `mem_names`: what a loop over the files meets;
* `Dir.ofList`: a list of contents written in turn.
-/

namespace Lib

/-- the files of a directory, each name once. -/
structure Dir (κ α : Type) where
  entries : List (κ × α)
  nodup : (entries.map Prod.fst).Nodup

namespace Dir

section Ops
variable {κ α : Type} [DecidableEq κ]

def empty : Dir κ α := ⟨[], List.nodup_nil⟩

def get? (d : Dir κ α) (k : κ) : Option α := (d.entries.find? fun e => e.1 = k).map (·.2)

def names (d : Dir κ α) : List κ := d.entries.map Prod.fst

def remove (d : Dir κ α) (k : κ) : Dir κ α where
  entries := d.entries.filter fun e => e.1 ≠ k
  nodup := d.nodup.sublist (List.Sublist.map Prod.fst List.filter_sublist)

def write (d : Dir κ α) (k : κ) (a : α) : Dir κ α where
  entries := (k, a) :: (d.remove k).entries
  nodup := by
    rw [List.map_cons, List.nodup_cons]
    refine ⟨?_, (d.remove k).nodup⟩
    intro hmem
    obtain ⟨e, he, hek⟩ := List.mem_map.1 hmem
    unfold remove at he
    have hne := (List.mem_filter.1 he).2
    simp only [ne_eq, decide_eq_true_eq] at hne
    exact hne hek

@[simp] lemma get?_empty (k : κ) : (empty : Dir κ α).get? k = none := rfl

lemma get?_remove (d : Dir κ α) (k j : κ) :
    (d.remove k).get? j = if j = k then none else d.get? j := by
  unfold get? remove
  dsimp only
  rw [List.find?_filter]
  by_cases hj : j = k
  · subst hj
    rw [if_pos rfl, Option.map_eq_none_iff, List.find?_eq_none]
    intro e _
    simp
  · rw [if_neg hj]
    congr 1
    apply List.find?_congr
    intro e _
    by_cases he : e.1 = j
    · simp [he, hj]
    · simp [he]

lemma get?_write (d : Dir κ α) (k j : κ) (a : α) :
    (d.write k a).get? j = if j = k then some a else d.get? j := by
  have hcons : (d.write k a).get? j =
      if k = j then some a else (d.remove k).get? j := by
    unfold get? write
    dsimp only
    rw [List.find?_cons]
    by_cases hk : k = j
    · simp [hk]
    · simp [hk]
  rw [hcons, get?_remove]
  by_cases hj : j = k
  · rw [if_pos hj.symm, if_pos hj]
  · rw [if_neg (Ne.symm hj), if_neg hj, if_neg hj]

variable {k : κ} {a : α} {l : List (κ × α)}

lemma mem_entries (d : Dir κ α) : (k, a) ∈ d.entries ↔ d.get? k = some a := by
  unfold get?
  constructor
  · intro h
    have hfind : d.entries.find? (fun e => e.1 = k) = some (k, a) := by
      cases hf : d.entries.find? (fun e => e.1 = k) with
      | none =>
        have hne := List.find?_eq_none.1 hf (k, a) h
        simp at hne
      | some e =>
        have hk : e.1 = k := by simpa using List.find?_some hf
        rw [List.inj_on_of_nodup_map d.nodup (List.mem_of_find?_eq_some hf) h hk]
    rw [hfind]
    rfl
  · intro h
    obtain ⟨e, he, rfl⟩ := Option.map_eq_some_iff.1 h
    have hk : e.1 = k := by simpa using List.find?_some he
    subst hk
    exact List.mem_of_find?_eq_some he

lemma mem_names (d : Dir κ α) : k ∈ d.names ↔ d.get? k ≠ none := by
  unfold names
  rw [List.mem_map]
  constructor
  · rintro ⟨e, he, rfl⟩
    rw [d.mem_entries.1 he]
    exact nofun
  · intro h
    obtain ⟨a, ha⟩ := Option.ne_none_iff_exists'.1 h
    exact ⟨(k, a), d.mem_entries.2 ha, rfl⟩

def ofList (l : List (κ × α)) : Dir κ α := l.foldl (fun d e => d.write e.1 e.2) empty

lemma mem_of_get?_foldl {d : Dir κ α}
    (h : (l.foldl (fun d e => d.write e.1 e.2) d).get? k = some a) :
    (k, a) ∈ l ∨ d.get? k = some a := by
  induction l generalizing d with
  | nil => exact Or.inr h
  | cons e l ih =>
    rcases ih h with hmem | hd
    · exact Or.inl (List.mem_cons_of_mem _ hmem)
    · rw [get?_write] at hd
      by_cases hk : k = e.1
      · rw [if_pos hk] at hd
        cases hd
        subst hk
        exact Or.inl (List.mem_cons_self ..)
      · rw [if_neg hk] at hd
        exact Or.inr hd

lemma get?_foldl_ne_none {d : Dir κ α} (h : (∃ a, (k, a) ∈ l) ∨ d.get? k ≠ none) :
    (l.foldl (fun d e => d.write e.1 e.2) d).get? k ≠ none := by
  induction l generalizing d with
  | nil =>
    rcases h with ⟨a, ha⟩ | hd
    · cases ha
    · exact hd
  | cons e l ih =>
    apply ih
    rw [get?_write]
    by_cases hk : k = e.1
    · rw [if_pos hk]
      exact Or.inr nofun
    · rw [if_neg hk]
      rcases h with ⟨a, ha⟩ | hd
      · rcases List.mem_cons.1 ha with rfl | hmem
        · exact absurd rfl hk
        · exact Or.inl ⟨a, hmem⟩
      · exact Or.inr hd

lemma mem_of_get?_ofList (h : (ofList l).get? k = some a) :
    (k, a) ∈ l := by
  rcases mem_of_get?_foldl h with hmem | hnone
  · exact hmem
  · cases hnone

lemma get?_ofList_ne_none (h : (k, a) ∈ l) :
    (ofList l).get? k ≠ none := get?_foldl_ne_none (Or.inl ⟨a, h⟩)

end Ops

end Dir
end Lib
