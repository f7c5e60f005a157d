import Mathlib

/-!
# Tables with serial primary keys

A table is the content of one relation of a database whose primary key is a serial number: the
key the next insertion will take, and the row under each key.

* `Table.get?`, `Table.insert`, `Table.modify`, `Table.set`, `Table.mapRows`: the operations;
* `Table.rows`: all rows with their keys, in key order (what an unfiltered query returns);
* `Table.select p`: the rows that satisfy `p`, in key order;
* `Table.filter p`: the table without the other rows;
* `Table.count p`: how many of them there are.

The rewriting lemmas `get?_insert`, `get?_modify`, `get?_mapRows`, `mem_rows`, `count_modify` are
all a client needs: no proof outside this file unfolds a table.
-/

set_option linter.unusedSectionVars false
namespace Lib

/-- the content of one relation: `next` is the key of the next insertion. -/
structure Table (α : Type) where
  next : ℕ
  row : ℕ → Option α
  fresh : ∀ i, next ≤ i → row i = none

namespace Table

section Ops
variable {α β : Type}

def empty : Table α := ⟨1, fun _ => none, fun _ _ => rfl⟩

def get? (t : Table α) (i : ℕ) : Option α := t.row i

@[ext] lemma ext_get? {t u : Table α} (hn : t.next = u.next) (h : ∀ i, t.get? i = u.get? i) :
    t = u := by
  obtain ⟨n, r, hr⟩ := t
  obtain ⟨m, s, hs⟩ := u
  have hrs : r = s := funext h
  simp only at hn
  subst hn hrs
  rfl

lemma get?_eq_none_of_le (t : Table α) {i : ℕ} (h : t.next ≤ i) : t.get? i = none := t.fresh i h

lemma lt_next {t : Table α} {i : ℕ} {a : α} (h : t.get? i = some a) : i < t.next := by
  by_contra hi
  rw [t.get?_eq_none_of_le (by omega)] at h
  cases h

def insert (t : Table α) (a : α) : Table α where
  next := t.next + 1
  row := fun i => if i = t.next then some a else t.row i
  fresh := fun i hi => by
    rw [if_neg (by omega)]
    exact t.fresh i (by omega)

/-- every row `a` under key `i` becomes `f i a`. -/
def mapRows (t : Table α) (f : ℕ → α → β) : Table β where
  next := t.next
  row := fun i => (t.row i).map (f i)
  fresh := fun i hi => by rw [t.fresh i hi]; rfl

/-- the row under key `i`, if there is one, becomes its image under `f`. -/
def modify (t : Table α) (i : ℕ) (f : α → α) : Table α where
  next := t.next
  row := fun j => if j = i then (t.row j).map f else t.row j
  fresh := fun j hj => by rw [t.fresh j hj]; simp

/-- the row under key `i`, if there is one, becomes `a`. -/
def set (t : Table α) (i : ℕ) (a : α) : Table α := t.modify i fun _ => a

/-- all rows with their keys, in key order. -/
def rows (t : Table α) : List (ℕ × α) :=
  (List.range t.next).filterMap fun i => (t.row i).map fun a => (i, a)

/-- the rows that satisfy `p`, in key order. -/
def select (t : Table α) (p : ℕ → α → Bool) : List (ℕ × α) := t.rows.filter fun r => p r.1 r.2

/-- the table without the rows that do not satisfy `p`. -/
def filter (t : Table α) (p : ℕ → α → Bool) : Table α where
  next := t.next
  row := fun i => (t.row i).filter (p i)
  fresh := fun i hi => by rw [t.fresh i hi]; rfl

/-- the number of rows that satisfy `p`. -/
def count (t : Table α) (p : ℕ → α → Bool) : ℕ := (t.select p).length

end Ops

section Lemmas
variable {α β : Type} (t : Table α)

@[simp] lemma get?_empty (i : ℕ) : (empty : Table α).get? i = none := rfl
@[simp] lemma next_insert (a : α) : (t.insert a).next = t.next + 1 := rfl
@[simp] lemma next_modify (i : ℕ) (f : α → α) : (t.modify i f).next = t.next := rfl

lemma get?_insert (a : α) (i : ℕ) :
    (t.insert a).get? i = if i = t.next then some a else t.get? i := rfl

@[simp] lemma get?_insert_self (a : α) : (t.insert a).get? t.next = some a := by
  rw [get?_insert, if_pos rfl]

variable {i : ℕ} {a : α} {p : ℕ → α → Bool}

lemma get?_insert_of_ne (a : α) (h : i ≠ t.next) : (t.insert a).get? i = t.get? i := by
  rw [get?_insert, if_neg h]

lemma get?_insert_of_some {b : α} (h : t.get? i = some b) :
    (t.insert a).get? i = some b := by
  rw [get?_insert_of_ne t a (lt_next h).ne, h]

lemma get?_modify (i j : ℕ) (f : α → α) :
    (t.modify i f).get? j = if j = i then (t.get? j).map f else t.get? j := rfl

@[simp] lemma get?_modify_self (i : ℕ) (f : α → α) :
    (t.modify i f).get? i = (t.get? i).map f := by
  rw [get?_modify, if_pos rfl]

lemma get?_modify_of_ne {j : ℕ} (f : α → α) (h : j ≠ i) :
    (t.modify i f).get? j = t.get? j := by
  rw [get?_modify, if_neg h]

lemma get?_set (i j : ℕ) (a : α) :
    (t.set i a).get? j = if j = i then (t.get? j).map (fun _ => a) else t.get? j := rfl

@[simp] lemma get?_mapRows (f : ℕ → α → β) (i : ℕ) :
    (t.mapRows f).get? i = (t.get? i).map (f i) := rfl

lemma mapRows_modify (i : ℕ) (f : α → α) (g : ℕ → α → β) (h : ∀ a, g i (f a) = g i a) :
    (t.modify i f).mapRows g = t.mapRows g := by
  ext j : 1
  · rfl
  · rw [get?_mapRows, get?_mapRows, get?_modify]
    by_cases hj : j = i
    · subst hj
      rw [if_pos rfl, Option.map_map]
      exact congrArg (fun k => (t.get? j).map k) (funext h)
    · rw [if_neg hj]

lemma mem_rows : (i, a) ∈ t.rows ↔ t.get? i = some a := by
  constructor
  · intro h
    obtain ⟨j, -, hj⟩ := List.mem_filterMap.1 h
    obtain ⟨b, hb, he⟩ := Option.map_eq_some_iff.1 hj
    obtain ⟨rfl, rfl⟩ := Prod.mk.inj he
    exact hb
  · intro h
    refine List.mem_filterMap.2 ⟨i, List.mem_range.2 (lt_next h), ?_⟩
    change (t.get? i).map _ = _
    rw [h]
    rfl

lemma mem_select :
    (i, a) ∈ t.select p ↔ t.get? i = some a ∧ p i a = true := by
  unfold select
  rw [List.mem_filter, mem_rows]

lemma select_insert (a : α) (p : ℕ → α → Bool) :
    (t.insert a).select p = t.select p ++ if p t.next a then [(t.next, a)] else [] := by
  have hold : (List.range t.next).filterMap (fun i => ((t.insert a).row i).map fun b => (i, b)) =
      t.rows := by
    apply List.filterMap_congr
    intro i hi
    have hne : i ≠ t.next := (List.mem_range.1 hi).ne
    show (if i = t.next then some a else t.row i).map _ = _
    rw [if_neg hne]
  have hnew : (t.insert a).row t.next = some a := if_pos rfl
  unfold select rows
  rw [next_insert, List.range_succ, List.filterMap_append, hold, List.filter_append]
  congr 1
  have hlast : [t.next].filterMap (fun i => ((t.insert a).row i).map fun b => (i, b)) =
      [(t.next, a)] := by
    rw [List.filterMap_cons_some (b := (t.next, a)) (by rw [hnew]; rfl)]
    rfl
  rw [hlast, List.filter_cons]
  rfl

lemma pairwise_rows : t.rows.Pairwise fun r s => r.1 < s.1 := by
  refine List.Pairwise.filterMap _ ?_ (List.pairwise_lt_range (n := t.next))
  intro i j hij b hb c hc
  obtain ⟨a, -, rfl⟩ := Option.map_eq_some_iff.1 hb
  obtain ⟨a', -, rfl⟩ := Option.map_eq_some_iff.1 hc
  exact hij

lemma pairwise_select (p : ℕ → α → Bool) : (t.select p).Pairwise fun r s => r.1 < s.1 :=
  t.pairwise_rows.filter _

lemma nodup_keys_select (p : ℕ → α → Bool) : ((t.select p).map Prod.fst).Nodup := by
  refine List.Pairwise.map _ ?_ (t.pairwise_select p)
  intro a b hab
  exact hab.ne

lemma select_cases
    (h : ∀ i j a b, t.get? i = some a → t.get? j = some b → p i a = true → p j b = true → i = j) :
    t.select p = [] ∨ ∃ r, t.select p = [r] := by
  have hsorted := t.pairwise_select p
  cases hrows : t.select p with
  | nil => exact Or.inl rfl
  | cons x rest =>
    refine Or.inr ⟨x, ?_⟩
    cases rest with
    | nil => rfl
    | cons y rest =>
      rw [hrows] at hsorted
      have hx : (x.1, x.2) ∈ t.select p := by
        rw [hrows]
        exact List.mem_cons_self ..
      have hy : (y.1, y.2) ∈ t.select p := by
        rw [hrows]
        exact List.mem_cons_of_mem _ (List.mem_cons_self ..)
      obtain ⟨hxrow, hpx⟩ := t.mem_select.1 hx
      obtain ⟨hyrow, hpy⟩ := t.mem_select.1 hy
      have hlt : x.1 < y.1 := (List.pairwise_cons.1 hsorted).1 y (List.mem_cons_self ..)
      exact absurd (h x.1 y.1 x.2 y.2 hxrow hyrow hpx hpy) hlt.ne

lemma select_eq_singleton (hrow : t.get? i = some a)
    (hp : p i a = true) (h : ∀ j b, t.get? j = some b → p j b = true → j = i) :
    t.select p = [(i, a)] := by
  have hmem : (i, a) ∈ t.select p := t.mem_select.2 ⟨hrow, hp⟩
  have hone : ∀ j k b c, t.get? j = some b → t.get? k = some c → p j b = true → p k c = true →
      j = k := fun j k b c hb hc hpb hpc => (h j b hb hpb).trans (h k c hc hpc).symm
  rcases t.select_cases hone with hnil | ⟨r, hr⟩
  · rw [hnil] at hmem
    cases hmem
  · rw [hr] at hmem
    rw [hr, ← List.mem_singleton.1 hmem]

lemma find?_select_le {q : ℕ × α → Bool} {r x : ℕ × α}
    (h : (t.select p).find? q = some r) (hx : x ∈ t.select p) (hq : q x = true) : r.1 ≤ x.1 := by
  obtain ⟨-, before, after, hsplit, hbefore⟩ := List.find?_eq_some_iff_append.1 h
  have hsorted := t.pairwise_select p
  rw [hsplit] at hx hsorted
  rcases List.mem_append.1 hx with hfirst | hrest
  · have hnot := hbefore x hfirst
    rw [hq] at hnot
    cases hnot
  · rcases List.mem_cons.1 hrest with rfl | hlater
    · exact le_refl _
    · have hpair := (List.pairwise_append.1 hsorted).2.1
      exact ((List.pairwise_cons.1 hpair).1 x hlater).le

lemma modify_eq_mapRows (i : ℕ) (f : α → α) :
    t.modify i f = t.mapRows fun j a => if j = i then f a else a := by
  ext j : 1
  · rfl
  · rw [get?_modify, get?_mapRows]
    cases t.get? j with
    | none => exact ite_self none
    | some a =>
      show (if j = i then some (f a) else some a) = some (if j = i then f a else a)
      by_cases hj : j = i
      · rw [if_pos hj, if_pos hj]
      · rw [if_neg hj, if_neg hj]

lemma rows_mapRows (f : ℕ → α → β) : (t.mapRows f).rows = t.rows.map fun r => (r.1, f r.1 r.2) := by
  unfold rows
  rw [List.map_filterMap]
  apply List.filterMap_congr
  intro i hi
  show ((t.row i).map (f i)).map _ = ((t.row i).map fun a => (i, a)).map _
  rw [Option.map_map, Option.map_map]
  rfl

lemma select_mapRows (f : ℕ → α → β) (p : ℕ → β → Bool) :
    (t.mapRows f).select p =
      (t.select fun i a => p i (f i a)).map fun r => (r.1, f r.1 r.2) := by
  unfold select
  rw [rows_mapRows, List.filter_map]
  rfl

lemma forall_select {P : ℕ × α → Prop} :
    (∀ r ∈ t.select p, P r) ↔ ∀ i a, t.get? i = some a → p i a = true → P (i, a) := by
  constructor
  · intro h i a hrow hp
    exact h (i, a) (t.mem_select.2 ⟨hrow, hp⟩)
  · rintro h ⟨i, a⟩ hmem
    obtain ⟨hrow, hp⟩ := t.mem_select.1 hmem
    exact h i a hrow hp

/-! ### tables without some rows -/

lemma get?_filter (p : ℕ → α → Bool) (i : ℕ) : (t.filter p).get? i = (t.get? i).filter (p i) := rfl

lemma get?_filter_of_pos (h : t.get? i = some a)
    (hp : p i a = true) : (t.filter p).get? i = some a := by
  rw [get?_filter, h, Option.filter_some, if_pos hp]

lemma get?_filter_of_neg (h : t.get? i = some a)
    (hp : p i a = false) : (t.filter p).get? i = none := by
  rw [get?_filter, h, Option.filter_some, hp]
  rfl

lemma rows_filter (p : ℕ → α → Bool) : (t.filter p).rows = t.rows.filter fun r => p r.1 r.2 := by
  unfold rows
  rw [List.filter_filterMap]
  apply List.filterMap_congr
  intro i hi
  show ((t.row i).filter (p i)).map _ = _
  cases t.row i with
  | none => rfl
  | some a =>
    show ((some a).filter (p i)).map _ = (some (i, a)).filter _
    rw [Option.filter_some, Option.filter_some]
    cases p i a with
    | false => rfl
    | true => rfl

lemma select_filter {q : ℕ → α → Bool}
    (h : ∀ i a, t.get? i = some a → q i a = true → p i a = true) :
    (t.filter p).select q = t.select q := by
  unfold select
  rw [rows_filter, List.filter_filter]
  apply List.filter_congr
  rintro ⟨i, a⟩ hmem
  have hrow := t.mem_rows.1 hmem
  show (q i a && p i a) = q i a
  cases hq : q i a with
  | false => rfl
  | true => rw [h i a hrow hq]; rfl

lemma filter_mapRows {f : ℕ → α → α} (h : ∀ i a, t.get? i = some a → p i (f i a) = p i a) :
    (t.mapRows f).filter p = (t.filter p).mapRows f := by
  ext i : 1
  · rfl
  · rw [get?_filter, get?_mapRows, get?_mapRows, get?_filter]
    cases hrow : t.get? i with
    | none => rfl
    | some a =>
      show (some (f i a)).filter (p i) = ((some a).filter (p i)).map (f i)
      rw [Option.filter_some, Option.filter_some, h i a hrow]
      cases p i a with
      | false => rfl
      | true => rfl

end Lemmas

end Table
end Lib
