import Mathlib

/-!
# Ordered lists of half-open intervals of integers

An opening calendar, seen from far enough, is a list of half-open intervals in increasing order.

* `overlap x y I`: the length of `I ∩ [x, y)`;  `total L x y`: its sum over the list `L`;
* `Ordered L`: every interval is non-empty and ends before the next one begins;
* `consume x n L`: walk `L` from the point `x` until `n` units are used up: `inl τ` is the point
  where they are, `inr r` says that the list ended with `r` units left;
* `inside L z`: the point `z` lies in one of the intervals.

`consume_inl`: **the point the walk stops at is the one by which exactly `n` units have passed.**
`card_inside`: **the total is the number of points inside.**
-/

namespace Lib

/-- the length of `I ∩ [x, y)`. -/
def overlap (x y : ℤ) (I : ℤ × ℤ) : ℤ := max 0 (min y I.2 - max x I.1)

/-- the length of the part of the list inside `[x, y)`. -/
def total (L : List (ℤ × ℤ)) (x y : ℤ) : ℤ := (L.map (overlap x y)).sum

/-- non-empty intervals, each ending before the next begins. -/
structure Ordered (L : List (ℤ × ℤ)) : Prop where
  nonempty : ∀ I ∈ L, I.1 < I.2
  apart : L.Pairwise fun I J => I.2 ≤ J.1

/-- the walk along the list from `x` until `n` units are used up. -/
def consume (x : ℤ) : ℤ → List (ℤ × ℤ) → ℤ ⊕ ℤ
  | n, [] => .inr n
  | n, I :: L =>
    if I.2 ≤ max x I.1 then consume x n L
    else if n ≤ I.2 - max x I.1 then .inl (max x I.1 + n)
    else consume x (n - (I.2 - max x I.1)) L

/-- the point lies in one of the intervals. -/
def inside (L : List (ℤ × ℤ)) (z : ℤ) : Bool := L.any fun I => decide (I.1 ≤ z ∧ z < I.2)

/-! ## overlap and total -/

lemma overlap_nonneg (x y : ℤ) (I : ℤ × ℤ) : 0 ≤ overlap x y I := le_max_left _ _

variable {x y x' z : ℤ} {I : ℤ × ℤ} {L : List (ℤ × ℤ)} {J : ℤ × ℤ} {M : List (ℤ × ℤ)}

lemma overlap_eq_zero (h : min y I.2 ≤ max x I.1) : overlap x y I = 0 :=
  max_eq_left (by omega)

lemma overlap_eq_sub (h : max x I.1 ≤ min y I.2) :
    overlap x y I = min y I.2 - max x I.1 := max_eq_right (by omega)

@[simp] lemma total_nil (x y : ℤ) : total [] x y = 0 := rfl

lemma overlap_translate {y' o : ℤ} (h₁ : max x' J.1 = max x I.1 - o)
    (h₂ : min y' J.2 = min y I.2 - o) : overlap x' y' J = overlap x y I := by
  unfold overlap
  rw [h₁, h₂]
  congr 1
  ring

@[simp] lemma total_cons (I : ℤ × ℤ) (L : List (ℤ × ℤ)) (x y : ℤ) :
    total (I :: L) x y = overlap x y I + total L x y := rfl

lemma total_append (L M : List (ℤ × ℤ)) (x y : ℤ) :
    total (L ++ M) x y = total L x y + total M x y := by
  simp [total]

lemma total_nonneg (L : List (ℤ × ℤ)) (x y : ℤ) : 0 ≤ total L x y := by
  refine List.sum_nonneg ?_
  intro v hv
  obtain ⟨I, -, rfl⟩ := List.mem_map.1 hv
  exact overlap_nonneg x y I

lemma overlap_le_total (hI : I ∈ L) (x y : ℤ) :
    overlap x y I ≤ total L x y := by
  refine List.single_le_sum ?_ _ (List.mem_map_of_mem hI)
  intro v hv
  obtain ⟨J, -, rfl⟩ := List.mem_map.1 hv
  exact overlap_nonneg x y J

lemma overlap_trans (hxy : x ≤ y) (hyz : y ≤ z) (I : ℤ × ℤ) :
    overlap x y I + overlap y z I = overlap x z I := by
  unfold overlap
  omega

lemma total_trans (hxy : x ≤ y) (hyz : y ≤ z) (L : List (ℤ × ℤ)) :
    total L x y + total L y z = total L x z := by
  induction L with
  | nil => rfl
  | cons I L ih =>
    have hI := overlap_trans hxy hyz I
    rw [total_cons, total_cons, total_cons]
    omega

lemma total_sublist (h : L.Sublist M) (x y : ℤ) :
    total L x y ≤ total M x y := by
  refine (h.map (overlap x y)).sum_le_sum fun v hv => ?_
  obtain ⟨I, -, rfl⟩ := List.mem_map.1 hv
  exact overlap_nonneg x y I

lemma total_eq_zero (h : ∀ I ∈ L, overlap x y I = 0) :
    total L x y = 0 := by
  induction L with
  | nil => rfl
  | cons I L ih =>
    rw [total_cons, h I List.mem_cons_self, ih fun J hJ => h J (List.mem_cons_of_mem _ hJ),
      add_zero]

lemma total_map {y' : ℤ} {f : ℤ × ℤ → ℤ × ℤ} (h : ∀ I ∈ L, overlap x' y' (f I) = overlap x y I) :
    total (L.map f) x' y' = total L x y := by
  induction L with
  | nil => rfl
  | cons I L ih =>
    rw [List.map_cons, total_cons, total_cons, h I List.mem_cons_self,
      ih fun J hJ => h J (List.mem_cons_of_mem _ hJ)]

lemma Ordered.tail (h : Ordered (I :: L)) : Ordered L :=
  ⟨fun J hJ => h.nonempty J (List.mem_cons_of_mem _ hJ), (List.pairwise_cons.1 h.apart).2⟩

lemma Ordered.head_le (h : Ordered (I :: L)) (hJ : J ∈ L) :
    I.2 ≤ J.1 := (List.pairwise_cons.1 h.apart).1 J hJ

lemma Ordered.append (hL : Ordered L) (hM : Ordered M) (h : ∀ I ∈ L, ∀ J ∈ M, I.2 ≤ J.1) :
    Ordered (L ++ M) := by
  refine ⟨fun I hI => ?_, List.pairwise_append.2 ⟨hL.apart, hM.apart, h⟩⟩
  rcases List.mem_append.1 hI with hI | hI
  · exact hL.nonempty I hI
  · exact hM.nonempty I hI

lemma consume_cons (x n : ℤ) (I : ℤ × ℤ) (L : List (ℤ × ℤ)) :
    consume x n (I :: L) =
      if I.2 ≤ max x I.1 then consume x n L
      else if n ≤ I.2 - max x I.1 then .inl (max x I.1 + n)
      else consume x (n - (I.2 - max x I.1)) L := rfl

lemma consume_append (x : ℤ) (n : ℤ) (L M : List (ℤ × ℤ)) :
    consume x n (L ++ M) = match consume x n L with
      | .inl t => .inl t
      | .inr r => consume x r M := by
  induction L generalizing n with
  | nil => rfl
  | cons I L ih =>
    rw [List.cons_append, consume_cons, consume_cons]
    by_cases h₁ : I.2 ≤ max x I.1
    · rw [if_pos h₁, if_pos h₁]
      exact ih n
    · rw [if_neg h₁, if_neg h₁]
      by_cases h₂ : n ≤ I.2 - max x I.1
      · rw [if_pos h₂, if_pos h₂]
      · rw [if_neg h₂, if_neg h₂]
        exact ih _

lemma consume_congr (n : ℤ)
    (h : ∀ I ∈ L, max x I.1 = max x' I.1) : consume x n L = consume x' n L := by
  induction L generalizing n with
  | nil => rfl
  | cons I L ih =>
    rw [consume_cons, consume_cons, h I List.mem_cons_self]
    simp only [ih _ fun J hJ => h J (List.mem_cons_of_mem _ hJ)]

lemma consume_inl {n t : ℤ} (hL : Ordered L) (hn : 0 < n) (h : consume x n L = .inl t) :
    total L x t = n ∧ x < t ∧ ∃ I ∈ L, I.1 < t ∧ t ≤ I.2 := by
  induction L generalizing n with
  | nil => cases h
  | cons I L ih =>
    have hI := hL.nonempty I List.mem_cons_self
    rw [consume_cons] at h
    split at h
    · -- the interval is over at `x`
      rename_i hskip
      obtain ⟨hs, hx, J, hJ, hJt⟩ := ih hL.tail hn h
      rw [total_cons, hs, overlap_eq_zero (by omega), zero_add]
      exact ⟨rfl, hx, J, List.mem_cons_of_mem _ hJ, hJt⟩
    · rename_i hskip
      split at h
      · -- the units run out in this interval: the later ones begin behind the stop
        cases h
        have hrest : total L x (max x I.1 + n) = 0 := by
          refine total_eq_zero fun J hJ => overlap_eq_zero ?_
          have hIJ := hL.head_le hJ
          omega
        rw [total_cons, hrest, overlap_eq_sub (by omega)]
        exact ⟨by omega, by omega, I, List.mem_cons_self, by omega, by omega⟩
      · rename_i hmore
        obtain ⟨hs, hx, J, hJ, hJt, hJt'⟩ := ih hL.tail (by omega) h
        have hIJ := hL.head_le hJ
        rw [total_cons, hs, overlap_eq_sub (by omega)]
        exact ⟨by omega, hx, J, List.mem_cons_of_mem _ hJ, hJt, hJt'⟩

/-! ## counting -/

lemma inside_iff :
    inside L z = true ↔ ∃ I ∈ L, I.1 ≤ z ∧ z < I.2 := by
  simp [inside]

/-- the points that meet one of several mutually exclusive conditions are counted condition by
condition. -/
lemma card_filter_exists {α : Type} (S : Finset ℤ) (A : α → ℤ → Bool) {L : List α}
    (h : L.Pairwise fun p q => ∀ z, A p z = true → A q z = true → False) :
    (S.filter fun z => L.any (A · z) = true).card =
      (L.map fun p => (S.filter fun z => A p z = true).card).sum := by
  induction L with
  | nil => simp
  | cons p L ih =>
    obtain ⟨hp, hL⟩ := List.pairwise_cons.1 h
    have hsplit : (S.filter fun z => (p :: L).any (A · z) = true) =
        (S.filter fun z => A p z = true) ∪ (S.filter fun z => L.any (A · z) = true) := by
      rw [← Finset.filter_or]
      refine Finset.filter_congr fun z _ => ?_
      rw [List.any_cons, Bool.or_eq_true]
    have hdisj : Disjoint (S.filter fun z => A p z = true)
        (S.filter fun z => L.any (A · z) = true) := by
      refine Finset.disjoint_filter.2 fun z _ hz hz' => ?_
      obtain ⟨q, hq, hqz⟩ := List.any_eq_true.1 hz'
      exact hp q hq z hz hqz
    rw [hsplit, Finset.card_union_of_disjoint hdisj, ih hL, List.map_cons, List.sum_cons]

lemma card_overlap (x y : ℤ) (I : ℤ × ℤ) :
    (((Finset.Ico x y).filter fun z => decide (I.1 ≤ z ∧ z < I.2) = true).card : ℤ) =
      overlap x y I := by
  have hset : ((Finset.Ico x y).filter fun z => decide (I.1 ≤ z ∧ z < I.2) = true) =
      Finset.Ico (max x I.1) (min y I.2) := by
    ext z
    simp only [decide_eq_true_eq, Finset.mem_filter, Finset.mem_Ico, max_le_iff, lt_min_iff]
    tauto
  rw [hset, Int.card_Ico, overlap, Int.toNat_eq_max, max_comm]

lemma card_of_apart
    (hL : L.Pairwise fun I J => ∀ z, I.1 ≤ z → z < I.2 → J.1 ≤ z → z < J.2 → False) (x y : ℤ) :
    (((Finset.Ico x y).filter fun z => inside L z = true).card : ℤ) = total L x y := by
  have hapart : L.Pairwise fun I J => ∀ z, decide (I.1 ≤ z ∧ z < I.2) = true →
      decide (J.1 ≤ z ∧ z < J.2) = true → False := by
    refine hL.imp fun hIJ z hI hJ => ?_
    simp only [decide_eq_true_eq] at hI hJ
    exact hIJ z hI.1 hI.2 hJ.1 hJ.2
  have hcount := card_filter_exists (Finset.Ico x y)
    (fun (I : ℤ × ℤ) z => decide (I.1 ≤ z ∧ z < I.2)) hapart
  unfold inside
  rw [hcount, total, Nat.cast_list_sum, List.map_map]
  congr 1
  refine List.map_congr_left fun I _ => ?_
  exact card_overlap x y I

lemma total_le_of_apart
    (hL : L.Pairwise fun I J => ∀ z, I.1 ≤ z → z < I.2 → J.1 ≤ z → z < J.2 → False)
    (hxy : x ≤ y) : total L x y ≤ y - x := by
  have hcard := Finset.card_filter_le (Finset.Ico x y) fun z => inside L z = true
  have hcount := card_of_apart hL x y
  rw [Int.card_Ico] at hcard
  omega

lemma card_inside (hL : Ordered L) (x y : ℤ) :
    (((Finset.Ico x y).filter fun z => inside L z = true).card : ℤ) = total L x y := by
  refine card_of_apart (hL.apart.imp fun hIJ z _ hI hJ _ => ?_) x y
  omega

end Lib
