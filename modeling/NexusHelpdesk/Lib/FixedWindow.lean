import Mathlib

/-!
# A limit by fixed windows

Admissions are counted in windows of length `w` with at most `m` admissions each; an admission
more than `w` behind the start of the last window opens the next.

* `FixedWindow`: the times of the admissions, those of the open window and the older ones;
* `FixedWindow.opens`, `FixedWindow.reset`, `FixedWindow.count`: what an admission makes of them;
* the field `twice`: **a closed interval of length `w` holds at most `2 * m` admissions**.
-/

namespace Lib

/-- the open window starts at `start`; its admissions and the `older` ones, newest first. -/
structure FixedWindow (w : ℤ) (m : ℕ) (start : ℤ) (current older : List ℤ) : Prop where
  opened : current ≠ []
  within : current.length ≤ m
  behind : ∀ t ∈ current, start ≤ t
  before : ∀ t ∈ older, t ≤ start
  spill : ∀ a, start - w ≤ a → older.countP (a ≤ ·) ≤ m
  twice : ∀ a, (current ++ older).countP (fun t => a ≤ t ∧ t ≤ a + w) ≤ 2 * m

section FixedWindow
variable {w start t : ℤ} {m : ℕ} {current older : List ℤ}

lemma countP_interval_le (a : ℤ) (ts : List ℤ) :
    ts.countP (fun t => a ≤ t ∧ t ≤ a + w) ≤ ts.countP (a ≤ ·) := by
  refine List.countP_mono_left ?_
  intro t _ ht
  rw [decide_eq_true_iff] at ht ⊢
  exact ht.1

/-- behind the start only the admissions of the open window are left. -/
lemma FixedWindow.after (h : FixedWindow w m start current older) {a : ℤ} (ha : start < a) :
    (current ++ older).countP (a ≤ ·) ≤ m := by
  have hcurrent : current.countP (a ≤ ·) ≤ current.length := List.countP_le_length
  have holder : older.countP (a ≤ ·) = 0 := by
    rw [List.countP_eq_zero]
    intro t ht
    have hle := h.before t ht
    rw [decide_eq_true_iff]
    omega
  have hwithin := h.within
  rw [List.countP_append, holder]
  omega

lemma FixedWindow.opens (hm : 0 < m) (t : ℤ) : FixedWindow w m t [t] [] where
  opened := List.cons_ne_nil _ _
  within := hm
  behind := by simp
  before := by simp
  spill := by simp
  twice := by
    intro a
    have hle : [t].countP (fun t => a ≤ t ∧ t ≤ a + w) ≤ [t].length := List.countP_le_length
    rw [List.length_singleton] at hle
    rw [List.append_nil]
    omega

lemma FixedWindow.reset (h : FixedWindow w m start current older) (hm : 0 < m)
    (ht : ∀ x ∈ current ++ older, x ≤ t) (hover : start < t - w) :
    FixedWindow w m t [t] (current ++ older) where
  opened := List.cons_ne_nil _ _
  within := hm
  behind := by simp
  before := ht
  spill := by
    intro a ha
    exact h.after (by omega)
  twice := by
    intro a
    rw [List.singleton_append, List.countP_cons]
    by_cases hin : a ≤ t ∧ t ≤ a + w
    · have hle := countP_interval_le (w := w) a (current ++ older)
      have hafter : (current ++ older).countP (a ≤ ·) ≤ m := h.after (by omega)
      rw [if_pos (decide_eq_true hin)]
      omega
    · rw [if_neg (by simpa using hin)]
      exact h.twice a

lemma FixedWindow.count (h : FixedWindow w m start current older) (ht : ∀ x ∈ current, x ≤ t)
    (hlt : current.length < m) : FixedWindow w m start (t :: current) older where
  opened := List.cons_ne_nil _ _
  within := hlt
  behind := by
    obtain ⟨x, hx⟩ := List.exists_mem_of_ne_nil _ h.opened
    have hstart : start ≤ t := (h.behind x hx).trans (ht x hx)
    exact List.forall_mem_cons.2 ⟨hstart, h.behind⟩
  before := h.before
  spill := h.spill
  twice := by
    intro a
    rw [List.cons_append, List.countP_cons]
    by_cases hin : a ≤ t ∧ t ≤ a + w
    · -- the interval reaches back by less than one window before the open one
      obtain ⟨x, hx⟩ := List.exists_mem_of_ne_nil _ h.opened
      have hstart : start ≤ t := (h.behind x hx).trans (ht x hx)
      have hspill := h.spill a (by omega)
      have hle := countP_interval_le (w := w) a older
      have hcurrent : current.countP (fun t => a ≤ t ∧ t ≤ a + w) ≤ current.length :=
        List.countP_le_length
      rw [if_pos (decide_eq_true hin), List.countP_append]
      omega
    · rw [if_neg (by simpa using hin)]
      exact h.twice a

end FixedWindow

end Lib
