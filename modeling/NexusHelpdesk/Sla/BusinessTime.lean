import NexusHelpdesk.Sla.Calendar

/-!
# Walking business time forwards and measuring it

`add_business_seconds` and `business_seconds_between` of `sla_service.py`, and the law that the
second inverts the first.

* `addBusinessSeconds`: walks the days on the WALL CLOCK: differences of readings of one zone are
  differences of their fields;
* `businessSecondsBetween`: walks the same days and measures each interval in UTC;
* `walkDays_ok`, `sumDays_eq`: both as one pass over the list
  `Calendar.openWall` of business intervals;
* `WallDeadline`: the reading by which `n` business seconds have passed on the wall clock;
* `InStep`: over the business intervals from the start to that reading the wall clock and UTC
  order the same events the same way and give each interval the same length.

`businessSecondsBetween_addBusinessSeconds`: **in step, measuring inverts walking.**
`berlin_spring_forward`: out of step it does not.
-/

namespace NexusHelpdesk.Sla
open Lib

/-- the days either walk looks at. -/
def horizonDays : ℕ := 3700

/-! ## the two walks -/

/-- the day loop of `add_business_seconds`: `loc` is the cursor on the wall clock. -/
def walkDays (c : Calendar) : ℕ → ℤ → ℤ → Except SLAConfigurationError Instant
  | 0, _, _ => .error ⟨"sla_schedule_horizon_exceeded"⟩
  | k + 1, loc, remaining => do
    let day := dayOf loc
    match consume loc remaining (← c.dayIntervals day) with
    | .inl deadline => .ok (c.zone.toUtc deadline)
    | .inr rest => walkDays c k (midnight (day + 1)) rest

def addBusinessSeconds (c : Calendar) (start : Instant) (n : ℤ) :
    Except SLAConfigurationError Instant :=
  if n < 0 then .error ⟨"sla_seconds_negative"⟩
  else if n = 0 then .ok start
  else if c.weeklySchedule = [] then .ok (start + seconds n)
  else walkDays c horizonDays (c.zone.localWall start) (seconds n)

def addBusinessMinutes (c : Calendar) (start : Instant) (n : ℤ) :
    Except SLAConfigurationError Instant :=
  if n < 0 then .error ⟨"sla_minutes_negative"⟩ else addBusinessSeconds c start (n * 60)

/-- an interval of wall clock readings, in UTC. -/
def imageUtc (z : Zone) (I : ℤ × ℤ) : ℤ × ℤ := (z.toUtc I.1, z.toUtc I.2)

/-- the day loop of `business_seconds_between`; running through all its turns without passing the
last day raises. -/
def sumDays (c : Calendar) (start stop : Instant) (final : ℤ) :
    ℕ → ℤ → ℤ → Except SLAConfigurationError ℤ
  | 0, _, _ => .error ⟨"sla_schedule_horizon_exceeded"⟩
  | k + 1, day, acc => do
    if final < day then return acc
    let open' := (← c.dayIntervals day).map (imageUtc c.zone)
    sumDays c start stop final k (day + 1) (acc + total open' start stop)

/-- whole seconds; the sums are exact. -/
def businessSecondsBetween (c : Calendar) (start stop : Instant) :
    Except SLAConfigurationError ℤ :=
  if stop ≤ start then .ok 0
  else if c.weeklySchedule = [] then .ok ((stop - start) / 1000000)
  else do
    let first := dayOf (c.zone.localWall start)
    let final := dayOf (c.zone.localWall stop)
    return (← sumDays c start stop final horizonDays first 0) / 1000000

variable {c : Calendar} {start : Instant} {w : ℤ} {t : Instant} {I : ℤ × ℤ}

lemma walkDays_ok {k : ℕ} {loc remaining : ℤ} (h : walkDays c k loc remaining = .ok t) :
    ∃ w, t = c.zone.toUtc w ∧ consume loc remaining (c.openWall (dayOf loc) k) = .inl w := by
  induction k generalizing loc remaining with
  | zero => cases h
  | succ k ih =>
    unfold walkDays at h
    obtain ⟨l, hl, h⟩ := bind_eq_ok.1 h
    have hday : c.intervals (dayOf loc) = l := by
      unfold Calendar.intervals
      rw [hl]
    rw [c.openWall_succ, consume_append, hday]
    cases hstep : consume loc remaining l with
    | inl w =>
      rw [hstep] at h
      cases h
      exact ⟨w, rfl, rfl⟩
    | inr r =>
      rw [hstep] at h
      obtain ⟨w, rfl, hw⟩ := ih h
      refine ⟨w, rfl, ?_⟩
      rw [dayOf_midnight] at hw
      rw [← hw]
      -- on the later days nothing lies before the cursor, whichever of the two it is
      refine consume_congr r fun I hI => ?_
      have h1 := (c.openWall_bounds hI).1
      have h2 := lt_midnight_dayOf loc
      omega

lemma sumDays_eq (c : Calendar) (hc : c.Accepted) (start stop final : ℤ) (k : ℕ) (day acc : ℤ)
    (hday : day ≤ final + 1) :
    sumDays c start stop final k day acc =
      if final + 1 - day < k then
        .ok (acc + total ((c.openWall day (final + 1 - day).toNat).map (imageUtc c.zone))
          start stop)
      else .error ⟨"sla_schedule_horizon_exceeded"⟩ := by
  induction k generalizing day acc with
  | zero =>
    rw [if_neg (by push_cast; omega)]
    rfl
  | succ k ih =>
    unfold sumDays
    by_cases hlast : final < day
    · have hzero : (final + 1 - day).toNat = 0 := by omega
      rw [if_pos hlast, if_pos (by push_cast; omega), hzero]
      simp
      rfl
    · have hsucc : (final + 1 - day).toNat = (final + 1 - (day + 1)).toNat + 1 := by omega
      rw [if_neg hlast, c.dayIntervals_eq hc]
      change sumDays c start stop final k (day + 1)
        (acc + total ((c.intervals day).map (imageUtc c.zone)) start stop) = _
      rw [ih _ _ (by omega), hsucc, c.openWall_succ, List.map_append, total_append, ← add_assoc]
      by_cases hk : final + 1 - (day + 1) < k
      · rw [if_pos hk, if_pos (by push_cast; omega)]
      · rw [if_neg hk, if_neg (by push_cast; omega)]

/-! ## the inverse law -/

/-- the business intervals of the local days from that of `start` to that of the reading `w`. -/
def Calendar.openFrom (c : Calendar) (start : Instant) (w : ℤ) : List (ℤ × ℤ) :=
  c.openWall (dayOf (c.zone.localWall start))
    (dayOf w + 1 - dayOf (c.zone.localWall start)).toNat

/-- the wall clock reading by which `n` business seconds have passed since `start`. -/
def WallDeadline (c : Calendar) (start : Instant) (n w : ℤ) : Prop :=
  c.zone.localWall start < w ∧ (∃ I ∈ c.intervals (dayOf w), I.1 < w ∧ w ≤ I.2) ∧
    total (c.openFrom start w) (c.zone.localWall start) w = seconds n

/-- the wall clock and UTC agree, from `start` to the reading `w`, on the order of the events and
on the length of the business intervals. -/
structure InStep (c : Calendar) (start : Instant) (w : ℤ) : Prop where
  /-- the measuring walk breaks off one day before the forward walk does. -/
  horizon : dayOf w - dayOf (c.zone.localWall start) < horizonDays - 1
  /-- the reading exists on the day it names. -/
  day : dayOf (c.zone.localWall (c.zone.toUtc w)) = dayOf w
  before : ∀ I ∈ c.openFrom start w, I.2 ≤ c.zone.localWall start → c.zone.toUtc I.2 ≤ start
  /-- an interval the start falls into keeps the start's offset. -/
  around : ∀ I ∈ c.openFrom start w, I.1 ≤ c.zone.localWall start → c.zone.localWall start < I.2 →
    c.zone.toUtc I.1 ≤ start ∧ c.zone.utcoffset (min w I.2) = c.zone.localWall start - start
  /-- an interval begun later has one offset at both ends, the deadline being an end. -/
  within : ∀ I ∈ c.openFrom start w, c.zone.localWall start < I.1 → I.1 < w →
    start ≤ c.zone.toUtc I.1 ∧ c.zone.utcoffset (min w I.2) = c.zone.utcoffset I.1
  /-- ends lie on the same side of the deadline in both. -/
  ends : ∀ I ∈ c.openFrom start w, c.zone.localWall start < I.2 → I.1 < w →
    (I.2 ≤ w → c.zone.toUtc I.2 ≤ c.zone.toUtc w) ∧
    (w ≤ I.2 → c.zone.toUtc w ≤ c.zone.toUtc I.2)
  /-- what begins after the deadline on the wall clock does so in UTC. -/
  later : ∀ I ∈ c.openFrom start w, w ≤ I.1 → c.zone.toUtc w ≤ c.zone.toUtc I.1

/-- the deadline side of an interval that has begun by then: `off` is the offset there. -/
lemma InStep.min_toUtc {off : ℤ} (h : InStep c start w) (hI : I ∈ c.openFrom start w)
    (hb : c.zone.localWall start < I.2) (hl : I.1 < w) (hoff : c.zone.utcoffset (min w I.2) = off) :
    min (c.zone.toUtc w) (c.zone.toUtc I.2) = min w I.2 - off := by
  obtain ⟨hend₁, hend₂⟩ := h.ends I hI hb hl
  rcases le_or_gt I.2 w with hc | hc
  · rw [min_eq_right (hend₁ hc), min_eq_right hc, ← hoff, min_eq_right hc]
    rfl
  · rw [min_eq_left (hend₂ hc.le), min_eq_left hc.le, ← hoff, min_eq_left hc.le]
    rfl

lemma InStep.overlap_eq (h : InStep c start w) (hw : c.zone.localWall start < w)
    (hI : I ∈ c.openFrom start w) (hne : I.1 < I.2) :
    overlap start (c.zone.toUtc w) (imageUtc c.zone I) =
      overlap (c.zone.localWall start) w I := by
  rcases le_or_gt I.2 (c.zone.localWall start) with hb | hb
  · -- over before the start, in both
    have hutc : c.zone.toUtc I.2 ≤ start := h.before I hI hb
    rw [overlap_eq_zero ((min_le_right _ _).trans (hutc.trans (le_max_left _ _))),
      overlap_eq_zero ((min_le_right _ _).trans (hb.trans (le_max_left _ _)))]
  · rcases le_or_gt w I.1 with hl | hl
    · -- not begun by the deadline, in both
      have hutc : c.zone.toUtc w ≤ c.zone.toUtc I.1 := h.later I hI hl
      rw [overlap_eq_zero ((min_le_left _ _).trans (hutc.trans (le_max_right _ _))),
        overlap_eq_zero ((min_le_left _ _).trans (hl.trans (le_max_right _ _)))]
    · rcases le_or_gt I.1 (c.zone.localWall start) with ha | ha
      · obtain ⟨ha₁, ha₂⟩ := h.around I hI ha hb
        refine overlap_translate ?_ (h.min_toUtc hI hb hl ha₂)
        change max start (c.zone.toUtc I.1) = _
        rw [max_eq_left ha₁, max_eq_left ha, sub_sub_cancel]
      · obtain ⟨ha₁, ha₂⟩ := h.within I hI ha hl
        refine overlap_translate ?_ (h.min_toUtc hI hb hl ha₂)
        change max start (c.zone.toUtc I.1) = _
        rw [max_eq_right ha₁, max_eq_right ha.le]
        rfl

lemma addBusinessSeconds_ok (hs : c.weeklySchedule ≠ []) {n : ℤ} (hn : 0 < n)
    (h : addBusinessSeconds c start n = .ok t) :
    ∃ w, t = c.zone.toUtc w ∧ WallDeadline c start n w := by
  unfold addBusinessSeconds at h
  rw [if_neg (by omega), if_neg (by omega), if_neg hs] at h
  set w₀ := c.zone.localWall start with hw₀
  set d₀ := dayOf w₀ with hd₀
  obtain ⟨w, rfl, hw⟩ := walkDays_ok h
  have hpos : 0 < seconds n := by
    unfold seconds
    omega
  obtain ⟨htot, hlt, I, hI, hIw, hwI⟩ := consume_inl (c.ordered_openWall _ _) hpos hw
  -- the interval reached belongs to the day of the reading
  obtain ⟨e, he₁, he₂, hIe⟩ := c.mem_openWall.1 hI
  obtain ⟨hlo, hhi⟩ := (c.intervals_spec e).2 I hIe
  have hday : dayOf w = e := dayOf_eq_iff.2 ⟨by omega, by omega⟩
  refine ⟨w, rfl, hlt, ⟨I, by rw [hday]; exact hIe, hIw, hwI⟩, ?_⟩
  -- the days behind that of the reading add nothing
  have hsplit : horizonDays = (dayOf w + 1 - d₀).toNat +
      (horizonDays - (dayOf w + 1 - d₀).toNat) := by omega
  rw [hsplit, c.openWall_add, total_append] at htot
  have hrest : total (c.openWall (d₀ + ((dayOf w + 1 - d₀).toNat : ℤ))
      (horizonDays - (dayOf w + 1 - d₀).toNat)) w₀ w = 0 := by
    refine total_eq_zero fun J hJ => overlap_eq_zero ?_
    have h1 := (c.openWall_bounds hJ).1
    have h2 : d₀ + ((dayOf w + 1 - d₀).toNat : ℤ) = dayOf w + 1 := by omega
    rw [h2] at h1
    have h3 := lt_midnight_dayOf w
    omega
  rw [hrest, add_zero] at htot
  exact htot

/-- what the measuring walk returns from `start` to an instant whose local day is in reach. -/
lemma businessSecondsBetween_eq (hc : c.Accepted) (hs : c.weeklySchedule ≠ [])
    {stop : Instant} (hlt : start < stop) (hday : dayOf (c.zone.localWall stop) = dayOf w)
    (hge : dayOf (c.zone.localWall start) ≤ dayOf w)
    (hhor : dayOf w - dayOf (c.zone.localWall start) < horizonDays - 1) :
    businessSecondsBetween c start stop =
      .ok (total ((c.openFrom start w).map (imageUtc c.zone)) start stop / 1000000) := by
  unfold businessSecondsBetween
  rw [if_neg (not_le.2 hlt), if_neg hs]
  simp only [hday]
  rw [sumDays_eq c hc _ _ _ _ _ _ (by omega), if_pos (by omega), zero_add]
  rfl

theorem businessSecondsBetween_addBusinessSeconds (c : Calendar) (hc : c.Accepted)
    (hs : c.weeklySchedule ≠ []) (start : Instant) (n : ℤ)
    (hstep : ∀ w, WallDeadline c start n w → InStep c start w) (t : Instant)
    (h : addBusinessSeconds c start n = .ok t) : businessSecondsBetween c start t = .ok n := by
  rcases lt_trichotomy n 0 with hn | rfl | hn
  · unfold addBusinessSeconds at h
    rw [if_pos hn] at h
    cases h
  · have ht : t = start := by
      unfold addBusinessSeconds at h
      simpa using h.symm
    subst ht
    unfold businessSecondsBetween
    rw [if_pos le_rfl]
  · obtain ⟨w, rfl, hw⟩ := addBusinessSeconds_ok hs hn h
    have hin := hstep w hw
    obtain ⟨hlt, -, htot⟩ := hw
    have htotal : total ((c.openFrom start w).map (imageUtc c.zone)) start (c.zone.toUtc w) =
        seconds n := by
      rw [← htot]
      exact total_map fun I hI => hin.overlap_eq hlt hI ((c.ordered_openWall _ _).nonempty I hI)
    -- a positive total leaves room between the two instants
    have hfwd : start < c.zone.toUtc w := by
      by_contra hcon
      have hle : c.zone.toUtc w ≤ start := not_lt.1 hcon
      have hzero : total ((c.openFrom start w).map (imageUtc c.zone)) start (c.zone.toUtc w) = 0 :=
        total_eq_zero fun J hJ =>
          overlap_eq_zero ((min_le_left _ _).trans (hle.trans (le_max_left _ _)))
      rw [htotal] at hzero
      unfold seconds at hzero
      omega
    rw [businessSecondsBetween_eq hc hs hfwd hin.day (dayOf_le hlt.le) hin.horizon, htotal]
    unfold seconds
    rw [Int.mul_ediv_cancel _ (by decide)]

lemma inStep_utc (hz : c.zone = Zone.utc)
    (hhor : dayOf w - dayOf start < horizonDays - 1) : InStep c start w := by
  constructor <;> simp only [hz, Zone.localWall_utc, Zone.toUtc_utc, Zone.utcoffset_utc, sub_self]
  · exact hhor
  · exact fun I _ h => h
  · exact fun I _ h _ => ⟨h, trivial⟩
  · exact fun I _ h _ => ⟨h.le, trivial⟩
  · exact fun I _ _ _ => ⟨id, id⟩
  · exact fun I _ h => h

def thursdays : Calendar := ⟨Zone.utc, [("thursday", [.interval "09:00" "17:00"])], []⟩

lemma weekdayName_cases (d : ℤ) :
    weekdayName d ∈ ["monday", "tuesday", "wednesday", "thursday", "friday", "saturday",
      "sunday"] := by
  unfold weekdayName
  split <;> simp

lemma thursdays_accepted : thursdays.Accepted := by
  intro d
  have h := weekdayName_cases d
  simp only [List.mem_cons, List.not_mem_nil, or_false] at h
  unfold intervalsForDay
  rcases h with h | h | h | h | h | h | h <;> rw [h] <;> exact ⟨_, rfl⟩

/-- one hour from nine o'clock on day zero, a Thursday, is ten o'clock. -/
theorem businessSecondsBetween_addBusinessSeconds_thursdays :
    addBusinessSeconds thursdays (onDay 0 540) 3600 = .ok (onDay 0 600) ∧
      businessSecondsBetween thursdays (onDay 0 540) (onDay 0 600) = .ok 3600 := by
  refine ⟨rfl, ?_⟩
  refine businessSecondsBetween_addBusinessSeconds thursdays thursdays_accepted (by decide) _ _
    (fun w hw => inStep_utc rfl ?_) _ rfl
  -- a reading on a later day has the whole of day zero behind it
  obtain ⟨hlt, -, htot⟩ := hw
  by_contra hfar
  have hlt' : (onDay 0 540 : ℤ) < w := hlt
  have hday : 1 ≤ dayOf w := by
    simp only [horizonDays, show dayOf (onDay 0 540) = 0 from rfl] at hfar
    omega
  have hmem : ((onDay 0 540, onDay 0 1020) : ℤ × ℤ) ∈ thursdays.openFrom (onDay 0 540) w := by
    refine thursdays.mem_openWall.2 ⟨0, le_rfl, ?_, List.mem_singleton.2 rfl⟩
    change (0 : ℤ) < 0 + ((dayOf w + 1 - 0).toNat : ℤ)
    omega
  have hw : midnight 1 ≤ w := (midnight_le hday).trans (midnight_dayOf_le w)
  have hle := overlap_le_total hmem (onDay 0 540) w
  have heq : overlap (onDay 0 540) w (onDay 0 540, onDay 0 1020) = 28800000000 := by
    rw [overlap_eq_sub (by simp only [onDay, midnight, minutes, seconds, dayLength] at *; omega)]
    simp only [onDay, midnight, minutes, seconds, dayLength] at *
    omega
  change total (thursdays.openFrom (onDay 0 540) w) (onDay 0 540) w = 3600000000 at htot
  omega

/-- Berlin around the last Sunday of March 2024, when the clocks went forward at 01:00 UTC, with
night hours on Sundays. -/
def berlinSundays : Calendar :=
  ⟨⟨3600, [(1711846800, 7200)]⟩, [("sunday", [.interval "00:00" "08:00"])], []⟩

/-- four hours from midnight run until four o'clock, of which one hour does not exist. -/
theorem berlin_spring_forward :
    berlinSundays.Accepted ∧
      addBusinessSeconds berlinSundays (seconds 1711839600) 14400 = .ok (seconds 1711850400) ∧
      businessSecondsBetween berlinSundays (seconds 1711839600) (seconds 1711850400) =
        .ok 10800 := by
  refine ⟨fun d => ?_, by decide +kernel, by decide +kernel⟩
  have h := weekdayName_cases d
  simp only [List.mem_cons, List.not_mem_nil, or_false] at h
  unfold intervalsForDay
  rcases h with h | h | h | h | h | h | h <;> rw [h] <;> exact ⟨_, rfl⟩

end NexusHelpdesk.Sla
