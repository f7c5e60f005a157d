import NexusHelpdesk.Desk.Basic
import NexusHelpdesk.Lib.Except
import NexusHelpdesk.Lib.Intervals

/-!
# The business calendar

Time zones as `zoneinfo` reads them, weekly schedules as `sla_service.py` parses them, and the
business intervals of a local day.

* `Zone`: the offset before the first change and the list of changes;  `Zone.localWall u`: the wall
  clock at the instant `u` (`astimezone`);  `Zone.utcoffset w`: the offset `zoneinfo` gives the wall
  clock reading `w` with `fold = 0`, the only fold the service ever builds;  `Zone.toUtc w`;
* `clock`, `intervalsForDay`: the parser of the weekly schedule, with its errors;
* `Calendar.dayIntervals d`: the business intervals of the local day number `d`, on the wall clock;
* `Calendar.openWall d k`: those of the `k` days from `d` on, in one list.

`ordered_openWall`: **the business intervals of an accepted schedule are non-empty, disjoint and
in order**, over any number of days.
-/

namespace NexusHelpdesk.Sla
open Lib

structure SLAConfigurationError where
  text : String
deriving DecidableEq, Repr

def dayLength : ℤ := 86400000000

/-- the day number of a wall clock reading; day zero is 1970-01-01. -/
def dayOf (w : ℤ) : ℤ := w / dayLength

def midnight (d : ℤ) : ℤ := d * dayLength

lemma dayOf_eq_iff {w d : ℤ} : dayOf w = d ↔ midnight d ≤ w ∧ w < midnight (d + 1) := by
  unfold dayOf midnight dayLength
  omega

lemma midnight_dayOf_le (w : ℤ) : midnight (dayOf w) ≤ w := (dayOf_eq_iff.1 rfl).1

lemma lt_midnight_dayOf (w : ℤ) : w < midnight (dayOf w + 1) := (dayOf_eq_iff.1 rfl).2

lemma midnight_le {d e : ℤ} (h : d ≤ e) : midnight d ≤ midnight e := by
  unfold midnight dayLength
  omega

@[simp] lemma dayOf_midnight (d : ℤ) : dayOf (midnight d) = d := by
  unfold dayOf midnight dayLength
  omega

lemma dayOf_le {x y : ℤ} (h : x ≤ y) : dayOf x ≤ dayOf y := Int.ediv_le_ediv (by decide) h

/-! ## time zones -/

/-- `bisect.bisect_right` on the range `[lo, hi)`, with one unit of fuel for each halving. -/
def bisectRight (a : List ℤ) (x : ℤ) : ℕ → ℕ → ℕ → ℕ
  | 0, lo, _ => lo
  | fuel + 1, lo, hi =>
    if lo < hi then
      let mid := (lo + hi) / 2
      if x < a.getD mid 0 then bisectRight a x fuel lo mid else bisectRight a x fuel (mid + 1) hi
    else lo

/-- a zone, in whole seconds: the offset before the first change, and for each change its instant
and the offset from then on. -/
structure Zone where
  before : ℤ
  changes : List (ℤ × ℤ)

namespace Zone

def offsets (z : Zone) : List ℤ := z.before :: z.changes.map (·.2)

def offsetAfter (z : Zone) (i : ℕ) : ℤ := z.offsets.getD i z.before

/-- the wall clock readings at which `zoneinfo` switches a `fold = 0` reading over: the later of
the two readings of each change. -/
def wallChanges (z : Zone) : List ℤ :=
  (z.changes.zip z.offsets).map fun c => c.1.1 + max c.1.2 c.2

def offsetAt (z : Zone) (u : Instant) : ℤ :=
  let at' := z.changes.map (·.1)
  z.offsetAfter (bisectRight at' (u / 1000000) at'.length 0 at'.length)

def localWall (z : Zone) (u : Instant) : ℤ := u + seconds (z.offsetAt u)

/-- the offset of a wall clock reading with `fold = 0`, in microseconds. -/
def utcoffset (z : Zone) (w : ℤ) : ℤ :=
  let at' := z.wallChanges
  seconds (z.offsetAfter (bisectRight at' (w / 1000000) at'.length 0 at'.length))

/-- the instant of a wall clock reading with `fold = 0`. -/
def toUtc (z : Zone) (w : ℤ) : Instant := w - z.utcoffset w

/-- `ZoneInfo("UTC")`. -/
def utc : Zone := ⟨0, []⟩

@[simp] lemma localWall_utc (u : Instant) : utc.localWall u = u := by
  simp [localWall, offsetAt, utc, bisectRight, offsetAfter, offsets, seconds]

@[simp] lemma utcoffset_utc (w : ℤ) : utc.utcoffset w = 0 := by
  simp [utcoffset, utc, bisectRight, offsetAfter, offsets, seconds, wallChanges]

@[simp] lemma toUtc_utc (w : ℤ) : utc.toUtc w = w := by
  simp [toUtc]

end Zone

/-! ## weekly schedules -/

/-- an entry of a day: two texts, or something else. -/
inductive RawItem where
  | interval (start stop : String)
  | malformed
deriving DecidableEq, Repr

/-- weekday names with the entries of that day. -/
abbrev WeeklySchedule := List (String × List RawItem)

/-- the digits of `int()`, single underscores between them allowed. -/
def intDigits : List Char → ℕ → Option ℕ
  | [], acc => some acc
  | c :: cs, acc =>
    if c.isDigit then intDigits cs (acc * 10 + (c.toNat - '0'.toNat))
    else if c = '_' ∧ cs.head?.any Char.isDigit then intDigits cs acc
    else none

/-- `int()` on a text. -/
def pyInt (s : String) : Option ℤ :=
  let parse (cs : List Char) : Option ℕ :=
    if cs.head?.any Char.isDigit then intDigits cs 0 else none
  match (PyStr.strip s).toList with
  | '-' :: cs => (parse cs).map fun n => -(n : ℤ)
  | '+' :: cs => (parse cs).map fun n => (n : ℤ)
  | cs => (parse cs).map fun n => (n : ℤ)

/-- `_clock`: the minute of the day a text names. -/
def clock (value : String) : Except SLAConfigurationError ℤ :=
  let cs := value.toList
  let hour := cs.takeWhile (· != ':')
  match cs.dropWhile (· != ':') with
  | [] => .error ⟨"sla_schedule_time_invalid"⟩
  | _ :: minute =>
    match pyInt (String.ofList hour), pyInt (String.ofList minute) with
    | some h, some m =>
      if 0 ≤ h ∧ h < 24 ∧ 0 ≤ m ∧ m < 60 then .ok (h * 60 + m)
      else .error ⟨"sla_schedule_time_invalid"⟩
    | _, _ => .error ⟨"sla_schedule_time_invalid"⟩

/-- one entry of a day, in minutes of the day. -/
def parseItem : RawItem → Except SLAConfigurationError (ℤ × ℤ)
  | .malformed => .error ⟨"sla_schedule_interval_invalid"⟩
  | .interval start stop => do
    let s ← clock start
    let e ← clock stop
    if e ≤ s then .error ⟨"sla_schedule_interval_order_invalid"⟩ else .ok (s, e)

/-- some entry begins before its predecessor ends. -/
def overlaps (l : List (ℤ × ℤ)) : Bool := (l.zip l.tail).any fun p => decide (p.2.1 < p.1.2)

/-- `strftime("%A").lower()` of a day number. -/
def weekdayName (d : ℤ) : String :=
  match (d + 3) % 7 with
  | 0 => "monday"
  | 1 => "tuesday"
  | 2 => "wednesday"
  | 3 => "thursday"
  | 4 => "friday"
  | 5 => "saturday"
  | _ => "sunday"

def intervalsForDay (schedule : WeeklySchedule) (d : ℤ) :
    Except SLAConfigurationError (List (ℤ × ℤ)) := do
  let items ← ((schedule.lookup (weekdayName d)).getD []).mapM parseItem
  let sorted := items.insertionSort fun a b => a.1 ≤ b.1
  if overlaps sorted then .error ⟨"sla_schedule_interval_overlap"⟩ else .ok sorted

/-! ## calendars -/

/-- what the policy snapshot says about business time; `holidays` are day numbers. -/
structure Calendar where
  zone : Zone
  weeklySchedule : WeeklySchedule
  holidays : List ℤ

def onDay (d minute : ℤ) : ℤ := midnight d + minutes minute

namespace Calendar

/-- the business intervals of the local day `d`, on the wall clock. -/
def dayIntervals (c : Calendar) (d : ℤ) : Except SLAConfigurationError (List (ℤ × ℤ)) :=
  if d ∈ c.holidays then .ok []
  else (intervalsForDay c.weeklySchedule d).map fun l =>
    l.map fun I => (onDay d I.1, onDay d I.2)

/-- every day's entries parse: the schedule is one `_intervals_for_day` accepts. -/
def Accepted (c : Calendar) : Prop :=
  ∀ d, ∃ l, intervalsForDay c.weeklySchedule d = .ok l

/-- the business intervals of day `d`, nothing for a day that does not parse. -/
def intervals (c : Calendar) (d : ℤ) : List (ℤ × ℤ) :=
  match c.dayIntervals d with
  | .ok l => l
  | .error _ => []

/-- the business intervals of the `k` days from `d` on. -/
def openWall (c : Calendar) (d : ℤ) : ℕ → List (ℤ × ℤ)
  | 0 => []
  | k + 1 => c.intervals d ++ openWall c (d + 1) k

end Calendar

/-! ## accepted schedules are well formed -/

lemma clock_ok {value : String} {m : ℤ} (h : clock value = .ok m) : 0 ≤ m ∧ m < 1440 := by
  unfold clock at h
  simp only at h
  split at h
  · cases h
  · split at h
    · split at h
      · cases h
        omega
      · cases h
    · cases h

lemma parseItem_ok {item : RawItem} {I : ℤ × ℤ} (h : parseItem item = .ok I) :
    0 ≤ I.1 ∧ I.1 < I.2 ∧ I.2 < 1440 := by
  cases item with
  | malformed => cases h
  | interval start stop =>
    obtain ⟨s, hs, h⟩ := bind_eq_ok.1 h
    obtain ⟨e, he, h⟩ := bind_eq_ok.1 h
    split at h
    · cases h
    · cases h
      have hs' := clock_ok hs
      have he' := clock_ok he
      simp only
      omega

variable {l : List (ℤ × ℤ)}

lemma mapM_parseItem_ok {items : List RawItem} (h : items.mapM parseItem = .ok l) :
    ∀ I ∈ l, 0 ≤ I.1 ∧ I.1 < I.2 ∧ I.2 < 1440 := by
  induction items generalizing l with
  | nil =>
    cases h
    intro I hI
    cases hI
  | cons item rest ih =>
    rw [List.mapM_cons] at h
    obtain ⟨J, hJ, h⟩ := bind_eq_ok.1 h
    obtain ⟨l', hl', h⟩ := bind_eq_ok.1 h
    cases h
    intro I hI
    rcases List.mem_cons.1 hI with rfl | hI
    · exact parseItem_ok hJ
    · exact ih hl' I hI

lemma pairwise_of_not_overlaps (hne : ∀ I ∈ l, I.1 < I.2) (h : overlaps l = false) :
    l.Pairwise fun I J => I.2 ≤ J.1 := by
  induction l with
  | nil => exact List.Pairwise.nil
  | cons I rest ih =>
    cases rest with
    | nil => exact List.pairwise_singleton _ _
    | cons J rest =>
      have hstep : ¬ J.1 < I.2 ∧ overlaps (J :: rest) = false := by
        simpa [overlaps] using h
      have ih' := ih (fun K hK => hne K (List.mem_cons_of_mem _ hK)) hstep.2
      refine List.pairwise_cons.2 ⟨fun K hK => ?_, ih'⟩
      have hJ := hne J (by simp)
      rcases List.mem_cons.1 hK with rfl | hK
      · omega
      · have hJK := (List.pairwise_cons.1 ih').1 K hK
        omega

lemma intervalsForDay_ok {schedule : WeeklySchedule} {d : ℤ}
    (h : intervalsForDay schedule d = .ok l) :
    (∀ I ∈ l, 0 ≤ I.1 ∧ I.1 < I.2 ∧ I.2 < 1440) ∧ l.Pairwise fun I J => I.2 ≤ J.1 := by
  obtain ⟨items, hitems, h⟩ := bind_eq_ok.1 h
  simp only at h
  split at h
  · cases h
  · rename_i ho
    cases h
    have hall : ∀ I ∈ items.insertionSort fun a b => a.1 ≤ b.1,
        0 ≤ I.1 ∧ I.1 < I.2 ∧ I.2 < 1440 := by
      intro I hI
      exact mapM_parseItem_ok hitems I ((List.mem_insertionSort _).1 hI)
    exact ⟨hall, pairwise_of_not_overlaps (fun I hI => (hall I hI).2.1) (Bool.eq_false_iff.2 ho)⟩

namespace Calendar
variable (c : Calendar) {d : ℤ} {k : ℕ} {I : ℤ × ℤ}

lemma dayIntervals_eq (hc : c.Accepted) (d : ℤ) : c.dayIntervals d = .ok (c.intervals d) := by
  unfold intervals
  cases h : c.dayIntervals d with
  | ok l => rfl
  | error e =>
    exfalso
    obtain ⟨l, hl⟩ := hc d
    unfold dayIntervals at h
    rw [hl] at h
    split at h <;> cases h

lemma intervals_spec (d : ℤ) :
    Ordered (c.intervals d) ∧
      ∀ I ∈ c.intervals d, midnight d ≤ I.1 ∧ I.2 < midnight (d + 1) := by
  unfold intervals
  cases h : c.dayIntervals d with
  | error e => exact ⟨⟨by simp, List.Pairwise.nil⟩, by simp⟩
  | ok l =>
    unfold dayIntervals at h
    split at h
    · cases h
      exact ⟨⟨by simp, List.Pairwise.nil⟩, by simp⟩
    · cases hi : intervalsForDay c.weeklySchedule d with
      | error e =>
        rw [hi] at h
        cases h
      | ok l' =>
        rw [hi] at h
        cases h
        obtain ⟨hall, hpair⟩ := intervalsForDay_ok hi
        refine ⟨⟨fun I hI => ?_, hpair.map _ fun I J hIJ => ?_⟩, fun I hI => ?_⟩
        · obtain ⟨J, hJ, rfl⟩ := List.mem_map.1 hI
          have := hall J hJ
          simp only [onDay, minutes, seconds]
          omega
        · simp only [onDay, minutes, seconds]
          omega
        · obtain ⟨J, hJ, rfl⟩ := List.mem_map.1 hI
          have := hall J hJ
          simp only [onDay, minutes, seconds, midnight, dayLength]
          omega

lemma ordered_intervals (d : ℤ) : Ordered (c.intervals d) := (c.intervals_spec d).1

@[simp] lemma openWall_zero (d : ℤ) : c.openWall d 0 = [] := rfl

lemma openWall_succ (d : ℤ) (k : ℕ) :
    c.openWall d (k + 1) = c.intervals d ++ c.openWall (d + 1) k := rfl

lemma mem_openWall :
    I ∈ c.openWall d k ↔ ∃ e, d ≤ e ∧ e < d + k ∧ I ∈ c.intervals e := by
  induction k generalizing d with
  | zero =>
    simp only [openWall_zero, List.not_mem_nil, false_iff, not_exists, not_and]
    intro e h1 h2
    omega
  | succ k ih =>
    rw [openWall_succ, List.mem_append, ih]
    constructor
    · rintro (h | ⟨e, h1, h2, h3⟩)
      · exact ⟨d, le_rfl, by omega, h⟩
      · exact ⟨e, by omega, by push_cast; omega, h3⟩
    · rintro ⟨e, h1, h2, h3⟩
      rcases eq_or_lt_of_le h1 with rfl | h1
      · exact .inl h3
      · exact .inr ⟨e, by omega, by push_cast at h2; omega, h3⟩

lemma openWall_bounds (h : I ∈ c.openWall d k) :
    midnight d ≤ I.1 ∧ I.2 < midnight (d + k) := by
  obtain ⟨e, h1, h2, h3⟩ := c.mem_openWall.1 h
  obtain ⟨h4, h5⟩ := (c.intervals_spec e).2 I h3
  have hlo := midnight_le h1
  have hhi := midnight_le (show e + 1 ≤ d + k by omega)
  omega

lemma ordered_openWall (d : ℤ) (k : ℕ) : Ordered (c.openWall d k) := by
  induction k generalizing d with
  | zero => exact ⟨by simp, List.Pairwise.nil⟩
  | succ k ih =>
    rw [openWall_succ]
    refine (c.ordered_intervals d).append (ih (d + 1)) fun I hI J hJ => ?_
    have h1 := ((c.intervals_spec d).2 I hI).2
    have h2 := (c.openWall_bounds hJ).1
    omega

lemma openWall_add (d : ℤ) (j k : ℕ) :
    c.openWall d (j + k) = c.openWall d j ++ c.openWall (d + j) k := by
  induction j generalizing d with
  | zero => simp
  | succ j ih =>
    rw [Nat.add_right_comm, openWall_succ, openWall_succ, ih, List.append_assoc]
    congr 3
    push_cast
    ring

end Calendar

end NexusHelpdesk.Sla
