import NexusHelpdesk.Sla.BusinessTime

/-!
# Deadlines that move with the pauses

`apply_policy_to_ticket` of `sla_service.py`: two forward walks from the creation of the ticket,
the second one over the business seconds of its pauses.  The direct reading of the same promise is
a count of instants: the business time of a ticket that no pause covers.

* `totalPauseSeconds`, `applyPolicyToTicket`: the code;
* `businessAt`, `businessTime`: business instants, and how many lie in a period;
* `activeTime`: how many of them no pause covers;
* `PauseHistory`: whole-second pauses in order, apart from each other, only the last one open.

`applyPolicyToTicket_breach`: **a missed deadline means the budget is used up; and once every
closed pause is over, an overrun budget means the deadline is missed.**
`early_evaluation_misses_breach`: a closed pause that lies ahead of the evaluation hides a breach.
-/

namespace NexusHelpdesk.Sla
open Lib

/-! ## the code -/

structure PauseInterval where
  startedAt : Instant
  endedAt : Option Instant
  reasonCode : String
deriving DecidableEq

/-- what the assignment's snapshot says about deadlines. -/
structure PolicySnapshot where
  calendar : Calendar
  firstResponseMinutes : ℤ
  resolutionMinutes : ℤ
  riskWindowMinutes : ℤ

def PauseInterval.stop (now : Instant) (p : PauseInterval) : Instant := p.endedAt.getD now

/-- the turns of the loop of `total_pause_seconds`. -/
def sumPauses (c : Calendar) (now : Instant) : List PauseInterval →
    Except SLAConfigurationError ℤ
  | [] => .ok 0
  | p :: rest =>
    if p.stop now < p.startedAt then sumPauses c now rest
    else do
      let here ← businessSecondsBetween c p.startedAt (p.stop now)
      let more ← sumPauses c now rest
      return here + more

def totalPauseSeconds (c : Calendar) (pauses : List PauseInterval) (now : Instant) :
    Except SLAConfigurationError ℤ :=
  sumPauses c now (pauses.insertionSort fun p q => p.startedAt ≤ q.startedAt)

/-- the row of `ticket_sla_targets`. -/
structure SLATarget where
  firstResponseDueAt : Instant
  resolutionDueAt : Instant
  firstResponseRiskAt : Instant
  resolutionRiskAt : Instant
  pausedSeconds : ℤ
  calculatedAt : Instant
deriving DecidableEq

/-- a deadline moved on by the paused seconds, if there are any. -/
def extendDue (c : Calendar) (due : Instant) (paused : ℤ) :
    Except SLAConfigurationError Instant :=
  if paused ≠ 0 then addBusinessSeconds c due paused else .ok due

def applyPolicyToTicket (s : PolicySnapshot) (createdAt : Instant) (pauses : List PauseInterval)
    (now : Instant) : Except SLAConfigurationError SLATarget := do
  let firstDue ← addBusinessMinutes s.calendar createdAt s.firstResponseMinutes
  let resolutionDue ← addBusinessMinutes s.calendar createdAt s.resolutionMinutes
  let paused ← totalPauseSeconds s.calendar pauses now
  let firstDue ← extendDue s.calendar firstDue paused
  let resolutionDue ← extendDue s.calendar resolutionDue paused
  let riskWindow := minutes (max 0 s.riskWindowMinutes)
  return ⟨firstDue, resolutionDue, firstDue - riskWindow, resolutionDue - riskWindow, paused, now⟩

/-! ## the direct reading -/

/-- the instant is business time of a UTC calendar; without a schedule every instant is. -/
def businessAt (c : Calendar) (z : Instant) : Bool :=
  decide (c.weeklySchedule = []) || inside (c.intervals (dayOf z)) z

noncomputable def businessTime (c : Calendar) (x y : ℤ) : ℕ :=
  ((Finset.Ico x y).filter fun z => businessAt c z = true).card

def PauseInterval.covers (now : Instant) (p : PauseInterval) (z : Instant) : Bool :=
  decide (p.startedAt ≤ z ∧ z < p.stop now)

lemma PauseInterval.covers_iff (p : PauseInterval) {now z : Instant} :
    p.covers now z = true ↔ p.startedAt ≤ z ∧ z < p.stop now := by
  unfold PauseInterval.covers
  exact decide_eq_true_iff

/-- business time from `base` to `now` that no pause covers, in microseconds. -/
noncomputable def activeTime (c : Calendar) (base now : ℤ) (pauses : List PauseInterval) : ℕ :=
  ((Finset.Ico base now).filter fun z =>
    businessAt c z = true ∧ pauses.any (fun p => p.covers now z) = false).card

/-- a timestamp without a fraction of a second. -/
def WholeSecond (t : Instant) : Prop := (1000000 : ℤ) ∣ t

instance (t : Instant) : Decidable (WholeSecond t) :=
  inferInstanceAs (Decidable ((1000000 : ℤ) ∣ t))

/-- a history of pauses since `base`: whole seconds, in order, apart, only the last one open. -/
structure PauseHistory (base : Instant) (pauses : List PauseInterval) : Prop where
  since : ∀ p ∈ pauses, base ≤ p.startedAt
  wholeStart : ∀ p ∈ pauses, WholeSecond p.startedAt
  wholeEnd : ∀ p ∈ pauses, ∀ e, p.endedAt = some e → WholeSecond e
  apart : pauses.Pairwise fun p q => ∃ e, p.endedAt = some e ∧ e ≤ q.startedAt

/-! ## business time is additive -/

section BusinessTime
variable (c : Calendar)

lemma businessTime_add {x y z : ℤ} (hxy : x ≤ y) (hyz : y ≤ z) :
    businessTime c x y + businessTime c y z = businessTime c x z := by
  unfold businessTime
  rw [← Finset.Ico_union_Ico_eq_Ico hxy hyz, Finset.filter_union,
    Finset.card_union_of_disjoint]
  exact Finset.disjoint_filter_filter (Finset.Ico_disjoint_Ico_consecutive x y z)

lemma businessTime_mono (x : ℤ) {y z : ℤ} (hyz : y ≤ z) :
    businessTime c x y ≤ businessTime c x z :=
  Finset.card_le_card (Finset.filter_subset_filter _ (Finset.Ico_subset_Ico le_rfl hyz))

lemma businessTime_of_le {x y : ℤ} (h : y ≤ x) : businessTime c x y = 0 := by
  unfold businessTime
  rw [Finset.Ico_eq_empty (not_lt.2 h)]
  rfl

lemma businessTime_unscheduled (hs : c.weeklySchedule = []) {x y : ℤ} (h : x ≤ y) :
    (businessTime c x y : ℤ) = y - x := by
  unfold businessTime businessAt
  simp only [hs, decide_true, Bool.true_or, Finset.filter_true, Int.card_Ico]
  omega

lemma inside_openWall {d z : ℤ} {k : ℕ} (h₁ : d ≤ dayOf z) (h₂ : dayOf z < d + k) :
    inside (c.openWall d k) z = inside (c.intervals (dayOf z)) z := by
  rw [Bool.eq_iff_iff, inside_iff, inside_iff]
  constructor
  · rintro ⟨I, hI, hz⟩
    obtain ⟨e, -, -, hIe⟩ := c.mem_openWall.1 hI
    obtain ⟨hlo, hhi⟩ := (c.intervals_spec e).2 I hIe
    have hday : dayOf z = e := dayOf_eq_iff.2 ⟨by omega, by omega⟩
    exact ⟨I, by rw [hday]; exact hIe, hz⟩
  · rintro ⟨I, hI, hz⟩
    exact ⟨I, c.mem_openWall.2 ⟨dayOf z, h₁, h₂, hI⟩, hz⟩

lemma wholeSecond_intervals {d : ℤ} {I : ℤ × ℤ} (hI : I ∈ c.intervals d) :
    WholeSecond I.1 ∧ WholeSecond I.2 := by
  unfold Calendar.intervals at hI
  split at hI
  · rename_i l hl
    unfold Calendar.dayIntervals at hl
    split at hl
    · cases hl
      cases hI
    · cases hi : intervalsForDay c.weeklySchedule d with
      | error e =>
        rw [hi] at hl
        cases hl
      | ok l' =>
        rw [hi] at hl
        cases hl
        obtain ⟨J, -, rfl⟩ := List.mem_map.1 hI
        simp only [WholeSecond, onDay, midnight, dayLength, minutes, seconds]
        omega
  · cases hI

lemma total_eq_businessTime (hs : c.weeklySchedule ≠ []) {x y : ℤ} :
    total (c.openWall (dayOf x) (dayOf y + 1 - dayOf x).toNat) x y = businessTime c x y := by
  rw [← card_inside (c.ordered_openWall _ _), businessTime]
  congr 2
  refine Finset.filter_congr fun z hz => ?_
  obtain ⟨h₁, h₂⟩ := Finset.mem_Ico.1 hz
  have hd₁ := dayOf_le h₁
  have hd₂ := dayOf_le h₂.le
  rw [inside_openWall c hd₁ (by omega)]
  simp [businessAt, hs]

lemma addBusinessSeconds_businessTime (hz : c.zone = Zone.utc) (hc : c.Accepted)
    {x t : Instant} {n : ℤ} (h : addBusinessSeconds c x n = .ok t) :
    0 ≤ n ∧ x ≤ t ∧ (businessTime c x t : ℤ) = seconds n := by
  rcases lt_trichotomy n 0 with hn | rfl | hn
  · unfold addBusinessSeconds at h
    rw [if_pos hn] at h
    cases h
  · have ht : t = x := by
      unfold addBusinessSeconds at h
      simpa using h.symm
    subst ht
    exact ⟨le_rfl, le_rfl, by rw [businessTime_of_le c le_rfl]; rfl⟩
  · have hpos : 0 < seconds n := by
      unfold seconds
      omega
    by_cases hs : c.weeklySchedule = []
    · have ht : x + seconds n = t := by
        unfold addBusinessSeconds at h
        rw [if_neg (by omega), if_neg (by omega), if_pos hs] at h
        cases h
        rfl
      subst ht
      have hle : x ≤ x + seconds n := by linarith
      exact ⟨hn.le, hle, by rw [businessTime_unscheduled c hs hle, add_sub_cancel_left]⟩
    · obtain ⟨w, rfl, hlt, -, htot⟩ := addBusinessSeconds_ok hs hn h
      simp only [hz, Calendar.openFrom, Zone.localWall_utc, Zone.toUtc_utc] at hlt htot ⊢
      exact ⟨hn.le, hlt.le, by rw [← total_eq_businessTime c hs, htot]⟩

/-- business intervals begin and end on whole seconds, so whole-second periods overlap them by
whole seconds. -/
lemma dvd_businessTime {x y : ℤ} (hx : WholeSecond x) (hy : WholeSecond y) :
    (1000000 : ℤ) ∣ businessTime c x y := by
  rcases le_total y x with hle | hle
  · rw [businessTime_of_le c hle]
    exact dvd_zero _
  · by_cases hs : c.weeklySchedule = []
    · rw [businessTime_unscheduled c hs hle]
      exact dvd_sub hy hx
    · rw [← total_eq_businessTime c hs]
      refine List.dvd_sum fun v hv => ?_
      obtain ⟨I, hI, rfl⟩ := List.mem_map.1 hv
      obtain ⟨e, -, -, hIe⟩ := c.mem_openWall.1 hI
      obtain ⟨h₁, h₂⟩ := wholeSecond_intervals c hIe
      unfold WholeSecond at *
      unfold overlap
      omega

lemma businessSecondsBetween_businessTime (hz : c.zone = Zone.utc) (hc : c.Accepted)
    {x y : Instant} {k : ℤ} (hx : WholeSecond x) (hy : WholeSecond y)
    (h : businessSecondsBetween c x y = .ok k) : seconds k = businessTime c x y := by
  have hdvd := dvd_businessTime c hx hy
  have hk : k = (businessTime c x y : ℤ) / 1000000 := by
    unfold businessSecondsBetween at h
    by_cases hle : y ≤ x
    · rw [if_pos hle] at h
      cases h
      rw [businessTime_of_le c hle]
      rfl
    · rw [if_neg hle] at h
      by_cases hs : c.weeklySchedule = []
      · rw [if_pos hs] at h
        cases h
        rw [businessTime_unscheduled c hs (not_le.1 hle).le]
      · rw [if_neg hs] at h
        obtain ⟨sum, hsum, he⟩ := bind_eq_ok.1 h
        cases he
        have hday : dayOf (c.zone.localWall x) ≤ dayOf (c.zone.localWall y) + 1 := by
          rw [hz, Zone.localWall_utc, Zone.localWall_utc]
          have := dayOf_le (not_le.1 hle).le
          omega
        rw [sumDays_eq c hc _ _ _ _ _ _ hday] at hsum
        split at hsum
        · cases hsum
          have himage : ∀ L : List (ℤ × ℤ), L.map (imageUtc Zone.utc) = L := by
            intro L
            have hid : imageUtc Zone.utc = id := by
              funext I
              simp [imageUtc]
            rw [hid, List.map_id]
          rw [zero_add, hz, himage, Zone.localWall_utc, Zone.localWall_utc,
            total_eq_businessTime c hs]
        · cases hsum
  rw [hk, seconds]
  exact Int.ediv_mul_cancel hdvd

end BusinessTime

/-! ## paused time -/

section Paused
variable (c : Calendar) {base now : Instant} {pauses : List PauseInterval} {p : PauseInterval}
  {k : ℤ}

noncomputable def pausedTime (now : Instant) (pauses : List PauseInterval) : ℕ :=
  (pauses.map fun p => businessTime c p.startedAt (p.stop now)).sum

/-- business time from `base` to `now` that some pause covers, in microseconds. -/
noncomputable def coveredTime (base now : Instant) (pauses : List PauseInterval) : ℕ :=
  (((Finset.Ico base now).filter fun z => businessAt c z = true).filter fun z =>
    pauses.any (fun p => p.covers now z) = true).card

lemma wholeSecond_stop (h : PauseHistory base pauses) (hnow : WholeSecond now) (hp : p ∈ pauses) :
    WholeSecond (p.stop now) := by
  unfold PauseInterval.stop
  cases he : p.endedAt with
  | none => exact hnow
  | some e => exact h.wholeEnd p hp e he

lemma sumPauses_ok (hz : c.zone = Zone.utc) (hc : c.Accepted) {L : List PauseInterval}
    (hstart : ∀ p ∈ L, WholeSecond p.startedAt) (hstop : ∀ p ∈ L, WholeSecond (p.stop now))
    (h : sumPauses c now L = .ok k) : seconds k = pausedTime c now L := by
  induction L generalizing k with
  | nil =>
    cases h
    simp [seconds, pausedTime]
  | cons p rest ih =>
    have ih' := fun k hk => ih (k := k) (fun q hq => hstart q (List.mem_cons_of_mem _ hq))
      (fun q hq => hstop q (List.mem_cons_of_mem _ hq)) hk
    have hcons : pausedTime c now (p :: rest) =
        businessTime c p.startedAt (p.stop now) + pausedTime c now rest := rfl
    unfold sumPauses at h
    split at h
    · rename_i hskip
      rw [hcons, businessTime_of_le c hskip.le, zero_add]
      exact ih' k h
    · obtain ⟨here, hhere, h⟩ := bind_eq_ok.1 h
      obtain ⟨more, hmore, h⟩ := bind_eq_ok.1 h
      cases h
      have h₁ := businessSecondsBetween_businessTime c hz hc (hstart p List.mem_cons_self)
        (hstop p List.mem_cons_self) hhere
      rw [seconds_add, h₁, ih' more hmore, hcons]
      push_cast
      ring

lemma totalPauseSeconds_ok (hz : c.zone = Zone.utc) (hc : c.Accepted)
    (hh : PauseHistory base pauses) (hnow : WholeSecond now)
    (h : totalPauseSeconds c pauses now = .ok k) : seconds k = pausedTime c now pauses := by
  have hperm := List.perm_insertionSort (fun p q : PauseInterval => p.startedAt ≤ q.startedAt)
    pauses
  rw [sumPauses_ok c hz hc (fun p hp => hh.wholeStart p (hperm.mem_iff.1 hp))
    (fun p hp => wholeSecond_stop hh hnow (hperm.mem_iff.1 hp)) h]
  unfold pausedTime
  rw [(hperm.map _).sum_eq]

lemma activeTime_add_coveredTime :
    activeTime c base now pauses + coveredTime c base now pauses = businessTime c base now := by
  have hactive : activeTime c base now pauses =
      (((Finset.Ico base now).filter fun z => businessAt c z = true).filter fun z =>
        ¬ pauses.any (fun p => p.covers now z) = true).card := by
    unfold activeTime
    rw [Finset.filter_filter]
    simp only [Bool.not_eq_true]
  rw [hactive, coveredTime, businessTime, add_comm]
  exact Finset.card_filter_add_card_filter_not _

lemma card_covers (hp : base ≤ p.startedAt) :
    (((Finset.Ico base now).filter fun z => businessAt c z = true).filter fun z =>
      p.covers now z = true).card = businessTime c p.startedAt (min now (p.stop now)) := by
  unfold businessTime
  congr 1
  ext z
  simp only [PauseInterval.covers_iff, Finset.mem_filter, Finset.mem_Ico, lt_min_iff]
  constructor
  · rintro ⟨⟨⟨-, h2⟩, hb⟩, h3, h4⟩
    exact ⟨⟨h3, h2, h4⟩, hb⟩
  · rintro ⟨⟨h3, h2, h4⟩, hb⟩
    exact ⟨⟨⟨hp.trans h3, h2⟩, hb⟩, h3, h4⟩

lemma coveredTime_eq (h : PauseHistory base pauses) :
    coveredTime c base now pauses =
      (pauses.map fun p => businessTime c p.startedAt (min now (p.stop now))).sum := by
  have hapart : pauses.Pairwise fun p q => ∀ z, p.covers now z = true → q.covers now z = true →
      False := by
    refine h.apart.imp fun {p q} hpq z hp hq => ?_
    obtain ⟨e, he, hle⟩ := hpq
    have hp' : z < e := by
      have h₁ := (p.covers_iff.1 hp).2
      rwa [PauseInterval.stop, he] at h₁
    exact absurd (hle.trans (q.covers_iff.1 hq).1) (not_le.2 hp')
  unfold coveredTime
  rw [card_filter_exists _ (fun (p : PauseInterval) z => p.covers now z) hapart]
  congr 1
  exact List.map_congr_left fun p hp => card_covers c (h.since p hp)

lemma coveredTime_le (h : PauseHistory base pauses) :
    coveredTime c base now pauses ≤ pausedTime c now pauses := by
  rw [coveredTime_eq c h]
  refine List.sum_le_sum fun p _ => ?_
  exact businessTime_mono c _ (min_le_right _ _)

lemma coveredTime_eq_pausedTime (h : PauseHistory base pauses)
    (hover : ∀ p ∈ pauses, ∀ e, p.endedAt = some e → e ≤ now) :
    coveredTime c base now pauses = pausedTime c now pauses := by
  rw [coveredTime_eq c h, pausedTime]
  congr 1
  refine List.map_congr_left fun p hp => ?_
  have hle : p.stop now ≤ now := by
    unfold PauseInterval.stop
    cases he : p.endedAt with
    | none => exact le_rfl
    | some e => exact hover p hp e he
  rw [min_eq_right hle]

end Paused

/-! ## what a missed deadline means -/

lemma applyPolicyToTicket_resolution {s : PolicySnapshot} {base now : Instant}
    {pauses : List PauseInterval} {target : SLATarget} (hz : s.calendar.zone = Zone.utc)
    (hc : s.calendar.Accepted) (hh : PauseHistory base pauses) (hnow : WholeSecond now)
    (h : applyPolicyToTicket s base pauses now = .ok target) :
    0 ≤ s.resolutionMinutes ∧ base ≤ target.resolutionDueAt ∧
      (businessTime s.calendar base target.resolutionDueAt : ℤ) =
        minutes s.resolutionMinutes + pausedTime s.calendar now pauses := by
  obtain ⟨first, -, h⟩ := bind_eq_ok.1 h
  obtain ⟨due, hdue, h⟩ := bind_eq_ok.1 h
  obtain ⟨paused, hpaused, h⟩ := bind_eq_ok.1 h
  obtain ⟨first', -, h⟩ := bind_eq_ok.1 h
  obtain ⟨due', hdue', h⟩ := bind_eq_ok.1 h
  cases h
  have hbudget : 0 ≤ s.resolutionMinutes ∧ base ≤ due ∧
      (businessTime s.calendar base due : ℤ) = minutes s.resolutionMinutes := by
    unfold addBusinessMinutes at hdue
    split at hdue
    · cases hdue
    · obtain ⟨-, hle, hbt⟩ := addBusinessSeconds_businessTime _ hz hc hdue
      exact ⟨by omega, hle, hbt⟩
  obtain ⟨hr, hle, hbt⟩ := hbudget
  have hpause := totalPauseSeconds_ok _ hz hc hh hnow hpaused
  have hsecond : due ≤ due' ∧ (businessTime s.calendar due due' : ℤ) = seconds paused := by
    unfold extendDue at hdue'
    split at hdue'
    · obtain ⟨-, hle', hbt'⟩ := addBusinessSeconds_businessTime _ hz hc hdue'
      exact ⟨hle', hbt'⟩
    · rename_i hzero
      cases hdue'
      have hp : paused = 0 := not_not.1 hzero
      rw [businessTime_of_le _ le_rfl, hp]
      exact ⟨le_rfl, rfl⟩
  refine ⟨hr, hle.trans hsecond.1, ?_⟩
  rw [← businessTime_add _ hle hsecond.1, Nat.cast_add, hbt, hsecond.2, hpause]

/-- a missed resolution deadline means the budget is used up, and an overrun budget means the
deadline is missed. -/
def BreachMeansConsumed (s : PolicySnapshot) (base now due : Instant)
    (pauses : List PauseInterval) : Prop :=
  (due < now → minutes s.resolutionMinutes ≤ activeTime s.calendar base now pauses) ∧
    (minutes s.resolutionMinutes < activeTime s.calendar base now pauses → due < now)

theorem applyPolicyToTicket_breach (s : PolicySnapshot) (base now : Instant)
    (pauses : List PauseInterval) (target : SLATarget) (hz : s.calendar.zone = Zone.utc)
    (hc : s.calendar.Accepted) (hh : PauseHistory base pauses) (hnow : WholeSecond now)
    (h : applyPolicyToTicket s base pauses now = .ok target) :
    (target.resolutionDueAt < now →
      minutes s.resolutionMinutes ≤ activeTime s.calendar base now pauses) ∧
    ((∀ p ∈ pauses, ∀ e, p.endedAt = some e → e ≤ now) →
      BreachMeansConsumed s base now target.resolutionDueAt pauses) := by
  obtain ⟨hr, hle, hbt⟩ := applyPolicyToTicket_resolution hz hc hh hnow h
  have hsum : activeTime s.calendar base now pauses + coveredTime s.calendar base now pauses =
      businessTime s.calendar base now := activeTime_add_coveredTime s.calendar
  have hmissed : target.resolutionDueAt < now →
      minutes s.resolutionMinutes ≤ activeTime s.calendar base now pauses := by
    intro hlt
    have hmono := businessTime_mono s.calendar base hlt.le
    have hcov : coveredTime s.calendar base now pauses ≤ pausedTime s.calendar now pauses :=
      coveredTime_le s.calendar hh
    omega
  refine ⟨hmissed, fun hover => ⟨hmissed, fun hlt => ?_⟩⟩
  by_contra hnot
  have hmono := businessTime_mono s.calendar base (not_lt.1 hnot)
  have hcov := coveredTime_eq_pausedTime s.calendar hh hover
  omega

/-- one minute to resolve, around the clock. -/
def oneMinute : PolicySnapshot := ⟨⟨Zone.utc, [], []⟩, 1, 1, 0⟩

lemma oneMinute_accepted : oneMinute.calendar.Accepted := fun _ => ⟨[], rfl⟩

lemma pauseHistory_single {base start e : Instant} {reason : String} (hbase : base ≤ start)
    (hstart : WholeSecond start) (hend : WholeSecond e) :
    PauseHistory base [⟨start, some e, reason⟩] := by
  refine ⟨?_, ?_, ?_, List.pairwise_singleton _ _⟩
  · intro p hp
    rw [List.mem_singleton.1 hp]
    exact hbase
  · intro p hp
    rw [List.mem_singleton.1 hp]
    exact hstart
  · intro p hp e' he'
    rw [List.mem_singleton.1 hp] at he'
    cases he'
    exact hend

/-- with a pause from second 30 to second 50 the minute is over at second 80. -/
theorem applyPolicyToTicket_breach_after_pause :
    ((applyPolicyToTicket oneMinute 0 [⟨seconds 30, some (seconds 50), "waiting_customer"⟩]
      (seconds 120)).map SLATarget.resolutionDueAt = .ok (seconds 80)) ∧
    BreachMeansConsumed oneMinute 0 (seconds 120) (seconds 80)
      [⟨seconds 30, some (seconds 50), "waiting_customer"⟩] := by
  refine ⟨by decide +kernel, ?_⟩
  refine (applyPolicyToTicket_breach oneMinute 0 (seconds 120)
    [⟨seconds 30, some (seconds 50), "waiting_customer"⟩]
    ⟨seconds 80, seconds 80, seconds 80, seconds 80, 20, seconds 120⟩ rfl oneMinute_accepted
    (pauseHistory_single (by decide +kernel) (by decide +kernel) (by decide +kernel))
    (by decide +kernel) (by decide +kernel)).2 ?_
  intro p hp e he
  rw [List.mem_singleton.1 hp] at he
  cases he
  decide +kernel

/-- a pause from second 300 to second 400, evaluated at second 120: the minute ran out at second
60, and the deadline has already been moved to second 160. -/
theorem early_evaluation_misses_breach :
    ((applyPolicyToTicket oneMinute 0 [⟨seconds 300, some (seconds 400), "waiting_customer"⟩]
      (seconds 120)).map SLATarget.resolutionDueAt = .ok (seconds 160)) ∧
    PauseHistory 0 [⟨seconds 300, some (seconds 400), "waiting_customer"⟩] ∧
    ¬ BreachMeansConsumed oneMinute 0 (seconds 120) (seconds 160)
      [⟨seconds 300, some (seconds 400), "waiting_customer"⟩] := by
  refine ⟨by decide +kernel,
    pauseHistory_single (by decide +kernel) (by decide +kernel) (by decide +kernel), ?_⟩
  rintro ⟨-, h⟩
  have hactive : activeTime oneMinute.calendar 0 (seconds 120)
      [⟨seconds 300, some (seconds 400), "waiting_customer"⟩] = 120000000 := by
    unfold activeTime
    rw [Finset.filter_true_of_mem, Int.card_Ico]
    · rfl
    · intro z hz
      refine ⟨rfl, ?_⟩
      rw [List.any_cons, List.any_nil, Bool.or_false, Bool.eq_false_iff]
      intro hcov
      have h₁ : (300000000 : ℤ) ≤ z := (PauseInterval.covers_iff _).1 hcov |>.1
      have h₂ : z < (120000000 : ℤ) := (Finset.mem_Ico.1 hz).2
      exact absurd (h₁.trans_lt h₂) (by decide)
  rw [hactive] at h
  exact absurd (h (by decide +kernel)) (by decide +kernel)

end NexusHelpdesk.Sla
