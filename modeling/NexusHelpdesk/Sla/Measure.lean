import NexusHelpdesk.Sla.BusinessTime

/-!
# Elapsed business time as a measure

`business_seconds_between` converts each business interval to UTC by its two ends and adds up what
lies between the two instants, over the local days from the one to the other.

* `Calendar.dayTotal e x y`: what the local day `e` adds;
* `businessSecondsBetween_within`: the result as a sum over the local days;
* `OnAt z I t`: the interval is on, as instants, at the second `t`;
* `Calendar.Undisturbed`: as instants no two intervals are on together, and while an interval of a
  local day is on, neither an earlier instant has a later local day nor a later one an earlier;
* `Calendar.IsMeasure`: between nothing and the seconds there are, and additive.

`isMeasure_iff`: **business time is a measure exactly of the undisturbed calendars.**
`berlinNights`: an end in the hour that is skipped counts half an hour twice.
-/

namespace NexusHelpdesk.Sla
open Lib

/-! ## the sum over the days -/

/-- the business time of the local day `e` between two instants. -/
def Calendar.dayTotal (c : Calendar) (x y e : ℤ) : ℤ :=
  total ((c.intervals e).map (imageUtc c.zone)) x y

def Zone.dayAt (z : Zone) (t : ℤ) : ℤ := dayOf (z.localWall (seconds t))

/-- the interval is on, as instants, at the second `t`. -/
def OnAt (z : Zone) (I : ℤ × ℤ) (t : ℤ) : Prop :=
  (imageUtc z I).1 ≤ seconds t ∧ seconds t < (imageUtc z I).2

lemma dayTotal_nonneg (c : Calendar) (x y e : ℤ) : 0 ≤ c.dayTotal x y e := total_nonneg _ _ _

lemma dayTotal_trans (c : Calendar) {x y z : ℤ} (hxy : x ≤ y) (hyz : y ≤ z) (e : ℤ) :
    c.dayTotal x y e + c.dayTotal y z e = c.dayTotal x z e := total_trans hxy hyz _

lemma total_imageUtc (c : Calendar) (d : ℤ) (k : ℕ) (x y : ℤ) :
    total ((c.openWall d k).map (imageUtc c.zone)) x y =
      ∑ e ∈ Finset.Ico d (d + k), c.dayTotal x y e := by
  induction k generalizing d with
  | zero => simp
  | succ k ih =>
    have hdays : Finset.Ico d (d + (k + 1 : ℕ)) = insert d (Finset.Ico (d + 1) (d + 1 + k)) := by
      ext e
      simp only [Finset.mem_Ico, Finset.mem_insert]
      push_cast
      omega
    rw [c.openWall_succ, List.map_append, total_append, ih, hdays,
      Finset.sum_insert (by simp), Calendar.dayTotal]

variable {c : Calendar} {a b e t : ℤ} {I : ℤ × ℤ} {z : Zone}

lemma businessSecondsBetween_within (hc : c.Accepted) (hs : c.weeklySchedule ≠ [])
    (hab : a ≤ b) (hhor : c.zone.dayAt b + 1 - c.zone.dayAt a < horizonDays) :
    businessSecondsBetween c (seconds a) (seconds b) =
      .ok ((∑ e ∈ Finset.Icc (c.zone.dayAt a) (c.zone.dayAt b),
        c.dayTotal (seconds a) (seconds b) e) / 1000000) := by
  unfold businessSecondsBetween
  by_cases hle : seconds b ≤ seconds a
  · -- nothing lies between an instant and itself
    have hzero : ∀ e ∈ Finset.Icc (c.zone.dayAt a) (c.zone.dayAt b),
        c.dayTotal (seconds a) (seconds b) e = 0 := fun e _ =>
      total_eq_zero fun I _ =>
        overlap_eq_zero ((min_le_left _ _).trans (hle.trans (le_max_left _ _)))
    rw [if_pos hle, Finset.sum_eq_zero hzero]
    rfl
  · rw [if_neg hle, if_neg hs]
    simp only []
    by_cases hback : c.zone.dayAt b + 1 < c.zone.dayAt a
    · -- the clock fell back over midnights: the walk ends before the first day
      have hstop : sumDays c (seconds a) (seconds b) (c.zone.dayAt b) horizonDays
          (c.zone.dayAt a) 0 = .ok 0 := by
        unfold horizonDays sumDays
        rw [if_pos (by omega)]
        rfl
      rw [Finset.Icc_eq_empty (by omega), Finset.sum_empty]
      change (do return (← sumDays c (seconds a) (seconds b) (c.zone.dayAt b) horizonDays
        (c.zone.dayAt a) 0) / 1000000) = _
      rw [hstop]
      rfl
    · have hwalk := sumDays_eq c hc (seconds a) (seconds b) (c.zone.dayAt b) horizonDays
        (c.zone.dayAt a) 0 (by omega)
      have hdays : Finset.Ico (c.zone.dayAt a)
          (c.zone.dayAt a + ((c.zone.dayAt b + 1 - c.zone.dayAt a).toNat : ℤ)) =
          Finset.Icc (c.zone.dayAt a) (c.zone.dayAt b) := by
        ext e
        simp only [Finset.mem_Ico, Finset.mem_Icc]
        omega
      rw [if_pos hhor, zero_add, total_imageUtc, hdays] at hwalk
      change (do return (← sumDays c (seconds a) (seconds b) (c.zone.dayAt b) horizonDays
        (c.zone.dayAt a) 0) / 1000000) = _
      rw [hwalk]
      rfl

lemma businessSecondsBetween_ok (hc : c.Accepted) (hs : c.weeklySchedule ≠ [])
    {x : ℤ} (hab : a ≤ b) (h : businessSecondsBetween c (seconds a) (seconds b) = .ok x) :
    x = (∑ e ∈ Finset.Icc (c.zone.dayAt a) (c.zone.dayAt b),
      c.dayTotal (seconds a) (seconds b) e) / 1000000 := by
  by_cases hhor : c.zone.dayAt b + 1 - c.zone.dayAt a < horizonDays
  · rw [businessSecondsBetween_within hc hs hab hhor] at h
    cases h
    rfl
  · unfold businessSecondsBetween at h
    by_cases hle : seconds b ≤ seconds a
    · -- one instant has one local day
      have heq : a = b := by
        unfold seconds at hle
        omega
      subst heq
      unfold horizonDays at hhor
      omega
    · rw [if_neg hle, if_neg hs] at h
      have hwalk := sumDays_eq c hc (seconds a) (seconds b) (c.zone.dayAt b) horizonDays
        (c.zone.dayAt a) 0 (by unfold horizonDays at hhor; omega)
      rw [if_neg hhor] at hwalk
      change (do return (← sumDays c (seconds a) (seconds b) (c.zone.dayAt b) horizonDays
        (c.zone.dayAt a) 0) / 1000000) = _ at h
      rw [hwalk] at h
      cases h

lemma whole_image (hI : I ∈ c.intervals e) :
    ∃ p q, imageUtc c.zone I = (seconds p, seconds q) := by
  have hwall : ∃ m n, I = (onDay e m, onDay e n) := by
    unfold Calendar.intervals at hI
    cases hday : c.dayIntervals e with
    | error err =>
      rw [hday] at hI
      cases hI
    | ok l =>
      rw [hday] at hI
      unfold Calendar.dayIntervals at hday
      split at hday
      · cases hday
        cases hI
      · cases hraw : intervalsForDay c.weeklySchedule e with
        | error err =>
          rw [hraw] at hday
          cases hday
        | ok l' =>
          rw [hraw] at hday
          cases hday
          obtain ⟨J, -, rfl⟩ := List.mem_map.1 hI
          exact ⟨J.1, J.2, rfl⟩
  obtain ⟨m, n, rfl⟩ := hwall
  have hwhole : ∀ w, ∃ p, c.zone.toUtc (onDay e w) = seconds p := by
    intro w
    refine ⟨e * 86400 + w * 60 - c.zone.offsetAfter (bisectRight c.zone.wallChanges
      (onDay e w / 1000000) c.zone.wallChanges.length 0 c.zone.wallChanges.length), ?_⟩
    unfold Zone.toUtc Zone.utcoffset
    simp only [onDay, midnight, dayLength, minutes, seconds]
    ring
  obtain ⟨p, hp⟩ := hwhole m
  obtain ⟨q, hq⟩ := hwhole n
  refine ⟨p, q, ?_⟩
  unfold imageUtc
  rw [hp, hq]

lemma whole_overlap (a b p q : ℤ) :
    overlap (seconds a) (seconds b) (seconds p, seconds q) = seconds (overlap a b (p, q)) := by
  unfold overlap seconds
  omega

lemma whole_dayTotal (c : Calendar) (a b e : ℤ) :
    ∃ n, c.dayTotal (seconds a) (seconds b) e = seconds n := by
  have hlist : ∀ L : List (ℤ × ℤ), (∀ I ∈ L, I ∈ c.intervals e) →
      ∃ n, total (L.map (imageUtc c.zone)) (seconds a) (seconds b) = seconds n := by
    intro L hL
    induction L with
    | nil => exact ⟨0, rfl⟩
    | cons I L ih =>
      obtain ⟨n, hn⟩ := ih fun J hJ => hL J (List.mem_cons_of_mem _ hJ)
      obtain ⟨p, q, hpq⟩ := whole_image (hL I List.mem_cons_self)
      refine ⟨overlap a b (p, q) + n, ?_⟩
      rw [List.map_cons, total_cons, hn, hpq, whole_overlap, seconds_add]
  exact hlist _ fun I hI => hI

lemma overlap_of_onAt (hI : I ∈ c.intervals e) (hon : OnAt c.zone I t) (ha : a ≤ t) (hb : t < b) :
    seconds 1 ≤ overlap (seconds a) (seconds b) (imageUtc c.zone I) := by
  obtain ⟨p, q, hpq⟩ := whole_image hI
  unfold OnAt at hon
  rw [hpq] at hon ⊢
  unfold overlap seconds at *
  simp only at *
  omega

/-! ## undisturbed calendars -/

/-- the changes of the clock leave the business intervals apart and on their days. -/
structure Calendar.Undisturbed (c : Calendar) : Prop where
  /-- no two business intervals are on at one second. -/
  apart : ∀ d k, (c.openWall d k).Pairwise fun I J => ∀ t, OnAt c.zone I t → ¬ OnAt c.zone J t
  /-- while an interval of the day `e` is on, no later local day has been. -/
  behind : ∀ e, ∀ I ∈ c.intervals e, ∀ t b, OnAt c.zone I t → b ≤ t → c.zone.dayAt b ≤ e
  /-- while an interval of the day `e` is on, no earlier local day comes again. -/
  ahead : ∀ e, ∀ I ∈ c.intervals e, ∀ t b, OnAt c.zone I t → t < b → e ≤ c.zone.dayAt b

/-- elapsed business time is a measure, wherever the walk reaches. -/
def Calendar.IsMeasure (c : Calendar) : Prop :=
  ∀ a b d x y z : ℤ, a ≤ b → b ≤ d →
    businessSecondsBetween c (seconds a) (seconds b) = .ok x →
    businessSecondsBetween c (seconds b) (seconds d) = .ok y →
    businessSecondsBetween c (seconds a) (seconds d) = .ok z →
    0 ≤ x ∧ x ≤ b - a ∧ x + y = z

lemma onAt_of_le {u : ℤ} (hI : I ∈ c.intervals e)
    (h₁ : (imageUtc c.zone I).1 ≤ u) (h₂ : u < (imageUtc c.zone I).2) :
    OnAt c.zone I (u / 1000000) := by
  obtain ⟨p, q, hpq⟩ := whole_image hI
  unfold OnAt
  rw [hpq] at h₁ h₂ ⊢
  unfold seconds at *
  simp only at *
  omega

lemma exists_onAt (h : 0 < c.dayTotal (seconds a) (seconds b) e) :
    ∃ I ∈ c.intervals e, ∃ t, OnAt c.zone I t ∧ a ≤ t ∧ t < b := by
  by_contra hcon
  push Not at hcon
  refine h.ne' (total_eq_zero fun K hK => overlap_eq_zero ?_)
  obtain ⟨I, hI, rfl⟩ := List.mem_map.1 hK
  by_contra hpos
  -- the first instant the interval has between the two
  have hmax := le_max_right (seconds a) (imageUtc c.zone I).1
  have hmax' := le_max_left (seconds a) (imageUtc c.zone I).1
  have hmin := min_le_right (seconds b) (imageUtc c.zone I).2
  have hmin' := min_le_left (seconds b) (imageUtc c.zone I).2
  have hon := onAt_of_le hI hmax ((not_le.1 hpos).trans_le hmin)
  have hlt := hcon I hI _ hon (by unfold seconds at *; omega)
  unfold seconds at *
  omega

lemma Calendar.Undisturbed.outside (hc : c.Undisturbed)
    (he : e ∉ Finset.Icc (c.zone.dayAt a) (c.zone.dayAt b)) :
    c.dayTotal (seconds a) (seconds b) e = 0 := by
  by_contra hne
  have hpos := (dayTotal_nonneg c (seconds a) (seconds b) e).lt_of_ne' hne
  obtain ⟨I, hI, t, hon, hat, htb⟩ := exists_onAt hpos
  exact he (Finset.mem_Icc.2 ⟨hc.behind e I hI _ _ hon hat, hc.ahead e I hI _ _ hon htb⟩)

lemma Calendar.Undisturbed.sum_eq (hc : c.Undisturbed) {lo hi : ℤ}
    (hlo : lo ≤ c.zone.dayAt a) (hhi : c.zone.dayAt b ≤ hi) :
    ∑ e ∈ Finset.Icc (c.zone.dayAt a) (c.zone.dayAt b), c.dayTotal (seconds a) (seconds b) e =
      ∑ e ∈ Finset.Icc lo hi, c.dayTotal (seconds a) (seconds b) e :=
  Finset.sum_subset (Finset.Icc_subset_Icc hlo hhi) fun e _ he => hc.outside he

lemma Calendar.Undisturbed.sum_le (hc : c.Undisturbed) (hab : a ≤ b) (lo hi : ℤ) :
    ∑ e ∈ Finset.Icc lo hi, c.dayTotal (seconds a) (seconds b) e ≤ seconds b - seconds a := by
  have hdays : Finset.Icc lo hi ⊆ Finset.Ico lo (lo + ((hi + 1 - lo).toNat : ℤ)) := by
    intro e he
    rw [Finset.mem_Icc] at he
    rw [Finset.mem_Ico]
    omega
  have hapart : ((c.openWall lo (hi + 1 - lo).toNat).map (imageUtc c.zone)).Pairwise
      fun I J => ∀ z, I.1 ≤ z → z < I.2 → J.1 ≤ z → z < J.2 → False := by
    refine List.pairwise_map.2 ((hc.apart lo _).imp_of_mem fun hI hJ hIJ z h₁ h₂ h₃ h₄ => ?_)
    obtain ⟨d, -, -, hI⟩ := c.mem_openWall.1 hI
    obtain ⟨d', -, -, hJ⟩ := c.mem_openWall.1 hJ
    exact hIJ _ (onAt_of_le hI h₁ h₂) (onAt_of_le hJ h₃ h₄)
  have hle : seconds a ≤ seconds b := by
    unfold seconds
    omega
  calc ∑ e ∈ Finset.Icc lo hi, c.dayTotal (seconds a) (seconds b) e
      ≤ ∑ e ∈ Finset.Ico lo (lo + ((hi + 1 - lo).toNat : ℤ)),
          c.dayTotal (seconds a) (seconds b) e :=
        Finset.sum_le_sum_of_subset_of_nonneg hdays fun e _ _ => dayTotal_nonneg _ _ _ _
    _ = total ((c.openWall lo (hi + 1 - lo).toNat).map (imageUtc c.zone)) (seconds a)
          (seconds b) := (total_imageUtc c lo _ _ _).symm
    _ ≤ seconds b - seconds a := total_le_of_apart hapart hle

lemma whole_sum (c : Calendar) (a b : ℤ) (D : Finset ℤ) :
    ∃ n, ∑ e ∈ D, c.dayTotal (seconds a) (seconds b) e = seconds n := by
  induction D using Finset.induction_on with
  | empty => exact ⟨0, rfl⟩
  | insert e D he ih =>
    obtain ⟨n, hn⟩ := ih
    obtain ⟨m, hm⟩ := whole_dayTotal c a b e
    exact ⟨m + n, by rw [Finset.sum_insert he, hn, hm, seconds_add]⟩

lemma Calendar.Undisturbed.isMeasure (hu : c.Undisturbed) (hc : c.Accepted)
    (hs : c.weeklySchedule ≠ []) : c.IsMeasure := by
  intro a b d x y z hab hbd hx hy hz
  have hx' := businessSecondsBetween_ok hc hs hab hx
  have hy' := businessSecondsBetween_ok hc hs hbd hy
  have hz' := businessSecondsBetween_ok hc hs (hab.trans hbd) hz
  -- all three are sums over the same days
  obtain ⟨lo, hlo⟩ : ∃ lo, lo = min (c.zone.dayAt a) (c.zone.dayAt b) := ⟨_, rfl⟩
  obtain ⟨hi, hhi⟩ : ∃ hi, hi = max (c.zone.dayAt b) (c.zone.dayAt d) := ⟨_, rfl⟩
  rw [hu.sum_eq (show lo ≤ _ by omega) (show _ ≤ hi by omega)] at hx' hy' hz'
  have hadd : ∑ e ∈ Finset.Icc lo hi, c.dayTotal (seconds a) (seconds b) e +
      ∑ e ∈ Finset.Icc lo hi, c.dayTotal (seconds b) (seconds d) e =
      ∑ e ∈ Finset.Icc lo hi, c.dayTotal (seconds a) (seconds d) e := by
    rw [← Finset.sum_add_distrib]
    refine Finset.sum_congr rfl fun e _ => dayTotal_trans c ?_ ?_ e <;> unfold seconds <;> omega
  have hnonneg : 0 ≤ ∑ e ∈ Finset.Icc lo hi, c.dayTotal (seconds a) (seconds b) e :=
    Finset.sum_nonneg fun e _ => dayTotal_nonneg _ _ _ _
  have hle := hu.sum_le hab lo hi
  obtain ⟨n, hn⟩ := whole_sum c a b (Finset.Icc lo hi)
  obtain ⟨m, hm⟩ := whole_sum c b d (Finset.Icc lo hi)
  rw [hn] at hx' hadd hnonneg hle
  rw [hm] at hy' hadd
  rw [← hadd] at hz'
  unfold seconds at *
  omega

/-! ## measuring calendars are undisturbed -/

/-- the offsets stay within a day, as `datetime` has it. -/
def Zone.Bounded (z : Zone) : Prop := ∀ o ∈ z.offsets, -86400 < o ∧ o < 86400

lemma offsetAfter_mem (z : Zone) (i : ℕ) : z.offsetAfter i ∈ z.offsets := by
  unfold Zone.offsetAfter
  rw [List.getD_eq_getElem?_getD]
  cases h : z.offsets[i]? with
  | none => exact List.mem_cons_self
  | some o => exact List.mem_of_getElem? h

lemma Zone.Bounded.localWall (hz : z.Bounded) (u : ℤ) :
    u - dayLength < z.localWall u ∧ z.localWall u < u + dayLength := by
  have hoff : -86400 < z.offsetAt u ∧ z.offsetAt u < 86400 := hz _ (offsetAfter_mem z _)
  unfold Zone.localWall seconds dayLength
  omega

lemma Zone.Bounded.image (hz : z.Bounded) (I : ℤ × ℤ) :
    I.1 - dayLength < (imageUtc z I).1 ∧ (imageUtc z I).2 < I.2 + dayLength := by
  have hoff : ∀ w, ∃ o, z.utcoffset w = seconds o ∧ -86400 < o ∧ o < 86400 := fun w =>
    ⟨_, rfl, hz _ (offsetAfter_mem z _)⟩
  obtain ⟨o, ho, h₁, h₂⟩ := hoff I.1
  obtain ⟨o', ho', h₃, h₄⟩ := hoff I.2
  unfold imageUtc Zone.toUtc
  rw [ho, ho']
  unfold seconds dayLength
  omega

lemma Zone.Bounded.dayAt (hz : z.Bounded) (h₁ : midnight e ≤ seconds t)
    (h₂ : seconds t < midnight (e + 1)) : e - 1 ≤ z.dayAt t ∧ z.dayAt t ≤ e + 1 := by
  have hwall := hz.localWall (seconds t)
  unfold Zone.dayAt dayOf midnight dayLength at *
  omega

lemma Zone.Bounded.onAt (hz : c.zone.Bounded) (hI : I ∈ c.intervals e) (hon : OnAt c.zone I t) :
    midnight (e - 1) ≤ seconds t ∧ seconds t < midnight (e + 2) := by
  have hends := hz.image I
  obtain ⟨hlo, hhi⟩ := (c.intervals_spec e).2 I hI
  unfold OnAt at hon
  unfold midnight dayLength at *
  omega

lemma sum_missing {f : ℤ → ℤ} (hf : ∀ e, 0 ≤ f e) {D E : Finset ℤ} (hD : D ⊆ E)
    (he : e ∈ E) (hne : e ∉ D) : ∑ d ∈ D, f d + f e ≤ ∑ d ∈ E, f d := by
  rw [add_comm, ← Finset.sum_insert hne]
  exact Finset.sum_le_sum_of_subset_of_nonneg (Finset.insert_subset he hD) fun d _ _ => hf d

lemma Calendar.IsMeasure.day_kept (hm : c.IsMeasure) (hc : c.Accepted)
    (hs : c.weeklySchedule ≠ []) {d : ℤ} (hab : a ≤ b) (hbd : b ≤ d)
    (he : e ∈ Finset.Icc (c.zone.dayAt a) (c.zone.dayAt d))
    (hb : c.zone.dayAt b ∈ Finset.Icc (c.zone.dayAt a) (c.zone.dayAt d))
    (hhor : c.zone.dayAt d + 1 - c.zone.dayAt a < horizonDays) :
    (c.zone.dayAt b < e → c.dayTotal (seconds a) (seconds b) e = 0) ∧
      (e < c.zone.dayAt b → c.dayTotal (seconds b) (seconds d) e = 0) := by
  rw [Finset.mem_Icc] at hb
  have hx := businessSecondsBetween_within hc hs hab (by omega)
  have hy := businessSecondsBetween_within hc hs hbd (by omega)
  have hz := businessSecondsBetween_within hc hs (hab.trans hbd) hhor
  obtain ⟨-, -, hadd⟩ := hm a b d _ _ _ hab hbd hx hy hz
  obtain ⟨x, hx⟩ := whole_sum c a b (Finset.Icc (c.zone.dayAt a) (c.zone.dayAt b))
  obtain ⟨y, hy⟩ := whole_sum c b d (Finset.Icc (c.zone.dayAt b) (c.zone.dayAt d))
  obtain ⟨z, hz⟩ := whole_sum c a d (Finset.Icc (c.zone.dayAt a) (c.zone.dayAt d))
  -- over all the days the two halves make up the whole
  have hsplit : ∑ e ∈ Finset.Icc (c.zone.dayAt a) (c.zone.dayAt d),
        c.dayTotal (seconds a) (seconds b) e +
      ∑ e ∈ Finset.Icc (c.zone.dayAt a) (c.zone.dayAt d),
        c.dayTotal (seconds b) (seconds d) e = seconds z := by
    rw [← hz, ← Finset.sum_add_distrib]
    refine Finset.sum_congr rfl fun e _ => dayTotal_trans c ?_ ?_ e <;> unfold seconds <;> omega
  have hleft : Finset.Icc (c.zone.dayAt a) (c.zone.dayAt b) ⊆
      Finset.Icc (c.zone.dayAt a) (c.zone.dayAt d) := Finset.Icc_subset_Icc le_rfl hb.2
  have hright : Finset.Icc (c.zone.dayAt b) (c.zone.dayAt d) ⊆
      Finset.Icc (c.zone.dayAt a) (c.zone.dayAt d) := Finset.Icc_subset_Icc hb.1 le_rfl
  have hlow := Finset.sum_le_sum_of_subset_of_nonneg hleft
    fun e _ _ => dayTotal_nonneg c (seconds a) (seconds b) e
  have hhigh := Finset.sum_le_sum_of_subset_of_nonneg hright
    fun e _ _ => dayTotal_nonneg c (seconds b) (seconds d) e
  rw [hx] at hlow hadd
  rw [hy] at hhigh hadd
  rw [hz] at hadd
  constructor
  · intro hlt
    have hmiss := sum_missing (dayTotal_nonneg c (seconds a) (seconds b)) hleft he
      (by simp only [Finset.mem_Icc]; omega)
    have hnonneg := dayTotal_nonneg c (seconds a) (seconds b) e
    rw [hx] at hmiss
    unfold seconds at *
    omega
  · intro hlt
    have hmiss := sum_missing (dayTotal_nonneg c (seconds b) (seconds d)) hright he
      (by simp only [Finset.mem_Icc]; omega)
    have hnonneg := dayTotal_nonneg c (seconds b) (seconds d) e
    rw [hy] at hmiss
    unfold seconds at *
    omega

lemma dayTotal_pos (hI : I ∈ c.intervals e) (hon : OnAt c.zone I t) (ha : a ≤ t) (hb : t < b) :
    0 < c.dayTotal (seconds a) (seconds b) e := by
  have hone := overlap_of_onAt hI hon ha hb
  have hle := overlap_le_total (List.mem_map_of_mem (f := imageUtc c.zone) hI) (seconds a)
    (seconds b)
  unfold Calendar.dayTotal seconds at *
  omega

lemma Calendar.IsMeasure.days (hm : c.IsMeasure) (hc : c.Accepted)
    (hz : c.zone.Bounded) (hs : c.weeklySchedule ≠ [])
    (hI : I ∈ c.intervals e) (hon : OnAt c.zone I t) (b : ℤ) :
    (b ≤ t → c.zone.dayAt b ≤ e) ∧ (t < b → e ≤ c.zone.dayAt b) := by
  have hnear : (e - 1) * 86400 ≤ t ∧ t < (e + 2) * 86400 := by
    have hnear := hz.onAt hI hon
    unfold midnight seconds dayLength at hnear
    omega
  -- days enough before and after, which the clock does not reach
  have hfirst := hz.dayAt (t := (e - 4) * 86400) (e := e - 4)
    (by unfold midnight seconds dayLength; omega) (by unfold midnight seconds dayLength; omega)
  have hlast := hz.dayAt (t := (e + 6) * 86400) (e := e + 6)
    (by unfold midnight seconds dayLength; omega) (by unfold midnight seconds dayLength; omega)
  have hday := hz.dayAt (t := b) (e := b / 86400)
    (by unfold midnight seconds dayLength; omega) (by unfold midnight seconds dayLength; omega)
  have he : e ∈ Finset.Icc (c.zone.dayAt ((e - 4) * 86400)) (c.zone.dayAt ((e + 6) * 86400)) :=
    Finset.mem_Icc.2 ⟨by omega, by omega⟩
  have hhor : c.zone.dayAt ((e + 6) * 86400) + 1 - c.zone.dayAt ((e - 4) * 86400) <
      horizonDays := by
    unfold horizonDays
    omega
  constructor <;> intro hbt <;> by_contra hcon
  · -- the day `e` is over at `b`, and yet its interval is still to come
    have hb : c.zone.dayAt b ∈
        Finset.Icc (c.zone.dayAt ((e - 4) * 86400)) (c.zone.dayAt ((e + 6) * 86400)) :=
      Finset.mem_Icc.2 ⟨by omega, by omega⟩
    have hzero := (hm.day_kept hc hs (by omega) (by omega) he hb hhor).2 (by omega)
    have hpos := dayTotal_pos (b := (e + 6) * 86400) hI hon hbt (by omega)
    omega
  · -- the day `e` is still to come at `b`, and yet its interval has begun
    have hb : c.zone.dayAt b ∈
        Finset.Icc (c.zone.dayAt ((e - 4) * 86400)) (c.zone.dayAt ((e + 6) * 86400)) :=
      Finset.mem_Icc.2 ⟨by omega, by omega⟩
    have hzero := (hm.day_kept hc hs (by omega) (by omega) he hb hhor).1 (by omega)
    have hpos := dayTotal_pos (a := (e - 4) * 86400) hI hon (by omega) hbt
    omega

lemma Calendar.IsMeasure.apart (hm : c.IsMeasure) (hc : c.Accepted)
    (hz : c.zone.Bounded) (hs : c.weeklySchedule ≠ []) (d : ℤ) (k : ℕ) :
    (c.openWall d k).Pairwise fun I J => ∀ t, OnAt c.zone I t → ¬ OnAt c.zone J t := by
  refine List.pairwise_iff_forall_sublist.2 fun {I J} hsub t hI hJ => ?_
  obtain ⟨e, -, -, hIe⟩ := c.mem_openWall.1 (hsub.subset (by simp : I ∈ [I, J]))
  obtain ⟨e', -, -, hJe⟩ := c.mem_openWall.1 (hsub.subset (by simp : J ∈ [I, J]))
  -- the days of the second reach from the one interval to the other
  have hhor : c.zone.dayAt (t + 1) + 1 - c.zone.dayAt t < horizonDays := by
    have hlo := hz.dayAt (t := t) (e := t / 86400)
      (by unfold midnight seconds dayLength; omega) (by unfold midnight seconds dayLength; omega)
    have hhi := hz.dayAt (t := t + 1) (e := (t + 1) / 86400)
      (by unfold midnight seconds dayLength; omega) (by unfold midnight seconds dayLength; omega)
    unfold horizonDays
    omega
  have hx := businessSecondsBetween_within hc hs (show t ≤ t + 1 by omega) hhor
  have hy := businessSecondsBetween_within hc hs (le_refl (t + 1)) (by unfold horizonDays; omega)
  obtain ⟨-, hle, -⟩ := hm t (t + 1) (t + 1) _ _ _ (by omega) le_rfl hx hy hx
  obtain ⟨n, hn⟩ := whole_sum c t (t + 1) (Finset.Icc (c.zone.dayAt t) (c.zone.dayAt (t + 1)))
  rw [hn] at hle
  have houtside : ∀ f ∉ Finset.Icc (c.zone.dayAt t) (c.zone.dayAt (t + 1)),
      c.dayTotal (seconds t) (seconds (t + 1)) f = 0 := by
    intro f hf
    by_contra hne
    have hpos := (dayTotal_nonneg c (seconds t) (seconds (t + 1)) f).lt_of_ne' hne
    obtain ⟨K, hK, u, hon, htu, hut⟩ := exists_onAt hpos
    have hday := hm.days hc hz hs hK hon
    exact hf (Finset.mem_Icc.2 ⟨(hday t).1 htu, (hday (t + 1)).2 hut⟩)
  have hwide : ∑ f ∈ Finset.Ico d (d + k), c.dayTotal (seconds t) (seconds (t + 1)) f ≤
      seconds n := by
    calc ∑ f ∈ Finset.Ico d (d + k), c.dayTotal (seconds t) (seconds (t + 1)) f
        ≤ ∑ f ∈ Finset.Ico d (d + k) ∪ Finset.Icc (c.zone.dayAt t) (c.zone.dayAt (t + 1)),
            c.dayTotal (seconds t) (seconds (t + 1)) f :=
          Finset.sum_le_sum_of_subset_of_nonneg Finset.subset_union_left
            fun f _ _ => dayTotal_nonneg _ _ _ _
      _ = ∑ f ∈ Finset.Icc (c.zone.dayAt t) (c.zone.dayAt (t + 1)),
            c.dayTotal (seconds t) (seconds (t + 1)) f :=
          (Finset.sum_subset Finset.subset_union_right fun f _ hf => houtside f hf).symm
      _ = seconds n := hn
  rw [← total_imageUtc] at hwide
  have htwo := total_sublist (hsub.map (imageUtc c.zone)) (seconds t) (seconds (t + 1))
  have hone := overlap_of_onAt hIe hI le_rfl (show t < t + 1 by omega)
  have hone' := overlap_of_onAt hJe hJ le_rfl (show t < t + 1 by omega)
  simp only [List.map_cons, List.map_nil, total_cons, total_nil] at htwo
  unfold seconds at *
  omega

/-! ## the measure -/

lemma isMeasure_of_empty (hs : c.weeklySchedule = []) : c.IsMeasure := by
  have hall : ∀ {a b x : ℤ}, a ≤ b →
      businessSecondsBetween c (seconds a) (seconds b) = .ok x → x = b - a := by
    intro a b x hab h
    unfold businessSecondsBetween at h
    by_cases hle : seconds b ≤ seconds a
    · rw [if_pos hle] at h
      cases h
      unfold seconds at hle
      omega
    · rw [if_neg hle, if_pos hs] at h
      cases h
      unfold seconds
      omega
  intro a b d x y z hab hbd hx hy hz
  rw [hall hab hx, hall hbd hy, hall (hab.trans hbd) hz]
  omega

lemma undisturbed_of_empty (hs : c.weeklySchedule = []) : c.Undisturbed := by
  have hday : ∀ e, c.intervals e = [] := by
    intro e
    unfold Calendar.intervals Calendar.dayIntervals
    split
    · rename_i l hl
      split at hl
      · cases hl
        rfl
      · rw [hs] at hl
        cases hl
        rfl
    · rfl
  have hnone : ∀ e, ∀ I ∈ c.intervals e, False := by
    intro e I hI
    rw [hday e] at hI
    cases hI
  constructor
  · intro d k
    have hlist : c.openWall d k = [] := List.eq_nil_iff_forall_not_mem.2 fun I hI => by
      obtain ⟨e, -, -, he⟩ := c.mem_openWall.1 hI
      exact hnone e I he
    rw [hlist]
    exact List.Pairwise.nil
  · exact fun e I hI => (hnone e I hI).elim
  · exact fun e I hI => (hnone e I hI).elim

theorem isMeasure_iff (c : Calendar) (hc : c.Accepted) (hz : c.zone.Bounded) :
    c.IsMeasure ↔ c.Undisturbed := by
  by_cases hs : c.weeklySchedule = []
  · exact iff_of_true (isMeasure_of_empty hs) (undisturbed_of_empty hs)
  · refine ⟨fun hm => ⟨hm.apart hc hz hs, ?_, ?_⟩, fun hu => hu.isMeasure hc hs⟩
    · exact fun e I hI t b hon => (hm.days hc hz hs hI hon b).1
    · exact fun e I hI t b hon => (hm.days hc hz hs hI hon b).2

lemma undisturbed_utc (hz : c.zone = Zone.utc) : c.Undisturbed := by
  have himage : ∀ I, imageUtc c.zone I = I := by
    intro I
    unfold imageUtc
    rw [hz, Zone.toUtc_utc, Zone.toUtc_utc]
  have hday : ∀ t, c.zone.dayAt t = dayOf (seconds t) := by
    intro t
    unfold Zone.dayAt
    rw [hz, Zone.localWall_utc]
  have hkeep : ∀ {e t : ℤ} {I : ℤ × ℤ}, I ∈ c.intervals e → OnAt c.zone I t →
      dayOf (seconds t) = e := by
    intro e t I hI hon
    obtain ⟨hlo, hhi⟩ := (c.intervals_spec e).2 I hI
    unfold OnAt at hon
    rw [himage] at hon
    exact dayOf_eq_iff.2 ⟨hlo.trans hon.1, hon.2.trans hhi⟩
  constructor
  · intro d k
    refine (c.ordered_openWall d k).apart.imp fun hIJ t hI hJ => ?_
    unfold OnAt at hI hJ
    rw [himage] at hI hJ
    omega
  · intro e I hI t b hon hbt
    rw [hday, ← hkeep hI hon]
    exact dayOf_le (by unfold seconds; omega)
  · intro e I hI t b hon htb
    rw [hday, ← hkeep hI hon]
    exact dayOf_le (by unfold seconds; omega)

/-- nine to five on Thursdays, in UTC, is measured. -/
theorem isMeasure_thursdays : thursdays.IsMeasure := by
  refine (isMeasure_iff thursdays thursdays_accepted ?_).2 (undisturbed_utc rfl)
  intro o ho
  cases List.mem_singleton.1 ho
  decide

/-- Berlin around the last Sunday of March 2024, with a break on Sundays from half past two to
three, in the hour the clocks skip. -/
def berlinNights : Calendar :=
  ⟨⟨3600, [(1711846800, 7200)]⟩,
    [("sunday", [.interval "00:00" "02:30", .interval "03:00" "08:00"])], []⟩

/-- the half hour from one o'clock in UTC counts as an hour. -/
theorem berlinNights_not_isMeasure :
    berlinNights.Accepted ∧ berlinNights.zone.Bounded ∧
      businessSecondsBetween berlinNights (seconds 1711846800) (seconds 1711848600) = .ok 3600 ∧
      ¬ berlinNights.IsMeasure := by
  have hcount : businessSecondsBetween berlinNights (seconds 1711846800) (seconds 1711848600) =
      .ok 3600 := by decide +kernel
  have hrest : businessSecondsBetween berlinNights (seconds 1711848600) (seconds 1711848600) =
      .ok 0 := by decide +kernel
  refine ⟨fun d => ?_, ?_, hcount, fun hm => ?_⟩
  · have h := weekdayName_cases d
    simp only [List.mem_cons, List.not_mem_nil, or_false] at h
    unfold intervalsForDay
    rcases h with h | h | h | h | h | h | h <;> rw [h] <;> exact ⟨_, rfl⟩
  · unfold Zone.Bounded
    decide
  · have hle := (hm _ _ _ _ _ _ (by decide) le_rfl hcount hrest hcount).2.1
    omega

end NexusHelpdesk.Sla
