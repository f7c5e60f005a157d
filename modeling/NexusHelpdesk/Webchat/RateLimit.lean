import NexusHelpdesk.Desk.Basic
import NexusHelpdesk.Lib.FixedWindow

/-!
# The webchat rate limit (`webchat_rate_limit.py`)

A bucket counts its requests in a row of `webchat_rate_limits`.  An instant is stored and read back
as itself (`_normalize_database_window_start`).

* `enforcePostgresql`, `enforcePortable`: the branches of `_enforce_database`;
* `enforceDatabaseCommitted`: `_enforce_database_committed`;
* `Limiter`, `served`: the admissions of a run of requests;
* `admission`, `enforceDatabaseCommitted_eq`: what both branches do to the row of the bucket;
* `BucketOk`, `bucketOk_served`: in every run the row counts a window of the admissions;
* `rate_limit_limits`: **both branches admit the same requests, at most twice the maximum in any
  window, and refuse none without a full window behind it**.
-/

namespace NexusHelpdesk.Webchat

open Lib

/-! ## the code -/

structure WebchatRateLimitPolicy where
  windowSeconds : ℤ
  maxRequests : ℕ

structure RateLimitBucket where
  windowStart : Option Instant
  requestCount : Option ℤ
  updatedAt : Instant
deriving DecidableEq

/-- the rows by their `bucket_key`, which is unique. -/
abbrev RateLimits := String → Option RateLimitBucket

def tooManyRequests : HTTPException := ⟨429, "too many webchat requests"⟩

/-- the row after `INSERT … ON CONFLICT (bucket_key) DO UPDATE`. -/
def upserted (now windowStart : Instant) : Option RateLimitBucket → RateLimitBucket
  | none => ⟨some now, some 1, now⟩
  | some row =>
    { windowStart := if row.windowStart.all (· < windowStart) then some now else row.windowStart
      requestCount := if row.windowStart.all (· < windowStart) then some 1
        else row.requestCount.map (· + 1)
      updatedAt := now }

/-- the table as the transaction leaves it, and what it raises. -/
def enforcePostgresql (policy : WebchatRateLimitPolicy) (db : RateLimits) (bucketKey : String)
    (now : Instant) : RateLimits × Option HTTPException :=
  let windowStart := now - seconds policy.windowSeconds
  let row := upserted now windowStart (db bucketKey)
  let requestCount := row.requestCount.getD 0
  (Function.update db bucketKey (some row),
    if policy.maxRequests < requestCount then some tooManyRequests else none)

def enforcePortable (policy : WebchatRateLimitPolicy) (db : RateLimits) (bucketKey : String)
    (now : Instant) : RateLimits × Option HTTPException :=
  let windowStart := now - seconds policy.windowSeconds
  match db bucketKey with
  | none => (Function.update db bucketKey (some ⟨some now, some 1, now⟩), none)
  | some existing =>
    if existing.windowStart.all (· < windowStart) then
      (Function.update db bucketKey (some ⟨some now, some 1, now⟩), none)
    else if policy.maxRequests ≤ existing.requestCount.getD 0 then (db, some tooManyRequests)
    else
      (Function.update db bucketKey (some { existing with
        requestCount := existing.requestCount.map (· + 1)
        updatedAt := now }), none)

def enforceDatabase (postgresql : Bool) (policy : WebchatRateLimitPolicy) (db : RateLimits)
    (bucketKey : String) (now : Instant) : RateLimits × Option HTTPException :=
  if postgresql then enforcePostgresql policy db bucketKey now
  else enforcePortable policy db bucketKey now

/-- the transaction of its own: committed, or rolled back with what it raised. -/
def enforceDatabaseCommitted (postgresql : Bool) (policy : WebchatRateLimitPolicy)
    (db : RateLimits) (bucketKey : String) (now : Instant) : RateLimits × Option HTTPException :=
  match enforceDatabase postgresql policy db bucketKey now with
  | (limiterDb, none) => (limiterDb, none)
  | (_, some e) => (db, some e)

/-! ## runs -/

structure LimitedRequest where
  bucketKey : String
  now : Instant
deriving DecidableEq

/-- the table and the admitted requests, newest first. -/
structure Limiter where
  db : RateLimits
  admitted : List LimitedRequest

def serve (postgresql : Bool) (policy : WebchatRateLimitPolicy) (s : Limiter)
    (q : LimitedRequest) : Limiter :=
  match enforceDatabaseCommitted postgresql policy s.db q.bucketKey q.now with
  | (db, none) => ⟨db, q :: s.admitted⟩
  | (db, some _) => ⟨db, s.admitted⟩

def served (postgresql : Bool) (policy : WebchatRateLimitPolicy) (db : RateLimits)
    (qs : List LimitedRequest) : Limiter := qs.foldl (serve postgresql policy) ⟨db, []⟩

def admits (postgresql : Bool) (policy : WebchatRateLimitPolicy) (s : Limiter)
    (q : LimitedRequest) : Bool :=
  (enforceDatabaseCommitted postgresql policy s.db q.bucketKey q.now).2.isNone

def Limiter.times (s : Limiter) (bucketKey : String) : List Instant :=
  (s.admitted.filter (·.bucketKey = bucketKey)).map (·.now)

def InOrder (bucketKey : String) (qs : List LimitedRequest) : Prop :=
  (qs.filter (·.bucketKey = bucketKey)).Pairwise fun a b => a.now ≤ b.now

/-- the row after an admission; `none` is a refusal. -/
def admission (policy : WebchatRateLimitPolicy) (row : Option RateLimitBucket) (now : Instant) :
    Option RateLimitBucket :=
  match row with
  | none => some ⟨some now, some 1, now⟩
  | some row =>
    if row.windowStart.all (· < now - seconds policy.windowSeconds) then
      some ⟨some now, some 1, now⟩
    else if policy.maxRequests ≤ row.requestCount.getD 0 then none
    else some ⟨row.windowStart, row.requestCount.map (· + 1), now⟩

section Requests
variable {policy : WebchatRateLimitPolicy} {db : RateLimits} {bucketKey : String} {now : Instant}

/-- counting before the check refuses the same requests as counting behind it, if the refused
count is rolled back. -/
theorem enforceDatabaseCommitted_eq (hm : 0 < policy.maxRequests) (postgresql : Bool) :
    enforceDatabaseCommitted postgresql policy db bucketKey now =
      match admission policy (db bucketKey) now with
      | some row => (Function.update db bucketKey (some row), none)
      | none => (db, some tooManyRequests) := by
  have hone : ¬(policy.maxRequests : ℤ) < 1 := by omega
  have hzero : ¬(policy.maxRequests : ℤ) < 0 ∧ ¬(policy.maxRequests : ℤ) ≤ 0 := by omega
  unfold enforceDatabaseCommitted enforceDatabase admission
  cases postgresql with
  | true =>
    rw [if_pos rfl]
    unfold enforcePostgresql
    cases hrow : db bucketKey with
    | none => simp [upserted, hone]
    | some row =>
      by_cases hover : row.windowStart.all (· < now - seconds policy.windowSeconds) = true
      · simp [upserted, hover, hone]
      · cases hcount : row.requestCount with
        | none => simp [upserted, hover, hcount, hzero.1, hm.ne']
        | some n =>
          by_cases hfull : (policy.maxRequests : ℤ) ≤ n
          · have hrefused : (policy.maxRequests : ℤ) < n + 1 := by omega
            simp [upserted, hover, hcount, hfull, hrefused]
          · have hadmitted : ¬(policy.maxRequests : ℤ) < n + 1 := by omega
            simp [upserted, hover, hcount, hfull, hadmitted]
  | false =>
    rw [if_neg Bool.false_ne_true]
    unfold enforcePortable
    cases hrow : db bucketKey with
    | none => rfl
    | some row =>
      dsimp only
      by_cases hover : row.windowStart.all (· < now - seconds policy.windowSeconds) = true
      · rw [if_pos hover, if_pos hover]
      · rw [if_neg hover, if_neg hover]
        by_cases hfull : (policy.maxRequests : ℤ) ≤ row.requestCount.getD 0
        · rw [if_pos hfull, if_pos hfull]
        · rw [if_neg hfull, if_neg hfull]

/-! ## the windows of a bucket -/

def BucketOk (policy : WebchatRateLimitPolicy) (row : Option RateLimitBucket)
    (times : List Instant) : Prop :=
  match row with
  | none => times = []
  | some row => ∃ start current older,
      FixedWindow (seconds policy.windowSeconds) policy.maxRequests start current older ∧
      times = current ++ older ∧ row.windowStart = some start ∧
      row.requestCount = some (current.length : ℤ)

variable {row : Option RateLimitBucket} {times : List Instant}

lemma bucketOk_admission {after : RateLimitBucket} (hm : 0 < policy.maxRequests)
    (h : BucketOk policy row times) (htimes : ∀ t ∈ times, t ≤ now)
    (hadmitted : admission policy row now = some after) :
    BucketOk policy (some after) (now :: times) := by
  cases row with
  | none =>
    obtain rfl : times = [] := h
    obtain rfl := Option.some.inj hadmitted
    exact ⟨now, [now], [], FixedWindow.opens hm now, rfl, rfl, rfl⟩
  | some row =>
    obtain ⟨start, current, older, hwindow, rfl, hstart, hcount⟩ := h
    simp only [admission, hstart, hcount, Option.all_some, decide_eq_true_iff] at hadmitted
    split at hadmitted
    next hover =>
      obtain rfl := Option.some.inj hadmitted
      exact ⟨now, [now], current ++ older, hwindow.reset hm htimes hover, rfl, rfl, rfl⟩
    next hover =>
      split at hadmitted
      next hfull => cases hadmitted
      next hfull =>
        obtain rfl := Option.some.inj hadmitted
        have hcurrent : ∀ t ∈ current, t ≤ now := fun t ht =>
          htimes t (List.mem_append_left _ ht)
        rw [Option.getD_some] at hfull
        refine ⟨start, now :: current, older, hwindow.count hcurrent (by omega), rfl, rfl, ?_⟩
        rw [Option.map_some, List.length_cons, Nat.cast_succ]

lemma full_of_refused (h : BucketOk policy row times) (htimes : ∀ t ∈ times, t ≤ now)
    (hrefused : admission policy row now = none) : policy.maxRequests ≤
      times.countP fun t => now - seconds policy.windowSeconds ≤ t ∧ t ≤ now := by
  cases row with
  | none => cases hrefused
  | some row =>
    obtain ⟨start, current, older, hwindow, rfl, hstart, hcount⟩ := h
    simp only [admission, hstart, hcount, Option.all_some, decide_eq_true_iff] at hrefused
    split at hrefused
    next => cases hrefused
    next hover =>
      split at hrefused
      next hfull =>
        have hall : current.countP (fun t => now - seconds policy.windowSeconds ≤ t ∧ t ≤ now) =
            current.length := by
          rw [List.countP_eq_length]
          intro t ht
          rw [decide_eq_true_iff]
          exact ⟨(not_lt.1 hover).trans (hwindow.behind t ht),
            htimes t (List.mem_append_left _ ht)⟩
        rw [Option.getD_some] at hfull
        rw [List.countP_append, hall]
        omega
      next => cases hrefused

lemma admission_of_pause (h : BucketOk policy row times)
    (hpause : ∀ t ∈ times, t < now - seconds policy.windowSeconds) :
    (admission policy row now).isSome = true := by
  cases row with
  | none => rfl
  | some row =>
    obtain ⟨start, current, older, hwindow, rfl, hstart, -⟩ := h
    obtain ⟨t, ht⟩ := List.exists_mem_of_ne_nil _ hwindow.opened
    have hover : start < now - seconds policy.windowSeconds :=
      (hwindow.behind t ht).trans_lt (hpause t (List.mem_append_left _ ht))
    simp [admission, hstart, hover]

lemma twice_of_bucketOk (h : BucketOk policy row times) (a : ℤ) :
    times.countP (fun t => a ≤ t ∧ t ≤ a + seconds policy.windowSeconds) ≤
      2 * policy.maxRequests := by
  cases row with
  | none =>
    obtain rfl : times = [] := h
    exact Nat.zero_le _
  | some row =>
    obtain ⟨start, current, older, hwindow, rfl, -⟩ := h
    exact hwindow.twice a

end Requests

/-! ## runs -/

section Runs
variable {policy : WebchatRateLimitPolicy} {db : RateLimits} {bucketKey : String}

lemma serve_eq (hm : 0 < policy.maxRequests) (postgresql : Bool) (s : Limiter)
    (q : LimitedRequest) : serve postgresql policy s q =
      match admission policy (s.db q.bucketKey) q.now with
      | some row => ⟨Function.update s.db q.bucketKey (some row), q :: s.admitted⟩
      | none => s := by
  unfold serve
  rw [enforceDatabaseCommitted_eq hm]
  cases admission policy (s.db q.bucketKey) q.now with
  | none => rfl
  | some row => rfl

lemma admits_eq (hm : 0 < policy.maxRequests) (postgresql : Bool) (s : Limiter)
    (q : LimitedRequest) :
    admits postgresql policy s q = (admission policy (s.db q.bucketKey) q.now).isSome := by
  unfold admits
  rw [enforceDatabaseCommitted_eq hm]
  cases admission policy (s.db q.bucketKey) q.now with
  | none => rfl
  | some row => rfl

lemma Limiter.times_cons (s : Limiter) (db : RateLimits) (q : LimitedRequest) :
    (Limiter.mk db (q :: s.admitted)).times bucketKey =
      if q.bucketKey = bucketKey then q.now :: s.times bucketKey else s.times bucketKey := by
  unfold Limiter.times
  rw [List.filter_cons]
  by_cases hq : q.bucketKey = bucketKey
  · simp [hq]
  · simp [hq]

lemma bucketOk_serve {s : Limiter} {q : LimitedRequest} (hm : 0 < policy.maxRequests)
    (postgresql : Bool) (h : BucketOk policy (s.db bucketKey) (s.times bucketKey))
    (htimes : q.bucketKey = bucketKey → ∀ t ∈ s.times bucketKey, t ≤ q.now) :
    BucketOk policy ((serve postgresql policy s q).db bucketKey)
      ((serve postgresql policy s q).times bucketKey) := by
  rw [serve_eq hm]
  cases hadmitted : admission policy (s.db q.bucketKey) q.now with
  | none => exact h
  | some row =>
    dsimp only
    rw [Limiter.times_cons]
    by_cases hq : q.bucketKey = bucketKey
    · rw [if_pos hq, hq, Function.update_self]
      rw [hq] at hadmitted
      exact bucketOk_admission hm h (htimes hq) hadmitted
    · rw [if_neg hq, Function.update_of_ne (Ne.symm hq)]
      exact h

lemma served_append (postgresql : Bool) (qs : List LimitedRequest) (q : LimitedRequest) :
    served postgresql policy db (qs ++ [q]) =
      serve postgresql policy (served postgresql policy db qs) q := by
  unfold served
  rw [List.foldl_append]
  rfl

/-- what was admitted had been asked for. -/
lemma mem_times_served (postgresql : Bool) (qs : List LimitedRequest) :
    ∀ t ∈ (served postgresql policy db qs).times bucketKey,
      ∃ q ∈ qs.filter (·.bucketKey = bucketKey), q.now = t := by
  have hadmitted : ∀ q ∈ (served postgresql policy db qs).admitted, q ∈ qs := by
    induction qs using List.reverseRecOn with
    | nil => exact fun q hq => hq
    | append_singleton qs q ih =>
      intro x hx
      rw [served_append] at hx
      unfold serve at hx
      split at hx
      · rcases List.mem_cons.1 hx with rfl | hx
        · exact List.mem_append_right _ (List.mem_singleton_self _)
        · exact List.mem_append_left _ (ih x hx)
      · exact List.mem_append_left _ (ih x hx)
  intro t ht
  obtain ⟨q, hq, rfl⟩ := List.mem_map.1 ht
  obtain ⟨hq, hkey⟩ := List.mem_filter.1 hq
  exact ⟨q, List.mem_filter.2 ⟨hadmitted q hq, hkey⟩, rfl⟩

theorem bucketOk_served (hm : 0 < policy.maxRequests) (postgresql : Bool)
    (hdb : db bucketKey = none) {qs : List LimitedRequest} (hqs : InOrder bucketKey qs) :
    BucketOk policy ((served postgresql policy db qs).db bucketKey)
      ((served postgresql policy db qs).times bucketKey) := by
  induction qs using List.reverseRecOn with
  | nil =>
    show BucketOk policy (db bucketKey) []
    rw [hdb]
    rfl
  | append_singleton qs q ih =>
    unfold InOrder at hqs
    rw [List.filter_append, List.pairwise_append] at hqs
    rw [served_append]
    refine bucketOk_serve hm postgresql (ih hqs.1) ?_
    intro hq t ht
    obtain ⟨x, hx, rfl⟩ := mem_times_served postgresql qs t ht
    refine hqs.2.2 x hx q ?_
    rw [List.mem_filter]
    exact ⟨List.mem_singleton_self _, decide_eq_true hq⟩

end Runs

theorem rate_limit_limits (policy : WebchatRateLimitPolicy) (hm : 0 < policy.maxRequests) :
    (∀ db qs, served true policy db qs = served false policy db qs) ∧
    ∀ postgresql db bucketKey qs, db bucketKey = none → InOrder bucketKey qs →
      let s := served postgresql policy db qs
      let window := seconds policy.windowSeconds
      (∀ a, (s.times bucketKey).countP (fun t => a ≤ t ∧ t < a + window) ≤
        2 * policy.maxRequests) ∧
      (∀ a, (s.times bucketKey).countP (fun t => a < t ∧ t ≤ a + window) ≤
        2 * policy.maxRequests) ∧
      ∀ now, (∀ q ∈ qs, q.bucketKey = bucketKey → q.now ≤ now) →
        ((s.times bucketKey).countP (fun t => now - window ≤ t ∧ t ≤ now) < policy.maxRequests →
          admits postgresql policy s ⟨bucketKey, now⟩ = true) ∧
        ((∀ t ∈ s.times bucketKey, t < now - window) →
          admits postgresql policy s ⟨bucketKey, now⟩ = true) := by
  constructor
  · intro db qs
    have hserve : serve true policy = serve false policy := by
      funext s q
      rw [serve_eq hm, serve_eq hm]
    unfold served
    rw [hserve]
  · intro postgresql db bucketKey qs hdb hqs s window
    have hok : BucketOk policy (s.db bucketKey) (s.times bucketKey) :=
      bucketOk_served hm postgresql hdb hqs
    refine ⟨?_, ?_, ?_⟩
    · intro a
      refine (List.countP_mono_left ?_).trans (twice_of_bucketOk hok a)
      intro t _ ht
      rw [decide_eq_true_iff] at ht ⊢
      exact ⟨ht.1, ht.2.le⟩
    · intro a
      refine (List.countP_mono_left ?_).trans (twice_of_bucketOk hok a)
      intro t _ ht
      rw [decide_eq_true_iff] at ht ⊢
      exact ⟨ht.1.le, ht.2⟩
    · intro now hnow
      have htimes : ∀ t ∈ s.times bucketKey, t ≤ now := by
        intro t ht
        obtain ⟨q, hq, rfl⟩ := mem_times_served postgresql qs t ht
        obtain ⟨hmem, hkey⟩ := List.mem_filter.1 hq
        exact hnow q hmem (of_decide_eq_true hkey)
      rw [admits_eq hm]
      refine ⟨?_, admission_of_pause hok⟩
      intro hfew
      by_contra hrefused
      rw [Bool.not_eq_true, Option.isSome_eq_false_iff, Option.isNone_iff_eq_none] at hrefused
      have hfull := full_of_refused hok htimes hrefused
      exact absurd hfew (not_lt.2 hfull)

/-- three requests against a limit of two in a minute: the third is refused. -/
def busyVisitor : List LimitedRequest := [⟨"b", 0⟩, ⟨"b", seconds 30⟩, ⟨"b", seconds 40⟩]

theorem busyVisitor_limited :
    (served true ⟨60, 2⟩ (fun _ => none) busyVisitor =
      served false ⟨60, 2⟩ (fun _ => none) busyVisitor) ∧
    (served true ⟨60, 2⟩ (fun _ => none) busyVisitor).times "b" = [seconds 30, 0] ∧
    admits true ⟨60, 2⟩ (served true ⟨60, 2⟩ (fun _ => none) busyVisitor)
      ⟨"b", seconds 100⟩ = true := by
  have h := rate_limit_limits ⟨60, 2⟩ (by decide)
  refine ⟨h.1 _ _, by decide, ?_⟩
  refine ((h.2 true (fun _ => none) "b" busyVisitor rfl
    (by unfold InOrder; decide)).2.2 (seconds 100)
    (by decide)).2 (by decide)

end NexusHelpdesk.Webchat
