import NexusHelpdesk.Desk.Basic
import NexusHelpdesk.Lib.Batch
import NexusHelpdesk.Lib.Run
import NexusHelpdesk.Lib.WriteBack

/-!
# Leases of background jobs (`background_job_execution_scope.py`, `background_job_transaction_boundary.py`)

A worker draws a lease token, claims a batch of jobs under it, renews the lease of each before and
while it works on it, and commits its result after a last look at the lease on another connection.

* `claimExecutableBackgroundJobs`: pending due jobs and jobs whose lease is older than
  `job_lock_seconds`, oldest first;
* `renewLease`: `_refresh_job_lease` and `_heartbeat_job_lease`, both conditional on the token;
* `ownsJobLease`: the last look; it reads the committed row;
* `markDone`, `markRetry`, `rejectScope`: the three results;
* `JobStep`: the moves of the workers.  `check` and `commit` are two steps, and `commit` updates the
  row by primary key.

`completions_hold_lease`: **as long as no claim takes a job whose worker stands between its check and
its commit, every result is committed under the worker's own lease, and once per claim.**
-/

namespace NexusHelpdesk.Jobs

open Lib

structure BackgroundJob where
  jobType : String
  status : JobStatus
  attemptCount : ℕ
  maxAttempts : ℕ
  nextRunAt : Option Instant
  lockedAt : Option Instant
  lockedBy : Option String
  lastError : Option String
  createdAt : Instant
  updatedAt : Instant
deriving DecidableEq, Repr

structure Settings where
  jobLockSeconds : ℤ
  jobBatchSize : ℤ
deriving DecidableEq, Repr

/-! ## claim -/

def pendingDue (now : Instant) (job : BackgroundJob) : Bool :=
  job.status == .pending && job.nextRunAt.all (· ≤ now)

def staleProcessing (c : Settings) (now : Instant) (job : BackgroundJob) : Bool :=
  job.status == .processing && job.lockedAt.all (· < now - seconds c.jobLockSeconds)

/-- the arguments of a claim: the job types it asks for (none for all) and which jobs have an
executable scope envelope. -/
structure ClaimRequest where
  limit : Option ℤ
  jobTypes : List String
  executable : ℕ → Bool

/-- `_pending_filters` with `executable_background_job_scope_filter`. -/
def claimable (c : Settings) (now : Instant) (q : ClaimRequest) (id : ℕ) (job : BackgroundJob) :
    Bool :=
  (pendingDue now job || staleProcessing c now job) &&
    (q.jobTypes.isEmpty || q.jobTypes.contains job.jobType) && q.executable id

/-- `max(1, min(int(limit or job_batch_size), 1000))`. -/
def boundedLimit (c : Settings) (limit : Option ℤ) : ℕ :=
  let asked := match limit with
    | some n => if n = 0 then c.jobBatchSize else n
    | none => c.jobBatchSize
  (max 1 (min asked 1000)).toNat

def claimedJobs (c : Settings) (now : Instant) (q : ClaimRequest) (jobs : Table BackgroundJob) :
    List ℕ :=
  jobs.batch (Table.earlier BackgroundJob.createdAt) (claimable c now q) (boundedLimit c q.limit)

def takeLease (now : Instant) (token : String) (job : BackgroundJob) : BackgroundJob :=
  { job with
    status := .processing
    lockedAt := some now
    lockedBy := some token
    updatedAt := now }

def claimExecutableBackgroundJobs (c : Settings) (now : Instant) (token : String)
    (q : ClaimRequest) (jobs : Table BackgroundJob) : Table BackgroundJob :=
  jobs.modifyAll (claimedJobs c now q jobs) (takeLease now token)

/-! ## renewal, check and results -/

/-- the condition of the renewals and of `_owns_job_lease`. -/
def ownsJobLease (token : String) (job : BackgroundJob) : Bool :=
  job.lockedBy == some token && job.status == .processing

def renewLease (now : Instant) (token : String) (job : BackgroundJob) : BackgroundJob :=
  if ownsJobLease token job then { job with lockedAt := some now, updatedAt := now } else job

def markDone (now : Instant) (job : BackgroundJob) : BackgroundJob :=
  { job with
    status := .done
    lockedAt := none
    lockedBy := none
    nextRunAt := none
    lastError := none
    updatedAt := now }

def markRetry (now : Instant) (reason : String) (job : BackgroundJob) : BackgroundJob :=
  let attempts := job.attemptCount + 1
  let dead := decide (job.maxAttempts ≤ attempts)
  { job with
    attemptCount := attempts
    lastError := some (String.ofList (reason.toList.take 500))
    lockedAt := none
    lockedBy := none
    status := if dead then .dead else .pending
    nextRunAt := if dead then none else some (now + minutes (min (2 ^ (attempts - 1)) 30 : ℕ))
    updatedAt := now }

/-- the job `_reject_execution_scope` leaves behind. -/
def rejectScope (now : Instant) (errorType : String) (job : BackgroundJob) : BackgroundJob :=
  { job with
    status := .dead
    lastError := some (String.ofList
      (("background_job_execution_scope_rejected:" ++ errorType).toList.take 500))
    nextRunAt := none
    lockedAt := none
    lockedBy := none
    updatedAt := now }

/-- what a worker is about to commit: the job processed, the attempt failed (inside
`process_background_job`, or by an exception that reached the boundary), or its scope refused. -/
inductive Result where
  | done
  | retry (reason : String)
  | rejected (errorType : String)
deriving DecidableEq, Repr

def Result.mark (now : Instant) (job : BackgroundJob) : Result → BackgroundJob
  | .done => markDone now job
  | .retry reason => markRetry now reason job
  | .rejected errorType => rejectScope now errorType job

/-- the update by primary key that the commit emits. -/
def flushJob (read new stored : BackgroundJob) : BackgroundJob :=
  { stored with
    status := changed read.status new.status stored.status
    attemptCount := changed read.attemptCount new.attemptCount stored.attemptCount
    nextRunAt := changed read.nextRunAt new.nextRunAt stored.nextRunAt
    lockedAt := changed read.lockedAt new.lockedAt stored.lockedAt
    lockedBy := changed read.lockedBy new.lockedBy stored.lockedBy
    lastError := changed read.lastError new.lastError stored.lastError
    updatedAt := changed read.updatedAt new.updatedAt stored.updatedAt }

/-! ## runs -/

/-- where a worker stands with the job it is on: at work, or past the check. -/
inductive Phase where
  | working (id : ℕ) (copy : BackgroundJob)
  | checked (id : ℕ) (copy : BackgroundJob) (result : Result)
deriving DecidableEq, Repr

/-- the committed jobs, the phase of the worker behind each token, the tokens drawn so far, and the
results committed so far with the token they were committed under, newest first. -/
structure Queue where
  jobs : Table BackgroundJob
  workers : InHand String Phase
  tokens : List String
  completions : List (ℕ × String)

def Queue.empty : Queue := ⟨.empty, .empty, [], []⟩

inductive JobStep where
  | enqueue (job : BackgroundJob)
  | claim (now : Instant) (token : String) (q : ClaimRequest)
  | refresh (now : Instant) (token : String) (id : ℕ)
  | heartbeat (now : Instant) (token : String) (id : ℕ)
  | check (token : String) (result : Result)
  | reread (token : String)
  | rollback (token : String)
  | commit (now : Instant) (token : String)
  | crash (token : String)

def freshJob (job : BackgroundJob) : BackgroundJob :=
  { job with status := .pending, lockedAt := none, lockedBy := none }

namespace JobStep

/-- a token is drawn at random and never drawn twice. -/
def applyClaim (c : Settings) (now : Instant) (token : String) (q : ClaimRequest) (s : Queue) :
    Queue :=
  if token ∈ s.tokens then s
  else
    { s with
      jobs := claimExecutableBackgroundJobs c now token q s.jobs
      tokens := token :: s.tokens }

/-- `_refresh_job_lease`: the worker goes on with the job if its lease is still there. -/
def applyRefresh (now : Instant) (token : String) (id : ℕ) (s : Queue) : Queue :=
  match s.workers token, s.jobs.get? id with
  | none, some job =>
    if ownsJobLease token job then
      { s with
        jobs := s.jobs.modify id (renewLease now token)
        workers := s.workers.take token (.working id (renewLease now token job)) }
    else s
  | _, _ => s

/-- `_owns_job_lease`; a worker that lost its lease rolls back and goes on to its next job. -/
def applyCheck (token : String) (result : Result) (s : Queue) : Queue :=
  match s.workers token with
  | some (.working id copy) =>
    match s.jobs.get? id with
    | some job =>
      if ownsJobLease token job then
        { s with workers := s.workers.take token (.checked id copy result) }
      else { s with workers := s.workers.release token }
    | none => { s with workers := s.workers.release token }
  | _ => s

/-- after an exception the job is read anew, past the check. -/
def applyReread (token : String) (s : Queue) : Queue :=
  match s.workers token with
  | some (.checked id copy result) =>
    match s.jobs.get? id with
    | some job => { s with workers := s.workers.take token (.checked id job result) }
    | none => { s with workers := s.workers.release token }
  | _ => s

/-- the commit itself fails; the boundary will check again. -/
def applyRollback (token : String) (s : Queue) : Queue :=
  match s.workers token with
  | some (.checked id copy result) =>
    { s with workers := s.workers.take token (.working id copy) }
  | _ => s

def applyCommit (now : Instant) (token : String) (s : Queue) : Queue :=
  match s.workers token with
  | some (.checked id copy result) =>
    { s with
      jobs := s.jobs.modify id (flushJob copy (result.mark now copy))
      workers := s.workers.release token
      completions := (id, token) :: s.completions }
  | _ => s

def apply (c : Settings) : JobStep → Queue → Queue
  | .enqueue job, s => { s with jobs := s.jobs.insert (freshJob job) }
  | .claim now token q, s => applyClaim c now token q s
  | .refresh now token id, s => applyRefresh now token id s
  | .heartbeat now token id, s => { s with jobs := s.jobs.modify id (renewLease now token) }
  | .check token result, s => applyCheck token result s
  | .reread token, s => applyReread token s
  | .rollback token, s => applyRollback token s
  | .commit now token, s => applyCommit now token s
  | .crash token, s => { s with workers := s.workers.release token }

end JobStep

/-! ## one step -/

def Phase.copy : Phase → BackgroundJob
  | .working _ copy => copy
  | .checked _ copy _ => copy

/-- the worker behind `token` is past the check of job `id`. -/
def Queue.isChecked (s : Queue) (token : String) (id : ℕ) : Bool :=
  match s.workers token with
  | some (.checked id' _ _) => id' == id
  | _ => false

/-- the condition on a step: a claim takes no job whose worker is past its check. -/
def JobStep.Safe (c : Settings) (s : Queue) : JobStep → Prop
  | .claim now _ q =>
    ∀ id ∈ claimedJobs c now q s.jobs, ∀ job ∈ s.jobs.get? id, ∀ token ∈ job.lockedBy,
      s.isChecked token id = false
  | _ => True

instance (c : Settings) (s : Queue) : ∀ i : JobStep, Decidable (i.Safe c s)
  | .claim _ _ _ => inferInstanceAs (Decidable (∀ id ∈ _, ∀ job ∈ _, ∀ token ∈ _, _ = _))
  | .enqueue _ | .refresh _ _ _ | .heartbeat _ _ _ | .check _ _ | .reread _ | .rollback _ |
    .commit _ _ | .crash _ => inferInstanceAs (Decidable True)

/-- job `id` carries the lease `token`. -/
def Owned (jobs : Table BackgroundJob) (token : String) (id : ℕ) : Prop :=
  ∃ job, jobs.get? id = some job ∧ job.lockedBy = some token ∧ job.status = .processing

lemma owned_of_owns {jobs : Table BackgroundJob} {token : String} {id : ℕ} {job : BackgroundJob}
    (hget : jobs.get? id = some job) (hown : ownsJobLease token job = true) :
    Owned jobs token id := by
  simp only [ownsJobLease, Bool.and_eq_true, beq_iff_eq] at hown
  exact ⟨job, hget, hown.1, hown.2⟩

structure Queue.Ok (s : Queue) : Prop where
  checked : ∀ token id copy result, s.workers token = some (.checked id copy result) →
    Owned s.jobs token id
  copies : ∀ token phase, s.workers token = some phase → phase.copy.lockedBy = some token
  drawn : ∀ id job token, s.jobs.get? id = some job → job.lockedBy = some token →
    token ∈ s.tokens
  committed : ∀ id token, (id, token) ∈ s.completions →
    token ∈ s.tokens ∧ ∀ job, s.jobs.get? id = some job → job.lockedBy ≠ some token
  once : s.completions.Nodup

lemma Queue.ok_empty : Queue.empty.Ok := by
  constructor
  · intro token id copy result h
    cases h
  · intro token phase h
    cases h
  · intro id job token h
    cases h
  · intro id token h
    cases h
  · exact List.nodup_nil

/-- every row keeps its lease and status; a new row has no lease. -/
def LeasesKept (jobs jobs' : Table BackgroundJob) : Prop :=
  (∀ token id, Owned jobs token id → Owned jobs' token id) ∧
    ∀ id job' token, jobs'.get? id = some job' → job'.lockedBy = some token →
      ∃ job, jobs.get? id = some job ∧ job.lockedBy = some token

lemma LeasesKept.refl (jobs : Table BackgroundJob) : LeasesKept jobs jobs :=
  ⟨fun _ _ h => h, fun id job token h hl => ⟨job, h, hl⟩⟩

lemma leasesKept_renew (now : Instant) (token : String) (id : ℕ) (jobs : Table BackgroundJob) :
    LeasesKept jobs (jobs.modify id (renewLease now token)) := by
  have hkeep : ∀ job, (renewLease now token job).lockedBy = job.lockedBy ∧
      (renewLease now token job).status = job.status := by
    intro job
    unfold renewLease
    split <;> exact ⟨rfl, rfl⟩
  constructor
  · rintro t i ⟨job, hget, hby, hst⟩
    by_cases hi : i = id
    · subst hi
      refine ⟨renewLease now token job, ?_, ?_, ?_⟩
      · rw [Table.get?_modify_self, hget]
        rfl
      · rw [(hkeep job).1, hby]
      · rw [(hkeep job).2, hst]
    · exact ⟨job, by rw [Table.get?_modify_of_ne _ _ hi, hget], hby, hst⟩
  · intro i job' t hget hby
    by_cases hi : i = id
    · subst hi
      rw [Table.get?_modify_self] at hget
      obtain ⟨job, hjob, rfl⟩ := Option.map_eq_some_iff.1 hget
      exact ⟨job, hjob, by rw [← (hkeep job).1, hby]⟩
    · rw [Table.get?_modify_of_ne _ _ hi] at hget
      exact ⟨job', hget, hby⟩

lemma leasesKept_insert (job : BackgroundJob) (jobs : Table BackgroundJob) :
    LeasesKept jobs (jobs.insert (freshJob job)) := by
  constructor
  · rintro t i ⟨old, hget, hby, hst⟩
    exact ⟨old, Table.get?_insert_of_some _ hget, hby, hst⟩
  · intro i job' t hget hby
    rw [Table.get?_insert] at hget
    split at hget
    · cases hget
      cases hby
    · exact ⟨job', hget, hby⟩

variable {s : Queue}

/-- a step that keeps the leases and commits nothing: what its worker then has in hand must be in
order. -/
lemma Queue.Ok.of_leasesKept {s' : Queue} (hs : s.Ok) (hl : LeasesKept s.jobs s'.jobs)
    (ht : s'.tokens = s.tokens) (hc : s'.completions = s.completions)
    (hw : ∀ token phase, s'.workers token = some phase → s.workers token = some phase ∨
      (phase.copy.lockedBy = some token ∧
        ∀ id copy result, phase = .checked id copy result → Owned s.jobs token id)) : s'.Ok := by
  constructor
  · intro token id copy result h
    apply hl.1
    rcases hw token _ h with hold | ⟨-, hnew⟩
    · exact hs.checked token id copy result hold
    · exact hnew id copy result rfl
  · intro token phase h
    rcases hw token _ h with hold | ⟨hnew, -⟩
    · exact hs.copies token phase hold
    · exact hnew
  · intro id job' token hget hby
    obtain ⟨job, hjob, hby'⟩ := hl.2 id job' token hget hby
    rw [ht]
    exact hs.drawn id job token hjob hby'
  · intro id token h
    rw [hc] at h
    obtain ⟨hdrawn, hgone⟩ := hs.committed id token h
    refine ⟨by rw [ht]; exact hdrawn, ?_⟩
    intro job' hget hby
    obtain ⟨job, hjob, hby'⟩ := hl.2 id job' token hget hby
    exact hgone job hjob hby'
  · rw [hc]
    exact hs.once

lemma Queue.Ok.claim {c : Settings} (hs : s.Ok) {now : Instant} {token : String}
    {q : ClaimRequest} (hi : (JobStep.claim now token q).Safe c s) :
    (JobStep.applyClaim c now token q s).Ok := by
  unfold JobStep.applyClaim
  split
  · exact hs
  · rename_i hfresh
    have hget : ∀ id, (claimExecutableBackgroundJobs c now token q s.jobs).get? id =
        if id ∈ claimedJobs c now q s.jobs then (s.jobs.get? id).map (takeLease now token)
        else s.jobs.get? id := fun id => Table.get?_modifyAll_batch _ _
    -- a row carries the new token, or what it carried before
    have hrow : ∀ id job' t, (claimExecutableBackgroundJobs c now token q s.jobs).get? id =
        some job' → job'.lockedBy = some t → t = token ∨
          ∃ job, s.jobs.get? id = some job ∧ job.lockedBy = some t := by
      intro id job' t hjob' hby
      rw [hget] at hjob'
      split at hjob'
      · obtain ⟨job, -, rfl⟩ := Option.map_eq_some_iff.1 hjob'
        left
        exact (Option.some.inj hby).symm
      · exact Or.inr ⟨job', hjob', hby⟩
    constructor
    · intro t id copy result h
      obtain ⟨job, hjob, hby, hst⟩ := hs.checked t id copy result h
      have hnot : id ∉ claimedJobs c now q s.jobs := by
        intro hid
        have hfalse := hi id hid job hjob t hby
        change s.workers t = _ at h
        simp [Queue.isChecked, h] at hfalse
      exact ⟨job, by rw [hget, if_neg hnot, hjob], hby, hst⟩
    · exact hs.copies
    · intro id job' t hjob' hby
      rcases hrow id job' t hjob' hby with rfl | ⟨job, hjob, hby'⟩
      · exact List.mem_cons_self ..
      · exact List.mem_cons_of_mem _ (hs.drawn id job t hjob hby')
    · intro id t h
      obtain ⟨hdrawn, hgone⟩ := hs.committed id t h
      refine ⟨List.mem_cons_of_mem _ hdrawn, ?_⟩
      intro job' hjob' hby
      rcases hrow id job' t hjob' hby with rfl | ⟨job, hjob, hby'⟩
      · exact hfresh hdrawn
      · exact hgone job hjob hby'
    · exact hs.once

lemma lockedBy_mark (now : Instant) (copy : BackgroundJob) (result : Result) :
    (result.mark now copy).lockedBy = none := by
  cases result <;> rfl

lemma Queue.Ok.commit (hs : s.Ok) (now : Instant) (token : String) :
    (JobStep.applyCommit now token s).Ok := by
  unfold JobStep.applyCommit
  split
  · rename_i id copy result hphase
    obtain ⟨job, hjob, hby, hst⟩ := hs.checked token id copy result hphase
    have hcopy : copy.lockedBy = some token := hs.copies token _ hphase
    have hfree : (flushJob copy (result.mark now copy) job).lockedBy = none := by
      have hne : (result.mark now copy).lockedBy ≠ copy.lockedBy := by
        rw [lockedBy_mark, hcopy]
        simp
      show changed copy.lockedBy (result.mark now copy).lockedBy job.lockedBy = none
      rw [changed_of_ne hne, lockedBy_mark]
    -- the committed row is free, every other row is as it was
    have hrow : ∀ i job' t, (s.jobs.modify id (flushJob copy (result.mark now copy))).get? i =
        some job' → job'.lockedBy = some t → i ≠ id ∧ s.jobs.get? i = some job' := by
      intro i job' t hget hby'
      by_cases hi : i = id
      · subst hi
        rw [Table.get?_modify_self, hjob, Option.map_some] at hget
        cases hget
        rw [hfree] at hby'
        cases hby'
      · rw [Table.get?_modify_of_ne _ _ hi] at hget
        exact ⟨hi, hget⟩
    have hnew : (id, token) ∉ s.completions := by
      intro h
      exact (hs.committed id token h).2 job hjob hby
    constructor
    · intro t i copy' result' h
      obtain ⟨hne, hold⟩ := InHand.of_release h
      obtain ⟨job', hjob', hby', hst'⟩ := hs.checked t i copy' result' hold
      have hi : i ≠ id := by
        intro heq
        subst heq
        rw [hjob] at hjob'
        cases hjob'
        rw [hby] at hby'
        exact hne (Option.some.inj hby').symm
      exact ⟨job', by rw [Table.get?_modify_of_ne _ _ hi, hjob'], hby', hst'⟩
    · intro t phase h
      exact hs.copies t phase (InHand.of_release h).2
    · intro i job' t hget hby'
      exact hs.drawn i job' t (hrow i job' t hget hby').2 hby'
    · intro i t h
      rcases List.mem_cons.1 h with heq | hmem
      · obtain ⟨rfl, rfl⟩ := Prod.mk.inj heq
        refine ⟨hs.drawn i job t hjob hby, ?_⟩
        intro job' hget hby'
        exact (hrow i job' t hget hby').1 rfl
      · refine ⟨(hs.committed i t hmem).1, ?_⟩
        intro job' hget hby'
        exact (hs.committed i t hmem).2 job' (hrow i job' t hget hby').2 hby'
    · exact List.nodup_cons.2 ⟨hnew, hs.once⟩
  · exact hs

lemma Queue.Ok.refresh (hs : s.Ok) (now : Instant) (token : String) (id : ℕ) :
    (JobStep.applyRefresh now token id s).Ok := by
  unfold JobStep.applyRefresh
  split
  · rename_i job hworker hjob
    split
    · rename_i hown
      refine hs.of_leasesKept (leasesKept_renew now token id s.jobs) rfl rfl ?_
      intro t phase h
      rcases InHand.of_take h with ⟨rfl, rfl⟩ | ⟨-, hold⟩
      · right
        refine ⟨?_, fun _ _ _ hcontra => by cases hcontra⟩
        show (renewLease now t job).lockedBy = some t
        simp only [ownsJobLease, Bool.and_eq_true, beq_iff_eq] at hown
        unfold renewLease
        split <;> exact hown.1
      · exact Or.inl hold
    · exact hs
  · exact hs

lemma Queue.Ok.check (hs : s.Ok) (token : String) (result : Result) :
    (JobStep.applyCheck token result s).Ok := by
  unfold JobStep.applyCheck
  have hrelease : Queue.Ok { s with workers := s.workers.release token } := by
    refine hs.of_leasesKept (LeasesKept.refl _) rfl rfl ?_
    intro t phase h
    exact Or.inl (InHand.of_release h).2
  split
  · rename_i id copy hphase
    split
    · rename_i job hjob
      split
      · rename_i hown
        refine hs.of_leasesKept (LeasesKept.refl _) rfl rfl ?_
        intro t phase h
        rcases InHand.of_take h with ⟨rfl, rfl⟩ | ⟨-, hold⟩
        · right
          refine ⟨hs.copies t (.working id copy) hphase, ?_⟩
          intro i c r heq
          cases heq
          exact owned_of_owns hjob hown
        · exact Or.inl hold
      · exact hrelease
    · exact hrelease
  · exact hs

lemma Queue.Ok.reread (hs : s.Ok) (token : String) :
    (JobStep.applyReread token s).Ok := by
  unfold JobStep.applyReread
  split
  · rename_i id copy result hphase
    have howned := hs.checked token id copy result hphase
    split
    · rename_i job hjob
      refine hs.of_leasesKept (LeasesKept.refl _) rfl rfl ?_
      intro t phase h
      rcases InHand.of_take h with ⟨rfl, rfl⟩ | ⟨-, hold⟩
      · right
        constructor
        · obtain ⟨job', hjob', hby, -⟩ := howned
          rw [hjob] at hjob'
          cases hjob'
          exact hby
        · intro i c r heq
          cases heq
          exact howned
      · exact Or.inl hold
    · refine hs.of_leasesKept (LeasesKept.refl _) rfl rfl ?_
      intro t phase h
      exact Or.inl (InHand.of_release h).2
  · exact hs

lemma Queue.Ok.rollback (hs : s.Ok) (token : String) :
    (JobStep.applyRollback token s).Ok := by
  unfold JobStep.applyRollback
  split
  · rename_i id copy result hphase
    refine hs.of_leasesKept (LeasesKept.refl _) rfl rfl ?_
    intro t phase h
    rcases InHand.of_take h with ⟨rfl, rfl⟩ | ⟨-, hold⟩
    · right
      exact ⟨hs.copies t (.checked id copy result) hphase, fun _ _ _ hcontra => by cases hcontra⟩
    · exact Or.inl hold
  · exact hs

lemma Queue.Ok.step {c : Settings} (hs : s.Ok) {i : JobStep} (hi : i.Safe c s) :
    (i.apply c s).Ok := by
  cases i with
  | enqueue job =>
    exact hs.of_leasesKept (leasesKept_insert job s.jobs) rfl rfl fun _ _ h => Or.inl h
  | claim now token q => exact hs.claim hi
  | refresh now token id => exact hs.refresh now token id
  | heartbeat now token id =>
    exact hs.of_leasesKept (leasesKept_renew now token id s.jobs) rfl rfl fun _ _ h => Or.inl h
  | check token result => exact hs.check token result
  | reread token => exact hs.reread token
  | rollback token => exact hs.rollback token
  | commit now token => exact hs.commit now token
  | crash token =>
    refine hs.of_leasesKept (LeasesKept.refl _) rfl rfl ?_
    intro t phase h
    exact Or.inl (InHand.of_release h).2

/-! ## whole runs -/

theorem completions_hold_lease (c : Settings) (l : List JobStep)
    (h : Along (JobStep.apply c) (JobStep.Safe c) Queue.empty l) :
    (∀ l₁ now token l₂, l = l₁ ++ .commit now token :: l₂ → ∀ id copy result,
      (run (JobStep.apply c) Queue.empty l₁).workers token = some (.checked id copy result) →
      ∃ job, (run (JobStep.apply c) Queue.empty l₁).jobs.get? id = some job ∧
        job.lockedBy = some token ∧ job.status = .processing) ∧
      (run (JobStep.apply c) Queue.empty l).completions.Nodup := by
  have hok : ∀ l, Along (JobStep.apply c) (JobStep.Safe c) Queue.empty l →
      (run (JobStep.apply c) Queue.empty l).Ok := fun l h =>
    h.invariant (I := Queue.Ok) (fun s i hs hi => hs.step hi) Queue.ok_empty
  constructor
  · rintro l₁ now token l₂ rfl id copy result hphase
    have hfirst := ((along_append _ l₁ _).1 h).1
    exact (hok l₁ hfirst).checked token id copy result hphase
  · exact (hok l h).once

def sampleSettings : Settings := ⟨300, 25⟩

def sampleJob : BackgroundJob where
  jobType := "webchat.ai_reply"
  status := .pending
  attemptCount := 0
  maxAttempts := 5
  nextRunAt := none
  lockedAt := none
  lockedBy := none
  lastError := none
  createdAt := 0
  updatedAt := 0

def allJobs : ClaimRequest := ⟨none, [], fun _ => true⟩

/-- worker `a` fails, worker `b` retries and succeeds. -/
def retriedRun : List JobStep :=
  [.enqueue sampleJob, .claim 0 "a" allJobs, .refresh 0 "a" 1, .check "a" (.retry "timeout"),
    .commit (seconds 5) "a", .claim (seconds 90) "b" allJobs, .refresh (seconds 90) "b" 1,
    .check "b" .done, .commit (seconds 95) "b"]

theorem completions_hold_lease_retried :
    (run (JobStep.apply sampleSettings) Queue.empty retriedRun).completions.Nodup :=
  (completions_hold_lease sampleSettings retriedRun (by decide +kernel)).2

/-- the lease of worker `a` expires between its check and its commit; worker `b` takes the job
over. -/
def overtakenRun : List JobStep :=
  [.enqueue sampleJob, .claim 0 "a" allJobs, .refresh 0 "a" 1, .check "a" .done,
    .claim (seconds 301) "b" allJobs, .refresh (seconds 301) "b" 1, .check "b" .done]

/-- worker `a` commits its result although the row carries the token of worker `b`, and both
commit. -/
theorem overtakenRun_commits_twice :
    (run (JobStep.apply sampleSettings) Queue.empty overtakenRun).isChecked "a" 1 = true ∧
      ((run (JobStep.apply sampleSettings) Queue.empty overtakenRun).jobs.get? 1).map
        (·.lockedBy) = some (some "b") ∧
      (run (JobStep.apply sampleSettings) Queue.empty
        (overtakenRun ++ [.commit (seconds 302) "a", .commit (seconds 303) "b"])).completions =
          [(1, "b"), (1, "a")] := by
  decide +kernel

end NexusHelpdesk.Jobs
