import NexusHelpdesk.Lib.Mirror
import NexusHelpdesk.Lib.Run
import NexusHelpdesk.Runtime.Finished

/-!
# Retried reply jobs (`webchat_ai_service.process_webchat_ai_reply_job`)

Every attempt of a reply job calls the runtime under the same request id, in a session of its own.
An attempt can stop after any commit of its run, or before its reply is committed; the next one
finds the rows that were committed so far.

* `Attempt`, `ReplyJob`, `processWebchatAiReplyJob`: one attempt;
* `Unhindered`: the rows keep a call from nothing that it would do with a new request id;
* `Resumable`: the rows hold no run, or one that the call can go on with, and no other snapshot;
* `Alike`: two sessions of one call, the second of which has what the first has;
* `serves_iff`: **the attempts of a job are served exactly if each finds resumable rows**;
* `committed_run_blocks_retry`: a run was committed, its reply was not.
* `attempts_numbered`: **the events of a run stay numbered over all its attempts, and an ended run
  stays as it is**.
-/

namespace NexusHelpdesk.Runtime

open Lib

/-! ## attempts of a job -/

/-- `stop` is the number of commits of the run after which the attempt stops; one that does not
stop commits its reply. -/
structure Attempt where
  call : RunCall
  stop : Option ℕ

structure ReplyJob where
  rows : RunRows
  reply : Option RunResult
deriving DecidableEq, Repr

def RunSession.committedAfter (s : RunSession) (n : ℕ) : RunRows :=
  (s.commits.drop (s.commits.length - n)).headD s.base

def processWebchatAiReplyJob (a : Attempt) (job : ReplyJob) : ReplyJob :=
  if job.reply.isSome then job
  else
    let session := runAgentWithDb a.call (RunSession.start job.rows)
    match a.stop with
    | some n => { job with rows := session.2.committedAfter n }
    | none =>
      match session.1 with
      | .ok result => ⟨session.2.committed, some result⟩
      | .error _ => { job with rows := session.2.committed }

def opening (c : RunCall) : RunOp Unit := do
  startAgentRun c.sessionId c.tenantKey c.parentFound
  bindRelease c

/-- with a new request id, the call comes back with an answer of the provider. -/
def RunCall.Answers (c : RunCall) (handoff : Bool) : Prop :=
  (runAgentWithDb c (RunSession.start noRows)).1 = .ok (.answer handoff)

/-- a call that starts, binds its release or answers with a new request id does so on the rows. -/
structure Unhindered (c : RunCall) (rows : RunRows) : Prop where
  starts :
    (startAgentRun c.sessionId c.tenantKey c.parentFound (RunSession.start noRows)).1 = .ok () →
    (startAgentRun c.sessionId c.tenantKey c.parentFound (RunSession.start rows)).1 = .ok ()
  binds : (opening c (RunSession.start noRows)).1 = .ok () →
    (opening c (RunSession.start rows)).1 = .ok ()
  answers : ∀ handoff, c.Answers handoff →
    (runAgentWithDb c (RunSession.start rows)).1 = .ok (.answer handoff)

/-- the run that an accepted call finds is running, with its session and tenant; the snapshot that
it finds when its release binds has the digest of that release. -/
structure Resumable (c : RunCall) (rows : RunRows) : Prop where
  run : ∀ sessionId tenantKey, c.Accepted sessionId tenantKey → ∀ run, rows.run = some run →
    run.status = .running ∧ run.sessionId = sessionId ∧ run.tenantKey = tenantKey
  snapshot : ∀ sessionId tenantKey, c.Accepted sessionId tenantKey → c.Binds tenantKey →
    ∀ digest, rows.snapshot = some digest →
      ∃ resolved, c.release = .ok resolved ∧ resolved.digest = digest

/-- an attempt that is to reply is unhindered, and commits the answer of its provider. -/
def Serves (job : ReplyJob) (a : Attempt) : Prop :=
  job.reply = none → a.stop = none → Unhindered a.call job.rows ∧
    ∀ handoff, a.call.Answers handoff →
      (processWebchatAiReplyJob a job).reply = some (.answer handoff)

def FindsResumable (job : ReplyJob) (a : Attempt) : Prop :=
  job.reply = none → a.stop = none → Resumable a.call job.rows

/-! ## alike sessions -/

/-- where the first still has its run, both are running; the second has the audits of the first. -/
structure RowsAlike (rows rows' : RunRows) : Prop where
  run : rows.run = none ∨ (∃ run, rows.run = some run ∧ run.status = .running) ∧
    ∃ run, rows'.run = some run ∧ run.status = .running
  audited : ∀ k ∈ rows.audited, k ∈ rows'.audited

structure Alike (s s' : RunSession) : Prop where
  work : RowsAlike s.work s'.work
  committed : RowsAlike s.committed s'.committed

variable {s s' t : RunSession} {run : AgentRun} {c : RunCall} {handoff : Bool}
  {body : RunOp RunResult} {r : RunResult}

lemma Alike.rollback (h : Alike s s') : Alike s.rollback s'.rollback :=
  ⟨h.committed, h.committed⟩

lemma Alike.running (h : Alike s s') (hrun : s.work.run = some run) :
    run.status = .running ∧ ∃ run', s'.work.run = some run' ∧ run'.status = .running := by
  rcases h.work.run with hnone | ⟨⟨run', hrun', hstatus⟩, hother⟩
  · rw [hnone] at hrun
    cases hrun
  · rw [hrun'] at hrun
    cases hrun
    exact ⟨hstatus, hother⟩

lemma mirrors_append (eventType : EventType) (roundIndex : Option ℕ) :
    Txn.Mirrors Alike (appendAgentEvent eventType roundIndex) Alike := by
  intro s s' a t hs hm
  cases hrun : s.work.run with
  | none =>
    have herr : lockedRun s = .error "NoResultFound" := by
      unfold lockedRun
      rw [hrun]
    unfold appendAgentEvent at hm
    rw [Txn.run_bind, Txn.run_check, herr] at hm
    cases hm
  | some run =>
    obtain ⟨-, run', hrun', -⟩ := hs.running hrun
    rw [appendAgentEvent_run hrun] at hm
    cases hm
    exact ⟨_, appendAgentEvent_run hrun' _ _, ⟨hs.work.run, hs.work.audited⟩, hs.committed⟩

lemma finishAgentRun_running (status : RunStatus) (finalAction errorCode : Option String)
    (h : s.work.run = some run) (hstatus : run.status = .running) :
    ∃ t, finishAgentRun status finalAction errorCode s = (.ok (), t) := by
  have hlocked : lockedRun s = .ok run := by
    unfold lockedRun
    rw [h]
  have hset : ∀ f : AgentRun → AgentRun, (s.setRun f).work.run = some (f run) := by
    intro f
    show s.work.run.map f = _
    rw [h]
    rfl
  have hckpt : ∀ b, ∃ t, Txn.when b (appendAgentEvent .sessionCheckpointSaved none)
      (s.setRun fun run => { run with
        status := status, finalAction := finalAction, errorCode := errorCode }) = (.ok (), t) ∧
      t.work.run = some { run with
        status := status, finalAction := finalAction, errorCode := errorCode } := by
    intro b
    cases b with
    | true => exact ⟨_, appendAgentEvent_run (hset _) _ _, hset _⟩
    | false => exact ⟨_, rfl, hset _⟩
  obtain ⟨t, ht, hrun⟩ :=
    hckpt (run.releaseId.isSome && (status = .succeeded || status = .fallback))
  have hwrites : ∃ u, finishWrites status finalAction errorCode s = (.ok (), u) := by
    unfold finishWrites
    rw [Txn.run_bind, Txn.run_check, hlocked]
    dsimp only
    rw [Txn.run_bind, Txn.run_write]
    dsimp only
    rw [Txn.run_bind, ht]
    exact ⟨_, appendAgentEvent_run hrun _ _⟩
  obtain ⟨u, hu⟩ := hwrites
  refine ⟨u.commit, ?_⟩
  unfold finishAgentRun
  rw [Txn.run_bind, Txn.run_read]
  dsimp only
  rw [h, Option.filter_some_neg (by simp [hstatus])]
  dsimp only
  rw [Txn.run_bind, Txn.run_attempt, hu]
  rfl

lemma mirrors_finish (status : RunStatus) (finalAction errorCode : Option String) :
    Txn.Mirrors Alike (finishAgentRun status finalAction errorCode) fun _ _ => True := by
  intro s s' a t hs hm
  cases hrun : s.work.run with
  | none =>
    have herr : lockedRun s = .error "NoResultFound" := by
      unfold lockedRun
      rw [hrun]
    have hwrites : finishWrites status finalAction errorCode s =
        (.error "NoResultFound", s) := by
      unfold finishWrites
      rw [Txn.run_bind, Txn.run_check, herr]
    unfold finishAgentRun at hm
    rw [Txn.run_bind, Txn.run_read, hrun] at hm
    change (Txn.attempt (finishWrites status finalAction errorCode) >>= _) s = _ at hm
    rw [Txn.run_bind, Txn.run_attempt, hwrites] at hm
    cases hm
  | some run =>
    obtain ⟨-, run', hrun', hstatus'⟩ := hs.running hrun
    obtain ⟨t', ht'⟩ := finishAgentRun_running status finalAction errorCode hrun' hstatus'
    exact ⟨t', ht', trivial⟩

lemma mirrors_terminalFallback (errorCode : String) :
    Txn.Mirrors Alike (terminalFallback errorCode) fun _ _ => True := by
  refine Txn.Mirrors.bind (mirrors_append _ _) fun _ => ?_
  exact Txn.Mirrors.bind (mirrors_finish _ _ _) fun _ => Txn.Mirrors.pure

lemma mirrors_terminalDecision (k : ℕ) (observations : List ToolObservation) (d : AIDecision) :
    Txn.Mirrors Alike (terminalDecision k observations d) fun _ _ => True := by
  refine Txn.Mirrors.ite (mirrors_terminalFallback _) ?_
  refine Txn.Mirrors.bind (Txn.Mirrors.when (mirrors_append _ _)) fun _ => ?_
  refine Txn.Mirrors.bind (Txn.Mirrors.when (mirrors_append _ _)) fun _ => ?_
  refine Txn.Mirrors.bind (mirrors_append _ _) fun _ => ?_
  exact Txn.Mirrors.bind (mirrors_finish _ _ _) fun _ => Txn.Mirrors.pure

lemma mirrors_writeAudit (audited : Option ℕ) (ok : Bool) :
    Txn.Mirrors Alike (writeAudit audited ok) Alike := by
  refine Txn.Mirrors.write fun s s' hs => ?_
  cases ok with
  | false => exact hs.rollback
  | true =>
    have haudited : ∀ k ∈ audited.toList ++ s.work.audited,
        k ∈ audited.toList ++ s'.work.audited := by
      intro k hk
      rcases List.mem_append.1 hk with hnew | hold
      · exact List.mem_append_left _ hnew
      · exact List.mem_append_right _ (hs.work.audited k hold)
    exact ⟨⟨hs.work.run, haudited⟩, ⟨hs.work.run, haudited⟩⟩

lemma mirrors_route (c : RunCall) (k : ℕ) : Txn.Mirrors Alike (route c k) Alike := by
  refine Txn.Mirrors.bind (S := Alike) (Txn.Mirrors.write fun s s' hs => ?_) fun _ => ?_
  · exact ⟨hs.work, hs.committed⟩
  split
  · exact Txn.Mirrors.bind (Txn.Mirrors.each (mirrors_writeAudit none) _) fun _ =>
      Txn.Mirrors.raise
  · refine Txn.Mirrors.bind (Txn.Mirrors.each (mirrors_writeAudit none) _) fun _ => ?_
    exact Txn.Mirrors.bind (mirrors_writeAudit _ _) fun _ => Txn.Mirrors.pure

lemma auditExists_alike {k : ℕ} (hs : Alike s s') (h : auditExists c k s = (.ok true, t)) :
    ∃ t', auditExists c k s' = (.ok true, t') ∧ Alike t t' := by
  unfold auditExists at h ⊢
  by_cases hreadable : (c.round k).auditReadable = true
  · rw [if_pos hreadable] at h ⊢
    obtain ⟨hmem, rfl⟩ := Prod.mk.inj h
    have hk : k ∈ s.work.audited := of_decide_eq_true (Except.ok.inj hmem)
    refine ⟨s', ?_, hs⟩
    rw [Txn.run_read, decide_eq_true (hs.work.audited k hk)]
  · rw [if_neg hreadable] at h
    cases h

lemma mirrors_recordToolEvents (k : ℕ) (observations : List ToolObservation) :
    Txn.Mirrors Alike (recordToolEvents k observations) Alike := by
  refine Txn.Mirrors.each (fun o => ?_) observations
  exact Txn.Mirrors.bind (mirrors_append _ _) fun _ => mirrors_append _ _

lemma mirrors_toolBatch (c : RunCall) (k : ℕ) (d : AIDecision) :
    Txn.Mirrors Alike (toolBatch c k d) Alike := by
  refine Txn.Mirrors.bind (mirrors_append _ _) fun _ => ?_
  refine Txn.Mirrors.bind (Txn.Mirrors.each (fun _ => mirrors_append _ _) d.toolCalls) fun _ => ?_
  refine Txn.Mirrors.bind (S := Alike) (Txn.Mirrors.write fun s s' hs => ?_) fun _ => ?_
  · exact ⟨hs.work, hs.committed⟩
  split
  · exact Txn.Mirrors.bind (mirrors_recordToolEvents k _) fun _ => Txn.Mirrors.pure
  · refine Txn.Mirrors.bind (S := Alike) (Txn.Mirrors.write fun s s' hs => hs.rollback) fun _ => ?_
    exact Txn.Mirrors.bind (mirrors_recordToolEvents k _) fun _ => Txn.Mirrors.pure

lemma terminalFallback_no_answer {errorCode : String} :
    terminalFallback errorCode s ≠ (.ok (.answer handoff), t) := by
  intro h
  unfold terminalFallback at h
  obtain ⟨_, u, -, h⟩ := (Txn.bind_eq_ok _).1 h
  obtain ⟨_, v, -, h⟩ := (Txn.bind_eq_ok _).1 h
  cases h

lemma loop_alike {n k : ℕ} {observations : List ToolObservation} (hs : Alike s s')
    (h : loop c n k observations s = (.ok (.answer handoff), t)) :
    ∃ t', loop c n k observations s' = (.ok (.answer handoff), t') := by
  induction n generalizing k observations s s' with
  | zero => exact absurd h terminalFallback_no_answer
  | succ n ih =>
    unfold loop at h ⊢
    obtain ⟨answer, u, hroute, h⟩ := (Txn.bind_eq_ok _).1 h
    obtain ⟨u', hroute', hu⟩ := mirrors_route c k s s' answer u hs hroute
    rw [Txn.run_bind_ok _ hroute']
    cases answer with
    | unavailable errorCode => exact absurd h terminalFallback_no_answer
    | output decision =>
      dsimp only at h ⊢
      obtain ⟨audited, v, haudit, h⟩ := (Txn.bind_eq_ok _).1 h
      cases audited with
      | false => exact absurd h terminalFallback_no_answer
      | true =>
        obtain ⟨v', haudit', hv⟩ := auditExists_alike hu haudit
        rw [Txn.run_bind_ok _ haudit']
        cases decision with
        | none => exact absurd h terminalFallback_no_answer
        | some d =>
          change (if d.nextAction ≠ .callTool then _ else _ : RunOp RunResult) v = _ at h
          show ∃ t', (if d.nextAction ≠ .callTool then _ else _ : RunOp RunResult) v' = _
          by_cases hterminal : d.nextAction ≠ .callTool
          · rw [if_pos hterminal] at h ⊢
            obtain ⟨t', ht', -⟩ := mirrors_terminalDecision k observations d v v' _ t hv h
            exact ⟨t', ht'⟩
          · rw [if_neg hterminal] at h ⊢
            by_cases hlimit : c.maxRounds ≤ k
            · rw [if_pos hlimit] at h
              exact absurd h terminalFallback_no_answer
            · rw [if_neg hlimit] at h ⊢
              obtain ⟨observed, w, hbatch, h⟩ := (Txn.bind_eq_ok _).1 h
              obtain ⟨w', hbatch', hw⟩ := mirrors_toolBatch c k d v v' observed w hv hbatch
              rw [Txn.run_bind_ok _ hbatch']
              cases observed with
              | none => exact absurd h terminalFallback_no_answer
              | some more => exact ih hw h

lemma guarded_ok (h : guarded body s = (.ok r, t)) : body s = (.ok r, t) := by
  unfold guarded at h
  rw [Txn.run_bind, Txn.run_attempt] at h
  cases hbody : body s with
  | mk result u =>
    rw [hbody] at h
    cases result with
    | ok answer => exact h
    | error e =>
      obtain ⟨finished, v, -, h⟩ := (Txn.bind_eq_ok _).1 h
      cases finished with
      | ok _ => cases h
      | error _ =>
        obtain ⟨_, w, -, h⟩ := (Txn.bind_eq_ok _).1 h
        cases h

lemma guarded_of_ok (h : body s = (.ok r, t)) : guarded body s = (.ok r, t) := by
  unfold guarded
  rw [Txn.run_bind, Txn.run_attempt, h]
  rfl

/-! ## the opening of a call -/

structure Opened (rows : RunRows) (tenantKey : Text) (s : RunSession) : Prop where
  run : ∃ run, s.work.run = some run ∧ run.status = .running ∧ run.tenantKey = tenantKey
  snapshot : s.work.snapshot = rows.snapshot
  audited : s.work.audited = rows.audited
  committed : s.committed = rows

section Opening
variable {c : RunCall} {rows : RunRows} {sessionId tenantKey : Text}
  {resolved : ResolvedAgentRelease}

lemma startAgentRun_opens (h : c.Accepted sessionId tenantKey)
    (hrun : ∀ run, rows.run = some run →
      run.status = .running ∧ run.sessionId = sessionId ∧ run.tenantKey = tenantKey) :
    ∃ t, startAgentRun c.sessionId c.tenantKey c.parentFound (RunSession.start rows) =
      (.ok (), t) ∧ Opened rows tenantKey t := by
  obtain ⟨hsession, htenant, hparent⟩ := h
  unfold startAgentRun
  rw [Txn.run_bind, Txn.run_check, hsession]
  dsimp only
  rw [Txn.run_bind, Txn.run_check, htenant, hparent]
  dsimp only
  rw [Txn.run_bind, Txn.run_check]
  cases hrows : rows.run with
  | none =>
    have hfound : existingRun sessionId tenantKey (RunSession.start rows) = .ok false := by
      unfold existingRun RunSession.start
      rw [hrows]
    rw [hfound]
    exact ⟨_, rfl, ⟨_, rfl, rfl, rfl⟩, rfl, rfl, rfl⟩
  | some run =>
    obtain ⟨hstatus, hs, ht⟩ := hrun run hrows
    have hfound : existingRun sessionId tenantKey (RunSession.start rows) = .ok true := by
      unfold existingRun RunSession.start
      rw [hrows]
      dsimp only
      rw [if_neg (not_or.2 ⟨not_not.2 hs, not_not.2 ht⟩), if_neg (not_not.2 hstatus)]
    rw [hfound]
    exact ⟨_, rfl, ⟨run, hrows, hstatus, ht⟩, rfl, rfl, rfl⟩

lemma startAgentRun_conflicts {run : AgentRun} (h : c.Accepted sessionId tenantKey)
    (hrows : rows.run = some run)
    (hrun : ¬(run.status = .running ∧ run.sessionId = sessionId ∧ run.tenantKey = tenantKey)) :
    ∃ e t, startAgentRun c.sessionId c.tenantKey c.parentFound (RunSession.start rows) =
      (.error e, t) := by
  obtain ⟨hsession, htenant, hparent⟩ := h
  unfold startAgentRun
  rw [Txn.run_bind, Txn.run_check, hsession]
  dsimp only
  rw [Txn.run_bind, Txn.run_check, htenant, hparent]
  dsimp only
  rw [Txn.run_bind, Txn.run_check]
  have hfound : ∃ e, existingRun sessionId tenantKey (RunSession.start rows) = .error e := by
    unfold existingRun RunSession.start
    rw [hrows]
    dsimp only
    by_cases howner : run.sessionId ≠ sessionId ∨ run.tenantKey ≠ tenantKey
    · rw [if_pos howner]
      exact ⟨_, rfl⟩
    · rw [if_neg howner]
      have hended : run.status ≠ .running := by
        intro hstatus
        rw [not_or, not_not, not_not] at howner
        exact hrun ⟨hstatus, howner⟩
      rw [if_pos hended]
      exact ⟨_, rfl⟩
  obtain ⟨e, he⟩ := hfound
  rw [he]
  exact ⟨e, _, rfl⟩

lemma bindAgentRunRelease_opened {s : RunSession} (h : Opened rows tenantKey s)
    (htenant : tenantKey = resolved.tenantKey) :
    ∃ t, bindAgentRunRelease resolved s = (.ok (), t) ∧ Opened rows tenantKey t := by
  obtain ⟨run, hrun, hstatus, hkey⟩ := h.run
  have hlocked : lockedRun s = .ok run := by
    unfold lockedRun
    rw [hrun]
  have hset : ∀ f : AgentRun → AgentRun, (s.setRun f).work.run = some (f run) := by
    intro f
    show s.work.run.map f = _
    rw [hrun]
    rfl
  unfold bindAgentRunRelease
  rw [Txn.run_bind, Txn.run_check, hlocked]
  dsimp only
  rw [if_neg (not_not.2 (hkey.trans htenant)), Txn.run_bind, Txn.run_write]
  dsimp only
  rw [appendAgentEvent_run (hset _)]
  exact ⟨_, rfl, ⟨_, hset _, hstatus, hkey⟩, h.snapshot, h.audited, h.committed⟩

lemma bindRelease_opened {s : RunSession} (ha : c.Accepted sessionId tenantKey)
    (h : Opened rows tenantKey s) (hrelease : c.release = .ok resolved)
    (hdigest : c.suppliedDigest = none ∨ c.suppliedDigest = some resolved.digest)
    (htenant : tenantKey = resolved.tenantKey) :
    if ∀ digest, rows.snapshot = some digest → resolved.digest = digest then
      ∃ t, bindRelease c s = (.ok (), t) ∧
        (∃ run, t.work.run = some run ∧ run.status = .running) ∧
        t.work.audited = rows.audited ∧ t.committed = rows
    else ∃ e t, bindRelease c s = (.error e, t) := by
  have hsupplied : ¬(c.suppliedDigest ≠ none ∧ c.suppliedDigest ≠ some resolved.digest) := by
    rintro ⟨hne, hne'⟩
    exact hdigest.elim hne hne'
  obtain ⟨t, ht, hopen⟩ := bindAgentRunRelease_opened h htenant
  obtain ⟨run, hrun, hstatus, -⟩ := hopen.run
  unfold bindRelease
  rw [Txn.run_bind, Txn.run_check, hrelease]
  dsimp only
  rw [if_neg hsupplied, Txn.run_bind, ht]
  dsimp only
  unfold recordRunSnapshot
  rw [Txn.run_bind, Txn.run_read]
  dsimp only
  rw [if_neg (nonblank_of_required ha.1), hopen.snapshot]
  cases hsnapshot : rows.snapshot with
  | none =>
    rw [if_pos (fun digest hd => by cases hd)]
    exact ⟨_, rfl, ⟨run, hrun, hstatus⟩, hopen.audited, hopen.committed⟩
  | some digest =>
    dsimp only
    by_cases hsame : resolved.digest = digest
    · rw [if_pos (fun _ hd => hsame.trans (Option.some.inj hd)), if_neg (not_not.2 hsame.symm)]
      exact ⟨_, rfl, ⟨run, hrun, hstatus⟩, hopen.audited, hopen.committed⟩
    · rw [if_neg (fun hall => hsame (hall digest rfl)), if_pos (Ne.symm hsame)]
      exact ⟨_, _, rfl⟩

lemma accepted_of_starts
    (h : (startAgentRun c.sessionId c.tenantKey c.parentFound (RunSession.start noRows)).1 =
      .ok ()) : ∃ sessionId tenantKey, c.Accepted sessionId tenantKey := by
  by_contra hnot
  obtain ⟨e, he⟩ := startAgentRun_refused hnot
  rw [he] at h
  cases h

lemma resumable_noRows (c : RunCall) : Resumable c noRows where
  run := by
    intro _ _ _ run hrun
    cases hrun
  snapshot := by
    intro _ _ _ _ digest hdigest
    cases hdigest

lemma opening_resumes (hr : Resumable c rows) (ha : c.Accepted sessionId tenantKey)
    (hb : c.Binds tenantKey) :
    ∃ s t, startAgentRun c.sessionId c.tenantKey c.parentFound (RunSession.start rows) =
        (.ok (), s) ∧ bindRelease c s = (.ok (), t) ∧
      (∃ run, t.work.run = some run ∧ run.status = .running) ∧
      t.work.audited = rows.audited ∧ t.committed = rows := by
  obtain ⟨resolved, hrelease, hdigest, htenant⟩ := hb
  obtain ⟨s, hs, hopen⟩ := startAgentRun_opens ha (hr.run _ _ ha)
  have hsnapshot : ∀ digest, rows.snapshot = some digest → resolved.digest = digest := by
    intro digest hd
    obtain ⟨resolved', hrelease', hsame⟩ :=
      hr.snapshot _ _ ha ⟨resolved, hrelease, hdigest, htenant⟩ digest hd
    rw [hrelease] at hrelease'
    cases hrelease'
    exact hsame
  have hbind := bindRelease_opened ha hopen hrelease hdigest htenant
  rw [if_pos hsnapshot] at hbind
  obtain ⟨t, ht, hrun⟩ := hbind
  exact ⟨s, t, hs, ht, hrun⟩

lemma binds_of_opening (ha : c.Accepted sessionId tenantKey)
    (h : (bindRelease c (started sessionId tenantKey)).1 = .ok ()) : c.Binds tenantKey := by
  by_contra hb
  obtain ⟨e, t, ht, -⟩ := bindRelease_fails sessionId hb
  rw [ht] at h
  cases h

lemma answers_of_resumable {handoff : Bool} (hr : Resumable c rows) (h : c.Answers handoff) :
    (runAgentWithDb c (RunSession.start rows)).1 = .ok (.answer handoff) := by
  obtain ⟨u, hu⟩ : ∃ u, runAgentWithDb c (RunSession.start noRows) =
      (.ok (.answer handoff), u) := ⟨_, Prod.ext h rfl⟩
  have hstarts : (startAgentRun c.sessionId c.tenantKey c.parentFound
      (RunSession.start noRows)).1 = .ok () := by
    unfold runAgentWithDb at hu
    obtain ⟨_, t, ht, -⟩ := (Txn.bind_eq_ok _).1 hu
    rw [ht]
  obtain ⟨sessionId, tenantKey, ha⟩ := accepted_of_starts hstarts
  rw [runAgentWithDb_accepted ha] at hu
  have hb : c.Binds tenantKey := by
    by_contra hb
    obtain ⟨e, t, ht, -⟩ := bindRelease_fails sessionId hb
    unfold afterStart at hu
    rw [Txn.run_bind, Txn.run_attempt, ht] at hu
    exact terminalFallback_no_answer hu
  obtain ⟨s, t, hs, ht, ⟨run, hrun, hstatus⟩, haudited, hcommitted⟩ :=
    opening_resumes (resumable_noRows c) ha hb
  obtain ⟨s', t', hs', ht', hrun', haudited', hcommitted'⟩ := opening_resumes hr ha hb
  have hstarted : s = started sessionId tenantKey := by
    rw [startAgentRun_accepted ha] at hs
    exact (Prod.mk.inj hs).2.symm
  rw [hstarted] at ht
  have halike : Alike t t' := by
    refine ⟨⟨.inr ⟨⟨run, hrun, hstatus⟩, hrun'⟩, ?_⟩, ?_⟩
    · intro k hk
      rw [haudited] at hk
      cases hk
    · rw [hcommitted]
      exact ⟨.inl rfl, fun k hk => by cases hk⟩
  unfold afterStart at hu
  rw [Txn.run_bind, Txn.run_attempt, ht] at hu
  unfold runAgentWithDb afterStart
  rw [Txn.run_bind_ok _ hs', Txn.run_bind, Txn.run_attempt, ht']
  cases hcontract : c.contract with
  | error e =>
    rw [hcontract] at hu
    exact absurd hu terminalFallback_no_answer
  | ok _ =>
    rw [hcontract] at hu
    dsimp only at hu ⊢
    rw [Txn.run_bind, Txn.run_check] at hu ⊢
    cases hsetup : c.setup with
    | error e =>
      rw [hsetup] at hu
      cases hu
    | ok _ =>
      rw [hsetup] at hu
      obtain ⟨u', hu'⟩ := loop_alike halike (guarded_ok hu)
      dsimp only
      rw [guarded_of_ok hu']

lemma unhindered_iff : Unhindered c rows ↔ Resumable c rows := by
  constructor
  · intro h
    have hrun : ∀ sessionId tenantKey, c.Accepted sessionId tenantKey →
        ∀ run, rows.run = some run →
          run.status = .running ∧ run.sessionId = sessionId ∧ run.tenantKey = tenantKey := by
      intro sessionId tenantKey ha run hrows
      by_contra hbad
      obtain ⟨e, t, ht⟩ := startAgentRun_conflicts ha hrows hbad
      have hstarts := h.starts (by rw [startAgentRun_accepted ha])
      rw [ht] at hstarts
      cases hstarts
    refine ⟨hrun, ?_⟩
    intro sessionId tenantKey ha hb digest hdigest
    obtain ⟨s, t, hs, ht, -⟩ := opening_resumes (resumable_noRows c) ha hb
    have hbinds := h.binds (by
      unfold opening
      rw [Txn.run_bind_ok _ hs, ht])
    obtain ⟨resolved, hrelease, hsupplied, htenant⟩ := hb
    obtain ⟨s', hs', hopen⟩ := startAgentRun_opens ha (hrun _ _ ha)
    have hbind := bindRelease_opened ha hopen hrelease hsupplied htenant
    refine ⟨resolved, hrelease, ?_⟩
    by_contra hother
    rw [if_neg (fun hall => hother (hall digest hdigest))] at hbind
    obtain ⟨e, t', ht'⟩ := hbind
    unfold opening at hbinds
    rw [Txn.run_bind_ok _ hs', ht'] at hbinds
    cases hbinds
  · intro hr
    refine ⟨?_, ?_, fun handoff => answers_of_resumable hr⟩
    · intro hstarts
      obtain ⟨sessionId, tenantKey, ha⟩ := accepted_of_starts hstarts
      obtain ⟨s, hs, -⟩ := startAgentRun_opens ha (hr.run _ _ ha)
      rw [hs]
    · intro hopens
      have hstarts : (startAgentRun c.sessionId c.tenantKey c.parentFound
          (RunSession.start noRows)).1 = .ok () := by
        unfold opening at hopens
        cases hstart : startAgentRun c.sessionId c.tenantKey c.parentFound
            (RunSession.start noRows) with
        | mk r t =>
          cases r with
          | ok _ => rfl
          | error e =>
            rw [Txn.run_bind_error _ hstart] at hopens
            cases hopens
      obtain ⟨sessionId, tenantKey, ha⟩ := accepted_of_starts hstarts
      have hb : c.Binds tenantKey := by
        unfold opening at hopens
        rw [Txn.run_bind_ok _ (startAgentRun_accepted ha)] at hopens
        exact binds_of_opening ha hopens
      obtain ⟨s, t, hs, ht, -⟩ := opening_resumes hr ha hb
      unfold opening
      rw [Txn.run_bind_ok _ hs, ht]

end Opening

/-! ## the attempts of a job -/

lemma reply_of_resumable {job : ReplyJob} {a : Attempt} (hreply : job.reply = none)
    (hstop : a.stop = none) (hr : Resumable a.call job.rows) (h : a.call.Answers handoff) :
    (processWebchatAiReplyJob a job).reply = some (.answer handoff) := by
  have hanswer := answers_of_resumable hr h
  unfold processWebchatAiReplyJob
  rw [hreply, if_neg (by simp), hstop]
  dsimp only
  rw [hanswer]

lemma serves_of_step (job : ReplyJob) (a : Attempt) : Serves job a ↔ FindsResumable job a := by
  constructor
  · intro h hreply hstop
    exact unhindered_iff.1 (h hreply hstop).1
  · intro h hreply hstop
    have hr := h hreply hstop
    exact ⟨unhindered_iff.2 hr, fun handoff => reply_of_resumable hreply hstop hr⟩

theorem serves_iff (attempts : List Attempt) :
    Along processWebchatAiReplyJob Serves ⟨noRows, none⟩ attempts ↔
      Along processWebchatAiReplyJob FindsResumable ⟨noRows, none⟩ attempts :=
  along_congr serves_of_step _ attempts

def answeredCall : RunCall where
  sessionId := "s".toList
  tenantKey := "t".toList
  parentFound := true
  release := .ok ⟨"t".toList, 1, [], []⟩
  suppliedDigest := none
  contract := .ok ()
  maxToolRounds := none
  roundCeiling := 6
  setup := .ok ()
  round := fun _ => ⟨.returned [] true (.output (some ⟨.reply, false, []⟩)), true, .ok []⟩

/-- the first attempt stops after the two commits of its run; the second is the same call again. -/
theorem committed_run_blocks_retry :
    ¬Along processWebchatAiReplyJob Serves ⟨noRows, none⟩
      [⟨answeredCall, some 2⟩, ⟨answeredCall, none⟩] := by
  rintro ⟨-, hsecond, -⟩
  have hanswers : answeredCall.Answers false := by
    show (runAgentWithDb answeredCall (RunSession.start noRows)).1 = .ok (.answer false)
    decide +kernel
  have hreply := (hsecond rfl rfl).2 false hanswers
  revert hreply
  decide +kernel

/-! ## the events of all attempts -/

section Gapless
open Txn (Keeps)

/-- whatever the session reads or has committed is numbered. -/
structure SessionNumbered (s : RunSession) : Prop where
  base : s.base.Numbered
  work : s.work.Numbered
  commits : ∀ rows ∈ s.commits, rows.Numbered

lemma SessionNumbered.headD (h : SessionNumbered s) {l : List RunRows}
    (hl : ∀ rows ∈ l, rows ∈ s.commits) : (l.headD s.base).Numbered := by
  cases l with
  | nil => exact h.base
  | cons rows l => exact h.commits rows (hl rows (List.mem_cons_self ..))

lemma follows_numbered : Follows fun _ _ => SessionNumbered where
  stable := fun _ _ =>
    { append := fun _ _ _ _ hs _ => ⟨hs.base, RunRows.numbered_append hs.work, hs.commits⟩
      setRun := fun _ _ _ hs _ => ⟨hs.base, hs.work, hs.commits⟩
      rows := fun _ _ _ hs => ⟨hs.base, hs.work, hs.commits⟩
      commit := by
        intro s hs
        refine ⟨hs.base, hs.work, ?_⟩
        intro rows hmem
        rcases List.mem_cons.1 hmem with rfl | hold
        · exact hs.work
        · exact hs.commits rows hold
      rollback := fun s hs => ⟨hs.base, hs.headD fun _ h => h, hs.commits⟩ }
  mono := fun _ _ _ _ _ _ _ hs => hs
  router := fun _ _ _ hs => ⟨hs.base, hs.work, hs.commits⟩
  tools := fun _ _ _ hs => ⟨hs.base, hs.work, hs.commits⟩

lemma keeps_startAgentRun (sessionId tenantKey : Text) (parentFound : Bool) :
    Keeps SessionNumbered (startAgentRun sessionId tenantKey parentFound) := by
  refine Keeps.bind Keeps.check fun sessionId => ?_
  refine Keeps.bind Keeps.check fun tenantKey => ?_
  refine Keeps.bind Keeps.check fun found => ?_
  refine Keeps.ite Keeps.pure (Keeps.ite Keeps.raise ?_)
  refine Keeps.bind (Keeps.write fun s hs => ⟨hs.base, hs.work, hs.commits⟩) fun _ => ?_
  exact (follows_numbered.stable 0 0).appendAgentEvent _ _

lemma runAgentWithDb_numbered (c : RunCall) {rows : RunRows} (h : rows.Numbered) :
    SessionNumbered (runAgentWithDb c (RunSession.start rows)).2 := by
  have hstart : SessionNumbered (RunSession.start rows) :=
    ⟨h, h, fun _ hmem => by cases hmem⟩
  have hs := keeps_startAgentRun c.sessionId c.tenantKey c.parentFound _ hstart
  unfold runAgentWithDb
  rw [Txn.run_bind]
  generalize startAgentRun c.sessionId c.tenantKey c.parentFound (RunSession.start rows) = x at hs ⊢
  obtain ⟨r, t⟩ := x
  cases r with
  | error e => exact hs
  | ok _ => exact (follows_numbered.afterStart c).snd hs

/-- a call that finds a run that has ended changes nothing. -/
lemma runAgentWithDb_ended (c : RunCall) {rows : RunRows} {run : AgentRun}
    (hrun : rows.run = some run) (hended : run.status ≠ .running) :
    ∃ e, runAgentWithDb c (RunSession.start rows) = (.error e, RunSession.start rows) := by
  have hfound : ∀ sessionId tenantKey, ∃ e,
      existingRun sessionId tenantKey (RunSession.start rows) = .error e := by
    intro sessionId tenantKey
    unfold existingRun
    rw [show (RunSession.start rows).work.run = some run from hrun]
    dsimp only
    split
    · exact ⟨_, rfl⟩
    · exact ⟨_, rfl⟩
  have hstart : ∃ e, startAgentRun c.sessionId c.tenantKey c.parentFound (RunSession.start rows) =
      (.error e, RunSession.start rows) := by
    unfold startAgentRun
    rw [Txn.run_bind, Txn.run_check]
    cases requiredText c.sessionId 160 "agent_run_session_id_required" with
    | error e => exact ⟨e, rfl⟩
    | ok sessionId =>
      dsimp only
      rw [Txn.run_bind, Txn.run_check]
      cases requiredText c.tenantKey 80 "agent_run_tenant_required" with
      | error e => exact ⟨e, rfl⟩
      | ok tenantKey =>
        obtain ⟨e, he⟩ := hfound sessionId tenantKey
        dsimp only
        rw [Txn.run_bind, Txn.run_check, he]
        exact ⟨e, rfl⟩
  obtain ⟨e, he⟩ := hstart
  unfold runAgentWithDb
  rw [Txn.run_bind, he]
  exact ⟨e, rfl⟩

lemma attempt_numbered (a : Attempt) {job : ReplyJob} (h : job.rows.Numbered) :
    (processWebchatAiReplyJob a job).rows.Numbered := by
  have hs := runAgentWithDb_numbered a.call h
  unfold processWebchatAiReplyJob
  split
  · exact h
  · dsimp only
    split
    · exact hs.headD fun rows hmem => List.mem_of_mem_drop hmem
    · split
      · exact hs.headD fun _ hmem => hmem
      · exact hs.headD fun _ hmem => hmem

lemma attempt_ended (a : Attempt) {job : ReplyJob} {run : AgentRun}
    (hrun : job.rows.run = some run) (hended : run.status ≠ .running) :
    (processWebchatAiReplyJob a job).rows = job.rows := by
  obtain ⟨e, he⟩ := runAgentWithDb_ended a.call hrun hended
  unfold processWebchatAiReplyJob
  split
  · rfl
  · rw [he]
    split
    · show (([] : List RunRows).drop _).headD job.rows = _
      rw [List.drop_nil]
      rfl
    · rfl

end Gapless

theorem attempts_numbered (l l' : List Attempt) :
    let job := Lib.run processWebchatAiReplyJob ⟨noRows, none⟩ l
    job.rows.Numbered ∧ ∀ agentRun, job.rows.run = some agentRun → agentRun.status ≠ .running →
      (Lib.run processWebchatAiReplyJob ⟨noRows, none⟩ (l ++ l')).rows = job.rows := by
  intro job
  constructor
  · exact (along_true (⟨noRows, none⟩ : ReplyJob) l).invariant (I := fun job : ReplyJob => job.rows.Numbered)
      (fun job a h _ => attempt_numbered a h) rfl
  · intro agentRun hrun hended
    rw [run_append]
    refine (along_true job l').invariant (I := fun j : ReplyJob => j.rows = job.rows) ?_ rfl
    intro j a hj _
    rw [attempt_ended a (hj ▸ hrun) hended, hj]

end NexusHelpdesk.Runtime
