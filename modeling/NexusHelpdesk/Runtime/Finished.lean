import NexusHelpdesk.Runtime.Rounds

/-!
# Every run ends in the ledger

A run is only flushed when the call starts; the first thing that commits it is the first audit row
of the router.  From then on a rollback loses events at most, and every exit of the call finishes
the run.  A rollback before that takes the run itself along.

* `Running`, `Stands C`: the rows of a run that goes on, in the session and in the database;
* `Lost`: the run is in neither;
* `RunCall.Ends`: the calls that end in the ledger;
* `runAgentWithDb_ends_iff`: **a call with a new request id keeps its bounds, and ends in the
  ledger exactly under this condition**;
* `first_audit_loses_run`: the first audit write fails.
-/

namespace NexusHelpdesk.Runtime

open Lib
open Txn (Keeps Yields)

structure Running (rows : RunRows) : Prop where
  run : ∃ run, rows.run = some run ∧ run.status = .running
  numbered : rows.Numbered
  open' : rows.Open

/-- the session has the run; the database satisfies `C`. -/
structure Stands (C : RunRows → Prop) (s : RunSession) : Prop where
  work : Running s.work
  committed : C s.committed

def Done (s : RunSession) : Prop := s.committed.Finished

structure Lost (s : RunSession) : Prop where
  work : s.work.run = none
  committed : s.committed.run = none

lemma Lost.not_done {s : RunSession} (h : Lost s) : ¬Done s := by
  rintro ⟨⟨run, hrun, -⟩, -⟩
  rw [h.committed] at hrun
  cases hrun

/-! ## a standing run -/

section Standing
variable {C : RunRows → Prop} {rows : RunRows} {eventType : EventType} {roundIndex : Option ℕ}
  {s : RunSession} {status : RunStatus}

lemma Running.append (h : Running rows) (hopen : eventType.terminal = false) :
    Running (rows.append eventType roundIndex) :=
  ⟨h.run, RunRows.numbered_append h.numbered, RunRows.open_append h.open' hopen⟩

lemma Running.setRun {f : AgentRun → AgentRun} (h : Running rows)
    (hf : ∀ run, (f run).status = run.status) :
    Running { rows with run := rows.run.map f } := by
  obtain ⟨run, hrun, hstatus⟩ := h.run
  refine ⟨⟨f run, ?_, (hf run).trans hstatus⟩, h.numbered, h.open'⟩
  show rows.run.map f = _
  rw [hrun]
  rfl

lemma lockedRun_of_running (h : Running s.work) :
    ∃ run, lockedRun s = .ok run ∧ s.work.run = some run := by
  obtain ⟨run, hrun, -⟩ := h.run
  refine ⟨run, ?_, hrun⟩
  unfold lockedRun
  rw [hrun]

lemma appendAgentEvent_run {run : AgentRun} (h : s.work.run = some run) (eventType : EventType)
    (roundIndex : Option ℕ) :
    appendAgentEvent eventType roundIndex s =
      (.ok (), { s with work := s.work.append eventType roundIndex }) := by
  have hlocked : lockedRun s = .ok run := by
    unfold lockedRun
    rw [h]
  unfold appendAgentEvent
  rw [Txn.run_bind, Txn.run_check, hlocked]
  rfl

lemma yields_append (hopen : eventType.terminal = false) :
    Yields (Stands C) (appendAgentEvent eventType roundIndex) (fun _ => Stands C)
      fun _ => False := by
  intro s hs
  obtain ⟨run, -, hrun⟩ := lockedRun_of_running hs.work
  rw [appendAgentEvent_run hrun]
  exact ⟨hs.work.append hopen, hs.committed⟩

lemma finishWrites_finishes (finalAction errorCode : Option String) (h : Running s.work)
    (hstatus : status ≠ .running) :
    ∃ t, finishWrites status finalAction errorCode s = (.ok (), t) ∧ t.work.Finished := by
  obtain ⟨run, hlocked, hrun⟩ := lockedRun_of_running h
  let ended : AgentRun :=
    { run with status := status, finalAction := finalAction, errorCode := errorCode }
  have hset : (s.setRun fun run => { run with
      status := status, finalAction := finalAction, errorCode := errorCode }).work.run =
        some ended := by
    show s.work.run.map _ = _
    rw [hrun]
    rfl
  have hterminal : (if status = .failed then EventType.runFailed
      else .runCompleted).terminal = true := by
    split <;> rfl
  -- the checkpoint's event comes before the terminal one
  have hckpt : ∀ b, ∃ t, Txn.when b (appendAgentEvent .sessionCheckpointSaved none)
      (s.setRun fun run => { run with
        status := status, finalAction := finalAction, errorCode := errorCode }) = (.ok (), t) ∧
      t.work.run = some ended ∧ t.work.Numbered ∧ t.work.Open := by
    intro b
    cases b with
    | true =>
      refine ⟨_, appendAgentEvent_run hset _ _, hset, ?_, ?_⟩
      · exact RunRows.numbered_append h.numbered
      · exact RunRows.open_append h.open' rfl
    | false => exact ⟨_, rfl, hset, h.numbered, h.open'⟩
  obtain ⟨t, ht, hrun', hn, ho⟩ :=
    hckpt (run.releaseId.isSome && (status = .succeeded || status = .fallback))
  unfold finishWrites
  rw [Txn.run_bind, Txn.run_check, hlocked]
  dsimp only
  rw [Txn.run_bind, Txn.run_write]
  dsimp only
  rw [Txn.run_bind, ht]
  dsimp only
  rw [appendAgentEvent_run hrun']
  exact ⟨_, rfl, RunRows.finished_append hrun' hstatus hn ho hterminal⟩

lemma yields_finish {finalAction errorCode : Option String} (hstatus : status ≠ .running) :
    Yields (Stands C) (finishAgentRun status finalAction errorCode) (fun _ => Done)
      fun _ => False := by
  intro s hs
  obtain ⟨run, hrun, hrunning⟩ := hs.work.run
  obtain ⟨t, ht, hfinished⟩ :=
    finishWrites_finishes finalAction errorCode hs.work hstatus
  have hresult : finishAgentRun status finalAction errorCode s = (.ok (), t.commit) := by
    unfold finishAgentRun
    rw [Txn.run_bind, Txn.run_read]
    dsimp only
    rw [hrun, Option.filter_some_neg (by simp [hrunning])]
    dsimp only
    rw [Txn.run_bind, Txn.run_attempt, ht]
    rfl
  rw [hresult]
  exact hfinished

lemma yields_terminalFallback (errorCode : String) :
    Yields (Stands C) (terminalFallback errorCode) (fun _ => Done) fun _ => False := by
  unfold terminalFallback
  refine Yields.bind (yields_append rfl) fun _ => ?_
  refine Yields.bind (yields_finish (by decide)) fun _ => ?_
  exact Yields.pure fun _ h => h

lemma yields_terminalDecision (k : ℕ) (observations : List ToolObservation) (d : AIDecision) :
    Yields (Stands C) (terminalDecision k observations d) (fun _ => Done)
      fun _ => False := by
  unfold terminalDecision
  refine Yields.ite (fun _ => yields_terminalFallback _) fun _ => ?_
  refine Yields.bind (R := fun _ => Stands C) ?_ fun _ => ?_
  · exact Yields.when (fun _ => yields_append rfl) fun _ _ h => h
  refine Yields.bind (R := fun _ => Stands C) ?_ fun _ => ?_
  · exact Yields.when (fun _ => yields_append rfl) fun _ _ h => h
  refine Yields.bind (yields_append rfl) fun _ => ?_
  refine Yields.bind (yields_finish (by decide)) fun _ => ?_
  exact Yields.pure fun _ h => h

/-! ## an anchored run -/

lemma Stands.rollback (h : Stands Running s) : Stands Running s.rollback :=
  ⟨h.committed, h.committed⟩

lemma yields_writeAudit (audited : Option ℕ) (ok : Bool) :
    Yields (Stands Running) (writeAudit audited ok) (fun _ => Stands Running)
      fun _ => False := by
  refine Yields.write fun s hs => ?_
  split
  · exact ⟨⟨hs.work.run, hs.work.numbered, hs.work.open'⟩,
      ⟨hs.work.run, hs.work.numbered, hs.work.open'⟩⟩
  · exact hs.rollback

lemma yields_writeAudit_ok (audited : Option ℕ) :
    Yields (Stands C) (writeAudit audited true) (fun _ => Stands Running)
      fun _ => False := by
  refine Yields.write fun s hs => ?_
  exact ⟨⟨hs.work.run, hs.work.numbered, hs.work.open'⟩,
    ⟨hs.work.run, hs.work.numbered, hs.work.open'⟩⟩

lemma yields_audits (audits : List Bool) :
    Yields (Stands Running) (Txn.each audits (writeAudit none))
      (fun _ => Stands Running) fun _ => False :=
  Yields.each (fun ok => yields_writeAudit none ok) audits

/-- the first audit write of the call does not fail. -/
def RouterCall.keepsRun : RouterCall → Bool
  | .raised audits _ => audits.head? ≠ some false
  | .returned audits last _ => (audits ++ [last]).head? = some true

/-- an anchored run, or one whose first audit write does not fail. -/
def Anchors (c : RunCall) (k : ℕ) (s : RunSession) : Prop :=
  Stands Running s ∨ Stands (fun _ => True) s ∧ (c.round k).router.keepsRun = true

lemma Stands.weaken (h : Stands C s) : Stands (fun _ => True) s :=
  ⟨h.work, trivial⟩

lemma yields_audits_first {audits : List Bool} (h : audits.head? = some true) :
    Yields (Stands C) (Txn.each audits (writeAudit none)) (fun _ => Stands Running)
      fun _ => False := by
  cases audits with
  | nil => cases h
  | cons ok rest =>
    cases h
    exact Yields.bind (yields_writeAudit_ok none) fun _ => yields_audits rest

lemma yields_route (c : RunCall) (k : ℕ) :
    Yields (Anchors c k) (route c k) (fun _ => Stands Running)
      (Stands fun _ => True) := by
  unfold route
  refine Yields.bind (R := fun _ => Anchors c k) ?_ fun _ => ?_
  · refine Yields.write fun s hs => ?_
    rcases hs with hs | ⟨hs, hk⟩
    · exact .inl ⟨hs.work, hs.committed⟩
    · exact .inr ⟨⟨hs.work, trivial⟩, hk⟩
  have hfalse : ∀ s : RunSession, False → Stands (fun _ => True) s := fun _ h => h.elim
  unfold Anchors
  generalize (c.round k).router = router
  intro s hs
  cases router with
  | raised audits error =>
    refine Yields.bind (P := fun t => Stands Running t ∨ Stands (fun _ => True) t ∧
      RouterCall.keepsRun (.raised audits error) = true)
      (R := fun _ => Stands fun _ => True) ?_ (fun _ => Yields.raise fun _ h => h) s hs
    intro t ht
    rcases ht with ht | ⟨ht, hk⟩
    · exact (yields_audits audits).conseq (fun _ h => h) (fun _ _ h => h.weaken) hfalse t ht
    · cases audits with
      | nil => exact ht
      | cons ok rest =>
        have hok : (ok :: rest).head? = some true := by
          cases ok with
          | true => rfl
          | false => cases hk
        exact (yields_audits_first hok).conseq (fun _ h => h) (fun _ _ h => h.weaken) hfalse t ht
  | returned audits last answer =>
    have hin : ∀ (_ : Unit) t, Stands Running t →
        Stands Running t ∨ Stands (fun _ => True) t ∧ last = true := fun _ _ h => .inl h
    refine Yields.bind (P := fun t => Stands Running t ∨ Stands (fun _ => True) t ∧
      RouterCall.keepsRun (.returned audits last answer) = true)
      (R := fun _ t => Stands Running t ∨ Stands (fun _ => True) t ∧ last = true)
      ?_ (fun _ => ?_) s hs
    · intro t ht
      rcases ht with ht | ⟨ht, hk⟩
      · exact (yields_audits audits).conseq (fun _ h => h) hin hfalse t ht
      · have hfirst : (audits ++ [last]).head? = some true := of_decide_eq_true hk
        cases audits with
        | nil => exact .inr ⟨ht, Option.some.inj hfirst⟩
        | cons ok rest =>
          have hok : (ok :: rest).head? = some true := hfirst
          exact (yields_audits_first hok).conseq (fun _ h => h) hin hfalse t ht
    · refine Yields.bind (R := fun _ => Stands Running) ?_ fun _ =>
        Yields.pure fun _ h => h
      intro t ht
      rcases ht with ht | ⟨ht, rfl⟩
      · exact (yields_writeAudit _ last).error hfalse t ht
      · exact (yields_writeAudit_ok _).error hfalse t ht

lemma yields_auditExists (c : RunCall) (k : ℕ) :
    Yields (Stands Running) (auditExists c k) (fun _ => Stands Running)
      fun _ => False := by
  unfold auditExists
  refine Yields.ite (fun _ => Yields.read fun _ h => h) fun _ => ?_
  refine Yields.bind (R := fun _ => Stands Running) ?_ fun _ => Yields.pure fun _ h => h
  exact Yields.write fun s hs => hs.rollback

lemma yields_recordToolEvents (k : ℕ) (observations : List ToolObservation) :
    Yields (Stands C) (recordToolEvents k observations) (fun _ => Stands C)
      fun _ => False := by
  refine Yields.each (fun o => ?_) observations
  refine Yields.bind (yields_append rfl) fun _ => yields_append ?_
  split <;> rfl

lemma yields_toolBatch (c : RunCall) (k : ℕ) (d : AIDecision) :
    Yields (Stands Running) (toolBatch c k d) (fun _ => Stands Running)
      fun _ => False := by
  unfold toolBatch
  refine Yields.bind (yields_append rfl) fun _ => ?_
  refine Yields.bind (R := fun _ => Stands Running)
    (Yields.each (fun _ => yields_append rfl) d.toolCalls) fun _ => ?_
  refine Yields.bind (R := fun _ => Stands Running) ?_ fun _ => ?_
  · exact Yields.write fun s hs => ⟨hs.work, hs.committed⟩
  split
  · refine Yields.bind (yields_recordToolEvents k _) fun _ => ?_
    exact Yields.pure fun _ h => h
  · refine Yields.bind (R := fun _ => Stands Running) ?_ fun _ => ?_
    · exact Yields.write fun s hs => hs.rollback
    refine Yields.bind (yields_recordToolEvents k _) fun _ => ?_
    exact Yields.pure fun _ h => h

lemma yields_loop (c : RunCall) (n k : ℕ) (observations : List ToolObservation) :
    Yields (Anchors c k) (loop c n k observations) (fun _ => Done)
      (Stands fun _ => True) := by
  have hfalse : ∀ {m : RunOp RunResult} {X : RunSession → Prop},
      Yields (Stands Running) m (fun _ => Done) (fun _ => False) →
      Yields (Stands Running) m (fun _ => Done) X :=
    fun h => h.error fun _ hf => hf.elim
  induction n generalizing k observations with
  | zero =>
    have hfall : Yields (Stands fun _ => True) (terminalFallback "agent_loop_exhausted")
        (fun _ => Done) (Stands fun _ => True) :=
      (yields_terminalFallback _).error fun _ h => h.elim
    refine hfall.pre ?_
    rintro s (hs | ⟨hs, -⟩)
    · exact hs.weaken
    · exact hs
  | succ n ih =>
    unfold loop
    refine Yields.bind (yields_route c k) fun answer => ?_
    cases answer with
    | unavailable errorCode => exact hfalse (yields_terminalFallback _)
    | output decision =>
      refine Yields.bind ((yields_auditExists c k).error fun _ h => h.elim) fun audited => ?_
      refine Yields.ite (fun _ => hfalse (yields_terminalFallback _)) fun _ => ?_
      cases decision with
      | none => exact hfalse (yields_terminalFallback _)
      | some d =>
        refine Yields.ite (fun _ => hfalse (yields_terminalDecision k _ d)) fun _ => ?_
        refine Yields.ite (fun _ => hfalse (yields_terminalFallback _)) fun _ => ?_
        refine Yields.bind ((yields_toolBatch c k d).error fun _ h => h.elim) fun more => ?_
        cases more with
        | none => exact hfalse (yields_terminalFallback _)
        | some more => exact (ih (k + 1) _).pre fun s hs => .inl hs

lemma yields_guarded {P : RunSession → Prop} {body : RunOp RunResult}
    (h : Yields P body (fun _ => Done) (Stands fun _ => True)) :
    Yields P (guarded body) (fun _ => Done) Done := by
  unfold guarded
  refine Yields.attempt_bind h (fun answer => Yields.pure fun _ hd => hd) fun e => ?_
  refine Yields.attempt_bind (yields_finish (by decide)) (fun _ => ?_) fun _ => ?_
  · exact Yields.raise fun _ hd => hd
  · intro s hs
    exact hs.elim

end Standing

/-! ## what the ledger leaves alone -/

section Stable
variable {I : RunSession → Prop} {I' : RunSession → Prop}

/-- a condition that the writes of the ledger keep. -/
structure Stable (I : RunSession → Prop) : Prop where
  append : ∀ s run eventType roundIndex, I s → s.work.run = some run →
    I { s with work := s.work.append eventType roundIndex }
  setRun : ∀ s run f, I s → s.work.run = some run → I (s.setRun f)
  rows : ∀ s snapshot rounds, I s →
    I { s with work := { s.work with snapshot := snapshot, audited := rounds } }
  commit : ∀ s, I s → I s.commit
  rollback : ∀ s, I s → I s.rollback

lemma run_of_locked {s : RunSession} {run : AgentRun} (h : lockedRun s = .ok run) :
    s.work.run = some run := by
  unfold lockedRun at h
  split at h
  · rename_i hrun
    cases h
    exact hrun
  · cases h

section
variable (h : Stable I)
include h

lemma Stable.appendAgentEvent (eventType : EventType) (roundIndex : Option ℕ) :
    Keeps I (appendAgentEvent eventType roundIndex) := by
  refine Keeps.check_bind fun run s hs hlocked => ?_
  exact h.append s run _ _ hs (run_of_locked hlocked)

lemma Stable.finishWrites (status : RunStatus) (finalAction errorCode : Option String) :
    Keeps I (finishWrites status finalAction errorCode) := by
  refine Keeps.check_bind fun run s hs hlocked => ?_
  refine Keeps.bind (I := I) ?_ (fun _ => h.appendAgentEvent _ _) _
    (h.setRun s run _ hs (run_of_locked hlocked))
  exact Keeps.when (h.appendAgentEvent _ _)

lemma Stable.finishAgentRun (status : RunStatus) (finalAction errorCode : Option String) :
    Keeps I (finishAgentRun status finalAction errorCode) := by
  refine Keeps.bind Keeps.read fun run => ?_
  cases run.filter (·.status ≠ .running) with
  | some run => exact Keeps.ite Keeps.pure Keeps.raise
  | none =>
    refine Keeps.bind (h.finishWrites _ _ _).attempt fun result => ?_
    cases result with
    | ok _ => exact Keeps.write h.commit
    | error _ => exact Keeps.bind (Keeps.write h.rollback) fun _ => Keeps.raise

lemma Stable.terminalFallback (errorCode : String) :
    Keeps I (terminalFallback errorCode) := by
  refine Keeps.bind (h.appendAgentEvent _ _) fun _ => ?_
  exact Keeps.bind (h.finishAgentRun _ _ _) fun _ => Keeps.pure

lemma Stable.terminalDecision (k : ℕ) (observations : List ToolObservation) (d : AIDecision) :
    Keeps I (terminalDecision k observations d) := by
  refine Keeps.ite (h.terminalFallback _) ?_
  refine Keeps.bind (Keeps.when (h.appendAgentEvent _ _)) fun _ => ?_
  refine Keeps.bind (Keeps.when (h.appendAgentEvent _ _)) fun _ => ?_
  refine Keeps.bind (h.appendAgentEvent _ _) fun _ => ?_
  exact Keeps.bind (h.finishAgentRun _ _ _) fun _ => Keeps.pure

lemma Stable.writeAudit (audited : Option ℕ) (ok : Bool) :
    Keeps I (writeAudit audited ok) := by
  refine Keeps.write fun s hs => ?_
  split
  · exact h.commit _ (h.rows s s.work.snapshot _ hs)
  · exact h.rollback s hs

lemma Stable.auditExists (c : RunCall) (k : ℕ) :
    Keeps I (auditExists c k) := by
  refine Keeps.ite Keeps.read ?_
  exact Keeps.bind (Keeps.write h.rollback) fun _ => Keeps.pure

lemma Stable.recordToolEvents (k : ℕ) (observations : List ToolObservation) :
    Keeps I (recordToolEvents k observations) := by
  refine Keeps.each (fun o => ?_) observations
  exact Keeps.bind (h.appendAgentEvent _ _) fun _ => h.appendAgentEvent _ _

end

lemma Stable.route (h : Stable I') (c : RunCall) (k : ℕ)
    (hcount : ∀ s, I s → I' { s with routerCalls := s.routerCalls + 1 }) :
    Yields I (route c k) (fun _ => I') I' := by
  refine Yields.bind (R := fun _ => I') (Yields.write hcount) fun _ => ?_
  refine Keeps.yields ?_
  split
  · exact Keeps.bind (Keeps.each (h.writeAudit none) _) fun _ => Keeps.raise
  · refine Keeps.bind (Keeps.each (h.writeAudit none) _) fun _ => ?_
    exact Keeps.bind (h.writeAudit _ _) fun _ => Keeps.pure

lemma Stable.toolBatch (h : Stable I) (h' : Stable I') (c : RunCall) (k : ℕ) (d : AIDecision)
    (hmono : ∀ s, I s → I' s) (hcount : ∀ s, I s → I' { s with toolBatches := s.toolBatches + 1 }) :
    Yields I (toolBatch c k d) (fun _ => I') I' := by
  refine Yields.bind ((h.appendAgentEvent _ _).yields.error hmono) fun _ => ?_
  refine Yields.bind (R := fun _ => I) ?_ fun _ => ?_
  · exact (Keeps.each (fun _ => h.appendAgentEvent _ _) _).yields.error hmono
  refine Yields.bind (R := fun _ => I') (Yields.write hcount) fun _ => ?_
  refine Keeps.yields ?_
  split
  · exact Keeps.bind (h'.recordToolEvents k _) fun _ => Keeps.pure
  · refine Keeps.bind (Keeps.write h'.rollback) fun _ => ?_
    exact Keeps.bind (h'.recordToolEvents k _) fun _ => Keeps.pure

lemma Stable.guarded {P : RunSession → Prop} (h : Stable I) {body : RunOp RunResult}
    (hbody : Yields P body (fun _ => I) I) :
    Yields P (guarded body) (fun _ => I) I := by
  refine Yields.attempt_bind hbody (fun _ => Yields.pure fun _ hs => hs) fun e => ?_
  refine Keeps.yields ?_
  refine Keeps.bind (h.finishAgentRun _ _ _).attempt fun finished => ?_
  cases finished with
  | ok _ => exact Keeps.raise
  | error _ => exact Keeps.bind (Keeps.write h.rollback) fun _ => Keeps.raise

lemma Stable.bindAgentRunRelease (h : Stable I) (resolved : ResolvedAgentRelease) :
    Keeps I (bindAgentRunRelease resolved) := by
  refine Keeps.check_bind fun run s hs hlocked => ?_
  by_cases htenant : run.tenantKey ≠ resolved.tenantKey
  · rw [if_pos htenant]
    exact hs
  · rw [if_neg htenant]
    exact (h.appendAgentEvent .releaseResolved none) _ (h.setRun s run _ hs (run_of_locked hlocked))

lemma Stable.bindRelease (h : Stable I) (c : RunCall) : Keeps I (bindRelease c) := by
  refine Keeps.bind Keeps.check fun resolved => ?_
  refine Keeps.ite Keeps.raise ?_
  refine Keeps.bind (h.bindAgentRunRelease resolved) fun _ => ?_
  refine Keeps.bind Keeps.read fun existing => ?_
  refine Keeps.ite Keeps.raise ?_
  cases existing with
  | some digest => exact Keeps.ite Keeps.raise Keeps.pure
  | none => exact Keeps.write fun s hs => h.rows s _ s.work.audited hs

end Stable

/-! ## the counts of a call -/

/-- a family of conditions that follow the counts of a call. -/
structure Follows (I : ℕ → ℕ → RunSession → Prop) : Prop where
  stable : ∀ a b, Stable (I a b)
  mono : ∀ a a' b b' s, a ≤ a' → b ≤ b' → I a b s → I a' b' s
  router : ∀ a b s, I a b s → I (a + 1) b { s with routerCalls := s.routerCalls + 1 }
  tools : ∀ a b s, I a b s → I a (b + 1) { s with toolBatches := s.toolBatches + 1 }

variable {I : ℕ → ℕ → RunSession → Prop}

/-- `n` rounds make `n` calls of the router at most, and one batch for each round that is left. -/
lemma Follows.loop (h : Follows I) (c : RunCall) (n k : ℕ) (observations : List ToolObservation)
    (a b : ℕ) :
    Yields (I a b) (loop c n k observations) (fun _ => I (a + n) (b + (c.maxRounds - k)))
      (I (a + n) (b + (c.maxRounds - k))) := by
  induction n generalizing k observations a b with
  | zero =>
    refine ((h.stable a b).terminalFallback _).yields.conseq (fun _ hs => hs) ?_ ?_
    · exact fun _ s hs => h.mono _ _ _ _ s le_rfl (Nat.le_add_right b _) hs
    · exact fun s hs => h.mono _ _ _ _ s le_rfl (Nat.le_add_right b _) hs
  | succ n ih =>
    have hone : ∀ s, I (a + 1) b s → I (a + (n + 1)) (b + (c.maxRounds - k)) s :=
      fun s hs => h.mono _ _ _ _ s (by omega) (Nat.le_add_right b _) hs
    have hexit : ∀ {m : RunOp RunResult}, Keeps (I (a + 1) b) m →
        Yields (I (a + 1) b) m (fun _ => I (a + (n + 1)) (b + (c.maxRounds - k)))
          (I (a + (n + 1)) (b + (c.maxRounds - k))) :=
      fun hm => hm.yields.conseq (fun _ hs => hs) (fun _ => hone) hone
    have hfallback : ∀ errorCode, Keeps (I (a + 1) b) (terminalFallback errorCode) :=
      (h.stable (a + 1) b).terminalFallback
    refine Yields.bind
      (((h.stable (a + 1) b).route c k (h.router a b)).error hone) fun answer => ?_
    cases answer with
    | unavailable errorCode => exact hexit (hfallback _)
    | output decision =>
      refine Yields.bind
        (((h.stable (a + 1) b).auditExists c k).yields.error hone) fun audited => ?_
      refine Yields.ite (fun _ => hexit (hfallback _)) fun _ => ?_
      cases decision with
      | none => exact hexit (hfallback _)
      | some d =>
        refine Yields.ite (fun _ => hexit ((h.stable _ _).terminalDecision k _ d)) fun _ => ?_
        refine Yields.ite (fun _ => hexit (hfallback _)) fun hk => ?_
        have hleft : b + 1 + (c.maxRounds - (k + 1)) = b + (c.maxRounds - k) := by omega
        have htwo : ∀ s, I (a + 1) (b + 1) s → I (a + (n + 1)) (b + (c.maxRounds - k)) s :=
          fun s hs => h.mono _ _ _ _ s (by omega) (by omega) hs
        have hbatch := (h.stable (a + 1) b).toolBatch (h.stable (a + 1) (b + 1)) c k d
          (fun s hs => h.mono _ _ _ _ s le_rfl (Nat.le_succ b) hs) (h.tools (a + 1) b)
        refine Yields.bind (hbatch.error htwo) fun more => ?_
        cases more with
        | none =>
          exact ((h.stable (a + 1) (b + 1)).terminalFallback _).yields.conseq (fun _ hs => hs)
            (fun _ => htwo) htwo
        | some more =>
          have hrest := ih (k + 1) (observations ++ more) (a + 1) (b + 1)
          rw [hleft, show a + 1 + n = a + (n + 1) from by omega] at hrest
          exact hrest

lemma Follows.afterStart (h : Follows I) (c : RunCall) :
    Yields (I 0 0) (afterStart c) (fun _ => I (c.maxRounds + 1) c.maxRounds)
      (I (c.maxRounds + 1) c.maxRounds) := by
  have hzero : ∀ s, I 0 0 s → I (c.maxRounds + 1) c.maxRounds s :=
    fun s hs => h.mono _ _ _ _ s (Nat.zero_le _) (Nat.zero_le _) hs
  have hfallback : ∀ errorCode, Yields (I 0 0) (terminalFallback errorCode)
      (fun _ => I (c.maxRounds + 1) c.maxRounds) (I (c.maxRounds + 1) c.maxRounds) :=
    fun errorCode => ((h.stable 0 0).terminalFallback errorCode).yields.conseq (fun _ hs => hs)
      (fun _ => hzero) hzero
  refine Yields.attempt_bind ((h.stable 0 0).bindRelease c).yields (fun _ => ?_)
    fun e => hfallback _
  dsimp only
  split
  · exact hfallback _
  · refine Yields.bind
      (Yields.check (Q := fun _ => I 0 0) (fun _ _ hs _ => hs) hzero) fun _ => ?_
    have hloop := h.loop c (c.maxRounds + 1) 0 [] 0 0
    rw [Nat.zero_add, Nat.zero_add, Nat.sub_zero] at hloop
    exact (h.stable _ _).guarded hloop

lemma stable_lost : Stable Lost where
  append := by
    intro s run eventType roundIndex hs hrun
    rw [hs.work] at hrun
    cases hrun
  setRun := by
    intro s run f hs hrun
    rw [hs.work] at hrun
    cases hrun
  rows := fun s snapshot rounds hs => ⟨hs.work, hs.committed⟩
  commit := fun s hs => ⟨hs.work, hs.work⟩
  rollback := fun s hs => ⟨hs.committed, hs.committed⟩

lemma follows_lost : Follows fun _ _ => Lost where
  stable := fun _ _ => stable_lost
  mono := fun _ _ _ _ _ _ _ hs => hs
  router := fun _ _ _ hs => ⟨hs.work, hs.committed⟩
  tools := fun _ _ _ hs => ⟨hs.work, hs.committed⟩

def Counted (a b : ℕ) (s : RunSession) : Prop := s.routerCalls ≤ a ∧ s.toolBatches ≤ b

lemma follows_counted : Follows Counted where
  stable := fun _ _ =>
    { append := fun _ _ _ _ hs _ => hs
      setRun := fun _ _ _ hs _ => hs
      rows := fun _ _ _ hs => hs
      commit := fun _ hs => hs
      rollback := fun _ hs => hs }
  mono := fun _ _ _ _ _ ha hb hs => ⟨hs.1.trans ha, hs.2.trans hb⟩
  router := fun _ _ _ hs => ⟨Nat.succ_le_succ hs.1, hs.2⟩
  tools := fun _ _ _ hs => ⟨hs.1, Nat.succ_le_succ hs.2⟩

/-! ## the start of a call -/

section Start
variable (c : RunCall)

def RunCall.Accepted (sessionId tenantKey : Text) : Prop :=
  requiredText c.sessionId 160 "agent_run_session_id_required" = .ok sessionId ∧
    requiredText c.tenantKey 80 "agent_run_tenant_required" = .ok tenantKey ∧
    c.parentFound = true

/-- the release resolves to one of the tenant, with the supplied digest. -/
def RunCall.Binds (tenantKey : Text) : Prop :=
  ∃ resolved, c.release = .ok resolved ∧
    (c.suppliedDigest = none ∨ c.suppliedDigest = some resolved.digest) ∧
    tenantKey = resolved.tenantKey

/-- the call ends in the ledger: it is accepted, and where it comes to its rounds, they are set up
and the first audit write of the router does not fail. -/
def RunCall.Ends : Prop :=
  ∃ sessionId tenantKey, c.Accepted sessionId tenantKey ∧
    (c.Binds tenantKey → c.contract = .ok () →
      c.setup = .ok () ∧ (c.round 0).router.keepsRun = true)

def startedRun (sessionId tenantKey : Text) : AgentRun :=
  ⟨sessionId, tenantKey, .running, none, none, none, none⟩

def started (sessionId tenantKey : Text) : RunSession :=
  { RunSession.start noRows with
    work := RunRows.append { noRows with run := some (startedRun sessionId tenantKey) }
      .runStarted none }

variable {c} {sessionId tenantKey : Text}

lemma startAgentRun_accepted (h : c.Accepted sessionId tenantKey) :
    startAgentRun c.sessionId c.tenantKey c.parentFound (RunSession.start noRows) =
      (.ok (), started sessionId tenantKey) := by
  obtain ⟨hsession, htenant, hparent⟩ := h
  unfold startAgentRun
  rw [Txn.run_bind, Txn.run_check, hsession]
  dsimp only
  rw [Txn.run_bind, Txn.run_check, htenant, hparent]
  rfl

lemma startAgentRun_refused (h : ¬∃ sessionId tenantKey, c.Accepted sessionId tenantKey) :
    ∃ e, startAgentRun c.sessionId c.tenantKey c.parentFound (RunSession.start noRows) =
      (.error e, RunSession.start noRows) := by
  unfold startAgentRun
  rw [Txn.run_bind, Txn.run_check]
  cases hsession : requiredText c.sessionId 160 "agent_run_session_id_required" with
  | error e => exact ⟨e, rfl⟩
  | ok sessionId =>
    dsimp only
    rw [Txn.run_bind, Txn.run_check]
    cases htenant : requiredText c.tenantKey 80 "agent_run_tenant_required" with
    | error e => exact ⟨e, rfl⟩
    | ok tenantKey =>
      cases hparent : c.parentFound with
      | false => exact ⟨_, rfl⟩
      | true => exact absurd ⟨sessionId, tenantKey, hsession, htenant, hparent⟩ h

lemma stands_started : Stands (· = noRows) (started sessionId tenantKey) := by
  refine ⟨⟨⟨_, rfl, rfl⟩, rfl, ?_⟩, rfl⟩
  intro e he
  rw [List.mem_singleton.1 he]
  rfl

lemma nonblank_of_required {value cleaned : Text} {limit : ℕ} {error : String}
    (h : requiredText value limit error = .ok cleaned) :
    (PyStr.stripChars value).take limit ≠ [] := by
  intro hblank
  unfold requiredText at h
  dsimp only at h
  rw [if_pos hblank] at h
  cases h

lemma bindRelease_binds (h : c.Accepted sessionId tenantKey) (hb : c.Binds tenantKey) :
    ∃ t, bindRelease c (started sessionId tenantKey) = (.ok (), t) ∧ Stands (· = noRows) t := by
  obtain ⟨resolved, hrelease, hdigest, htenant⟩ := hb
  have hsupplied : ¬(c.suppliedDigest ≠ none ∧ c.suppliedDigest ≠ some resolved.digest) := by
    rintro ⟨hne, hne'⟩
    exact hdigest.elim hne hne'
  have hblank := nonblank_of_required h.1
  let bound : RunSession := (started sessionId tenantKey).setRun fun run =>
    { run with
      releaseId := some resolved.releaseId
      releaseDigest := some resolved.manifestSha256 }
  have hbound : Running bound.work := stands_started.work.setRun fun _ => rfl
  have hbind : bindAgentRunRelease resolved (started sessionId tenantKey) =
      (.ok (), { bound with work := bound.work.append .releaseResolved none }) := by
    unfold bindAgentRunRelease
    rw [Txn.run_bind]
    show (if tenantKey ≠ resolved.tenantKey then Txn.raise "agent_run_release_tenant_mismatch"
      else _ : RunOp Unit) (started sessionId tenantKey) = _
    rw [if_neg (not_not.2 htenant)]
    rfl
  have hwork : Running (bound.work.append .releaseResolved none) := hbound.append rfl
  refine ⟨{ bound with work :=
    { bound.work.append .releaseResolved none with snapshot := some resolved.digest } },
    ?_, ⟨hwork.run, hwork.numbered, hwork.open'⟩, rfl⟩
  unfold bindRelease
  rw [Txn.run_bind, Txn.run_check, hrelease]
  dsimp only
  rw [if_neg hsupplied, Txn.run_bind, hbind]
  dsimp only
  unfold recordRunSnapshot
  rw [Txn.run_bind, Txn.run_read]
  dsimp only
  rw [if_neg hblank]
  rfl

lemma bindRelease_fails (sessionId : Text) (hb : ¬c.Binds tenantKey) :
    ∃ e t, bindRelease c (started sessionId tenantKey) = (.error e, t) ∧
      Stands (· = noRows) t := by
  unfold bindRelease
  rw [Txn.run_bind, Txn.run_check]
  cases hrelease : c.release with
  | error e => exact ⟨e, _, rfl, stands_started⟩
  | ok resolved =>
    dsimp only
    by_cases hsupplied : c.suppliedDigest ≠ none ∧ c.suppliedDigest ≠ some resolved.digest
    · rw [if_pos hsupplied]
      exact ⟨_, _, rfl, stands_started⟩
    · rw [if_neg hsupplied]
      have htenant : tenantKey ≠ resolved.tenantKey := by
        intro htenant
        refine hb ⟨resolved, hrelease, ?_, htenant⟩
        by_contra hne
        rw [not_or] at hne
        exact hsupplied hne
      refine ⟨"agent_run_release_tenant_mismatch", started sessionId tenantKey, ?_,
        stands_started⟩
      rw [Txn.run_bind]
      have hbind : bindAgentRunRelease resolved (started sessionId tenantKey) =
          (.error "agent_run_release_tenant_mismatch", started sessionId tenantKey) := by
        unfold bindAgentRunRelease
        rw [Txn.run_bind]
        show (if tenantKey ≠ resolved.tenantKey then
          Txn.raise "agent_run_release_tenant_mismatch" else _ : RunOp Unit)
            (started sessionId tenantKey) = _
        rw [if_pos htenant]
        rfl
      rw [hbind]

end Start

/-! ## the whole call -/

lemma yields_route_lost (c : RunCall) (k : ℕ) (h : (c.round k).router.keepsRun = false) :
    Yields (Stands (· = noRows)) (route c k) (fun _ => Lost) Lost := by
  have hlost : ∀ audited, Yields (Stands (· = noRows)) (writeAudit audited false)
      (fun _ => Lost) Lost := by
    intro audited
    refine Yields.write fun s hs => ?_
    have hrows : s.committed = noRows := hs.committed
    refine ⟨?_, ?_⟩
    · show s.committed.run = none
      rw [hrows]
      rfl
    · show s.committed.run = none
      rw [hrows]
      rfl
  have haudits : ∀ audits : List Bool, audits.head? = some false →
      Yields (Stands (· = noRows)) (Txn.each audits (writeAudit none)) (fun _ => Lost)
        Lost := by
    intro audits hfirst
    cases audits with
    | nil => cases hfirst
    | cons ok rest =>
      cases hfirst
      exact Yields.bind (hlost none) fun _ =>
        (Keeps.each (stable_lost.writeAudit none) rest).yields
  unfold route
  refine Yields.bind (R := fun _ => Stands (· = noRows)) ?_ fun _ => ?_
  · exact Yields.write fun s hs => ⟨hs.work, hs.committed⟩
  generalize (c.round k).router = router at h
  cases router with
  | raised audits error =>
    have hfirst : audits.head? = some false := by
      by_contra hne
      rw [show RouterCall.keepsRun (.raised audits error) = true from decide_eq_true hne] at h
      cases h
    exact Yields.bind (haudits audits hfirst) fun _ => Yields.raise fun _ hs => hs
  | returned audits last answer =>
    have hfirst : (audits ++ [last]).head? = some false := by
      have hne : (audits ++ [last]).head? ≠ some true := of_decide_eq_false h
      cases audits with
      | nil =>
        cases last with
        | false => rfl
        | true => exact absurd rfl hne
      | cons ok rest =>
        cases ok with
        | false => rfl
        | true => exact absurd rfl hne
    cases audits with
    | nil =>
      cases hfirst
      refine Yields.bind (R := fun _ => Stands (· = noRows)) ?_ fun _ => ?_
      · exact Yields.pure fun _ hs => hs
      · exact Yields.bind (hlost _) fun _ => Yields.pure fun _ hs => hs
    | cons ok rest =>
      refine Yields.bind (haudits (ok :: rest) hfirst) fun _ => Keeps.yields ?_
      exact Keeps.bind (stable_lost.writeAudit _ _) fun _ => Keeps.pure

lemma yields_loop_lost (c : RunCall) (n k : ℕ) (observations : List ToolObservation)
    (h : (c.round k).router.keepsRun = false) :
    Yields (Stands (· = noRows)) (loop c (n + 1) k observations) (fun _ => Lost) Lost := by
  have hfallback : ∀ errorCode,
      Yields Lost (terminalFallback errorCode) (fun _ => Lost) Lost :=
    fun errorCode => (stable_lost.terminalFallback errorCode).yields
  unfold loop
  refine Yields.bind (yields_route_lost c k h) fun answer => ?_
  cases answer with
  | unavailable errorCode => exact hfallback _
  | output decision =>
    refine Yields.bind (stable_lost.auditExists c k).yields fun audited => ?_
    refine Yields.ite (fun _ => hfallback _) fun _ => ?_
    cases decision with
    | none => exact hfallback _
    | some d =>
      refine Yields.ite (fun _ => (stable_lost.terminalDecision k _ d).yields) fun _ => ?_
      refine Yields.ite (fun _ => hfallback _) fun _ => ?_
      have hbatch := stable_lost.toolBatch stable_lost c k d (fun _ hs => hs)
        (follows_lost.tools 0 0)
      refine Yields.bind hbatch fun more => ?_
      cases more with
      | none => exact hfallback _
      | some more => exact follows_lost.loop c n (k + 1) (observations ++ more) 0 0

section Call
variable {c : RunCall} {sessionId tenantKey : Text}

lemma runAgentWithDb_accepted (h : c.Accepted sessionId tenantKey) :
    runAgentWithDb c (RunSession.start noRows) = afterStart c (started sessionId tenantKey) := by
  unfold runAgentWithDb
  rw [Txn.run_bind, startAgentRun_accepted h]

lemma afterStart_unbound (hb : ¬c.Binds tenantKey) :
    Done (afterStart c (started sessionId tenantKey)).2 := by
  obtain ⟨e, t, ht, hstands⟩ := bindRelease_fails sessionId hb
  have hfall : Yields (Stands (· = noRows))
      (terminalFallback "agent_release_resolution_failed") (fun _ => Done) Done :=
    (yields_terminalFallback _).error fun _ h => h.elim
  unfold afterStart
  rw [Txn.run_bind, Txn.run_attempt, ht]
  exact hfall.snd hstands

lemma afterStart_bound (h : c.Accepted sessionId tenantKey) (hb : c.Binds tenantKey) :
    ∃ t, Stands (· = noRows) t ∧ afterStart c (started sessionId tenantKey) =
      (match c.contract with
      | .error _ => terminalFallback "agent_release_contract_failed"
      | .ok _ => do
        let _ ← Txn.check fun _ => c.setup
        guarded (loop c (c.maxRounds + 1) 0 []) : RunOp RunResult) t := by
  obtain ⟨t, ht, hstands⟩ := bindRelease_binds h hb
  have hattempt : Txn.attempt (bindRelease c) (started sessionId tenantKey) =
      (.ok (.ok ()), t) := by
    rw [Txn.run_attempt, ht]
  exact ⟨t, hstands, Txn.run_bind_ok _ hattempt⟩

/-- an accepted call ends in the ledger exactly if its rounds are set up and keep the run. -/
lemma afterStart_done_iff (h : c.Accepted sessionId tenantKey) :
    Done (afterStart c (started sessionId tenantKey)).2 ↔
      (c.Binds tenantKey → c.contract = .ok () →
        c.setup = .ok () ∧ (c.round 0).router.keepsRun = true) := by
  by_cases hb : c.Binds tenantKey
  swap
  · exact iff_of_true (afterStart_unbound hb) fun hb' => absurd hb' hb
  obtain ⟨t, hstands, hresult⟩ := afterStart_bound h hb
  rw [hresult]
  cases hcontract : c.contract with
  | error e =>
    have hfall : Yields (Stands (· = noRows))
        (terminalFallback "agent_release_contract_failed") (fun _ => Done) Done :=
      (yields_terminalFallback _).error fun _ h => h.elim
    refine iff_of_true (hfall.snd hstands) fun _ hok => ?_
    cases hok
  | ok _ =>
    dsimp only
    rw [Txn.run_bind, Txn.run_check]
    cases hsetup : c.setup with
    | error e =>
      -- no row was committed yet
      refine iff_of_false ?_ fun hends => ?_
      · rintro ⟨⟨run, hrun, -⟩, -⟩
        rw [show t.committed = noRows from hstands.committed] at hrun
        cases hrun
      · cases (hends hb rfl).1
    | ok _ =>
      dsimp only
      cases hkeeps : (c.round 0).router.keepsRun with
      | true =>
        refine iff_of_true ?_ fun _ _ => ⟨rfl, rfl⟩
        exact (yields_guarded (yields_loop c _ 0 [])).snd (.inr ⟨hstands.weaken, hkeeps⟩)
      | false =>
        refine iff_of_false ?_ fun hends => ?_
        · have hlost := stable_lost.guarded (yields_loop_lost c c.maxRounds 0 [] hkeeps)
          exact (hlost.snd hstands).not_done
        · cases (hends hb rfl).2

end Call

lemma runAgentWithDb_counted (c : RunCall) :
    Counted (c.maxRounds + 1) c.maxRounds (runAgentWithDb c (RunSession.start noRows)).2 := by
  by_cases h : ∃ sessionId tenantKey, c.Accepted sessionId tenantKey
  · obtain ⟨sessionId, tenantKey, h⟩ := h
    rw [runAgentWithDb_accepted h]
    exact (follows_counted.afterStart c).snd ⟨le_rfl, le_rfl⟩
  · obtain ⟨e, he⟩ := startAgentRun_refused h
    unfold runAgentWithDb
    rw [Txn.run_bind, he]
    exact ⟨Nat.zero_le _, Nat.zero_le _⟩

theorem runAgentWithDb_ends_iff (c : RunCall) :
    ((runAgentWithDb c (RunSession.start noRows)).2.routerCalls ≤ c.maxRounds + 1 ∧
      (runAgentWithDb c (RunSession.start noRows)).2.toolBatches ≤ c.maxRounds ∧
      (runAgentWithDb c (RunSession.start noRows)).2.committed.Finished) ↔ c.Ends := by
  obtain ⟨hrouter, htools⟩ := runAgentWithDb_counted c
  have hdone : (runAgentWithDb c (RunSession.start noRows)).2.committed.Finished ↔ c.Ends := by
    by_cases h : ∃ sessionId tenantKey, c.Accepted sessionId tenantKey
    · obtain ⟨sessionId, tenantKey, h⟩ := h
      rw [runAgentWithDb_accepted h]
      refine (afterStart_done_iff h).trans ⟨fun hends => ⟨sessionId, tenantKey, h, hends⟩, ?_⟩
      rintro ⟨sessionId', tenantKey', h', hends⟩
      have htenant : tenantKey' = tenantKey := by
        have := h'.2.1.symm.trans h.2.1
        cases this
        rfl
      rw [htenant] at hends
      exact hends
    · obtain ⟨e, he⟩ := startAgentRun_refused h
      refine iff_of_false ?_ ?_
      · unfold runAgentWithDb
        rw [Txn.run_bind, he]
        rintro ⟨⟨run, hrun, -⟩, -⟩
        cases hrun
      · rintro ⟨sessionId, tenantKey, h', -⟩
        exact h ⟨sessionId, tenantKey, h'⟩
  rw [← hdone]
  exact ⟨fun hall => hall.2.2, fun hfinished => ⟨hrouter, htools, hfinished⟩⟩

/-- a call whose provider times out and whose only audit row is not written. -/
def firstAuditFails : RunCall where
  sessionId := "s".toList
  tenantKey := "t".toList
  parentFound := true
  release := .ok ⟨"t".toList, 1, [], []⟩
  suppliedDigest := none
  contract := .ok ()
  maxToolRounds := none
  roundCeiling := 6
  setup := .ok ()
  round := fun _ => ⟨.returned [] false (.unavailable "provider_timeout"), true, .ok []⟩

/-- the rollback of the router takes the run along, and nothing is left to finish. -/
theorem first_audit_loses_run :
    ¬(runAgentWithDb firstAuditFails (RunSession.start noRows)).2.committed.Finished := by
  have hnone : (runAgentWithDb firstAuditFails (RunSession.start noRows)).2.committed.run = none :=
    by decide +kernel
  rintro ⟨⟨run, hrun, -⟩, -⟩
  rw [hnone] at hrun
  cases hrun

end NexusHelpdesk.Runtime
