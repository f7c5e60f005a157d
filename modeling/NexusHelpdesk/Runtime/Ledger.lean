import NexusHelpdesk.Lib.Txn
import NexusHelpdesk.Desk.Basic

/-!
# The ledger of an Agent run (`agent_runtime/run_events.py`)

The rows that one request id has in the ledger: its run, the events of the run and its release
snapshot, with the session of the runtime, which commits and rolls back in between.

* `RunSession`: what the session sees, what it has committed, and how often it called the router
  and the tools;
* `startAgentRun`, `bindAgentRunRelease`, `recordRunSnapshot`, `appendAgentEvent`,
  `finishAgentRun`: the functions of the ledger;
* `RunRows.Numbered`, `RunRows.Finished`: **the events are numbered without a gap, and the last one
  alone is terminal**.

After a rollback that takes the run's row along, the run is no row of the database any more: every
later append fails.
-/

namespace NexusHelpdesk.Runtime

open Lib

abbrev Text := List Char

inductive RunStatus where
  | running | succeeded | fallback | failed
deriving DecidableEq, Repr

inductive EventType where
  | runStarted | releaseResolved | toolRequested | toolAuthorized | toolStarted | toolCompleted
  | toolFailed | clarificationRequested | handoffCommitted | replyFinalized | fallbackUsed
  | runFailed | runCompleted | sessionCheckpointSaved
deriving DecidableEq, Repr

def EventType.terminal : EventType → Bool
  | .runFailed | .runCompleted => true
  | _ => false

structure AgentRunEvent where
  sequence : ℕ
  eventType : EventType
  roundIndex : Option ℕ
deriving DecidableEq, Repr

structure AgentRun where
  sessionId : Text
  tenantKey : Text
  status : RunStatus
  finalAction : Option String
  errorCode : Option String
  releaseId : Option ℕ
  releaseDigest : Option Text
deriving DecidableEq, Repr

/-- the rows of one request id; the snapshot is its digest, `audited` lists the rounds with an
authoritative audit row. -/
structure RunRows where
  run : Option AgentRun
  events : List AgentRunEvent
  snapshot : Option Text
  audited : List ℕ
deriving DecidableEq, Repr

def noRows : RunRows := ⟨none, [], none, []⟩

structure RunSession where
  base : RunRows
  /-- what this session committed, the last commit first. -/
  commits : List RunRows
  /-- what the session reads. -/
  work : RunRows
  routerCalls : ℕ
  toolBatches : ℕ
deriving DecidableEq, Repr

namespace RunSession

def committed (s : RunSession) : RunRows := s.commits.headD s.base

def commit (s : RunSession) : RunSession := { s with commits := s.work :: s.commits }

def rollback (s : RunSession) : RunSession := { s with work := s.committed }

def start (rows : RunRows) : RunSession := ⟨rows, [], rows, 0, 0⟩

end RunSession

/-- a body of the runtime; the error is the text or the class of the exception. -/
abbrev RunOp := Txn RunSession String

structure ResolvedAgentRelease where
  tenantKey : Text
  releaseId : ℕ
  manifestSha256 : Text
  digest : Text
deriving DecidableEq, Repr

/-! ## the code -/

def requiredText (value : Text) (limit : ℕ) (error : String) : Except String Text :=
  let cleaned := (PyStr.stripChars value).take limit
  if cleaned = [] then .error error else .ok cleaned

def nextSequence (events : List AgentRunEvent) : ℕ :=
  (events.map (·.sequence)).foldr max 0 + 1

def RunRows.append (rows : RunRows) (eventType : EventType) (roundIndex : Option ℕ) : RunRows :=
  { rows with events := rows.events ++ [⟨nextSequence rows.events, eventType, roundIndex⟩] }

/-- the row of the run, which `append_agent_event` locks. -/
def lockedRun (s : RunSession) : Except String AgentRun :=
  match s.work.run with
  | some run => .ok run
  | none => .error "NoResultFound"

def appendAgentEvent (eventType : EventType) (roundIndex : Option ℕ) : RunOp Unit := do
  let _ ← Txn.check lockedRun
  Txn.write fun s => { s with work := s.work.append eventType roundIndex }

def RunSession.setRun (s : RunSession) (f : AgentRun → AgentRun) : RunSession :=
  { s with work := { s.work with run := s.work.run.map f } }

def existingRun (sessionId tenantKey : Text) (s : RunSession) : Except String Bool :=
  match s.work.run with
  | none => .ok false
  | some existing =>
    if existing.sessionId ≠ sessionId ∨ existing.tenantKey ≠ tenantKey then
      .error "agent_run_idempotency_conflict"
    else if existing.status ≠ .running then .error "agent_run_already_terminal"
    else .ok true

/-- `start_agent_run`; `parentFound` when there is no parent run to find, or it is found. -/
def startAgentRun (sessionId tenantKey : Text) (parentFound : Bool) : RunOp Unit := do
  let sessionId ← Txn.check fun _ => requiredText sessionId 160 "agent_run_session_id_required"
  let tenantKey ← Txn.check fun _ => requiredText tenantKey 80 "agent_run_tenant_required"
  let found ← Txn.check (existingRun sessionId tenantKey)
  if found then pure ()
  else if !parentFound then Txn.raise "agent_run_parent_unavailable"
  else do
    Txn.write fun s =>
      { s with
        work := { s.work with
          run := some ⟨sessionId, tenantKey, .running, none, none, none, none⟩ } }
    appendAgentEvent .runStarted none

def bindAgentRunRelease (resolved : ResolvedAgentRelease) : RunOp Unit := do
  let run ← Txn.check lockedRun
  if run.tenantKey ≠ resolved.tenantKey then Txn.raise "agent_run_release_tenant_mismatch"
  else do
    Txn.write (·.setRun fun run =>
      { run with
        releaseId := some resolved.releaseId
        releaseDigest := some resolved.manifestSha256 })
    appendAgentEvent .releaseResolved none

def recordRunSnapshot (sessionId : Text) (resolved : ResolvedAgentRelease) : RunOp Unit := do
  let existing ← Txn.read (·.work.snapshot)
  if (PyStr.stripChars sessionId).take 160 = [] then
    Txn.raise "agent_run_snapshot_identity_required"
  else match existing with
    | some digest =>
      if digest ≠ resolved.digest then Txn.raise "agent_run_snapshot_idempotency_conflict"
      else pure ()
    | none => Txn.write fun s => { s with work := { s.work with snapshot := some resolved.digest } }

/-- the writes of `finish_agent_run` on a running run, up to its commit. -/
def finishWrites (status : RunStatus) (finalAction errorCode : Option String) : RunOp Unit := do
  let run ← Txn.check lockedRun
  Txn.write (·.setRun fun run =>
    { run with status := status, finalAction := finalAction, errorCode := errorCode })
  Txn.when (run.releaseId.isSome && (status = .succeeded || status = .fallback))
    (appendAgentEvent .sessionCheckpointSaved none)
  appendAgentEvent (if status = .failed then .runFailed else .runCompleted) none

def finishAgentRun (status : RunStatus) (finalAction errorCode : Option String) : RunOp Unit := do
  let run ← Txn.read (·.work.run)
  match run.filter (·.status ≠ .running) with
  | some run =>
    if run.status = status ∧ run.finalAction = finalAction ∧ run.errorCode = errorCode then pure ()
    else Txn.raise "agent_run_terminal_conflict"
  | none => do
    let result ← Txn.attempt (finishWrites status finalAction errorCode)
    match result with
    | .ok _ => Txn.write (·.commit)
    | .error _ => do
      Txn.write (·.rollback)
      Txn.raise "agent_run_terminal_commit_failed"

/-! ## numbered and finished ledgers -/

namespace RunRows

def Numbered (rows : RunRows) : Prop :=
  rows.events.map (·.sequence) = List.range' 1 rows.events.length

def Open (rows : RunRows) : Prop := ∀ e ∈ rows.events, e.eventType.terminal = false

/-- the run has ended, and its last event alone says so. -/
def Finished (rows : RunRows) : Prop :=
  (∃ run, rows.run = some run ∧ run.status ≠ .running) ∧ rows.Numbered ∧
    ∃ front last, rows.events = front ++ [last] ∧ last.eventType.terminal = true ∧
      ∀ e ∈ front, e.eventType.terminal = false

variable {rows : RunRows} {eventType : EventType} {roundIndex : Option ℕ}

lemma nextSequence_of_numbered (h : rows.Numbered) :
    nextSequence rows.events = rows.events.length + 1 := by
  unfold nextSequence
  rw [h]
  generalize rows.events.length = n
  have hmax : ∀ k a, (List.range' k a).foldr max 0 = if a = 0 then 0 else k + a - 1 := by
    intro k a
    induction a generalizing k with
    | zero => rfl
    | succ a ih =>
      rw [List.range'_succ, List.foldr_cons, ih]
      split <;> split <;> omega
  rw [hmax]
  split <;> omega

lemma numbered_append (h : rows.Numbered) : (rows.append eventType roundIndex).Numbered := by
  unfold Numbered append
  rw [List.map_append, h, List.length_append, nextSequence_of_numbered h]
  show _ ++ [rows.events.length + 1] = List.range' 1 (rows.events.length + 1)
  rw [List.range'_concat]
  congr 2
  omega

lemma open_append (h : rows.Open) (hopen : eventType.terminal = false) :
    (rows.append eventType roundIndex).Open := by
  intro e he
  rcases List.mem_append.1 he with hold | hnew
  · exact h e hold
  · rw [List.mem_singleton.1 hnew]
    exact hopen

lemma finished_append {run : AgentRun}
    (hrun : rows.run = some run) (hstatus : run.status ≠ .running) (hn : rows.Numbered)
    (ho : rows.Open) (hterminal : eventType.terminal = true) :
    (rows.append eventType none).Finished :=
  ⟨⟨run, hrun, hstatus⟩, numbered_append hn, rows.events, _, rfl, hterminal, ho⟩

end RunRows

end NexusHelpdesk.Runtime
