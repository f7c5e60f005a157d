import NexusHelpdesk.Runtime.Ledger

/-!
# One call of the Agent runtime (`agent_runtime/runtime.py`)

The canonical loop: the model is asked through the router, its tool calls are executed, and its
observations go into the next round.  The router writes an audit row for every attempt in the
session of the run and commits it, or rolls the session back when the write fails; the tools run in
a session of their own.

* `RunCall`: what a call meets outside the ledger;
* `route`, `auditExists`: the router, and the check of its audit;
* `terminalFallback`, `terminalDecision`, `toolBatch`: the exits and the tools of a round;
* `loop`, `guarded`, `runAgentWithDb`: the rounds, the handler around them, and the whole call.
-/

namespace NexusHelpdesk.Runtime

open Lib

/-! ## what a call meets -/

inductive NextAction where
  | reply | askClarifyingQuestion | callTool | requestHandoff
deriving DecidableEq, Repr

structure AIDecision where
  nextAction : NextAction
  handoffRequired : Bool
  toolCalls : List String
deriving DecidableEq, Repr

structure ToolObservation where
  toolName : String
  ok : Bool
  status : String
deriving DecidableEq, Repr

inductive ProviderAnswer where
  | unavailable (errorCode : String)
  /-- an output of the provider; `none` is no valid turn. -/
  | output (decision : Option AIDecision)
deriving DecidableEq, Repr

/-- a call of the router with the success of each audit write; one that returns has written at
least one, an answered one its own last. -/
inductive RouterCall where
  | raised (audits : List Bool) (error : String)
  | returned (audits : List Bool) (last : Bool) (answer : ProviderAnswer)
deriving DecidableEq, Repr

structure RoundInput where
  router : RouterCall
  auditReadable : Bool
  /-- what `execute_agent_tool_calls` returns or raises. -/
  tools : Except String (List ToolObservation)

structure RunCall where
  sessionId : Text
  tenantKey : Text
  parentFound : Bool
  release : Except String ResolvedAgentRelease
  /-- the release digest the caller supplies. -/
  suppliedDigest : Option Text
  /-- the runtime policy and the playbooks of the release. -/
  contract : Except String Unit
  maxToolRounds : Option ℕ
  roundCeiling : ℕ
  /-- the catalogues and the execution context, before the loop. -/
  setup : Except String Unit
  round : ℕ → RoundInput

/-- `min(int(policy.get("max_tool_rounds") or 3), hard_round_ceiling)`. -/
def RunCall.maxRounds (c : RunCall) : ℕ :=
  min (match c.maxToolRounds with
    | some n => if n = 0 then 3 else n
    | none => 3) c.roundCeiling

inductive RunResult where
  | answer (handoff : Bool)
  | fallback (errorCode : String)
deriving DecidableEq, Repr

/-- `_write_audit`: the row is committed, or the session is rolled back. -/
def writeAudit (audited : Option ℕ) (ok : Bool) : RunOp Unit :=
  Txn.write fun s =>
    if ok then
      ({ s with work := { s.work with audited := audited.toList ++ s.work.audited } }).commit
    else s.rollback

def ProviderAnswer.auditedRound (k : ℕ) : ProviderAnswer → Option ℕ
  | .unavailable _ => none
  | .output _ => some k

/-- `ProviderRuntimeRouter(db).route`. -/
def route (c : RunCall) (k : ℕ) : RunOp ProviderAnswer := do
  Txn.write fun s => { s with routerCalls := s.routerCalls + 1 }
  match (c.round k).router with
  | .raised audits error => do
    Txn.each audits (writeAudit none)
    Txn.raise error
  | .returned audits last answer => do
    Txn.each audits (writeAudit none)
    writeAudit (answer.auditedRound k) last
    pure answer

def auditExists (c : RunCall) (k : ℕ) : RunOp Bool :=
  if (c.round k).auditReadable then Txn.read fun s => decide (k ∈ s.work.audited)
  else do
    Txn.write (·.rollback)
    pure false

/-! ## the exits -/

def terminalFallback (errorCode : String) : RunOp RunResult := do
  appendAgentEvent .fallbackUsed none
  finishAgentRun .fallback (some "fallback") (some errorCode)
  pure (.fallback errorCode)

def committedHandoff (observations : List ToolObservation) : Bool :=
  observations.any fun o =>
    o.toolName = "handoff.request.create" && o.ok &&
      (o.status = "executed" || o.status = "duplicate")

def NextAction.value : NextAction → String
  | .reply => "reply"
  | .askClarifyingQuestion => "ask_clarifying_question"
  | .callTool => "call_tool"
  | .requestHandoff => "request_handoff"

def terminalDecision (k : ℕ) (observations : List ToolObservation) (d : AIDecision) :
    RunOp RunResult :=
  if (d.nextAction = .requestHandoff ∨ d.handoffRequired = true) ∧
      committedHandoff observations = false then
    terminalFallback "handoff_tool_side_effect_missing"
  else do
    Txn.when (d.nextAction = .askClarifyingQuestion)
      (appendAgentEvent .clarificationRequested (some k))
    Txn.when (committedHandoff observations) (appendAgentEvent .handoffCommitted (some k))
    appendAgentEvent .replyFinalized (some k)
    finishAgentRun .succeeded (some d.nextAction.value) none
    pure (.answer (committedHandoff observations))

def recordToolEvents (k : ℕ) (observations : List ToolObservation) : RunOp Unit :=
  Txn.each observations fun o => do
    appendAgentEvent .toolAuthorized (some k)
    appendAgentEvent (if o.ok then .toolCompleted else .toolFailed) (some k)

def failedToolObservations (d : AIDecision) : List ToolObservation :=
  d.toolCalls.map fun name => ⟨name, false, "failed"⟩

/-- the tool calls of a round; the answer is what they observed, if none raised. -/
def toolBatch (c : RunCall) (k : ℕ) (d : AIDecision) : RunOp (Option (List ToolObservation)) := do
  appendAgentEvent .toolRequested (some k)
  Txn.each d.toolCalls fun _ => appendAgentEvent .toolStarted (some k)
  Txn.write fun s => { s with toolBatches := s.toolBatches + 1 }
  match (c.round k).tools with
  | .ok observations => do
    recordToolEvents k observations
    pure (some observations)
  | .error _ => do
    Txn.write (·.rollback)
    recordToolEvents k (failedToolObservations d)
    pure none

/-! ## the rounds -/

/-- the rounds from the `k`th on, `n` of them at most. -/
def loop (c : RunCall) : ℕ → ℕ → List ToolObservation → RunOp RunResult
  | 0, _, _ => terminalFallback "agent_loop_exhausted"
  | n + 1, k, observations => do
    let answer ← route c k
    match answer with
    | .unavailable errorCode => terminalFallback errorCode
    | .output decision => do
      let audited ← auditExists c k
      if !audited then terminalFallback "provider_runtime_audit_unavailable"
      else match decision with
        | none => terminalFallback "invalid_agent_turn"
        | some d =>
          if d.nextAction ≠ .callTool then terminalDecision k observations d
          else if c.maxRounds ≤ k then terminalFallback "max_tool_rounds_exceeded"
          else do
            let observed ← toolBatch c k d
            match observed with
            | none => terminalFallback "tool_execution_failed"
            | some more => loop c n (k + 1) (observations ++ more)

/-- the handler around the rounds: the run is finished as failed, and the exception goes on. -/
def guarded (body : RunOp RunResult) : RunOp RunResult := do
  let result ← Txn.attempt body
  match result with
  | .ok answer => pure answer
  | .error e => do
    let finished ← Txn.attempt
      (finishAgentRun .failed (some "runtime_exception") (some ("agent_runtime_exception:" ++ e)))
    match finished with
    | .ok _ => Txn.raise e
    | .error _ => do
      Txn.write (·.rollback)
      Txn.raise e

/-- the release of the run: resolved, compared with the supplied digest, bound and recorded. -/
def bindRelease (c : RunCall) : RunOp Unit := do
  let resolved ← Txn.check fun _ => c.release
  if c.suppliedDigest ≠ none ∧ c.suppliedDigest ≠ some resolved.digest then
    Txn.raise "agent_release_context_mismatch"
  else do
    bindAgentRunRelease resolved
    recordRunSnapshot c.sessionId resolved

def afterStart (c : RunCall) : RunOp RunResult := do
  let bound ← Txn.attempt (bindRelease c)
  match bound with
  | .error _ => terminalFallback "agent_release_resolution_failed"
  | .ok _ =>
    match c.contract with
    | .error _ => terminalFallback "agent_release_contract_failed"
    | .ok _ => do
      let _ ← Txn.check fun _ => c.setup
      guarded (loop c (c.maxRounds + 1) 0 [])

def runAgentWithDb (c : RunCall) : RunOp RunResult := do
  startAgentRun c.sessionId c.tenantKey c.parentFound
  afterStart c

end NexusHelpdesk.Runtime
