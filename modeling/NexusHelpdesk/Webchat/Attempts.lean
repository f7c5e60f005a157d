import NexusHelpdesk.Webchat.Turns

/-!
# Attempts of a reply job (`webchat_ai_orchestration_service.py`, `webchat_ai_service.py`)

A worker that holds the lease of a reply job looks up a turn, commits before it calls the Agent, and
writes the reply in a second transaction that reads its context first and ends with a last look at
the lease.

* `openTurnForMessage`, `agentReplyExists`, `shouldSuppressStaleReply`: what an attempt asks;
* `prepare`, `generate`, `finishReply`: its stretches up to the next commit or the call of the Agent;
* `closeAttempt`: the result of the job, the finaliser of a dead job and the last look at the lease;
* `ChatStep`: a visitor's message, the steps of the workers, a handoff, the finaliser and the
  watchdog.  Each is one transaction; only the second transaction of a worker is open during other
  steps, between its opening reads (`generate`) and its end (`finish`).
-/

namespace NexusHelpdesk.Webchat

open Lib Jobs

/-! ## what an attempt asks -/

def openTurnForMessage (v : ℕ) (d : Chat) : Option (ℕ × WebchatAITurn) :=
  (d.turns.select fun _ row => row.status.isOpen).find? fun r =>
    r.2.triggerMessageId == v || r.2.latestVisitorMessageId == v ||
      d.conversation.activeAiTurnId == some r.1

def agentReplyExists (v : ℕ) (d : Chat) : Bool :=
  d.messages.rows.any fun r =>
    r.2.direction == .agent && decide (v < r.1) && r.2.authorLabel == some .aiAssistant

/-- `should_suppress_stale_reply` for the turn as the session has read it. -/
def shouldSuppressStaleReply (row : WebchatAITurn) (d : Chat) : Bool :=
  isAiSuspendedForHandoff d.conversation || !row.isPublicReplyAllowed || !row.status.isOpen ||
    newerMessage row d

/-! ## the stretches of an attempt -/

/-- the attempt goes on in a new transaction, or its job is processed. -/
inductive Stretch where
  | ended (d : Chat)
  | boundary (d : Chat)

/-- a turn of which the message was already answered. -/
def closeTurn (now : Instant) (turn : Option ℕ) (d : Chat) : Chat :=
  match turn with
  | some t => completeAiTurnWithReply now t none d
  | none => d

/-- a queued turn starts; its cut-off is the newest message. -/
def startTurn (now : Instant) (turn : Option (ℕ × WebchatAITurn)) (d : Chat) : Chat :=
  match turn with
  | some (t, row) =>
    if row.status = .queued then
      markAiTurnBridgeCalling now t (latestVisitorMessageId d) (markAiTurnProcessing now t d)
    else d
  | none => d

/-- `process_webchat_ai_reply_job` up to the commit before the Agent is called. -/
def prepare (now : Instant) (v : ℕ) (turn : Option ℕ) (d : Chat) : Stretch :=
  if isAiSuspendedForHandoff d.conversation then .ended (cancelOpenAiTurnsForHandoff now d)
  else
    let d := startTurn now (turn.bind fun t => turnAt t d) d
    if agentReplyExists v d then .ended (closeTurn now turn d)
    else
      match turn.bind fun t => turnAt t d with
      | some (t, row) =>
        if shouldSuppressStaleReply row d then .ended (supersedeAiTurn now t d) else .boundary d
      | none => .boundary d

/-- the opening reads of the second transaction. -/
def generate (now : Instant) (v : ℕ) (turn : Option ℕ) (d : Chat) : Stretch :=
  if isAiSuspendedForHandoff d.conversation then .ended (closeTurn now turn d)
  else if agentReplyExists v d then .ended (closeTurn now turn d)
  else
    match turn.bind fun t => turnAt t d with
    | some (t, row) =>
      if shouldSuppressStaleReply row d then
        .ended (supersedeAiTurn now t (supersedeAiTurn now t d))
      else .boundary d
    | none => .boundary d

/-- what the Agent does, and an exception after its reply was written. -/
inductive AgentOutcome where
  | raises (reason : String)
  | reply
  | replyThenRaises (reason : String)
deriving DecidableEq, Repr

def writeReply (now : Instant) (turn : Option ℕ) (outcome : AgentOutcome) (d : Chat) :
    Result × Chat :=
  let written := d.addMessage ⟨.agent, turn, some .aiAssistant⟩
  match outcome with
  | .raises reason => (.retry reason, d)
  | .replyThenRaises reason => (.retry reason, written)
  | .reply =>
    (.done,
      match turn with
      | some t => completeAiTurnWithReply now t (some d.messages.next) written
      | none => written)

/-- `process_webchat_ai_reply_job` after the call of the Agent, for the turn as it was read before. -/
def finishReply (now : Instant) (turn : Option (ℕ × WebchatAITurn)) (outcome : AgentOutcome)
    (d : Chat) : Result × Chat :=
  match outcome, turn with
  | .raises reason, _ => (.retry reason, d)
  | outcome, some (t, row) =>
    if isAiSuspendedForHandoff d.conversation then
      (.done,
        match d.turns.get? t with
        | some current => if current.status.isOpen then supersedeAiTurn now t d else d
        | none => d)
    else if shouldSuppressStaleReply row d then
      (.done, supersedeAiTurn now t (supersedeAiTurn now t d))
    else writeReply now (some t) outcome d
  | outcome, none => writeReply now none outcome d

/-- the end of an attempt of job `j` on the rows `after` it worked out, while the committed rows are
`before`.  An exception of the finaliser rolls the transaction back; the job is then read anew. -/
def closeAttempt (now : Instant) (token : String) (j : ℕ) (result : Result)
    (rejected rejectedAgain : Bool) (before after : Chat) : Chat :=
  match before.jobs.get? j with
  | none => before
  | some job =>
    if ownsJobLease token job.toBackgroundJob then
      match finalizeDeadWebchatAiJob now rejected j
        (after.modifyJob j fun job => result.mark now job) with
      | .ok d => d
      | .error _ =>
        match finalizeDeadWebchatAiJob now rejectedAgain j
          (before.modifyJob j (markRetry now "Unhandled background job exception: RuntimeError")) with
        | .ok d => d
        | .error _ => before
    else before

/-! ## runs -/

/-- where a worker stands with its job: it holds the lease, it has looked up the turn, it has
committed before the call of the Agent, or it has read its context and waits for the Agent. -/
inductive Phase where
  | working (j : ℕ)
  | picked (j : ℕ) (turn : Option ℕ)
  | generating (j : ℕ) (turn : Option ℕ)
  | replying (j : ℕ) (turn : Option (ℕ × WebchatAITurn))

def Phase.job : Phase → ℕ
  | .working j | .picked j _ | .generating j _ | .replying j _ => j

def Phase.turn : Phase → Option ℕ
  | .working _ => none
  | .picked _ turn | .generating _ turn => turn
  | .replying _ turn => turn.map Prod.fst

/-- the committed rows, the phase of the worker behind each token, and the tokens drawn so far. -/
structure ChatDesk where
  chat : Chat
  workers : InHand String Phase
  tokens : List String

def ChatDesk.empty : ChatDesk := ⟨.empty, .empty, []⟩

def ChatDesk.visitorMessage (s : ChatDesk) (j : ℕ) : ℕ :=
  ((s.chat.jobs.get? j).map (·.visitorMessageId)).getD 0

/-- how the finaliser fares at the end of an attempt. -/
structure Fallback where
  rejected : Bool
  rejectedAgain : Bool
deriving DecidableEq, Repr

inductive ChatStep where
  | visitor (now debounceAt : Instant)
  | claim (now : Instant) (token : String) (j : ℕ)
  | refresh (now : Instant) (token : String) (j : ℕ)
  | heartbeat (now : Instant) (token : String) (j : ℕ)
  | reject (now : Instant) (token : String) (errorType : String)
  | pick (token : String)
  | prepare (now : Instant) (token : String) (fallback : Fallback)
  | prepareRaises (now : Instant) (token : String) (reason : String) (started : Bool)
    (fallback : Fallback)
  | generate (now : Instant) (token : String) (fallback : Fallback)
  | finish (now : Instant) (token : String) (outcome : AgentOutcome) (fallback : Fallback)
  | crash (token : String)
  | handoff (now : Instant) (status : HandoffStatus) (agent : Option ℕ)
  | resumeAi
  | finalize (now : Instant) (j : ℕ) (rejected : Bool)
  | reconcile (now : Instant) (rejected : Bool)

namespace ChatStep

def orElse (d : Chat) : Except String Chat → Chat
  | .ok d' => d'
  | .error _ => d

/-- the worker ends its attempt. -/
def close (now : Instant) (token : String) (j : ℕ) (result : Result) (f : Fallback) (after : Chat)
    (s : ChatDesk) : ChatDesk :=
  { s with
    chat := closeAttempt now token j result f.rejected f.rejectedAgain s.chat after
    workers := s.workers.release token }

/-- job `j` is claimed on its own; a token is never drawn twice. -/
def applyClaim (c : ChatSettings) (now : Instant) (token : String) (j : ℕ) (s : ChatDesk) :
    ChatDesk :=
  match s.chat.jobs.get? j with
  | none => s
  | some job =>
    if token ∉ s.tokens ∧ (pendingDue now job.toBackgroundJob ∨
        staleProcessing c.jobs now job.toBackgroundJob) then
      { s with
        chat := s.chat.modifyJob j (takeLease now token)
        tokens := token :: s.tokens }
    else s

def applyRefresh (now : Instant) (token : String) (j : ℕ) (s : ChatDesk) : ChatDesk :=
  match s.workers token, s.chat.jobs.get? j with
  | none, some job =>
    if ownsJobLease token job.toBackgroundJob then
      { s with
        chat := s.chat.modifyJob j (renewLease now token)
        workers := s.workers.take token (.working j) }
    else s
  | _, _ => s

/-- `_reject_execution_scope`. -/
def applyReject (now : Instant) (token errorType : String) (s : ChatDesk) : ChatDesk :=
  match s.workers token with
  | some (.working j) =>
    match s.chat.jobs.get? j with
    | some job =>
      { s with
        chat := if ownsJobLease token job.toBackgroundJob then
            s.chat.modifyJob j (rejectScope now errorType)
          else s.chat
        workers := s.workers.release token }
    | none => { s with workers := s.workers.release token }
  | _ => s

def applyPick (token : String) (s : ChatDesk) : ChatDesk :=
  match s.workers token with
  | some (.working j) =>
    let turn := (openTurnForMessage (s.visitorMessage j) s.chat).map Prod.fst
    { s with workers := s.workers.take token (.picked j turn) }
  | _ => s

def applyPrepare (now : Instant) (token : String) (f : Fallback) (s : ChatDesk) : ChatDesk :=
  match s.workers token with
  | some (.picked j turn) =>
    match Webchat.prepare now (s.visitorMessage j) turn s.chat with
    | .ended d => close now token j .done f d s
    | .boundary d => { s with chat := d, workers := s.workers.take token (.generating j turn) }
  | _ => s

/-- an exception before the commit; what was flushed so far stays in the transaction. -/
def applyPrepareRaises (now : Instant) (token reason : String) (started : Bool) (f : Fallback)
    (s : ChatDesk) : ChatDesk :=
  match s.workers token with
  | some (.working j) => close now token j (.retry reason) f s.chat s
  | some (.picked j turn) =>
    close now token j (.retry reason) f
      (if started then startTurn now (turn.bind fun t => turnAt t s.chat) s.chat else s.chat) s
  | _ => s

def applyGenerate (now : Instant) (token : String) (f : Fallback) (s : ChatDesk) : ChatDesk :=
  match s.workers token with
  | some (.generating j turn) =>
    match Webchat.generate now (s.visitorMessage j) turn s.chat with
    | .ended d => close now token j .done f d s
    | .boundary d =>
      { s with workers := s.workers.take token (.replying j (turn.bind fun t => turnAt t s.chat)) }
  | _ => s

def applyFinish (now : Instant) (token : String) (outcome : AgentOutcome) (f : Fallback)
    (s : ChatDesk) : ChatDesk :=
  match s.workers token with
  | some (.replying j turn) =>
    let (result, d) := finishReply now turn outcome s.chat
    close now token j result f d s
  | _ => s

/-- the conversation goes to a human: `cancel_open_ai_turns_for_handoff` with the new owner. -/
def applyHandoff (now : Instant) (status : HandoffStatus) (agent : Option ℕ) (d : Chat) : Chat :=
  cancelOpenAiTurnsForHandoff now
    { d with conversation :=
      { d.conversation with
        aiSuspended := true
        handoffStatus := status
        activeAgentId := agent } }

/-- the conversation goes back to the Agent. -/
def applyResumeAi (d : Chat) : Chat :=
  { d with conversation :=
    { d.conversation with
      aiSuspended := false
      handoffStatus := .closed
      activeAgentId := none } }

def apply (c : ChatSettings) : ChatStep → ChatDesk → ChatDesk
  | .visitor now debounceAt, s => { s with chat := receiveVisitorMessage c now debounceAt s.chat }
  | .claim now token j, s => applyClaim c now token j s
  | .refresh now token j, s => applyRefresh now token j s
  | .heartbeat now token j, s => { s with chat := s.chat.modifyJob j (renewLease now token) }
  | .reject now token errorType, s => applyReject now token errorType s
  | .pick token, s => applyPick token s
  | .prepare now token f, s => applyPrepare now token f s
  | .prepareRaises now token reason started f, s =>
    applyPrepareRaises now token reason started f s
  | .generate now token f, s => applyGenerate now token f s
  | .finish now token outcome f, s => applyFinish now token outcome f s
  | .crash token, s => { s with workers := s.workers.release token }
  | .handoff now status agent, s => { s with chat := applyHandoff now status agent s.chat }
  | .resumeAi, s => { s with chat := applyResumeAi s.chat }
  | .finalize now j rejected, s =>
    { s with chat := orElse s.chat (finalizeDeadWebchatAiJob now rejected j s.chat) }
  | .reconcile now rejected, s =>
    { s with chat := orElse s.chat (reconcileWebchatAiState c now rejected s.chat) }

end ChatStep

end NexusHelpdesk.Webchat
