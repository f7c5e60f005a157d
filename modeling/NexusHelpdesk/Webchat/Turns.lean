import NexusHelpdesk.Jobs.Lease

/-!
# AI turns of a webchat conversation (`webchat_ai_turn_service.py`)

A visitor message is answered by an AI turn, which has a job of its own.  The conversation points at
its active turn and at the one that comes next.  The state is the rows of one conversation: every
query of the service filters by it.

* `scheduleWebchatAiTurn`: a message joins a queued turn, or gets a new one;
* `completeAiTurnWithReply`, `supersedeAiTurn`, `cancelOpenAiTurnsForHandoff`: the ends of a turn;
* `finalizeDeadWebchatAiJob` (`webchat_ai_terminal_job_service.py`): the outcome of a dead job;
* `reconcileWebchatAiState` (`webchat_ai_reconciler.py`): the watchdog.
-/

namespace NexusHelpdesk.Webchat

open Lib Jobs

/-! ## rows -/

inductive TurnStatus where
  | queued | processing | bridgeCalling | fallbackGenerating
  | completed | superseded | failed | timeout | cancelled
deriving DecidableEq, Repr

/-- `AI_TURN_OPEN_STATUSES`; the others are `AI_TURN_TERMINAL_STATUSES`. -/
def TurnStatus.isOpen : TurnStatus → Bool
  | .queued | .processing | .bridgeCalling | .fallbackGenerating => true
  | _ => false

inductive Direction where
  | visitor | agent
deriving DecidableEq, Repr

inductive AuthorLabel where
  | aiAssistant
  | other (label : String)
deriving DecidableEq, Repr

structure WebchatMessage where
  direction : Direction
  aiTurnId : Option ℕ
  authorLabel : Option AuthorLabel
deriving DecidableEq, Repr

structure WebchatAITurn where
  triggerMessageId : ℕ
  latestVisitorMessageId : ℕ
  contextCutoffMessageId : Option ℕ
  status : TurnStatus
  isPublicReplyAllowed : Bool
  replyMessageId : Option ℕ
  jobId : Option ℕ
  updatedAt : Instant
deriving DecidableEq, Repr

inductive HandoffStatus where
  | none | requested | accepted | closed
deriving DecidableEq, Repr

structure WebchatConversation where
  aiSuspended : Bool
  handoffStatus : HandoffStatus
  activeAgentId : Option ℕ
  activeAiTurnId : Option ℕ
  nextAiTurnId : Option ℕ
deriving DecidableEq, Repr

/-- a job of type `webchat.ai_reply` with its payload. -/
structure ReplyJob extends BackgroundJob where
  visitorMessageId : ℕ
  aiTurnId : Option ℕ
deriving DecidableEq, Repr

structure Chat where
  conversation : WebchatConversation
  messages : Table WebchatMessage
  turns : Table WebchatAITurn
  jobs : Table ReplyJob

def Chat.empty : Chat := ⟨⟨false, .none, none, none, none⟩, .empty, .empty, .empty⟩

structure ChatSettings where
  jobs : Jobs.Settings
  jobMaxRetries : ℕ
  queuedTimeoutSeconds : ℤ
  processingTimeoutSeconds : ℤ
  fallbackTimeoutSeconds : ℤ
  bridgeTimeoutGraceSeconds : ℤ
deriving DecidableEq, Repr

def chatSettings : ChatSettings := ⟨⟨300, 25⟩, 5, 120, 90, 60, 15⟩

/-! ## queries -/

def isAiSuspendedForHandoff (c : WebchatConversation) : Bool :=
  c.aiSuspended || c.handoffStatus == .requested || c.handoffStatus == .accepted ||
    c.activeAgentId.isSome

def latestVisitorMessageId (d : Chat) : Option ℕ :=
  (d.messages.select fun _ m => m.direction == .visitor).getLast?.map Prod.fst

/-- `context_cutoff_message_id or latest_visitor_message_id or trigger_message_id`. -/
def WebchatAITurn.cutoffId (t : WebchatAITurn) : ℕ :=
  t.contextCutoffMessageId.getD t.latestVisitorMessageId

/-- a visitor wrote after the cut-off of the turn. -/
def newerMessage (t : WebchatAITurn) (d : Chat) : Bool :=
  (latestVisitorMessageId d).any fun latest => decide (t.cutoffId < latest)

def outcomes (t : ℕ) (d : Chat) : List (ℕ × WebchatMessage) :=
  d.messages.select fun _ m => m.direction == .agent && m.aiTurnId == some t

def turnAt (t : ℕ) (d : Chat) : Option (ℕ × WebchatAITurn) := (d.turns.get? t).map (t, ·)

def activeTurn (d : Chat) : Option (ℕ × WebchatAITurn) :=
  d.conversation.activeAiTurnId.bind fun t => turnAt t d

/-! ## updates -/

def Chat.modifyTurn (t : ℕ) (f : WebchatAITurn → WebchatAITurn) (d : Chat) : Chat :=
  { d with turns := d.turns.modify t f }

def Chat.modifyJob (j : ℕ) (f : BackgroundJob → BackgroundJob) (d : Chat) : Chat :=
  { d with jobs := d.jobs.modify j fun job => { job with toBackgroundJob := f job.toBackgroundJob } }

def Chat.point (active next : Option ℕ) (d : Chat) : Chat :=
  { d with conversation := { d.conversation with activeAiTurnId := active, nextAiTurnId := next } }

def Chat.addMessage (m : WebchatMessage) (d : Chat) : Chat :=
  { d with messages := d.messages.insert m }

def clearActiveSnapshot (d : Chat) : Chat := d.point none d.conversation.nextAiTurnId

def promoteNextTurn (next : ℕ) (d : Chat) : Chat :=
  match d.turns.get? next with
  | some row => if row.status.isOpen then d.point (some next) none else d.point none none
  | none => d.point none none

def leaveTurn (t : ℕ) (d : Chat) : Chat :=
  if d.conversation.activeAiTurnId = some t then
    match d.conversation.nextAiTurnId with
    | some next => promoteNextTurn next d
    | none => clearActiveSnapshot d
  else d

def completeAiTurnWithReply (now : Instant) (t : ℕ) (reply : Option ℕ) (d : Chat) : Chat :=
  leaveTurn t <| d.modifyTurn t fun row =>
    { row with status := .completed, replyMessageId := reply, updatedAt := now }

def supersedeAiTurn (now : Instant) (t : ℕ) (d : Chat) : Chat :=
  leaveTurn t <| d.modifyTurn t fun row =>
    { row with status := .superseded, isPublicReplyAllowed := false, updatedAt := now }

def markAiTurnProcessing (now : Instant) (t : ℕ) (d : Chat) : Chat :=
  d.modifyTurn t fun row => { row with status := .processing, updatedAt := now }

def markAiTurnBridgeCalling (now : Instant) (t : ℕ) (cutoff : Option ℕ) (d : Chat) : Chat :=
  d.modifyTurn t fun row =>
    { row with status := .bridgeCalling, contextCutoffMessageId := cutoff, updatedAt := now }

def killJob (now : Instant) (job : BackgroundJob) : BackgroundJob :=
  { job with
    status := .dead
    lockedAt := none
    lockedBy := none
    nextRunAt := none
    updatedAt := now }

def ofOpenTurn (j : ℕ) (d : Chat) : Bool :=
  d.turns.rows.any fun r => r.2.status.isOpen && r.2.jobId == some j

def cancelOpenAiTurnsForHandoff (now : Instant) (d : Chat) : Chat where
  conversation := { d.conversation with activeAiTurnId := none, nextAiTurnId := none }
  messages := d.messages
  turns := d.turns.mapRows fun _ row =>
    if row.status.isOpen then
      { row with status := .cancelled, isPublicReplyAllowed := false, updatedAt := now }
    else row
  jobs := d.jobs.mapRows fun j job =>
    if ofOpenTurn j d && (job.status == .pending || job.status == .processing) then
      { job with toBackgroundJob := killJob now job.toBackgroundJob }
    else job

/-! ## schedule -/

def newTurn (now : Instant) (v j : ℕ) : WebchatAITurn where
  triggerMessageId := v
  latestVisitorMessageId := v
  contextCutoffMessageId := none
  status := .queued
  isPublicReplyAllowed := true
  replyMessageId := none
  jobId := some j
  updatedAt := now

def newJob (c : ChatSettings) (now : Instant) (nextRunAt : Option Instant) (v t : ℕ) :
    ReplyJob where
  jobType := "webchat.ai_reply"
  status := .pending
  attemptCount := 0
  maxAttempts := c.jobMaxRetries
  nextRunAt := nextRunAt
  lockedAt := none
  lockedBy := none
  lastError := none
  createdAt := now
  updatedAt := now
  visitorMessageId := v
  aiTurnId := some t

def createTurn (c : ChatSettings) (now debounceAt : Instant) (v : ℕ) (d : Chat) : Chat :=
  { d with
    turns := d.turns.insert (newTurn now v d.jobs.next)
    jobs := d.jobs.insert (newJob c now (some debounceAt) v d.turns.next) }

/-- the message joins the turn, whose job is put off. -/
def coalesce (now debounceAt : Instant) (v t : ℕ) (row : WebchatAITurn) (d : Chat) : Chat :=
  let d := d.modifyTurn t fun row => { row with latestVisitorMessageId := v, updatedAt := now }
  match row.jobId with
  | some j => d.modifyJob j fun job => { job with nextRunAt := some debounceAt, updatedAt := now }
  | none => d

def scheduleWebchatAiTurn (c : ChatSettings) (now debounceAt : Instant) (v : ℕ) (d : Chat) : Chat :=
  let active := d.conversation.activeAiTurnId
  let next := d.conversation.nextAiTurnId
  let created := createTurn c now debounceAt v d
  if isAiSuspendedForHandoff d.conversation then d
  else
    match activeTurn d with
    | some (t, row) =>
      if row.status = .queued then coalesce now debounceAt v t row d
      else if row.status.isOpen then created.point active (some d.turns.next)
      else created.point (some d.turns.next) next
    | none => created.point (some d.turns.next) next

def receiveVisitorMessage (c : ChatSettings) (now debounceAt : Instant) (d : Chat) : Chat :=
  scheduleWebchatAiTurn c now debounceAt d.messages.next
    (d.addMessage ⟨.visitor, none, none⟩)

def markTerminalJobResolved (now : Instant) (resolution : String) (job : BackgroundJob) :
    BackgroundJob :=
  { job with
    status := .done
    lockedAt := none
    lockedBy := none
    nextRunAt := none
    lastError := some (String.ofList (("terminally_resolved:" ++ resolution).toList.take 500))
    updatedAt := now }

def turnOfJob (j : ℕ) (job : ReplyJob) (d : Chat) : Option (ℕ × WebchatAITurn) :=
  match job.aiTurnId.bind fun t => turnAt t d with
  | some x => some x
  | none => (d.turns.select fun _ row => row.jobId == some j).getLast?

/-- a turn whose customer is served by someone else is superseded, unless it ended before. -/
def supersedeUnlessSettled (now : Instant) (t : ℕ) (row : WebchatAITurn) (d : Chat) : Chat :=
  if row.status = .completed ∨ row.status = .superseded ∨ row.status = .cancelled then d
  else supersedeAiTurn now t d

/-- `finalize_dead_webchat_ai_job`; `rejected`: no fallback text is accepted. -/
def finalizeDeadWebchatAiJob (now : Instant) (rejected : Bool) (j : ℕ) (d : Chat) :
    Except String Chat :=
  match d.jobs.get? j with
  | none => .ok d
  | some job =>
    if job.status ≠ .dead then .ok d
    else
      match turnOfJob j job d with
      | none => .error "dead_webchat_ai_job_turn_missing"
      | some (t, row) =>
        if (d.messages.get? row.latestVisitorMessageId).isNone then
          .error "dead_webchat_ai_job_context_missing"
        else
          match outcomes t d with
          | (m, _) :: _ =>
            .ok ((completeAiTurnWithReply now t (some m) d).modifyJob j
              (markTerminalJobResolved now "existing_customer_outcome"))
          | [] =>
            if !row.isPublicReplyAllowed || isAiSuspendedForHandoff d.conversation then
              .ok ((supersedeUnlessSettled now t row d).modifyJob j
                (markTerminalJobResolved now "human_handoff_owns_outcome"))
            else if newerMessage row d then
              .ok ((supersedeUnlessSettled now t row d).modifyJob j
                (markTerminalJobResolved now "newer_customer_message"))
            else if d.messages.rows.any fun r =>
                r.2.direction == .agent && decide (row.latestVisitorMessageId < r.1) then
              .ok ((supersedeUnlessSettled now t row d).modifyJob j
                (markTerminalJobResolved now "later_agent_reply"))
            else if rejected then .error "customer_visible_terminal_fallback_rejected"
            else
              .ok ((completeAiTurnWithReply now t (some d.messages.next)
                (d.addMessage ⟨.agent, some t, some .aiAssistant⟩)).modifyJob j
                (markTerminalJobResolved now "terminal_fallback_committed"))

/-! ## the watchdog -/

def timeoutSecondsForStatus (c : ChatSettings) : TurnStatus → Option ℤ
  | .queued => some c.queuedTimeoutSeconds
  | .processing => some c.processingTimeoutSeconds
  | .fallbackGenerating => some c.fallbackTimeoutSeconds
  | .bridgeCalling => some (20 + c.bridgeTimeoutGraceSeconds)
  | _ => none

def publicOutcomeExists (t : ℕ) (row : WebchatAITurn) (d : Chat) : Bool :=
  row.replyMessageId.isSome || !(outcomes t d).isEmpty

def failJob (now : Instant) (reason : String) (job : BackgroundJob) : BackgroundJob :=
  { killJob now job with
    attemptCount := max job.attemptCount job.maxAttempts
    lastError := some (String.ofList (reason.toList.take 500)) }

/-- the job `_terminal_job_for_turn` makes for a turn without one. -/
def recoveryJob (now : Instant) (reason : String) (t : ℕ) (row : WebchatAITurn) : ReplyJob where
  jobType := "webchat.ai_reply"
  status := .dead
  attemptCount := 1
  maxAttempts := 1
  nextRunAt := none
  lockedAt := none
  lockedBy := none
  lastError := some (String.ofList (reason.toList.take 500))
  createdAt := now
  updatedAt := now
  visitorMessageId := row.latestVisitorMessageId
  aiTurnId := some t

def terminalJobForTurn (now : Instant) (reason : String) (t : ℕ) (row : WebchatAITurn) (d : Chat) :
    ℕ × Chat :=
  match row.jobId.filter fun j => (d.jobs.get? j).isSome with
  | some j =>
    (j, (d.modifyJob j (failJob now reason)).modifyTurn t fun row => { row with updatedAt := now })
  | none =>
    (d.jobs.next, { d with
      jobs := d.jobs.insert (recoveryJob now reason t row)
      turns := d.turns.modify t fun row => { row with jobId := some d.jobs.next, updatedAt := now } })

/-- `_finalize_terminal_outcome`; a turn that ran out of time stays `timeout`. -/
def finalizeTerminalOutcome (now : Instant) (rejected : Bool) (reason : String) (timedOut : Bool)
    (t : ℕ) (row : WebchatAITurn) (d : Chat) : Except String Chat :=
  let (j, d) := terminalJobForTurn now reason t row d
  match finalizeDeadWebchatAiJob now rejected j d with
  | .error err => .error err
  | .ok d =>
    .ok (if timedOut then d.modifyTurn t fun row => { row with status := .timeout, updatedAt := now }
      else d)

def maybeTimeoutStaleOpenTurn (c : ChatSettings) (now : Instant) (rejected : Bool) (t : ℕ)
    (row : WebchatAITurn) (d : Chat) : Except String Chat :=
  match timeoutSecondsForStatus c row.status with
  | none => .ok d
  | some timeout =>
    if now < row.updatedAt + seconds timeout then .ok d
    else finalizeTerminalOutcome now rejected "ai_turn_watchdog_timeout" true t row d

def reconcileWebchatAiState (c : ChatSettings) (now : Instant) (rejected : Bool) (d : Chat) :
    Except String Chat :=
  match activeTurn d with
  | none => .ok (clearActiveSnapshot d)
  | some (t, row) =>
    if row.status.isOpen then
      match row.jobId.filter fun j => (d.jobs.get? j).any fun job => job.status == .dead with
      | some j => finalizeDeadWebchatAiJob now rejected j d
      | none => maybeTimeoutStaleOpenTurn c now rejected t row d
    else if (row.status == .failed || row.status == .timeout) && row.isPublicReplyAllowed &&
        !publicOutcomeExists t row d then
      finalizeTerminalOutcome now rejected "terminal_turn_without_outcome" false t row d
    else .ok (clearActiveSnapshot d)

end NexusHelpdesk.Webchat
