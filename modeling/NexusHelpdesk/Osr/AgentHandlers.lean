import NexusHelpdesk.Osr.ToolCalls

/-!
# Handlers (`agent_tool_handlers.py`, `tool_execution_service_core._production_handlers`)

* `AgentRows`, `AgentEnv`: the rows that handlers write to, and what is outside of them;
* `ticketCreate`, `handoffRequest`, `timelineEventCreate`, `workOrderCreate`: the handlers that
  write;
* `agentBackend`: all of them around the executor.

The answers of the other handlers, and of `request_handoff`, are the environment's.
-/

namespace NexusHelpdesk.Osr

open Lib Cases

/-! ## rows -/

/-- an active job of the queue `speedaf_work_order`. -/
structure WorkOrderJob where
  ticketId : ℕ
  waybillHash : Text
  workOrderType : Text
deriving DecidableEq, Repr

structure TimelineNote where
  ticketId : Option ℕ
  summary : Text
deriving DecidableEq, Repr

structure AgentRows where
  session : Session
  jobs : List WorkOrderJob
  notes : List TimelineNote

abbrev AgentWork (α : Type) : Type := Txn AgentRows OsrError α

/-- what a handler that is not modelled does: it raises, or returns. -/
structure HandlerOutcome where
  ok : Bool
  status : String
  /-- the result carries the context of the request. -/
  keepsContext : Bool := true
  errorCode : Option String := none
  answers : status ≠ "confirmation_required" := by decide

structure AgentEnv where
  tickets : TicketEnv
  py : PyText
  upper : Text → Text
  schemaOk : Text → List (Text × PyValue) → Bool
  redact : Json → ℕ → Text
  channelKey : Text
  /-- the customer of the conversation's control. -/
  controlCustomer : Option ℕ
  phone : ℕ → Option Text
  /-- `SPEEDAF_WORK_ORDER_CREATE_ENABLED`. -/
  workOrdersEnabled : Bool
  outcome : ActionExecutionRequest → Except OsrError HandlerOutcome
  /-- the error of `request_handoff`, if it raises. -/
  handoffError : Option OsrError

/-! ## arguments -/

def ActionExecutionRequest.argument (r : ActionExecutionRequest) (key : String) : Option Json :=
  (r.action.arguments.find? fun field => field.1 = key.toList).map Prod.snd

def ActionExecutionRequest.textArgument (r : ActionExecutionRequest) (key : String) : Option Text :=
  match r.argument key with
  | some (.str s) => some s
  | _ => none

section Handlers
variable (env : AgentEnv) (conversationId : ℕ)

def optionalArg (r : ActionExecutionRequest) (key : String) (limit : ℕ) : Option Text :=
  match r.argument key with
  | none => none
  | some .null => none
  | some value => some (env.redact value limit)

def priorityArg (r : ActionExecutionRequest) : TicketPriority :=
  let value := env.py.lower (textOr (r.textArgument "priority") "medium")
  if value = "low".toList then .low
  else if value = "high".toList then .high
  else if value = "urgent".toList then .urgent
  else .medium

def sourceChannel (channel : Option Text) : SourceChannel :=
  let value := env.py.lower (textOr channel "webchat")
  if value = "whatsapp".toList then .whatsapp
  else if value = "telegram".toList then .telegram
  else if value = "sms".toList then .sms
  else if value = "email".toList then .email
  else if value = "internal".toList then .internal
  else .webChat

def failure (r : ActionExecutionRequest) (code : String) : HandlerResult :=
  { ok := false, status := "failed", caseContext := some r.caseContext, errorCode := some code }

def executed (status : String) (c : CaseContext)
    (h : status ≠ "confirmation_required" := by decide) : HandlerResult :=
  ⟨true, status, some c, none, h⟩

lemma executed_ne : "executed" ≠ "confirmation_required" := by decide

/-! ## handlers -/

def onSession {α : Type} (m : Work α) : AgentWork α := fun s =>
  match m s.session with
  | (r, session) => (r, { s with session := session })

def ticketCreate (scope : HandlerScope) : Handler AgentRows := fun r => do
  let call : AutoTicketCall :=
    { caseContext := r.caseContext
      customer := scope.customer.map .stored
      sourceChannel := sourceChannel env r.channel
      title := optionalArg env r "title" 200
      description := optionalArg env r "description" 4000
      priority := priorityArg env r
      issueType := optionalArg env r "issue_type" 120 }
  let result ← onSession (createOrReuseTicket env.tickets conversationId call)
  onSession (pointConversation env.tickets result.ticketId)
  pure (executed "executed" result.caseContext)

def handoffRequest : Handler AgentRows := fun r =>
  let reason := textOr (optionalArg env r "reason" 160) "human_review_required"
  match env.handoffError with
  | some e => Txn.raise e
  | none => pure (executed "executed"
      (r.caseContext.markHandoffRequested (some (env.redact (.str reason) 500))))

def timelineEventCreate (scope : HandlerScope) : Handler AgentRows := fun r => do
  let summary := textOr (orText (optionalArg env r "summary" 500) (optionalArg env r "note" 500))
    "OSR internal event"
  Txn.when scope.ticket.isSome (onSession flush)
  Txn.write fun s => { s with notes := s.notes ++ [⟨scope.ticket, summary⟩] }
  pure (executed "executed" r.caseContext)

/-- `enqueue_speedaf_work_order_create_job`; an active job with the key stays the only one. -/
def enqueueWorkOrder (job : WorkOrderJob) : AgentWork Unit := do
  let jobs ← Txn.read AgentRows.jobs
  Txn.when (job ∉ jobs) do
    onSession flush
    Txn.write fun s => { s with jobs := s.jobs ++ [job] }

def workOrderCreate (scope : HandlerScope) : Handler AgentRows := fun r =>
  match scope.ticket with
  | none => pure (failure r "ticket_required")
  | some ticketId =>
    if env.workOrdersEnabled = false then pure (failure r "speedaf_work_order_create_disabled")
    else do
      let contact ← Txn.read fun s =>
        (s.session.pending.tickets.get? ticketId).bind (·.preferredReplyContact)
      let trackingNumber := env.upper (PyStr.stripChars (textOr (r.textArgument "tracking_number") ""))
      let workOrderType :=
        (PyStr.stripChars (textOr (r.textArgument "work_order_type") "WT0103-05")).take 32
      let caller := (PyStr.stripChars (textOr (orText (scope.customer.bind env.phone) contact) "")).take 80
      if trackingNumber = [] then pure (failure r "tracking_number_required")
      else if caller = [] then pure (failure r "customer_contact_required")
      else if workOrderType ≠ "WT0103-05".toList then
        pure (failure r "speedaf_work_order_type_not_allowed")
      else do
        enqueueWorkOrder ⟨ticketId, (env.py.sha256 trackingNumber).take 16, workOrderType⟩
        pure (executed "queued" r.caseContext)

def otherHandler : Handler AgentRows := fun r =>
  match env.outcome r with
  | .error e => Txn.raise e
  | .ok outcome => pure ⟨outcome.ok, outcome.status,
      if outcome.keepsContext = true then some r.caseContext else none, outcome.errorCode,
      outcome.answers⟩

/-- the names of `_EXECUTABLE_TOOL_NAMES` and of the extensions whose handlers are the
environment's. -/
def otherToolNames : List Text :=
  ["knowledge.search", "speedaf.express.track.query", "speedaf.order.query",
    "speedaf.order.waybillCode.query", "support.availability", "integration.search",
    "integration.read", "integration.write", "specialist.delegate"].map String.toList

def coreHandlers (scope : HandlerScope) (toolName : Text) : Option (Handler AgentRows) :=
  if toolName = ticketTool then some (ticketCreate env conversationId scope)
  else if toolName = handoffTool then some (handoffRequest env)
  else if toolName = "timeline.event.create".toList then some (timelineEventCreate env scope)
  else if toolName ∈ otherToolNames.take 5 then some (otherHandler env)
  else none

def buildAgentToolHandlers (scope : HandlerScope) (toolName : Text) : Option (Handler AgentRows) :=
  if toolName = "speedaf.workOrder.create".toList then some (workOrderCreate env scope)
  else if toolName ∈ ["knowledge.search".toList, "support.availability".toList] ∨
      toolName ∈ otherToolNames.drop 5 then
    some (otherHandler env)
  else none

def agentBackend : ToolBackend AgentRows where
  py := env.py
  schemaOk := env.schemaOk
  productionHandlers := coreHandlers env conversationId
  ticketCountry := fun s id => (s.session.flushed.tickets.get? id).map (·.countryCode)
  conversationTicket := fun s => s.session.pending.conversation.ticketId
  conversationChannel := fun _ => env.channelKey
  customerForContext := fun s ticket =>
    match ticket with
    | some t => (s.session.flushed.tickets.get? t).map (·.customerId)
    | none => env.controlCustomer
  saveCaseContext := fun c tenant => onSession (saveCaseContext env.tickets.now c tenant)

end Handlers

end NexusHelpdesk.Osr
