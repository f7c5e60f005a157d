import NexusHelpdesk.Osr.ToolCalls

/-!
# The Agent's tool calls (`agent_runtime/tool_adapter.py`, `agent_confirmation_service.py`)

* `AgentToolConfirmation`: a question to the customer, for one tool and one digest of arguments;
* `createOrReuseConfirmation`, `resolveConfirmation`, `consumeConfirmation`: the service on them;
* `executeOne`: `_execute_one`, one call under the confirmation that fits it;
* `executeAgentToolCalls`: the calls of one round, each from the same context.

A call has passed `AIDecisionToolCall`: its name is a canonical one.
-/

namespace NexusHelpdesk.Osr

open Lib Cases

/-! ## arguments -/

mutual

def pyJson : PyValue → Json
  | .none => .null
  | .bool b => .bool b
  | .int n => .num n
  | .float t => .real t
  | .str s => .str s
  | .list items => .arr (pyJsonItems items)
  | .dict items => .obj (pyJsonFields items)
  | .other s => .str s

def pyJsonItems : List PyValue → List Json
  | [] => []
  | v :: items => pyJson v :: pyJsonItems items

def pyJsonFields : List (Text × PyValue) → List (Text × Json)
  | [] => []
  | (k, v) :: items => (k, pyJson v) :: pyJsonFields items

end

def toolArgumentsSha256 (py : PyText) (arguments : List (Text × PyValue)) : Text :=
  py.sha256 (canonicalJson (.obj (pyJsonFields arguments)))

structure AgentToolCall where
  contract : ToolContract
  registered : contract ∈ toolContracts
  arguments : List (Text × PyValue)

def AgentToolCall.toolName (call : AgentToolCall) : Text := call.contract.name

def AgentToolCall.toCall (call : AgentToolCall) : AIDecisionToolCall :=
  ⟨call.toolName, .dict call.arguments⟩

/-! ## confirmations -/

inductive ConfirmationStatus where
  | pending | confirmed | denied | expired | consumed | cancelled
deriving DecidableEq, Repr

def ConfirmationStatus.isActive (s : ConfirmationStatus) : Bool := s = .pending || s = .confirmed

structure AgentToolConfirmation where
  tenantKey : Text
  toolName : Text
  argumentsSha256 : Text
  /-- the call that was asked for; its arguments are stored encrypted. -/
  call : AgentToolCall
  status : ConfirmationStatus
  requestedMessageId : Option ℕ
  responseMessageId : Option ℕ
  expiresAt : Instant

def confirmationTtl : ℤ := seconds 600

inductive ConfirmationDecision where
  | confirmed | denied | ambiguous
deriving DecidableEq, Repr

def positiveResponses : List Text :=
  ["yes", "yes please", "please do", "go ahead", "do it", "confirm", "confirmed", "ok", "okay",
    "sure", "ja", "bitte", "oui", "d accord", "si", "sì", "sim", "da", "moze", "može", "可以",
    "可以的", "好的", "好", "同意", "确认", "是", "要", "请创建", "创建吧"].map String.toList

def negativeResponses : List Text :=
  ["no", "no thanks", "do not", "dont", "don't", "cancel", "never mind", "nein", "non", "nope",
    "nao", "não", "ne", "nemoj", "不", "不要", "不用", "取消", "不需要", "先不用"].map
    String.toList

/-- `classify_customer_confirmation` of a normalized response. -/
def classifyResponse (normalized : Text) : ConfirmationDecision :=
  if normalized ∈ positiveResponses then .confirmed
  else if normalized ∈ negativeResponses then .denied
  else .ambiguous

/-! ## the state -/

/-- a call with the confirmations before it and its answer. -/
structure AgentCallEntry where
  call : AgentToolCall
  now : Instant
  confirmations : Table AgentToolConfirmation
  /-- the confirmation that the call is made under. -/
  grant : Option ℕ
  /-- the executor's answer, where the call gets to it. -/
  answer : Option ToolAnswer
  result : Option ActionExecutionResult
  /-- the transaction of the call was rolled back. -/
  undone : Bool

structure AgentDb (ρ : Type) where
  tools : ToolDb ρ
  confirmations : Table AgentToolConfirmation
  /-- the visitor's messages, as `_normalize_response` leaves them; the first has the id 1. -/
  messages : List Text
  now : Instant
  calls : List AgentCallEntry

abbrev AgentToolWork (ρ α : Type) : Type := Txn (AgentDb ρ) OsrError α

/-- the services around the calls of one conversation. -/
structure AgentRuntime (ρ : Type) where
  backend : ToolBackend ρ
  conversationId : ℕ
  tenantKey : Text
  /-- `build_agent_tool_handlers`. -/
  agentHandlers : HandlerScope → Text → Option (Handler ρ)
  ticketCustomer : ρ → ℕ → Option ℕ
  /-- `ensure_data_processing_allowed` raises for the customer. -/
  restricted : ρ → Option ℕ → Bool
  /-- `extract_tracking_reference`: the reference and the digest of the number. -/
  trackingReference : Text → Option (Text × Text)
  redact : Text → ℕ → Text

structure AgentExecutionContext where
  channelKey : Text
  customerMessage : Text
  ticketId : Option ℕ
  customerId : Option ℕ
  countryCode : Option Text
  allowedTools : List Text
  grantedPermissions : List Text
  humanConfirmationGranted : Bool
  allowHighRiskWrites : Bool

/-! ## services on confirmations -/

section Confirmations
variable {ρ : Type} (py : PyText)

def AgentDb.setConfirmation (id : ℕ) (f : AgentToolConfirmation → AgentToolConfirmation)
    (s : AgentDb ρ) : AgentDb ρ := { s with confirmations := s.confirmations.modify id f }

def activeConfirmation (rows : Table AgentToolConfirmation) : Option (ℕ × AgentToolConfirmation) :=
  (rows.select fun _ row => row.status.isActive).head?

/-- `expire_confirmation_if_needed` of an active row. -/
def AgentToolConfirmation.isDue (now : Instant) (row : AgentToolConfirmation) : Bool :=
  row.expiresAt ≤ now

def withStatus (status : ConfirmationStatus) (row : AgentToolConfirmation) :
    AgentToolConfirmation := { row with status := status }

def AgentToolConfirmation.isAbout (call : AgentToolCall) (row : AgentToolConfirmation) : Bool :=
  row.toolName = call.toolName && row.argumentsSha256 = toolArgumentsSha256 py call.arguments

/-- the row that `_active_exact_confirmation` finds. -/
def exactConfirmation (rows : Table AgentToolConfirmation) (call : AgentToolCall) :
    Option (ℕ × AgentToolConfirmation) :=
  (rows.select fun _ row => row.status = .confirmed && row.isAbout py call).getLast?

/-- the confirmation that the call is made under, with what `_active_exact_confirmation` leaves. -/
def takeExactConfirmation (tenantKey : Text) (call : AgentToolCall) (s : AgentDb ρ) :
    Option ℕ × AgentDb ρ :=
  match exactConfirmation py s.confirmations call with
  | none => (none, s)
  | some (id, row) =>
    if row.isDue s.now = true then (none, s.setConfirmation id (withStatus .expired))
    else if row.tenantKey ≠ tenantKey then (none, s)
    else (some id, s)

/-- the row is about another call, or is answered: it makes room. -/
def retireConfirmation (call : AgentToolCall) (s : AgentDb ρ) : AgentDb ρ :=
  match activeConfirmation s.confirmations with
  | none => s
  | some (id, row) =>
    s.setConfirmation id (withStatus (if row.isDue s.now = true then .expired else .cancelled))

/-- the pending row that asks the same. -/
def reusableConfirmation (call : AgentToolCall) (s : AgentDb ρ) : Option ℕ :=
  match activeConfirmation s.confirmations with
  | none => none
  | some (id, row) =>
    if row.isDue s.now = false ∧ row.status = .pending ∧ row.isAbout py call = true then some id
    else none

/-- `_latest_visitor_message_id`. -/
def AgentDb.latestMessage (s : AgentDb ρ) : Option ℕ :=
  if s.messages = [] then none else some s.messages.length

def createOrReuseConfirmation (tenantKey : Text) (call : AgentToolCall) (s : AgentDb ρ) :
    AgentDb ρ :=
  match reusableConfirmation py call s with
  | some id => s.setConfirmation id fun row => { row with
      expiresAt := s.now + confirmationTtl
      requestedMessageId := s.latestMessage.or row.requestedMessageId }
  | none =>
    let s := retireConfirmation call s
    { s with confirmations := s.confirmations.insert {
        tenantKey := tenantKey
        toolName := call.toolName
        argumentsSha256 := toolArgumentsSha256 py call.arguments
        call := call
        status := .pending
        requestedMessageId := s.latestMessage
        responseMessageId := none
        expiresAt := s.now + confirmationTtl } }

def consumeConfirmation (id : ℕ) (s : AgentDb ρ) : AgentDb ρ :=
  s.setConfirmation id (withStatus .consumed)

def resolveConfirmation (messageId : ℕ) (body : Text) (s : AgentDb ρ) : AgentDb ρ :=
  match activeConfirmation s.confirmations with
  | none => s
  | some (id, row) =>
    if row.isDue s.now = true then s.setConfirmation id (withStatus .expired)
    else if row.status ≠ .pending then s
    else
      match classifyResponse body with
      | .confirmed => s.setConfirmation id fun row =>
          { row with status := .confirmed, responseMessageId := some messageId }
      | .denied => s.setConfirmation id fun row =>
          { row with status := .denied, responseMessageId := some messageId }
      | .ambiguous => s

end Confirmations

/-! ## calls -/

section Calls
variable {ρ : Type} (rt : AgentRuntime ρ) (ctx : AgentExecutionContext)

def startContext : CaseContext :=
  let found := rt.trackingReference ctx.customerMessage
  { conversationId := some rt.conversationId
    ticketId := ctx.ticketId.map Int.ofNat
    channel := some ctx.channelKey
    countryCode := ctx.countryCode
    safeTrackingReference := found.map Prod.fst
    trackingNumberHash := found.map Prod.snd
    customerClaimSummary := orText (some (rt.redact ctx.customerMessage 240)) none }

/-- `db.get(Ticket, context.ticket_id)`. -/
def contextTicket (rows : ρ) : Option ℕ :=
  getTicket rt.backend rows (ctx.ticketId.map Int.ofNat)

/-- the customer whose data a call works on. -/
def subjectCustomer (rows : ρ) : Option ℕ :=
  match ctx.customerId with
  | some customer => some customer
  | none => (contextTicket rt ctx rows).bind (rt.ticketCustomer rows)

def executionOptions (granted : Bool) : GovernedToolExecutionOptions where
  allowHighRiskWriteExecution := ctx.allowHighRiskWrites
  allowedHighRiskWriteTools := if ctx.allowHighRiskWrites = true then ctx.allowedTools else []
  customerConfirmationGranted := granted
  humanConfirmationGranted := ctx.humanConfirmationGranted
  allowedToolNames := some ctx.allowedTools
  grantedPermissions := ctx.grantedPermissions

def toolRequest (rows : ρ) (call : AgentToolCall) (granted : Bool) : ToolCallsRequest ρ where
  toolCalls := [call.toCall]
  caseContext := startContext rt ctx
  channel := some ctx.channelKey
  countryCode := ctx.countryCode
  tenantId := rt.tenantKey
  ticket := contextTicket rt ctx rows
  customer := ctx.customerId
  options := executionOptions ctx granted
  bound := rt.agentHandlers ⟨contextTicket rt ctx rows, ctx.customerId⟩

def restrictedResult (call : AgentToolCall) : ActionExecutionResult :=
  ⟨false, call.toolName, "blocked", some (startContext rt ctx), some "data_processing_restricted"⟩

def missingResult (call : AgentToolCall) : ActionExecutionResult :=
  ⟨false, call.toolName, "failed", none, some "tool_execution_result_missing"⟩

def ActionExecutionResult.asksCustomer (r : ActionExecutionResult) : Bool :=
  r.status = "confirmation_required" && r.errorCode = some "customer_confirmation_required"

def settleResult (call : AgentToolCall) (grant : Option ℕ) (result : ActionExecutionResult)
    (s : AgentDb ρ) : AgentDb ρ :=
  if result.asksCustomer = true then
    createOrReuseConfirmation rt.backend.py rt.tenantKey call s
  else if result.ok = true then
    match grant with
    | some id => consumeConfirmation id s
    | none => s
  else s

/-- the entry of a call that was started in `before` and whose tools are `tools` now. -/
def callEntry (call : AgentToolCall) (grant : Option ℕ) (before : AgentDb ρ) (tools : ToolDb ρ)
    (result : Option ActionExecutionResult) : AgentCallEntry where
  call := call
  now := before.now
  confirmations := before.confirmations
  grant := grant
  answer := (tools.entries.drop before.tools.entries.length).head?.map ToolEntry.answer
  result := result
  undone := false

/-- the confirmation that a call is made under: only a tool that needs one looks for it. -/
def takeConfirmation (call : AgentToolCall) (s : AgentDb ρ) : Option ℕ × AgentDb ρ :=
  if call.contract.confirmationRequired = true then
    takeExactConfirmation rt.backend.py rt.tenantKey call s
  else (none, s)

def executeOne (call : AgentToolCall) : AgentToolWork ρ ActionExecutionResult := fun s =>
  if rt.restricted s.tools.rows (subjectCustomer rt ctx s.tools.rows) = true then
    (.ok (restrictedResult rt ctx call), { s with
      calls := s.calls ++ [callEntry call none s s.tools (some (restrictedResult rt ctx call))] })
  else
    let taken := takeConfirmation rt call s
    match executeControlledToolCalls rt.backend rt.conversationId
        (toolRequest rt ctx s.tools.rows call taken.1.isSome) s.tools with
    | (.error e, tools) =>
      (.error e, { taken.2 with
        tools := tools, calls := s.calls ++ [callEntry call taken.1 s tools none] })
    | (.ok results, tools) =>
      let result := results.head?.getD (missingResult call)
      (.ok result, settleResult rt call taken.1 result { taken.2 with
        tools := tools, calls := s.calls ++ [callEntry call taken.1 s tools (some result)] })

/-- `_execute_with_db`. -/
def executeAgentToolCalls : List AgentToolCall → AgentToolWork ρ (List ActionExecutionResult)
  | [] => pure []
  | call :: rest => do
    let result ← executeOne rt ctx call
    let results ← executeAgentToolCalls rest
    pure (result :: results)

end Calls

end NexusHelpdesk.Osr
