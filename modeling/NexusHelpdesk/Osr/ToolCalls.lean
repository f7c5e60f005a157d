import NexusHelpdesk.Osr.AutoTicket
import NexusHelpdesk.Osr.ToolRegistry
import Mathlib.Data.List.MinMax

/-!
# Governed tool calls (`nexus_osr/tool_execution_service_core.py`,
`nexus_osr/controlled_action_executor.py`, `nexus_osr/policies.py`)

* `ToolExecutionPolicyRecord`, `resolveToolExecutionPolicy`, `evaluate`: the policies;
* `executorRefusal`: why the executor does not reach the handler of a tool;
* `ToolBackend`, `ToolDb`: the handlers and the rows around the executor;
* `executeControlledToolCalls`: `execute_controlled_tool_calls` in one conversation.

Beside the rows a `ToolDb` keeps what was answered so far. The audit rows are left out.
-/

namespace NexusHelpdesk.Osr

open Lib Cases

/-! ## policies -/

structure ToolExecutionPolicyRecord where
  toolName : Text
  countryCode : Text := "GLOBAL".toList
  channel : Text := "all".toList
  enabled : Bool := true
  aiAutoExecutable : Bool := false
  riskLevel : Text := "low".toList
  requiresTrackingNumber : Bool := false
  requiresContact : Bool := false
  requiresCustomerConfirmation : Bool := false
  requiresHumanConfirmation : Bool := false
  allowedChannels : List Text := []
  allowedCountries : List Text := []
deriving DecidableEq, Repr

/-- Python's `value or default`. -/
def textOr (value : Option Text) (default : String) : Text :=
  (orText value (some default.toList)).getD []

/-- `_best_scoped_row`: the first of the rows that fit best. -/
def bestScopedRow (rows : List ToolExecutionPolicyRecord) (countryCode channel : Option Text) :
    Option ToolExecutionPolicyRecord :=
  let country := textOr countryCode "GLOBAL"
  let channel := textOr channel "all"
  (rows.filter fun row =>
    (row.countryCode = country || row.countryCode = "GLOBAL".toList) &&
      (row.channel = channel || row.channel = "all".toList)).argmax fun row =>
    (if row.countryCode = country then 2 else 0) + if row.channel = channel then 1 else 0

def resolveToolExecutionPolicy (rows : List ToolExecutionPolicyRecord) (toolName : Text)
    (countryCode channel : Option Text) : Option ToolExecutionPolicyRecord :=
  bestScopedRow (rows.filter fun row => row.toolName = toolName) countryCode channel

structure ToolPolicyDecision where
  allowed : Bool
  reason : String
  requiresCustomerConfirmation : Bool := false
  requiresHumanConfirmation : Bool := false
deriving DecidableEq, Repr

def ToolExecutionPolicyRecord.evaluate (p : ToolExecutionPolicyRecord)
    (channel countryCode : Option Text) (hasTrackingNumber hasContact : Bool) :
    ToolPolicyDecision :=
  if p.enabled = false then ⟨false, "tool_disabled", false, false⟩
  else if p.aiAutoExecutable = false ∧ p.requiresCustomerConfirmation = false ∧
      p.requiresHumanConfirmation = false then
    ⟨false, "tool_not_ai_auto_executable", false, false⟩
  else if p.allowedChannels ≠ [] ∧ channel.getD [] ∉ p.allowedChannels then
    ⟨false, "channel_not_allowed", false, false⟩
  else if p.allowedCountries ≠ [] ∧ countryCode.getD [] ∉ p.allowedCountries then
    ⟨false, "country_not_allowed", false, false⟩
  else if (p.requiresTrackingNumber = true ∧ hasTrackingNumber = false) ∨
      (p.requiresContact = true ∧ hasContact = false) then
    ⟨false, "missing_required_context", false, false⟩
  else ⟨true, "allowed", p.requiresCustomerConfirmation, p.requiresHumanConfirmation⟩

/-! ## the executor -/

structure ActionExecutionRequest where
  action : RuntimeToolAction
  channel : Option Text
  countryCode : Option Text
  caseContext : CaseContext
  idempotencyKey : Option Text
  tenantId : Text
  customerConfirmationGranted : Bool
  humanConfirmationGranted : Bool

def ActionExecutionRequest.hasTrackingNumber (r : ActionExecutionRequest) : Bool :=
  (orText r.caseContext.trackingNumberHash none).isSome ||
    (orText r.caseContext.safeTrackingReference none).isSome

def ActionExecutionRequest.hasContact (r : ActionExecutionRequest) : Bool :=
  r.caseContext.contactMethods ≠ []

structure ActionExecutionResult where
  ok : Bool
  toolName : Text
  status : String
  caseContext : Option CaseContext := none
  errorCode : Option String := none
deriving DecidableEq, Repr

/-- why `ControlledActionExecutor.execute` does not come to the handler: a status and a code. -/
def executorRefusal (py : PyText) (policy : Option ToolExecutionPolicyRecord)
    (allowedHighRisk : List Text) (request : ActionExecutionRequest) : Option (String × String) :=
  match policy with
  | none => some ("blocked", "tool_policy_missing")
  | some policy =>
    let decision := policy.evaluate request.channel request.countryCode request.hasTrackingNumber
      request.hasContact
    if decision.allowed = false then some ("blocked", decision.reason)
    else if py.lower policy.riskLevel = "high".toList ∧ policy.toolName ∉ allowedHighRisk then
      some ("blocked", "high_risk_write_tool_blocked")
    else if decision.requiresCustomerConfirmation = true ∧
        request.customerConfirmationGranted = false then
      some ("confirmation_required", "customer_confirmation_required")
    else if decision.requiresHumanConfirmation = true ∧ request.humanConfirmationGranted = false then
      some ("confirmation_required", "human_confirmation_required")
    else none

/-! ## around the executor -/

structure HandlerResult where
  ok : Bool
  status : String
  caseContext : Option CaseContext
  errorCode : Option String
  /-- only the executor asks for a confirmation. -/
  answers : status ≠ "confirmation_required" := by decide

abbrev Handler (ρ : Type) : Type := ActionExecutionRequest → Txn ρ OsrError HandlerResult

structure HandlerScope where
  ticket : Option ℕ
  customer : Option ℕ

/-- the services on the rows `ρ` of one conversation. -/
structure ToolBackend (ρ : Type) where
  py : PyText
  schemaOk : Text → List (Text × PyValue) → Bool
  productionHandlers : HandlerScope → Text → Option (Handler ρ)
  ticketCountry : ρ → ℕ → Option (Option Text)
  conversationTicket : ρ → Option ℕ
  conversationChannel : ρ → Text
  customerForContext : ρ → Option ℕ → Option ℕ
  saveCaseContext : CaseContext → Text → Txn ρ OsrError Unit

structure ToolCallLog where
  toolName : Text
  requestId : Option Text
  status : String
  webchatConversationId : Option ℤ
  ticketId : Option ℤ
  errorCode : Option String
deriving DecidableEq, Repr

/-- a handler's run that has returned. -/
structure ToolRun where
  action : RuntimeToolAction
  key : Option Text
  ok : Bool
  status : String

inductive ToolAnswer where
  | gate
  | registry
  | duplicate
  | executor
  /-- the handler ran and returned, or raised. -/
  | ran (result : Option ActionExecutionResult)
deriving DecidableEq, Repr

structure ToolEntry where
  action : RuntimeToolAction
  key : Option Text
  /-- the gate and the registry let the action pass. -/
  permitted : Bool
  /-- the runs before it that are not rolled back. -/
  kept : List ToolRun
  answer : ToolAnswer

structure ToolDb (ρ : Type) where
  logs : List ToolCallLog
  policies : List ToolExecutionPolicyRecord
  rows : ρ
  /-- the runs that are not rolled back. -/
  kept : List ToolRun
  entries : List ToolEntry

def ToolDb.change {ρ : Type} (rows : ρ → ρ) (policies : List ToolExecutionPolicyRecord)
    (db : ToolDb ρ) : ToolDb ρ := { db with rows := rows db.rows, policies := policies }

abbrev ToolWork (ρ α : Type) : Type := Txn (ToolDb ρ) OsrError α

structure ToolCallsRequest (ρ : Type) where
  toolCalls : List AIDecisionToolCall
  caseContext : CaseContext
  channel : Option Text := none
  countryCode : Option Text := none
  tenantId : Text := "default".toList
  ticket : Option ℕ := none
  customer : Option ℕ := none
  options : GovernedToolExecutionOptions := {}
  bound : Text → Option (Handler ρ) := fun _ => none

section Execute
variable {ρ : Type} (backend : ToolBackend ρ) (conversationId : ℕ) (request : ToolCallsRequest ρ)

/-- the ticket, channel, country and customer of a request. -/
structure ToolPlace where
  ticket : Option ℕ
  channel : Option Text
  countryCode : Option Text
  customer : Option ℕ

/-- `db.get(Ticket, id)` of a numeric id. -/
def getTicket (rows : ρ) (id : Option ℤ) : Option ℕ :=
  match id with
  | none => none
  | some n =>
    if 0 ≤ n ∧ (backend.ticketCountry rows n.toNat).isSome = true then some n.toNat else none

def toolPlace (rows : ρ) : ToolPlace :=
  let c := request.caseContext
  let ticket := (request.ticket.or (getTicket backend rows c.ticketId)).or
    (getTicket backend rows ((backend.conversationTicket rows).map Int.ofNat))
  { ticket := ticket
    channel := orText request.channel
      (orText c.channel (some (backend.conversationChannel rows)))
    countryCode := match request.countryCode with
      | some country => some country
      | none => orText c.countryCode (ticket.bind fun t => (backend.ticketCountry rows t).join)
    customer := match request.customer with
      | some customer => some customer
      | none => backend.customerForContext rows ticket }

def existingExecutedLog (logs : List ToolCallLog) (action : RuntimeToolAction)
    (key : Option Text) : Option ToolCallLog :=
  match key with
  | none => none
  | some key => (logs.filter fun log =>
      log.toolName = action.toolName && log.requestId = some key && log.status = "executed" &&
        log.webchatConversationId = some (conversationId : ℤ)).getLast?

def writeToolCallLog (place : ToolPlace) (c : CaseContext) (action : RuntimeToolAction)
    (key : Option Text) (result : ActionExecutionResult) : ToolWork ρ Unit :=
  Txn.write fun s => { s with logs := s.logs ++ [{
    toolName := action.toolName
    requestId := key
    status := result.status
    webchatConversationId := some conversationId
    ticketId := match place.ticket with
      | some t => some t
      | none => c.ticketId.filter fun n => 0 ≤ n
    errorCode := result.errorCode }] }

def onRows {α : Type} (m : Txn ρ OsrError α) : ToolWork ρ α := fun s =>
  match m s.rows with
  | (r, rows) => (r, { s with rows := rows })

def noteAnswer (action : RuntimeToolAction) (key : Option Text) (permitted : Bool)
    (answer : ToolAnswer) : ToolWork ρ Unit :=
  Txn.write fun s => { s with entries := s.entries ++ [⟨action, key, permitted, s.kept, answer⟩] }

def runHandler (handler : Handler ρ) (r : ActionExecutionRequest) :
    ToolWork ρ ActionExecutionResult := fun s =>
  match handler r s.rows with
  | (.ok result, rows) =>
    let result : ActionExecutionResult :=
      ⟨result.ok, r.action.toolName, result.status, result.caseContext, result.errorCode⟩
    (.ok result, { s with
      rows := rows
      kept := s.kept ++ [⟨r.action, r.idempotencyKey, result.ok, result.status⟩]
      entries := s.entries ++
        [⟨r.action, r.idempotencyKey, true, s.kept, .ran (some result)⟩] })
  | (.error e, rows) =>
    (.error e, { s with
      rows := rows
      entries := s.entries ++ [⟨r.action, r.idempotencyKey, true, s.kept, .ran none⟩] })

def execute (policy : Option ToolExecutionPolicyRecord) (allowedHighRisk : List Text)
    (handler : Option (Handler ρ)) (r : ActionExecutionRequest) :
    ToolWork ρ ActionExecutionResult :=
  match executorRefusal backend.py policy allowedHighRisk r with
  | some (status, code) => do
    noteAnswer r.action r.idempotencyKey true .executor
    pure ⟨false, r.action.toolName, status, none, some code⟩
  | none =>
    match handler with
    | none => do
      noteAnswer r.action r.idempotencyKey true .executor
      pure ⟨false, r.action.toolName, "blocked", none, some "tool_handler_missing"⟩
    | some handler => runHandler handler r

def actionRequest (place : ToolPlace) (c : CaseContext) (action : RuntimeToolAction)
    (key : Option Text) : ActionExecutionRequest where
  action := action
  channel := place.channel
  countryCode := place.countryCode
  caseContext := c
  idempotencyKey := key
  tenantId := request.tenantId
  customerConfirmationGranted := request.options.customerConfirmationGranted
  humanConfirmationGranted := request.options.humanConfirmationGranted

def actionPolicy (policies : List ToolExecutionPolicyRecord) (place : ToolPlace)
    (action : RuntimeToolAction) : Option ToolExecutionPolicyRecord :=
  resolveToolExecutionPolicy policies action.toolName place.countryCode place.channel

def GovernedToolExecutionOptions.highRiskTools (options : GovernedToolExecutionOptions) :
    List Text :=
  if options.allowHighRiskWriteExecution = true then options.allowedHighRiskWriteTools else []

/-- a handler that is bound goes before the core's. -/
def actionHandler (place : ToolPlace) (action : RuntimeToolAction) : Option (Handler ρ) :=
  (request.bound action.toolName).or
    (backend.productionHandlers ⟨place.ticket, place.customer⟩ action.toolName)

/-- the rest of an action that no earlier run answers. -/
def executeFresh (place : ToolPlace) (c : CaseContext) (action : RuntimeToolAction)
    (key : Option Text) : ToolWork ρ (ActionExecutionResult × CaseContext) := do
  let policies ← Txn.read ToolDb.policies
  let result ← execute backend (actionPolicy policies place action) request.options.highRiskTools
    (actionHandler backend request place action) (actionRequest request place c action key)
  match result.caseContext with
  | some next => do
    onRows (backend.saveCaseContext next request.tenantId)
    writeToolCallLog conversationId place next action key result
    pure (result, next)
  | none => do
    writeToolCallLog conversationId place c action key result
    pure (result, c)

def keyOfAction (place : ToolPlace) (c : CaseContext) (action : RuntimeToolAction) : Option Text :=
  idempotencyKey backend.py action (toolScope c request.tenantId place.channel place.countryCode)

def refuseAction (place : ToolPlace) (c : CaseContext) (action : RuntimeToolAction)
    (key : Option Text) (answer : ToolAnswer) (code : String) :
    ToolWork ρ ActionExecutionResult := do
  noteAnswer action key false answer
  let result : ActionExecutionResult := ⟨false, action.toolName, "blocked", some c, some code⟩
  writeToolCallLog conversationId place c action key result
  pure result

def executeAction (place : ToolPlace) (c : CaseContext) (action : RuntimeToolAction) :
    ToolWork ρ (ActionExecutionResult × CaseContext) :=
  let key := keyOfAction backend request place c action
  match registryError request.options action with
  | some code => do
    -- `_blocked_by_registry`
    let result ← refuseAction conversationId place c action key .registry code
    pure (result, c)
  | none => do
    let logs ← Txn.read ToolDb.logs
    match existingExecutedLog conversationId logs action key with
    | some log => do
      noteAnswer action key true .duplicate
      pure (⟨true, action.toolName, "duplicate", some c, none⟩, c)
    | none => executeFresh backend conversationId request place c action key

def executeActions (place : ToolPlace) :
    CaseContext → List RuntimeToolAction → ToolWork ρ (List ActionExecutionResult)
  | _, [] => pure []
  | c, action :: rest => do
    let r ← executeAction backend conversationId request place c action
    let results ← executeActions place r.2 rest
    pure (r.1 :: results)

/-- every action of a request that the gate has refused. -/
def blockActions (place : ToolPlace) (code : String) :
    List RuntimeToolAction → ToolWork ρ (List ActionExecutionResult)
  | [] => pure []
  | action :: rest => do
    -- `_blocked_by_policy_gate`
    let c := request.caseContext
    let result ← refuseAction conversationId place c action
      (keyOfAction backend request place c action) .gate code
    let results ← blockActions place code rest
    pure (result :: results)

def executeControlledToolCalls : ToolWork ρ (List ActionExecutionResult) := do
  let actions := runtimeToolActions backend.py request.toolCalls
  let place ← Txn.read fun s => toolPlace backend request s.rows
  match gateViolations backend.schemaOk request.options request.toolCalls with
  | code :: _ => blockActions backend conversationId request place code actions
  | [] => executeActions backend conversationId request place request.caseContext actions

end Execute

end NexusHelpdesk.Osr
