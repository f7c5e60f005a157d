import NexusHelpdesk.Osr.CaseContext
import NexusHelpdesk.Cases.Payload

/-!
# Tools (`webchat_ai_decision_runtime/tool_registry.py`, `agent_tool_contracts.py`,
`webchat_ai_decision_runtime/policy_gate.py`)

* `ToolContract`, `toolContracts`: the registry;
* `RuntimeToolAction`, `runtimeToolActions`: the calls, with bounded arguments;
* `idempotencyKey`: the key of a write tool's call;
* `gateViolations`: what the gate has against a list of calls.

The validator of the JSON schemas is a parameter.
-/

namespace NexusHelpdesk.Osr

open Lib Cases

/-! ## contracts -/

inductive ToolClassification where
  | read | write | system
deriving DecidableEq, Repr

inductive RiskLevel where
  | low | medium | high
deriving DecidableEq, Repr

inductive AutoExecutionMode where
  | auto | policyGated | confirmationRequired | disabled
deriving DecidableEq, Repr

structure ToolContract where
  name : Text
  classification : ToolClassification
  requiredPermissions : List Text := []
  riskLevel : RiskLevel := .low
  confirmationRequired : Bool := false
  allowedAutoExecutionMode : AutoExecutionMode := .auto
deriving DecidableEq, Repr

def ToolContract.isWriteTool (c : ToolContract) : Bool := c.classification ≠ .read

def handoffTool : Text := "handoff.request.create".toList

def ticketTool : Text := "ticket.create".toList

/-- `TOOL_CONTRACTS` with the contracts of the agent extensions. -/
def toolContracts : List ToolContract :=
  [ { name := "knowledge.search".toList, classification := .read
      requiredPermissions := ["knowledge:read".toList] },
    { name := "support.availability".toList, classification := .read
      requiredPermissions := ["webchat:handoff:create".toList] },
    { name := "speedaf.order.query".toList, classification := .read
      requiredPermissions := ["speedaf:tracking:read".toList]
      riskLevel := .medium, allowedAutoExecutionMode := .policyGated },
    { name := "speedaf.express.track.query".toList, classification := .read
      requiredPermissions := ["speedaf:tracking:read".toList]
      riskLevel := .medium, allowedAutoExecutionMode := .policyGated },
    { name := "speedaf.order.waybillCode.query".toList, classification := .read
      requiredPermissions := ["speedaf:tracking:read".toList]
      riskLevel := .medium, allowedAutoExecutionMode := .policyGated },
    { name := handoffTool, classification := .system
      requiredPermissions := ["webchat:handoff:create".toList]
      riskLevel := .medium, allowedAutoExecutionMode := .policyGated },
    { name := ticketTool, classification := .write
      requiredPermissions := ["ticket:create".toList], riskLevel := .medium
      confirmationRequired := true, allowedAutoExecutionMode := .confirmationRequired },
    { name := "conversation.suspend_ai".toList, classification := .system
      requiredPermissions := ["webchat:ai:suspend".toList]
      riskLevel := .medium, allowedAutoExecutionMode := .policyGated },
    { name := "conversation.resume_ai".toList, classification := .system
      requiredPermissions := ["webchat:ai:resume".toList], riskLevel := .medium
      confirmationRequired := true, allowedAutoExecutionMode := .confirmationRequired },
    { name := "speedaf.workOrder.create".toList, classification := .write
      requiredPermissions := ["speedaf:work_order:create".toList]
      riskLevel := .high, allowedAutoExecutionMode := .policyGated },
    { name := "speedaf.order.cancel.request".toList, classification := .write
      requiredPermissions := ["speedaf:order:cancel".toList], riskLevel := .high
      confirmationRequired := true, allowedAutoExecutionMode := .confirmationRequired },
    { name := "speedaf.order.updateAddress.request".toList, classification := .write
      requiredPermissions := ["speedaf:order:update_address".toList], riskLevel := .high
      confirmationRequired := true, allowedAutoExecutionMode := .confirmationRequired },
    { name := "speedaf.voice.callback".toList, classification := .write
      requiredPermissions := ["speedaf:voice:callback".toList], riskLevel := .high
      confirmationRequired := true, allowedAutoExecutionMode := .confirmationRequired },
    { name := "timeline.event.create".toList, classification := .system
      requiredPermissions := ["timeline:event:create".toList]
      allowedAutoExecutionMode := .policyGated },
    { name := "integration.search".toList, classification := .read
      requiredPermissions := ["integration:read".toList] },
    { name := "integration.read".toList, classification := .read
      requiredPermissions := ["integration:read".toList]
      riskLevel := .medium, allowedAutoExecutionMode := .policyGated },
    { name := "integration.write".toList, classification := .write
      requiredPermissions := ["integration:write".toList], riskLevel := .high
      confirmationRequired := true, allowedAutoExecutionMode := .confirmationRequired },
    { name := "specialist.delegate".toList, classification := .read
      riskLevel := .medium, allowedAutoExecutionMode := .policyGated } ]

def canonicalToolName (name : Text) : Text := PyStr.collapse name

def getToolContract (name : Text) : Option ToolContract :=
  toolContracts.find? fun c => c.name = canonicalToolName name

/-! ## calls -/

structure AIDecisionToolCall where
  toolName : Text
  arguments : PyValue

structure RuntimeToolAction where
  toolName : Text
  arguments : List (Text × Json)
deriving DecidableEq

def dictItems : PyValue → List (Text × PyValue)
  | .dict items => items
  | _ => []

def droppedMarkers : List Text :=
  ["token", "secret", "password", "authorization", "api_key"].map String.toList

def droppedKeys : List Text :=
  ["raw", "raw_payload", "provider_payload", "request", "response"].map String.toList

section Calls
variable (py : PyText)

/-- the items of a dictionary that are passed on, with `bound` of their values. -/
def boundedFields (bound : PyValue → Json) (items : List (Text × PyValue)) : List (Text × Json) :=
  ((items.take 80).filterMap fun item =>
    let key := item.1.take 80
    let lowered := py.lower key
    if (droppedMarkers.any fun marker => decide (marker <:+: lowered)) || lowered ∈ droppedKeys then
      none
    else some (key, bound item.2)).foldl setField []

/-- `_bounded_execution_value` with `levels` more levels. -/
def boundedExecutionValue : ℕ → PyValue → Json
  | 0, _ => .str "[truncated]".toList
  | levels + 1, value =>
    match value with
    | .none => .null
    | .bool b => .bool b
    | .int n => .num n
    | .float t => .real t
    | .str s => .str (s.take 4000)
    | .dict items => .obj (boundedFields py (boundedExecutionValue levels) items)
    | .list items => .arr ((items.take 50).map (boundedExecutionValue levels))
    | .other s => .str (s.take 1000)

def boundedExecutionArguments (arguments : List (Text × PyValue)) : List (Text × Json) :=
  boundedFields py (boundedExecutionValue py 4) arguments

def namedCalls (calls : List AIDecisionToolCall) : List (Text × List (Text × PyValue)) :=
  (calls.map fun call => (canonicalToolName call.toolName, dictItems call.arguments)).filter
    fun call => call.1 ≠ []

def runtimeToolAction (call : Text × List (Text × PyValue)) : RuntimeToolAction :=
  ⟨call.1, boundedExecutionArguments py call.2⟩

def runtimeToolActions (calls : List AIDecisionToolCall) : List RuntimeToolAction :=
  (namedCalls calls).map (runtimeToolAction py)

/-! ## keys -/

/-- `str(id or "")[:160]`. -/
def scopeText (id : Option ℤ) : Text :=
  match id with
  | none => []
  | some n => if n = 0 then [] else (Json.intText n).take 160

/-- what a key says of the place of a call. -/
structure ToolScope where
  tenantId : Text
  channel : Text
  countryCode : Text
  conversationId : Text
  ticketId : Text
deriving DecidableEq, Repr

def toolScope (c : CaseContext) (tenantId : Text) (channel countryCode : Option Text) :
    ToolScope where
  tenantId := (if tenantId = [] then "default".toList else tenantId).take 120
  channel := (channel.getD []).take 80
  countryCode := (countryCode.getD []).take 16
  conversationId := scopeText c.conversationId
  ticketId := if scopeText c.conversationId = [] then scopeText c.ticketId else []

def ToolScope.digest (scope : ToolScope) (action : RuntimeToolAction) : Text :=
  py.sha256 (canonicalJson (.obj
    [("tenant_id".toList, .str scope.tenantId), ("channel".toList, .str scope.channel),
      ("country_code".toList, .str scope.countryCode),
      ("conversation_id".toList, .str scope.conversationId),
      ("ticket_id".toList, .str scope.ticketId), ("tool_name".toList, .str action.toolName),
      ("arguments".toList, .obj action.arguments)]))

def idempotencyKey (action : RuntimeToolAction) (scope : ToolScope) : Option Text :=
  match getToolContract action.toolName with
  | none => none
  | some contract => if contract.isWriteTool = true then some (scope.digest py action) else none

end Calls

/-! ## the gate -/

structure GovernedToolExecutionOptions where
  allowHighRiskWriteExecution : Bool := false
  allowedHighRiskWriteTools : List Text := []
  customerConfirmationGranted : Bool := false
  humanConfirmationGranted : Bool := false
  allowedToolNames : Option (List Text) := none
  grantedPermissions : List Text := []

section Gate
variable (schemaOk : Text → List (Text × PyValue) → Bool) (options : GovernedToolExecutionOptions)

/-- `_validate_contract_authority`; confirmations are not enforced here. -/
def authorityViolations (contract : ToolContract) : List String :=
  (if contract.allowedAutoExecutionMode = .disabled then ["tool_disabled"] else []) ++
  (if options.allowedToolNames.isSome = true ∧
      ¬ contract.requiredPermissions ⊆ options.grantedPermissions then
    ["tool_permission_denied"]
  else []) ++
  (if contract.isWriteTool = true ∧ contract.riskLevel = .high ∧
      (options.allowHighRiskWriteExecution = false ∨
        contract.name ∉ options.allowedHighRiskWriteTools) then
    ["high_risk_write_tool_blocked"]
  else [])

def callViolations (call : Text × List (Text × PyValue)) : List String :=
  match getToolContract call.1 with
  | none => ["unknown_tool_blocked"]
  | some contract =>
    if schemaOk contract.name call.2 = false then ["tool_input_schema_invalid"]
    else authorityViolations options contract

/-- `validate_ai_decision` of a list of calls: the codes of the violations. -/
def gateViolations (calls : List AIDecisionToolCall) : List String :=
  (namedCalls calls).flatMap (callViolations schemaOk options)

def registryError (action : RuntimeToolAction) : Option String :=
  match getToolContract action.toolName with
  | none => some "unknown_tool"
  | some contract =>
    match options.allowedToolNames with
    | none => none
    | some allowed =>
      if action.toolName ∉ allowed then some "tool_not_available"
      else if ¬ contract.requiredPermissions ⊆ options.grantedPermissions then
        some "tool_permission_denied"
      else none

end Gate

end NexusHelpdesk.Osr
