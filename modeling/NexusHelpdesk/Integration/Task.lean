import NexusHelpdesk.Desk.Basic
import NexusHelpdesk.Lib.Json
import NexusHelpdesk.Lib.Run
import NexusHelpdesk.Lib.WriteBack

/-!
# POST /task (`integration_runtime.py`, `integration_auth.py`)

The requests of one client under one Idempotency-Key, and the log row of that key.  A header that is
empty counts as none, so the key is a text that is not empty.

* `checkRequest`: what is checked before the key is reserved: scope, rate limit and tenant;
* `beginIntegrationIdempotency`: the key is reserved, or its row is classified;
* `taskSession`: the managed session of a request, as one step;
* `recordIntegrationError`: the error of a request, in a transaction of its own;
* `TaskWorld`, `taskStep`: requests under the key in any order.

What a session finds or creates in the ticket tables is its `TaskWork`.
-/

namespace NexusHelpdesk.Integration

open Lib

abbrev Text := List Char

abbrev Payload := List (Text × Json)

def str (s : String) : Json := .str s.toList

def field (k : String) (p : Payload) : Option Json :=
  (p.find? fun f => f.1 == k.toList).map Prod.snd

/-! ## requests -/

/-- `IntegrationTaskRequest`; the keys of the metadata are sorted. -/
structure TaskRequest where
  contactId : Text
  channel : Text
  summary : Text
  trackingNumber : Option Text
  priority : Text
  description : Option Text
  metadata : Option Payload
  countryCode : Option Text
  marketCode : Option Text
  tenantKey : Option Text

def optional (t : Option Text) : Json :=
  match t with
  | some t => .str t
  | none => .null

/-- `payload.model_dump()` with sorted keys. -/
def TaskRequest.dump (r : TaskRequest) : Json :=
  .obj [
    ("channel".toList, .str r.channel),
    ("contact_id".toList, .str r.contactId),
    ("country_code".toList, optional r.countryCode),
    ("description".toList, optional r.description),
    ("market_code".toList, optional r.marketCode),
    ("metadata".toList, match r.metadata with
      | some fields => .obj fields
      | none => .null),
    ("priority".toList, .str r.priority),
    ("summary".toList, .str r.summary),
    ("tenant_key".toList, optional r.tenantKey),
    ("tracking_number".toList, optional r.trackingNumber)]

structure TaskEnv where
  sha256 : Text → Text
  /-- `str.lower()`. -/
  lower : Text → Text

def TaskEnv.requestHash (env : TaskEnv) (r : TaskRequest) : Text := env.sha256 r.dump.text

inductive ScopeType where
  | tenant | platform
deriving DecidableEq, Repr

structure IntegrationClient where
  scopes : List String
  rateLimitPerMinute : ℤ
  scopeType : ScopeType
  tenantId : Option ℕ
deriving DecidableEq, Repr

structure Tenant where
  id : ℕ
  tenantKey : Text
  isActive : Bool
deriving DecidableEq, Repr

/-- what the session of a request finds behind the reservation of the key. -/
inductive TaskWork where
  | existing (ticketNo : Text)
  | created (ticketNo : Text)
  | fails (e : HTTPException)
  /-- any other exception, or the end of the process. -/
  | crashes
deriving DecidableEq, Repr

/-- what a request reads beside the row of the key. -/
structure TaskView where
  client : IntegrationClient
  /-- the log rows of the client for the endpoint in the last minute. -/
  recent : ℕ
  tenants : List Tenant
  work : TaskWork
deriving DecidableEq, Repr

/-- `require_scope` for `task.write`. -/
def requireScope (c : IntegrationClient) : Except HTTPException Unit :=
  let required := match c.scopeType with
    | .platform => "platform.task.write"
    | .tenant => "task.write"
  if required ∈ c.scopes then .ok () else .error ⟨403, "Integration scope not allowed"⟩

def enforceRateLimit (c : IntegrationClient) (recent : ℕ) : Except HTTPException Unit :=
  if c.rateLimitPerMinute ≤ 0 then .ok ()
  else if c.rateLimitPerMinute ≤ recent then .error ⟨429, "Integration rate limit exceeded"⟩
  else .ok ()

def principalTenant (env : TaskEnv) (c : IntegrationClient) (tenants : List Tenant)
    (requestedTenantKey : Option Text) : Except HTTPException Tenant :=
  let requested := env.lower (PyStr.stripChars (requestedTenantKey.getD []))
  match c.scopeType with
  | .tenant =>
    match (tenants.find? fun t => c.tenantId == some t.id).filter (·.isActive) with
    | none => .error ⟨403, "integration_principal_tenant_unavailable"⟩
    | some tenant =>
      if requested ≠ [] ∧ requested ≠ tenant.tenantKey then
        .error ⟨403, "integration_requested_tenant_not_authorized"⟩
      else .ok tenant
  | .platform =>
    if requested = [] then .error ⟨400, "platform_integration_requires_tenant_key"⟩
    else
      match tenants.find? fun t => t.tenantKey == requested && t.isActive with
      | none => .error ⟨404, "integration_target_tenant_not_found"⟩
      | some tenant => .ok tenant

def checkRequest (env : TaskEnv) (v : TaskView) (r : TaskRequest) : Except HTTPException Unit := do
  requireScope v.client
  enforceRateLimit v.client v.recent
  let _ ← principalTenant env v.client v.tenants r.tenantKey

/-! ## the row of the key -/

/-- `IntegrationRequestLog` for the client, the endpoint and the key; the response is decoded. -/
structure LogRow where
  requestHash : Option Text
  statusCode : Option ℕ
  errorCode : Option String
  responseJson : Option Payload
deriving DecidableEq

inductive IdempotencyBegin where
  | owner (row : LogRow)
  | replay (response : Payload)
  | processing
  | conflict
  | failed (errorCode : String)

/-- `row.request_hash and row.request_hash != request_hash`. -/
def LogRow.isOther (row : LogRow) (requestHash : Text) : Bool :=
  row.requestHash.any fun h => h ≠ [] && h ≠ requestHash

def classifyIdempotencyRow (row : LogRow) (requestHash : Text) : IdempotencyBegin :=
  if row.isOther requestHash then .conflict
  else
    match row.responseJson with
    | some response => .replay response
    | none =>
      if row.statusCode = none then .processing
      else .failed (row.errorCode.getD "request_failed")

def beginIntegrationIdempotency (row : Option LogRow) (requestHash : Text) : IdempotencyBegin :=
  match row with
  | some row => classifyIdempotencyRow row requestHash
  | none => .owner ⟨some requestHash, none, none, none⟩

inductive Answer where
  | dict (payload : Payload)
  | json (statusCode : ℕ) (payload : Payload)
deriving DecidableEq

def Answer.caseRef (a : Answer) : Option Json :=
  match a with
  | .dict payload => field "case_ref" payload
  | .json _ payload => field "case_ref" payload

def refusal (statusCode : ℕ) (errorCode : String) : Answer :=
  .json statusCode [("ok".toList, .bool false), ("error_code".toList, str errorCode)]

/-- `_idempotency_begin_response`; a stored response has no field `idempotent` yet. -/
def beginResponse (b : IdempotencyBegin) : Option Answer :=
  match b with
  | .owner _ => none
  | .replay response => some (.dict (response ++ [("idempotent".toList, .bool true)]))
  | .processing =>
    some (.json 202 [("ok".toList, .bool false), ("error_code".toList, str "request_processing"),
      ("retry_after_ms".toList, .num 1500)])
  | .conflict => some (refusal 409 "idempotency_key_reused_with_different_payload")
  | .failed code => some (refusal 409 code)

def loggedFields : List String := ["ok", "case_ref", "status", "message", "error_code", "detail"]

/-- `_safe_log_payload` for the endpoint `integration.task`. -/
def safeLogPayload (p : Payload) : Payload :=
  ("schema".toList, str "nexus.integration-response-log.v2") ::
    (loggedFields.filterMap fun k => (field k p).map fun v => (k.toList, v)) ++
      [("pii_persisted".toList, .bool false)]

/-- `record_integration_response` under a key: the row afterwards. -/
def recordIntegrationResponse (row : Option LogRow) (requestHash : Text) (statusCode : ℕ)
    (payload : Payload) (errorCode : Option String) : LogRow :=
  let new : LogRow :=
    ⟨some requestHash, some statusCode, errorCode, some (safeLogPayload payload)⟩
  match row with
  | some existing =>
    if requestHash ≠ [] ∧ existing.isOther requestHash = true ∧
        existing.responseJson.isSome = true then existing
    else new
  | none => new

def errorCodeFromStatus (statusCode : ℕ) : String :=
  match statusCode with
  | 400 => "bad_request"
  | 401 => "unauthorized"
  | 403 => "forbidden"
  | 404 => "not_found"
  | 409 => "conflict"
  | 429 => "rate_limited"
  | 503 => "unavailable"
  | _ => "error"

def errorPayload (e : HTTPException) : Payload :=
  [("ok".toList, .bool false), ("detail".toList, str e.detail)]

def recordIntegrationError (row : Option LogRow) (requestHash : Text) (e : HTTPException) :
    LogRow :=
  recordIntegrationResponse row requestHash e.statusCode (errorPayload e)
    (some (errorCodeFromStatus e.statusCode))

def existingResponse (ticketNo : Text) : Payload :=
  [("ok".toList, .bool true), ("case_ref".toList, .str ticketNo), ("status".toList, str "existing"),
    ("message".toList, str "Matching open task already exists in Resolution Center.")]

def createdResponse (ticketNo : Text) : Payload :=
  [("ok".toList, .bool true), ("case_ref".toList, .str ticketNo), ("status".toList, str "created"),
    ("message".toList, str "Task escalated to Resolution Center successfully.")]

inductive SessionEnd where
  /-- the row of the key answers and nothing is written. -/
  | found (answer : Option Answer)
  /-- the key was reserved and its row now has the response. -/
  | done (row : LogRow) (answer : Answer) (ticketNo : Text) (isNew : Bool)
  | raised (e : HTTPException)
  | crashed

/-- `nexusdesk_escalate_task` up to the end of its managed session. -/
def taskSession (env : TaskEnv) (row : Option LogRow) (v : TaskView) (r : TaskRequest) :
    SessionEnd :=
  match checkRequest env v r with
  | .error e => .raised e
  | .ok () =>
    match beginIntegrationIdempotency row (env.requestHash r) with
    | .owner reserved =>
      match v.work with
      | .existing no =>
        .done (recordIntegrationResponse (some reserved) (env.requestHash r) 200
          (existingResponse no) none) (.dict (existingResponse no)) no false
      | .created no =>
        .done (recordIntegrationResponse (some reserved) (env.requestHash r) 200
          (createdResponse no) none) (.dict (createdResponse no)) no true
      | .fails e => .raised e
      | .crashes => .crashed
    | begun => .found (beginResponse begun)

/-! ## requests in any order -/

/-- a request whose session was rolled back with an error that is not recorded yet. -/
structure Rejected where
  request : TaskRequest
  error : HTTPException
  /-- it was refused before it reserved the key. -/
  refused : Bool

structure TaskWorld where
  row : Option LogRow
  /-- the tickets created under the key. -/
  tickets : List Text
  /-- the requests that were answered with a created or an existing ticket. -/
  answered : List (TaskRequest × Text)
  rejected : InHand ℕ Rejected

def TaskWorld.start : TaskWorld := ⟨none, [], [], InHand.empty⟩

inductive TaskStep where
  | session (t : ℕ) (r : TaskRequest) (v : TaskView)
  | recordError (t : ℕ)
  /-- request `t` ends before its error is recorded. -/
  | crash (t : ℕ)

def taskStep (env : TaskEnv) : TaskStep → TaskWorld → TaskWorld
  | .session t r v, w =>
    match taskSession env w.row v r with
    | .found _ => w
    | .done row _ no isNew =>
      { w with
        row := some row
        tickets := if isNew then no :: w.tickets else w.tickets
        answered := (r, no) :: w.answered }
    | .raised e =>
      let refused := match checkRequest env v r with
        | .ok () => false
        | .error _ => true
      { w with rejected := w.rejected.take t ⟨r, e, refused⟩ }
    | .crashed => w
  | .recordError t, w =>
    match w.rejected t with
    | some x =>
      { w with
        row := some (recordIntegrationError w.row (env.requestHash x.request) x.error)
        rejected := w.rejected.release t }
    | none => w
  | .crash t, w => { w with rejected := w.rejected.release t }

end NexusHelpdesk.Integration
