import NexusHelpdesk.Jobs.Lease
import NexusHelpdesk.Outbound.Restriction

/-!
# Replies over WhatsApp without a ticket (`webchat_channel_delivery_service.py`)

A reply on a conversation that has no ticket is queued as a background job, which sends it.

* `queueTicketlessWhatsappDelivery`: the purpose and the route are found, the job is enqueued;
* `preflight`, `prepared`: the checks of `process_ticketless_whatsapp_delivery_job` before its `try`
  and inside it, up to the call of the provider;
* `handleFailure`, `processDelivery`: what an attempt writes, `process_background_job` included,
  which turns every exception into a retry of the job and keeps what the session has in hand;
* `deriveJobScopeValues`, `requireExecutableScope`: `background_job_scope.py` and
  `background_job_execution_scope.py` for the payload of this job;
* `DeliveryWorld`, `DeliveryStep`, `deliveryStep`: a reply, its job, the workers and everything that
  an attempt reads.  The check of the lease and the commit after it are one step here.
-/

namespace NexusHelpdesk.Ticketless

open Lib Jobs
open Outbound (ProcessingRestriction allowedPurposesWhenRestricted)

/-! ## rows -/

/-- `metadata_json` of a reply; an absent text is empty. -/
structure MessageMetadata where
  providerStatus : String
  generatedBy : String
  processingPurpose : Option String
  providerMessageId : Option String
  providerTransport : Option String
  providerSentAt : Option Instant
  deliveryErrorCode : Option String
  deliveryErrorMessage : Option String
deriving DecidableEq, Repr

inductive DeliveryStatus where
  | queued | sent | failed
deriving DecidableEq, Repr

structure ReplyMessage where
  id : ℕ
  ticketId : Option ℕ
  direction : String
  body : String
  bodyText : Option String
  aiTurnId : Option ℕ
  authorUserId : Option ℕ
  authorLabel : Option String
  deliveryStatus : DeliveryStatus
  metadata : MessageMetadata
deriving DecidableEq, Repr

/-- what `_latest_route` reads of a message of the visitor. -/
structure VisitorMessage where
  channelAccountId : Option ℤ
  chatJid : String
  senderPhone : String
deriving DecidableEq, Repr

structure WebchatConversation where
  id : ℕ
  tenantKey : String
  channelKey : String
  ticketId : Option ℕ
deriving DecidableEq, Repr

structure ChannelAccount where
  provider : String
  isActive : Bool
  tenantId : Option ℕ
deriving DecidableEq, Repr

/-- a row of `whatsapp_connections`; `accessToken` is what decrypting gives. -/
structure WhatsAppConnection where
  tenantId : ℕ
  transport : String
  desiredState : String
  observedState : String
  authenticationState : String
  listenerState : String
  verificationState : String
  observedGeneration : ℕ
  desiredGeneration : ℕ
  accessToken : Option String
deriving DecidableEq, Repr

/-- everything else that an attempt reads. -/
structure Environment where
  accounts : ℕ → Option ChannelAccount
  connections : ℕ → Option WhatsAppConnection
  /-- the active tenant of a key. -/
  tenants : String → Option ℕ
  /-- tenant and customer of a ticket. -/
  tickets : ℕ → Option (Option ℕ × Option ℕ)
  customers : ℕ → Option (Option ℕ)
  /-- the customer of the control row of the conversation. -/
  control : Option (Option ℕ)
  restriction : ℕ → Option ProcessingRestriction
  whatsappEnabled : Bool
  /-- the reason why nothing may be sent. -/
  dispatchBlocked : Option String
  shadowMode : Bool

/-- `payload_json` of the job: as it is queued, and after `_scrub_job`. -/
inductive JobPayload where
  | delivery (channelAccountId : ℕ)
  | scrubbed (outcome : String) (errorCode : Option String)
deriving DecidableEq, Repr

def clip (n : ℕ) (s : String) : String := String.ofList (s.toList.take n)

/-! ## purpose and route -/

def automatedAi : String := "automated_ai"

def humanSupport : String := "human_support"

def processingPurpose (m : ReplyMessage) : Except String String :=
  if PyStr.strip m.metadata.providerStatus = "whatsapp_ai_reply_queued" ∨
      PyStr.strip m.metadata.generatedBy = "agent_runtime" ∨ m.aiTurnId ≠ none then
    .ok automatedAi
  else if PyStr.strip m.metadata.providerStatus = "whatsapp_agent_reply_queued" ∨
      m.authorUserId ≠ none ∨ PyStr.strip (m.authorLabel.getD "") ≠ "" then
    .ok humanSupport
  else .error "ticketless_whatsapp_delivery_origin_unsupported"

structure TicketlessWhatsAppRoute where
  channelAccountId : ℕ
  chatJid : String
  senderPhone : Option String
deriving DecidableEq, Repr

def positiveInt (value : Option ℤ) : Option ℕ :=
  match value with
  | some n => if 0 < n then some n.toNat else none
  | none => none

def VisitorMessage.route (v : VisitorMessage) : Option TicketlessWhatsAppRoute :=
  match positiveInt v.channelAccountId with
  | some accountId =>
    if PyStr.strip v.chatJid = "" then none
    else some ⟨accountId, PyStr.strip v.chatJid,
      if PyStr.strip v.senderPhone = "" then none else some (PyStr.strip v.senderPhone)⟩
  | none => none

def latestRoute (messages : List VisitorMessage) : Except String TicketlessWhatsAppRoute :=
  match (messages.take 50).findSome? VisitorMessage.route with
  | some route => .ok route
  | none => .error "ticketless_whatsapp_delivery_route_missing"

def WebchatConversation.overWhatsapp (c : WebchatConversation) : Prop :=
  PyStr.lower (PyStr.strip c.channelKey) = "whatsapp"

instance (c : WebchatConversation) : Decidable c.overWhatsapp :=
  inferInstanceAs (Decidable (_ = _))

/-! ## the scope of the job -/

inductive ScopeType where
  | tenant | shadow | unresolved
deriving DecidableEq, Repr

/-- `JobScopeValues`; the purpose of the job type and the resource, its conversation, are fixed. -/
structure JobScopeValues where
  scopeType : ScopeType
  tenantId : Option ℕ
  customerId : Option ℕ
deriving DecidableEq, Repr

def Environment.tenantForKey (env : Environment) (key : String) : Option ℕ :=
  if key = "" ∨ key = "default" then none else env.tenants key

def WebchatConversation.normalizedKey (c : WebchatConversation) : String :=
  PyStr.lower (PyStr.strip c.tenantKey)

def WebchatConversation.isShadow (c : WebchatConversation) : Bool :=
  c.normalizedKey = "" || c.normalizedKey = "default"

/-- `_conversation_scope`: tenant, customer, and whether a missing tenant is a shadow. -/
def conversationScope (env : Environment) (c : WebchatConversation) :
    Option ℕ × Option ℕ × Bool :=
  match c.ticketId with
  | some ticketId =>
    match env.tickets ticketId with
    | some (tenantId, customerId) => (tenantId, customerId, tenantId.isNone)
    | none => (none, none, c.isShadow)
  | none => (env.tenantForKey c.normalizedKey, env.control.join, c.isShadow)

def Environment.customerOf (env : Environment) (tenantId customerId : Option ℕ) : Option ℕ :=
  customerId.filter fun c => env.customers c = some tenantId

/-- `derive_job_scope_values` for a conversation and a channel account; a scrubbed payload names
neither. -/
def deriveJobScopeValues (env : Environment) (c : WebchatConversation) :
    JobPayload → JobScopeValues
  | .delivery accountId =>
    let (tenantId, customerId, shadow) := conversationScope env c
    let account := env.accounts accountId
    let candidates := [tenantId, account.bind ChannelAccount.tenantId].reduceOption.dedup
    let shadowSource := (tenantId.isNone && shadow) ||
      account.any fun a => a.tenantId.isNone
    let invalidSource := (tenantId.isNone && !shadow) || account.isNone
    match candidates with
    | [tenant] =>
      if shadowSource || invalidSource then ⟨.unresolved, none, none⟩
      else ⟨.tenant, some tenant, env.customerOf (some tenant) customerId⟩
    | [] =>
      if !invalidSource && env.shadowMode && shadowSource then
        ⟨.shadow, none, env.customerOf none customerId⟩
      else ⟨.unresolved, none, none⟩
    | _ => ⟨.unresolved, none, none⟩
  | .scrubbed _ _ =>
    if env.shadowMode then ⟨.shadow, none, none⟩ else ⟨.unresolved, none, none⟩

def executableScope (env : Environment) (scope : JobScopeValues) : Bool :=
  match scope.scopeType with
  | .tenant => scope.tenantId.isSome
  | .shadow => env.shadowMode && scope.tenantId.isNone
  | .unresolved => false

/-- `ensure_data_processing_allowed`, for a purpose that is not empty. -/
def dataProcessingAllowed (env : Environment) (customerId : ℕ) (purpose : String) : Bool :=
  let normalized := String.ofList (PyStr.collapse (PyStr.lower (PyStr.strip purpose)).toList)
  allowedPurposesWhenRestricted.contains normalized ||
    match env.restriction customerId with
    | none => true
    | some r => !r.blockedPurposes.contains normalized && r.allowedPurposes.contains normalized

/-- `require_executable_background_job_scope`: the scope stored with the job is still the one that
its sources give, and its purpose is allowed. -/
def requireExecutableScope (env : Environment) (scope current : JobScopeValues) : Bool :=
  executableScope env scope && scope = current &&
    scope.customerId.all fun c => dataProcessingAllowed env c humanSupport

/-! ## an attempt -/

/-- an exception of the service: its own error, or any other. -/
inductive Stop where
  | plain (text : String)
  | delivery (code reason : String) (retryable : Bool)
deriving DecidableEq, Repr

/-- what the call of the provider gives: an answer, one of the two transport errors, or any other
exception, that of decrypting the token included. -/
inductive ProviderOutcome where
  | sent (providerMessageId : String) (sentAt : Instant)
  | failed (code message : String) (retryable : Bool)
  | raised (text : String)
deriving DecidableEq, Repr

def WhatsAppConnection.isReady (c : WhatsAppConnection) : Prop :=
  c.desiredState = "active" ∧ c.observedState = "connected" ∧ c.authenticationState = "linked" ∧
    c.listenerState = "active" ∧ c.verificationState = "verified" ∧
    c.observedGeneration = c.desiredGeneration

instance (c : WhatsAppConnection) : Decidable c.isReady :=
  inferInstanceAs (Decidable (_ ∧ _ ∧ _ ∧ _ ∧ _ ∧ _))

def requireAuthority (env : Environment) (c : WebchatConversation) (account : ChannelAccount)
    (connection : Option WhatsAppConnection) : Except Stop WhatsAppConnection :=
  if account.provider ≠ "whatsapp" ∨ account.isActive = false then
    .error (.delivery "ticketless_whatsapp_delivery_account_inactive"
      "WhatsApp channel account is inactive" false)
  else
    match env.tenants c.normalizedKey with
    | none =>
      .error (.delivery "ticketless_whatsapp_delivery_tenant_mismatch"
        "Conversation and account tenant authority differ" false)
    | some tenant =>
      if account.tenantId ≠ some tenant then
        .error (.delivery "ticketless_whatsapp_delivery_tenant_mismatch"
          "Conversation and account tenant authority differ" false)
      else
        match connection with
        | none =>
          .error (.delivery "ticketless_whatsapp_delivery_connection_missing"
            "WhatsApp connection authority is missing" false)
        | some connection =>
          if connection.tenantId ≠ tenant then
            .error (.delivery "ticketless_whatsapp_delivery_connection_missing"
              "WhatsApp connection authority is missing" false)
          else if ¬ connection.isReady then
            .error (.delivery "ticketless_whatsapp_delivery_connection_not_ready"
              "WhatsApp connection is not ready" true)
          else .ok connection

def ReplyMessage.visibleBody (m : ReplyMessage) : String :=
  PyStr.strip ((PyStr.orElse m.bodyText (some m.body)).getD "")

def ReplyMessage.idempotencyKey (m : ReplyMessage) : String :=
  "nexusdesk-webchat-message-" ++ toString m.id

structure Sending where
  connection : WhatsAppConnection
  route : TicketlessWhatsAppRoute
  body : String
deriving DecidableEq, Repr

/-- the checks inside the `try`, and those of `_send` before it calls the provider. -/
def prepared (env : Environment) (c : WebchatConversation) (m : ReplyMessage)
    (visitor : List VisitorMessage) (accountId : ℕ) (account : ChannelAccount)
    (purpose : String) : Except Stop Sending := do
  let connection ← requireAuthority env c account (env.connections accountId)
  let route ← (latestRoute visitor).mapError Stop.plain
  if route.channelAccountId ≠ accountId then
    .error (.delivery "ticketless_whatsapp_delivery_route_account_mismatch"
      "Conversation route and queued account differ" false)
  else if m.visibleBody = "" then
    .error (.delivery "ticketless_whatsapp_delivery_body_missing"
      "Customer-visible message body is missing" false)
  else
    match env.control.join with
    | none =>
      .error (.delivery "ticketless_whatsapp_delivery_customer_scope_missing"
        "Conversation customer scope is missing" false)
    | some customerId =>
      if env.whatsappEnabled = false then
        .error (.delivery "whatsapp_disabled" "WhatsApp is disabled in this runtime" false)
      else
        match env.dispatchBlocked with
        | some reason => .error (.delivery "outbound_dispatch_disabled" reason false)
        | none =>
          if dataProcessingAllowed env customerId purpose = false then
            .error (.delivery "data_processing_restricted" "data_processing_restricted" false)
          else if connection.transport = "baileys_sidecar" then
            .ok ⟨connection, route, m.visibleBody⟩
          else if connection.transport = "meta_cloud_api" then
            if PyStr.truthy connection.accessToken then .ok ⟨connection, route, m.visibleBody⟩
            else .error (.delivery "meta_access_token_missing"
              "Meta access token is not configured" false)
          else .error (.delivery "unsupported_whatsapp_transport"
            "WhatsApp connection transport is unsupported" false)

/-- what the checks before the `try` lead to. -/
inductive Preflight where
  | alreadySent
  | go (accountId : ℕ) (account : ChannelAccount) (purpose : String)
deriving DecidableEq, Repr

def ReplyMessage.isSent (m : ReplyMessage) : Prop :=
  m.deliveryStatus = .sent ∧ PyStr.truthy m.metadata.providerMessageId = true

instance (m : ReplyMessage) : Decidable m.isSent := inferInstanceAs (Decidable (_ ∧ _))

/-- the checks before the `try` up to the purpose. -/
def authorized (env : Environment) (c : WebchatConversation) (m : ReplyMessage) :
    JobPayload → Except String (ℕ × ChannelAccount)
  | .scrubbed _ _ => .error "ticketless_whatsapp_delivery_payload_invalid"
  | .delivery accountId =>
    match env.accounts accountId with
    | none => .error "ticketless_whatsapp_delivery_authority_missing"
    | some account =>
      if m.ticketId ≠ none then .error "ticketless_whatsapp_delivery_message_scope_mismatch"
      else if ¬ c.overWhatsapp then .error "ticketless_whatsapp_delivery_requires_whatsapp"
      else .ok (accountId, account)

def preflight (env : Environment) (c : WebchatConversation) (m : ReplyMessage)
    (payload : JobPayload) : Except String Preflight := do
  let (accountId, account) ← authorized env c m payload
  if m.isSent then .ok .alreadySent
  else
    let purpose ← processingPurpose m
    if m.metadata.processingPurpose ≠ some purpose then
      .error "ticketless_whatsapp_delivery_purpose_mismatch"
    else .ok (.go accountId account purpose)

/-- what an attempt has written when `process_background_job` returns. -/
structure Writes where
  deliveryStatus : DeliveryStatus
  metadata : MessageMetadata
  payload : JobPayload
  result : Result
deriving DecidableEq, Repr

def attemptsRemaining (job : BackgroundJob) : Prop :=
  job.attemptCount + 1 < if job.maxAttempts = 0 then 1 else job.maxAttempts

instance (job : BackgroundJob) : Decidable (attemptsRemaining job) :=
  inferInstanceAs (Decidable (_ < _))

def retryMetadata (code reason : String) (metadata : MessageMetadata) : MessageMetadata :=
  { metadata with
    providerStatus := "whatsapp_retry_scheduled"
    deliveryErrorCode := some (clip 120 code)
    deliveryErrorMessage := some (clip 500 reason) }

/-- `_handle_failure`; the exception it ends a retry with becomes the retry of the job. -/
def handleFailure (job : BackgroundJob) (m : ReplyMessage) (payload : JobPayload)
    (code reason : String) (retryable : Bool) : Writes :=
  if retryable = true ∧ attemptsRemaining job then
    ⟨.queued, retryMetadata code reason m.metadata, payload, .retry code⟩
  else
    let terminalCode := if retryable then code ++ "_retry_exhausted" else code
    ⟨.failed,
      { m.metadata with
        providerStatus := "whatsapp_failed"
        deliveryErrorCode := some (clip 120 terminalCode)
        deliveryErrorMessage := some (clip 500 reason) },
      .scrubbed "failed" (some (clip 120 terminalCode)), .done⟩

/-- an attempt that left with an exception before it wrote anything. -/
def raised (m : ReplyMessage) (payload : JobPayload) (text : String) : Writes :=
  ⟨m.deliveryStatus, m.metadata, payload, .retry text⟩

def sentWrites (m : ReplyMessage) (purpose transport providerMessageId : String)
    (sentAt : Instant) : Writes :=
  ⟨.sent,
    { m.metadata with
      providerStatus := "whatsapp_sent"
      providerMessageId := some providerMessageId
      providerTransport := some transport
      providerSentAt := some sentAt
      deliveryErrorCode := none
      deliveryErrorMessage := none
      processingPurpose := some purpose },
    .scrubbed "sent" none, .done⟩

/-- what an attempt writes after the checks before the `try`. -/
def deliverWrites (job : BackgroundJob) (m : ReplyMessage) (payload : JobPayload)
    (purpose : String) (checks : Except Stop Sending) (outcome : ProviderOutcome) : Writes :=
  match checks with
  | .error (.plain text) => raised m payload text
  | .error (.delivery code reason retryable) => handleFailure job m payload code reason retryable
  | .ok sending =>
    match outcome with
    | .sent providerMessageId sentAt =>
      sentWrites m purpose sending.connection.transport providerMessageId sentAt
    | .failed code message retryable => handleFailure job m payload code message retryable
    | .raised text => raised m payload text

/-! ## runs -/

/-- what `send_baileys_text` was called with. -/
structure SidecarSend where
  idempotencyKey : String
  target : String
  body : String
deriving DecidableEq, Repr

/-- a worker under a lease: it has claimed the job, or its attempt stands before its commit. -/
inductive WorkerPhase where
  | claimed
  | attempted (job : BackgroundJob) (message : ReplyMessage) (payload : JobPayload)
      (writes : Writes)
deriving DecidableEq, Repr

structure DeliveryWorld where
  conversation : WebchatConversation
  message : ReplyMessage
  visitorMessages : List VisitorMessage
  env : Environment
  job : BackgroundJob
  payload : JobPayload
  scope : JobScopeValues
  workers : InHand String WorkerPhase
  /-- the purposes that attempts have computed, the latest first. -/
  purposes : List (Except String String)
  /-- the calls of the sidecar, the latest first. -/
  sends : List SidecarSend

/-- `enqueue_background_job`: the key of the job carries the id of the message, which is new. -/
def enqueueDeliveryJob (now : Instant) (maxAttempts : ℕ) : BackgroundJob :=
  { jobType := "webchat.whatsapp_delivery"
    status := .pending
    attemptCount := 0
    maxAttempts := maxAttempts
    nextRunAt := none
    lockedAt := none
    lockedBy := none
    lastError := none
    createdAt := now
    updatedAt := now }

/-- `queue_ticketless_whatsapp_delivery`; the scope of the job is stored as it is inserted. -/
def queueTicketlessWhatsappDelivery (now : Instant) (maxAttempts : ℕ) (env : Environment)
    (conversation : WebchatConversation) (message : ReplyMessage)
    (visitorMessages : List VisitorMessage) : Except String DeliveryWorld := do
  if message.ticketId ≠ none then
    .error "ticketless_whatsapp_delivery_message_scope_mismatch"
  else if ¬ conversation.overWhatsapp then
    .error "ticketless_whatsapp_delivery_requires_whatsapp"
  else if message.direction ≠ "agent" then
    .error "ticketless_whatsapp_delivery_requires_agent_message"
  else
    let purpose ← processingPurpose message
    let route ← latestRoute visitorMessages
    let payload := JobPayload.delivery route.channelAccountId
    .ok {
      conversation := conversation
      message := { message with
        deliveryStatus := .queued
        metadata := { message.metadata with processingPurpose := some purpose } }
      visitorMessages := visitorMessages
      env := env
      job := enqueueDeliveryJob now maxAttempts
      payload := payload
      scope := deriveJobScopeValues env conversation payload
      workers := .empty
      purposes := []
      sends := [] }

inductive DeliveryStep where
  | visitorMessage (v : VisitorMessage)
  | attachConversation (ticketId : ℕ)
  | attachMessage (ticketId : ℕ)
  /-- restrictions, account, connection, settings and all else that is read change. -/
  | environment (env : Environment)
  | claim (now : Instant) (token : String)
  | heartbeat (now : Instant) (token : String)
  | attempt (now : Instant) (token : String) (outcome : ProviderOutcome)
  | finish (now : Instant) (token : String)
  /-- an exception reaches the boundary, that of the commit included. -/
  | fail (now : Instant) (token : String) (errorType : String)
  | crash (token : String)

namespace DeliveryWorld
variable (w : DeliveryWorld)

def preflight : Except String Preflight :=
  Ticketless.preflight w.env w.conversation w.message w.payload

/-- the checks inside the `try`. -/
def prepared (accountId : ℕ) (account : ChannelAccount) (purpose : String) : Except Stop Sending :=
  Ticketless.prepared w.env w.conversation w.message w.visitorMessages accountId account purpose

def inScope : Bool :=
  requireExecutableScope w.env w.scope (deriveJobScopeValues w.env w.conversation w.payload)

def computed : List (Except String String) :=
  match authorized w.env w.conversation w.message w.payload with
  | .error _ => []
  | .ok _ => if w.message.isSent then [] else [processingPurpose w.message]

def sidecarSend (sending : Sending) : List SidecarSend :=
  if sending.connection.transport = "baileys_sidecar" then
    [⟨w.message.idempotencyKey, sending.route.chatJid, sending.body⟩]
  else []

/-- `process_background_job`: what the attempt writes and sends. -/
def process (outcome : ProviderOutcome) : Writes × List SidecarSend :=
  match w.preflight with
  | .error text => (raised w.message w.payload text, [])
  | .ok .alreadySent =>
    (⟨w.message.deliveryStatus, w.message.metadata, .scrubbed "already_sent" none, .done⟩, [])
  | .ok (.go accountId account purpose) =>
    let checks := w.prepared accountId account purpose
    (deliverWrites w.job w.message w.payload purpose checks outcome,
      match checks with
      | .ok sending => w.sidecarSend sending
      | .error _ => [])

def attempt (token : String) (outcome : ProviderOutcome) : DeliveryWorld :=
  { w with
    workers := w.workers.take token
      (.attempted w.job w.message w.payload (w.process outcome).1)
    purposes := w.computed ++ w.purposes
    sends := (w.process outcome).2 ++ w.sends }

/-- `_refresh_job_lease`, the scope check and the attempt of a worker that has claimed the job. -/
def applyAttempt (now : Instant) (token : String) (outcome : ProviderOutcome) : DeliveryWorld :=
  match w.workers token with
  | some .claimed =>
    if ownsJobLease token w.job then
      let w := { w with job := renewLease now token w.job }
      if w.inScope then w.attempt token outcome
      else { w with
        job := rejectScope now "BackgroundJobExecutionScopeError" w.job
        workers := w.workers.release token }
    else { w with workers := w.workers.release token }
  | _ => w

/-- `_owns_job_lease` and the commit: the columns that differ from what was read are written. -/
def applyFinish (now : Instant) (token : String) : DeliveryWorld :=
  match w.workers token with
  | some (.attempted job message payload writes) =>
    if ownsJobLease token w.job then
      { w with
        message := { w.message with
          deliveryStatus := changed message.deliveryStatus writes.deliveryStatus
            w.message.deliveryStatus
          metadata := changed message.metadata writes.metadata w.message.metadata }
        payload := changed payload writes.payload w.payload
        job := flushJob job (writes.result.mark now job) w.job
        workers := w.workers.release token }
    else { w with workers := w.workers.release token }
  | _ => w

/-- rollback and `_recover_unhandled_background_job_exception`. -/
def applyFail (now : Instant) (token errorType : String) : DeliveryWorld :=
  match w.workers token with
  | some (.attempted _ _ _ _) =>
    if ownsJobLease token w.job then
      { w with
        job := markRetry now ("Unhandled background job exception: " ++ errorType) w.job
        workers := w.workers.release token }
    else { w with workers := w.workers.release token }
  | _ => w

/-- a worker draws a new token and claims the job, new or with a lapsed lease. -/
def applyClaim (c : Settings) (now : Instant) (token : String) : DeliveryWorld :=
  if w.workers token = none ∧ w.job.lockedBy ≠ some token ∧
      (pendingDue now w.job || staleProcessing c now w.job) = true ∧
      executableScope w.env w.scope = true then
    { w with
      job := takeLease now token w.job
      workers := w.workers.take token .claimed }
  else w

end DeliveryWorld

def deliveryStep (c : Settings) : DeliveryStep → DeliveryWorld → DeliveryWorld
  | .visitorMessage v, w => { w with visitorMessages := v :: w.visitorMessages }
  | .attachConversation ticketId, w =>
    { w with conversation := { w.conversation with ticketId := some ticketId } }
  | .attachMessage ticketId, w =>
    { w with message := { w.message with ticketId := some ticketId } }
  | .environment env, w => { w with env := env }
  | .claim now token, w => w.applyClaim c now token
  | .heartbeat now token, w => { w with job := renewLease now token w.job }
  | .attempt now token outcome, w => w.applyAttempt now token outcome
  | .finish now token, w => w.applyFinish now token
  | .fail now token errorType, w => w.applyFail now token errorType
  | .crash token, w => { w with workers := w.workers.release token }

end NexusHelpdesk.Ticketless
