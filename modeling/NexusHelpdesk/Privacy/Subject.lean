import NexusHelpdesk.Customers.Identity
import NexusHelpdesk.Lib.Json
import NexusHelpdesk.Lib.UniqueIndex
import NexusHelpdesk.Outbound.Restriction
import NexusHelpdesk.Privacy.Lifecycle

/-!
# The erasure of a data subject (`data_lifecycle_service.py`)

The rows of a customer in all the tables, and their redaction with
`channel_identity_privacy_lifecycle.py` and `whatsapp_privacy_lifecycle.py`.

* `subjectGraph`: tickets, conversations and attachments of a customer;
* `validatePersistedAiPayloadBinding`, `guardOutboundEffect`, `insertAutomaticAssignment`: the
  listeners that see the rows before or after they are written;
* `anonymizeSubject`: `_anonymize_subject_graph`;
* `executeDataSubjectDeletion`.

The tables of `LifecycleDb` are those of the guards; here every row has all its texts.  The clock
is read once.
-/

namespace NexusHelpdesk.Privacy

open Lib

/-! ## rows -/

structure CustomerProfile extends Customer where
  emailNormalized : Option String
  phoneNormalized : Option String
  createdAt : Instant
deriving DecidableEq, Repr

structure TicketCase extends SubjectTicket where
  ticketNo : String
  title : String
  description : String
  source : String
  sourceChannel : SourceChannel
  priority : String
  category : Option String
  subCategory : Option String
  caseType : Option String
  aiClassification : Option String
  trackingNumber : Option String
  aiSummary : Option String
  issueSummary : Option String
  customerRequest : Option String
  sourceChatId : Option String
  sourceDedupeKey : Option String
  requiredAction : Option String
  missingFields : Option String
  lastCustomerMessage : Option String
  customerUpdate : Option String
  resolutionSummary : Option String
  lastHumanUpdate : Option String
  lastAiUpdate : Option String
  requestedTime : Option String
  destination : Option String
  preferredReplyChannel : Option String
  preferredReplyContact : Option String
  createdAt : Instant
  closedAt : Option Instant
deriving DecidableEq, Repr

structure ScenarioAssignment where
  ticketId : ℕ
  scenarioKey : String
  supersededAt : Option Instant
deriving DecidableEq, Repr

structure TicketComment where
  ticketId : ℕ
  body : String
  visibility : String
  createdAt : Instant
deriving DecidableEq, Repr

structure TicketInternalNote where
  ticketId : ℕ
  body : String
  createdAt : Instant
deriving DecidableEq, Repr

structure TicketEvent where
  ticketId : ℕ
  oldValue : Option String
  newValue : Option String
  note : Option String
  payloadJson : Option String
deriving DecidableEq, Repr

/-- `TicketOutboundMessage`, with the columns that dispatch does not read. -/
structure OutboundRow where
  message : Outbound.OutboundMessage
  subject : Option String
  deliveryDetail : Option String
  deliveryPayloadJson : Option String
deriving DecidableEq

structure InboundEmail where
  ticketId : ℕ
  fromAddress : String
  fromName : Option String
  toAddress : Option String
  cc : Option String
  subject : Option String
  body : String
  bodyPreview : Option String
  mailboxThreadId : String
  mailboxMessageId : Option String
  mailboxReferences : Option String
  inReplyTo : Option String
  receivedAt : Instant
deriving DecidableEq, Repr

structure TicketAIIntake where
  ticketId : ℕ
  summary : String
  missingFieldsJson : Option String
  recommendedAction : Option String
  suggestedReply : Option String
  rawPayloadJson : Option String
  humanOverrideReason : Option String
deriving DecidableEq, Repr

structure WebchatConversation where
  ticketId : Option ℕ
  publicId : String
  tenantKey : String
  channelKey : String
  visitorName : Option String
  visitorEmail : Option String
  visitorPhone : Option String
  visitorRef : Option String
  pageUrl : Option String
  userAgent : Option String
  status : String
  lastTrackingNumber : Option String
  aiSuspendedReason : Option String
  lastHandoffReason : Option String
  createdAt : Instant
  updatedAt : Instant
deriving DecidableEq, Repr

structure ConversationControl where
  conversationId : ℕ
  tenantKey : String
  channelKey : String
  countryCode : Option String
  customerId : Option ℕ
  outcome : Option String
  closedAt : Option Instant
deriving DecidableEq, Repr

structure WebchatMessage where
  conversationId : ℕ
  direction : String
  body : String
  bodyText : Option String
  clientMessageId : Option String
  messageType : String
  payloadJson : Option String
  metadataJson : Option String
  authorLabel : Option String
  safetyReasonsJson : Option String
  createdAt : Instant
deriving DecidableEq, Repr

structure WebchatAITurn where
  conversationId : ℕ
  statusReason : Option String
  runtimeTraceJson : Option String
  fallbackReason : Option String
  factGateReason : Option String
deriving DecidableEq, Repr

structure CustomerIdentityBinding where
  tenantId : Option ℕ
  customerId : ℕ
  identityType : Customers.IdentityKind
  normalizedValue : String
  source : String
  createdAt : Instant
  updatedAt : Instant
deriving DecidableEq, Repr

structure EmailIntakeQuarantine where
  tenantId : Option ℕ
  accountId : ℕ
  providerMessageId : String
  mailboxUid : String
  fromAddress : String
  fromName : Option String
  toAddress : Option String
  cc : Option String
  subject : Option String
  body : String
  mailboxMessageId : Option String
  mailboxReferences : Option String
  inReplyTo : Option String
  receivedAt : Option Instant
  status : String
  reasonCode : String
  conversationId : Option ℕ
  ticketId : Option ℕ
  createdAt : Instant
  updatedAt : Instant
deriving DecidableEq, Repr

structure WhatsAppInboundMessage where
  channelAccountId : ℕ
  ticketId : Option ℕ
  conversationId : Option ℕ
  webchatMessageId : Option ℕ
  externalMessageId : String
  chatJid : String
  senderJid : String
  senderPhone : Option String
  messageType : String
  bodyText : String
  rawPayloadJson : Option String
  receivedAt : Instant
  processedAt : Option Instant
deriving DecidableEq, Repr

structure WhatsAppMediaAsset where
  connectionId : ℕ
  inboundMessageId : Option ℕ
  outboundMessageId : Option ℕ
  provider : String
  providerMediaId : String
  mediaKind : String
  fileName : Option String
  declaredMimeType : Option String
  detectedMimeType : Option String
  byteSize : Option ℕ
  sha256 : Option String
  storageKey : Option String
  storageStatus : String
  scanStatus : String
  ticketAttachmentId : Option ℕ
  providerUrlExpiresAt : Option Instant
  lastErrorCode : Option String
  lastErrorMessage : Option String
  createdAt : Instant
  updatedAt : Instant
  availableAt : Option Instant
deriving DecidableEq, Repr

structure WhatsAppOutboundPart where
  outboundMessageId : ℕ
  attachmentId : Option ℕ
  sequence : ℕ
  partType : String
  mediaKind : Option String
  mediaType : Option String
  fileName : Option String
  status : String
  providerMediaId : Option String
  providerMessageId : Option String
  failureCode : Option String
  failureReason : Option String
  sentAt : Option Instant
  deliveredAt : Option Instant
  readAt : Option Instant
  updatedAt : Instant
deriving DecidableEq, Repr

structure SubjectDb where
  tenantKey : ℕ → String
  customers : Table CustomerProfile
  tickets : Table TicketCase
  assignments : Table ScenarioAssignment
  attachments : Table ℕ
  holds : Table LegalHold
  requests : Table DataSubjectRequest
  restrictions : List Outbound.ProcessingRestriction
  comments : Table TicketComment
  notes : Table TicketInternalNote
  events : Table TicketEvent
  outbound : Table OutboundRow
  inboundEmail : Table InboundEmail
  intakes : Table TicketAIIntake
  conversations : Table WebchatConversation
  controls : Table ConversationControl
  messages : Table WebchatMessage
  turns : Table WebchatAITurn
  bindings : Table CustomerIdentityBinding
  quarantine : Table EmailIntakeQuarantine
  whatsappInbound : Table WhatsAppInboundMessage
  media : Table WhatsAppMediaAsset
  parts : Table WhatsAppOutboundPart

def SubjectDb.empty : SubjectDb where
  tenantKey := fun _ => ""
  customers := Table.empty
  tickets := Table.empty
  assignments := Table.empty
  attachments := Table.empty
  holds := Table.empty
  requests := Table.empty
  restrictions := []
  comments := Table.empty
  notes := Table.empty
  events := Table.empty
  outbound := Table.empty
  inboundEmail := Table.empty
  intakes := Table.empty
  conversations := Table.empty
  controls := Table.empty
  messages := Table.empty
  turns := Table.empty
  bindings := Table.empty
  quarantine := Table.empty
  whatsappInbound := Table.empty
  media := Table.empty
  parts := Table.empty

/-! ## what the erasure depends on -/

structure DeleteReceipt where
  deleted : Bool
  alreadyAbsent : Bool
deriving DecidableEq, Repr

structure ScenarioDefinition where
  scenarioKey : String
  issueTypeAliases : List String
  approved : Bool
  effectiveFrom : Instant
  expiresAt : Option Instant
deriving DecidableEq, Repr

structure ErasureEnv where
  /-- the hex digest of a text. -/
  sha256 : String → String
  subjectSha : ℕ → List ℕ → Instant → String
  lower : String → String
  sqlLower : String → String
  /-- `StorageBackend.delete`; it may raise. -/
  delete : String → Option DeleteReceipt
  catalog : Option (List ScenarioDefinition)

inductive SubjectFailure where
  | lifecycle (e : LifecycleError)
  /-- the `ValueError` of `validate_persisted_ai_payload_binding`. -/
  | binding (code : String)
  /-- `DataProcessingRestricted`. -/
  | restricted
  | scenario (code : String)
  /-- a unique index. -/
  | integrity
deriving DecidableEq, Repr

/-- `raise DataLifecycleError(code)`, if `b` does not hold. -/
def demand (b : Bool) (code : String) : Except SubjectFailure Unit :=
  if b then .ok () else .error (.lifecycle { code := code })

/-! ## the listeners -/

section Listeners
variable (env : ErasureEnv)

def aiOrigins : List String := ["provider_runtime", "ai_runtime"]

def given (s : Option String) : Option String := s.filter (· ≠ "")

def validateContractPayloadHash (payloadJson expectedSha256 : Option String) : Option String :=
  match given payloadJson, given expectedSha256 with
  | none, none => none
  | some payload, some expected =>
    if env.sha256 payload = expected then none else some "runtime_contract_payload_hash_invalid"
  | _, _ => some "runtime_contract_payload_hash_missing"

/-- `d.get(k)`: the last field of the name, and `null` without one. -/
def jsonGet (k : String) : Json → Json
  | .obj fields => ((fields.reverse.find? fun f => f.1 == k.toList).map (·.2)).getD .null
  | _ => .null

/-- `bool(v)`. -/
def jsonTruthy : Json → Bool
  | .null => false
  | .bool b => b
  | .num n => n != 0
  | .real t => (t.chars.takeWhile fun c => c != 'e' && c != 'E').any fun c => c.isDigit && c != '0'
  | .str s => !s.isEmpty
  | .arr items => !items.isEmpty
  | .obj fields => !fields.isEmpty

def jsonIs (s : String) : Json → Bool
  | .str t => t == s.toList
  | _ => false

/-- `parse_runtime_contract_payload`, `none` for what counts as an empty object. -/
def parseRuntimeContractPayload (payloadJson : String) : Option Json :=
  match Json.parse payloadJson.toList with
  | some (.obj (f :: fields)) => some (.obj (f :: fields))
  | _ => none

/-- `contract_validation_args_from_payload`, as far as the row is compared with it. -/
structure ContractArgs where
  runtimeTraceId : Json
  contractVersion : Json
  runtimeSignature : Json
  safetyStatus : Json
  origin : Json
  body : Json
  replyType : Json

def contractValidationArgs (payload : Json) : ContractArgs :=
  let reply := jsonGet "reply" payload
  let replyType := jsonGet "type" reply
  { runtimeTraceId := jsonGet "runtime_trace_id" payload
    contractVersion := jsonGet "contract_version" payload
    runtimeSignature := jsonGet "runtime_signature" payload
    safetyStatus := jsonGet "safety_status" payload
    origin := jsonGet "origin" payload
    body := jsonGet "text" reply
    replyType := if jsonTruthy replyType then replyType else .str "answer".toList }

def payloadOrigin : Json → String
  | .str s => Outbound.normalized (String.ofList s)
  | _ => ""

def differs (value : Option String) (arg : Json) : Bool := value.any fun s => !jsonIs s arg

/-- `validate_persisted_ai_payload_binding`: the code of its `ValueError`. -/
def validatePersistedAiPayloadBinding (m : Outbound.OutboundMessage) : Option String :=
  let origin := Outbound.normalized (m.origin.getD "")
  if origin ∉ aiOrigins then none
  else
    match validateContractPayloadHash env m.runtimeContractPayloadJson
        m.runtimeContractPayloadSha256 with
    | some violation => some violation
    | none =>
      match given m.runtimeContractPayloadJson with
      | none => none
      | some payloadJson =>
        match parseRuntimeContractPayload payloadJson with
        | none => some "runtime_contract_payload_invalid"
        | some payload =>
          let args := contractValidationArgs payload
          if payloadOrigin args.origin ≠ origin then
            some "runtime_contract_payload_origin_mismatch"
          else if !jsonIs m.body args.body then some "runtime_contract_payload_body_mismatch"
          else if differs m.runtimeTraceId args.runtimeTraceId then
            some "runtime_contract_payload_trace_mismatch"
          else if differs m.runtimeContractVersion args.contractVersion then
            some "runtime_contract_payload_version_mismatch"
          else if differs m.runtimeSignature args.runtimeSignature then
            some "runtime_contract_payload_signature_mismatch"
          else if differs m.safetyStatus args.safetyStatus then
            some "runtime_contract_payload_safety_mismatch"
          else if differs m.runtimeReplyType args.replyType then
            some "runtime_contract_payload_reply_type_mismatch"
          else none

/-- `_guard_outbound_effect`: the row is refused. -/
def guardOutboundEffect (db : SubjectDb) (m : Outbound.OutboundMessage) : Bool :=
  Outbound.outboundRequiresGuard m &&
    Outbound.activeRestriction db.restrictions
      ((db.tickets.get? m.ticketId).bind (·.customerId))

def outboundListeners (db : SubjectDb) (m : Outbound.OutboundMessage) :
    Except SubjectFailure Unit :=
  match validatePersistedAiPayloadBinding env m with
  | some code => .error (.binding code)
  | none => if guardOutboundEffect db m then .error .restricted else .ok ()

/-! ### scenario assignments -/

def scenarioIsRuntimeActive (now : Instant) (s : ScenarioDefinition) : Bool :=
  s.approved && s.effectiveFrom ≤ now && s.expiresAt.all (now < ·)

/-- `alias_map().get(v)`: the last scenario of the alias. -/
def aliasOf (catalog : List ScenarioDefinition) (v : String) : Option String :=
  (catalog.reverse.find? fun s => v = s.scenarioKey || v ∈ s.issueTypeAliases).map (·.scenarioKey)

/-- `_candidate_matches`, without the names of the fields. -/
def candidateMatches (catalog : List ScenarioDefinition) (t : TicketCase) : List String :=
  [t.caseType, t.subCategory, t.category, t.aiClassification].filterMap fun v =>
    let cleaned := env.lower (PyStr.strip (v.getD ""))
    if cleaned = "" then none else aliasOf catalog cleaned

def loadRuntimeScenarioCatalog (now : Instant) : Except SubjectFailure (List ScenarioDefinition) :=
  match env.catalog with
  | none => .error (.scenario "scenario_catalog_unavailable")
  | some catalog =>
    if catalog.all (scenarioIsRuntimeActive now) then .ok catalog
    else .error (.scenario "scenario_catalog_contains_runtime_inactive_definition")

def resolveCandidateScenario (catalog : List ScenarioDefinition) (t : TicketCase) :
    Except SubjectFailure (Option String) :=
  match (candidateMatches env catalog t).dedup with
  | [] => .ok none
  | [k] => .ok (some k)
  | _ => .error (.scenario "case_scenario_identity_conflict")

def hasScenario (assignments : Table ScenarioAssignment) (ticketId : ℕ) : Bool :=
  !(assignments.select fun _ a => a.ticketId = ticketId && a.supersededAt.isNone).isEmpty

def insertAutomaticAssignment (now : Instant) (assignments : Table ScenarioAssignment)
    (r : ℕ × TicketCase) : Except SubjectFailure (Table ScenarioAssignment) :=
  if hasScenario assignments r.1 then .ok assignments
  else do
    let catalog ← loadRuntimeScenarioCatalog env now
    match ← resolveCandidateScenario env catalog r.2 with
    | none => return assignments
    | some k => return assignments.insert ⟨r.1, k, none⟩

end Listeners

/-! ## the subject -/

section Subject
variable (env : ErasureEnv) (db : SubjectDb)

structure SubjectGraph where
  ticketIds : List ℕ
  conversationIds : List ℕ
  attachmentIds : List ℕ
deriving DecidableEq, Repr

/-- the ids of the rows that satisfy `p`, in their order. -/
def idsWhere {α : Type} (t : Table α) (p : α → Bool) : List ℕ :=
  (t.select fun _ a => p a).map (·.1)

def subjectCases (tenantId customerId : ℕ) : List (ℕ × TicketCase) :=
  db.tickets.select fun _ t => t.tenantId = some tenantId && t.customerId = some customerId

def subjectGraph (tenantId customerId : ℕ) : SubjectGraph :=
  let ticketIds := (subjectCases db tenantId customerId).map (·.1)
  let byTicket := idsWhere db.conversations fun c => c.ticketId.any (· ∈ ticketIds)
  let byControl := (db.controls.select fun _ c =>
    c.tenantKey = db.tenantKey tenantId && c.customerId = some customerId).map (·.2.conversationId)
  { ticketIds := ticketIds
    conversationIds := (byTicket ++ byControl).dedup.mergeSort
    attachmentIds := idsWhere db.attachments (· ∈ ticketIds) }

/-- `_active_hold`. -/
def subjectHeld (tenantId customerId : ℕ) (ticketIds : List ℕ) : Bool :=
  !(db.holds.select fun _ h => h.tenantId = tenantId && h.active &&
    (h.customerId = some customerId || h.ticketId.any (· ∈ ticketIds))).isEmpty

/-! ## redaction -/

def redactedText : String := "[redacted by privacy request]"

/-- `_anonymized`. -/
def pseudonym (value space : String) (id : ℕ) : String :=
  "erased-" ++ space ++ "-" ++ String.ofList
    ((env.sha256 (space ++ ":" ++ toString id ++ ":" ++ value)).toList.take 20)

/-- the rows that satisfy `p` become `f` of them. -/
def rewriteRows {α : Type} (t : Table α) (p : ℕ → α → Bool) (f : ℕ → α → α) : Table α :=
  t.mapRows fun i a => if p i a then f i a else a

def rewriteUnique {α κ : Type} [DecidableEq κ] (key : α → κ) (t : Table α) (p : ℕ → α → Bool)
    (f : ℕ → α → α) : Except SubjectFailure (Table α) :=
  match Table.updateEach key f ((t.select p).map (·.1)) t with
  | some t' => .ok t'
  | none => .error .integrity

/-- `identity_type` as it is stored. -/
def kindText : Customers.IdentityKind → String
  | .email => "email"
  | .phone => "phone"
  | .externalRef => "external_ref"

def ownBinding (tenantId customerId : ℕ) (b : CustomerIdentityBinding) : Bool :=
  b.tenantId = some tenantId && b.customerId = customerId

/-- the addresses of the customer, as quarantined mail is matched. -/
def emailValues (tenantId customerId : ℕ) : List String :=
  ((db.bindings.select fun _ b => ownBinding tenantId customerId b &&
      b.identityType = .email && PyStr.strip b.normalizedValue ≠ "").map fun r =>
    env.lower (PyStr.strip r.2.normalizedValue)) ++
  match given ((db.customers.get? customerId).bind (·.email)) with
  | none => []
  | some email => [env.lower (PyStr.strip email)]

def sqlTrim (s : String) : String :=
  String.ofList (((s.toList.dropWhile (· = ' ')).reverse.dropWhile (· = ' ')).reverse)

def fromSubject (tenantId : ℕ) (values : List String) (q : EmailIntakeQuarantine) : Bool :=
  q.tenantId = some tenantId && env.sqlLower (sqlTrim q.fromAddress) ∈ values

def redactedQuarantine (now : Instant) (id : ℕ) (q : EmailIntakeQuarantine) :
    EmailIntakeQuarantine :=
  { q with
    fromAddress := pseudonym env q.fromAddress "email-quarantine" id ++ "@invalid"
    fromName := none
    toAddress := none
    cc := none
    subject := none
    body := redactedText
    mailboxMessageId := none
    mailboxReferences := none
    inReplyTo := none
    status := "rejected"
    reasonCode := "privacy_redacted"
    conversationId := none
    ticketId := none
    updatedAt := now }

def redactedBinding (now : Instant) (id : ℕ) (b : CustomerIdentityBinding) :
    CustomerIdentityBinding :=
  let replacement := pseudonym env b.normalizedValue ("identity-" ++ kindText b.identityType) id
  { b with
    normalizedValue := if b.identityType = .email then replacement ++ "@invalid" else replacement
    source := "privacy_erasure"
    updatedAt := now }

/-- the key of `uq_customer_identity_tenant_type_value`, and of the index of the shadow domain. -/
def bindingKey (b : CustomerIdentityBinding) : Option ℕ × Customers.IdentityKind × String :=
  (b.tenantId, b.identityType, b.normalizedValue)

/-- `redact_channel_identity_subject_records`, with the number of its rows. -/
def redactChannelIdentity (now : Instant) (tenantId customerId : ℕ) :
    Except SubjectFailure (ℕ × SubjectDb) := do
  demand ((db.customers.get? customerId).any (·.tenantId = some tenantId))
    "privacy_customer_identity_scope_conflict"
  let values := emailValues env db tenantId customerId
  let mine := fun (_ : ℕ) => ownBinding tenantId customerId
  let mails := fun (_ : ℕ) => fromSubject env tenantId values
  let bindings ← rewriteUnique bindingKey db.bindings mine (redactedBinding env now)
  return ((db.bindings.select mine).length + (db.quarantine.select mails).length, { db with
    bindings := bindings
    quarantine := rewriteRows db.quarantine mails (redactedQuarantine env now) })

def erasedProfile (now : Instant) (id : ℕ) (c : CustomerProfile) : CustomerProfile :=
  { c with
    name := pseudonym env c.name "customer" id
    email := none
    emailNormalized := none
    phone := none
    phoneNormalized := none
    externalRef := none
    updatedAt := now }

def erasedCase (now : Instant) (t : TicketCase) : TicketCase :=
  { t with
    title := "Erased customer case"
    description := redactedText
    trackingNumber := none
    aiSummary := none
    issueSummary := none
    customerRequest := none
    sourceChatId := none
    sourceDedupeKey := none
    requiredAction := none
    missingFields := none
    lastCustomerMessage := none
    customerUpdate := none
    resolutionSummary := none
    lastHumanUpdate := none
    lastAiUpdate := none
    requestedTime := none
    destination := none
    preferredReplyChannel := none
    preferredReplyContact := none
    updatedAt := now }

def erasedEvent (e : TicketEvent) : TicketEvent :=
  { e with
    oldValue := none
    newValue := none
    note := some redactedText
    payloadJson := some
      "\x7b\"schema\":\"nexus.privacy-redaction.v1\",\"redacted\":true\x7d" }

def erasedOutbound (r : OutboundRow) : OutboundRow :=
  { message := { r.message with
      body := redactedText
      runtimeContractPayloadJson := none
      errorMessage := none
      mailboxThreadId := none
      mailboxMessageId := none
      mailboxReferences := none
      failureReason := none }
    subject := none
    deliveryDetail := none
    deliveryPayloadJson := none }

def erasedInbound (id : ℕ) (m : InboundEmail) : InboundEmail :=
  { m with
    fromAddress := pseudonym env m.fromAddress "email" id ++ "@invalid"
    fromName := none
    toAddress := none
    cc := none
    subject := none
    body := redactedText
    bodyPreview := none
    mailboxThreadId := pseudonym env m.mailboxThreadId "thread" id
    mailboxMessageId := none
    mailboxReferences := none
    inReplyTo := none }

def erasedIntake (a : TicketAIIntake) : TicketAIIntake :=
  { a with
    summary := redactedText
    missingFieldsJson := none
    recommendedAction := none
    suggestedReply := none
    rawPayloadJson := none
    humanOverrideReason := none }

def erasedMedia (now : Instant) (id : ℕ) (m : WhatsAppMediaAsset) : WhatsAppMediaAsset :=
  { m with
    providerMediaId := pseudonym env m.providerMediaId "whatsapp-media" id
    fileName := some redactedText
    storageKey := none
    ticketAttachmentId := none
    sha256 := none
    providerUrlExpiresAt := none
    lastErrorCode := none
    lastErrorMessage := none
    storageStatus := "deleted"
    updatedAt := now }

def erasedWhatsApp (id : ℕ) (m : WhatsAppInboundMessage) : WhatsAppInboundMessage :=
  { m with
    externalMessageId := pseudonym env m.externalMessageId "whatsapp-message" id
    chatJid := pseudonym env m.chatJid "chat" id
    senderJid := pseudonym env m.senderJid "sender" id
    senderPhone := none
    bodyText := redactedText
    rawPayloadJson := none }

def erasedPart (now : Instant) (p : WhatsAppOutboundPart) : WhatsAppOutboundPart :=
  { p with
    providerMediaId := none
    providerMessageId := none
    fileName := if (given p.fileName).isSome then some redactedText else none
    failureCode := none
    failureReason := none
    updatedAt := now }

def erasedConversation (now : Instant) (id : ℕ) (c : WebchatConversation) : WebchatConversation :=
  { c with
    visitorName := some (pseudonym env ((given c.visitorName).getD "visitor") "visitor" id)
    visitorEmail := none
    visitorPhone := none
    visitorRef := none
    pageUrl := none
    userAgent := none
    lastTrackingNumber := none
    aiSuspendedReason := none
    lastHandoffReason := none
    updatedAt := now }

def erasedMessage (m : WebchatMessage) : WebchatMessage :=
  { m with
    body := redactedText
    bodyText := none
    payloadJson := none
    metadataJson := none
    authorLabel := none
    safetyReasonsJson := none }

def erasedTurn (t : WebchatAITurn) : WebchatAITurn :=
  { t with
    statusReason := none
    runtimeTraceJson := none
    fallbackReason := none
    factGateReason := none }

/-! ### the walk -/

def redactTicketGraph (now : Instant) (customerId : ℕ) (ids : List ℕ) : SubjectDb :=
  { db with
    customers := db.customers.modify customerId (erasedProfile env now customerId)
    tickets := rewriteRows db.tickets (fun i _ => i ∈ ids) fun _ t => erasedCase now t
    comments := rewriteRows db.comments (fun _ r => r.ticketId ∈ ids) fun _ r =>
      { r with body := redactedText }
    notes := rewriteRows db.notes (fun _ r => r.ticketId ∈ ids) fun _ r =>
      { r with body := redactedText }
    events := rewriteRows db.events (fun _ r => r.ticketId ∈ ids) fun _ r => erasedEvent r
    outbound := rewriteRows db.outbound (fun _ r => r.message.ticketId ∈ ids) fun _ r =>
      erasedOutbound r
    inboundEmail := rewriteRows db.inboundEmail (fun _ r => r.ticketId ∈ ids) (erasedInbound env)
    intakes := rewriteRows db.intakes (fun _ r => r.ticketId ∈ ids) fun _ r => erasedIntake r }

def inWhatsAppScope (ticketIds conversationIds : List ℕ) (m : WhatsAppInboundMessage) : Bool :=
  m.ticketId.any (· ∈ ticketIds) || m.conversationId.any (· ∈ conversationIds)

def mediaOf (inboundIds outboundIds : List ℕ) (a : WhatsAppMediaAsset) : Bool :=
  a.inboundMessageId.any (· ∈ inboundIds) || a.outboundMessageId.any (· ∈ outboundIds)

def outboundIds (ticketIds : List ℕ) : List ℕ :=
  idsWhere db.outbound fun r => r.message.ticketId ∈ ticketIds

def subjectMedia (g : SubjectGraph) : WhatsAppMediaAsset → Bool :=
  mediaOf (idsWhere db.whatsappInbound (inWhatsAppScope g.ticketIds g.conversationIds))
    (outboundIds db g.ticketIds)

/-- the blob of an asset is deleted; without a key there is none. -/
def deleteBlob (a : WhatsAppMediaAsset) : Except SubjectFailure Unit :=
  let storageKey := PyStr.strip (a.storageKey.getD "")
  if storageKey = "" then .ok ()
  else
    match env.delete storageKey with
    | none => .error (.lifecycle { code := "privacy_whatsapp_media_blob_delete_failed" })
    | some receipt =>
      demand (receipt.deleted || receipt.alreadyAbsent)
        "privacy_whatsapp_media_blob_delete_not_verified"

def mediaKey (a : WhatsAppMediaAsset) : ℕ × String × String :=
  (a.connectionId, a.provider, a.providerMediaId)

def inboundKey (m : WhatsAppInboundMessage) : ℕ × String := (m.channelAccountId, m.externalMessageId)

def flushTickets (now : Instant) (rows : List (ℕ × TicketCase))
    (assignments : Table ScenarioAssignment) : Except SubjectFailure (Table ScenarioAssignment) :=
  rows.foldlM (insertAutomaticAssignment env now) assignments

def flushOutbound (rows : List (ℕ × OutboundRow)) : Except SubjectFailure Unit :=
  rows.forM fun r => outboundListeners env db r.2.message

/-- `redact_whatsapp_subject_records`, up to its flush, which also writes the ticket graph. -/
def redactWhatsApp (now : Instant) (g : SubjectGraph) : Except SubjectFailure (ℕ × SubjectDb) := do
  let inScope := fun (_ : ℕ) => inWhatsAppScope g.ticketIds g.conversationIds
  let assets := fun (_ : ℕ) => subjectMedia db g
  let ofParts := fun (_ : ℕ) (p : WhatsAppOutboundPart) =>
    decide (p.outboundMessageId ∈ outboundIds db g.ticketIds)
  ((db.media.select assets).map (·.2)).forM (deleteBlob env)
  let assignments ← flushTickets env now (db.tickets.select fun i _ => i ∈ g.ticketIds)
    db.assignments
  flushOutbound env db (db.outbound.select fun _ r => r.message.ticketId ∈ g.ticketIds)
  let inbound ← rewriteUnique inboundKey db.whatsappInbound inScope (erasedWhatsApp env)
  let media ← rewriteUnique mediaKey db.media assets (erasedMedia env now)
  return ((db.whatsappInbound.select inScope).length + (db.media.select assets).length +
      (db.parts.select ofParts).length,
    { db with
      assignments := assignments
      whatsappInbound := inbound
      media := media
      parts := rewriteRows db.parts ofParts fun _ p => erasedPart now p })

def redactConversations (now : Instant) (ids : List ℕ) : SubjectDb :=
  { db with
    conversations := rewriteRows db.conversations (fun i _ => i ∈ ids) (erasedConversation env now)
    messages := rewriteRows db.messages (fun _ m => m.conversationId ∈ ids) fun _ m =>
      erasedMessage m
    turns := rewriteRows db.turns (fun _ t => t.conversationId ∈ ids) fun _ t => erasedTurn t }

def ticketRowCount (ids : List ℕ) : ℕ :=
  (idsWhere db.comments (·.ticketId ∈ ids)).length + (idsWhere db.notes (·.ticketId ∈ ids)).length +
    (idsWhere db.events (·.ticketId ∈ ids)).length + (outboundIds db ids).length +
    (idsWhere db.inboundEmail (·.ticketId ∈ ids)).length +
    (idsWhere db.intakes (·.ticketId ∈ ids)).length

def conversationRowCount (ids : List ℕ) : ℕ :=
  (db.conversations.select fun i _ => i ∈ ids).length +
    (idsWhere db.messages (·.conversationId ∈ ids)).length +
    (idsWhere db.turns (·.conversationId ∈ ids)).length

def anonymizeSubject (now : Instant) (tenantId customerId : ℕ) :
    Except SubjectFailure (AnonymizationReceipt × SubjectDb) := do
  let g := subjectGraph db tenantId customerId
  demand g.attachmentIds.isEmpty "privacy_attachment_blob_receipt_required"
  demand (!(subjectCases db tenantId customerId).any fun r => activeTicket r.2.status)
    "privacy_active_case_blocks_deletion"
  demand (!subjectHeld db tenantId customerId g.ticketIds) legalHoldBlocks
  let (identityRows, new) ← redactChannelIdentity env db now tenantId customerId
  let (whatsappRows, new) ←
    redactWhatsApp env (redactTicketGraph env new now customerId g.ticketIds) now g
  let related := identityRows + ticketRowCount db g.ticketIds + whatsappRows +
    conversationRowCount db g.conversationIds
  return (⟨g.ticketIds.length, g.conversationIds.length,
      (idsWhere db.messages (·.conversationId ∈ g.conversationIds)).length, related,
      env.subjectSha customerId g.ticketIds now⟩,
    redactConversations env new now g.conversationIds)

def completedRequest (receipt : AnonymizationReceipt) (r : DataSubjectRequest) :
    DataSubjectRequest :=
  { r with status := .completed, blockedReason := none, manifest := some ⟨receipt, none⟩ }

def executeDataSubjectDeletion (now : Instant) (tenantId requestId : ℕ) :
    Except SubjectFailure (AnonymizationReceipt × SubjectDb) :=
  match db.requests.get? requestId with
  | none => .error (.lifecycle ⟨"dsar_not_found", 404⟩)
  | some r =>
    if r.tenantId ≠ tenantId then .error (.lifecycle ⟨"dsar_not_found", 404⟩)
    else if r.kind ≠ .delete then .error (.lifecycle ⟨"dsar_not_delete_request", 400⟩)
    else
      match r.status, r.manifest with
      | .completed, some manifest => .ok (manifest.receipt, db)
      | _, _ => do
        demand (r.status = .qualified || r.status = .processing) "dsar_not_qualified"
        demand ((db.customers.get? r.customerId).any (·.tenantId = some tenantId))
          "dsar_customer_authority_conflict"
        let (receipt, new) ← anonymizeSubject env db now tenantId r.customerId
        return (receipt,
          { new with requests := new.requests.modify requestId (completedRequest receipt) })

end Subject

end NexusHelpdesk.Privacy
