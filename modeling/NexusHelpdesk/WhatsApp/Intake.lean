import NexusHelpdesk.Privacy.Subject
import NexusHelpdesk.Desk.Words

/-!
# WhatsApp messages are taken in (`whatsapp_inbound.py`, `channel_intake_service.py`)

A message of a customer on an active account: the ledger, the customer behind its phone number or
its chat, the conversation of the chat, and the message.

* `readMessage`: what `ingest_whatsapp_inbound` reads of a payload;
* `resolveOrCreateCustomer`, `bindCustomerIdentity`: the identities, in one transaction;
* `resolveChannelIntakeContext`, `appendChannelCustomerMessage`;
* `ingestWhatsAppInbound`;
* `executeDataSubjectCorrection` of `data_subject_action_service.py`;
* `IntakeWorld`, `intakeStep`: messages, corrections and erasures in any order.

Messages of the account itself, media and the turn of the AI are left out.
-/

namespace NexusHelpdesk.WhatsApp

open Lib Privacy

/-! ## payloads -/

/-- an active account, with the scope that `_account_scope` gives it. -/
structure ActiveAccount where
  id : ℕ
  tenantId : ℕ
  tenantKey : String
  countryCode : Option String
deriving DecidableEq, Repr

structure IntakeEnv where
  identity : Customers.IdentityEnv
  erasure : ErasureEnv
  account : String → Option ActiveAccount
  /-- `str.lower` and `str.casefold`. -/
  casefold : String → String

/-- `payload`, with `received_at` as it is parsed. -/
structure InboundPayload where
  accountId : Option String
  externalMessageId : Option String
  chatJid : Option String
  senderJid : Option String
  senderPhone : Option String
  senderName : Option String
  messageType : Option String
  bodyText : Option String
  raw : Option String
  transport : String
  receivedAt : Instant
deriving DecidableEq, Repr

inductive IntakeError where
  /-- not a message of a customer on an active account. -/
  | payload (code : String)
  /-- `CustomerIdentityError`. -/
  | identity (code : String)
  /-- `ChannelIntakeError`. -/
  | scope (code : String)
deriving DecidableEq, Repr

/-- `text[:n]`. -/
def cut (n : ℕ) (s : String) : String := String.ofList (s.toList.take n)

def clipInbound (n : ℕ) (value : Option String) : Option String :=
  let text := PyStr.strip (value.getD "")
  if text = "" then none else some (cut n text)

def isCustomerChatJid (jid : String) : Bool :=
  jid ≠ "" && jid ≠ "status@broadcast" &&
    !(["@broadcast", "@g.us", "@newsletter"].any fun suffix =>
      suffix.toList.isSuffixOf jid.toList)

structure CustomerMessage where
  account : ActiveAccount
  externalId : String
  chatJid : String
  body : String
  senderJid : String
  senderPhone : Option String
  senderName : Option String
  messageType : String
  raw : Option String
  transport : String
  receivedAt : Instant
  externalId_ne : PyStr.strip externalId ≠ ""
  body_ne : PyStr.strip body ≠ ""

lemma strip_of_clip {n : ℕ} {value : Option String} {t : String} (hn : 0 < n)
    (h : clipInbound n value = some t) : PyStr.strip t ≠ "" := by
  unfold clipInbound at h
  dsimp only at h
  split at h
  · cases h
  · rename_i hne
    cases h
    obtain ⟨-, -, -, -, -, htrim⟩ := PyStr.stripChars_parts (value.getD "").toList
    have hfirst : ∃ c cs, (PyStr.strip (value.getD "")).toList = c :: cs ∧
        PyStr.isSpace c = false := by
      rw [show (PyStr.strip (value.getD "")).toList = PyStr.stripChars (value.getD "").toList from
        String.toList_ofList]
      cases hstrip : PyStr.stripChars (value.getD "").toList with
      | nil => exact absurd (congrArg String.ofList hstrip) hne
      | cons c cs => exact ⟨c, cs, rfl, htrim.1 c (by rw [hstrip]; rfl)⟩
    obtain ⟨c, cs, hlist, hspace⟩ := hfirst
    refine PyStr.strip_ne_iff.2 ⟨c, ?_, hspace⟩
    unfold cut
    rw [String.toList_ofList, hlist]
    cases n with
    | zero => exact absurd hn (lt_irrefl 0)
    | succ n => exact List.mem_cons_self ..

/-- the payload of a message, as far as `_account_context`. -/
def readMessage (env : IntakeEnv) (p : InboundPayload) : Except IntakeError CustomerMessage :=
  match clipInbound 160 p.accountId, hext : clipInbound 180 p.externalMessageId,
      clipInbound 180 p.chatJid, hbody : clipInbound 4000 p.bodyText with
  | some accountId, some externalId, some chatJid, some body =>
    if isCustomerChatJid chatJid then
      match env.account accountId with
      | none => .error (.payload "unknown_whatsapp_channel_account")
      | some account => .ok
        { account := account
          externalId := externalId
          chatJid := chatJid
          body := body
          senderJid := (clipInbound 180 p.senderJid).getD chatJid
          senderPhone := clipInbound 80 p.senderPhone
          senderName := clipInbound 160 p.senderName
          messageType := (clipInbound 80 p.messageType).getD "text"
          raw := p.raw
          transport := p.transport
          receivedAt := p.receivedAt
          externalId_ne := strip_of_clip (by decide) hext
          body_ne := strip_of_clip (by decide) hbody }
    else .error (.payload "ignored_whatsapp_non_customer_chat")
  | _, _, _, _ => .error (.payload "invalid_whatsapp_inbound_payload")

/-! ## identities -/

section Identity
variable (env : IntakeEnv) (db : SubjectDb) (now : Instant) (tenantId : ℕ)

def customerIdentity (identityType identityValue : String) :
    Except IntakeError Customers.CustomerIdentity :=
  (Customers.normalizeCustomerIdentity env.identity identityType.toList
    identityValue.toList).mapError .identity

def bindingOf (i : Customers.CustomerIdentity) : Option CustomerIdentityBinding :=
  ((db.bindings.select fun _ b => b.tenantId = some tenantId && b.identityType = i.kind &&
    b.normalizedValue = String.ofList i.value).head?).map (·.2)

def profileOf (c : CustomerProfile) : Customers.IdentityKind → Option String
  | .email => c.emailNormalized
  | .phone => c.phoneNormalized
  | .externalRef => c.externalRef

def legacyCustomers (i : Customers.CustomerIdentity) : List ℕ :=
  ((db.customers.select fun _ c => c.tenantId = some tenantId &&
    profileOf c i.kind = some (String.ofList i.value)).take 2).map (·.1)

def appliedProfile (i : Customers.CustomerIdentity) (displayName : String) (c : CustomerProfile) :
    CustomerProfile :=
  let name := PyStr.strip displayName
  let named := if name ≠ "" ∧ (c.name = "" ∨ "Customer ".toList.isPrefixOf c.name.toList) then
    { c with name := cut 160 name } else c
  let value := String.ofList i.value
  let filled := if (given (profileOf c i.kind)).isSome then named else
    match i.kind with
    | .email =>
      { named with email := some (cut 200 value), emailNormalized := some (cut 200 value) }
    | .phone => { named with phone := some (cut 60 value), phoneNormalized := some (cut 60 value) }
    | .externalRef => { named with externalRef := some (cut 120 value) }
  { filled with updatedAt := now }

def applyProfile (customerId : ℕ) (i : Customers.CustomerIdentity) (displayName : String) :
    SubjectDb :=
  { db with customers := db.customers.modify customerId (appliedProfile now i displayName) }

def addBinding (customerId : ℕ) (i : Customers.CustomerIdentity) : SubjectDb :=
  let binding : CustomerIdentityBinding :=
    ⟨some tenantId, customerId, i.kind, String.ofList i.value, "whatsapp", now, now⟩
  { db with bindings := db.bindings.insert binding }

def newCustomer (i : Customers.CustomerIdentity) (displayName : String) : CustomerProfile where
  tenantId := some tenantId
  name := cut 160 (if PyStr.strip displayName = "" then String.ofList i.value
    else PyStr.strip displayName)
  email := none
  phone := none
  externalRef := none
  updatedAt := now
  emailNormalized := none
  phoneNormalized := none
  createdAt := now

def knownCustomer (i : Customers.CustomerIdentity) : Except IntakeError (Option ℕ) :=
  match bindingOf db tenantId i with
  | some b =>
    -- `_load_bound_customer`
    if (db.customers.get? b.customerId).any (·.tenantId = b.tenantId) then .ok (some b.customerId)
    else .error (.identity "customer_identity_binding_conflict")
  | none =>
    match legacyCustomers db tenantId i with
    | [] => .ok none
    | [customerId] => .ok (some customerId)
    | _ => .error (.identity "customer_identity_legacy_collision")

def resolveOrCreateCustomer (i : Customers.CustomerIdentity) (displayName : String) :
    Except IntakeError (ℕ × SubjectDb) := do
  match ← knownCustomer db tenantId i with
  | none =>
    let id := db.customers.next
    let new := { db with customers := db.customers.insert (newCustomer now tenantId i displayName) }
    return (id, addBinding (applyProfile new now id i displayName) now tenantId id i)
  | some id =>
    let new := applyProfile db now id i displayName
    return (id, if (bindingOf db tenantId i).isSome then new else addBinding new now tenantId id i)

def bindCustomerIdentity (customerId : ℕ) (i : Customers.CustomerIdentity) (displayName : String) :
    Except IntakeError SubjectDb :=
  match bindingOf db tenantId i with
  | some b =>
    if b.customerId = customerId then .ok (applyProfile db now customerId i displayName)
    else .error (.identity "customer_identity_already_bound")
  | none =>
    .ok (addBinding (applyProfile db now customerId i displayName) now tenantId customerId i)

end Identity

/-! ## conversations -/

section Conversation
variable (env : IntakeEnv) (db : SubjectDb) (now : Instant)

/-- `f"whatsapp:{chat_jid}"[:160]`. -/
def chatRef (chatJid : String) : String := cut 160 ("whatsapp:" ++ chatJid)

def channelConversationPublicId (account : ActiveAccount) (chatJid : String) : String :=
  "wa_" ++ cut 32 (env.erasure.sha256 (account.tenantKey ++ ":whatsapp:" ++ toString account.id ++
    ":" ++ env.casefold (PyStr.strip chatJid)))

def conversationOf (publicId : String) : Option (ℕ × WebchatConversation) :=
  (db.conversations.select fun _ c => c.publicId = publicId).head?

def controlOf (conversationId : ℕ) : Option (ℕ × ConversationControl) :=
  (db.controls.select fun _ c => c.conversationId = conversationId).head?

def displayName (m : CustomerMessage) : String :=
  (m.senderName.or m.senderPhone).getD
    ("WhatsApp " ++ String.ofList (m.chatJid.toList.takeWhile (· ≠ '@')))

def orGiven (a b : Option String) : Option String := if (given a).isSome then a else b

def newConversation (m : CustomerMessage) (customer : Option CustomerProfile) :
    WebchatConversation where
  ticketId := none
  publicId := channelConversationPublicId env m.account m.chatJid
  tenantKey := m.account.tenantKey
  channelKey := "whatsapp"
  visitorName := given (some (cut 160 (displayName m)))
  visitorEmail := given ((customer.bind (·.email)).map (cut 200))
  visitorPhone := given ((orGiven m.senderPhone (customer.bind (·.phone))).map (cut 80))
  visitorRef := some (chatRef m.chatJid)
  pageUrl := none
  userAgent := none
  status := "open"
  lastTrackingNumber := none
  aiSuspendedReason := none
  lastHandoffReason := none
  createdAt := now
  updatedAt := now

def seenConversation (m : CustomerMessage) (c : WebchatConversation) : WebchatConversation :=
  { c with
    visitorPhone := orGiven c.visitorPhone (m.senderPhone.map (cut 80))
    visitorName := orGiven c.visitorName (given (some (cut 160 (displayName m))))
    updatedAt := now }

/-- the conversation of a chat, which is created if need be. -/
def resolveConversation (m : CustomerMessage) (customerId : ℕ) :
    Except IntakeError (ℕ × SubjectDb) :=
  match conversationOf db (channelConversationPublicId env m.account m.chatJid) with
  | none => .ok (db.conversations.next, { db with
      conversations := db.conversations.insert
        (newConversation env now m (db.customers.get? customerId)) })
  | some (id, c) =>
    if c.tenantKey = m.account.tenantKey ∧ c.channelKey = "whatsapp" then
      .ok (id, { db with conversations := db.conversations.modify id (seenConversation now m) })
    else .error (.scope "channel_conversation_scope_conflict")

def controlFits (account : ActiveAccount) (customerId : Option ℕ) (c : ConversationControl) :
    Bool :=
  c.tenantKey = account.tenantKey && c.channelKey = "whatsapp" &&
    (c.customerId = none || c.customerId = customerId) &&
    (account.countryCode = none || c.countryCode = none || c.countryCode = account.countryCode)

def resolveControl (account : ActiveAccount) (conversationId customerId : ℕ) :
    Except IntakeError SubjectDb :=
  match controlOf db conversationId with
  | none =>
    let control : ConversationControl :=
      ⟨conversationId, account.tenantKey, "whatsapp", account.countryCode, some customerId, none,
        none⟩
    .ok { db with controls := db.controls.insert control }
  | some (id, c) =>
    if controlFits account (some customerId) c then
      .ok { db with controls := db.controls.modify id fun c =>
        { c with
          customerId := some customerId
          countryCode := account.countryCode.or c.countryCode } }
    else .error (.scope "channel_conversation_scope_conflict")

def primaryIdentity (m : CustomerMessage) : Except IntakeError Customers.CustomerIdentity :=
  match m.senderPhone with
  | some phone => customerIdentity env "phone" phone
  | none => customerIdentity env "external_ref" (chatRef m.chatJid)

structure IntakeContext where
  customerId : ℕ
  conversationId : ℕ
deriving DecidableEq, Repr

def resolveChannelIntakeContext (m : CustomerMessage) :
    Except IntakeError (IntakeContext × SubjectDb) := do
  let primary ← primaryIdentity env m
  let (customerId, new) ←
    resolveOrCreateCustomer db now m.account.tenantId primary (displayName m)
  let chat ← customerIdentity env "external_ref" (chatRef m.chatJid)
  let new ← bindCustomerIdentity new now m.account.tenantId customerId chat (displayName m)
  let (conversationId, new) ← resolveConversation env new now m customerId
  let new ← resolveControl new m.account conversationId customerId
  return (⟨customerId, conversationId⟩, new)

/-! ## messages -/

def clientId (externalId : String) : String := cut 120 (PyStr.strip externalId)

def messageOf (conversationId : ℕ) (client : String) : Option (ℕ × WebchatMessage) :=
  (db.messages.select fun _ x =>
    x.conversationId = conversationId && x.clientMessageId = some client).head?

def ticketOf (conversationId : ℕ) : Option (ℕ × TicketCase) := do
  let c ← db.conversations.get? conversationId
  let id ← c.ticketId
  let t ← db.tickets.get? id
  return (id, t)

def terminalTicket (s : TicketStatus) : Bool := s ∈ [.resolved, .closed, .canceled]

/-- `reopen_ticket_from_customer_message`, on the ticket. -/
def reopenedTicket (now : Instant) (t : TicketCase) : TicketCase :=
  if terminalTicket t.status then
    { t with
      status := .pendingAssignment
      closedAt := none
      resolutionSummary := none
      updatedAt := now }
  else t

def contactedTicket (now : Instant) (body : String) (t : TicketCase) : TicketCase :=
  { reopenedTicket now t with
    lastCustomerMessage := some (cut 4000 body)
    customerRequest := orGiven t.customerRequest (some (cut 4000 body))
    preferredReplyChannel := some "whatsapp"
    updatedAt := now }

/-- `reopen_from_customer_message`, on the conversation and its control row. -/
def reopenConversation (conversationId : ℕ) : SubjectDb :=
  { db with
    conversations := db.conversations.modify conversationId fun c =>
      { c with status := "open", updatedAt := now }
    controls := db.controls.mapRows fun _ c =>
      if c.conversationId = conversationId then { c with outcome := none, closedAt := none }
      else c }

def newMessage (m : CustomerMessage) (conversationId : ℕ) : WebchatMessage where
  conversationId := conversationId
  direction := "visitor"
  body := PyStr.strip m.body
  bodyText := some (PyStr.strip m.body)
  clientMessageId := some (clientId m.externalId)
  messageType := "text"
  payloadJson := none
  metadataJson := m.raw
  authorLabel := some (cut 120 (displayName m))
  safetyReasonsJson := none
  createdAt := m.receivedAt

def appendChannelCustomerMessage (m : CustomerMessage) (conversationId : ℕ) :
    Except IntakeError (ℕ × Option ℕ × SubjectDb) :=
  if clientId m.externalId = "" ∨ PyStr.strip m.body = "" then
    .error (.scope "channel_message_identity_and_body_required")
  else
    let ticket := ticketOf db conversationId
    if ticket.any fun t => t.2.tenantId ≠ some m.account.tenantId then
      .error (.scope "channel_ticket_tenant_conflict")
    else
      match messageOf db conversationId (clientId m.externalId) with
      | some (id, _) => .ok (id, ticket.map (·.1), db)
      | none =>
        let new := reopenConversation db now conversationId
        .ok (db.messages.next, ticket.map (·.1), { new with
          messages := new.messages.insert (newMessage m conversationId)
          tickets := match ticket with
            | none => new.tickets
            | some (id, _) => new.tickets.modify id (contactedTicket now (PyStr.strip m.body)) })

def ledgerRow (m : CustomerMessage) : Option (ℕ × WhatsAppInboundMessage) :=
  (db.whatsappInbound.select fun _ r =>
    r.channelAccountId = m.account.id && r.externalMessageId = m.externalId).head?

def newLedgerRow (m : CustomerMessage) : WhatsAppInboundMessage where
  channelAccountId := m.account.id
  ticketId := none
  conversationId := none
  webchatMessageId := none
  externalMessageId := m.externalId
  chatJid := m.chatJid
  senderJid := m.senderJid
  senderPhone := m.senderPhone
  messageType := m.messageType
  bodyText := m.body
  rawPayloadJson := m.raw
  receivedAt := m.receivedAt
  processedAt := none

def projectMessage (m : CustomerMessage) : Except IntakeError (IntakeContext × SubjectDb) := do
  let id := db.whatsappInbound.next
  let stored := { db with whatsappInbound := db.whatsappInbound.insert (newLedgerRow m) }
  let (context, new) ← resolveChannelIntakeContext env stored now m
  let (messageId, ticketId, new) ← appendChannelCustomerMessage new now m context.conversationId
  return (context, { new with whatsappInbound := new.whatsappInbound.modify id fun r =>
    { r with
      ticketId := ticketId
      conversationId := some context.conversationId
      webchatMessageId := some messageId
      processedAt := some now } })

/-- `ingest_whatsapp_inbound` on a message, without a context where the ledger has it. -/
def ingestMessage (m : CustomerMessage) : Except IntakeError (Option IntakeContext × SubjectDb) :=
  match ledgerRow db m with
  | some _ => .ok (none, db)
  | none => (projectMessage env db now m).map fun r => (some r.1, r.2)

end Conversation

/-- what a request corrects, cleaned by `_correction_payload`. -/
structure CorrectionValues where
  name : Option String
  email : Option String
  phone : Option String
  externalRef : Option String
deriving DecidableEq, Repr

def profileTaken (db : SubjectDb) (tenantId customerId : ℕ) (kind : Customers.IdentityKind)
    (value : Option String) : Bool :=
  value.any fun v => !(db.customers.select fun i c =>
    c.tenantId = some tenantId && i ≠ customerId && profileOf c kind = some v).isEmpty

def correctedProfile (now : Instant) (v : CorrectionValues) (c : CustomerProfile) :
    CustomerProfile :=
  { c with
    name := v.name.getD c.name
    email := v.email.or c.email
    emailNormalized := v.email.or c.emailNormalized
    phone := v.phone.or c.phone
    phoneNormalized := v.phone.or c.phoneNormalized
    externalRef := v.externalRef.or c.externalRef
    updatedAt := now }

/-- `execute_data_subject_correction`; what it refuses changes nothing. -/
def executeDataSubjectCorrection (db : SubjectDb) (now : Instant) (requestId : ℕ)
    (v : CorrectionValues) : SubjectDb :=
  match db.requests.get? requestId with
  | none => db
  | some r =>
    let open' := r.status = .qualified || r.status = .processing
    let own := (db.customers.get? r.customerId).any (·.tenantId = some r.tenantId)
    let taken := profileTaken db r.tenantId r.customerId .email v.email ||
      profileTaken db r.tenantId r.customerId .phone v.phone ||
      profileTaken db r.tenantId r.customerId .externalRef v.externalRef
    if r.kind = .correct ∧ open' ∧ own ∧ ¬ taken then
      { db with
        customers := db.customers.modify r.customerId (correctedProfile now v)
        requests := db.requests.modify requestId fun r =>
          { r with status := .completed, blockedReason := none } }
    else db

/-! ## runs -/

structure Intake where
  message : CustomerMessage
  /-- where it went, unless the ledger had it. -/
  context : Option IntakeContext
  before : Table WebchatMessage
  after : Table WebchatMessage

structure IntakeWorld where
  db : SubjectDb
  /-- the messages so far, the last one first. -/
  intakes : List Intake
  /-- the exceptions about customers and scopes. -/
  raised : List IntakeError

inductive IntakeStep where
  | ingest (now : Instant) (p : InboundPayload)
  | request (r : DataSubjectRequest)
  | correct (now : Instant) (requestId : ℕ) (v : CorrectionValues)
  | erase (now : Instant) (tenantId requestId : ℕ)

def ingestStep (env : IntakeEnv) (w : IntakeWorld) (now : Instant) (m : CustomerMessage) :
    IntakeWorld :=
  match ingestMessage env w.db now m with
  | .ok (context, db) =>
    { w with db := db, intakes := ⟨m, context, w.db.messages, db.messages⟩ :: w.intakes }
  | .error e => { w with raised := e :: w.raised }

def intakeStep (env : IntakeEnv) : IntakeStep → IntakeWorld → IntakeWorld
  | .ingest now p, w =>
    match readMessage env p with
    | .ok m => ingestStep env w now m
    | .error _ => w
  | .request r, w => { w with db := { w.db with requests := w.db.requests.insert r } }
  | .correct now requestId v, w =>
    { w with db := executeDataSubjectCorrection w.db now requestId v }
  | .erase now tenantId requestId, w =>
    match executeDataSubjectDeletion env.erasure w.db now tenantId requestId with
    | .ok (_, db) => { w with db := db }
    | .error _ => w

end NexusHelpdesk.WhatsApp
