import NexusHelpdesk.Visitors.Scope
import NexusHelpdesk.Lib.Run

/-!
# Conversations of visitors (`conversation_first_service.py`)

* `ensureConversationControl`, `assertResumeScope`: the control row and its check;
* `webchatIdentities`, `bindWebchatIdentities`: the identities of a visitor become the customer's;
* `resumeConversation`, `createConversation`: the two halves of `create_or_resume_conversation`;
* `initWebchat`, `sendWebchatMessage`: the two calls of a visitor up to the message itself;
* `visitorStep`: the calls of all visitors, and the tickets of the desk.
-/

namespace NexusHelpdesk.Visitors

open Lib Customers Snapshots

/-- the body of an init call; `tokenValid`: the token passes `validate_visitor_token`. -/
structure Payload where
  tokenValid : Bool
  visitorName : Option Text
  visitorEmail : Option Text
  visitorPhone : Option Text
  visitorRef : Option Text
  origin : Option Text
  pageUrl : Option Text
deriving DecidableEq, Repr

/-! ## the control row -/

def historicalCustomerId (d : VisitorDb) (c : Conversation) : Option ℕ :=
  (ticketOf d c).bind (·.customerId)

def ensuredControl (d : VisitorDb) (scope : Scope) (k : ℕ) (c : Conversation)
    (customerId : Option ℕ) : Control :=
  match d.controls k with
  | none => ⟨customerId, c.tenantKey, scope.countryCode, c.channelKey⟩
  | some row =>
    { customerId := row.customerId.or customerId
      tenantKey := c.tenantKey
      countryCode := (given scope.countryCode).or row.countryCode
      channelKey := c.channelKey }

def VisitorDb.setControl (d : VisitorDb) (k : ℕ) (row : Control) : VisitorDb :=
  { d with controls := Function.update d.controls k (some row) }

def relationshipConflict : HTTPException := ⟨409, "webchat_tenant_relationship_conflict"⟩

def assertResumeScope (d : VisitorDb) (scope : Scope) (tenantId : ℕ) (c : Conversation)
    (control : Control) : Except HTTPException Unit :=
  let customer := (control.customerId.or (historicalCustomerId d c)).bind d.identity.customers.get?
  if control.tenantKey ≠ scope.tenantKey ∨ control.channelKey ≠ scope.channelKey ∨
      control.countryCode ≠ scope.countryCode then
    .error relationshipConflict
  else if customer.map (·.tenantId) ≠ some (some tenantId) then .error relationshipConflict
  else .ok ()

def checkControl (d : VisitorDb) (scope : Scope) (tenantId k : ℕ) (c : Conversation) :
    Except HTTPException Unit :=
  match d.controls k with
  | none => .ok ()
  | some control => assertResumeScope d scope tenantId c control

/-! ## identities -/

def kindName : IdentityKind → Text
  | .email => "email".toList
  | .phone => "phone".toList
  | .externalRef => "external_ref".toList

section Code
variable (env : VisitorEnv)

/-- the identities of the given candidates, each once. -/
def collectIdentities (seen : List CustomerIdentity) :
    List (IdentityKind × Option Text) → Except String (List CustomerIdentity)
  | [] => .ok seen.reverse
  | (kind, value) :: rest =>
    match given value with
    | none => collectIdentities seen rest
    | some raw =>
      match normalizeCustomerIdentity env.toIdentityEnv (kindName kind) raw with
      | .error code => .error code
      | .ok i => collectIdentities (if i ∈ seen then seen else i :: seen) rest

def webchatIdentities (email phone ref : Option Text) (publicId : Text) :
    Except String (List CustomerIdentity) :=
  collectIdentities env []
    [(.phone, phone), (.email, email), (.externalRef, ref), (.externalRef, some publicId)]

def bindAll (customerId : ℕ) : List CustomerIdentity → IdentityDb → Except String IdentityDb
  | [], db => .ok db
  | i :: rest, db =>
    match bindCustomerIdentity env.toIdentityEnv db customerId (kindName i.kind) i.value with
    | .error code => .error code
    | .ok db => bindAll customerId rest db

/-- `_bind_webchat_identities`: a `CustomerIdentityError` is a conflict. -/
def bindWebchatIdentities (customerId : ℕ) (email phone ref : Option Text) (publicId : Text)
    (db : IdentityDb) : Except HTTPException IdentityDb :=
  ((webchatIdentities env email phone ref publicId) >>= fun identities =>
    bindAll env customerId identities db).mapError fun code => ⟨409, code⟩

/-- `_resolve_webchat_customer`: the identities are collected outside its `try`. -/
def resolveWebchatCustomer (tenantId : ℕ) (email phone ref : Option Text) (publicId : Text)
    (db : IdentityDb) : Except HTTPException (ℕ × IdentityDb) := do
  let identities ← (webchatIdentities env email phone ref publicId).mapError fun code => ⟨500, code⟩
  match identities with
  | [] => .error ⟨500, "IndexError"⟩
  | first :: _ => do
    let (customerId, db) ← (resolveOrCreateCustomer env.toIdentityEnv db tenantId
      (kindName first.kind) first.value).mapError fun code => (⟨409, code⟩ : HTTPException)
    let db ← bindWebchatIdentities env customerId email phone ref publicId db
    return (customerId, db)

/-! ## create or resume -/

/-- the conversation after a resume: what the body gives, else what it had. -/
def Conversation.resumed (c : Conversation) (payload : Payload) (req : Request)
    (origin : Option Text) : Conversation :=
  { c with
    visitorName := (clip payload.visitorName 160).or c.visitorName
    visitorEmail := (clip payload.visitorEmail 200).or c.visitorEmail
    visitorPhone := (clip payload.visitorPhone 80).or c.visitorPhone
    visitorRef := (clip payload.visitorRef 160).or c.visitorRef
    pageUrl := (clip payload.pageUrl 700).or c.pageUrl
    origin := origin.or c.origin
    userAgent := (clip req.userAgent 300).or c.userAgent }

def rebind (d : VisitorDb) (customerId : Option ℕ) (c : Conversation) :
    Except HTTPException IdentityDb :=
  match customerId.filter fun id => (d.identity.customers.get? id).isSome with
  | some id =>
    bindWebchatIdentities env id c.visitorEmail c.visitorPhone c.visitorRef c.publicId d.identity
  | none => .ok d.identity

/-- the second half of a resume, with the control row: the identities, and the conversation. -/
def takeBack (d : VisitorDb) (k : ℕ) (c : Conversation) (customerId : Option ℕ)
    (payload : Payload) (req : Request) : Except HTTPException VisitorDb := do
  let identity ← rebind env d customerId (c.resumed payload req none)
  let origin ← originFromRequest env req payload.origin
  let row := c.resumed payload req origin
  return { d with identity := identity, conversations := d.conversations.set k row }

def resumeConversation (d : VisitorDb) (scope : Scope) (tenantId k : ℕ) (c : Conversation)
    (payload : Payload) (req : Request) : Except HTTPException VisitorDb :=
  if payload.tokenValid then do
    let historical := historicalCustomerId d c
    checkControl d scope tenantId k c
    let control := ensuredControl d scope k c historical
    let d := d.setControl k control
    assertResumeScope d scope tenantId c control
    takeBack env d k c (control.customerId.or historical) payload req
  else .error ⟨403, "invalid webchat visitor token"⟩

/-- a new conversation; its scope columns are those of the verified scope. -/
def createConversation (d : VisitorDb) (scope : Scope) (tenantId : ℕ) (publicId : Text)
    (payload : Payload) (req : Request) : Except HTTPException (ℕ × VisitorDb) := do
  let email := clip payload.visitorEmail 200
  let phone := clip payload.visitorPhone 80
  let ref := clip payload.visitorRef 160
  let (customerId, identity) ← resolveWebchatCustomer env tenantId email phone ref publicId
    d.identity
  let _ ← originFromRequest env req payload.origin
  let k := d.conversations.next
  let c : Conversation :=
    { publicId := publicId
      tenantKey := scope.tenantKey
      channelKey := scope.channelKey
      ticketId := none
      visitorName := clip payload.visitorName 160
      visitorEmail := email
      visitorPhone := phone
      visitorRef := ref
      origin := scope.normalizedOrigin
      pageUrl := clip payload.pageUrl 700
      userAgent := clip req.userAgent 300 }
  return (k, { d with
    identity := identity
    conversations := d.conversations.insert c
    controls := Function.update d.controls k
      (some ⟨some customerId, scope.tenantKey, scope.countryCode, scope.channelKey⟩) })

def relationalTenant (scope : Scope) : Except HTTPException ℕ :=
  match env.tenant (env.lower (PyStr.stripChars scope.tenantKey)) with
  | some tenantId => .ok tenantId
  | none => .error ⟨403, "webchat_tenant_principal_required"⟩

/-- what a call names: tenant and channel. -/
structure Requested where
  tenantKey : Text
  channelKey : Text
deriving DecidableEq, Repr

/-- `init_webchat`: of the conversation under key `k`, or of a new one with the drawn public id. -/
def initWebchat (k : Option ℕ) (requested : Requested) (publicId : Text) (payload : Payload)
    (req : Request) (d : VisitorDb) : Except HTTPException (ℕ × VisitorDb) := do
  let scope ← resolvePublicWebchatScope env d req requested.tenantKey requested.channelKey k false
  let tenantId ← relationalTenant env scope
  match k.bind fun k => (d.conversations.get? k).map fun c => (k, c) with
  | some (k, c) => do
    let d ← resumeConversation env d scope tenantId k c payload req
    return (k, d)
  | none => createConversation env d scope tenantId publicId payload req

def sendWebchatMessage (k : ℕ) (tokenValid : Bool) (channelKey : Text) (req : Request)
    (d : VisitorDb) : Except HTTPException Unit :=
  match d.conversations.get? k with
  | none => .error ⟨404, "webchat conversation not found"⟩
  | some c =>
    if tokenValid then do
      let _ ← resolvePublicWebchatScope env d req c.tenantKey channelKey (some k) true
      return ()
    else .error ⟨403, "invalid webchat visitor token"⟩

end Code

def Conversation.link (c : Conversation) (ticketId : ℕ) : Conversation :=
  { c with ticketId := some ticketId }

inductive VisitorEvent where
  | init (k : Option ℕ) (requested : Requested) (publicId : Text) (payload : Payload)
    (req : Request)
  | message (k : ℕ) (tokenValid : Bool) (channelKey : Text) (req : Request)
  | createTicket (ticket : Ticket)
  | linkTicket (k ticketId : ℕ)
  | editTicket (ticketId : ℕ) (ticket : Ticket)
deriving DecidableEq, Repr

/-- a call that is refused is rolled back. -/
def visitorStep (env : VisitorEnv) (e : VisitorEvent) (d : VisitorDb) : VisitorDb :=
  match e with
  | .init k requested publicId payload req =>
    match initWebchat env k requested publicId payload req d with
    | .ok (_, d) => d
    | .error _ => d
  | .message _ _ _ _ => d
  | .createTicket ticket => { d with tickets := d.tickets.insert ticket }
  | .linkTicket k ticketId =>
    -- a foreign key
    if (d.tickets.get? ticketId).isSome then
      { d with conversations := d.conversations.modify k (·.link ticketId) }
    else d
  | .editTicket ticketId ticket => { d with tickets := d.tickets.set ticketId ticket }

end NexusHelpdesk.Visitors
