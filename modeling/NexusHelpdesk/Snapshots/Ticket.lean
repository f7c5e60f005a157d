import NexusHelpdesk.Snapshots.Visitor
import NexusHelpdesk.Lib.Run

/-!
# Tickets from handoff snapshots

The ticket of a snapshot is looked up by its event or by the tracking number, its conversation by
the session, its customer by the identities of the visitor.

* `existingTicket`, `findConversation`: the two look-ups;
* `addMessageOnce`, `conversation`: the conversation of the session takes the ticket, the customer
  and the messages;
* `createTicketFromWebchatSnapshot`: one job;
* `snapshotStep`: jobs, and tickets that are closed and reopened.
-/

namespace NexusHelpdesk.Snapshots

open Lib Customers

/-! ## tables -/

structure Ticket where
  tenantId : ℕ
  customerId : ℕ
  title : Text
  description : Text
  sourceChannel : SourceChannel
  status : TicketStatus
  conversationState : ConversationState
  trackingNumber : Option Text
  sourceChatId : Text
  sourceDedupeKey : Text
  caseType : Option Text
  customerRequest : Option Text
  requiredAction : Option Text
  preferredReplyContact : Text
deriving DecidableEq, Repr

def activeStatus (s : TicketStatus) : Bool :=
  s ∈ [.new, .pendingAssignment, .inProgress, .waitingCustomer, .waitingInternal, .escalated]

structure Conversation where
  publicId : Text
  visitorTokenHash : Text
  tenantKey : Text
  channelKey : Text
  ticketId : Option ℕ
  visitorName : Option Text
  visitorEmail : Option Text
  visitorPhone : Option Text
  visitorRef : Text
  status : String
  runtimeSessionId : Text
  runtimeIssueKey : Option Text
  lastIntent : Option Text
  lastTrackingNumber : Option Text
deriving DecidableEq, Repr

def Conversation.take (c : Conversation) (ticketId : ℕ) : Conversation :=
  { c with ticketId := some ticketId, status := "open" }

structure Control where
  customerId : Option ℕ
  tenantKey : Text
  channelKey : Text
deriving DecidableEq, Repr

inductive Direction where
  | visitor | ai | system
deriving DecidableEq, Repr

structure Message where
  conversationId : ℕ
  ticketId : Option ℕ
  direction : Direction
  body : Text
  clientMessageId : Text
  authorLabel : String
deriving DecidableEq, Repr

structure SnapshotDb where
  identity : IdentityDb
  tickets : Table Ticket
  conversations : Table Conversation
  /-- the control row of a conversation. -/
  controls : ℕ → Option Control
  messages : Table Message

/-- no ticket yet, and the customers of the other channels. -/
def SnapshotDb.start (identity : IdentityDb) : SnapshotDb :=
  ⟨identity, Table.empty, Table.empty, fun _ => none, Table.empty⟩

inductive JobError where
  /-- `WebchatHandoffSnapshotError`. -/
  | snapshot (code : String)
  /-- `CustomerIdentityError`. -/
  | identity (code : String)
  /-- `IntegrityError`: a unique index has the key. -/
  | integrity
deriving DecidableEq, Repr

structure SnapshotEnv extends IdentityEnv where
  sha256 : Text → Text
  /-- the id of an active tenant. -/
  tenant : Text → Option ℕ
  /-- the row that a query with `limit(1)` and without an order returns. -/
  pick : List (ℕ × Ticket) → Option (ℕ × Ticket)
  pick_mem : ∀ {l r}, pick l = some r → r ∈ l
  pick_none : ∀ {l}, pick l = none → l = []

/-! ## the conversation -/

def findMessage (d : SnapshotDb) (conversationId : ℕ) (clientMessageId : Text) :
    Option (ℕ × Message) :=
  (d.messages.select fun _ m =>
    m.conversationId = conversationId && m.clientMessageId = clientMessageId).head?

def addMessageOnce (conversationId ticketId : ℕ) (direction : Direction) (body : Text)
    (clientMessageId : Text) (authorLabel : String) (d : SnapshotDb) : SnapshotDb :=
  let clipped := (clip (some clientMessageId) 120).getD
    ("runtime-handoff-".toList ++ match direction with
      | .visitor => "visitor".toList
      | .ai => "ai".toList
      | .system => "system".toList)
  match findMessage d conversationId clipped with
  | some (i, m) =>
    if m.ticketId = none then
      { d with messages := d.messages.set i { m with ticketId := some ticketId } }
    else d
  | none =>
    let m : Message := ⟨conversationId, some ticketId, direction, body, clipped, authorLabel⟩
    { d with messages := d.messages.insert m }

def findConversation (d : SnapshotDb) (source : SourceIdentity) (publicId : Text) :
    Option (ℕ × Conversation) :=
  (d.conversations.select fun _ c =>
    c.tenantKey = source.tenantKey && c.channelKey = source.channelKey &&
      c.publicId = publicId).head?

section Code
variable (env : SnapshotEnv) (source : SourceIdentity) (s : Snapshot)

def publicIdOf : Text :=
  (clip (some s.publicConversationId) 64).getD (runtimePublicIdForSession env.sha256 source)

def dedupeKeyOf : Text :=
  if s.sourceDedupeKey = [] then webchatHandoffSourceDedupeKey env.sha256 source
  else s.sourceDedupeKey

def newConversation (ticketId : ℕ) : Conversation where
  publicId := publicIdOf env source s
  visitorTokenHash := env.sha256 (joinColon ["runtime-handoff".toList, dedupeKeyOf env source s])
  tenantKey := source.tenantKey
  channelKey := source.channelKey
  ticketId := some ticketId
  visitorName := clip s.visitor.name 160
  visitorEmail := clip s.visitor.email 200
  visitorPhone := clip s.visitor.phone 80
  visitorRef := source.sessionId
  status := "open"
  runtimeSessionId := source.sessionId
  runtimeIssueKey := clip (some s.runtimeIssueKey) 240
  lastIntent := clip (some s.intent) 120
  lastTrackingNumber := clip s.trackingNumber 120

/-- the conversation of the session, found or created; the public id is unique. -/
def openConversation (ticketId : ℕ) (d : SnapshotDb) : Except JobError (ℕ × SnapshotDb) :=
  match findConversation d source (publicIdOf env source s) with
  | some (k, c) =>
    if c.ticketId ∈ [none, some ticketId] then
      .ok (k, { d with conversations := d.conversations.modify k (·.take ticketId) })
    else .error (.snapshot "handoff_conversation_ticket_conflict")
  | none =>
    if (d.conversations.select fun _ c => c.publicId = publicIdOf env source s) = [] then
      let row := newConversation env source s ticketId
      .ok (d.conversations.next, { d with conversations := d.conversations.insert row })
    else .error .integrity

def claimControl (customerId k : ℕ) (d : SnapshotDb) : Except JobError SnapshotDb :=
  match d.controls k with
  | none =>
    let row : Control := ⟨some customerId, source.tenantKey, source.channelKey⟩
    .ok { d with controls := Function.update d.controls k (some row) }
  | some control =>
    if control.tenantKey ≠ source.tenantKey ∨ control.channelKey ≠ source.channelKey ∨
        control.customerId ∉ [none, some customerId] then
      .error (.snapshot "handoff_conversation_scope_conflict")
    else
      let row := { control with customerId := some customerId }
      .ok { d with controls := Function.update d.controls k (some row) }

def withText (text : Option Text) (add : Text → SnapshotDb → SnapshotDb) (d : SnapshotDb) :
    SnapshotDb :=
  match text with
  | some body => add body d
  | none => d

def addMessages (ticketId k : ℕ) (d : SnapshotDb) : SnapshotDb :=
  let visitorId := source.clientMessageId
  let aiId := (source.clientMessageId ++ ":ai".toList).take 120
  let systemId := (source.clientMessageId ++ ":handoff".toList).take 120
  let d := withText (clip s.customerLastMessage 2000)
    (fun body => addMessageOnce k ticketId .visitor body visitorId "Customer") d
  let d := withText (clip s.aiReply 1200)
    (fun body => addMessageOnce k ticketId .ai body aiId "AI Assistant") d
  addMessageOnce k ticketId .system "WebChat Runtime requested human review.".toList systemId
    "System" d

def conversation (customerId ticketId : ℕ) (d : SnapshotDb) : Except JobError SnapshotDb := do
  let (k, d) ← openConversation env source s ticketId d
  let d ← claimControl source customerId k d
  return addMessages source s ticketId k d

/-! ## the ticket -/

def existingTicket (d : SnapshotDb) (tenantId : ℕ) : Option (ℕ × Ticket) :=
  match env.pick (d.tickets.select fun _ t => t.tenantId = tenantId &&
      t.sourceDedupeKey = dedupeKeyOf env source s && activeStatus t.status) with
  | some r => some r
  | none =>
    match clip s.trackingNumber 120 with
    | some tracking =>
      env.pick (d.tickets.select fun _ t => t.tenantId = tenantId &&
        t.trackingNumber = some tracking && t.sourceChannel = .webChat && activeStatus t.status)
    | none => none

def newTicket (tenantId customerId : ℕ) : Ticket where
  tenantId := tenantId
  customerId := customerId
  title := ("WebChat handoff · ".toList ++ s.trackingNumber.getD s.intent).take 255
  description := ("AI handoff snapshot\n\nCustomer message: ".toList ++
    s.customerLastMessage.getD [] ++ "\n\nAI reply: ".toList ++ s.aiReply.getD [] ++
    "\n\nReason: ".toList ++ s.handoffReason).take 4000
  sourceChannel := .webChat
  status := .pendingAssignment
  conversationState := .humanReviewRequired
  trackingNumber := clip s.trackingNumber 120
  sourceChatId := ("webchat-runtime:".toList ++ publicIdOf env source s).take 120
  sourceDedupeKey := dedupeKeyOf env source s
  caseType := clip (some s.intent) 120
  customerRequest := clip s.customerLastMessage 4000
  requiredAction := clip s.recommendedAgentAction 500
  preferredReplyContact := publicIdOf env source s

/-- the savepoint: the ticket, whose event key is unique, and its conversation. -/
def insertTicket (tenantId customerId : ℕ) (d : SnapshotDb) : Except JobError (ℕ × SnapshotDb) :=
  if (d.tickets.select fun _ t => t.sourceDedupeKey = dedupeKeyOf env source s) = [] then do
    let i := d.tickets.next
    let d ← conversation env source s customerId i
      { d with tickets := d.tickets.insert (newTicket env source s tenantId customerId) }
    return (i, d)
  else .error .integrity

def useTicket (customerId i : ℕ) (d : SnapshotDb) : Except JobError (ℕ × SnapshotDb) := do
  let d ← conversation env source s customerId i d
  return (i, d)

/-- `create_ticket_from_webchat_snapshot` behind the look-ups of tenant, ticket and customer. -/
def landTicket (tenantId customerId : ℕ) (existing : Option (ℕ × Ticket)) (d : SnapshotDb) :
    Except JobError (ℕ × SnapshotDb) :=
  match existing with
  | some (i, _) => useTicket env source s customerId i d
  | none =>
    match insertTicket env source s tenantId customerId d with
    | .ok r => .ok r
    | .error .integrity =>
      match existingTicket env source s d tenantId with
      | none => .error .integrity
      | some (i, _) => useTicket env source s customerId i d
    | .error e => .error e

end Code

section Job
variable (env : SnapshotEnv)

def createTicketFromWebchatSnapshot (s : Snapshot) (d : SnapshotDb) :
    Except JobError (ℕ × SnapshotDb) := do
  let source ← (requiredSnapshotIdentity env.lower s).mapError .snapshot
  match env.tenant source.tenantKey with
  | none => .error (.snapshot "handoff_snapshot_tenant_not_found")
  | some tenantId =>
    let existing := existingTicket env source s d tenantId
    let (customerId, identity) ← (customer env.toIdentityEnv d.identity tenantId source.tenantKey
      (publicIdOf env source s) s).mapError .identity
    landTicket env source s tenantId customerId existing { d with identity := identity }

inductive SnapshotEvent where
  /-- the job of the payload that was built from the handoff, for the first time or again. -/
  | job (h : Handoff)
  /-- a ticket is closed or reopened. -/
  | setStatus (ticketId : ℕ) (status : TicketStatus)
deriving DecidableEq, Repr

def runJob (s : Snapshot) (d : SnapshotDb) : SnapshotDb :=
  match createTicketFromWebchatSnapshot env s d with
  | .ok (_, d) => d
  | .error _ => d

def snapshotStep (e : SnapshotEvent) (d : SnapshotDb) : SnapshotDb :=
  match e with
  | .job h =>
    match buildHandoffSnapshotPayload env.lower env.sha256 h with
    | .ok s => runJob env s d
    | .error _ => d
  | .setStatus ticketId status =>
    { d with tickets := d.tickets.modify ticketId fun t => { t with status := status } }

end Job

end NexusHelpdesk.Snapshots
