import NexusHelpdesk.Desk.Basic
import NexusHelpdesk.Lib.Except
import NexusHelpdesk.Lib.Json
import NexusHelpdesk.Lib.Replay
import NexusHelpdesk.Lib.Table

/-!
# WebChat events (`webchat_realtime_event_service.py`)

The event log of the conversations, and what the WebSocket makes of it.

* `WebchatEvent`, `WebchatMessage`, `Conversation`, `EventDb`: the rows;
* `eventEnvelope`: what an audience gets of an event, if anything;
* `listConversationEventEnvelopes`, `listAdminQueueEventEnvelopes`: one batch of a replay;
* `conversation_batch`, `queue_batch`: **both are batches of a log**.

`int()` of a text and of a float is a parameter; a payload is what `json.loads` gives.
-/

namespace NexusHelpdesk.Realtime

open Lib

abbrev Text := List Char

abbrev JsonObject := List (Text × Json)

/-- `int()` beyond the integers. -/
structure PyInt where
  text : Text → Option ℤ
  real : Numeral → Option ℤ
  realZero : Numeral → Bool

def plainInt : PyInt where
  text := fun _ => none
  real := fun _ => none
  realZero := fun _ => false

/-! ## rows -/

structure WebchatEvent where
  conversationId : ℕ
  ticketId : Option ℕ
  eventType : String
  /-- `none` for an empty column and for a text that is not JSON. -/
  payload : Option Json
  createdAt : Option Instant

structure WebchatMessage where
  conversationId : ℕ
  direction : String
  body : Text
  bodyText : Option Text
  messageType : Option String
  payload : Option Json
  metadata : Option Json
  clientMessageId : Option Text
  aiTurnId : Option ℕ
  deliveryStatus : Option String
  actionStatus : Option String
  authorLabel : Option Text
  authorUserId : Option ℕ
  createdAt : Option Instant

structure Conversation where
  publicId : Text
  visitorTokenHash : Text
  visitorTokenExpiresAt : Option Instant
  currentHandoffRequestId : Option ℕ

structure TicketRow where
  assigneeId : Option ℕ
  teamId : Option ℕ

structure EventDb where
  events : Table WebchatEvent
  messages : Table WebchatMessage
  conversations : Table Conversation
  tickets : Table TicketRow
  /-- the ids of the handoff requests. -/
  handoffs : List ℕ

/-- an agent with the answers of the permission service. -/
structure Viewer where
  id : ℕ
  teamId : Option ℕ
  readsTickets : Bool
  globalVisibility : Bool
  /-- `ensure_ticket_tenant_authority` lets the ticket pass. -/
  tenantAuthority : ℕ → Bool

inductive Audience where
  | admin | visitor
deriving DecidableEq, Repr

/-! ## payloads -/

def customerVisibleEventTypes : List String :=
  ["message.created", "handoff.accepted", "handoff.released", "ai.resumed", "ai_turn.queued",
   "ai_turn.processing", "ai_turn.bridge_calling", "ai_turn.completed", "ai_turn.fallback",
   "ai_turn.failed", "ai_turn.timeout", "ai_turn.cancelled_by_handoff",
   "ai_turn.suppressed_by_handoff", "ai_turn.superseded", "webchat_ai_reply_suppressed_stale"]

def queueRefreshEventTypes : List String :=
  ["message.created", "handoff.requested", "handoff.request_updated", "handoff.accepted",
   "handoff.declined", "handoff.force_takeover", "handoff.released", "handoff.agent_reply_sent",
   "ai.resumed", "ai_turn.queued", "ai_turn.processing", "ai_turn.bridge_calling",
   "ai_turn.completed", "ai_turn.fallback", "ai_turn.failed", "ai_turn.timeout",
   "ai_turn.cancelled_by_handoff", "ai_turn.suppressed_by_handoff"]

/-- `_loads_json`: what is not an object counts as empty. -/
def loadsObject (value : Option Json) : JsonObject :=
  match value with
  | some (.obj fields) => fields
  | _ => []

/-- the value of a key; of several the last one stands. -/
def field (object : JsonObject) (key : Text) : Option Json :=
  (object.reverse.find? fun f => f.1 = key).map Prod.snd

def internalKeys : List Text :=
  ["actor_id".toList, "author_user_id".toList, "assigned_agent_id".toList,
   "accepted_by_user_id".toList, "forced_by_user_id".toList]

def sanitizePayload (object : JsonObject) : Audience → JsonObject
  | .admin => object
  | .visitor => object.filter fun f => f.1 ∉ internalKeys

section Values
variable (int : PyInt)

/-- `bool(value)`. -/
def truthy : Json → Bool
  | .null => false
  | .bool b => b
  | .num n => n ≠ 0
  | .real t => !int.realZero t
  | .str s => s ≠ []
  | .arr items => !items.isEmpty
  | .obj fields => !fields.isEmpty

/-- `payload.get(key)`, if it is truthy. -/
def truthyField (object : JsonObject) (key : Text) : Option Json :=
  (field object key).filter (truthy int)

/-- `int(value)`. -/
def intOf : Json → Option ℤ
  | .bool b => some (if b then 1 else 0)
  | .num n => some n
  | .real t => int.real t
  | .str s => int.text s
  | _ => none

end Values

/-! ## envelopes -/

structure MessageRead where
  id : ℕ
  direction : String
  body : Text
  bodyText : Text
  messageType : String
  payload : JsonObject
  metadata : JsonObject
  clientMessageId : Option Text
  aiTurnId : Option ℕ
  deliveryStatus : String
  actionStatus : Option String
  authorLabel : Option Text
  createdAt : Option Instant
  authorUserId : Option (Option ℕ)

structure EventEnvelope where
  type : String
  eventId : ℕ
  conversationId : Text
  webchatConversationId : ℕ
  ticketId : Option ℕ
  createdAt : Option Instant
  payload : JsonObject
  message : Option MessageRead
  /-- the handoff request whose fields go along. -/
  handoff : Option ℕ

/-- `int()` refuses an id of the payload. -/
inductive EventError where
  | messageId | handoffRequestId
deriving DecidableEq, Repr

def textOr (t : Option String) (fallback : String) : String :=
  match t with
  | some s => if s = "" then fallback else s
  | none => fallback

def messageRead (id : ℕ) (row : WebchatMessage) (audience : Audience) : MessageRead where
  id := id
  direction := row.direction
  body := row.body
  bodyText := match row.bodyText with
    | some t => if t = [] then row.body else t
    | none => row.body
  messageType := textOr row.messageType "text"
  payload := loadsObject row.payload
  metadata := loadsObject row.metadata
  clientMessageId := row.clientMessageId
  aiTurnId := row.aiTurnId
  deliveryStatus := textOr row.deliveryStatus "sent"
  actionStatus := row.actionStatus
  authorLabel := row.authorLabel
  createdAt := row.createdAt
  authorUserId := if audience = .admin then some row.authorUserId else none

def publicMessageVisible (messageType : Option String) : Bool :=
  PyStr.lower (PyStr.strip (textOr messageType "text")) ≠ "voice_transcript"

section Envelope
variable (int : PyInt) (db : EventDb)

def eventMessage (row : WebchatEvent) (payload : JsonObject) :
    Except EventError (Option (ℕ × WebchatMessage)) :=
  let messageId := (truthyField int payload "message_id".toList).or
    (truthyField int payload "webchat_message_id".toList)
  match messageId with
  | none => .ok none
  | some value =>
    if row.eventType = "message.created" then
      match intOf int value with
      | none => .error .messageId
      | some n => .ok ((db.messages.select fun i m =>
          (i : ℤ) = n && m.conversationId = row.conversationId).head?)
    else .ok none

def eventHandoff (row : WebchatEvent) (conversation : Conversation) (payload : JsonObject)
    (audience : Audience) (user : Option Viewer) : Except EventError (Option ℕ) :=
  let requestId := (truthyField int payload "handoff_request_id".toList).or
    (conversation.currentHandoffRequestId.map fun i => .num (i : ℤ))
  match requestId with
  | none => .ok none
  | some value =>
    if audience = .admin ∧ user.isSome then
      match intOf int value with
      | none => .error .handoffRequestId
      | some n =>
        if (row.ticketId.bind db.tickets.get?).isSome then
          .ok (db.handoffs.find? fun i => ((i : ℕ) : ℤ) = n)
        else .ok none
    else .ok none

def eventEnvelope (id : ℕ) (row : WebchatEvent) (audience : Audience) (user : Option Viewer) :
    Except EventError (Option EventEnvelope) :=
  if audience = .visitor ∧ row.eventType ∉ customerVisibleEventTypes then .ok none
  else
    match db.conversations.get? row.conversationId with
    | none => .ok none
    | some conversation => do
      let payload := sanitizePayload (loadsObject row.payload) audience
      let message ← eventMessage int db row payload
      if audience = .visitor ∧
          message.any (fun m => !publicMessageVisible m.2.messageType) = true then
        return none
      else
        let handoff ← eventHandoff int db row conversation payload audience user
        return some
          { type := row.eventType
            eventId := id
            conversationId := conversation.publicId
            webchatConversationId := row.conversationId
            ticketId := row.ticketId
            createdAt := row.createdAt
            payload := payload
            message := message.map fun m => messageRead m.1 m.2 audience
            handoff := handoff }

/-! ## batches -/

/-- `max(1, min(int(limit or 50), 100))`. -/
def safeLimit (limit : ℤ) : ℕ := (max 1 (min (if limit = 0 then 50 else limit) 100)).toNat

def scannedLastEventId (rows : List (ℕ × WebchatEvent)) (safeAfterId : ℕ) : ℕ :=
  (rows.getLast?.map Prod.fst).getD safeAfterId

def listConversationEventEnvelopes (conversationId : ℕ) (afterId limit : ℤ) (audience : Audience)
    (user : Option Viewer) : Except EventError (ReplayBatch EventEnvelope) := do
  let safeAfterId := afterId.toNat
  let rows := (db.events.select fun i e =>
    e.conversationId = conversationId && safeAfterId < i).take (safeLimit limit)
  let envelopes ← rows.mapM fun r => eventEnvelope int db r.1 r.2 audience user
  return ⟨envelopes.filterMap id, scannedLastEventId rows safeAfterId⟩

def ticketVisible (user : Viewer) (id : ℕ) (t : TicketRow) : Bool :=
  user.readsTickets && user.tenantAuthority id &&
    (user.globalVisibility || t.assigneeId = some user.id ||
      (user.teamId.isSome && t.teamId = user.teamId))

def queueVisible (user : Viewer) (row : WebchatEvent) : Bool :=
  row.ticketId.any fun id => (db.tickets.get? id).any (ticketVisible user id)

/-- what the agent gets of a row in the loop over the queue. -/
def queueEnvelope (user : Viewer) (r : ℕ × WebchatEvent) :
    Except EventError (Option EventEnvelope) :=
  if queueVisible db user r.2 then eventEnvelope int db r.1 r.2 .admin (some user) else .ok none

/-- `list_admin_queue_event_envelopes`: twice the limit is read, and the loop breaks at the
limit. -/
def listAdminQueueEventEnvelopes (user : Viewer) (afterId limit : ℤ) :
    Except EventError (ReplayBatch EventEnvelope) := do
  let safeAfterId := afterId.toNat
  let rows := (db.events.select fun i e =>
    e.eventType ∈ queueRefreshEventTypes && safeAfterId < i).take (safeLimit limit * 2)
  let envelopes ← scan (queueEnvelope int db user) (safeLimit limit) rows
  return ⟨envelopes, scannedLastEventId rows safeAfterId⟩

end Envelope

/-! ## both lists as logs -/

def conversationLog (db : EventDb) (conversationId : ℕ) : List (ℕ × WebchatEvent) :=
  db.events.select fun _ e => e.conversationId = conversationId

def queueLog (db : EventDb) : List (ℕ × WebchatEvent) :=
  db.events.select fun _ e => e.eventType ∈ queueRefreshEventTypes

section Lemmas
variable {int : PyInt} {db : EventDb} {conversationId : ℕ} {afterId limit : ℤ}
  {audience : Audience} {viewer : Option Viewer} {user : Viewer}

lemma safeLimit_pos : 0 < safeLimit limit := by
  unfold safeLimit
  omega

lemma select_behind (p : ℕ → WebchatEvent → Bool) (c : ℕ) :
    (db.events.select fun i e => p i e && c < i) = behind Prod.fst (db.events.select p) c := by
  unfold behind Table.select
  rw [List.filter_filter]
  refine List.filter_congr ?_
  intro r _
  exact Bool.and_comm ..

lemma conversation_batch :
    listConversationEventEnvelopes int db conversationId afterId limit audience viewer =
      fetchBatch Prod.fst (fun r => eventEnvelope int db r.1 r.2 audience viewer)
        (conversationLog db conversationId) (safeLimit limit) (safeLimit limit) afterId.toNat := by
  unfold listConversationEventEnvelopes fetchBatch conversationLog
  dsimp only
  rw [select_behind fun _ e => decide (e.conversationId = conversationId),
    ← mapM_eq_scan (List.length_take_le ..)]
  cases List.mapM (fun r : ℕ × WebchatEvent => eventEnvelope int db r.1 r.2 audience viewer)
    _ with
  | ok envelopes => rfl
  | error e => rfl

lemma queue_batch :
    listAdminQueueEventEnvelopes int db user afterId limit =
      fetchBatch Prod.fst (queueEnvelope int db user) (queueLog db) (safeLimit limit * 2)
        (safeLimit limit) afterId.toNat := by
  unfold listAdminQueueEventEnvelopes fetchBatch queueLog
  dsimp only
  rw [select_behind fun _ e => decide (e.eventType ∈ queueRefreshEventTypes)]
  rfl

end Lemmas

end NexusHelpdesk.Realtime
