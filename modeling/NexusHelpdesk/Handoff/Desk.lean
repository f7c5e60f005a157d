import NexusHelpdesk.Desk.Ticket
import NexusHelpdesk.Lib.Table
import NexusHelpdesk.Lib.Txn

/-!
# The desk: conversations, handoff requests, calls and agents

The tables the handoff services share, and the reads and small writes all of them use.

* `Conversation` carries the denormalised handoff snapshot (`currentHandoffRequestId`,
  `handoffStatus`, `activeAgentId`) and its control row;
* `HandoffRequest` carries its routing plan, `User` its agent state and its scope grants: each of
  them is unique per owner in the schema;
* `Desk` is the database with the clock and the verified scope of the current request;
* `Op α` is the body of a transaction on it.

Texts that no service reads back (reasons, notes, events, audit rows, operator tasks, call
participants) are not part of the model.
-/

namespace NexusHelpdesk.Handoff
open Lib

/-! ## rows -/

inductive HandoffStatus where
  | none | requested | accepted | closed | cancelled | expired | resumedAi
deriving DecidableEq, Repr

def HandoffStatus.isOpen (s : HandoffStatus) : Bool := s = .requested || s = .accepted

inductive SessionStatus where
  | created | ringing | accepted | active | ended | missed | failed | cancelled
deriving DecidableEq, Repr

def SessionStatus.isOpen (s : SessionStatus) : Bool :=
  s = .created || s = .ringing || s = .accepted || s = .active

/-- `VOICE_CALL_OCCUPANCY_STATUSES`. -/
def SessionStatus.isOccupied (s : SessionStatus) : Bool := s = .accepted || s = .active

inductive OfferStatus where
  | offered | accepted | declined | expired | cancelled
deriving DecidableEq, Repr

inductive PlanStatus where
  | active | retryScheduled | assigned | exhausted | closed
deriving DecidableEq, Repr

inductive ChannelKind where
  | text | voice | manual
deriving DecidableEq, Repr

inductive Presence where
  | offline | online | paused
deriving DecidableEq, Repr

/-- the open statuses of an AI turn that a conversation can show as active. -/
inductive AiStatus where
  | queued | processing | bridgeCalling | fallbackGenerating
deriving DecidableEq, Repr

structure ScopeGrant where
  tenantKey : String
  countryCode : String
  channelKey : String
  queueKey : String
  enabled : Bool
deriving DecidableEq, Repr

structure AgentState where
  status : Presence
  maxConcurrentConversations : ℕ
  voiceEnabled : Bool
  maxConcurrentVoiceCalls : ℕ
  voiceWrapUpSeconds : ℕ
  lastHeartbeatAt : Option Instant
  updatedAt : Instant
deriving DecidableEq, Repr

/-- `capabilities` is what `resolve_capabilities` answers for the user. -/
structure User where
  isActive : Bool
  teamId : Option ℕ
  capabilities : List String
  grants : List ScopeGrant
  agentState : Option AgentState
deriving DecidableEq, Repr

/-- nobody: no capability and no grant. -/
def User.absent : User := ⟨false, none, [], [], none⟩

structure ConversationControl where
  tenantKey : String
  countryCode : Option String
  channelKey : String
  outcome : Option String
deriving DecidableEq, Repr

structure Conversation where
  ticketId : Option ℕ
  isOpen : Bool
  tenantKey : String
  channelKey : String
  control : Option ConversationControl
  currentHandoffRequestId : Option ℕ
  handoffStatus : HandoffStatus
  activeAgentId : Option ℕ
  aiSuspended : Bool
  aiSuspendedAt : Option Instant
  activeAiStatus : Option AiStatus
deriving DecidableEq, Repr

structure PlanContract where
  schema : String
  requestId : ℕ
  ticketId : ℕ
  scenarioAssignmentId : ℕ
  scenarioKey : String
  catalogSha256 : String
  scenarioSnapshot : ScenarioDocument
  ownerQueueKey : String
  requiredCapabilities : List String
  riskLevel : String
  escalationPolicyKey : Option String
  maxGenerations : ℕ
deriving DecidableEq, Repr

structure CandidateAttempt where
  generation : ℕ
  agentId : ℕ
  channelKind : ChannelKind
deriving DecidableEq, Repr

/-- a digest is represented by the document it is taken of. -/
structure RoutingPlan where
  contract : PlanContract
  digest : PlanContract
  status : PlanStatus
  currentGeneration : ℕ
  nextRetryAt : Option Instant
  assignedAgentId : Option ℕ
  attempts : List CandidateAttempt
deriving DecidableEq, Repr

structure HandoffRequest where
  conversationId : ℕ
  ticketId : Option ℕ
  status : HandoffStatus
  assignedAgentId : Option ℕ
  requestedAt : Instant
  acceptedAt : Option Instant
  updatedAt : Instant
  plan : Option RoutingPlan
deriving DecidableEq, Repr

/-- `offerTimeoutSeconds` is the setting of the session's voice channel, if it has one. -/
structure VoiceSession where
  conversationId : ℕ
  handoffRequestId : Option ℕ
  status : SessionStatus
  expiresAt : Option Instant
  wrapUpExpiresAt : Option Instant
  offerTimeoutSeconds : Option ℕ
deriving DecidableEq, Repr

structure VoiceOffer where
  voiceSessionId : ℕ
  handoffRequestId : ℕ
  agentId : ℕ
  status : OfferStatus
  expiresAt : Instant
deriving DecidableEq, Repr

inductive Direction where
  | visitor | agent
deriving DecidableEq, Repr

structure Message where
  conversationId : ℕ
  direction : Direction
  authorUserId : Option ℕ
  clientMessageId : Option String
  createdAt : Instant
deriving DecidableEq, Repr

/-- `declined` holds the pairs (request, actor) of the declined handoff decisions, and
`tenantAuthority` what `ensure_ticket_tenant_authority` answers for a user and a ticket row. -/
structure Desk where
  now : Instant
  scopeCountry : Option String
  tenantAuthority : ℕ → ℕ → Ticket → Bool
  users : Table User
  conversations : Table Conversation
  requests : Table HandoffRequest
  sessions : Table VoiceSession
  offers : Table VoiceOffer
  messages : Table Message
  tickets : Table Ticket
  declined : List (ℕ × ℕ)

/-- why a transaction fails: an HTTP error with a text, one with a `{"code": …}` detail, or any
other exception. -/
inductive Refusal where
  | http (statusCode : ℕ) (detail : String)
  | conflict (code : String)
  | crash (error : String)
deriving DecidableEq, Repr

abbrev Op (α : Type) := Txn Desk Refusal α

/-- raise `HTTPException(status_code, detail)` unless `b`. -/
def require (b : Bool) (statusCode : ℕ) (detail : String) : Op Unit :=
  Txn.refuseUnless b (.http statusCode detail)

/-! ## capabilities -/

def capTicketRead := "ticket.read"
def capTicketAssign := "ticket.assign"
def capAuditRead := "audit.read"
def capUserManage := "user.manage"
def capOutboundSend := "outbound.send"
def capWebchatHandoffAccept := "webchat.handoff.accept"
def capWebchatHandoffDecline := "webchat.handoff.decline"
def capWebchatHandoffForceTakeover := "webchat.handoff.force_takeover"
def capWebchatHandoffRelease := "webchat.handoff.release"
def capWebchatHandoffResumeAi := "webchat.handoff.resume_ai"

def User.can (u : User) (capability : String) : Bool := u.capabilities.contains capability

def User.hasGlobalCaseVisibility (u : User) : Bool :=
  u.can capTicketAssign || u.can capAuditRead || u.can capUserManage

/-! ## reads -/

namespace Desk

def user (d : Desk) (uid : ℕ) : User := (d.users.get? uid).getD User.absent

def agentState (d : Desk) (uid : ℕ) : Option AgentState := (d.user uid).agentState

def activeRequest (d : Desk) (cid : ℕ) : Option (ℕ × HandoffRequest) :=
  (d.requests.select fun _ r => r.conversationId = cid && r.status.isOpen).getLast?

/-- `_voice_session_for_conversation`: the newest open call. -/
def voiceSession (d : Desk) (cid : ℕ) : Option (ℕ × VoiceSession) :=
  (d.sessions.select fun _ x => x.conversationId = cid && x.status.isOpen).getLast?

def hasOpenVoice (d : Desk) (cid : ℕ) : Bool :=
  0 < d.sessions.count fun _ x => x.conversationId = cid && x.status.isOpen

def declinedBy (d : Desk) (rid uid : ℕ) : Bool := d.declined.contains (rid, uid)

def conversationOpen (d : Desk) (cid : ℕ) : Bool := (d.conversations.get? cid).any (·.isOpen)

end Desk

/-! ## agent state -/

def heartbeatTtlSeconds : ℤ := 90

def AgentState.heartbeatIsFresh (st : AgentState) (now : Instant) : Bool :=
  match st.lastHeartbeatAt with
  | none => false
  | some h => now - seconds heartbeatTtlSeconds ≤ h

/-- the row `get_or_create_agent_state` inserts. -/
def AgentState.default (now : Instant) : AgentState :=
  ⟨.offline, 3, false, 1, 30, none, now⟩

def Desk.setAgentState (d : Desk) (uid : ℕ) (st : AgentState) : Desk :=
  { d with users := d.users.modify uid fun u => { u with agentState := some st } }

def getOrCreateAgentState (uid : ℕ) : Op AgentState := do
  let row ← Txn.read (·.agentState uid)
  match row with
  | some st => pure st
  | none => do
    let now ← Txn.read (·.now)
    Txn.write (·.setAgentState uid (AgentState.default now))
    pure (AgentState.default now)

/-! ## the control row -/

/-- `not control.country_code` is false. -/
def ConversationControl.hasCountry (k : ConversationControl) : Bool := PyStr.truthy k.countryCode

/-- the control row after `ensure_conversation_control`, for the verified scope `country`. -/
def Conversation.ensuredControl (c : Conversation) (country : Option String) :
    ConversationControl :=
  match c.control with
  | none => ⟨c.tenantKey, country, c.channelKey, none⟩
  | some k =>
    { k with
      tenantKey := c.tenantKey
      channelKey := c.channelKey
      countryCode := if PyStr.truthy country then country else k.countryCode }

def ensureConversationControl (cid : ℕ) : Op ConversationControl := do
  let country ← Txn.read (·.scopeCountry)
  let row ← Txn.read (·.conversations.get? cid)
  match row with
  | none => Txn.raise (.crash "conversation_missing")
  | some c => do
    Txn.write fun d => { d with
      conversations := d.conversations.modify cid fun c =>
        { c with control := some (c.ensuredControl country) } }
    pure (c.ensuredControl country)

def ScopeGrant.covers (g : ScopeGrant) (k : ConversationControl) : Bool :=
  g.enabled && g.tenantKey = k.tenantKey && some g.countryCode = k.countryCode &&
    g.channelKey = k.channelKey

/-- `_scope_grant_exists` of the primitives, and `_scope_visible`: any enabled grant for the
scope, whatever its queue. -/
def User.hasScope (u : User) (k : ConversationControl) : Bool :=
  k.hasCountry && u.grants.any (·.covers k)

/-! ## writes -/

def Desk.setRequest (d : Desk) (rid : ℕ) (f : HandoffRequest → HandoffRequest) : Desk :=
  { d with requests := d.requests.modify rid f }

def Desk.setConversation (d : Desk) (cid : ℕ) (f : Conversation → Conversation) : Desk :=
  { d with conversations := d.conversations.modify cid f }

def Desk.setSession (d : Desk) (sid : ℕ) (f : VoiceSession → VoiceSession) : Desk :=
  { d with sessions := d.sessions.modify sid f }

def Desk.setTicket (d : Desk) (tid : Option ℕ) (f : Ticket → Ticket) : Desk :=
  match tid with
  | none => d
  | some tid => { d with tickets := d.tickets.modify tid f }

def Desk.cancelOffersOfRequest (d : Desk) (rid : ℕ) : Desk :=
  { d with
    offers := d.offers.mapRows fun _ o =>
      if o.handoffRequestId = rid ∧ o.status = .offered then { o with status := .cancelled }
      else o }

/-- the snapshot fields of a conversation (`_sync_conversation_snapshot` and its copies). -/
def Conversation.snapshot (c : Conversation) (current : Option ℕ) (status : HandoffStatus)
    (agent : Option ℕ) : Conversation :=
  { c with currentHandoffRequestId := current, handoffStatus := status, activeAgentId := agent }

def Conversation.suspendAi (c : Conversation) (now : Instant) : Conversation :=
  { c with aiSuspended := true, aiSuspendedAt := some (c.aiSuspendedAt.getD now) }

def Conversation.resumeAi (c : Conversation) : Conversation :=
  { c with aiSuspended := false, aiSuspendedAt := none }

/-- what `cancel_open_ai_turns_for_handoff` leaves of the active turn. -/
def Conversation.cancelAiTurns (c : Conversation) : Conversation := { c with activeAiStatus := none }

end NexusHelpdesk.Handoff
