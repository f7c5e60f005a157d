import NexusHelpdesk.Handoff.Calls

/-!
# Messages and stale handoffs

* `reconcileStaleTextHandoffs`: accepted text handoffs whose agent is gone or silent go back to
  the queue (`stale_text_handoff_reconciliation.py`);
* `addVisitorMessageToConversation`: a visitor message, which also takes back a handoff nobody
  accepted for half an hour (`webchat_message_service.py`);
* `replyToConversation`: a human reply (`conversation_operator_service.py`).
-/

namespace NexusHelpdesk.Handoff
open Lib

/-! ## stale handoffs -/

def offlineHandoffGraceSeconds : ℤ := 5 * 60
def untouchedHandoffTimeoutSeconds : ℤ := 30 * 60

/-- `coalesce(accepted_at, updated_at)`. -/
def HandoffRequest.acceptanceClock (r : HandoffRequest) : Instant := r.acceptedAt.getD r.updatedAt

def Desk.agentIsStale (d : Desk) (uid : ℕ) : Bool :=
  match d.agentState uid with
  | none => true
  | some st => st.status ≠ .online || !st.heartbeatIsFresh d.now

def Desk.repliedSince (d : Desk) (r : HandoffRequest) (since : Option Instant) : Bool :=
  match r.assignedAgentId with
  | none => false
  | some uid => 0 < d.messages.count fun _ m =>
      m.conversationId = r.conversationId && m.direction = .agent && m.authorUserId = some uid &&
        since.all (· ≤ m.createdAt)

/-- the candidates of `reconcile_stale_text_handoffs`. -/
def Desk.staleCandidates (d : Desk) (agent : Option ℕ) (limit : ℕ) : List (ℕ × HandoffRequest) :=
  let rows := d.requests.select fun _ r =>
    r.status = .accepted && r.assignedAgentId.isSome && d.conversationOpen r.conversationId &&
      !d.hasOpenVoice r.conversationId &&
      ((r.acceptanceClock ≤ d.now - seconds offlineHandoffGraceSeconds &&
          r.assignedAgentId.any d.agentIsStale) ||
        (r.acceptanceClock ≤ d.now - seconds untouchedHandoffTimeoutSeconds &&
          !d.repliedSince r (some r.acceptanceClock))) &&
      (agent.isNone || agent = r.assignedAgentId)
  (rows.insertionSort fun a b => a.2.acceptanceClock ≤ b.2.acceptanceClock).take
    (max 1 (min (if limit = 0 then 100 else limit) 500))

/-- `_reopen_routing_plan` on a plan: the abandoned assignment is recorded, and the plan starts a
new generation at once. -/
def RoutingPlan.reopen (p : RoutingPlan) (previous : ℕ) (now : Instant) : RoutingPlan :=
  let p := p.recordAttempt previous .text
  if p.status ≠ .assigned then p
  else ({ p with
    status := .retryScheduled
    assignedAgentId := none
    nextRetryAt := some now }.activateDue now).1

def Desk.releaseOne (d : Desk) (rid : ℕ) (r : HandoffRequest) (previous : ℕ) : Desk :=
  ((d.setRequest rid fun r =>
    { r with
      status := .requested
      assignedAgentId := none
      acceptedAt := none
      updatedAt := d.now
      plan := r.plan.map (·.reopen previous d.now) }).setConversation r.conversationId fun c =>
    { c.snapshot (some rid) .requested none with aiSuspended := true }).setTicket
    ((d.conversations.get? r.conversationId).bind (·.ticketId)) (·.unassigned previous)

/-- the second look of `reconcile_stale_text_handoffs`, row by row. -/
def Desk.isStale (d : Desk) (r : HandoffRequest) : Bool :=
  !d.hasOpenVoice r.conversationId &&
    let age := d.now - r.acceptanceClock
    (r.assignedAgentId.any d.agentIsStale && seconds offlineHandoffGraceSeconds ≤ age) ||
      (!d.repliedSince r r.acceptedAt && seconds untouchedHandoffTimeoutSeconds ≤ age)

/-- one turn of `reconcile_stale_text_handoffs`. -/
def Desk.reconcileOne (d : Desk) (rid : ℕ) : Desk :=
  match d.requests.get? rid with
  | none => d
  | some r =>
    match r.assignedAgentId with
    | none => d
    | some previous => if d.isStale r && 0 < previous then d.releaseOne rid r previous else d

def reconcileStaleTextHandoffs (agent : Option ℕ) (limit : ℕ) : Op Unit := do
  let rows ← Txn.read (·.staleCandidates agent limit)
  Txn.each rows fun x => Txn.write (·.reconcileOne x.1)

/-! ## visitor messages -/

def maxMessageChars : ℕ := 2000

def clipBody (body : String) : Except Refusal String :=
  if PyStr.strip body = "" then .error (.http 400 "message body is required")
  else if maxMessageChars < (PyStr.strip body).length then
    .error (.http 413 "message body exceeds 2000 characters")
  else .ok (PyStr.strip body)

def Conversation.isAiSuspendedForHandoff (c : Conversation) : Bool :=
  c.aiSuspended || c.handoffStatus.isOpen || c.activeAgentId.isSome

/-- the request whose age decides in `_resume_stale_requested_handoff`: the current one, if it
still exists. -/
def Desk.currentRequest (d : Desk) (c : Conversation) : Option (ℕ × HandoffRequest) :=
  c.currentHandoffRequestId.bind fun rid => (d.requests.get? rid).map fun r => (rid, r)

/-- `_resume_stale_requested_handoff` has something to do. -/
def Desk.requestIsStale (d : Desk) (c : Conversation) : Bool :=
  c.handoffStatus = .requested && c.activeAgentId.isNone &&
    (d.currentRequest c).all (·.2.status = .requested) &&
    match d.currentRequest c with
    | some (_, r) => r.requestedAt ≤ d.now - minutes 30
    | none => c.aiSuspendedAt.any (· ≤ d.now - minutes 30)

def Desk.resumeStaleRequestedHandoff (d : Desk) (cid tid : ℕ) (c : Conversation) : Desk :=
  if d.requestIsStale c then
    let d' := match d.currentRequest c with
      | some (rid, _) => d.setRequest rid fun r =>
          { r with status := HandoffStatus.resumedAi, updatedAt := d.now }
      | none => d
    (d'.setConversation cid fun c => (c.snapshot none .none none).resumeAi).setTicket (some tid)
      fun t => { t with conversationState := .aiActive }
  else d

def ticketAfterVisitorMessage (suspended : Bool) (t : Ticket) : Ticket :=
  if t.status = .resolved ∨ t.status = .closed then
    { t with status := .pendingAssignment, conversationState := .reopenedByCustomer }
  else if t.conversationState ≠ .humanReviewRequired ∧ suspended = false then
    { t with conversationState := .humanOwned }
  else t

/-- the message of a visitor is stored, then the ticket and a stale handoff follow. -/
def Desk.receiveVisitorMessage (d : Desk) (cid : ℕ) (c : Conversation)
    (clientMessageId : Option String) : Desk :=
  let d := { d with
    messages := d.messages.insert ⟨cid, .visitor, none, clientMessageId, d.now⟩ }
  match d.ticketRow c.ticketId with
  | none => d
  | some (tid, _) =>
    (d.setTicket (some tid) (ticketAfterVisitorMessage c.isAiSuspendedForHandoff)
      ).resumeStaleRequestedHandoff cid tid c

/-- `add_visitor_message_to_conversation`: a repeated client message id changes nothing. -/
def addVisitorMessageToConversation (cid : ℕ) (body : String) (clientMessageId : Option String) :
    Op Unit := do
  let _ ← Txn.check fun _ => clipBody body
  let known ← Txn.read fun d => d.messages.count fun _ m =>
    m.conversationId = cid && m.clientMessageId = clientMessageId && m.direction = .visitor
  if PyStr.truthy clientMessageId && 0 < known then pure ()
  else do
    let row ← Txn.read (·.conversations.get? cid)
    match row with
    | none => Txn.raise (.http 404 "webchat conversation not found")
    | some c => Txn.write (·.receiveVisitorMessage cid c clientMessageId)

/-! ## human replies -/

def Conversation.ensureCanReply (c : Conversation) (uid : ℕ) : Except Refusal Unit :=
  if c.currentHandoffRequestId = none ∧ c.handoffStatus = .none then
    if c.activeAiStatus.isSome ∧ c.aiSuspended = false then
      .error (.http 409 "webchat ai is active; force takeover before replying")
    else .ok ()
  else if c.handoffStatus = .accepted ∧ c.activeAgentId = some uid then .ok ()
  else if c.handoffStatus = .accepted then
    .error (.http 409 "webchat handoff is owned by another agent")
  else .error (.http 409 "webchat handoff must be accepted before replying")

/-- `_handoff`: the current request, else the newest of the conversation. -/
def Desk.handoffOf (d : Desk) (cid : ℕ) (c : Conversation) : Option HandoffRequest :=
  match d.currentRequest c with
  | some (_, r) => some r
  | none => ((d.requests.select fun _ r => r.conversationId = cid).getLast?).map (·.2)

def Desk.ensureCanReplyTicketless (d : Desk) (cid uid : ℕ) (c : Conversation) :
    Except Refusal Unit :=
  if !c.isOpen then .error (.http 409 "conversation_is_closed")
  else if (d.handoffOf cid c).any (fun r => r.status = .accepted && r.assignedAgentId = some uid) &&
      c.activeAgentId = some uid then .ok ()
  else .error (.http 409 "handoff_must_be_accepted_before_replying")

def Desk.ensureConversationVisible (d : Desk) (c : Conversation) (uid : ℕ) :
    Except Refusal Unit :=
  match c.control with
  | none => .error (.http 409 "conversation_control_missing")
  | some k =>
    if !k.hasCountry then .error (.http 403 "conversation_scope_unavailable")
    else if (d.user uid).grants.any (·.covers k) then .ok ()
    else .error (.http 403 "conversation_scope_not_authorized")

/-- a reply to a ticket that the AI had makes the snapshot `accepted`. -/
def Desk.takeFromAi (d : Desk) (cid tid : ℕ) (t : Ticket) : Desk :=
  if t.conversationState = .aiActive then
    d.setConversation cid fun c => { c with handoffStatus := .accepted }
  else d

def Desk.storeReply (d : Desk) (cid uid : ℕ) : Desk :=
  { d with messages := d.messages.insert ⟨cid, .agent, some uid, none, d.now⟩ }

/-- `reply_to_conversation`; `allowed` is the verdict of the customer-visible content policy on the
text. -/
def replyToConversation (cid uid : ℕ) (body : String) (allowed : String → Bool) : Op Unit := do
  let u ← Txn.read (·.user uid)
  require (u.can capOutboundSend) 403 "Permission denied"
  let row ← Txn.read (·.conversations.get? cid)
  match row with
  | none => Txn.raise (.http 404 "webchat conversation not found")
  | some c =>
    match c.ticketId with
    | none => do
      Txn.check (·.ensureConversationVisible c uid)
      Txn.check (·.ensureCanReplyTicketless cid uid c)
      let text ← Txn.check fun _ => clipBody body
      require (allowed text) 400 "Outbound reply blocked by customer-visible content policy"
      Txn.write (·.storeReply cid uid)
    | some tid => do
      let ticket ← Txn.read (·.tickets.get? tid)
      match ticket with
      | none => Txn.raise (.http 404 "Ticket not found")
      | some t => do
        Txn.check (·.ensureTicketVisible uid tid t)
        Txn.check fun _ => c.ensureCanReply uid
        let text ← Txn.check fun _ => clipBody body
        require (allowed text) 400 "Outbound reply blocked by customer-visible content policy"
        Txn.write fun d => ((d.takeFromAi cid tid t).storeReply cid uid).setTicket (some tid)
          fun t => { t with
            status := .waitingCustomer
            conversationState := .waitingCustomer }

end NexusHelpdesk.Handoff
