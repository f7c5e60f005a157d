import NexusHelpdesk.Handoff.Routing

/-!
# Handoff requests

The transitions of a handoff request that an operator asks for: `webchat_handoff_service_core.py`
for the requests of a ticket, `webchat_handoff_service.py` for those without one.

* `requestWebchatHandoff`: the older way to ask for a human;
* `Core.acceptHandoffRequest`, `Core.declineHandoffRequest`, `Core.releaseHandoffRequest`,
  `Core.resumeAiForHandoff`, `forceTakeoverTicket`: ticket-backed requests;
* `acceptHandoffRequest`, `declineHandoffRequest`, `releaseHandoffRequest`, `resumeAiForHandoff`:
  the facade, which serves ticketless requests itself.
-/

namespace NexusHelpdesk.Handoff
open Lib

/-! ## visibility -/

def Desk.ensureTicketVisible (d : Desk) (uid tid : ℕ) (t : Ticket) : Except Refusal Unit :=
  let u := d.user uid
  if !u.can capTicketRead then .error (.http 403 "Ticket not visible for current user")
  else if !d.tenantAuthority uid tid t then .error (.conflict "tenant_resource_not_found")
  else if u.hasGlobalCaseVisibility || t.assigneeId = some uid ||
      (u.teamId.isSome && t.teamId = u.teamId) then .ok ()
  else .error (.http 403 "Ticket not visible for current user")

def Desk.ticketRow (d : Desk) (tid : Option ℕ) : Option (ℕ × Ticket) :=
  tid.bind fun tid => (d.tickets.get? tid).map fun t => (tid, t)

/-- `_request_by_id`, `_load_conversation_ticket` and `_ensure_visible`. -/
def Desk.ticketContext (d : Desk) (rid uid : ℕ) : Except Refusal (HandoffRequest × ℕ) :=
  match d.requests.get? rid with
  | none => .error (.http 404 "webchat handoff request not found")
  | some r =>
    match d.conversations.get? r.conversationId, d.ticketRow r.ticketId with
    | some _, some (tid, t) =>
      match d.ensureTicketVisible uid tid t with
      | .error e => .error e
      | .ok _ => .ok (r, tid)
    | _, _ => .error (.http 409 "webchat handoff source is missing")

def Desk.ticketlessContext (d : Desk) (r : HandoffRequest) (uid : ℕ) :
    Except Refusal Conversation :=
  match d.conversations.get? r.conversationId with
  | none => .error (.http 409 "webchat handoff source is missing")
  | some c =>
    match c.control with
    | none => .error (.http 409 "webchat handoff source is missing")
    | some k =>
      if (d.user uid).hasScope k then .ok c
      else .error (.http 403 "conversation_scope_not_authorized")

/-- `db.get(WebchatHandoffRequest, request_id)` of the facade. -/
def Desk.requestRow (d : Desk) (rid : ℕ) : Except Refusal HandoffRequest :=
  match d.requests.get? rid with
  | none => .error (.http 404 "webchat handoff request not found")
  | some r => .ok r

/-- the request of `request_webchat_handoff`: the open one, or a new one. -/
def Desk.withOpenRequest (d : Desk) (cid : ℕ) (ticketId : Option ℕ) : Desk × ℕ :=
  match d.activeRequest cid with
  | some (rid, _) => (d.setRequest rid fun r => { r with updatedAt := d.now }, rid)
  | none =>
    ({ d with requests := d.requests.insert (HandoffRequest.new cid ticketId d.now) },
      d.requests.next)

/-- `request_webchat_handoff`: the snapshot becomes `requested`, also for a request that is
accepted. -/
def requestWebchatHandoff (cid : ℕ) (ticketId : Option ℕ) : Op ℕ := do
  let rid ← Txn.read fun d => (d.withOpenRequest cid ticketId).2
  Txn.write fun d =>
    ((d.withOpenRequest cid ticketId).1.setTicket ticketId Ticket.awaitHuman).setConversation cid
      fun c => ((c.snapshot (some rid) .requested none).suspendAi d.now).cancelAiTurns
  pure rid

/-! ## ticket-backed requests -/

def Desk.acceptByHand (d : Desk) (rid cid tid uid : ℕ) : Desk :=
  ((d.setRequest rid fun r =>
    { r with
      status := .accepted
      assignedAgentId := some uid
      acceptedAt := some (r.acceptedAt.getD d.now)
      updatedAt := d.now }).setTicket (some tid) (·.takenBy uid)
    ).setConversation cid fun c =>
    ((c.snapshot (some rid) .accepted (some uid)).suspendAi d.now).cancelAiTurns

def Core.acceptHandoffRequest (rid uid : ℕ) : Op Unit := do
  let (r, tid) ← Txn.check (·.ticketContext rid uid)
  require (!(r.status = .accepted && r.assignedAgentId.isSome && r.assignedAgentId ≠ some uid))
    409 "webchat handoff already accepted by another agent"
  require r.status.isOpen 409 "webchat handoff request is not open"
  Txn.write (·.acceptByHand rid r.conversationId tid uid)

def Desk.declineRequest (d : Desk) (rid uid : ℕ) : Desk :=
  { d.setRequest rid (fun r => { r with updatedAt := d.now }) with
    declined := d.declined ++ [(rid, uid)] }

def Core.declineHandoffRequest (rid uid : ℕ) : Op Unit := do
  let (r, tid) ← Txn.check (·.ticketContext rid uid)
  require (r.status = .requested) 409 "only requested handoffs can be declined"
  Txn.write (·.declineRequest rid uid)

def Desk.requeue (d : Desk) (rid cid : ℕ) : Desk :=
  (d.setRequest rid fun r =>
    { r with status := .requested, assignedAgentId := none, updatedAt := d.now }).setConversation
    cid fun c => (c.snapshot (some rid) .requested none).suspendAi d.now

def Core.releaseHandoffRequest (rid uid : ℕ) : Op Unit := do
  let (r, tid) ← Txn.check (·.ticketContext rid uid)
  require (r.status = .accepted) 409 "only accepted handoffs can be released"
  let u ← Txn.read (·.user uid)
  require (r.assignedAgentId = some uid || u.can capWebchatHandoffForceTakeover) 403
    "webchat handoff is owned by another agent"
  Txn.write fun d => (d.requeue rid r.conversationId).setTicket (some tid) (·.unassigned uid)

/-- the request and the snapshot once the AI has the conversation again. -/
def Desk.giveBack (d : Desk) (rid cid : ℕ) : Desk :=
  (d.setRequest rid fun r =>
    { r with status := .resumedAi, assignedAgentId := none, updatedAt := d.now }).setConversation
    cid fun c => (c.snapshot none .none none).resumeAi

def Core.resumeAiForHandoff (rid uid : ℕ) : Op Unit := do
  let (r, tid) ← Txn.check (·.ticketContext rid uid)
  require r.status.isOpen 409 "webchat handoff request is already terminal"
  Txn.write fun d => (d.giveBack rid r.conversationId).setTicket (some tid) (·.returnedToAi uid)

/-- the visible ticket of a forced takeover, and its conversation. -/
def Desk.takeoverContext (d : Desk) (tid uid : ℕ) : Except Refusal ℕ :=
  if !(d.user uid).can capWebchatHandoffForceTakeover then
    .error (.http 403 "webchat_handoff_force_takeover_requires_capability")
  else match d.tickets.get? tid with
    | none => .error (.http 404 "ticket not found")
    | some t =>
      match d.ensureTicketVisible uid tid t with
      | .error e => .error e
      | .ok _ =>
        match (d.conversations.select fun _ c => c.ticketId = some tid).head? with
        | none => .error (.http 404 "webchat conversation not found for ticket")
        | some (cid, _) => .ok cid

def forceTakeoverTicket (tid uid : ℕ) : Op Unit := do
  let cid ← Txn.check (·.takeoverContext tid uid)
  let rid ← Txn.read fun d => (d.withOpenRequest cid (some tid)).2
  Txn.write fun d => (d.withOpenRequest cid (some tid)).1
  Core.acceptHandoffRequest rid uid

/-! ## the facade -/

def acceptHandoffRequest (rid uid : ℕ) : Op Unit := do
  let r ← Txn.check (·.requestRow rid)
  if r.ticketId.isSome then Core.acceptHandoffRequest rid uid
  else do
    let u ← Txn.read (·.user uid)
    require (u.can capWebchatHandoffAccept) 403 "webchat_handoff_accept_requires_capability"
    let _ ← Txn.check (·.ticketlessContext r uid)
    if r.status = .accepted ∧ r.assignedAgentId = some uid then pure ()
    else do
      require (r.status = .requested) 409 "handoff_not_waiting"
      assignHandoffToAgent rid r.conversationId uid none

def declineHandoffRequest (rid uid : ℕ) : Op Unit := do
  let r ← Txn.check (·.requestRow rid)
  if r.ticketId.isSome then Core.declineHandoffRequest rid uid
  else do
    let u ← Txn.read (·.user uid)
    require (u.can capWebchatHandoffDecline) 403 "webchat_handoff_decline_requires_capability"
    let _ ← Txn.check (·.ticketlessContext r uid)
    require (r.status = .requested) 409 "only requested handoffs can be declined"
    let declined ← Txn.read (·.declinedBy rid uid)
    Txn.when (!declined) (Txn.write (·.declineRequest rid uid))

/-- `fill_agent_capacity(previous_agent)` if there was one and it still exists. -/
def refillPrevious (previous : Option ℕ) : Op Unit :=
  match previous with
  | none => pure ()
  | some uid => do
    let known ← Txn.read (·.users.get? uid)
    Txn.when known.isSome do
      let _ ← fillAgentCapacity uid
      pure ()

/-- the released agent counts as having declined the request. -/
def Desk.declineFor (d : Desk) (rid : ℕ) (agent : Option ℕ) : Desk :=
  match agent with
  | none => d
  | some a => if d.declinedBy rid a then d else { d with declined := d.declined ++ [(rid, a)] }

def releaseHandoffRequest (rid uid : ℕ) : Op Unit := do
  let r ← Txn.check (·.requestRow rid)
  if r.ticketId.isSome then Core.releaseHandoffRequest rid uid
  else do
    let u ← Txn.read (·.user uid)
    require (u.can capWebchatHandoffRelease) 403 "webchat_handoff_release_requires_capability"
    let _ ← Txn.check (·.ticketlessContext r uid)
    require (r.status = .accepted) 409 "only accepted handoffs can be released"
    require (r.assignedAgentId = some uid || u.can capWebchatHandoffForceTakeover) 403
      "webchat handoff is owned by another agent"
    Txn.write fun d => (d.declineFor rid r.assignedAgentId).requeue rid r.conversationId
    refillPrevious r.assignedAgentId

def canResumeTicketlessHandoff (r : HandoffRequest) (c : Conversation) (uid : ℕ) (u : User) :
    Bool :=
  r.status.isOpen &&
    (u.can capWebchatHandoffResumeAi ||
      (r.status = .accepted && r.assignedAgentId = some uid && c.activeAgentId = some uid &&
        u.can capWebchatHandoffRelease))

def resumeAiForHandoff (rid uid : ℕ) : Op Unit := do
  let r ← Txn.check (·.requestRow rid)
  if r.ticketId.isSome then Core.resumeAiForHandoff rid uid
  else do
    let c ← Txn.check (·.ticketlessContext r uid)
    require r.status.isOpen 409 "webchat handoff request is already terminal"
    let u ← Txn.read (·.user uid)
    require (canResumeTicketlessHandoff r c uid u) 403
      "webchat_handoff_resume_ai_requires_capability_or_ownership"
    Txn.write (·.giveBack rid r.conversationId)
    refillPrevious r.assignedAgentId

end NexusHelpdesk.Handoff
