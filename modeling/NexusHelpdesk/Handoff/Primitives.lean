import NexusHelpdesk.Handoff.Authority

/-!
# Routing primitives

`agent_routing_primitives.py`: loads, wrap-up, voice offers and the assignment itself.  The routing
service repeats several of these functions with routing plans around them; where the two copies
differ only in what they call, the copy here takes the differing calls as the fields of a
`RoutingOps`.

* `activeAgentLoad`, `activeVoiceLoad`, `reservedVoiceOfferCount`: what an agent has to do;
* `Primitives.releaseExpiredVoiceWrapUps`: closing the handoffs whose after-call work is over;
* `Primitives.createNextVoiceOffer`: reserving one ringing agent;
* `Primitives.assignHandoffToAgent`: the acceptance of a handoff;
* `expireVoiceOffersWith`, `fillAgentCapacityWith`: the functions common to both copies.
-/

namespace NexusHelpdesk.Handoff
open Lib

/-! ## loads -/

namespace Desk

/-- `active_agent_load`: accepted handoffs of the agent in open conversations without a call. -/
def activeAgentLoad (d : Desk) (uid : ℕ) : ℕ :=
  d.requests.count fun _ r =>
    r.status = .accepted && r.assignedAgentId = some uid && d.conversationOpen r.conversationId &&
      !d.hasOpenVoice r.conversationId

/-- the session is a call or after-call work of the agent. -/
def occupies (d : Desk) (uid : ℕ) (x : VoiceSession) : Bool :=
  (match x.handoffRequestId.bind d.requests.get? with
    | none => false
    | some r => r.status = .accepted && r.assignedAgentId = some uid) &&
    (x.status.isOccupied || x.wrapUpExpiresAt.any (d.now < ·))

def activeVoiceLoad (d : Desk) (uid : ℕ) : ℕ := d.sessions.count fun _ x => d.occupies uid x

def reservedVoiceOfferCount (d : Desk) (uid : ℕ) : ℕ :=
  d.offers.count fun _ o => o.agentId = uid && o.status = .offered && d.now < o.expiresAt

def ringingOffer (d : Desk) (sid : ℕ) : Option (ℕ × VoiceOffer) :=
  (d.offers.select fun _ o =>
    o.voiceSessionId = sid && o.status = .offered && d.now < o.expiresAt).head?

/-- the unanswered offer of the session to the agent, expired or not. -/
def offerTo (d : Desk) (sid uid : ℕ) : Option (ℕ × VoiceOffer) :=
  (d.offers.select fun _ o =>
    o.voiceSessionId = sid && o.agentId = uid && o.status = .offered).head?

def hasPriorOffer (d : Desk) (rid uid : ℕ) : Bool :=
  0 < d.offers.count fun _ o =>
    o.handoffRequestId = rid && o.agentId = uid && o.status ≠ .cancelled

def linkedRequest (d : Desk) (x : VoiceSession) : Option (ℕ × HandoffRequest) :=
  x.handoffRequestId.bind fun rid => (d.requests.get? rid).map fun r => (rid, r)

end Desk

/-- the sessions `release_expired_voice_wrap_ups` looks at, by the end of their wrap-up. -/
def Desk.dueWrapUps (d : Desk) (uid : Option ℕ) (limit : ℕ) : List (ℕ × VoiceSession) :=
  let due := d.sessions.select fun _ x =>
    x.wrapUpExpiresAt.any (· ≤ d.now) &&
      match uid with
      | none => true
      | some u => (d.linkedRequest x).any fun r => r.2.assignedAgentId = some u
  (due.insertionSort fun a b => a.2.wrapUpExpiresAt.getD 0 ≤ b.2.wrapUpExpiresAt.getD 0).take
    (max 1 (min (if limit = 0 then 100 else limit) 500))

def Desk.closeLinked (d : Desk) (x : VoiceSession) (p : HandoffStatus → Bool) : Desk :=
  match d.linkedRequest x with
  | some (rid, r) =>
    if p r.status then d.setRequest rid fun r => { r with status := .closed, updatedAt := d.now }
    else d
  | none => d

/-- one turn of `release_expired_voice_wrap_ups`. -/
def Desk.releaseWrapUp (d : Desk) (sid : ℕ) : Desk :=
  match d.sessions.get? sid with
  | none => d
  | some x =>
    let previous := (d.linkedRequest x).bind (·.2.assignedAgentId)
    ((d.closeLinked x (· = .accepted)).setSession sid fun x =>
      { x with wrapUpExpiresAt := none }).setConversation x.conversationId fun c =>
        if c.activeAgentId = previous then
          { c.snapshot none .closed none with aiSuspended := true }
        else c

def Primitives.releaseExpiredVoiceWrapUps (uid : Option ℕ) (limit : ℕ) : Op Unit := do
  let due ← Txn.read (·.dueWrapUps uid limit)
  Txn.each due fun x => Txn.write (·.releaseWrapUp x.1)

/-! ## voice offers -/

def VoiceSession.offerTimeout (x : VoiceSession) : ℤ :=
  match x.offerTimeoutSeconds with
  | none => 20
  | some 0 => 20
  | some n => max 5 (min n 120)

/-- the insertion of an offer, refused by the unique index while another offer of the session is
unanswered: the answer is the key of the new offer. -/
def insertOffer (sid rid uid : ℕ) (x : VoiceSession) : Op (Option ℕ) := do
  let unanswered ← Txn.read fun d =>
    d.offers.count fun _ o => o.voiceSessionId = sid && o.status = .offered
  if 0 < unanswered then pure none
  else do
    let oid ← Txn.read (·.offers.next)
    Txn.write fun d => { d with
      offers := d.offers.insert ⟨sid, rid, uid, .offered, d.now + seconds x.offerTimeout⟩ }
    pure (some oid)

/-- what both copies of `create_next_voice_offer` check first: an open session whose request still
waits. -/
def Desk.waitingCall (d : Desk) (sid : ℕ) : Option (VoiceSession × ℕ × HandoffRequest) :=
  match d.sessions.get? sid with
  | none => none
  | some x =>
    if x.status.isOpen then
      match d.linkedRequest x with
      | some (rid, r) => if r.status = .requested then some (x, rid, r) else none
      | none => none
    else none

def Desk.hasVoiceRoom (d : Desk) (uid : ℕ) (st : AgentState) : Bool :=
  d.activeVoiceLoad uid + d.reservedVoiceOfferCount uid < st.maxConcurrentVoiceCalls

def Desk.eligibleVoiceAgents (d : Desk) (rid : ℕ) (control : ConversationControl) :
    List (ℕ × AgentState) :=
  if control.hasCountry then
    d.onlineAgents.filter fun (uid, st) =>
      st.voiceEnabled && (d.user uid).grants.any (·.covers control) &&
        st.heartbeatIsFresh d.now && !d.hasPriorOffer rid uid && d.hasVoiceRoom uid st
  else []

/-- `create_next_voice_offer` of the primitives; the answer is the offer that rings now. -/
def Primitives.createNextVoiceOffer (sid : ℕ) : Op (Option ℕ) := do
  let call ← Txn.read (·.waitingCall sid)
  match call with
  | none => pure none
  | some (x, rid, r) => do
    let ringing ← Txn.read (·.ringingOffer sid)
    match ringing with
    | some (oid, _) => pure (some oid)
    | none => do
      let isOpen ← Txn.read (·.conversationOpen x.conversationId)
      if isOpen then do
        let control ← ensureConversationControl x.conversationId
        let candidates ← Txn.read (·.eligibleVoiceAgents rid control)
        match candidates with
        | [] => pure none
        | (uid, _) :: _ => do
          let offer ← insertOffer sid rid uid x
          match offer with
          | none => do
            let other ← Txn.read (·.ringingOffer sid)
            pure (other.map (·.1))
          | some oid => do
            Txn.write (·.setSession sid fun x => { x with status := .ringing })
            pure (some oid)
      else pure none

/-! ## assignment -/

/-- the check of an assignment on a conversation with an open call: the agent answers its own
unexpired offer and has room for the call. -/
def Desk.voiceOccupancy (d : Desk) (sid uid : ℕ) (st : AgentState) (offer : Option ℕ) :
    Except Refusal ℕ :=
  if !st.voiceEnabled then .error (.http 409 "agent_voice_disabled")
  else
    let rows := d.offers.select fun oid o =>
      o.voiceSessionId = sid && o.agentId = uid && o.status = .offered &&
        (offer.isNone || offer = some oid)
    match rows.head? with
    | none => .error (.http 409 "voice_offer_not_owned")
    | some (oid, o) =>
      if o.expiresAt ≤ d.now then .error (.http 409 "voice_offer_expired")
      else if st.maxConcurrentVoiceCalls ≤
          d.activeVoiceLoad uid + (d.reservedVoiceOfferCount uid - 1) then
        .error (.http 409 "agent_voice_capacity_full")
      else .ok oid

/-- the checks under the row locks: the request waits, and the agent has room.  The answer is the
open call with the offer that is accepted. -/
def Desk.assignable (d : Desk) (rid cid uid : ℕ) (st : AgentState) (offer : Option ℕ) :
    Except Refusal (Option (ℕ × ℕ)) :=
  match d.requests.get? rid, d.conversations.get? cid with
  | some r, some _ =>
    if r.status ≠ .requested then .error (.http 409 "handoff_not_waiting")
    else match d.voiceSession cid with
      | some (sid, _) =>
        match d.voiceOccupancy sid uid st offer with
        | .error e => .error e
        | .ok oid => .ok (some (sid, oid))
      | none =>
        if st.maxConcurrentConversations ≤ d.activeAgentLoad uid then
          .error (.http 409 "agent_capacity_full")
        else .ok none
  | _, _ => .error (.http 409 "handoff_not_waiting")

/-- the acceptance of a call: this offer is accepted, the other offers of the session are off. -/
def Desk.acceptCall (d : Desk) (rid sid oid : ℕ) : Desk :=
  { d.setSession sid (fun x => { x with handoffRequestId := some rid, status := .accepted }) with
    offers := d.offers.mapRows fun i o =>
      if i = oid then { o with status := .accepted }
      else if o.voiceSessionId = sid ∧ o.status = .offered then { o with status := .cancelled }
      else o }

def Desk.acceptHandoff (d : Desk) (rid cid uid : ℕ) (call : Option (ℕ × ℕ)) : Desk :=
  let d := d.setRequest rid fun r =>
    { r with
      status := .accepted
      assignedAgentId := some uid
      acceptedAt := some (r.acceptedAt.getD d.now)
      updatedAt := d.now }
  let d := d.setConversation cid fun c =>
    ((c.snapshot (some rid) .accepted (some uid)).suspendAi d.now).cancelAiTurns
  let d := match call with
    | some (sid, oid) => d.acceptCall rid sid oid
    | none => d
  d.setTicket ((d.conversations.get? cid).bind (·.ticketId)) fun t =>
    { t with assigneeId := some uid }

def Primitives.assignHandoffToAgent (rid cid uid : ℕ) (offer : Option ℕ) : Op Unit := do
  let st ← getOrCreateAgentState uid
  let now ← Txn.read (·.now)
  require (st.status = .online && st.heartbeatIsFresh now) 409 "agent_not_available"
  let control ← ensureConversationControl cid
  let u ← Txn.read (·.user uid)
  require (u.hasScope control) 403 "agent_scope_not_authorized"
  let call ← Txn.check (·.assignable rid cid uid st offer)
  Txn.write (·.acceptHandoff rid cid uid call)

/-! ## what the two copies share -/

/-- the calls in which the primitives and the routing service differ. -/
structure RoutingOps where
  createNextVoiceOffer : ℕ → Op (Option ℕ)
  releaseExpiredVoiceWrapUps : Option ℕ → ℕ → Op Unit
  eligibleTextRequestForAgent : ℕ → Op (Option (ℕ × ℕ))
  assignHandoffToAgent : ℕ → ℕ → ℕ → Option ℕ → Op Unit

/-- the offers that ring no more, by their deadline. -/
def Desk.expiredOffers (d : Desk) (uid sid : Option ℕ) (limit : ℕ) : List (ℕ × VoiceOffer) :=
  let rows := d.offers.select fun _ o =>
    o.status = .offered && o.expiresAt ≤ d.now && (uid.isNone || uid = some o.agentId) &&
      (sid.isNone || sid = some o.voiceSessionId)
  (rows.insertionSort fun a b => a.2.expiresAt ≤ b.2.expiresAt).take (max 1 (min limit 1000))

/-- set the status of some offers and ring the next agent for each session they belong to. -/
def retireOffers (ops : RoutingOps) (offers : List (ℕ × VoiceOffer)) (status : OfferStatus) :
    Op Unit := do
  Txn.write fun d => { d with
    offers := d.offers.mapRows fun i o =>
      if i ∈ offers.map (·.1) then { o with status := status } else o }
  Txn.each (offers.map (·.2.voiceSessionId)).dedup fun sid => do
    let _ ← ops.createNextVoiceOffer sid
    pure ()

def expireVoiceOffersWith (ops : RoutingOps) (uid sid : Option ℕ) (limit : ℕ) : Op Unit := do
  let offers ← Txn.read (·.expiredOffers uid sid limit)
  retireOffers ops offers .expired

def cancelAgentVoiceOffersWith (ops : RoutingOps) (uid : ℕ) : Op Unit := do
  let offers ← Txn.read fun d =>
    d.offers.select fun _ o => o.agentId = uid && o.status = .offered
  retireOffers ops offers .cancelled

/-- the `while` loop of `fill_agent_capacity`; the answer lists the requests it assigned. -/
def fillTextWith (ops : RoutingOps) (uid : ℕ) (st : AgentState) : ℕ → Op (List ℕ)
  | 0 => pure []
  | fuel + 1 => do
    let load ← Txn.read (·.activeAgentLoad uid)
    if load < st.maxConcurrentConversations then do
      let candidate ← ops.eligibleTextRequestForAgent uid
      match candidate with
      | none => pure []
      | some (rid, cid) => do
        let result ← Txn.attempt (ops.assignHandoffToAgent rid cid uid none)
        match result with
        | .ok _ => do
          let rest ← fillTextWith ops uid st fuel
          pure (rid :: rest)
        | .error (.crash e) => Txn.raise (.crash e)
        | .error (.conflict _) => pure []
        | .error (.http code detail) =>
          if code = 409 ∧ detail = "handoff_not_waiting" then fillTextWith ops uid st fuel
          else pure []
    else pure []

/-- the waiting calls, oldest request first. -/
def Desk.voiceRows (d : Desk) : List ℕ :=
  let rows := d.sessions.rows.filterMap fun (sid, x) =>
    match d.linkedRequest x with
    | some (_, r) =>
      if r.status = .requested ∧ (x.status = .created ∨ x.status = .ringing) then
        some (sid, r.requestedAt)
      else none
    | none => none
  ((rows.insertionSort fun a b => a.2 ≤ b.2).take 100).map (·.1)

/-- the last part of `fill_agent_capacity`: ring an agent for each waiting call. -/
def offerWaitingCalls (ops : RoutingOps) : Op Unit := do
  let rows ← Txn.read (·.voiceRows)
  Txn.each rows fun sid => do
    let _ ← ops.createNextVoiceOffer sid
    pure ()

/-- `fill_agent_capacity`: each turn of the loop takes one of the free places, so the capacity
bounds the number of turns. -/
def fillAgentCapacityWith (ops : RoutingOps) (uid : ℕ) : Op (List ℕ) := do
  let st ← getOrCreateAgentState uid
  let now ← Txn.read (·.now)
  if st.status = .online && st.heartbeatIsFresh now then do
    expireVoiceOffersWith ops (some uid) none 200
    ops.releaseExpiredVoiceWrapUps (some uid) 100
    let assigned ← fillTextWith ops uid st st.maxConcurrentConversations
    Txn.when st.voiceEnabled (offerWaitingCalls ops)
    pure assigned
  else pure []

/-- the waiting text requests: no open call, not declined by the agent, oldest first. -/
def Desk.textQueue (d : Desk) (uid : ℕ) : List (ℕ × HandoffRequest) :=
  let rows := d.requests.select fun rid r =>
    r.status = .requested && d.conversationOpen r.conversationId &&
      ((d.conversations.get? r.conversationId).bind (·.control)).any (·.countryCode.isSome) &&
      !d.declinedBy rid uid && !d.hasOpenVoice r.conversationId
  rows.insertionSort fun a b => a.2.requestedAt ≤ b.2.requestedAt

/-- `_eligible_text_request_for_agent` of the primitives: the first request of a granted scope. -/
def Primitives.eligibleTextRequestForAgent (uid : ℕ) : Op (Option (ℕ × ℕ)) :=
  Txn.read fun d =>
    ((d.textQueue uid).find? fun (_, r) =>
      ((d.conversations.get? r.conversationId).bind (·.control)).any fun k =>
        (d.user uid).grants.any (·.covers k)).map fun (rid, r) => (rid, r.conversationId)

def primitiveOps : RoutingOps where
  createNextVoiceOffer := Primitives.createNextVoiceOffer
  releaseExpiredVoiceWrapUps := Primitives.releaseExpiredVoiceWrapUps
  eligibleTextRequestForAgent := Primitives.eligibleTextRequestForAgent
  assignHandoffToAgent := Primitives.assignHandoffToAgent

def Primitives.fillAgentCapacity (uid : ℕ) : Op (List ℕ) := fillAgentCapacityWith primitiveOps uid

end NexusHelpdesk.Handoff
