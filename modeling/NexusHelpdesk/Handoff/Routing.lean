import NexusHelpdesk.Handoff.Primitives

/-!
# The routing service

`agent_routing_service.py`: the routing primitives with a routing plan around every request of a
ticket.

* `createNextVoiceOffer`, `releaseExpiredVoiceWrapUps`, `eligibleTextRequestForAgent`,
  `assignHandoffToAgent`: the routing service's own copies, collected in `routingOps`;
* `expireVoiceOffers`, `fillAgentCapacity`, `setAgentState`, `heartbeatAgent`;
* `acceptVoiceOffer`, `declineVoiceOffer`;
* `requestHandoff` with its automatic assignment, and `closeConversation`.
-/

namespace NexusHelpdesk.Handoff
open Lib

/-! ## voice offers -/

/-- `_eligible_voice_agents`: the plan is verified again and every agent is checked twice. -/
def eligibleVoiceAgents (rid : ℕ) (control : ConversationControl) :
    Op (List (ℕ × AgentState)) :=
  if control.hasCountry then do
    let plan ← ensureHandoffRoutingPlan rid
    let candidates ← eligibleAgents plan control .voice true
    Txn.filter candidates fun (uid, st) => do
      let prior ← Txn.read (·.hasPriorOffer rid uid)
      if prior then pure false
      else do
        let authorized ← candidateAuthorized plan control uid .voice true
        if authorized then Txn.read (·.hasVoiceRoom uid st) else pure false
  else pure []

/-- the end of `create_next_voice_offer`: ring the first candidate. -/
def ringCandidate (sid rid uid : ℕ) (x : VoiceSession) (plan : Option ℕ) : Op (Option ℕ) := do
  let offer ← insertOffer sid rid uid x
  match offer with
  | none => do
    let other ← Txn.read (·.ringingOffer sid)
    pure (other.map (·.1))
  | some oid => do
    recordCandidateAttempt plan uid .voice
    Txn.write (·.setSession sid fun x => { x with status := .ringing })
    pure (some oid)

/-- `create_next_voice_offer`; the answer is the offer that rings now. -/
def createNextVoiceOffer (sid : ℕ) : Op (Option ℕ) := do
  let call ← Txn.read (·.waitingCall sid)
  match call with
  | none => pure none
  | some (x, rid, r) => do
    let plan ← ensureHandoffRoutingPlan rid
    let ringing ← Txn.read (·.ringingOffer sid)
    match ringing with
    | some (oid, _) => pure (some oid)
    | none => do
      let isOpen ← Txn.read (·.conversationOpen x.conversationId)
      if isOpen then do
        let control ← ensureConversationControl x.conversationId
        let candidates ← eligibleVoiceAgents rid control
        match candidates with
        | [] => do
          scheduleRetryOrExhaust plan
          pure none
        | (uid, _) :: _ => ringCandidate sid rid uid x plan
      else pure none

/-- `release_expired_voice_wrap_ups`: the primitive, then the plans of the requests involved. -/
def releaseExpiredVoiceWrapUps (uid : Option ℕ) (limit : ℕ) : Op Unit := do
  let due ← Txn.read (·.dueWrapUps uid limit)
  Primitives.releaseExpiredVoiceWrapUps uid limit
  Txn.each (due.filterMap (·.2.handoffRequestId)).dedup closeRoutingPlan

/-! ## text requests -/

/-- the scan of `_eligible_text_request_for_agent`: the first request the agent may serve. -/
def scanTextQueue (uid : ℕ) : List (ℕ × HandoffRequest) → Op (Option (ℕ × ℕ))
  | [] => pure none
  | (rid, r) :: rows => do
    let control ← Txn.read fun d => (d.conversations.get? r.conversationId).bind (·.control)
    match control with
    | none => scanTextQueue uid rows
    | some k => do
      let plan ← ensureHandoffRoutingPlan rid
      let authorized ← candidateAuthorized plan k uid .text true
      if authorized then pure (some (rid, r.conversationId)) else scanTextQueue uid rows

def eligibleTextRequestForAgent (uid : ℕ) : Op (Option (ℕ × ℕ)) := do
  let rows ← Txn.read fun d => (d.textQueue uid).take 100
  scanTextQueue uid rows

def assignHandoffToAgent (rid cid uid : ℕ) (offer : Option ℕ) : Op Unit := do
  let control ← ensureConversationControl cid
  let session ← Txn.read (·.voiceSession cid)
  let kind : ChannelKind := if session.isSome then .voice else .text
  let plan ← ensureHandoffRoutingPlan rid
  let authorized ← candidateAuthorized plan control uid kind false
  require authorized 403 "agent_scenario_scope_not_authorized"
  Primitives.assignHandoffToAgent rid cid uid offer
  recordCandidateAttempt plan uid kind
  markPlanAssigned plan uid

/-- the routing service calls its own copies. -/
def routingOps : RoutingOps where
  createNextVoiceOffer := createNextVoiceOffer
  releaseExpiredVoiceWrapUps := releaseExpiredVoiceWrapUps
  eligibleTextRequestForAgent := eligibleTextRequestForAgent
  assignHandoffToAgent := assignHandoffToAgent

def expireVoiceOffers (uid sid : Option ℕ) (limit : ℕ) : Op Unit :=
  expireVoiceOffersWith routingOps uid sid limit

def cancelAgentVoiceOffers (uid : ℕ) : Op Unit := cancelAgentVoiceOffersWith routingOps uid

def fillAgentCapacity (uid : ℕ) : Op (List ℕ) := fillAgentCapacityWith routingOps uid

/-! ## presence -/

/-- the settings of `set_agent_state` that the request carries. -/
structure AgentSettings where
  presenceStatus : String
  maxConcurrentConversations : Option ℤ
  voiceEnabled : Option Bool
  maxConcurrentVoiceCalls : Option ℤ
  voiceWrapUpSeconds : Option ℤ

def Presence.parse (s : String) : Except Refusal Presence :=
  match PyStr.lower (PyStr.strip s) with
  | "offline" => .ok .offline
  | "online" => .ok .online
  | "paused" => .ok .paused
  | _ => .error (.http 400 "invalid_agent_presence_status")

/-- `set_agent_state` on the agent state, before anything is offered or assigned. -/
def Desk.appliedSettings (d : Desk) (uid : ℕ) (a : AgentSettings) (st : AgentState) :
    Except Refusal AgentState := do
  let presence ← Presence.parse a.presenceStatus
  let st ← match a.maxConcurrentConversations with
    | none => .ok st
    | some n =>
      if 1 ≤ n ∧ n ≤ 20 then .ok { st with maxConcurrentConversations := n.toNat }
      else .error (.http 400 "invalid_agent_capacity")
  let st ← match a.voiceEnabled with
    | none => .ok st
    | some b =>
      if !b ∧ 0 < d.activeVoiceLoad uid then
        .error (.http 409 "agent_voice_disable_blocked_by_active_call")
      else .ok { st with voiceEnabled := b }
  let st ← match a.maxConcurrentVoiceCalls with
    | none => .ok st
    | some n =>
      if ¬(1 ≤ n ∧ n ≤ 5) then .error (.http 400 "invalid_agent_voice_capacity")
      else if n < d.activeVoiceLoad uid then
        .error (.http 409 "agent_voice_capacity_below_active_load")
      else .ok { st with maxConcurrentVoiceCalls := n.toNat }
  let st ← match a.voiceWrapUpSeconds with
    | none => .ok st
    | some n =>
      if 0 ≤ n ∧ n ≤ 900 then .ok { st with voiceWrapUpSeconds := n.toNat }
      else .error (.http 400 "invalid_agent_voice_wrap_up")
  return { st with
    status := presence
    lastHeartbeatAt := if presence = .offline then none else some d.now
    updatedAt := d.now }

def setAgentState (uid : ℕ) (a : AgentSettings) : Op Unit := do
  let row ← getOrCreateAgentState uid
  let st ← Txn.check fun d => d.appliedSettings uid a row
  Txn.write (·.setAgentState uid st)
  Txn.when (st.status ≠ .online || !st.voiceEnabled) (cancelAgentVoiceOffers uid)
  Txn.when (st.status = .online) do
    releaseExpiredVoiceWrapUps (some uid) 100
    let _ ← fillAgentCapacity uid
    pure ()

def heartbeatAgent (uid : ℕ) : Op Unit := do
  let st ← getOrCreateAgentState uid
  if st.status = .offline then pure ()
  else do
    Txn.write fun d =>
      d.setAgentState uid { st with lastHeartbeatAt := some d.now, updatedAt := d.now }
    expireVoiceOffers (some uid) none 200
    releaseExpiredVoiceWrapUps (some uid) 100
    Txn.when (st.status = .online) do
      let _ ← fillAgentCapacity uid
      pure ()

/-- the request and the conversation of a call, which both answers need. -/
def Desk.callContext (d : Desk) (sid : ℕ) : Except Refusal (VoiceSession × ℕ) :=
  match d.sessions.get? sid with
  | none => .error (.crash "session_missing")
  | some x =>
    match d.linkedRequest x, d.conversations.get? x.conversationId with
    | some (rid, _), some _ => .ok (x, rid)
    | _, _ => .error (.http 409 "voice_handoff_missing")

def acceptVoiceOffer (sid uid : ℕ) : Op Unit := do
  let (x, rid) ← Txn.check (·.callContext sid)
  let offer ← Txn.read (·.offerTo sid uid)
  match offer with
  | none => Txn.raise (.http 409 "voice_offer_not_owned")
  | some (oid, _) => assignHandoffToAgent rid x.conversationId uid (some oid)

def Desk.declineOffer (d : Desk) (sid rid cid oid uid : ℕ) : Desk :=
  let d := { d with
    offers := d.offers.modify oid fun o => { o with status := .declined }
    declined := d.declined ++ [(rid, uid)] }
  (d.setSession sid fun x => { x with status := .ringing }).setConversation cid fun c =>
    { c with handoffStatus := .requested, activeAgentId := none, aiSuspended := true }

def declineVoiceOffer (sid uid : ℕ) : Op Unit := do
  let (x, rid) ← Txn.check (·.callContext sid)
  let offer ← Txn.read (·.offerTo sid uid)
  match offer with
  | none => do
    let declined ← Txn.read fun d => d.offers.count fun _ o =>
      o.voiceSessionId = sid && o.agentId = uid && o.status = .declined
    if 0 < declined then pure () else Txn.raise (.http 409 "voice_offer_not_owned")
  | some (oid, _) => do
    Txn.write (·.declineOffer sid rid x.conversationId oid uid)
    let _ ← createNextVoiceOffer sid
    pure ()

/-! ## requests -/

/-- the loop of `_auto_assign_text_request`: the first candidate with room gets the request; the
answer is whether the loop returned early. -/
def assignFirst (rid cid : ℕ) (plan : Option ℕ) (control : ConversationControl) :
    List (ℕ × AgentState) → Op Bool
  | [] => pure false
  | (uid, st) :: rest => do
    let authorized ← candidateAuthorized plan control uid .text true
    let waiting ← Txn.read fun d => (d.requests.get? rid).any (·.status = .requested)
    let load ← Txn.read (·.activeAgentLoad uid)
    if !authorized then assignFirst rid cid plan control rest
    else if !waiting then pure true
    else if st.maxConcurrentConversations ≤ load then assignFirst rid cid plan control rest
    else do
      assignHandoffToAgent rid cid uid none
      pure true

def autoAssignTextRequest (rid cid : ℕ) (control : ConversationControl) : Op Unit := do
  let plan ← ensureHandoffRoutingPlan rid
  let candidates ← eligibleAgents plan control .text false
  let settled ← assignFirst rid cid plan control candidates
  Txn.when (!settled) (scheduleRetryOrExhaust plan)

def HandoffRequest.new (cid : ℕ) (ticketId : Option ℕ) (now : Instant) : HandoffRequest :=
  ⟨cid, ticketId, .requested, none, now, none, now, none⟩

/-- link the open call of the conversation to a waiting request and ring the next agent. -/
def ringForRequest (cid rid : ℕ) : Op Unit := do
  let session ← Txn.read (·.voiceSession cid)
  match session with
  | none => pure ()
  | some (sid, _) => do
    Txn.write (·.setSession sid fun x => { x with handoffRequestId := some rid })
    let _ ← createNextVoiceOffer sid
    pure ()

def Desk.openRequest (d : Desk) (cid rid : ℕ) (session : Option ℕ) : Desk :=
  let d := match session with
    | some sid => d.setSession sid fun x =>
        { x with handoffRequestId := some rid, status := .ringing }
    | none => d
  d.setConversation cid fun c =>
    { (c.snapshot (some rid) .requested none).cancelAiTurns with
      aiSuspended := true, aiSuspendedAt := some d.now }

/-- `request_handoff`; the answer is the open request of the conversation. -/
def requestHandoff (cid : ℕ) : Op ℕ := do
  let existing ← Txn.read (·.activeRequest cid)
  match existing with
  | some (rid, r) =>
    if r.status = .requested then do
      Txn.write fun d => d.setRequest rid fun r => { r with updatedAt := d.now }
      let _ ← ensureHandoffRoutingPlan rid
      ringForRequest cid rid
      pure rid
    else pure rid
  | none => do
    let conversation ← Txn.read (·.conversations.get? cid)
    match conversation with
    | none => Txn.raise (.crash "conversation_missing")
    | some c => do
      let rid ← Txn.read (·.requests.next)
      Txn.write fun d => { d with
        requests := d.requests.insert (HandoffRequest.new cid c.ticketId d.now) }
      let _ ← ensureHandoffRoutingPlan rid
      let session ← Txn.read (·.voiceSession cid)
      Txn.write (·.openRequest cid rid (session.map (·.1)))
      let control ← ensureConversationControl cid
      match session with
      | some (sid, _) => do
        let _ ← createNextVoiceOffer sid
        pure rid
      | none => do
        autoAssignTextRequest rid cid control
        pure rid

/-! ## closing -/

/-- `_scope_grant_exists` of the routing service: the plan of the open request decides. -/
def scopeGrantExists (uid cid : ℕ) (control : ConversationControl) : Op Bool := do
  let request ← Txn.read (·.activeRequest cid)
  match request with
  | none => candidateAuthorized none control uid .text false
  | some (rid, _) => do
    let plan ← ensureHandoffRoutingPlan rid
    candidateAuthorized plan control uid .text false

def conversationOutcomes : List String :=
  ["ai_resolved", "human_resolved", "ticket_created", "customer_abandoned", "no_action_required",
    "unresolved"]

def Desk.closeCurrent (d : Desk) (current : Option ℕ) : Desk :=
  match current with
  | none => d
  | some rid =>
    if (d.requests.get? rid).any (·.status.isOpen) then
      (d.setRequest rid fun r => { r with status := .closed, updatedAt := d.now }
        ).cancelOffersOfRequest rid
    else d

def Desk.closeConversation (d : Desk) (cid : ℕ) (c : Conversation) (outcome : String) : Desk :=
  (d.closeCurrent c.currentHandoffRequestId).setConversation cid fun c =>
    { c.snapshot none .closed none with
      isOpen := false
      aiSuspended := true
      control := c.control.map fun k => { k with outcome := some outcome } }

def Primitives.closeConversation (cid uid : ℕ) (outcome : String) : Op Unit := do
  let normalized := PyStr.lower (PyStr.strip outcome)
  require (conversationOutcomes.contains normalized) 400 "invalid_conversation_outcome"
  let control ← ensureConversationControl cid
  let u ← Txn.read (·.user uid)
  require (u.hasScope control) 403 "agent_scope_not_authorized"
  let row ← Txn.read (·.conversations.get? cid)
  match row with
  | none => Txn.raise (.crash "conversation_missing")
  | some c =>
    if c.isOpen then do
      require (c.activeAgentId = none || c.activeAgentId = some uid || u.hasGlobalCaseVisibility)
        403 "conversation_owned_by_another_agent"
      Txn.write (·.closeConversation cid c normalized)
      match c.activeAgentId with
      | none => pure ()
      | some previous => do
        let known ← Txn.read (·.users.get? previous)
        Txn.when known.isSome do
          let _ ← Primitives.fillAgentCapacity previous
          pure ()
    else pure ()

def closeConversation (cid uid : ℕ) (outcome : String) : Op Unit := do
  let control ← ensureConversationControl cid
  let granted ← scopeGrantExists uid cid control
  require granted 403 "agent_scope_not_authorized"
  let current ← Txn.read fun d => (d.conversations.get? cid).bind (·.currentHandoffRequestId)
  Primitives.closeConversation cid uid outcome
  match current with
  | none => pure ()
  | some rid => closeRoutingPlan rid

end NexusHelpdesk.Handoff
