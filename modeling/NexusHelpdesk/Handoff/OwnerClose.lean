import NexusHelpdesk.Handoff.Refinement
import NexusHelpdesk.Lib.Refuses

/-!
# Closing what one has just taken

`close_conversation` authorises the agent again, with the plan the assignment has just marked
`assigned`: an assigned plan has no active generation, and nobody is authorised against it.

* `Desk.footing`: what the authorisation of a ticketless request rests on; an assignment keeps it;
* `Assigned`: what a successful assignment leaves;
* `Desk.Settled`: the request and its plan are closed and nothing rings for it any more;
* `owner_can_close_iff`: **the new owner can close the conversation exactly if it is open and its
  request has no ticket.**
-/

namespace NexusHelpdesk.Handoff
open Lib
open Txn (Keeps Fixes Returns)

/-! ## what an authorisation rests on -/

def Desk.scopeOf (d : Desk) (cid : ℕ) : Option ConversationControl :=
  (d.conversations.get? cid).map (·.ensuredControl d.scopeCountry)

def Desk.footing (d : Desk) (cid uid : ℕ) : Option ConversationControl × User :=
  (d.scopeOf cid, { d.user uid with agentState := none })

/-- the verdict of `_candidate_authorized` without a plan. -/
def User.hasLegacyScope (u : User) (k : ConversationControl) : Bool :=
  u.isActive && k.hasCountry && u.grants.any fun g => g.covers k && g.queueKey = "legacy"

lemma User.hasScope_of_legacy {u : User} {k : ConversationControl}
    (h : u.hasLegacyScope k = true) : u.hasScope k = true := by
  unfold User.hasLegacyScope at h
  rw [Bool.and_eq_true, Bool.and_eq_true] at h
  obtain ⟨⟨-, hcountry⟩, hgrant⟩ := h
  obtain ⟨g, hg, hcovers⟩ := List.any_eq_true.1 hgrant
  rw [Bool.and_eq_true] at hcovers
  unfold User.hasScope
  rw [hcountry, Bool.true_and]
  exact List.any_eq_true.2 ⟨g, hg, hcovers.1⟩

lemma Conversation.ensuredControl_idem (c : Conversation) (country : Option String) :
    Conversation.ensuredControl { c with control := some (c.ensuredControl country) } country =
      c.ensuredControl country := by
  unfold Conversation.ensuredControl
  cases c.control with
  | none => simp
  | some k =>
    by_cases h : PyStr.truthy country = true
    · simp [h]
    · simp [h]

section Footing
variable (d : Desk) {cid uid : ℕ}

lemma scopeOf_setConversation (i : ℕ) {f : Conversation → Conversation}
    (h : ∀ c, (f c).ensuredControl d.scopeCountry = c.ensuredControl d.scopeCountry) :
    (d.setConversation i f).scopeOf cid = d.scopeOf cid := by
  show ((d.conversations.modify i f).get? cid).map (·.ensuredControl d.scopeCountry) = _
  rw [Table.get?_modify]
  by_cases hi : cid = i
  · rw [if_pos hi, hi, Option.map_map]
    show (d.conversations.get? i).map _ = (d.conversations.get? i).map _
    exact congrArg (fun g => (d.conversations.get? i).map g) (funext h)
  · rw [if_neg hi]
    rfl

lemma standing_setAgentState (i : ℕ) (st : AgentState) :
    ({ (d.setAgentState i st).user uid with agentState := none } : User) =
      { d.user uid with agentState := none } := by
  show ({ ((d.users.modify i _).get? uid).getD User.absent with agentState := none } : User) = _
  unfold Desk.user
  rw [Table.get?_modify]
  by_cases hi : uid = i
  · rw [if_pos hi, hi]
    cases d.users.get? i with
    | none => rfl
    | some u => rfl
  · rw [if_neg hi]

lemma footing_getOrCreateAgentState (i : ℕ) :
    Fixes (fun d => Desk.footing d cid uid) (getOrCreateAgentState i) :=
  getOrCreateAgentState_fixes (fun d i st => Prod.ext rfl (standing_setAgentState d i st)) i

lemma footing_ensureConversationControl (i : ℕ) :
    Fixes (fun d => Desk.footing d cid uid) (ensureConversationControl i) := by
  intro d
  unfold ensureConversationControl
  cases hc : d.conversations.get? i with
  | none => simp [Txn.run_bind, hc]
  | some c =>
    simp only [Txn.run_bind, Txn.run_read, hc, Txn.run_write, Txn.run_pure]
    refine Prod.ext (scopeOf_setConversation d i fun c => ?_) rfl
    exact c.ensuredControl_idem d.scopeCountry

lemma footing_ensureHandoffRoutingPlan (i : ℕ) :
    Fixes (fun d => Desk.footing d cid uid) (ensureHandoffRoutingPlan i) :=
  ensureHandoffRoutingPlan_fixes (fun _ _ _ => rfl) i

lemma footing_candidateAuthorized (plan : Option ℕ) (k : ConversationControl) (i : ℕ)
    (kind : ChannelKind) (b : Bool) :
    Fixes (fun d => Desk.footing d cid uid) (candidateAuthorized plan k i kind b) :=
  candidateAuthorized_fixes (activateDueGeneration_fixes fun _ _ _ => rfl) plan k i kind b

lemma footing_setTicket (tid : Option ℕ) (f : Ticket → Ticket) :
    (d.setTicket tid f).footing cid uid = d.footing cid uid := by
  cases tid with
  | none => rfl
  | some tid => rfl

lemma footing_acceptHandoff (rid i u : ℕ) (call : Option (ℕ × ℕ)) :
    (d.acceptHandoff rid i u call).footing cid uid = d.footing cid uid := by
  unfold Desk.acceptHandoff
  rw [footing_setTicket]
  rcases call with _ | ⟨sid, oid⟩
  · refine Prod.ext (scopeOf_setConversation (d.setRequest rid _) i ?_) rfl
    intro c
    rfl
  · refine Prod.ext (scopeOf_setConversation (d.setRequest rid _) i ?_) rfl
    intro c
    rfl

end Footing

/-! ## what an assignment leaves -/

/-- at most one request of the conversation is open: the partial unique index
`uq_webchat_handoff_open_conversation`. -/
def Desk.OneOpen (d : Desk) (cid : ℕ) : Prop :=
  ∀ i j q r, d.requests.get? i = some q → d.requests.get? j = some r → q.conversationId = cid →
    r.conversationId = cid → q.status.isOpen = true → r.status.isOpen = true → i = j

section Core
variable {d t : Desk}

lemma request_of_core (h : t.core = d.core) {i : ℕ} {r : HandoffRequest}
    (hr : d.requests.get? i = some r) :
    ∃ p, t.requests.get? i = some { r with plan := p } := by
  have hrow : (t.core.requests).get? i = (d.core.requests).get? i := by rw [h]
  unfold Desk.core at hrow
  rw [Table.get?_mapRows, Table.get?_mapRows, hr] at hrow
  obtain ⟨q, hq, he⟩ := Option.map_eq_some_iff.1 hrow
  refine ⟨q.plan, hq.trans (congrArg some ?_)⟩
  cases q
  cases r
  simp only [HandoffRequest.mk.injEq] at he ⊢
  simp [he]

lemma conversation_of_core (h : t.core = d.core) {i : ℕ} {c : Conversation}
    (hc : d.conversations.get? i = some c) :
    ∃ k, t.conversations.get? i = some { c with control := k } := by
  have hrow : (t.core.conversations).get? i = (d.core.conversations).get? i := by rw [h]
  unfold Desk.core at hrow
  rw [Table.get?_mapRows, Table.get?_mapRows, hc] at hrow
  obtain ⟨q, hq, he⟩ := Option.map_eq_some_iff.1 hrow
  refine ⟨q.control, hq.trans (congrArg some ?_)⟩
  cases q
  cases c
  simp only [Conversation.mk.injEq] at he ⊢
  simp [he]

end Core

section Assign
variable {d t : Desk} {rid cid uid : ℕ} {offer : Option ℕ} {r : HandoffRequest}

lemma require_ok {b : Bool} {code : ℕ} {detail : String} {u : Unit}
    (h : require b code detail d = (.ok u, t)) : b = true ∧ t = d := by
  unfold require Txn.refuseUnless at h
  cases b with
  | true =>
    cases h
    exact ⟨rfl, rfl⟩
  | false => cases h

/-- an assignment is the writes of `acceptHandoff` on a desk that routing has looked at. -/
lemma Primitives.assignHandoffToAgent_ok
    (h : Primitives.assignHandoffToAgent rid cid uid offer d = (.ok (), t)) :
    ∃ (d' : Desk) (st : AgentState) (call : Option (ℕ × ℕ)), d'.core = d.core ∧
      d'.assignable rid cid uid st offer = .ok call ∧
      t = d'.acceptHandoff rid cid uid call := by
  unfold Primitives.assignHandoffToAgent at h
  simp only [Txn.bind_eq_ok] at h
  obtain ⟨st, d1, h1, now, d2, h2, _, d3, h3, k, d4, h4, u, d5, h5, _, d6, h6, call, d7, h7,
    h8⟩ := h
  cases h2
  cases h5
  obtain ⟨-, rfl⟩ := require_ok h3
  obtain ⟨-, rfl⟩ := require_ok h6
  obtain ⟨hcall, rfl⟩ := Prod.mk.inj h7
  cases h8
  have hstate : d3.core = d.core := (fixes_getOrCreateAgentState uid).of_run h1
  have hcontrol : d6.core = d3.core := (fixes_ensureConversationControl cid).of_run h4
  exact ⟨d6, st, call, hcontrol.trans hstate, hcall, rfl⟩

lemma Primitives.footing_assignHandoffToAgent {i u : ℕ} :
    Fixes (fun d => Desk.footing d i u)
      (Primitives.assignHandoffToAgent rid cid uid offer) := by
  unfold Primitives.assignHandoffToAgent
  refine Fixes.bind (footing_getOrCreateAgentState uid) fun st => ?_
  refine Fixes.bind Fixes.read fun now => ?_
  refine Fixes.bind Fixes.refuseUnless fun _ => ?_
  refine Fixes.bind (footing_ensureConversationControl cid) fun k => ?_
  refine Fixes.bind Fixes.read fun u => ?_
  refine Fixes.bind Fixes.refuseUnless fun _ => ?_
  refine Fixes.bind Fixes.check fun call => ?_
  exact Fixes.write fun d => footing_acceptHandoff d rid cid uid call

variable {k : ConversationControl}

lemma ensureConversationControl_ok
    (h : ensureConversationControl cid d = (.ok k, t)) : d.scopeOf cid = some k := by
  unfold ensureConversationControl at h
  unfold Desk.scopeOf
  cases hc : d.conversations.get? cid with
  | none => simp [Txn.run_bind, hc] at h
  | some c =>
    simp only [Txn.run_bind, Txn.run_read, hc, Txn.run_write, Txn.run_pure] at h
    cases h
    rfl

lemma ensureHandoffRoutingPlan_ok {plan : Option ℕ} (hr : d.requests.get? rid = some r)
    (h : ensureHandoffRoutingPlan rid d = (.ok plan, t)) :
    (r.ticketId = none → plan = none) ∧
      (r.ticketId ≠ none → plan = some rid ∧ (t.plan? rid).isSome = true) := by
  unfold ensureHandoffRoutingPlan at h
  simp only [Txn.run_bind, Txn.run_read, hr, Txn.run_check] at h
  cases hv : verifiedPlan d rid r with
  | error e => simp [hv] at h
  | ok p =>
    simp only [hv] at h
    unfold verifiedPlan at hv
    cases ht : r.ticketId with
    | none =>
      simp only [ht, Except.ok.injEq] at hv
      subst hv
      cases h
      exact ⟨fun _ => rfl, fun hne => absurd rfl hne⟩
    | some tid =>
      cases p with
      | none =>
        simp only [ht] at hv
        repeat' split at hv
        all_goals cases hv
      | some p =>
        cases h
        refine ⟨fun hne => absurd hne (Option.some_ne_none tid), fun _ => ⟨rfl, ?_⟩⟩
        show (((d.requests.modify rid _).get? rid).bind (·.plan)).isSome = true
        rw [Table.get?_modify_self, hr]
        rfl

lemma plan?_setPlan_isSome (d : Desk) (i j : ℕ) (f : RoutingPlan → RoutingPlan) :
    ((d.setPlan j f).plan? i).isSome = (d.plan? i).isSome := by
  show (((d.requests.modify j _).get? i).bind (·.plan)).isSome = _
  unfold Desk.plan?
  rw [Table.get?_modify]
  by_cases hi : i = j
  · rw [if_pos hi, hi]
    cases d.requests.get? j with
    | none => rfl
    | some r => exact Option.isSome_map
  · rw [if_neg hi]

/-- what a successful assignment of the request `r` of `cid` leaves. -/
structure Assigned (t : Desk) (rid cid uid : ℕ) (r : HandoffRequest) (isOpen : Bool) : Prop where
  request : ∃ q, t.requests.get? rid = some q ∧ q.conversationId = cid ∧
    q.ticketId = r.ticketId ∧ q.status = .accepted
  only : ∀ i q, t.requests.get? i = some q → q.conversationId = cid → q.status.isOpen = true →
    i = rid
  conversation : ∃ c, t.conversations.get? cid = some c ∧ c.isOpen = isOpen ∧
    c.currentHandoffRequestId = some rid ∧ c.activeAgentId = some uid
  granted : r.ticketId = none →
    ∃ k, t.scopeOf cid = some k ∧ (t.user uid).hasLegacyScope k = true
  assigned : r.ticketId ≠ none → ∃ p, t.plan? rid = some p ∧ p.status = .assigned

lemma requests_setTicket (d : Desk) (tid : Option ℕ) (f : Ticket → Ticket) :
    (d.setTicket tid f).requests = d.requests := by
  cases tid with
  | none => rfl
  | some tid => rfl

lemma conversations_setTicket (d : Desk) (tid : Option ℕ) (f : Ticket → Ticket) :
    (d.setTicket tid f).conversations = d.conversations := by
  cases tid with
  | none => rfl
  | some tid => rfl

lemma requests_acceptHandoff (d : Desk) (call : Option (ℕ × ℕ)) :
    (d.acceptHandoff rid cid uid call).requests = d.requests.modify rid fun r =>
      { r with
        status := .accepted
        assignedAgentId := some uid
        acceptedAt := some (r.acceptedAt.getD d.now)
        updatedAt := d.now } := by
  unfold Desk.acceptHandoff
  rw [requests_setTicket]
  rcases call with _ | ⟨sid, oid⟩
  · rfl
  · rfl

lemma conversations_acceptHandoff (d : Desk) (call : Option (ℕ × ℕ)) :
    (d.acceptHandoff rid cid uid call).conversations = d.conversations.modify cid fun c =>
      ((c.snapshot (some rid) .accepted (some uid)).suspendAi d.now).cancelAiTurns := by
  unfold Desk.acceptHandoff
  rw [conversations_setTicket]
  rcases call with _ | ⟨sid, oid⟩
  · rfl
  · rfl

lemma plan?_candidateAuthorized (plan : Option ℕ) (k : ConversationControl) (i : ℕ)
    (kind : ChannelKind) (b : Bool) :
    Fixes (fun d => (d.plan? rid).isSome) (candidateAuthorized plan k i kind b) :=
  candidateAuthorized_fixes (activateDueGeneration_fixes fun d j f => plan?_setPlan_isSome d rid j f)
    plan k i kind b

lemma request_acceptHandoff (cid uid : ℕ) (hr : d.requests.get? rid = some r)
    (call : Option (ℕ × ℕ)) :
    ∃ q, (d.acceptHandoff rid cid uid call).requests.get? rid = some q ∧
      q.conversationId = r.conversationId ∧ q.ticketId = r.ticketId ∧ q.status = .accepted := by
  rw [requests_acceptHandoff, Table.get?_modify_self, hr]
  exact ⟨_, rfl, rfl, rfl, rfl⟩

lemma conversation_acceptHandoff (rid uid : ℕ) {c : Conversation}
    (hc : d.conversations.get? cid = some c)
    (call : Option (ℕ × ℕ)) :
    ∃ q, (d.acceptHandoff rid cid uid call).conversations.get? cid = some q ∧
      q.isOpen = c.isOpen ∧ q.currentHandoffRequestId = some rid ∧ q.activeAgentId = some uid := by
  rw [conversations_acceptHandoff, Table.get?_modify_self, hc]
  exact ⟨_, rfl, rfl, rfl, rfl⟩

lemma plan?_acceptHandoff (d : Desk) (i : ℕ) (call : Option (ℕ × ℕ)) :
    (d.acceptHandoff rid cid uid call).plan? i = d.plan? i := by
  unfold Desk.plan?
  rw [requests_acceptHandoff, Table.get?_modify]
  by_cases hi : i = rid
  · rw [if_pos hi, hi]
    cases d.requests.get? rid with
    | none => rfl
    | some r => rfl
  · rw [if_neg hi]

lemma Primitives.plan?_assignHandoffToAgent (i : ℕ) :
    Fixes (fun d => d.plan? i) (Primitives.assignHandoffToAgent rid cid uid offer) := by
  unfold Primitives.assignHandoffToAgent
  refine Fixes.bind (getOrCreateAgentState_fixes (fun _ _ _ => rfl) uid) fun st => ?_
  refine Fixes.bind Fixes.read fun now => ?_
  refine Fixes.bind Fixes.refuseUnless fun _ => ?_
  refine Fixes.bind (ensureConversationControl_fixes (fun _ _ _ => rfl) cid) fun k => ?_
  refine Fixes.bind Fixes.read fun u => ?_
  refine Fixes.bind Fixes.refuseUnless fun _ => ?_
  refine Fixes.bind Fixes.check fun call => ?_
  exact Fixes.write fun d => plan?_acceptHandoff d i call

lemma plan?_recordCandidateAttempt (plan : Option ℕ) (i : ℕ) (kind : ChannelKind) :
    Fixes (fun d => (d.plan? rid).isSome) (recordCandidateAttempt plan i kind) := by
  cases plan with
  | none => exact Fixes.pure
  | some j => exact Fixes.write fun d => plan?_setPlan_isSome d rid j _

lemma hasLegacyScope_of_footing (h : t.footing cid uid = d.footing cid uid) :
    (t.user uid).hasLegacyScope k = (d.user uid).hasLegacyScope k :=
  congrArg (fun f => User.hasLegacyScope f.2 k) h

lemma candidateAuthorized_none_ok {kind : ChannelKind} {b granted : Bool}
    (h : candidateAuthorized none k uid kind b d = (.ok granted, t)) :
    granted = (d.user uid).hasLegacyScope k := by
  cases h
  rfl

lemma footing_assignHandoffToAgent {i u : ℕ} :
    Fixes (fun d => Desk.footing d i u) (assignHandoffToAgent rid cid uid offer) := by
  unfold assignHandoffToAgent
  refine Fixes.bind (footing_ensureConversationControl cid) fun k => ?_
  refine Fixes.bind Fixes.read fun session => ?_
  refine Fixes.bind (footing_ensureHandoffRoutingPlan rid) fun plan => ?_
  refine Fixes.bind (footing_candidateAuthorized plan k uid _ false) fun granted => ?_
  refine Fixes.bind Fixes.refuseUnless fun _ => ?_
  refine Fixes.bind Primitives.footing_assignHandoffToAgent fun _ => ?_
  cases plan with
  | none => exact Fixes.bind Fixes.pure fun _ => Fixes.pure
  | some j =>
    exact Fixes.bind (Fixes.write fun d => rfl) fun _ => Fixes.write fun d => rfl

lemma markPlanAssigned_ok (hp : (d.plan? rid).isSome = true)
    (h : markPlanAssigned (some rid) uid d = (.ok (), t)) :
    ∃ p, t.plan? rid = some p ∧ p.status = .assigned := by
  cases h
  unfold Desk.plan? at hp
  show ∃ p, ((d.requests.modify rid _).get? rid).bind (·.plan) = some p ∧ _
  rw [Table.get?_modify_self]
  cases hr : d.requests.get? rid with
  | none => simp [hr] at hp
  | some r =>
    rw [hr] at hp
    obtain ⟨p, hp⟩ := Option.isSome_iff_exists.1 hp
    have hplan : r.plan = some p := hp
    exact ⟨_, congrArg (Option.map _) hplan, rfl⟩

lemma assignHandoffToAgent_leaves (hr : d.requests.get? rid = some r) (hc : r.conversationId = cid)
    (hone : d.OneOpen cid) (h : assignHandoffToAgent rid cid uid offer d = (.ok (), t)) :
    Assigned t rid cid uid r (d.conversationOpen cid) := by
  have hfoot : t.footing cid uid = d.footing cid uid := footing_assignHandoffToAgent.of_run h
  unfold assignHandoffToAgent at h
  simp only [Txn.bind_eq_ok] at h
  obtain ⟨k, d1, h1, session, d2, h2, plan, d3, h3, granted, d4, h4, _, d5, h5, _, d6, h6,
    _, d7, h7, h8⟩ := h
  obtain rfl : d1 = d2 := (Prod.mk.inj h2).2
  obtain ⟨rfl, rfl⟩ := require_ok h5
  obtain ⟨d', st, call, hd', hcall, rfl⟩ := Primitives.assignHandoffToAgent_ok h6
  have hcore : d'.core = d.core := by
    rw [hd', (fixes_candidateAuthorized _ _ _ _ _).of_run h4,
      (fixes_ensureHandoffRoutingPlan _).of_run h3, (fixes_ensureConversationControl _).of_run h1]
  have hlast : t.core = (d'.acceptHandoff rid cid uid call).core := by
    rw [(fixes_markPlanAssigned _ _).of_run h8, (fixes_recordCandidateAttempt _ _ _).of_run h7]
  have hscope := ensureConversationControl_ok h1
  obtain ⟨p, hrow⟩ := request_of_core hcore hr
  obtain ⟨p₀, hr1⟩ := request_of_core ((fixes_ensureConversationControl _).of_run h1) hr
  constructor
  · obtain ⟨q, hq, hqc, hqt, hqs⟩ := request_acceptHandoff cid uid hrow call
    obtain ⟨p', hq'⟩ := request_of_core hlast hq
    exact ⟨_, hq', hqc.trans hc, hqt, hqs⟩
  · intro i q hq hconv hopen
    by_contra hi
    obtain ⟨p₁, hq₁⟩ := request_of_core hlast.symm hq
    rw [requests_acceptHandoff, Table.get?_modify, if_neg hi] at hq₁
    obtain ⟨p₂, hq₂⟩ := request_of_core hcore.symm hq₁
    have hst : r.status = .requested := by
      obtain ⟨⟨r', hr', hst⟩, -⟩ := assignable_ok hcall
      rw [hrow] at hr'
      cases hr'
      exact hst
    exact hi (hone i rid _ _ hq₂ hr hconv hc hopen (by rw [hst]; rfl))
  · obtain ⟨c, hconv, -⟩ := Option.map_eq_some_iff.1 hscope
    obtain ⟨k', hconv'⟩ := conversation_of_core hcore hconv
    obtain ⟨q, hq, hqo, hqr, hqa⟩ :=
      conversation_acceptHandoff rid uid hconv' call
    obtain ⟨k'', hq'⟩ := conversation_of_core hlast hq
    refine ⟨_, hq', ?_, hqr, hqa⟩
    show q.isOpen = (d.conversations.get? cid).any (·.isOpen)
    rw [hqo, hconv]
    rfl
  · intro ht
    have hplan := (ensureHandoffRoutingPlan_ok hr1 h3).1 ht
    subst hplan
    have hgranted := candidateAuthorized_none_ok h4
    have hfoot3 : d3.footing cid uid = d.footing cid uid := by
      rw [(footing_ensureHandoffRoutingPlan _).of_run h3,
        (footing_ensureConversationControl _).of_run h1]
    refine ⟨k, (congrArg Prod.fst hfoot).trans hscope, ?_⟩
    rw [hasLegacyScope_of_footing (hfoot.trans hfoot3.symm)]
    exact hgranted.symm
  · intro ht
    obtain ⟨hplan, hsome⟩ := (ensureHandoffRoutingPlan_ok hr1 h3).2 ht
    subst hplan
    refine markPlanAssigned_ok ?_ h8
    rw [(plan?_recordCandidateAttempt (some rid) uid _).of_run h7,
      (Primitives.plan?_assignHandoffToAgent rid).of_run h6,
      (plan?_candidateAuthorized _ _ _ _ _).of_run h4]
    exact hsome

end Assign

/-- the request is closed, and so is its plan if it has one; nothing rings for it. -/
structure Desk.Settled (d : Desk) (rid : ℕ) : Prop where
  request : ∃ r, d.requests.get? rid = some r ∧ r.status = .closed
  plan : ∀ p, d.plan? rid = some p → p.status = .closed
  offers : ∀ i o, d.offers.get? i = some o → o.handoffRequestId = rid → o.status ≠ .offered

/-- `close_conversation` by `uid` succeeds and settles the request. -/
def Desk.ClosedBy (d : Desk) (rid cid uid : ℕ) (outcome : String) : Prop :=
  ∃ t, Handoff.closeConversation cid uid outcome d = (.ok (), t) ∧ t.Settled rid

/-! ## what the freed agent gets next -/

/-- the request is closed and nothing rings for it. -/
def Desk.Gone (d : Desk) (rid : ℕ) : Prop :=
  (∃ r, d.requests.get? rid = some r ∧ r.status = .closed) ∧
    ∀ i o, d.offers.get? i = some o → o.handoffRequestId = rid → o.status ≠ .offered

section Fill
variable {rid : ℕ} {d : Desk}
variable {i cid uid : ℕ} {r : HandoffRequest} {sid : ℕ} {st : AgentState} {offer : Option ℕ}
  {e : Refusal}

lemma Desk.Gone.ne (h : d.Gone rid) (hr : d.requests.get? i = some r) (hst : r.status ≠ .closed) :
    i ≠ rid := by
  rintro rfl
  obtain ⟨⟨q, hq, hclosed⟩, -⟩ := h
  rw [hq] at hr
  cases hr
  exact hst hclosed

lemma Desk.Gone.setRequest (h : d.Gone rid) (hi : i ≠ rid)
    (f : HandoffRequest → HandoffRequest) : (d.setRequest i f).Gone rid := by
  obtain ⟨⟨q, hq, hclosed⟩, hoffers⟩ := h
  refine ⟨⟨q, ?_, hclosed⟩, hoffers⟩
  show (d.requests.modify i f).get? rid = some q
  rw [Table.get?_modify, if_neg (Ne.symm hi), hq]

lemma Desk.Gone.mapOffers (h : d.Gone rid) {f : ℕ → VoiceOffer → VoiceOffer}
    (hf : ∀ i o, (f i o).status = .offered →
      o.status = .offered ∧ (f i o).handoffRequestId = o.handoffRequestId) :
    ({ d with offers := d.offers.mapRows f } : Desk).Gone rid := by
  refine ⟨h.1, fun i o ho hrid hst => ?_⟩
  have hrow : (d.offers.mapRows f).get? i = some o := ho
  rw [Table.get?_mapRows] at hrow
  obtain ⟨o', ho', rfl⟩ := Option.map_eq_some_iff.1 hrow
  obtain ⟨hst', hreq⟩ := hf i o' hst
  exact h.2 i o' ho' (hreq.symm.trans hrid) hst'

lemma gone_getOrCreateAgentState (uid : ℕ) :
    Returns (fun d => d.Gone rid) (getOrCreateAgentState uid) fun _ d => d.Gone rid := by
  unfold getOrCreateAgentState
  refine Returns.skip_read fun row => ?_
  cases row with
  | some st => exact Returns.pure fun d hd => hd
  | none =>
    refine Returns.skip_read fun now => ?_
    refine Returns.bind (R := fun _ d => d.Gone rid) (Returns.write fun d hd => hd)
      fun _ => ?_
    exact Returns.pure fun d hd => hd

lemma gone_ensureConversationControl (cid : ℕ) :
    Returns (fun d => d.Gone rid ∧ (d.conversations.get? cid).isSome = true)
      (ensureConversationControl cid) fun _ d => d.Gone rid := by
  rintro d ⟨hd, hsome⟩
  obtain ⟨c, hc⟩ := Option.isSome_iff_exists.1 hsome
  unfold ensureConversationControl
  simp only [Txn.run_bind, Txn.run_read, hc, Txn.run_write, Txn.run_pure]
  exact hd

lemma gone_insertOffer (sid uid : ℕ) (x : VoiceSession) (hi : i ≠ rid) :
    Returns (fun d => d.Gone rid) (insertOffer sid i uid x) fun _ d => d.Gone rid := by
  unfold insertOffer
  refine Returns.skip_read fun n => ?_
  refine Returns.ite (fun _ => Returns.pure fun d hd => hd) fun _ => ?_
  refine Returns.skip_read fun oid => ?_
  refine Returns.bind (R := fun _ d => d.Gone rid) (Returns.write fun d hd => ?_) fun _ =>
    Returns.pure fun d hd => hd
  refine ⟨hd.1, fun j o ho hrid => ?_⟩
  have hrow : (d.offers.insert _).get? j = some o := ho
  rw [Table.get?_insert] at hrow
  split_ifs at hrow with hj
  · cases hrow
    exact absurd hrid hi
  · exact hd.2 j o hrow hrid

lemma waitingCall_some {x : VoiceSession} (h : d.waitingCall sid = some (x, i, r)) :
    d.sessions.get? sid = some x ∧ x.status.isOpen = true ∧ x.handoffRequestId = some i ∧
      d.requests.get? i = some r ∧ r.status = .requested := by
  unfold Desk.waitingCall Desk.linkedRequest at h
  cases hx : d.sessions.get? sid with
  | none => simp [hx] at h
  | some y =>
    simp only [hx] at h
    split_ifs at h with hopen
    cases hl : y.handoffRequestId with
    | none => simp [hl] at h
    | some j =>
      cases hr : d.requests.get? j with
      | none => simp [hl, hr] at h
      | some q =>
        by_cases hq : q.status = .requested
        · simp only [hl, Option.bind_some, hr, Option.map_some, if_pos hq, Option.some.injEq,
            Prod.mk.injEq] at h
          obtain ⟨rfl, rfl, rfl⟩ := h
          exact ⟨rfl, hopen, hl, hr, hq⟩
        · simp [hl, hr, hq] at h

lemma Primitives.gone_createNextVoiceOffer (sid : ℕ) :
    Returns (fun d => d.Gone rid) (Primitives.createNextVoiceOffer sid)
      fun _ d => d.Gone rid := by
  unfold Primitives.createNextVoiceOffer
  refine Returns.read_bind fun call => ?_
  rcases call with _ | ⟨x, i, r⟩
  · exact Returns.pure fun d hd => hd.1
  refine Returns.pre (P := fun d : Desk => d.Gone rid ∧ i ≠ rid)
    (Returns.assume fun hi => ?_) ?_
  · refine Returns.skip_read fun ringing => ?_
    rcases ringing with _ | ⟨oid, o⟩
    · refine Returns.read_bind fun isOpen => Returns.ite (fun hopen => ?_) fun _ =>
        Returns.pure fun d hd => hd.1
      refine Returns.bind (R := fun _ d => d.Gone rid)
        ((gone_ensureConversationControl x.conversationId).pre ?_) fun control => ?_
      · rintro d ⟨hd, hread⟩
        obtain ⟨c, hc, -⟩ := (Option.any_eq_true _ _).1 (hread.trans hopen)
        exact ⟨hd, Option.isSome_iff_exists.2 ⟨c, hc⟩⟩
      refine Returns.skip_read fun candidates => ?_
      rcases candidates with _ | ⟨⟨uid, st⟩, rest⟩
      · exact Returns.pure fun d hd => hd
      · refine Returns.bind (gone_insertOffer sid uid x hi) fun offer => ?_
        cases offer with
        | none =>
          exact Returns.skip_read fun _ => Returns.pure fun d hd => hd
        | some oid =>
          exact Returns.bind (R := fun _ d => d.Gone rid) (Returns.write fun d hd => hd)
            fun _ => Returns.pure fun d hd => hd
    · exact Returns.pure fun d hd => hd
  · rintro d ⟨hd, hread⟩
    obtain ⟨-, -, -, hr, hst⟩ := waitingCall_some hread
    exact ⟨hd, hd.ne hr (by rw [hst]; decide)⟩

lemma gone_retireOffers (offers : List (ℕ × VoiceOffer)) {status : OfferStatus}
    (hst : status ≠ .offered) :
    Returns (fun d => d.Gone rid) (retireOffers primitiveOps offers status)
      fun _ d => d.Gone rid := by
  unfold retireOffers
  refine Returns.bind (R := fun _ d => d.Gone rid) (Returns.write fun d hd => ?_)
    fun _ => ?_
  · refine hd.mapOffers fun i o ho => ?_
    by_cases hi : i ∈ offers.map (·.1)
    · rw [if_pos hi] at ho
      exact absurd ho hst
    · rw [if_neg hi] at ho ⊢
      exact ⟨ho, rfl⟩
  · refine Returns.each (fun sid => ?_) _
    exact Returns.bind (Primitives.gone_createNextVoiceOffer sid) fun _ =>
      Returns.pure fun d hd => hd

lemma gone_releaseWrapUp (h : d.Gone rid) (sid : ℕ) : (d.releaseWrapUp sid).Gone rid := by
  unfold Desk.releaseWrapUp
  cases hx : d.sessions.get? sid with
  | none => exact h
  | some x =>
    show (d.closeLinked x _).Gone rid
    unfold Desk.closeLinked Desk.linkedRequest
    cases hl : x.handoffRequestId with
    | none => exact h
    | some i =>
      cases hr : d.requests.get? i with
      | none => simpa [hr] using h
      | some r =>
        by_cases hst : r.status = .accepted
        · simpa [hr, hst] using h.setRequest (h.ne hr (by rw [hst]; decide)) _
        · simpa [hr, hst] using h

lemma Primitives.gone_releaseExpiredVoiceWrapUps (uid : Option ℕ) (limit : ℕ) :
    Returns (fun d => d.Gone rid) (Primitives.releaseExpiredVoiceWrapUps uid limit)
      fun _ d => d.Gone rid := by
  unfold Primitives.releaseExpiredVoiceWrapUps
  refine Returns.skip_read fun due => ?_
  exact Returns.each (fun x => Returns.write fun d hd => gone_releaseWrapUp hd x.1) due

lemma gone_acceptHandoff (h : d.Gone rid) (hi : i ≠ rid) (call : Option (ℕ × ℕ)) :
    (d.acceptHandoff i cid uid call).Gone rid := by
  have hticket : ∀ (d : Desk) tid f, d.Gone rid → (d.setTicket tid f).Gone rid := by
    intro d tid f hd
    cases tid with
    | none => exact hd
    | some tid => exact hd
  unfold Desk.acceptHandoff
  refine hticket _ _ _ ?_
  rcases call with _ | ⟨sid, oid⟩
  · exact h.setRequest hi _
  · refine Desk.Gone.mapOffers (h.setRequest hi _) fun j o ho => ?_
    split_ifs at ho ⊢ with h1 h2
    exact ⟨ho, rfl⟩

lemma Primitives.gone_assignHandoffToAgent (i cid uid : ℕ) :
    Keeps (fun d => d.Gone rid) (Primitives.assignHandoffToAgent i cid uid none) := by
  unfold Primitives.assignHandoffToAgent
  refine Keeps.bind (fun d hd => ?_) fun st => ?_
  · obtain ⟨a, t, hrun, ht⟩ := (gone_getOrCreateAgentState uid).ok hd
    rw [hrun]
    exact ht
  refine Keeps.bind Keeps.read fun now => ?_
  refine Keeps.bind Keeps.refuseUnless fun _ => ?_
  refine Keeps.bind ?_ fun control => ?_
  · unfold ensureConversationControl
    refine Keeps.bind Keeps.read fun country => Keeps.bind Keeps.read fun row => ?_
    cases row with
    | none => exact Keeps.raise
    | some c =>
      exact Keeps.bind (Keeps.write fun d hd => hd) fun _ => Keeps.pure
  refine Keeps.bind Keeps.read fun u => ?_
  refine Keeps.bind Keeps.refuseUnless fun _ => ?_
  refine Keeps.check_bind fun call d hd hcall => ?_
  obtain ⟨⟨r, hr, hst⟩, -⟩ := assignable_ok hcall
  exact gone_acceptHandoff hd (hd.ne hr (by rw [hst]; decide)) call

/-- an HTTP error with a text: what an assignment is refused with. -/
def Refusal.IsHttp (e : Refusal) : Prop := ∃ code detail, e = .http code detail

lemma voiceOccupancy_error (h : d.voiceOccupancy sid uid st offer = .error e) : e.IsHttp := by
  unfold Desk.voiceOccupancy at h
  dsimp only at h
  repeat' split at h
  all_goals first
    | exact ⟨_, _, (Except.error.inj h).symm⟩
    | cases h

lemma assignable_error (h : d.assignable i cid uid st offer = .error e) : e.IsHttp := by
  unfold Desk.assignable at h
  repeat' split at h
  all_goals first
    | exact ⟨_, _, (Except.error.inj h).symm⟩
    | cases h
  next he => exact voiceOccupancy_error he

lemma getOrCreateAgentState_returns (uid cid : ℕ) :
    Returns (fun d => (d.conversations.get? cid).isSome = true) (getOrCreateAgentState uid)
      fun _ d => (d.conversations.get? cid).isSome = true := by
  unfold getOrCreateAgentState
  refine Returns.skip_read fun row => ?_
  cases row with
  | some st => exact Returns.pure fun d hd => hd
  | none =>
    refine Returns.skip_read fun now => ?_
    refine Returns.bind (R := fun _ d => (d.conversations.get? cid).isSome = true)
      (Returns.write fun d hd => hd) fun _ => Returns.pure fun d hd => hd

lemma Primitives.assignHandoffToAgent_refuses (i cid uid : ℕ) :
    Txn.Refuses (fun d => (d.conversations.get? cid).isSome = true)
      (Primitives.assignHandoffToAgent i cid uid none) Refusal.IsHttp := by
  unfold Primitives.assignHandoffToAgent
  refine Txn.Refuses.bind (R := fun _ d => (d.conversations.get? cid).isSome = true) ?_ ?_
    fun st => ?_
  · exact (getOrCreateAgentState_returns uid cid).refuses
  · exact (getOrCreateAgentState_returns uid cid).ensures
  refine Txn.Refuses.bind (R := fun _ d => (d.conversations.get? cid).isSome = true)
    Txn.Refuses.read (Txn.Ensures.read fun d hd => hd) fun now => ?_
  refine Txn.Refuses.bind (Txn.Refuses.refuseUnless ⟨_, _, rfl⟩) Txn.Ensures.refuseUnless
    fun _ => ?_
  refine Txn.Refuses.bind (R := fun _ _ => True) ?_ (fun _ _ _ _ _ => trivial) fun control => ?_
  · rintro d e t ⟨hsome, -⟩ hrun
    obtain ⟨c, hc⟩ := Option.isSome_iff_exists.1 hsome
    unfold ensureConversationControl at hrun
    simp only [Txn.run_bind, Txn.run_read, hc, Txn.run_write, Txn.run_pure] at hrun
    cases hrun
  refine Txn.Refuses.bind (R := fun _ _ => True) Txn.Refuses.read (fun _ _ _ _ _ => trivial)
    fun u => ?_
  refine Txn.Refuses.bind (R := fun _ _ => True) (Txn.Refuses.refuseUnless ⟨_, _, rfl⟩)
    (fun _ _ _ _ _ => trivial) fun _ => ?_
  refine Txn.Refuses.bind (R := fun _ _ => True)
    (Txn.Refuses.check fun d e _ he => assignable_error he) (fun _ _ _ _ _ => trivial)
    fun call => ?_
  exact Txn.Refuses.write

lemma Primitives.eligibleTextRequestForAgent_some (h : ((d.textQueue uid).find? fun (_, r) =>
      ((d.conversations.get? r.conversationId).bind (·.control)).any fun k =>
        (d.user uid).grants.any (·.covers k)).map (fun (rid, r) => (rid, r.conversationId)) =
      some (i, cid)) : (d.conversations.get? cid).isSome = true := by
  obtain ⟨⟨j, r⟩, hfind, he⟩ := Option.map_eq_some_iff.1 h
  cases he
  have hany := List.find?_some hfind
  obtain ⟨k, hk, -⟩ := (Option.any_eq_true _ _).1 hany
  obtain ⟨c, hc, -⟩ := Option.bind_eq_some_iff.1 hk
  exact Option.isSome_iff_exists.2 ⟨c, hc⟩

lemma Primitives.gone_fillTextWith (uid : ℕ) (st : AgentState) (fuel : ℕ) :
    Returns (fun d => d.Gone rid) (fillTextWith primitiveOps uid st fuel)
      fun _ d => d.Gone rid := by
  induction fuel with
  | zero => exact Returns.pure fun d hd => hd
  | succ fuel ih =>
    refine Returns.skip_read fun load => Returns.ite (fun _ => ?_) fun _ =>
      Returns.pure fun d hd => hd
    refine Returns.read_bind fun candidate => ?_
    rcases candidate with _ | ⟨i, cid⟩
    · exact Returns.pure fun d hd => hd.1
    refine Returns.attempt_bind (X := Refusal.IsHttp) (R := fun d => d.Gone rid) ?_ ?_ ?_ ?_
    · refine (Primitives.assignHandoffToAgent_refuses i cid uid).pre fun d hd => ?_
      exact Primitives.eligibleTextRequestForAgent_some hd.2
    · exact (Primitives.gone_assignHandoffToAgent i cid uid).yields.pre fun d hd => hd.1
    · exact fun _ => Returns.bind ih fun rest => Returns.pure fun d hd => hd
    · rintro e ⟨code, detail, rfl⟩
      exact Returns.ite (fun _ => ih) fun _ => Returns.pure fun d hd => hd

/-- **filling the freed agent's capacity always returns**, and leaves the closed request alone. -/
lemma Primitives.gone_fillAgentCapacity (uid : ℕ) :
    Returns (fun d => d.Gone rid) (Primitives.fillAgentCapacity uid) fun _ d => d.Gone rid := by
  unfold Primitives.fillAgentCapacity fillAgentCapacityWith
  refine Returns.bind (gone_getOrCreateAgentState uid) fun st => ?_
  refine Returns.skip_read fun now => Returns.ite (fun _ => ?_) fun _ =>
    Returns.pure fun d hd => hd
  refine Returns.bind (R := fun _ d => d.Gone rid) ?_ fun _ => ?_
  · exact Returns.skip_read fun offers => gone_retireOffers offers (by decide)
  refine Returns.bind (Primitives.gone_releaseExpiredVoiceWrapUps (some uid) 100) fun _ => ?_
  refine Returns.bind (Primitives.gone_fillTextWith uid st _) fun assigned => ?_
  refine Returns.bind (R := fun _ d => d.Gone rid) (Returns.when ?_) fun _ =>
    Returns.pure fun d hd => hd
  refine Returns.skip_read fun rows => Returns.each (fun sid => ?_) rows
  exact Returns.bind (Primitives.gone_createNextVoiceOffer sid) fun _ =>
    Returns.pure fun d hd => hd

end Fill

/-! ## the owner closes -/

section Close
variable {d t : Desk} {rid cid uid : ℕ} {r : HandoffRequest} {isOpen : Bool} {outcome : String}

lemma Assigned.active (h : Assigned d rid cid uid r isOpen) :
    ∃ q, d.activeRequest cid = some (rid, q) ∧ d.requests.get? rid = some q ∧
      q.ticketId = r.ticketId := by
  obtain ⟨q, hq, hqc, hqt, hqs⟩ := h.request
  refine ⟨q, ?_, hq, hqt⟩
  unfold Desk.activeRequest
  rw [Table.select_eq_singleton d.requests hq]
  · rfl
  · rw [hqs]
    simpa using ⟨hqc, rfl⟩
  · intro i q' hi hq'
    rw [Bool.and_eq_true, decide_eq_true_iff] at hq'
    exact h.only i q' hi hq'.1 hq'.2

lemma Assigned.ensureControl (h : Assigned d rid cid uid r isOpen) :
    ∃ k t, ensureConversationControl cid d = (.ok k, t) ∧ Assigned t rid cid uid r isOpen ∧
      t.scopeOf cid = some k := by
  obtain ⟨c, hc, hopen, hcurrent, hagent⟩ := h.conversation
  have hrun : ensureConversationControl cid d = (.ok (c.ensuredControl d.scopeCountry),
      d.setConversation cid fun c =>
        { c with control := some (c.ensuredControl d.scopeCountry) }) := by
    unfold ensureConversationControl
    simp only [Txn.run_bind, Txn.run_read, hc, Txn.run_write, Txn.run_pure]
    rfl
  have hfoot : Desk.footing _ cid uid = d.footing cid uid :=
    (footing_ensureConversationControl cid).of_run hrun
  have hscope : d.scopeOf cid = some (c.ensuredControl d.scopeCountry) :=
    ensureConversationControl_ok hrun
  refine ⟨_, _, hrun, ?_, (congrArg Prod.fst hfoot).trans hscope⟩
  refine ⟨h.request, h.only, ?_, ?_, h.assigned⟩
  · refine ⟨{ c with control := some (c.ensuredControl d.scopeCountry) }, ?_, hopen, hcurrent,
      hagent⟩
    show (d.conversations.modify cid _).get? cid = _
    rw [Table.get?_modify_self, hc]
    rfl
  · intro ht
    obtain ⟨k, hk, hgrant⟩ := h.granted ht
    refine ⟨k, (congrArg Prod.fst hfoot).trans hk, ?_⟩
    rw [hasLegacyScope_of_footing hfoot]
    exact hgrant

variable {k : ConversationControl} {p : RoutingPlan} {q : HandoffRequest}

lemma Assigned.scopeGrantExists (h : Assigned d rid cid uid r isOpen) (ht : r.ticketId = none)
    (hk : d.scopeOf cid = some k) :
    Handoff.scopeGrantExists uid cid k d = (.ok true, d) := by
  obtain ⟨q, hactive, hq, hqt⟩ := h.active
  obtain ⟨k', hk', hgrant⟩ := h.granted ht
  rw [hk] at hk'
  cases hk'
  have hplan : ensureHandoffRoutingPlan rid d = (.ok none, d) := by
    unfold ensureHandoffRoutingPlan verifiedPlan
    simp only [Txn.run_bind, Txn.run_read, hq, Txn.run_check, hqt, ht, Txn.run_pure]
  unfold Handoff.scopeGrantExists
  simp only [Txn.run_bind, Txn.run_read, hactive, hplan]
  show (Except.ok ((d.user uid).hasLegacyScope k), d) = _
  rw [hgrant]

lemma ensureHandoffRoutingPlan_kept {plan : Option ℕ} (hq : d.plan? rid = some p)
    (hr : d.requests.get? rid = some q) (ht : q.ticketId ≠ none)
    (h : ensureHandoffRoutingPlan rid d = (.ok plan, t)) :
    t.plan? rid = some p := by
  have hstored : q.plan = some p := by
    unfold Desk.plan? at hq
    rwa [hr] at hq
  unfold ensureHandoffRoutingPlan at h
  simp only [Txn.run_bind, Txn.run_read, hr, Txn.run_check] at h
  cases hv : verifiedPlan d rid q with
  | error e => simp [hv] at h
  | ok p' =>
    have hp' : p' = some p := by
      unfold verifiedPlan at hv
      cases hqt : q.ticketId with
      | none => exact absurd hqt ht
      | some tid =>
        simp only [hqt, hstored] at hv
        repeat' split at hv
        all_goals first
          | exact (Except.ok.inj hv).symm
          | cases hv
    subst hp'
    simp only [hv] at h
    cases h
    show ((d.requests.modify rid _).get? rid).bind (·.plan) = some p
    rw [Table.get?_modify_self, hr]
    rfl

lemma candidateAuthorized_assigned (hp : d.plan? rid = some p) (hst : p.status = .assigned)
    {kind : ChannelKind} {b granted : Bool}
    (h : candidateAuthorized (some rid) k uid kind b d = (.ok granted, t)) : granted = false := by
  have hdue : (p.activateDue d.now).2 = false := by
    unfold RoutingPlan.activateDue
    rw [hst]
    rfl
  unfold candidateAuthorized candidateIsAuthorized activateDueGeneration at h
  simp only [Txn.run_bind, Txn.run_read] at h
  split_ifs at h
  · simp only [Txn.run_bind, Txn.run_read, hp, Txn.run_write, Txn.run_pure, hdue] at h
    cases h
    rfl
  · cases h
    rfl

/-- **a request with a ticket is not authorised any more once it is assigned.** -/
lemma Assigned.scopeGrantExists_ticket (h : Assigned d rid cid uid r isOpen)
    (ht : r.ticketId ≠ none) {granted : Bool}
    (hrun : Handoff.scopeGrantExists uid cid k d = (.ok granted, t)) : granted = false := by
  obtain ⟨q, hactive, hq, hqt⟩ := h.active
  obtain ⟨p, hp, hst⟩ := h.assigned ht
  rw [← hqt] at ht
  unfold Handoff.scopeGrantExists at hrun
  simp only [Txn.bind_eq_ok] at hrun
  obtain ⟨active, d1, h1, hrun⟩ := hrun
  have h1' : active = some (rid, q) ∧ d1 = d := by
    obtain ⟨ha, hd⟩ := Prod.mk.inj h1
    exact ⟨(Except.ok.inj ha).symm.trans hactive, hd.symm⟩
  obtain ⟨rfl, rfl⟩ := h1'
  simp only [Txn.bind_eq_ok] at hrun
  obtain ⟨plan, d2, h2, h3⟩ := hrun
  obtain ⟨rfl, -⟩ := (ensureHandoffRoutingPlan_ok hq h2).2 ht
  exact candidateAuthorized_assigned (ensureHandoffRoutingPlan_kept hp hq ht h2) hst h3

lemma gone_closeConversation {c : Conversation} (hq : d.requests.get? rid = some q)
    (ho : q.status.isOpen = true) (hc : c.currentHandoffRequestId = some rid) :
    (d.closeConversation cid c outcome).Gone rid := by
  have hany : (d.requests.get? rid).any (·.status.isOpen) = true := by
    rw [hq]
    exact ho
  unfold Desk.closeConversation Desk.closeCurrent
  simp only [hc, hany, if_true]
  constructor
  · show ∃ r, (d.requests.modify rid _).get? rid = some r ∧ _
    rw [Table.get?_modify_self, hq]
    exact ⟨_, rfl, rfl⟩
  · intro i o hi hrid hst
    have hrow : (d.offers.mapRows _).get? i = some o := hi
    rw [Table.get?_mapRows] at hrow
    obtain ⟨o', -, rfl⟩ := Option.map_eq_some_iff.1 hrow
    split_ifs at hrid hst with h
    exact h ⟨hrid, hst⟩

lemma Assigned.primitives_close (h : Assigned d rid cid uid r true) (ht : r.ticketId = none)
    (houtcome : conversationOutcomes.contains (PyStr.lower (PyStr.strip outcome)) = true) :
    ∃ t, Primitives.closeConversation cid uid outcome d = (.ok (), t) ∧ t.Gone rid := by
  obtain ⟨k, d1, hcontrol, h1, hk⟩ := h.ensureControl
  obtain ⟨k', hk', hgrant⟩ := h1.granted ht
  rw [hk] at hk'
  cases hk'
  have hscope : (d1.user uid).hasScope k = true := User.hasScope_of_legacy hgrant
  obtain ⟨c, hc, hopen, hcurrent, hagent⟩ := h1.conversation
  obtain ⟨q, hq, -, -, hqs⟩ := h1.request
  have hgone : (d1.closeConversation cid c (PyStr.lower (PyStr.strip outcome))).Gone rid :=
    gone_closeConversation hq (by rw [hqs]; rfl) hcurrent
  have hfill : Returns (fun d : Desk => d.Gone rid)
      (Txn.when (((d1.closeConversation cid c
        (PyStr.lower (PyStr.strip outcome))).users.get? uid).isSome) do
          let _ ← Primitives.fillAgentCapacity uid
          pure ()) fun _ d => d.Gone rid :=
    Returns.when (Returns.bind (Primitives.gone_fillAgentCapacity uid) fun _ =>
      Returns.pure fun d hd => hd)
  obtain ⟨u, t, hrun, hgone'⟩ := hfill.ok hgone
  refine ⟨t, ?_, hgone'⟩
  unfold Primitives.closeConversation require Txn.refuseUnless
  simp only [houtcome, if_true, Txn.run_bind, Txn.run_pure, hcontrol, Txn.run_read, hscope, hc,
    hopen, hagent, Txn.run_write, decide_true, Bool.or_true, Bool.true_or]
  exact hrun

lemma conversationOpen_of_core (h : t.core = d.core) :
    t.conversationOpen cid = d.conversationOpen cid := by
  have hcore : ∀ d : Desk, d.core.conversationOpen cid = d.conversationOpen cid := by
    intro d
    show ((d.conversations.mapRows _).get? cid).any _ = _
    rw [Table.get?_mapRows, Option.any_map]
    rfl
  rw [← hcore t, h, hcore d]

lemma Primitives.core_closeConversation (hclosed : d.conversationOpen cid = false)
    (h : Primitives.closeConversation cid uid outcome d = (.ok (), t)) : t.core = d.core := by
  unfold Primitives.closeConversation at h
  simp only [Txn.bind_eq_ok] at h
  obtain ⟨_, d1, h1, k, d2, h2, u, d3, h3, _, d4, h4, row, d5, h5, h6⟩ := h
  obtain ⟨-, rfl⟩ := require_ok h1
  obtain rfl : d2 = d3 := (Prod.mk.inj h3).2
  obtain ⟨-, rfl⟩ := require_ok h4
  have hcore : d4.core = d1.core := (fixes_ensureConversationControl _).of_run h2
  have hopen := (conversationOpen_of_core hcore).trans hclosed
  cases h5
  cases hc : d4.conversations.get? cid with
  | none =>
    simp only [hc] at h6
    cases h6
  | some c =>
    have hnot : c.isOpen = false := by
      unfold Desk.conversationOpen at hopen
      rw [hc] at hopen
      exact hopen
    simp only [hc, hnot] at h6
    cases h6
    exact hcore

lemma core_closeConversation (hclosed : d.conversationOpen cid = false)
    (h : Handoff.closeConversation cid uid outcome d = (.ok (), t)) : t.core = d.core := by
  unfold Handoff.closeConversation at h
  simp only [Txn.bind_eq_ok] at h
  obtain ⟨k, d1, h1, granted, d2, h2, _, d3, h3, current, d4, h4, _, d5, h5, h6⟩ := h
  obtain ⟨-, rfl⟩ := require_ok h3
  obtain rfl : d3 = d4 := (Prod.mk.inj h4).2
  have hcore : d3.core = d.core := by
    rw [(fixes_scopeGrantExists _ _ _).of_run h2, (fixes_ensureConversationControl _).of_run h1]
  have hprim : d5.core = d3.core :=
    Primitives.core_closeConversation ((conversationOpen_of_core hcore).trans hclosed) h5
  have hlast : t.core = d5.core := by
    cases current with
    | none =>
      cases h6
      rfl
    | some i => exact (fixes_closeRoutingPlan i).of_run h6
  rw [hlast, hprim, hcore]

lemma Desk.Gone.settled (h : d.Gone rid) :
    ∃ t, closeRoutingPlan rid d = (.ok (), t) ∧ t.Settled rid := by
  obtain ⟨⟨q, hq, hst⟩, hoffers⟩ := h
  have hrow : (d.requests.modify rid fun r => { r with plan := r.plan.map fun p =>
      { p with status := .closed, nextRetryAt := none } }).get? rid = some
        { q with
          plan := q.plan.map fun p => { p with status := .closed, nextRetryAt := none } } := by
    rw [Table.get?_modify_self, hq]
    rfl
  refine ⟨_, rfl, ⟨_, hrow, hst⟩, fun p hp => ?_, hoffers⟩
  obtain ⟨q', hq', hplan⟩ := Option.bind_eq_some_iff.1 hp
  rw [show q' = _ from Option.some.inj (hq'.symm.trans hrow)] at hplan
  obtain ⟨p', -, rfl⟩ := Option.map_eq_some_iff.1 hplan
  rfl

/-- **an open conversation whose request has no ticket is closed by its new owner.** -/
lemma Assigned.closed (h : Assigned d rid cid uid r true) (ht : r.ticketId = none)
    (houtcome : conversationOutcomes.contains (PyStr.lower (PyStr.strip outcome)) = true) :
    d.ClosedBy rid cid uid outcome := by
  obtain ⟨k, d1, hcontrol, h1, hk⟩ := h.ensureControl
  obtain ⟨d2, hclose, hgone⟩ := h1.primitives_close ht houtcome
  obtain ⟨t, hplan, hsettled⟩ := hgone.settled
  obtain ⟨c, hc, -, hcurrent, -⟩ := h1.conversation
  refine ⟨t, ?_, hsettled⟩
  unfold Handoff.closeConversation require Txn.refuseUnless
  simp only [Txn.run_bind, hcontrol, h1.scopeGrantExists ht hk, if_true, Txn.run_pure,
    Txn.run_read, hc, Option.bind_some, hcurrent, hclose]
  exact hplan

lemma Assigned.not_closed_ticket (h : Assigned d rid cid uid r isOpen) (ht : r.ticketId ≠ none) :
    ¬d.ClosedBy rid cid uid outcome := by
  rintro ⟨t, hrun, -⟩
  obtain ⟨k, d1, hcontrol, h1, -⟩ := h.ensureControl
  unfold Handoff.closeConversation at hrun
  rw [Txn.run_bind_ok _ hcontrol] at hrun
  simp only [Txn.bind_eq_ok] at hrun
  obtain ⟨granted, d2, h2, _, d3, h3, -⟩ := hrun
  obtain ⟨hgranted, -⟩ := require_ok h3
  have hfalse := h1.scopeGrantExists_ticket ht h2
  rw [hgranted] at hfalse
  cases hfalse

lemma Assigned.not_closed_shut (h : Assigned d rid cid uid r false) :
    ¬d.ClosedBy rid cid uid outcome := by
  rintro ⟨t, hrun, hsettled⟩
  obtain ⟨c, hc, hopen, -⟩ := h.conversation
  have hclosed : d.conversationOpen cid = false := by
    unfold Desk.conversationOpen
    rw [hc]
    exact hopen
  have hcore := core_closeConversation hclosed hrun
  obtain ⟨q, hq, -, -, hqs⟩ := h.request
  obtain ⟨p, hq'⟩ := request_of_core hcore hq
  obtain ⟨q', hrow, hst⟩ := hsettled.request
  rw [hq'] at hrow
  cases hrow
  rw [show q.status = .closed from hst] at hqs
  cases hqs

theorem owner_can_close_iff {offer : Option ℕ} (hr : d.requests.get? rid = some r)
    (hone : d.OneOpen r.conversationId)
    (h : assignHandoffToAgent rid r.conversationId uid offer d = (.ok (), t)) (now : Instant)
    (houtcome : conversationOutcomes.contains (PyStr.lower (PyStr.strip outcome)) = true) :
    ({ t with now := now } : Desk).ClosedBy rid r.conversationId uid outcome ↔
      r.ticketId = none ∧ d.conversationOpen r.conversationId = true := by
  have hassigned : Assigned { t with now := now } rid r.conversationId uid r
      (d.conversationOpen r.conversationId) := by
    obtain ⟨h1, h2, h3, h4, h5⟩ := assignHandoffToAgent_leaves hr rfl hone h
    exact ⟨h1, h2, h3, h4, h5⟩
  by_cases ht : r.ticketId = none
  · cases hopen : d.conversationOpen r.conversationId with
    | true =>
      rw [hopen] at hassigned
      exact ⟨fun _ => ⟨ht, rfl⟩, fun _ => hassigned.closed ht houtcome⟩
    | false =>
      rw [hopen] at hassigned
      exact ⟨fun hclosed => absurd hclosed hassigned.not_closed_shut, fun h => by cases h.2⟩
  · exact ⟨fun hclosed => absurd hclosed (hassigned.not_closed_ticket ht), fun h => absurd h.1 ht⟩

end Close

/-! ## two desks -/

/-- the scenario of a low-risk ticket, routed to the queue `care`. -/
def careScenario : ScenarioAssignment :=
  ⟨1, "parcel", "c0", .document (some assignmentSchema)
    ⟨some "parcel", some "care", some "low", none, some [capTicketRead]⟩⟩

def waitingDesk (ticketId : Option ℕ) : Desk where
  now := 0
  scopeCountry := some "DE"
  tenantAuthority := fun _ _ _ => true
  users := Table.empty.insert ⟨true, none, [capTicketRead],
    [⟨"t", "DE", "web", "legacy", true⟩, ⟨"t", "DE", "web", "care", true⟩],
    some ⟨.online, 3, false, 1, 30, some 0, 0⟩⟩
  conversations := Table.empty.insert
    ⟨ticketId, true, "t", "web", some ⟨"t", some "DE", "web", none⟩, some 1, .requested, none, true,
      some 0, none⟩
  requests := Table.empty.insert (HandoffRequest.new 1 ticketId 0)
  sessions := Table.empty
  offers := Table.empty
  messages := Table.empty
  tickets := Table.empty.insert
    ⟨.pendingAssignment, .humanReviewRequired, none, none, 0, false, some careScenario, none, []⟩
  declined := []

lemma waitingDesk_oneOpen (ticketId : Option ℕ) : (waitingDesk ticketId).OneOpen 1 := by
  have hkey : ∀ i r, (waitingDesk ticketId).requests.get? i = some r → i = 1 := by
    intro i r hr
    change (Table.empty.insert (HandoffRequest.new 1 ticketId 0)).get? i = some r at hr
    rw [Table.get?_insert] at hr
    split_ifs at hr with hi
    · exact hi
    · cases hr
  intro i j q r hq hr _ _ _ _
  rw [hkey i q hq, hkey j r hr]

def takenDesk (ticketId : Option ℕ) : Desk :=
  (assignHandoffToAgent 1 1 1 none (waitingDesk ticketId)).2

lemma takenDesk_run {ticketId : Option ℕ}
    (h : (assignHandoffToAgent 1 1 1 none (waitingDesk ticketId)).1.toOption = some ()) :
    assignHandoffToAgent 1 1 1 none (waitingDesk ticketId) = (.ok (), takenDesk ticketId) := by
  refine Prod.ext ?_ rfl
  cases hrun : (assignHandoffToAgent 1 1 1 none (waitingDesk ticketId)).1 with
  | ok u => rfl
  | error e =>
    rw [hrun] at h
    cases h

lemma humanResolved_valid :
    conversationOutcomes.contains (PyStr.lower (PyStr.strip "human_resolved")) = true := by
  decide +kernel

theorem owner_closes : ({ takenDesk none with now := seconds 60 } : Desk).ClosedBy 1 1 1
    "human_resolved" := by
  have hassign : assignHandoffToAgent 1 1 1 none (waitingDesk none) = (.ok (), takenDesk none) :=
    takenDesk_run (by decide +kernel)
  have hiff := owner_can_close_iff (r := HandoffRequest.new 1 none 0) rfl (waitingDesk_oneOpen none)
    hassign (seconds 60) humanResolved_valid
  exact hiff.2 ⟨rfl, by decide +kernel⟩

/-- the agent who has just taken a request with a ticket is refused. -/
theorem ticket_owner_refused :
    assignHandoffToAgent 1 1 1 none (waitingDesk (some 1)) = (.ok (), takenDesk (some 1)) ∧
      conversationOutcomes.contains (PyStr.lower (PyStr.strip "human_resolved")) = true ∧
      ¬(takenDesk (some 1)).ClosedBy 1 1 1 "human_resolved" := by
  refine ⟨takenDesk_run (by decide +kernel), humanResolved_valid, ?_⟩
  rintro ⟨t, hrun, -⟩
  have hrefused :
      (closeConversation 1 1 "human_resolved" (takenDesk (some 1))).1.toOption = none := by
    decide +kernel
  rw [hrun] at hrefused
  cases hrefused

end NexusHelpdesk.Handoff
