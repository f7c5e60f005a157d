import NexusHelpdesk.Handoff.Frames
import NexusHelpdesk.Handoff.Actions
import NexusHelpdesk.Lib.Run

/-!
# The acceptance clock

`reconcile_stale_text_handoffs` takes a request away from an agent by its `accepted_at`.  Both
acceptances write `accepted_at` only if it is empty, `_release_one` empties it, and
`release_handoff_request` does not.

* `Desk.reasonCode`, `Desk.requeued`: the requests a reconciliation requeues, with its reasons;
* `History`: the desk with the time since which each request has its owner;
* `Passage`: what every other service does to clocks and owners;
* `requeue_measured`: **where no request is handed over with the clock of an earlier acceptance, a
  requeue measures the acceptance that gave the request its owner.**
-/

namespace NexusHelpdesk.Handoff
open Lib
open Txn (Keeps)

/-! ## the reasons of a requeue -/

/-- the reason code of one row in `reconcile_stale_text_handoffs`. -/
def Desk.reasonCode (d : Desk) (r : HandoffRequest) : Option String :=
  if d.hasOpenVoice r.conversationId then none
  else
    let age := d.now - r.acceptanceClock
    if r.assignedAgentId.any d.agentIsStale && seconds offlineHandoffGraceSeconds ≤ age then
      some "assigned_agent_heartbeat_stale"
    else if !d.repliedSince r r.acceptedAt && seconds untouchedHandoffTimeoutSeconds ≤ age then
      some "accepted_handoff_untouched_timeout"
    else none

lemma isStale_eq (d : Desk) (r : HandoffRequest) : d.isStale r = (d.reasonCode r).isSome := by
  unfold Desk.isStale Desk.reasonCode
  cases d.hasOpenVoice r.conversationId with
  | true => rfl
  | false =>
    simp only [Bool.not_false, Bool.true_and, Bool.false_eq_true, if_false]
    split_ifs with h1 h2
    · rw [h1]
      rfl
    · rw [h2, Bool.or_true]
      rfl
    · rw [Bool.not_eq_true] at h1 h2
      rw [h1, h2]
      rfl

def Desk.requeuedOne (d : Desk) (rid : ℕ) : List (ℕ × String) :=
  match d.requests.get? rid with
  | none => []
  | some r =>
    match r.assignedAgentId with
    | none => []
    | some previous => if 0 < previous then (d.reasonCode r).toList.map (rid, ·) else []

def Desk.requeuedBy (d : Desk) : List ℕ → List (ℕ × String)
  | [] => []
  | rid :: rows => d.requeuedOne rid ++ (d.reconcileOne rid).requeuedBy rows

/-- the requests `reconcile_stale_text_handoffs` requeues. -/
def Desk.requeued (d : Desk) (agent : Option ℕ) (limit : ℕ) : List (ℕ × String) :=
  d.requeuedBy ((d.staleCandidates agent limit).map (·.1))

/-! ## runs -/

def Desk.clock (d : Desk) (rid : ℕ) : Option Instant := (d.requests.get? rid).bind (·.acceptedAt)

def Desk.owner (d : Desk) (rid : ℕ) : Option ℕ :=
  (d.requests.get? rid).bind (·.assignedAgentId)

/-- what happens to a handoff between its acceptance and its end. -/
inductive Deed where
  | accept (rid uid : ℕ)
  | takeover (tid uid : ℕ)
  | assign (rid uid : ℕ) (offer : Option ℕ)
  | release (rid uid : ℕ)
  | reply (cid uid : ℕ) (body : String) (allowed : String → Bool)
  | heartbeat (uid : ℕ)
  | reconcile (agent : Option ℕ) (limit : ℕ)
  | surroundings (w : Surroundings)

/-- the body of the service call, nothing for a change of the surroundings. -/
def Deed.perform : Deed → Op Unit
  | .accept rid uid => acceptHandoffRequest rid uid
  | .takeover tid uid => forceTakeoverTicket tid uid
  | .assign rid uid offer => assignRequest rid uid offer
  | .release rid uid => releaseHandoffRequest rid uid
  | .reply cid uid body allowed => replyToConversation cid uid body allowed
  | .heartbeat uid => heartbeatAgent uid
  | .reconcile agent limit => reconcileStaleTextHandoffs agent limit
  | .surroundings _ => pure ()

def Deed.run (e : Deed) (d : Desk) : Desk :=
  match e with
  | .surroundings w => (Step.surroundings w).run d
  | _ => e.perform.commit d

/-- the desk, and since when each request has the owner it has. -/
structure History where
  desk : Desk
  since : ℕ → Option Instant

/-- a deed is recorded with the requests that get another owner by it. -/
def History.step (e : Deed) (h : History) : History :=
  { desk := e.run h.desk
    since := fun rid =>
      if (e.run h.desk).owner rid = h.desk.owner rid then h.since rid else some h.desk.now }

/-- no request is handed to an agent with the clock of an earlier acceptance. -/
def History.Renewed (h : History) (e : Deed) : Prop :=
  ∀ rid, (e.run h.desk).owner rid ≠ h.desk.owner rid → ((e.run h.desk).owner rid).isSome = true →
    h.desk.clock rid = none

/-- a request requeued now for `reason` has been with its owner for long enough: since `since` the
owner `uid` has it. -/
structure Desk.Overdue (d : Desk) (r : HandoffRequest) (uid : ℕ) (since : Instant)
    (reason : String) : Prop where
  untouched : reason = "accepted_handoff_untouched_timeout" →
    since ≤ d.now - seconds 1800 ∧
      ∀ i m, d.messages.get? i = some m → m.conversationId = r.conversationId →
        m.direction = .agent → m.authorUserId = some uid → m.createdAt < since
  stale : reason = "assigned_agent_heartbeat_stale" → since ≤ d.now - seconds 300

/-- every requeue of the reconciliation measures the acceptance that gave the request its owner. -/
def History.Measured (h : History) (agent : Option ℕ) (limit : ℕ) : Prop :=
  ∀ rid reason, (rid, reason) ∈ h.desk.requeued agent limit →
    ∃ r uid since, h.desk.requests.get? rid = some r ∧ r.assignedAgentId = some uid ∧
      h.since rid = some since ∧ h.desk.Overdue r uid since reason

/-! ## clocks and owners under the other services -/

/-- a clock is set only where it was empty, and only a request with a clock gets an owner. -/
structure Passage (d t : Desk) : Prop where
  now : t.now = d.now
  clock : ∀ rid, t.clock rid = d.clock rid ∨ (d.clock rid = none ∧ t.clock rid = some d.now)
  owner : ∀ rid, t.owner rid = d.owner rid ∨ t.owner rid = none ∨ (t.clock rid).isSome = true

section Passage
variable {d t u d₀ : Desk} {α : Type}

lemma Passage.of_eq (hn : t.now = d.now) (hc : ∀ rid, t.clock rid = d.clock rid)
    (ho : ∀ rid, t.owner rid = d.owner rid) : Passage d t :=
  ⟨hn, fun rid => .inl (hc rid), fun rid => .inl (ho rid)⟩

lemma Passage.trans (h : Passage d t) (h' : Passage t u) : Passage d u := by
  refine ⟨h'.now.trans h.now, fun rid => ?_, fun rid => ?_⟩
  · rcases h'.clock rid with hc | ⟨hnone, hc⟩
    · rw [hc]
      exact h.clock rid
    · rcases h.clock rid with hc₁ | ⟨-, hc₁⟩
      · exact .inr ⟨hc₁.symm.trans hnone, hc.trans (congrArg some h.now)⟩
      · rw [hnone] at hc₁
        cases hc₁
  · rcases h'.owner rid with ho | ho | hsome
    · rcases h.owner rid with ho₁ | ho₁ | hsome
      · exact .inl (ho.trans ho₁)
      · exact .inr (.inl (ho.trans ho₁))
      · refine .inr (.inr ?_)
        rcases h'.clock rid with hc | ⟨-, hc⟩
        · rw [hc]
          exact hsome
        · rw [hc]
          rfl
    · exact .inr (.inl ho)
    · exact .inr (.inr hsome)

lemma Passage.of_core (h : t.core = d.core) : Passage d t := by
  have hrow : ∀ d : Desk, ∀ rid,
      d.core.clock rid = d.clock rid ∧ d.core.owner rid = d.owner rid := by
    intro d rid
    unfold Desk.clock Desk.owner Desk.core
    rw [Table.get?_mapRows]
    cases d.requests.get? rid with
    | none => exact ⟨rfl, rfl⟩
    | some r => exact ⟨rfl, rfl⟩
  refine Passage.of_eq ?_ (fun rid => ?_) fun rid => ?_
  · have hnow : t.core.now = d.core.now := by rw [h]
    exact hnow
  · rw [← (hrow t rid).1, h, (hrow d rid).1]
  · rw [← (hrow t rid).2, h, (hrow d rid).2]

lemma passes_of_fixes {m : Op α} (h : Txn.Fixes Desk.core m) : Keeps (Passage d₀) m :=
  fun d hd => hd.trans (Passage.of_core (h d))

lemma Passage.setRequest (d : Desk) (rid : ℕ) {f : HandoffRequest → HandoffRequest}
    (hc : ∀ r, (f r).acceptedAt = r.acceptedAt ∨
      (r.acceptedAt = none ∧ (f r).acceptedAt = some d.now))
    (ho : ∀ r, (f r).assignedAgentId = r.assignedAgentId ∨ (f r).assignedAgentId = none ∨
      (f r).acceptedAt.isSome = true) : Passage d (d.setRequest rid f) := by
  have hrow : ∀ i, (d.setRequest rid f).requests.get? i =
      if i = rid then (d.requests.get? i).map f else d.requests.get? i :=
    fun i => Table.get?_modify _ _ _ _
  refine ⟨rfl, fun i => ?_, fun i => ?_⟩
  · unfold Desk.clock
    rw [hrow]
    split_ifs with hi
    · cases d.requests.get? i with
      | none => exact .inl rfl
      | some r => exact hc r
    · exact .inl rfl
  · unfold Desk.clock Desk.owner
    rw [hrow]
    split_ifs with hi
    · cases d.requests.get? i with
      | none => exact .inl rfl
      | some r => exact ho r
    · exact .inl rfl

lemma Passage.accept (d : Desk) (rid uid : ℕ) :
    Passage d (d.setRequest rid fun r =>
      { r with
        status := .accepted
        assignedAgentId := some uid
        acceptedAt := some (r.acceptedAt.getD d.now)
        updatedAt := d.now }) := by
  refine Passage.setRequest d rid (fun r => ?_) fun r => .inr (.inr rfl)
  cases hr : r.acceptedAt with
  | none => exact .inr ⟨rfl, rfl⟩
  | some a => exact .inl rfl

lemma Passage.setTicket (h : Passage d t) (tid : Option ℕ) (f : Ticket → Ticket) :
    Passage d (t.setTicket tid f) := by
  cases tid with
  | none => exact h
  | some tid => exact ⟨h.now, h.clock, h.owner⟩

lemma passage_acceptHandoff (d : Desk) (rid cid uid : ℕ) (call : Option (ℕ × ℕ)) :
    Passage d (d.acceptHandoff rid cid uid call) := by
  have h := Passage.accept d rid uid
  unfold Desk.acceptHandoff
  refine Passage.setTicket ?_ _ _
  rcases call with _ | ⟨sid, oid⟩
  · exact ⟨h.now, h.clock, h.owner⟩
  · exact ⟨h.now, h.clock, h.owner⟩

lemma passes_assignHandoffToAgent (rid cid uid : ℕ) (offer : Option ℕ) :
    Keeps (Passage d₀) (assignHandoffToAgent rid cid uid offer) :=
  assignHandoffToAgent_keeps passes_of_fixes fun d _ call hd _ =>
    hd.trans (passage_acceptHandoff d rid cid uid call)

/-! ## filling the capacity of an agent -/

lemma passage_releaseWrapUp (d : Desk) (sid : ℕ) : Passage d (d.releaseWrapUp sid) := by
  have hclose : ∀ x p, Passage d (d.closeLinked x p) := by
    intro x p
    unfold Desk.closeLinked
    split
    · split_ifs
      · exact Passage.setRequest d _ (fun r => .inl rfl) fun r => .inl rfl
      · exact Passage.of_core rfl
    · exact Passage.of_core rfl
  unfold Desk.releaseWrapUp
  cases d.sessions.get? sid with
  | none => exact Passage.of_core rfl
  | some x =>
    have h := hclose x (· = .accepted)
    exact ⟨h.now, h.clock, h.owner⟩

lemma passes_releaseExpiredVoiceWrapUps (uid : Option ℕ) (limit : ℕ) :
    Keeps (Passage d₀) (releaseExpiredVoiceWrapUps uid limit) := by
  unfold releaseExpiredVoiceWrapUps Primitives.releaseExpiredVoiceWrapUps
  refine Keeps.bind Keeps.read fun due => ?_
  refine Keeps.bind (Keeps.bind Keeps.read fun due => Keeps.each (fun x => ?_) due)
    fun _ => passes_of_fixes (Txn.Fixes.each fixes_closeRoutingPlan _)
  exact Keeps.write fun d hd => hd.trans (passage_releaseWrapUp d x.1)

lemma passes_fillTextWith (uid : ℕ) (st : AgentState) (fuel : ℕ) :
    Keeps (Passage d₀) (fillTextWith routingOps uid st fuel) := by
  induction fuel with
  | zero => exact Keeps.pure
  | succ fuel ih =>
    refine Keeps.bind Keeps.read fun load => Keeps.ite ?_ Keeps.pure
    refine Keeps.bind (passes_of_fixes (fixes_eligibleTextRequestForAgent uid))
      fun candidate => ?_
    rcases candidate with _ | ⟨rid, cid⟩
    · exact Keeps.pure
    refine Keeps.bind (Keeps.attempt (passes_assignHandoffToAgent rid cid uid none))
      fun result => ?_
    rcases result with e | _
    · cases e with
      | crash e => exact Keeps.raise
      | conflict code => exact Keeps.pure
      | http code detail => exact Keeps.ite ih Keeps.pure
    · exact Keeps.bind ih fun rest => Keeps.pure

lemma passes_fillAgentCapacity (uid : ℕ) : Keeps (Passage d₀) (fillAgentCapacity uid) := by
  unfold fillAgentCapacity fillAgentCapacityWith
  refine Keeps.bind (passes_of_fixes (fixes_getOrCreateAgentState uid)) fun st => ?_
  refine Keeps.bind Keeps.read fun now => Keeps.ite ?_ Keeps.pure
  refine Keeps.bind (passes_of_fixes
    (fixes_expireVoiceOffersWith fixes_createNextVoiceOffer _ _ _)) fun _ => ?_
  refine Keeps.bind (passes_releaseExpiredVoiceWrapUps (some uid) 100) fun _ => ?_
  refine Keeps.bind (passes_fillTextWith uid st _) fun assigned => ?_
  exact Keeps.bind (Keeps.when (passes_of_fixes
    (fixes_offerWaitingCalls fixes_createNextVoiceOffer))) fun _ => Keeps.pure

lemma passes_heartbeatAgent (uid : ℕ) : Keeps (Passage d₀) (heartbeatAgent uid) := by
  unfold heartbeatAgent
  refine Keeps.bind (passes_of_fixes (fixes_getOrCreateAgentState uid)) fun st => ?_
  refine Keeps.ite Keeps.pure ?_
  refine Keeps.bind (Keeps.write fun d hd => ?_) fun _ => ?_
  · exact hd.trans (Passage.of_core (core_setAgentState d uid _))
  refine Keeps.bind (passes_of_fixes
    (fixes_expireVoiceOffersWith fixes_createNextVoiceOffer _ _ _)) fun _ => ?_
  refine Keeps.bind (passes_releaseExpiredVoiceWrapUps (some uid) 100) fun _ => ?_
  exact Keeps.when (Keeps.bind (passes_fillAgentCapacity uid) fun _ => Keeps.pure)

/-! ## accepting, releasing, replying -/

lemma passes_coreAccept (rid uid : ℕ) :
    Keeps (Passage d₀) (Core.acceptHandoffRequest rid uid) := by
  unfold Core.acceptHandoffRequest
  refine Keeps.bind Keeps.check fun context => ?_
  obtain ⟨r, tid⟩ := context
  refine Keeps.bind Keeps.refuseUnless fun _ => ?_
  refine Keeps.bind Keeps.refuseUnless fun _ => ?_
  refine Keeps.write fun d hd => hd.trans ?_
  have h := Passage.accept d rid uid
  exact ⟨h.now, h.clock, h.owner⟩

lemma passes_acceptHandoffRequest (rid uid : ℕ) :
    Keeps (Passage d₀) (acceptHandoffRequest rid uid) := by
  unfold acceptHandoffRequest
  refine Keeps.bind Keeps.check fun r => ?_
  refine Keeps.ite (passes_coreAccept rid uid) ?_
  refine Keeps.bind Keeps.read fun u => ?_
  refine Keeps.bind Keeps.refuseUnless fun _ => ?_
  refine Keeps.bind Keeps.check fun c => Keeps.ite Keeps.pure ?_
  refine Keeps.bind Keeps.refuseUnless fun _ => ?_
  exact passes_assignHandoffToAgent rid r.conversationId uid none

lemma passage_withOpenRequest (d : Desk) (cid : ℕ) (ticketId : Option ℕ) :
    Passage d (d.withOpenRequest cid ticketId).1 := by
  unfold Desk.withOpenRequest
  split
  · exact Passage.setRequest d _ (fun r => .inl rfl) fun r => .inl rfl
  · have hrow : ∀ i, ((d.requests.insert (HandoffRequest.new cid ticketId d.now)).get? i).bind
        (·.acceptedAt) = (d.requests.get? i).bind (·.acceptedAt) ∧
        ((d.requests.insert (HandoffRequest.new cid ticketId d.now)).get? i).bind
        (·.assignedAgentId) = (d.requests.get? i).bind (·.assignedAgentId) := by
      intro i
      rw [Table.get?_insert]
      split_ifs with hi
      · rw [Table.get?_eq_none_of_le d.requests hi.ge]
        exact ⟨rfl, rfl⟩
      · exact ⟨rfl, rfl⟩
    exact Passage.of_eq rfl (fun i => (hrow i).1) fun i => (hrow i).2

lemma passes_forceTakeoverTicket (tid uid : ℕ) :
    Keeps (Passage d₀) (forceTakeoverTicket tid uid) := by
  unfold forceTakeoverTicket
  refine Keeps.bind Keeps.check fun cid => Keeps.bind Keeps.read fun rid => ?_
  refine Keeps.bind (Keeps.write fun d hd => ?_) fun _ => passes_coreAccept rid uid
  exact hd.trans (passage_withOpenRequest d cid (some tid))

lemma passes_assignRequest (rid uid : ℕ) (offer : Option ℕ) :
    Keeps (Passage d₀) (assignRequest rid uid offer) := by
  unfold assignRequest
  exact Keeps.bind Keeps.check fun r =>
    passes_assignHandoffToAgent rid r.conversationId uid offer

lemma passage_requeue (d : Desk) (rid cid : ℕ) : Passage d (d.requeue rid cid) := by
  have h : Passage d (d.setRequest rid fun r =>
      { r with status := .requested, assignedAgentId := none, updatedAt := d.now }) :=
    Passage.setRequest d rid (fun r => .inl rfl) fun r => .inr (.inl rfl)
  exact ⟨h.now, h.clock, h.owner⟩

lemma passes_releaseHandoffRequest (rid uid : ℕ) :
    Keeps (Passage d₀) (releaseHandoffRequest rid uid) := by
  unfold releaseHandoffRequest Core.releaseHandoffRequest refillPrevious
  refine Keeps.bind Keeps.check fun r => Keeps.ite ?_ ?_
  · refine Keeps.bind Keeps.check fun context => ?_
    obtain ⟨r, tid⟩ := context
    refine Keeps.bind Keeps.refuseUnless fun _ => ?_
    refine Keeps.bind Keeps.read fun u => ?_
    refine Keeps.bind Keeps.refuseUnless fun _ => ?_
    exact Keeps.write fun d hd =>
      hd.trans ((passage_requeue d rid r.conversationId).setTicket _ _)
  · refine Keeps.bind Keeps.read fun u => ?_
    refine Keeps.bind Keeps.refuseUnless fun _ => ?_
    refine Keeps.bind Keeps.check fun c => ?_
    refine Keeps.bind Keeps.refuseUnless fun _ => ?_
    refine Keeps.bind Keeps.refuseUnless fun _ => ?_
    refine Keeps.bind (Keeps.write fun d hd => hd.trans ?_) fun _ => ?_
    · have hdecline : Passage d (d.declineFor rid r.assignedAgentId) := by
        unfold Desk.declineFor
        cases r.assignedAgentId with
        | none => exact Passage.of_core rfl
        | some a =>
          show Passage d (if d.declinedBy rid a = true then d else _)
          split_ifs
          · exact Passage.of_core rfl
          · exact Passage.of_eq rfl (fun _ => rfl) fun _ => rfl
      exact hdecline.trans (passage_requeue _ rid r.conversationId)
    · cases r.assignedAgentId with
      | none => exact Keeps.pure
      | some a =>
        refine Keeps.bind Keeps.read fun known => Keeps.when ?_
        exact Keeps.bind (passes_fillAgentCapacity a) fun _ => Keeps.pure

lemma passes_replyToConversation (cid uid : ℕ) (body : String) (allowed : String → Bool) :
    Keeps (Passage d₀) (replyToConversation cid uid body allowed) := by
  have hstore : ∀ d : Desk, Passage d (d.storeReply cid uid) := fun d =>
    Passage.of_eq rfl (fun _ => rfl) fun _ => rfl
  unfold replyToConversation
  refine Keeps.bind Keeps.read fun u => Keeps.bind Keeps.refuseUnless fun _ => ?_
  refine Keeps.bind Keeps.read fun row => ?_
  cases row with
  | none => exact Keeps.raise
  | some c =>
    cases hc : c.ticketId with
    | none =>
      simp only [hc]
      refine Keeps.bind Keeps.check fun _ => Keeps.bind Keeps.check fun _ => ?_
      refine Keeps.bind Keeps.check fun text => ?_
      refine Keeps.bind Keeps.refuseUnless fun _ => ?_
      exact Keeps.write fun d hd => hd.trans (hstore d)
    | some tid =>
      simp only [hc]
      refine Keeps.bind Keeps.read fun ticket => ?_
      cases ticket with
      | none => exact Keeps.raise
      | some ti =>
        refine Keeps.bind Keeps.check fun _ => Keeps.bind Keeps.check fun _ => ?_
        refine Keeps.bind Keeps.check fun text => ?_
        refine Keeps.bind Keeps.refuseUnless fun _ => ?_
        refine Keeps.write fun d hd => hd.trans (Passage.setTicket ?_ _ _)
        unfold Desk.takeFromAi
        split_ifs
        · exact Passage.of_eq rfl (fun _ => rfl) fun _ => rfl
        · exact hstore d

/-- **no service but the reconciliation empties a clock.** -/
lemma passes_perform (e : Deed) (h : ∀ agent limit, e ≠ .reconcile agent limit) :
    Keeps (Passage d₀) e.perform := by
  cases e with
  | accept rid uid => exact passes_acceptHandoffRequest rid uid
  | takeover tid uid => exact passes_forceTakeoverTicket tid uid
  | assign rid uid offer => exact passes_assignRequest rid uid offer
  | release rid uid => exact passes_releaseHandoffRequest rid uid
  | reply cid uid body allowed => exact passes_replyToConversation cid uid body allowed
  | heartbeat uid => exact passes_heartbeatAgent uid
  | reconcile agent limit => exact absurd rfl (h agent limit)
  | surroundings w => exact Keeps.pure

end Passage

/-! ## the reconciliation -/

section Reconcile
variable {d t : Desk}

/-- a reconciliation has gone from `d` to `t`: what it has not taken away is as it was. -/
structure Reconciled (d t : Desk) : Prop where
  now : t.now = d.now
  messages : t.messages = d.messages
  row : ∀ rid, t.requests.get? rid = d.requests.get? rid ∨ t.owner rid = none

lemma Reconciled.refl (d : Desk) : Reconciled d d := ⟨rfl, rfl, fun _ => .inl rfl⟩

lemma Reconciled.trans {u : Desk} (h : Reconciled d t) (h' : Reconciled t u) : Reconciled d u := by
  refine ⟨h'.now.trans h.now, h'.messages.trans h.messages, fun rid => ?_⟩
  rcases h'.row rid with hrow' | hnone
  · rcases h.row rid with hrow | hnone
    · exact .inl (hrow'.trans hrow)
    · refine .inr ?_
      unfold Desk.owner at hnone ⊢
      rw [hrow', hnone]
  · exact .inr hnone

lemma reconciled_releaseOne (d : Desk) (rid : ℕ) (r : HandoffRequest) (previous : ℕ) :
    Reconciled d (d.releaseOne rid r previous) := by
  unfold Desk.releaseOne
  generalize (d.conversations.get? r.conversationId).bind (·.ticketId) = tid
  have hrow : ∀ i, (d.requests.modify rid fun q =>
      { q with
        status := .requested
        assignedAgentId := none
        acceptedAt := none
        updatedAt := d.now
        plan := q.plan.map (·.reopen previous d.now) }).get? i = d.requests.get? i ∨
      ((d.requests.modify rid fun q =>
      { q with
        status := .requested
        assignedAgentId := none
        acceptedAt := none
        updatedAt := d.now
        plan := q.plan.map (·.reopen previous d.now) }).get? i).bind (·.assignedAgentId) =
        none := by
    intro i
    rw [Table.get?_modify]
    split_ifs with hi
    · refine .inr ?_
      cases d.requests.get? i with
      | none => rfl
      | some q => rfl
    · exact .inl rfl
  cases tid with
  | none => exact ⟨rfl, rfl, hrow⟩
  | some tid => exact ⟨rfl, rfl, hrow⟩

lemma reconcileOne_cases (d : Desk) (rid : ℕ) :
    (d.requeuedOne rid = [] ∧ d.reconcileOne rid = d) ∨
      ∃ r uid reason, d.requests.get? rid = some r ∧ r.assignedAgentId = some uid ∧
        d.reasonCode r = some reason ∧ d.requeuedOne rid = [(rid, reason)] ∧
        d.reconcileOne rid = d.releaseOne rid r uid := by
  unfold Desk.requeuedOne Desk.reconcileOne
  cases hr : d.requests.get? rid with
  | none => exact .inl ⟨rfl, rfl⟩
  | some r =>
    cases hu : r.assignedAgentId with
    | none =>
      exact .inl ⟨by simp [hu], by simp [hu]⟩
    | some uid =>
      simp only [hu, isStale_eq]
      by_cases hpos : 0 < uid
      · cases hreason : d.reasonCode r with
        | none => exact .inl ⟨by simp, by simp⟩
        | some reason =>
          exact .inr ⟨r, uid, reason, rfl, hu, hreason, by simp [hpos], by simp [hpos]⟩
      · exact .inl ⟨by simp [hpos], by simp [hpos]⟩

lemma reconciled_reconcileOne (d : Desk) (rid : ℕ) : Reconciled d (d.reconcileOne rid) := by
  rcases reconcileOne_cases d rid with ⟨-, he⟩ | ⟨r, uid, reason, -, -, -, -, he⟩
  · rw [he]
    exact Reconciled.refl d
  · rw [he]
    exact reconciled_releaseOne d rid r uid

lemma reconciled_reconcile (agent : Option ℕ) (limit : ℕ) :
    Reconciled d ((Deed.reconcile agent limit).run d) := by
  have hkeeps : Keeps (Reconciled d) (reconcileStaleTextHandoffs agent limit) := by
    unfold reconcileStaleTextHandoffs
    refine Keeps.bind Keeps.read fun rows => Keeps.each (fun x => ?_) rows
    exact Keeps.write fun t ht => ht.trans (reconciled_reconcileOne t x.1)
  exact hkeeps.ensures.commit (P := Reconciled d) (Reconciled.refl d) (Reconciled.refl d)

/-- **what the loop requeues had its owner before the loop, and a reason in the loop.** -/
lemma requeuedBy_reason (rows : List ℕ) (h : Reconciled d t) {rid : ℕ} {reason : String}
    (hmem : (rid, reason) ∈ t.requeuedBy rows) :
    ∃ r uid u, d.requests.get? rid = some r ∧ r.assignedAgentId = some uid ∧ Reconciled d u ∧
      u.reasonCode r = some reason := by
  induction rows generalizing t with
  | nil => cases hmem
  | cons i rows ih =>
    rcases List.mem_append.1 hmem with hone | hrest
    · rcases reconcileOne_cases t i with ⟨hnil, -⟩ | ⟨r, uid, reason', hr, hu, hreason, hlist, -⟩
      · rw [hnil] at hone
        cases hone
      · rw [hlist, List.mem_singleton] at hone
        cases hone
        rcases h.row rid with hrow | hnone
        · exact ⟨r, uid, t, hrow.symm.trans hr, hu, h, hreason⟩
        · unfold Desk.owner at hnone
          rw [hr] at hnone
          exact absurd (hu.symm.trans hnone) (Option.some_ne_none uid)
    · exact ih (h.trans (reconciled_reconcileOne t i)) hrest

lemma overdue_of_reason {r : HandoffRequest} {uid : ℕ} {since : Instant} {reason : String}
    (h : Reconciled d t) (hreason : t.reasonCode r = some reason)
    (hu : r.assignedAgentId = some uid) (hclock : r.acceptedAt = some since) :
    d.Overdue r uid since reason := by
  have hage : r.acceptanceClock = since := by
    unfold HandoffRequest.acceptanceClock
    rw [hclock]
    rfl
  unfold Desk.reasonCode at hreason
  simp only [hage] at hreason
  split_ifs at hreason with hvoice h1 h2
  · cases hreason
    rw [Bool.and_eq_true, decide_eq_true_iff, h.now] at h1
    refine ⟨fun he => absurd he (by decide), fun _ => ?_⟩
    have hgrace : seconds offlineHandoffGraceSeconds = seconds 300 := rfl
    rw [hgrace] at h1
    linarith [h1.2]
  · cases hreason
    rw [Bool.and_eq_true, decide_eq_true_iff, h.now, Bool.not_eq_true'] at h2
    refine ⟨fun _ => ⟨?_, fun i m hm hconv hdir hauthor => ?_⟩, fun he => absurd he (by decide)⟩
    · have htimeout : seconds untouchedHandoffTimeoutSeconds = seconds 1800 := rfl
      rw [htimeout] at h2
      linarith [h2.2]
    · by_contra hle
      have hreplied := h2.1
      unfold Desk.repliedSince at hreplied
      rw [hu, hclock, h.messages] at hreplied
      have hmem : (i, m) ∈ d.messages.select fun _ m =>
          m.conversationId = r.conversationId && m.direction = .agent &&
            m.authorUserId = some uid && (some since).all (· ≤ m.createdAt) := by
        refine d.messages.mem_select.2 ⟨hm, ?_⟩
        simp [hconv, hdir, hauthor, not_lt.1 hle]
      have hpos : 0 < d.messages.count fun _ m =>
          m.conversationId = r.conversationId && m.direction = .agent &&
            m.authorUserId = some uid && (some since).all (· ≤ m.createdAt) := List.length_pos_of_mem hmem
      simp only [decide_eq_false_iff_not] at hreplied
      exact hreplied hpos

end Reconcile

/-- the clock of every request with an owner says since when the owner has it. -/
def History.Timed (h : History) : Prop :=
  ∀ rid, (h.desk.owner rid).isSome = true →
    h.desk.clock rid = h.since rid ∧ (h.since rid).isSome = true

lemma History.Timed.step {h : History} (ht : h.Timed) (e : Deed) (hr : h.Renewed e) :
    (History.step e h).Timed := by
  have hpassage : Passage h.desk (e.run h.desk) → (History.step e h).Timed := by
    intro hp rid hsome
    have hsome : ((e.run h.desk).owner rid).isSome = true := hsome
    show (e.run h.desk).clock rid = (if (e.run h.desk).owner rid = h.desk.owner rid then h.since rid
      else some h.desk.now) ∧ (if (e.run h.desk).owner rid = h.desk.owner rid then h.since rid
      else some h.desk.now).isSome = true
    by_cases hsame : (e.run h.desk).owner rid = h.desk.owner rid
    · rw [if_pos hsame]
      rw [hsame] at hsome
      obtain ⟨hclock, hsince⟩ := ht rid hsome
      rcases hp.clock rid with hc | ⟨hnone, -⟩
      · exact ⟨hc.trans hclock, hsince⟩
      · rw [← hclock, hnone] at hsince
        cases hsince
    · rw [if_neg hsame]
      have hempty := hr rid hsame hsome
      refine ⟨?_, rfl⟩
      rcases hp.clock rid with hc | ⟨-, hc⟩
      · rcases hp.owner rid with ho | ho | ho
        · exact absurd ho hsame
        · rw [ho] at hsome
          cases hsome
        · rw [hc, hempty] at ho
          cases ho
      · exact hc
  have hkept : ∀ rid, (e.run h.desk).requests.get? rid = h.desk.requests.get? rid →
      ((e.run h.desk).owner rid).isSome = true →
      (e.run h.desk).clock rid = (History.step e h).since rid ∧
        ((History.step e h).since rid).isSome = true := by
    intro rid hrow hsome
    have howner : (e.run h.desk).owner rid = h.desk.owner rid := by
      unfold Desk.owner
      rw [hrow]
    have hclock : (e.run h.desk).clock rid = h.desk.clock rid := by
      unfold Desk.clock
      rw [hrow]
    have hsince : (History.step e h).since rid = h.since rid := if_pos howner
    rw [hclock, hsince]
    rw [howner] at hsome
    exact ht rid hsome
  cases e with
  | reconcile agent limit =>
    intro rid hsome
    have hsome : (((Deed.reconcile agent limit).run h.desk).owner rid).isSome = true := hsome
    rcases (reconciled_reconcile agent limit).row rid with hrow | hnone
    · exact hkept rid hrow hsome
    · rw [hnone] at hsome
      cases hsome
  | surroundings w => exact fun rid hsome => hkept rid rfl hsome
  | accept | takeover | assign | release | reply | heartbeat =>
    refine hpassage ?_
    refine (passes_perform _ ?_).ensures.commit (P := Passage h.desk) (Passage.of_core rfl)
      (Passage.of_core rfl)
    intro agent limit he
    cases he

lemma History.Timed.measured {h : History} (ht : h.Timed) (agent : Option ℕ) (limit : ℕ) :
    h.Measured agent limit := by
  intro rid reason hmem
  obtain ⟨r, uid, u, hr, hu, hrec, hreason⟩ := requeuedBy_reason _ (Reconciled.refl h.desk) hmem
  have howner : (h.desk.owner rid).isSome = true := by
    unfold Desk.owner
    rw [hr]
    show r.assignedAgentId.isSome = true
    rw [hu]
    rfl
  obtain ⟨hclock, hsome⟩ := ht rid howner
  obtain ⟨since, hsince⟩ := Option.isSome_iff_exists.1 hsome
  refine ⟨r, uid, since, hr, hu, hsince, overdue_of_reason hrec hreason hu ?_⟩
  have hrow : h.desk.clock rid = r.acceptedAt := by
    unfold Desk.clock
    rw [hr]
    rfl
  rw [← hrow, hclock, hsince]

theorem requeue_measured (d : Desk) (hd : ∀ rid, d.owner rid = none) (deeds : List Deed)
    (hrun : Along History.step History.Renewed ⟨d, fun _ => none⟩ deeds) :
    Along History.step (fun h e => ∀ agent limit, e = .reconcile agent limit →
      h.Measured agent limit) ⟨d, fun _ => none⟩ deeds := by
  have hstart : History.Timed ⟨d, fun _ => none⟩ := by
    intro rid hsome
    have hsome : (d.owner rid).isSome = true := hsome
    rw [hd rid] at hsome
    cases hsome
  exact Along.imp (I := History.Timed) (fun h e ht hr => ht.step e hr)
    (fun h e ht _ agent limit _ => ht.measured agent limit) hstart hrun

/-! ## two owners of one request -/

def agentAt (heartbeat : Instant) : User :=
  ⟨true, none, [capWebchatHandoffRelease], [⟨"t", "DE", "web", "legacy", true⟩],
    some ⟨.online, 3, false, 1, 30, some heartbeat, heartbeat⟩⟩

/-- two agents and a waiting request without a ticket. -/
def queueDesk : Desk where
  now := 0
  scopeCountry := some "DE"
  tenantAuthority := fun _ _ _ => true
  users := (Table.empty.insert (agentAt 0)).insert (agentAt 0)
  conversations := Table.empty.insert
    ⟨none, true, "t", "web", some ⟨"t", some "DE", "web", none⟩, some 1, .requested, none, true,
      some 0, none⟩
  requests := Table.empty.insert (HandoffRequest.new 1 none 0)
  sessions := Table.empty
  offers := Table.empty
  messages := Table.empty
  tickets := Table.empty
  declined := []

/-- it is `now`, and both agents have just sent a heartbeat. -/
def atWork (now : Instant) : Deed :=
  .surroundings ⟨now, some "DE", fun _ _ _ => true,
    (Table.empty.insert (agentAt now)).insert (agentAt now), Table.empty⟩

lemma queueDesk_row (rid : ℕ) : queueDesk.owner rid = none ∧ queueDesk.clock rid = none := by
  have hrow : queueDesk.requests.get? rid =
      if rid = 1 then some (HandoffRequest.new 1 none 0) else none := by
    show (Table.empty.insert (HandoffRequest.new 1 none 0)).get? rid = _
    rw [Table.get?_insert]
    rfl
  unfold Desk.owner Desk.clock
  rw [hrow]
  split_ifs
  · exact ⟨rfl, rfl⟩
  · exact ⟨rfl, rfl⟩

/-- the first agent takes the request and is silent for half an hour. -/
theorem silent_owner_measured :
    Along History.step (fun h e => ∀ agent limit, e = .reconcile agent limit →
        h.Measured agent limit) ⟨queueDesk, fun _ => none⟩
      [.assign 1 1 none, atWork (seconds 1800), .reconcile none 0] ∧
    (1, "accepted_handoff_untouched_timeout") ∈ (run History.step ⟨queueDesk, fun _ => none⟩
      [.assign 1 1 none, atWork (seconds 1800)]).desk.requeued none 0 := by
  refine ⟨requeue_measured queueDesk (fun rid => (queueDesk_row rid).1) _
    ⟨fun rid _ _ => (queueDesk_row rid).2, fun rid hne _ => absurd rfl hne, ?_, trivial⟩, ?_⟩
  · intro rid hne hsome
    rcases (reconciled_reconcile none 0).row rid with hrow | hnone
    · refine absurd ?_ hne
      unfold Desk.owner
      rw [hrow]
    · rw [hnone] at hsome
      cases hsome
  · decide +kernel

/-- the first agent releases the request after 1000 seconds, the second takes it after 1750. -/
def handedOver : List Deed :=
  [.assign 1 1 none, atWork (seconds 1000), .release 1 1, atWork (seconds 1750), .assign 1 2 none,
    atWork (seconds 1800)]

/-- the second agent loses the request after 50 seconds, for half an hour of silence. -/
theorem new_owner_not_measured :
    (∀ rid, queueDesk.owner rid = none) ∧
      ¬Along History.step (fun h e => ∀ agent limit, e = .reconcile agent limit →
        h.Measured agent limit) ⟨queueDesk, fun _ => none⟩
        (handedOver ++ [.reconcile none 0]) := by
  refine ⟨fun rid => (queueDesk_row rid).1, fun h => ?_⟩
  rw [along_append] at h
  obtain ⟨-, hmeasured, -⟩ := h
  obtain ⟨r, uid, since, -, -, hsince, hoverdue⟩ :=
    hmeasured none 0 rfl 1 "accepted_handoff_untouched_timeout" (by decide +kernel)
  have hrecorded : (run History.step ⟨queueDesk, fun _ => none⟩ handedOver).since 1 =
      some (seconds 1750) := by decide +kernel
  rw [hrecorded] at hsince
  cases hsince
  have hlong := (hoverdue.untouched rfl).1
  have hshort : ¬seconds 1750 ≤ (run History.step ⟨queueDesk, fun _ => none⟩ handedOver).desk.now -
      seconds 1800 := by decide +kernel
  exact hshort hlong

end NexusHelpdesk.Handoff
