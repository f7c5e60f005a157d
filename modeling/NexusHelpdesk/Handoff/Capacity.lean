import NexusHelpdesk.Handoff.Fill

/-!
# Work conservation

`fill_agent_capacity` as a whole: expired offers and wrap-ups first, then the loop, then the calls
that wait for an agent.

* `Desk.housekept`: the desk in which the loop starts;
* `Desk.authorizes`, `Desk.staysAuthorized`: the questions of the scan and of the assignment;
* `Filled`: what a call of `fill_agent_capacity` is to leave;
* `fill_conserves_iff`: **it leaves it exactly if the line in which the loop starts is
  `Conserving`**.
-/

namespace NexusHelpdesk.Handoff
open Lib
open Txn (Keeps)

/-! ## the questions -/

namespace Desk
variable (d : Desk) (uid : ℕ)

/-- what `_eligible_text_request_for_agent` asks of a row: the agent is an authorised candidate. -/
def authorizes (x : ℕ × HandoffRequest) : Bool :=
  match (d.conversations.get? x.2.conversationId).bind (·.control) with
  | none => false
  | some k =>
    match (askCandidate uid x.1 k true d).1 with
    | .ok (_, authorized) => authorized
    | .error _ => false

/-- what `assign_handoff_to_agent` asks of it: the agent is one with the control row that
`ensure_conversation_control` writes. -/
def staysAuthorized (x : ℕ × HandoffRequest) : Bool :=
  match ensureConversationControl x.2.conversationId d with
  | (.ok k, e) =>
    match (askCandidate uid x.1 k false e).1 with
    | .ok (_, authorized) => authorized
    | .error _ => false
  | (.error _, _) => false

/-- the requests the agent may be assigned, oldest first. -/
def eligible : List ℕ := ((d.textQueue uid).filter (d.authorizes uid)).map (·.1)

/-- the desk in which the loop starts: expired offers and wrap-ups are dealt with. -/
def housekept : Desk :=
  ((do
    expireVoiceOffers (some uid) none 200
    releaseExpiredVoiceWrapUps (some uid) 100 : Op Unit) d).2

end Desk

section Questions
variable {d : Desk} {uid : ℕ} {x : ℕ × HandoffRequest}

lemma mem_textQueue_row (hx : x ∈ d.textQueue uid) :
    d.requests.get? x.1 = some x.2 ∧ d.waits uid x.1 x.2 = true :=
  (Table.mem_select _).1 ((List.mem_insertionSort _).1 hx)

lemma authorizes_eq (hx : x ∈ d.textQueue uid) :
    d.authorizes uid x = (d.seated uid x).2.may := by
  obtain ⟨hrow, hw⟩ := mem_textQueue_row hx
  obtain ⟨c, k, hc, hk, hs⟩ := seat_of_waits hw
  have hask := askCandidate_eq uid k true hrow
  have hmay : (d.seated uid x).2.may = decide (d.verdict uid x.1 x.2 k true = some true) := by
    unfold Desk.seated
    rw [hs]
    rfl
  unfold Desk.authorizes
  rw [hmay, hc]
  dsimp only [Option.bind_some]
  rw [hk]
  dsimp only
  cases hv : d.verdict uid x.1 x.2 k true with
  | none =>
    rw [hv] at hask
    obtain ⟨e, he⟩ := hask
    rw [he]
    rfl
  | some v =>
    rw [hv] at hask
    obtain ⟨plan, hplan, -⟩ := hask
    rw [hplan]
    cases v <;> rfl

lemma staysAuthorized_eq (hx : x ∈ d.textQueue uid) :
    d.staysAuthorized uid x = (d.seated uid x).2.inStep := by
  obtain ⟨hrow, hw⟩ := mem_textQueue_row hx
  obtain ⟨c, k, hc, hk, hs⟩ := seat_of_waits hw
  have hrow' : (d.ensured x.2.conversationId).requests.get? x.1 = some x.2 := hrow
  have hask := askCandidate_eq uid (c.ensuredControl d.scopeCountry) false hrow'
  have hstep : (d.seated uid x).2.inStep =
      decide ((d.ensured x.2.conversationId).verdict uid x.1 x.2 (c.ensuredControl d.scopeCountry)
        false = some true) := by
    unfold Desk.seated
    rw [hs]
    rfl
  unfold Desk.staysAuthorized
  rw [hstep, ensureConversationControl_run hc]
  dsimp only
  cases hv : (d.ensured x.2.conversationId).verdict uid x.1 x.2 (c.ensuredControl d.scopeCountry)
      false with
  | none =>
    rw [hv] at hask
    obtain ⟨e, he⟩ := hask
    rw [he]
    rfl
  | some v =>
    rw [hv] at hask
    obtain ⟨plan, hplan, -⟩ := hask
    rw [hplan]
    cases v <;> rfl

lemma eligible_eq (d : Desk) (uid : ℕ) :
    d.eligible uid = ((d.lineup uid).filter (·.2.may)).map Prod.fst := by
  unfold Desk.eligible
  rw [← textQueue_seated, List.filter_map, List.map_map]
  refine congrArg (List.map Prod.fst) (List.filter_congr fun x hx => ?_)
  exact authorizes_eq hx

lemma eligible_eq_nil : d.eligible uid = [] ↔ ∀ x ∈ d.lineup uid, x.2.may = false := by
  rw [eligible_eq, List.map_eq_nil_iff, List.filter_eq_nil_iff]
  refine forall₂_congr fun x hx => ?_
  rw [Bool.not_eq_true]

end Questions

/-! ## around the loop -/

section Around
variable {d t : Desk} {uid : ℕ} {o : (Instant × User × ℕ) × (ℕ → Option Seat) × (ℕ → Bool)}

lemma looks_offerWaitingCalls (uid : ℕ)
    (o : (Instant × User × ℕ) × (ℕ → Option Seat) × (ℕ → Bool)) :
    Keeps (fun d => Desk.outlook d uid = o ∧ d.Related) (offerWaitingCalls routingOps) :=
  Keeps.bind Keeps.read fun rows => Keeps.each (fun sid =>
    Keeps.bind (looks_createNextVoiceOffer sid) fun _ => Keeps.pure) rows

lemma looks_expireVoiceOffers (who sid : Option ℕ) (limit : ℕ) :
    Keeps (fun d => Desk.outlook d uid = o ∧ d.Related) (expireVoiceOffers who sid limit) := by
  refine Keeps.bind Keeps.read fun offers => ?_
  refine Keeps.bind (Keeps.write ?_) fun _ => Keeps.each (fun sid =>
    Keeps.bind (looks_createNextVoiceOffer sid) fun _ => Keeps.pure) _
  rintro d ⟨hd, hrel⟩
  exact ⟨hd, hrel.oneOpen, hrel.linked⟩

def Desk.watch (d : Desk) (uid : ℕ) : Instant × User := (d.now, d.user uid)

lemma related_setRequest (h : d.Related) (rid : ℕ) {f : HandoffRequest → HandoffRequest}
    (hc : ∀ r, (f r).conversationId = r.conversationId)
    (ho : ∀ r, (f r).status.isOpen = true → r.status.isOpen = true) :
    (d.setRequest rid f).Related := by
  have hback : ∀ i x, (d.setRequest rid f).requests.get? i = some x → ∃ y,
      d.requests.get? i = some y ∧ y.conversationId = x.conversationId ∧
        (x.status.isOpen = true → y.status.isOpen = true) := by
    intro i x hx
    change (d.requests.modify rid f).get? i = _ at hx
    rw [Table.get?_modify] at hx
    split_ifs at hx
    · obtain ⟨y, hy, rfl⟩ := Option.map_eq_some_iff.1 hx
      exact ⟨y, hy, (hc y).symm, ho y⟩
    · exact ⟨x, hx, rfl, id⟩
  refine ⟨?_, ?_⟩
  · intro cid i j x y hx hy hxc hyc hxo hyo
    obtain ⟨x', hx', hxc', hxo'⟩ := hback i x hx
    obtain ⟨y', hy', hyc', hyo'⟩ := hback j y hy
    exact h.oneOpen cid i j x' y' hx' hy' (hxc'.trans hxc) (hyc'.trans hyc) (hxo' hxo) (hyo' hyo)
  · intro sid x i hx hlink
    obtain ⟨r, hr, hrc⟩ := h.linked sid x i hx hlink
    have hrow : (d.setRequest rid f).requests.get? i = if i = rid then some (f r) else some r := by
      show (d.requests.modify rid f).get? i = _
      rw [Table.get?_modify, hr]
      rfl
    split_ifs at hrow
    · exact ⟨f r, hrow, (hc r).trans hrc⟩
    · exact ⟨r, hrow, hrc⟩

lemma related_releaseWrapUp (h : d.Related) (sid : ℕ) : (d.releaseWrapUp sid).Related := by
  unfold Desk.releaseWrapUp
  cases hx : d.sessions.get? sid with
  | none => exact h
  | some x =>
    have hclose : (d.closeLinked x (· = .accepted)).Related := by
      unfold Desk.closeLinked
      repeat' split
      · exact related_setRequest h _ (fun _ => rfl) fun _ hno => absurd hno Bool.false_ne_true
      · exact h
      · exact h
    refine ⟨hclose.oneOpen, ?_⟩
    intro i y rid hy hlink
    change ((d.closeLinked x _).sessions.modify sid _).get? i = _ at hy
    rw [Table.get?_modify] at hy
    split_ifs at hy
    · obtain ⟨z, hz, rfl⟩ := Option.map_eq_some_iff.1 hy
      exact hclose.linked i z rid hz hlink
    · exact hclose.linked i y rid hy hlink

lemma watch_releaseWrapUp (sid : ℕ) : (d.releaseWrapUp sid).watch uid = d.watch uid := by
  unfold Desk.releaseWrapUp
  cases d.sessions.get? sid with
  | none => rfl
  | some x =>
    show (d.closeLinked x _).watch uid = _
    unfold Desk.closeLinked
    repeat' split
    all_goals rfl

lemma watch_of_outlook (h : t.outlook uid = d.outlook uid) : t.watch uid = d.watch uid := by
  obtain ⟨h1, -⟩ := Prod.mk.inj h
  obtain ⟨hnow, h2⟩ := Prod.mk.inj h1
  exact Prod.ext hnow (Prod.mk.inj h2).1

lemma watch_housekept (uid : ℕ) (h : d.Related) :
    (d.housekept uid).watch uid = d.watch uid ∧ (d.housekept uid).Related := by
  have hexpire : Keeps (fun e => e.watch uid = d.watch uid ∧ e.Related)
      (expireVoiceOffers (some uid) none 200) := by
    rintro e ⟨he, hrel⟩
    obtain ⟨ho, hrel'⟩ := looks_expireVoiceOffers (some uid) none 200 e ⟨rfl, hrel⟩
    exact ⟨(watch_of_outlook ho).trans he, hrel'⟩
  have hrelease : Keeps (fun e => e.watch uid = d.watch uid ∧ e.Related)
      (releaseExpiredVoiceWrapUps (some uid) 100) := by
    refine Keeps.bind Keeps.read fun due => Keeps.bind ?_ fun _ => ?_
    · refine Keeps.bind Keeps.read fun rows => Keeps.each (fun x => ?_) rows
      refine Keeps.write ?_
      rintro e ⟨he, hrel⟩
      exact ⟨(watch_releaseWrapUp x.1).trans he, related_releaseWrapUp hrel x.1⟩
    · refine Keeps.each (fun rid => Keeps.write ?_) _
      rintro e ⟨he, hrel⟩
      exact ⟨he, related_setRequest hrel rid (fun _ => rfl) fun _ => id⟩
  exact Keeps.bind hexpire (fun _ => hrelease) d ⟨rfl, h⟩

end Around

/-! ## work conservation -/

/-- what `fill_agent_capacity` is to leave: no free place beside an eligible request, the oldest
eligible requests assigned, and a loop that ends. -/
structure Filled (d : Desk) (uid : ℕ) (st : AgentState) (assigned : List ℕ) (t : Desk) :
    Prop where
  served : st.maxConcurrentConversations ≤ t.activeAgentLoad uid ∨ t.eligible uid = []
  oldest : assigned = ((d.housekept uid).eligible uid).take assigned.length
  ordered : ((d.housekept uid).textQueue uid).Pairwise fun a b =>
    a.2.requestedAt < b.2.requestedAt ∨ a.2.requestedAt = b.2.requestedAt ∧ a.1 < b.1
  ends : ∀ fuel, st.maxConcurrentConversations ≤ fuel →
    fillTextWith routingOps uid st fuel (d.housekept uid) =
      fillTextWith routingOps uid st st.maxConcurrentConversations (d.housekept uid)

/-- in the line in which the loop starts, each eligible request that is reached while a place is
free has fewer than a hundred others in front of it that the agent may not serve, and either it
stays eligible with the control row in step or no eligible request stands behind it. -/
def Desk.conserves (d : Desk) (uid : ℕ) (st : AgentState) : Prop :=
  Conserving 100 ((d.housekept uid).authorizes uid) ((d.housekept uid).staysAuthorized uid)
    (st.maxConcurrentConversations - (d.housekept uid).activeAgentLoad uid) 0
    ((d.housekept uid).textQueue uid)

section Filled
variable {d t : Desk} {uid : ℕ} {st : AgentState} {assigned : List ℕ}

/-- the calls of `fill_agent_capacity`, one after the other. -/
lemma fillAgentCapacity_run (hready : Ready uid st d)
    (h : fillAgentCapacity uid d = (.ok assigned, t)) :
    ∃ u, fillTextWith routingOps uid st st.maxConcurrentConversations (d.housekept uid) =
        (.ok assigned, u) ∧ ∀ o, u.outlook uid = o → u.Related → t.outlook uid = o ∧ t.Related := by
  have hagent : getOrCreateAgentState uid d = (.ok st, d) := by
    unfold getOrCreateAgentState
    rw [Txn.run_bind, Txn.run_read, hready.agent]
    rfl
  have hon : (st.status = .online && st.heartbeatIsFresh d.now : Bool) = true := by
    rw [hready.online, hready.fresh]
    rfl
  unfold fillAgentCapacity fillAgentCapacityWith at h
  rw [Txn.run_bind, hagent] at h
  dsimp only at h
  rw [Txn.run_bind, Txn.run_read] at h
  dsimp only at h
  rw [if_pos hon] at h
  simp only [Txn.bind_eq_ok] at h
  obtain ⟨_, d₁, hexpire, _, d₂, hrelease, a, u, hloop, _, t', hoffer, hend⟩ := h
  cases hend
  have hkept : d.housekept uid = d₂ := by
    have hprep : ((do
        expireVoiceOffers (some uid) none 200
        releaseExpiredVoiceWrapUps (some uid) 100 : Op Unit) d) = (.ok (), d₂) :=
      (Txn.bind_eq_ok d).2 ⟨_, d₁, hexpire, hrelease⟩
    exact congrArg Prod.snd hprep
  rw [hkept]
  refine ⟨u, hloop, fun o ho hrel => ?_⟩
  have hkeep := Keeps.when (b := st.voiceEnabled)
    (looks_offerWaitingCalls uid o) u ⟨ho, hrel⟩
  rw [hoffer] at hkeep
  exact hkeep

lemma conserves_iff : d.conserves uid st ↔
    Conserving 100 (fun x : ℕ × Seat => x.2.may) (fun x => x.2.inStep)
      (st.maxConcurrentConversations - (d.housekept uid).activeAgentLoad uid) 0
      ((d.housekept uid).lineup uid) := by
  unfold Desk.conserves
  rw [← textQueue_seated]
  exact conserving_map ((d.housekept uid).seated uid) fun x hx =>
    ⟨authorizes_eq hx, staysAuthorized_eq hx⟩

lemma textQueue_ordered (d : Desk) (uid : ℕ) :
    (d.textQueue uid).Pairwise fun a b =>
      a.2.requestedAt < b.2.requestedAt ∨ a.2.requestedAt = b.2.requestedAt ∧ a.1 < b.1 :=
  pairwise_insertionSort_lex (fun x : ℕ × HandoffRequest => x.2.requestedAt)
    (Table.pairwise_select _ _)

theorem fill_conserves_iff (hone : ∀ cid, d.OneOpen cid) (hlinked : d.ledger.Linked)
    (hst : d.agentState uid = some st) (honline : st.status = .online)
    (hfresh : st.heartbeatIsFresh d.now = true)
    (h : fillAgentCapacity uid d = (.ok assigned, t)) :
    Filled d uid st assigned t ↔ d.conserves uid st := by
  have hrel : d.Related := by
    refine ⟨hone, fun sid x rid hx hlink => ?_⟩
    obtain ⟨r, hr, hc⟩ := hlinked sid x.entry rid (ledger_call hx) hlink
    obtain ⟨q, hq, rfl⟩ := Option.map_eq_some_iff.1 hr
    exact ⟨q, hq, hc⟩
  obtain ⟨u, hloop, hoffers⟩ := fillAgentCapacity_run ⟨hrel, hst, honline, hfresh⟩ h
  obtain ⟨hwatch, hrel₁⟩ := watch_housekept uid hrel
  obtain ⟨hnow, huser⟩ := Prod.mk.inj hwatch
  have hready : Ready uid st (d.housekept uid) := by
    refine ⟨hrel₁, ?_, honline, ?_⟩
    · unfold Desk.agentState
      rw [huser]
      exact hst
    · rw [hnow]
      exact hfresh
  have hserved := fillText_spec st.maxConcurrentConversations hready (Nat.le_add_left ..) hloop
  obtain ⟨hlook, -⟩ := hoffers _ rfl hserved.related
  have hsame : (st.maxConcurrentConversations ≤ t.activeAgentLoad uid ∨ t.eligible uid = []) ↔
      d.conserves uid st := by
    rw [conserves_iff, ← hserved.conserves, eligible_eq_nil, load_of_outlook hlook,
      lineup_of_outlook hlook]
  constructor
  · intro hfilled
    exact hsame.1 hfilled.served
  · intro hc
    refine ⟨hsame.2 hc, ?_, textQueue_ordered _ _, fun fuel hfuel => ?_⟩
    · rw [eligible_eq]
      exact hserved.oldest
    · exact fillText_fuel _ hready (Nat.le_add_left ..) (by omega)

end Filled

/-! ### one request, and a crowd in front of it -/

def onlineAgent : AgentState := ⟨.online, 3, false, 1, 30, some 0, 0⟩

lemma run_of_toOption {α : Type} {m : Op α} {d : Desk} {a : α}
    (h : (m d).1.toOption = some a) : m d = (.ok a, (m d).2) := by
  cases hrun : m d with
  | mk r t =>
    rw [hrun] at h
    cases r with
    | ok b =>
      cases h
      rfl
    | error e => cases h

/-- the waiting request of an agent is taken. -/
theorem fill_takes_waiting :
    Filled (waitingDesk none) 1 onlineAgent [1] (fillAgentCapacity 1 (waitingDesk none)).2 := by
  have hone : ∀ cid, (waitingDesk none).OneOpen cid := by
    intro cid i j q r hq hr hqc hrc
    have hcid : cid = 1 := by
      change (Table.empty.insert (HandoffRequest.new 1 none 0)).get? i = some q at hq
      rw [Table.get?_insert] at hq
      split_ifs at hq
      · cases hq
        exact hqc.symm
      · cases hq
    subst hcid
    exact waitingDesk_oneOpen none i j q r hq hr hqc hrc
  have hrun : fillAgentCapacity 1 (waitingDesk none) =
      (.ok [1], (fillAgentCapacity 1 (waitingDesk none)).2) := run_of_toOption (by decide +kernel)
  have hlinked : (waitingDesk none).ledger.Linked := by
    intro sid x rid hx
    cases hx
  have hiff := fill_conserves_iff hone hlinked rfl rfl (by decide) hrun
  refine hiff.2 ?_
  unfold Desk.conserves
  decide +kernel

/-- a hundred requests of another country, and a newer one for the agent. -/
def crowdedDesk : Desk :=
  { waitingDesk none with
    conversations := ⟨102, fun i => if 0 < i ∧ i < 102 then
      some ⟨none, true, "t", "web", some ⟨"t", some (if i = 101 then "DE" else "FR"), "web", none⟩,
        some i, .requested, none, true, some 0, none⟩ else none, fun i hi => if_neg (by omega)⟩
    requests := ⟨102, fun i => if 0 < i ∧ i < 102 then some (HandoffRequest.new i none i) else none,
      fun i hi => if_neg (by omega)⟩ }

/-- **the agent is left with three free places beside its request**. -/
theorem crowd_starves : (∀ cid, crowdedDesk.OneOpen cid) ∧ crowdedDesk.ledger.Linked ∧
    crowdedDesk.agentState 1 = some onlineAgent ∧
    fillAgentCapacity 1 crowdedDesk = (.ok [], (fillAgentCapacity 1 crowdedDesk).2) ∧
    ¬Filled crowdedDesk 1 onlineAgent [] (fillAgentCapacity 1 crowdedDesk).2 := by
  have hlinked : crowdedDesk.ledger.Linked := by
    intro sid x rid hx
    cases hx
  refine ⟨?_, hlinked, rfl, ?_, ?_⟩
  · have hrow : ∀ i q, crowdedDesk.requests.get? i = some q → q.conversationId = i := by
      intro i q hq
      change (if 0 < i ∧ i < 102 then some (HandoffRequest.new i none i) else none) = some q at hq
      split_ifs at hq
      cases hq
      rfl
    intro cid i j q r hq hr hqc hrc _ _
    rw [← hrow i q hq, ← hrow j r hr, hqc, hrc]
  · exact run_of_toOption (by decide +kernel)
  · intro h
    have hfree : (fillAgentCapacity 1 crowdedDesk).2.activeAgentLoad 1 = 0 := by decide +kernel
    have hwaits : (fillAgentCapacity 1 crowdedDesk).2.eligible 1 = [101] := by decide +kernel
    have hserved := h.served
    rw [hfree, hwaits] at hserved
    exact absurd hserved (by decide)

end NexusHelpdesk.Handoff
