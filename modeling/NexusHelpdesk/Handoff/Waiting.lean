import NexusHelpdesk.Handoff.Verdict
import NexusHelpdesk.Handoff.OwnerClose
import NexusHelpdesk.Lib.Stable

/-!
# The waiting line of an agent

What `fill_agent_capacity` sees of the database: the waiting text requests with the verdict on the
agent, and the load of the agent.

* `Seat`, `Desk.seatAt`, `Desk.lineup`: the waiting line, oldest request first;
* `Desk.outlook`: the line and the load, request by request;
* `looks_createNextVoiceOffer`: **ringing agents for calls changes neither**.
-/

namespace NexusHelpdesk.Handoff
open Lib
open Txn (Keeps Fixes)

/-! ## the line -/

/-- a waiting request: the verdict on the agent, and whether it stays one once the control row is
brought in step with its conversation. -/
structure Seat where
  requestedAt : Instant
  verdict : Option Bool
  inStep : Bool

namespace Desk
variable (d : Desk) (uid : ℕ)

def waits (rid : ℕ) (r : HandoffRequest) : Bool :=
  r.status = .requested && d.conversationOpen r.conversationId &&
    ((d.conversations.get? r.conversationId).bind (·.control)).any (·.countryCode.isSome) &&
    !d.declinedBy rid uid && !d.hasOpenVoice r.conversationId

def seat (rid : ℕ) (r : HandoffRequest) : Option Seat :=
  if d.waits uid rid r then
    (d.conversations.get? r.conversationId).bind fun c => c.control.map fun k =>
      ⟨r.requestedAt, d.verdict uid rid r k true,
        d.verdict uid rid r (c.ensuredControl d.scopeCountry) false = some true⟩
  else none

def seatAt (rid : ℕ) : Option Seat := (d.requests.get? rid).bind (d.seat uid rid)

def loadAt (rid : ℕ) : Bool :=
  (d.requests.get? rid).any fun r =>
    r.status = .accepted && r.assignedAgentId = some uid && d.conversationOpen r.conversationId &&
      !d.hasOpenVoice r.conversationId

end Desk

/-- the line of the first `n` requests, oldest first. -/
def lineupOf (n : ℕ) (seat : ℕ → Option Seat) : List (ℕ × Seat) :=
  ((List.range n).filterMap fun i => (seat i).map fun s => (i, s)).insertionSort
    fun a b => a.2.requestedAt ≤ b.2.requestedAt

def Desk.lineup (d : Desk) (uid : ℕ) : List (ℕ × Seat) :=
  lineupOf d.requests.next (d.seatAt uid)

section Lineup
variable {n : ℕ} {seat : ℕ → Option Seat} {i : ℕ} {s : Seat}

lemma mem_lineupOf : (i, s) ∈ lineupOf n seat ↔ i < n ∧ seat i = some s := by
  unfold lineupOf
  rw [List.mem_insertionSort, List.mem_filterMap]
  constructor
  · rintro ⟨j, hj, h⟩
    obtain ⟨s', hs', he⟩ := Option.map_eq_some_iff.1 h
    obtain ⟨rfl, rfl⟩ := Prod.mk.inj he
    exact ⟨List.mem_range.1 hj, hs'⟩
  · rintro ⟨hi, hs⟩
    exact ⟨i, List.mem_range.2 hi, by rw [hs]; rfl⟩

lemma pairwise_seats (n : ℕ) (seat : ℕ → Option Seat) :
    ((List.range n).filterMap fun i => (seat i).map fun s => (i, s)).Pairwise
      fun a b => a.1 < b.1 := by
  refine List.Pairwise.filterMap _ ?_ List.pairwise_lt_range
  intro i j hij a ha b hb
  obtain ⟨s, -, rfl⟩ := Option.map_eq_some_iff.1 ha
  obtain ⟨s', -, rfl⟩ := Option.map_eq_some_iff.1 hb
  exact hij

lemma lineupOf_leave (n i : ℕ) (seat : ℕ → Option Seat) :
    lineupOf n (fun j => if j = i then none else seat j) =
      (lineupOf n seat).filter fun x => x.1 ≠ i := by
  unfold lineupOf
  rw [← insertionSort_filter (fun x : ℕ × Seat => x.2.requestedAt)
    (fun a b hab hba => (lt_asymm hab hba)) (pairwise_seats n seat), List.filter_filterMap]
  refine congrArg _ (List.filterMap_congr fun j _ => ?_)
  dsimp only
  by_cases hj : j = i
  · subst hj
    rw [if_pos rfl]
    cases seat j with
    | none => rfl
    | some s => simp [Option.filter]
  · rw [if_neg hj]
    cases seat j with
    | none => rfl
    | some s => simp [Option.filter, hj]

lemma nodup_lineupOf (n : ℕ) (seat : ℕ → Option Seat) :
    ((lineupOf n seat).map Prod.fst).Nodup := by
  unfold lineupOf
  have hperm := (List.perm_insertionSort (fun a b : ℕ × Seat => a.2.requestedAt ≤ b.2.requestedAt)
    ((List.range n).filterMap fun i => (seat i).map fun s => (i, s))).map Prod.fst
  rw [hperm.nodup_iff]
  refine List.Pairwise.map _ ?_ (pairwise_seats n seat)
  intro a b hab
  exact hab.ne

end Lineup

section Queue
variable {d : Desk} {uid rid : ℕ} {r : HandoffRequest}

lemma waits_iff : d.waits uid rid r = true ↔
    r.status = .requested ∧ d.conversationOpen r.conversationId = true ∧
      ((d.conversations.get? r.conversationId).bind (·.control)).any (·.countryCode.isSome) = true ∧
      d.declinedBy rid uid = false ∧ d.hasOpenVoice r.conversationId = false := by
  unfold Desk.waits
  simp only [Bool.and_eq_true, decide_eq_true_eq, Bool.not_eq_true', and_assoc]

lemma seat_of_waits (h : d.waits uid rid r = true) :
    ∃ c k, d.conversations.get? r.conversationId = some c ∧ c.control = some k ∧
      d.seat uid rid r = some ⟨r.requestedAt, d.verdict uid rid r k true,
        d.verdict uid rid r (c.ensuredControl d.scopeCountry) false = some true⟩ := by
  obtain ⟨k, hk, -⟩ := (Option.any_eq_true _ _).1 (waits_iff.1 h).2.2.1
  obtain ⟨c, hc, hck⟩ := Option.bind_eq_some_iff.1 hk
  refine ⟨c, k, hc, hck, ?_⟩
  unfold Desk.seat
  rw [if_pos h, hc]
  show c.control.map _ = _
  rw [hck]
  rfl

lemma waits_of_seat {s : Seat} (h : d.seat uid rid r = some s) : d.waits uid rid r = true := by
  unfold Desk.seat at h
  by_contra hw
  rw [if_neg hw] at h
  cases h

def Desk.seated (d : Desk) (uid : ℕ) (x : ℕ × HandoffRequest) : ℕ × Seat :=
  (x.1, (d.seat uid x.1 x.2).getD ⟨x.2.requestedAt, none, false⟩)

lemma textQueue_seated (d : Desk) (uid : ℕ) :
    (d.textQueue uid).map (d.seated uid) = d.lineup uid := by
  have hkey : ∀ x ∈ d.requests.select (d.waits uid),
      (d.seated uid x).2.requestedAt = x.2.requestedAt := by
    rintro ⟨rid, r⟩ hx
    obtain ⟨c, k, -, -, hs⟩ := seat_of_waits ((Table.mem_select _).1 hx).2
    unfold Desk.seated
    rw [hs]
    rfl
  have hrows : (d.requests.select (d.waits uid)).map (d.seated uid) =
      (List.range d.requests.next).filterMap fun i => (d.seatAt uid i).map fun s => (i, s) := by
    unfold Table.select Table.rows
    rw [List.filter_filterMap, List.map_filterMap]
    refine List.filterMap_congr fun i _ => ?_
    unfold Desk.seatAt
    show (((d.requests.get? i).map fun a => (i, a)).filter fun r => d.waits uid r.1 r.2).map
      (d.seated uid) = _
    cases d.requests.get? i with
    | none => rfl
    | some r =>
      cases hw : d.waits uid i r with
      | false =>
        have hs : d.seat uid i r = none := by
          unfold Desk.seat
          rw [hw, if_neg Bool.false_ne_true]
        simp [Option.filter, hw, hs]
      | true =>
        obtain ⟨c, k, -, -, hs⟩ := seat_of_waits hw
        simp [Option.filter, hw, hs, Desk.seated]
  unfold Desk.lineup lineupOf
  rw [← hrows]
  change ((d.requests.select (d.waits uid)).insertionSort _).map _ = _
  refine List.map_insertionSort _ _ _ _ ?_
  intro a ha b hb
  rw [hkey a ha, hkey b hb]

end Queue

/-! ## what the line depends on -/

/-- `t` agrees with `d` on what a seat needs besides its request and its conversation. -/
structure SameGround (d t : Desk) (uid : ℕ) : Prop where
  now : t.now = d.now
  country : t.scopeCountry = d.scopeCountry
  user : t.user uid = d.user uid
  declined : t.declined = d.declined
  scenario : ∀ tid, (t.tickets.get? tid).bind (·.scenario) = (d.tickets.get? tid).bind (·.scenario)

section Ground
variable {d t : Desk} {uid rid cid sid : ℕ} {r : HandoffRequest}

lemma SameGround.trans {e : Desk} (h : SameGround d t uid) (h' : SameGround t e uid) :
    SameGround d e uid :=
  ⟨h'.now.trans h.now, h'.country.trans h.country, h'.user.trans h.user,
    h'.declined.trans h.declined, fun tid => (h'.scenario tid).trans (h.scenario tid)⟩

lemma SameGround.verdict (h : SameGround d t uid) (k : ConversationControl) (b : Bool) :
    t.verdict uid rid r k b = d.verdict uid rid r k b := by
  have hv : verifiedPlan t rid r = verifiedPlan d rid r := by
    unfold verifiedPlan
    simp only [h.scenario]
  unfold Desk.verdict
  rw [hv, h.user, h.now]

lemma SameGround.waits (h : SameGround d t uid)
    (hconv : t.conversations.get? r.conversationId = d.conversations.get? r.conversationId)
    (hvoice : t.hasOpenVoice r.conversationId = d.hasOpenVoice r.conversationId) :
    t.waits uid rid r = d.waits uid rid r := by
  unfold Desk.waits Desk.conversationOpen Desk.declinedBy
  rw [hconv, hvoice, h.declined]

lemma SameGround.seat (h : SameGround d t uid)
    (hconv : t.conversations.get? r.conversationId = d.conversations.get? r.conversationId)
    (hvoice : t.hasOpenVoice r.conversationId = d.hasOpenVoice r.conversationId) :
    t.seat uid rid r = d.seat uid rid r := by
  unfold Desk.seat
  simp only [h.waits hconv hvoice, hconv, h.verdict, h.country]

/-- the clock, the agent, the waiting line and the load of the agent. -/
def Desk.outlook (d : Desk) (uid : ℕ) :
    (Instant × User × ℕ) × (ℕ → Option Seat) × (ℕ → Bool) :=
  ((d.now, d.user uid, d.requests.next), d.seatAt uid, d.loadAt uid)

lemma lineup_of_outlook (h : t.outlook uid = d.outlook uid) : t.lineup uid = d.lineup uid := by
  obtain ⟨h1, h2⟩ := Prod.mk.inj h
  obtain ⟨hseat, -⟩ := Prod.mk.inj h2
  have hnext : t.requests.next = d.requests.next := congrArg (fun x => x.2.2) h1
  unfold Desk.lineup
  rw [hseat, hnext]

lemma activeAgentLoad_eq (d : Desk) (uid : ℕ) : d.activeAgentLoad uid =
    ((Finset.range d.requests.next).filter fun i => d.loadAt uid i = true).card :=
  Table.count_eq_card _ _

lemma load_of_outlook (h : t.outlook uid = d.outlook uid) :
    t.activeAgentLoad uid = d.activeAgentLoad uid := by
  obtain ⟨h1, h2⟩ := Prod.mk.inj h
  obtain ⟨-, hload⟩ := Prod.mk.inj h2
  have hnext : t.requests.next = d.requests.next := congrArg (fun x => x.2.2) h1
  rw [activeAgentLoad_eq, activeAgentLoad_eq, hload, hnext]

lemma outlook_setRequest {f : HandoffRequest → HandoffRequest}
    (hf : ∀ r, ∃ p, f r = { r with plan := p })
    (hv : ∀ r, d.requests.get? rid = some r → d.waits uid rid r = true → ∀ k b,
      d.verdict uid rid (f r) k b = d.verdict uid rid r k b) :
    (d.setRequest rid f).outlook uid = d.outlook uid := by
  have hseat : (d.setRequest rid f).seatAt uid = d.seatAt uid := by
    funext i
    unfold Desk.seatAt Desk.setRequest
    dsimp only
    rw [Table.get?_modify]
    by_cases hi : i = rid
    · subst hi
      rw [if_pos rfl]
      cases hr : d.requests.get? i with
      | none => rfl
      | some r =>
        show d.seat uid i (f r) = d.seat uid i r
        have hverdict := hv r hr
        obtain ⟨p, hp⟩ := hf r
        rw [hp] at hverdict ⊢
        have hw : d.waits uid i { r with plan := p } = d.waits uid i r := rfl
        unfold Desk.seat
        rw [hw]
        cases hwaits : d.waits uid i r with
        | false => rfl
        | true =>
          simp only [if_true]
          cases d.conversations.get? r.conversationId with
          | none => rfl
          | some c =>
            show c.control.map _ = c.control.map _
            simp only [hverdict hwaits]
    · rw [if_neg hi]
      rfl
  have hload : (d.setRequest rid f).loadAt uid = d.loadAt uid := by
    funext i
    unfold Desk.loadAt Desk.setRequest
    dsimp only
    rw [Table.get?_modify]
    by_cases hi : i = rid
    · subst hi
      rw [if_pos rfl]
      cases d.requests.get? i with
      | none => rfl
      | some r =>
        obtain ⟨p, hp⟩ := hf r
        show (_ : Bool) = _
        simp only [Option.map_some, Option.any_some, hp]
        rfl
    · rw [if_neg hi]
      rfl
  unfold Desk.outlook
  rw [hseat, hload]
  rfl

lemma outlook_setConversation (uid : ℕ) {f : Conversation → Conversation}
    (hopen : ∀ c, (f c).isOpen = c.isOpen) (hbusy : d.hasOpenVoice cid = true) :
    (d.setConversation cid f).outlook uid = d.outlook uid := by
  have hground : SameGround d (d.setConversation cid f) uid := ⟨rfl, rfl, rfl, rfl, fun _ => rfl⟩
  have hconv : ∀ i, (d.setConversation cid f).conversationOpen i = d.conversationOpen i := by
    intro i
    unfold Desk.conversationOpen Desk.setConversation
    dsimp only
    rw [Table.get?_modify]
    split_ifs
    · cases d.conversations.get? i with
      | none => rfl
      | some c => exact hopen c
    · rfl
  have hseat : (d.setConversation cid f).seatAt uid = d.seatAt uid := by
    funext i
    show (d.requests.get? i).bind _ = (d.requests.get? i).bind _
    cases d.requests.get? i with
    | none => rfl
    | some r =>
      show (d.setConversation cid f).seat uid i r = d.seat uid i r
      by_cases hr : r.conversationId = cid
      · have hno : ∀ e : Desk, e.hasOpenVoice r.conversationId = true → e.seat uid i r = none := by
          intro e he
          cases hs : e.seat uid i r with
          | none => rfl
          | some s =>
            have hw := (waits_iff.1 (waits_of_seat hs)).2.2.2.2
            rw [he] at hw
            cases hw
        have hbusy' : d.hasOpenVoice r.conversationId = true := by
          rw [hr]
          exact hbusy
        rw [hno d hbusy', hno (d.setConversation cid f) hbusy']
      · refine hground.seat ?_ rfl
        exact Table.get?_modify_of_ne _ _ hr
  have hload : (d.setConversation cid f).loadAt uid = d.loadAt uid := by
    funext i
    unfold Desk.loadAt
    simp only [hconv]
    rfl
  unfold Desk.outlook
  rw [hseat, hload]
  rfl

lemma outlook_setSession {f : VoiceSession → VoiceSession}
    (h : ∀ i, (d.setSession sid f).hasOpenVoice i = d.hasOpenVoice i) :
    (d.setSession sid f).outlook uid = d.outlook uid := by
  have hground : SameGround d (d.setSession sid f) uid := ⟨rfl, rfl, rfl, rfl, fun _ => rfl⟩
  have hseat : (d.setSession sid f).seatAt uid = d.seatAt uid := by
    funext i
    show (d.requests.get? i).bind _ = (d.requests.get? i).bind _
    congr 1
    funext r
    exact hground.seat rfl (h _)
  have hload : (d.setSession sid f).loadAt uid = d.loadAt uid := by
    funext i
    unfold Desk.loadAt
    simp only [h]
    rfl
  unfold Desk.outlook
  rw [hseat, hload]
  rfl

end Ground

/-! ## asking changes neither line nor load -/

lemma looks_ensureHandoffRoutingPlan (uid rid : ℕ) :
    Fixes (fun d => Desk.outlook d uid) (ensureHandoffRoutingPlan rid) := by
  intro d
  cases hr : d.requests.get? rid with
  | none =>
    unfold ensureHandoffRoutingPlan
    simp only [Txn.run_bind, Txn.run_read, hr, Txn.run_raise]
  | some r =>
    cases hv : verifiedPlan d rid r with
    | error e => rw [ensureHandoffRoutingPlan_error hr hv]
    | ok o =>
      cases o with
      | none => rw [ensureHandoffRoutingPlan_none hr hv]
      | some p =>
        rw [ensureHandoffRoutingPlan_some hr hv]
        refine outlook_setRequest (fun r => ⟨_, rfl⟩) ?_
        intro r' hr' _ k b
        rw [hr] at hr'
        cases hr'
        exact verdict_verified hv

lemma looks_activateDueGeneration (uid rid : ℕ) :
    Fixes (fun d => Desk.outlook d uid) (activateDueGeneration rid) := by
  intro d
  unfold activateDueGeneration
  simp only [Txn.run_bind, Txn.run_read]
  cases d.plan? rid with
  | none => rfl
  | some p =>
    simp only [Txn.run_bind, Txn.run_write, Txn.run_pure]
    exact outlook_setRequest (fun r => ⟨_, rfl⟩) fun r hr hw k b => verdict_activated

lemma looks_candidateAuthorized (uid : ℕ) (plan : Option ℕ) (k : ConversationControl) (u : ℕ)
    (kind : ChannelKind) (b : Bool) :
    Fixes (fun d => Desk.outlook d uid) (candidateAuthorized plan k u kind b) :=
  candidateAuthorized_fixes (looks_activateDueGeneration uid) plan k u kind b

lemma looks_askCandidate (uid u rid : ℕ) (k : ConversationControl) (b : Bool) :
    Fixes (fun d => Desk.outlook d uid) (askCandidate u rid k b) :=
  Fixes.bind (looks_ensureHandoffRoutingPlan uid rid) fun plan =>
    Fixes.bind (looks_candidateAuthorized uid plan k u _ b) fun _ => Fixes.pure

lemma looks_eligibleVoiceAgents (uid rid : ℕ) (k : ConversationControl) :
    Fixes (fun d => Desk.outlook d uid) (eligibleVoiceAgents rid k) :=
  eligibleVoiceAgents_fixes (looks_activateDueGeneration uid) (looks_ensureHandoffRoutingPlan uid)
    rid k

/-- the desk without the plans, which are all that asking writes. -/
def Desk.unplanned (d : Desk) : Desk :=
  { d with requests := d.requests.mapRows fun _ r => { r with plan := none } }

lemma unplanned_setRequest (d : Desk) (rid : ℕ) {f : HandoffRequest → HandoffRequest}
    (hf : ∀ r, ({ f r with plan := none } : HandoffRequest) = { r with plan := none }) :
    (d.setRequest rid f).unplanned = d.unplanned :=
  congrArg (fun t => { d.unplanned with requests := t }) (Table.mapRows_modify _ _ _ _ hf)

lemma unplanned_setPlan (d : Desk) (rid : ℕ) (f : RoutingPlan → RoutingPlan) :
    (d.setPlan rid f).unplanned = d.unplanned := unplanned_setRequest d rid fun _ => rfl

lemma request_of_unplanned {d t : Desk} (h : t.unplanned = d.unplanned) {i : ℕ}
    {r : HandoffRequest} (hr : d.requests.get? i = some r) :
    ∃ p, t.requests.get? i = some { r with plan := p } := by
  have hrow : t.unplanned.requests.get? i = d.unplanned.requests.get? i := by rw [h]
  unfold Desk.unplanned at hrow
  rw [Table.get?_mapRows, Table.get?_mapRows, hr] at hrow
  obtain ⟨q, hq, he⟩ := Option.map_eq_some_iff.1 hrow
  refine ⟨q.plan, hq.trans (congrArg some ?_)⟩
  cases q
  cases r
  simp only [HandoffRequest.mk.injEq] at he ⊢
  simp [he]

lemma unplanned_ensureHandoffRoutingPlan (rid : ℕ) :
    Fixes Desk.unplanned (ensureHandoffRoutingPlan rid) :=
  ensureHandoffRoutingPlan_fixes (fun d rid _ => unplanned_setRequest d rid fun _ => rfl) rid

lemma unplanned_candidateAuthorized (plan : Option ℕ) (k : ConversationControl) (u : ℕ)
    (kind : ChannelKind) (b : Bool) :
    Fixes Desk.unplanned (candidateAuthorized plan k u kind b) :=
  candidateAuthorized_fixes (activateDueGeneration_fixes unplanned_setPlan) plan k u kind b

lemma unplanned_askCandidate (u rid : ℕ) (k : ConversationControl) (b : Bool) :
    Fixes Desk.unplanned (askCandidate u rid k b) :=
  Fixes.bind (unplanned_ensureHandoffRoutingPlan rid) fun plan =>
    Fixes.bind (unplanned_candidateAuthorized plan k u _ b) fun _ => Fixes.pure

lemma unplanned_eligibleVoiceAgents (rid : ℕ) (k : ConversationControl) :
    Fixes Desk.unplanned (eligibleVoiceAgents rid k) :=
  eligibleVoiceAgents_fixes (activateDueGeneration_fixes unplanned_setPlan)
    unplanned_ensureHandoffRoutingPlan rid k

/-! ## ringing changes neither line nor load -/

/-- the requests and the calls of a desk: at most one request of a conversation is open, and a call
is linked to a request of its own conversation. -/
structure Desk.Related (d : Desk) : Prop where
  oneOpen : ∀ cid, d.OneOpen cid
  linked : ∀ sid x rid, d.sessions.get? sid = some x → x.handoffRequestId = some rid →
    ∃ r, d.requests.get? rid = some r ∧ r.conversationId = x.conversationId

structure Desk.Busy (d : Desk) (sid cid rid : ℕ) : Prop where
  call : ∃ x, d.sessions.get? sid = some x ∧ x.conversationId = cid ∧ x.status.isOpen = true
  request : ∃ r, d.requests.get? rid = some r ∧ r.conversationId = cid

section Busy
variable {d t : Desk} {uid sid cid rid : ℕ}

section
variable (h : d.Busy sid cid rid)
include h

lemma Desk.Busy.voice : d.hasOpenVoice cid = true := by
  obtain ⟨x, hx, hc, ho⟩ := h.call
  unfold Desk.hasOpenVoice Table.count
  rw [decide_eq_true_iff]
  refine List.length_pos_of_mem (a := (sid, x)) ((Table.mem_select _).2 ⟨hx, ?_⟩)
  simp [hc, ho]

lemma Desk.Busy.not_waits {r : HandoffRequest} (hr : d.requests.get? rid = some r) :
    d.waits uid rid r = false := by
  obtain ⟨q, hq, hc⟩ := h.request
  rw [hr] at hq
  cases hq
  cases hw : d.waits uid rid r with
  | false => rfl
  | true =>
    have hvoice := (waits_iff.1 hw).2.2.2.2
    rw [hc, h.voice] at hvoice
    cases hvoice

lemma Desk.Busy.outlook_setPlan (f : RoutingPlan → RoutingPlan) :
    (d.setPlan rid f).outlook uid = d.outlook uid := by
  refine outlook_setRequest (fun r => ⟨_, rfl⟩) ?_
  intro r hr hw
  rw [h.not_waits hr] at hw
  cases hw

lemma Desk.Busy.congr (hs : t.sessions.get? sid = d.sessions.get? sid)
    (hr : ∀ r, d.requests.get? rid = some r → ∃ q, t.requests.get? rid = some q ∧
      q.conversationId = r.conversationId) : t.Busy sid cid rid := by
  obtain ⟨r, hrow, hc⟩ := h.request
  obtain ⟨q, hq, hqc⟩ := hr r hrow
  refine ⟨?_, q, hq, hqc.trans hc⟩
  rw [hs]
  exact h.call

lemma Desk.Busy.ring (i : ℕ) :
    (d.setSession sid fun x => { x with status := .ringing }).hasOpenVoice i =
      d.hasOpenVoice i := by
  obtain ⟨x, hx, -, ho⟩ := h.call
  unfold Desk.hasOpenVoice Desk.setSession Table.count
  dsimp only
  rw [Table.modify_eq_mapRows, Table.select_mapRows, List.length_map]
  have hp : ∀ j (y : VoiceSession), d.sessions.get? j = some y →
      (((if j = sid then { y with status := .ringing } else y).conversationId = i &&
        (if j = sid then { y with status := .ringing } else y).status.isOpen : Bool) =
        (y.conversationId = i && y.status.isOpen)) := by
    intro j y hy
    by_cases hj : j = sid
    · subst hj
      rw [hx] at hy
      cases hy
      rw [if_pos rfl, ho]
      rfl
    · rw [if_neg hj]
  have hsel : d.sessions.select (fun j y =>
      (if j = sid then { y with status := .ringing } else y).conversationId = i &&
        (if j = sid then { y with status := .ringing } else y).status.isOpen) =
      d.sessions.select fun _ y => y.conversationId = i && y.status.isOpen := by
    unfold Table.select
    refine List.filter_congr ?_
    rintro ⟨j, y⟩ hmem
    exact hp j y ((Table.mem_rows _).1 hmem)
  rw [hsel]

end

end Busy

section Ring
variable {o : (Instant × User × ℕ) × (ℕ → Option Seat) × (ℕ → Bool)} {uid sid cid rid : ℕ}
  {plan : Option ℕ}

lemma keeps_ring {α : Type} {m : Op α} (ho : Fixes (fun d => Desk.outlook d uid) m)
    (hu : Fixes Desk.unplanned m) :
    Keeps (fun d => Desk.outlook d uid = o ∧ d.Busy sid cid rid) m := by
  rintro d ⟨hd, hbusy⟩
  refine ⟨(ho d).trans hd, hbusy.congr (congrArg (·.sessions.get? sid) (hu d)) ?_⟩
  intro r hr
  obtain ⟨p, hp⟩ := request_of_unplanned (hu d) hr
  exact ⟨_, hp, rfl⟩

lemma keeps_ensureConversationControl :
    Keeps (fun d => Desk.outlook d uid = o ∧ d.Busy sid cid rid)
      (ensureConversationControl cid) := by
  unfold ensureConversationControl
  refine Keeps.bind Keeps.read fun country => Keeps.bind Keeps.read fun row => ?_
  cases row with
  | none => exact Keeps.raise
  | some c =>
    refine Keeps.bind (Keeps.write ?_) fun _ => Keeps.pure
    rintro d ⟨hd, hbusy⟩
    have hlooks := outlook_setConversation (d := d) uid
      (f := fun c => { c with control := some (c.ensuredControl country) }) (fun _ => rfl)
      hbusy.voice
    exact ⟨hlooks.trans hd, hbusy.call, hbusy.request⟩

lemma ensureHandoffRoutingPlan_answer {d t : Desk}
    (h : ensureHandoffRoutingPlan rid d = (.ok plan, t)) : plan = none ∨ plan = some rid := by
  unfold ensureHandoffRoutingPlan at h
  simp only [Txn.bind_eq_ok, Txn.run_read] at h
  obtain ⟨row, d₁, h1, h⟩ := h
  cases row with
  | none => cases h
  | some r =>
    simp only [Txn.bind_eq_ok] at h
    obtain ⟨p, d₂, -, h⟩ := h
    cases p with
    | none =>
      cases h
      exact Or.inl rfl
    | some p =>
      simp only [Txn.bind_eq_ok] at h
      obtain ⟨_, _, -, h⟩ := h
      cases h
      exact Or.inr rfl

lemma keeps_setPlan (f : Desk → RoutingPlan → RoutingPlan) :
    Keeps (fun d => Desk.outlook d uid = o ∧ d.Busy sid cid rid)
      (Txn.write fun d : Desk => d.setPlan rid (f d) : Op Unit) := by
  refine Keeps.write ?_
  rintro d ⟨hd, hbusy⟩
  refine ⟨(hbusy.outlook_setPlan _).trans hd, hbusy.congr rfl ?_⟩
  intro r hr
  have hrow : (d.setPlan rid (f d)).requests.get? rid =
      some { r with plan := r.plan.map (f d) } := by
    show (d.requests.modify rid _).get? rid = _
    rw [Table.get?_modify_self, hr]
    rfl
  exact ⟨_, hrow, rfl⟩

lemma keeps_ringCandidate (u : ℕ) (x : VoiceSession) (hplan : plan = none ∨ plan = some rid) :
    Keeps (fun d => Desk.outlook d uid = o ∧ d.Busy sid cid rid)
      (ringCandidate sid rid u x plan) := by
  unfold ringCandidate insertOffer
  refine Keeps.bind ?_ fun offer => ?_
  · refine Keeps.bind Keeps.read fun n => Keeps.ite Keeps.pure ?_
    refine Keeps.bind Keeps.read fun oid => ?_
    refine Keeps.bind (Keeps.write ?_) fun _ => Keeps.pure
    rintro d ⟨hd, hbusy⟩
    exact ⟨hd, hbusy.call, hbusy.request⟩
  · cases offer with
    | none => exact Keeps.bind Keeps.read fun _ => Keeps.pure
    | some oid =>
      refine Keeps.bind ?_ fun _ => Keeps.bind (Keeps.write ?_) fun _ => Keeps.pure
      · rcases hplan with rfl | rfl
        · exact Keeps.pure
        · exact keeps_setPlan fun _ p => p.recordAttempt u .voice
      · rintro d ⟨hd, hbusy⟩
        refine ⟨(outlook_setSession hbusy.ring).trans hd, ?_, hbusy.request⟩
        obtain ⟨y, hy, hc, hopen⟩ := hbusy.call
        refine ⟨{ y with status := .ringing }, ?_, hc, rfl⟩
        show (d.sessions.modify sid _).get? sid = _
        rw [Table.get?_modify_self, hy]
        rfl

lemma related_of_core {d t : Desk} (h : t.core = d.core) (hd : d.Related) : t.Related := by
  have hreq : ∀ i q, t.requests.get? i = some q →
      ∃ p, d.requests.get? i = some { q with plan := p } := fun i q hq => request_of_core h.symm hq
  refine ⟨?_, ?_⟩
  · intro cid i j q r hq hr hqc hrc hqo hro
    obtain ⟨p, hp⟩ := hreq i q hq
    obtain ⟨p', hp'⟩ := hreq j r hr
    exact hd.oneOpen cid i j _ _ hp hp' hqc hrc hqo hro
  · intro sid x rid hx hlink
    have hrow : t.core.sessions.get? sid = d.core.sessions.get? sid := by rw [h]
    unfold Desk.core at hrow
    rw [Table.get?_mapRows, Table.get?_mapRows, hx] at hrow
    obtain ⟨y, hy, he⟩ := Option.map_eq_some_iff.1 hrow.symm
    obtain ⟨hconv, hlink', -⟩ := VoiceSession.mk.inj he
    rw [hlink] at hlink'
    obtain ⟨r, hr, hc⟩ := hd.linked sid y rid hy hlink'
    obtain ⟨p, hp⟩ := request_of_core h hr
    exact ⟨_, hp, hc.trans hconv⟩

lemma looks_createNextVoiceOffer (sid : ℕ) :
    Keeps (fun d => Desk.outlook d uid = o ∧ d.Related) (createNextVoiceOffer sid) := by
  rintro d ⟨hd, hrel⟩
  refine ⟨?_, related_of_core (fixes_createNextVoiceOffer sid d) hrel⟩
  unfold createNextVoiceOffer
  rw [Txn.run_bind, Txn.run_read]
  cases hcall : d.waitingCall sid with
  | none => exact hd
  | some y =>
    obtain ⟨x, rid, r⟩ := y
    obtain ⟨hx, hopen, hlink, -⟩ := waitingCall_some hcall
    obtain ⟨q, hq, hc⟩ := hrel.linked sid x rid hx hlink
    have hbusy : d.Busy sid x.conversationId rid := ⟨⟨x, hx, rfl, hopen⟩, q, hq, hc⟩
    refine (Keeps.bind_ensures
      (I := fun d => Desk.outlook d uid = o ∧ d.Busy sid x.conversationId rid)
      (R := fun plan _ => plan = none ∨ plan = some rid)
      (keeps_ring (looks_ensureHandoffRoutingPlan uid rid) (unplanned_ensureHandoffRoutingPlan rid))
      (fun _ _ _ _ h => ensureHandoffRoutingPlan_answer h) (fun plan t ht hplan => ?_)
      d ⟨hd, hbusy⟩).1
    refine Keeps.bind (I := fun d => Desk.outlook d uid = o ∧ d.Busy sid x.conversationId rid)
      Keeps.read (fun ringing => ?_) t ht
    cases ringing with
    | some z => exact Keeps.pure
    | none =>
      refine Keeps.bind Keeps.read fun isOpen => Keeps.ite ?_ Keeps.pure
      refine Keeps.bind keeps_ensureConversationControl fun control => ?_
      refine Keeps.bind (keeps_ring (looks_eligibleVoiceAgents uid rid control)
        (unplanned_eligibleVoiceAgents rid control)) fun candidates => ?_
      cases candidates with
      | nil =>
        refine Keeps.bind ?_ fun _ => Keeps.pure
        rcases hplan with rfl | rfl
        · exact Keeps.pure
        · exact keeps_setPlan fun d p => if p.status = .active then p.retryOrExhaust d.now else p
      | cons u rest => exact keeps_ringCandidate u.1 x hplan

end Ring

end NexusHelpdesk.Handoff
