import NexusHelpdesk.Handoff.Waiting

/-!
# Filling the capacity of an agent

`fill_agent_capacity` takes waiting text requests for an agent until its capacity is used up or
`_eligible_text_request_for_agent` finds none among the first hundred.

* `scanTextQueue_spec`, `eligibleTextRequestForAgent_spec`: what the scan finds;
* `assignHandoffToAgent_takes`, `assignHandoffToAgent_breaks`: the two ends of one assignment;
* `fillText_spec`: the run of the loop;
* `fill_conserves_iff`: **it assigns the oldest eligible requests and ends, and it leaves no free
  place beside an eligible request exactly if the line is `Conserving`**.
-/

namespace NexusHelpdesk.Handoff
open Lib

/-! ## the scan -/

/-- the agent is an authorised candidate. -/
def Seat.may (s : Seat) : Bool := s.verdict = some true

section Scan
variable {d t : Desk} {uid rid cid : ℕ} {r : HandoffRequest} {rows : List (ℕ × HandoffRequest)}
  {x : ℕ × HandoffRequest} {o : Option (ℕ × ℕ)}

lemma scanTextQueue_cons {k : ConversationControl}
    (hk : (d.conversations.get? r.conversationId).bind (·.control) = some k) :
    scanTextQueue uid ((rid, r) :: rows) d =
      match askCandidate uid rid k true d with
      | (.error e, t) => (.error e, t)
      | (.ok (_, true), t) => (.ok (some (rid, r.conversationId)), t)
      | (.ok (_, false), t) => scanTextQueue uid rows t := by
  conv_lhs => unfold scanTextQueue
  unfold askCandidate
  rw [Txn.run_bind, Txn.run_read, hk]
  simp only [Txn.run_bind]
  cases hplan : ensureHandoffRoutingPlan rid d with
  | mk p t =>
    cases p with
    | error e => rfl
    | ok plan =>
      dsimp only
      cases hauth : candidateAuthorized plan k uid .text true t with
      | mk a u =>
        cases a with
        | error e => rfl
        | ok v => cases v <;> rfl

def Desk.Seated (d : Desk) (uid : ℕ) (x : ℕ × HandoffRequest) : Prop :=
  ∃ q, d.requests.get? x.1 = some q ∧ q.conversationId = x.2.conversationId ∧
    d.waits uid x.1 q = true

lemma Desk.Seated.congr (h : d.Seated uid x) (ho : t.outlook uid = d.outlook uid)
    (hc : t.core = d.core) : t.Seated uid x := by
  obtain ⟨q, hq, hconv, hw⟩ := h
  obtain ⟨p, hp⟩ := request_of_core hc hq
  refine ⟨_, hp, hconv, ?_⟩
  obtain ⟨-, h2⟩ := Prod.mk.inj ho
  have hseat := congrFun (Prod.mk.inj h2).1 x.1
  obtain ⟨c, k, -, -, hs⟩ := seat_of_waits hw
  unfold Desk.seatAt at hseat
  rw [hp, hq] at hseat
  exact waits_of_seat (hseat.trans hs)

lemma Desk.Seated.ask (h : d.Seated uid x) :
    ∃ k s, (d.conversations.get? x.2.conversationId).bind (·.control) = some k ∧
      d.seatAt uid x.1 = some s ∧
      match s.verdict with
      | none => ∃ e, (askCandidate uid x.1 k true d).1 = .error e
      | some v => ∃ plan, (askCandidate uid x.1 k true d).1 = .ok (plan, v) := by
  obtain ⟨q, hq, hconv, hw⟩ := h
  obtain ⟨c, k, hc, hk, hs⟩ := seat_of_waits hw
  refine ⟨k, ⟨q.requestedAt, d.verdict uid x.1 q k true,
    d.verdict uid x.1 q (c.ensuredControl d.scopeCountry) false = some true⟩, ?_, ?_, ?_⟩
  · rw [← hconv, hc]
    exact hk
  · unfold Desk.seatAt
    rw [hq]
    exact hs
  · have hask := askCandidate_eq uid k true hq
    dsimp only
    cases hv : d.verdict uid x.1 q k true with
    | none =>
      rw [hv] at hask
      exact hask
    | some v =>
      rw [hv] at hask
      obtain ⟨plan, hplan, -⟩ := hask
      exact ⟨plan, hplan⟩

lemma scanTextQueue_spec (hrows : ∀ x ∈ rows, d.Seated uid x)
    (h : scanTextQueue uid rows d = (.ok o, t)) :
    t.outlook uid = d.outlook uid ∧ t.core = d.core ∧
      o = (rows.find? fun x => (d.seatAt uid x.1).any (·.may)).map fun x =>
        (x.1, x.2.conversationId) := by
  induction rows generalizing d with
  | nil =>
    cases h
    exact ⟨rfl, rfl, rfl⟩
  | cons x rows ih =>
    obtain ⟨k, s, hk, hs, hask⟩ := (hrows x (List.mem_cons_self ..)).ask
    rw [scanTextQueue_cons hk] at h
    have hlooks := looks_askCandidate uid uid x.1 k true d
    have hcore : (askCandidate uid x.1 k true d).2.core = d.core :=
      Txn.Fixes.bind (fixes_ensureHandoffRoutingPlan x.1) (fun plan =>
        Txn.Fixes.bind (fixes_candidateAuthorized plan k uid _ true) fun _ => Txn.Fixes.pure) d
    cases hrun : askCandidate uid x.1 k true d with
    | mk a u =>
      rw [hrun] at h hask hlooks hcore
      dsimp only at hlooks hcore
      cases hv : s.verdict with
      | none =>
        rw [hv] at hask
        obtain ⟨e, he⟩ := hask
        cases he
        cases h
      | some v =>
        rw [hv] at hask
        obtain ⟨plan, hplan⟩ := hask
        cases hplan
        have hmay : (d.seatAt uid x.1).any (·.may) = v := by
          rw [hs]
          show decide (s.verdict = some true) = v
          rw [hv]
          cases v <;> rfl
        cases v with
        | true =>
          cases h
          refine ⟨hlooks, hcore, ?_⟩
          rw [List.find?_cons, hmay]
          rfl
        | false =>
          obtain ⟨ho, hc, hfind⟩ := ih
            (fun y hy => (hrows y (List.mem_cons_of_mem _ hy)).congr hlooks hcore) h
          refine ⟨ho.trans hlooks, hc.trans hcore, ?_⟩
          have hseat : u.seatAt uid = d.seatAt uid := (Prod.mk.inj (Prod.mk.inj hlooks).2).1
          rw [hseat] at hfind
          rw [List.find?_cons, hmay]
          exact hfind

/-- **the first of the first hundred in line whom the agent may serve**. -/
lemma eligibleTextRequestForAgent_spec (h : eligibleTextRequestForAgent uid d = (.ok o, t)) :
    t.outlook uid = d.outlook uid ∧ t.core = d.core ∧
      match o with
      | none => ∀ x ∈ (d.lineup uid).take 100, x.2.may = false
      | some (rid, cid) => (∃ q, d.requests.get? rid = some q ∧ q.conversationId = cid) ∧
          ∃ front s rest, d.lineup uid = front ++ (rid, s) :: rest ∧ front.length < 100 ∧
            (∀ x ∈ front, x.2.may = false) ∧ s.may = true := by
  unfold eligibleTextRequestForAgent at h
  rw [Txn.run_bind, Txn.run_read] at h
  have hrow : ∀ x ∈ (d.textQueue uid).take 100,
      d.requests.get? x.1 = some x.2 ∧ d.waits uid x.1 x.2 = true := by
    intro x hx
    have hmem := (List.mem_insertionSort _).1 (List.mem_of_mem_take hx)
    exact (Table.mem_select _).1 hmem
  have hseats : ∀ x ∈ (d.textQueue uid).take 100, d.Seated uid x := by
    intro x hx
    exact ⟨x.2, (hrow x hx).1, rfl, (hrow x hx).2⟩
  obtain ⟨ho, hc, hfind⟩ := scanTextQueue_spec hseats h
  have hmay : ∀ x ∈ (d.textQueue uid).take 100,
      (d.seatAt uid x.1).any (·.may) = (d.seated uid x).2.may := by
    intro x hx
    obtain ⟨c, k, -, -, hs⟩ := seat_of_waits (hrow x hx).2
    unfold Desk.seatAt Desk.seated
    rw [(hrow x hx).1]
    show (d.seat uid x.1 x.2).any _ = _
    rw [hs]
    rfl
  have hline : ((d.textQueue uid).take 100).map (d.seated uid) = (d.lineup uid).take 100 := by
    rw [List.map_take, textQueue_seated]
  refine ⟨ho, hc, ?_⟩
  cases hf : ((d.textQueue uid).take 100).find? fun x => (d.seatAt uid x.1).any (·.may) with
  | none =>
    rw [hf] at hfind
    subst hfind
    intro y hy
    rw [← hline] at hy
    obtain ⟨x, hx, rfl⟩ := List.mem_map.1 hy
    rw [← hmay x hx]
    simpa using List.find?_eq_none.1 hf x hx
  | some x =>
    rw [hf] at hfind
    subst hfind
    obtain ⟨hx, front, rest, hsplit, hfront⟩ := List.find?_eq_some_iff_append.1 hf
    have hmem : x ∈ (d.textQueue uid).take 100 := by
      rw [hsplit]
      exact List.mem_append_right _ (List.mem_cons_self ..)
    refine ⟨⟨x.2, (hrow x hmem).1, rfl⟩, front.map (d.seated uid), (d.seated uid x).2,
      rest.map (d.seated uid) ++ (d.lineup uid).drop 100, ?_, ?_, ?_, ?_⟩
    · conv_lhs => rw [← List.take_append_drop 100 (d.lineup uid), ← hline, hsplit]
      rw [List.map_append, List.map_cons, List.append_assoc]
      rfl
    · have hlen := congrArg List.length hsplit
      rw [List.length_take, List.length_append, List.length_cons] at hlen
      rw [List.length_map]
      omega
    · intro y hy
      obtain ⟨z, hz, rfl⟩ := List.mem_map.1 hy
      have hzmem : z ∈ (d.textQueue uid).take 100 := by
        rw [hsplit]
        exact List.mem_append_left _ hz
      rw [← hmay z hzmem]
      simpa using hfront z hz
    · rw [← hmay x hmem]
      exact hx

end Scan

/-! ## one assignment -/

def Desk.ensured (d : Desk) (cid : ℕ) : Desk :=
  d.setConversation cid fun c => { c with control := some (c.ensuredControl d.scopeCountry) }

/-- the agent is there, and the requests and calls are related. -/
structure Ready (uid : ℕ) (st : AgentState) (d : Desk) : Prop where
  related : d.Related
  agent : d.agentState uid = some st
  online : st.status = .online
  fresh : st.heartbeatIsFresh d.now = true

section Assign
variable {d e t : Desk} {uid rid cid i : ℕ} {st : AgentState} {q : HandoffRequest}
  {c : Conversation} {s : Seat}

lemma seatAt_of_status (hq : d.requests.get? i = some q) (hst : q.status ≠ .requested) :
    d.seatAt uid i = none := by
  unfold Desk.seatAt
  rw [hq]
  cases hs : d.seat uid i q with
  | none => exact hs
  | some s => exact absurd (waits_iff.1 (waits_of_seat hs)).1 hst

lemma seatAt_away (h : SameGround e t uid) (hreq : t.requests.get? i = e.requests.get? i)
    (hconv : ∀ j, j ≠ cid → t.conversations.get? j = e.conversations.get? j)
    (hs : t.sessions = e.sessions)
    (hcid : ∀ q, e.requests.get? i = some q → q.conversationId = cid → q.status ≠ .requested) :
    t.seatAt uid i = e.seatAt uid i := by
  cases hq : e.requests.get? i with
  | none =>
    unfold Desk.seatAt
    rw [hreq, hq]
    rfl
  | some q =>
    by_cases hc : q.conversationId = cid
    · rw [seatAt_of_status (hreq.trans hq) (hcid q hq hc), seatAt_of_status hq (hcid q hq hc)]
    · unfold Desk.seatAt
      rw [hreq, hq]
      refine h.seat (hconv _ hc) ?_
      unfold Desk.hasOpenVoice
      rw [hs]

lemma loadAt_congr (hreq : t.requests.get? i = e.requests.get? i)
    (hopen : ∀ j, t.conversationOpen j = e.conversationOpen j) (hs : t.sessions = e.sessions) :
    t.loadAt uid i = e.loadAt uid i := by
  unfold Desk.loadAt Desk.hasOpenVoice
  rw [hreq, hs]
  simp only [hopen]

lemma ensureConversationControl_run (hc : d.conversations.get? cid = some c) :
    ensureConversationControl cid d = (.ok (c.ensuredControl d.scopeCountry), d.ensured cid) := by
  unfold ensureConversationControl
  simp only [Txn.run_bind, Txn.run_read, hc, Txn.run_write, Txn.run_pure]
  rfl

lemma conversationOpen_ensured (j : ℕ) :
    (d.ensured cid).conversationOpen j = d.conversationOpen j := by
  unfold Desk.conversationOpen Desk.ensured Desk.setConversation
  dsimp only
  rw [Table.get?_modify]
  split_ifs
  · cases d.conversations.get? j <;> rfl
  · rfl

lemma load_ensured : (d.ensured cid).activeAgentLoad uid = d.activeAgentLoad uid := by
  unfold Desk.activeAgentLoad
  simp only [conversationOpen_ensured]
  rfl

lemma voiceSession_of_not_hasOpenVoice (h : d.hasOpenVoice cid = false) :
    d.voiceSession cid = none := by
  unfold Desk.hasOpenVoice Table.count at h
  rw [decide_eq_false_iff_not, not_lt, Nat.le_zero, List.length_eq_zero_iff] at h
  unfold Desk.voiceSession
  rw [h]
  rfl

lemma scenario_acceptHandoff (tid : ℕ) :
    ((d.acceptHandoff rid cid uid none).tickets.get? tid).bind (·.scenario) =
      (d.tickets.get? tid).bind (·.scenario) := by
  unfold Desk.acceptHandoff Desk.setTicket
  dsimp only
  split
  · rfl
  · dsimp only
    rw [Table.get?_modify]
    split_ifs
    · show ((d.tickets.get? tid).map _).bind _ = _
      cases d.tickets.get? tid <;> rfl
    · rfl

lemma sessions_acceptHandoff : (d.acceptHandoff rid cid uid none).sessions = d.sessions := by
  unfold Desk.acceptHandoff Desk.setTicket
  dsimp only
  split
  · rfl
  · rfl

lemma ground_acceptHandoff : SameGround d (d.acceptHandoff rid cid uid none) uid := by
  have hfields : (d.acceptHandoff rid cid uid none).now = d.now ∧
      (d.acceptHandoff rid cid uid none).scopeCountry = d.scopeCountry ∧
      (d.acceptHandoff rid cid uid none).users = d.users ∧
      (d.acceptHandoff rid cid uid none).declined = d.declined := by
    unfold Desk.acceptHandoff Desk.setTicket
    dsimp only
    split
    · exact ⟨rfl, rfl, rfl, rfl⟩
    · exact ⟨rfl, rfl, rfl, rfl⟩
  obtain ⟨hnow, hcountry, husers, hdeclined⟩ := hfields
  refine ⟨hnow, hcountry, ?_, hdeclined, scenario_acceptHandoff⟩
  unfold Desk.user
  rw [husers]

lemma conversationOpen_acceptHandoff (j : ℕ) :
    (d.acceptHandoff rid cid uid none).conversationOpen j = d.conversationOpen j := by
  unfold Desk.conversationOpen
  rw [conversations_acceptHandoff, Table.get?_modify]
  split_ifs
  · cases d.conversations.get? j <;> rfl
  · rfl

lemma Primitives.assignHandoffToAgent_accepts (hready : Ready uid st d)
    (hc : d.conversations.get? cid = some c)
    (hscope : (d.user uid).hasScope (c.ensuredControl d.scopeCountry) = true)
    (hq : d.requests.get? rid = some q) (hst : q.status = .requested)
    (hvoice : d.hasOpenVoice cid = false)
    (hload : d.activeAgentLoad uid < st.maxConcurrentConversations) :
    Primitives.assignHandoffToAgent rid cid uid none d =
      (.ok (), (d.ensured cid).acceptHandoff rid cid uid none) := by
  have hagent : getOrCreateAgentState uid d = (.ok st, d) := by
    unfold getOrCreateAgentState
    rw [Txn.run_bind, Txn.run_read, hready.agent]
    rfl
  have hc' : (d.ensured cid).conversations.get? cid =
      some { c with control := some (c.ensuredControl d.scopeCountry) } := by
    show (d.conversations.modify cid _).get? cid = _
    rw [Table.get?_modify_self, hc]
    rfl
  have hassign : (d.ensured cid).assignable rid cid uid st none = .ok none := by
    have hvoice' : (d.ensured cid).voiceSession cid = none :=
      voiceSession_of_not_hasOpenVoice hvoice
    unfold Desk.assignable
    rw [show (d.ensured cid).requests.get? rid = some q from hq, hc']
    simp only [hst, ne_eq, not_true_eq_false, if_false, hvoice', load_ensured,
      not_le.2 hload]
  have hon : (st.status = .online && st.heartbeatIsFresh d.now : Bool) = true := by
    rw [hready.online, hready.fresh]
    rfl
  unfold Primitives.assignHandoffToAgent require
  rw [Txn.run_bind, hagent]
  simp only [Txn.run_bind, Txn.run_read, hon]
  simp only [Txn.refuseUnless, if_true, Txn.run_pure]
  rw [ensureConversationControl_run hc]
  dsimp only
  rw [show (d.ensured cid).user uid = d.user uid from rfl, hscope]
  simp only [if_true, Txn.run_pure, Txn.run_check, hassign, Txn.run_write]

lemma assignHandoffToAgent_run (hc : d.conversations.get? cid = some c)
    (hvoice : d.hasOpenVoice cid = false) :
    assignHandoffToAgent rid cid uid none d =
      match askCandidate uid rid (c.ensuredControl d.scopeCountry) false (d.ensured cid) with
      | (.error e, t) => (.error e, t)
      | (.ok (plan, false), t) => (.error (.http 403 "agent_scenario_scope_not_authorized"), t)
      | (.ok (plan, true), t) => (do
          Primitives.assignHandoffToAgent rid cid uid none
          recordCandidateAttempt plan uid .text
          markPlanAssigned plan uid : Op Unit) t := by
  have hvoice' : (d.ensured cid).voiceSession cid = none := voiceSession_of_not_hasOpenVoice hvoice
  unfold assignHandoffToAgent askCandidate
  rw [Txn.run_bind, ensureConversationControl_run hc]
  simp only [Txn.run_bind, Txn.run_read, hvoice']
  cases hplan : ensureHandoffRoutingPlan rid (d.ensured cid) with
  | mk p t =>
    cases p with
    | error e => rfl
    | ok plan =>
      dsimp only
      simp only [Option.isSome_none, Bool.false_eq_true, if_false]
      cases hauth :
        candidateAuthorized plan (c.ensuredControl d.scopeCountry) uid .text false t with
      | mk a u =>
        cases a with
        | error e => rfl
        | ok v => cases v <;> rfl

lemma settlePlan_run (uid : ℕ) {plan : Option ℕ} (hplan : plan = none ∨ plan = some rid) :
    ∃ t, (do recordCandidateAttempt plan uid .text; markPlanAssigned plan uid : Op Unit) d =
        (.ok (), t) ∧ t.unplanned = d.unplanned ∧
      ∀ i, i ≠ rid → t.requests.get? i = d.requests.get? i := by
  rcases hplan with rfl | rfl
  · exact ⟨d, rfl, rfl, fun _ _ => rfl⟩
  · refine ⟨_, rfl, ?_, ?_⟩
    · exact (unplanned_setPlan _ rid _).trans (unplanned_setPlan d rid _)
    · intro i hi
      refine (Table.get?_modify_of_ne _ _ hi).trans ?_
      exact Table.get?_modify_of_ne _ _ hi

lemma related_of_request (h : e.Related) (hq : e.requests.get? rid = some q)
    (hopen : q.status.isOpen = true) (hs : t.sessions = e.sessions)
    (hother : ∀ i, i ≠ rid → t.requests.get? i = e.requests.get? i)
    (hself : ∃ q', t.requests.get? rid = some q' ∧ q'.conversationId = q.conversationId) :
    t.Related := by
  obtain ⟨q', hq', hconv⟩ := hself
  have hback : ∀ i x, t.requests.get? i = some x → x.status.isOpen = true →
      ∃ y, e.requests.get? i = some y ∧ y.conversationId = x.conversationId ∧
        y.status.isOpen = true := by
    intro i x hx hxo
    by_cases hi : i = rid
    · rw [hi, hq'] at hx
      cases hx
      exact ⟨q, by rw [hi, hq], hconv.symm, hopen⟩
    · exact ⟨x, by rw [← hother i hi, hx], rfl, hxo⟩
  refine ⟨?_, ?_⟩
  · intro k i j x y hx hy hxk hyk hxo hyo
    obtain ⟨x', hx', hxc, hxo'⟩ := hback i x hx hxo
    obtain ⟨y', hy', hyc, hyo'⟩ := hback j y hy hyo
    exact h.oneOpen k i j x' y' hx' hy' (hxc.trans hxk) (hyc.trans hyk) hxo' hyo'
  · intro sid x i hx hlink
    rw [hs] at hx
    obtain ⟨r, hr, hrc⟩ := h.linked sid x i hx hlink
    by_cases hi : i = rid
    · rw [hi, hq] at hr
      cases hr
      exact ⟨q', by rw [hi, hq'], hconv.trans hrc⟩
    · exact ⟨r, by rw [hother i hi, hr], hrc⟩

lemma accepted_line (hground : SameGround e t uid) (hnext : t.requests.next = e.requests.next)
    (hrel : e.Related) (hq : e.requests.get? rid = some q) (hst : q.status = .requested)
    (hcid : q.conversationId = cid) (hsess : t.sessions = e.sessions)
    (hconv : ∀ j, j ≠ cid → t.conversations.get? j = e.conversations.get? j)
    (hopen : ∀ j, t.conversationOpen j = e.conversationOpen j)
    (hisOpen : e.conversationOpen cid = true) (hvoice : e.hasOpenVoice cid = false)
    (hother : ∀ i, i ≠ rid → t.requests.get? i = e.requests.get? i)
    (hself : ∃ q', t.requests.get? rid = some q' ∧ q'.conversationId = cid ∧
      q'.status = .accepted ∧ q'.assignedAgentId = some uid) :
    t.seatAt uid = (fun i => if i = rid then none else e.seatAt uid i) ∧
      t.activeAgentLoad uid = e.activeAgentLoad uid + 1 := by
  obtain ⟨q', hq', hc', hst', hagent'⟩ := hself
  refine ⟨?_, ?_⟩
  · funext i
    by_cases hi : i = rid
    · rw [if_pos hi, hi]
      exact seatAt_of_status hq' (by rw [hst']; decide)
    · rw [if_neg hi]
      refine seatAt_away hground (hother i hi) hconv hsess ?_
      intro x hx hxc hxs
      exact hi (hrel.oneOpen cid i rid x q hx hq hxc hcid (by rw [hxs]; rfl) (by rw [hst]; rfl))
  · have hbefore : e.loadAt uid rid = false := by
      unfold Desk.loadAt
      rw [hq, Option.any_some, hst]
      rfl
    have hafter : t.loadAt uid rid = true := by
      unfold Desk.loadAt Desk.hasOpenVoice at *
      rw [hq', Option.any_some, hst', hagent', hc', hopen, hisOpen, hsess, hvoice]
      simp
    have hload : ∀ i, i ≠ rid → t.loadAt uid i = e.loadAt uid i := fun i hi =>
      loadAt_congr (hother i hi) hopen hsess
    have hset : (Finset.range t.requests.next).filter (fun i => t.loadAt uid i = true) =
        insert rid ((Finset.range e.requests.next).filter fun i => e.loadAt uid i = true) := by
      ext i
      rw [Finset.mem_insert, Finset.mem_filter, Finset.mem_filter, hnext]
      by_cases hi : i = rid
      · subst hi
        simp [hafter, Finset.mem_range.2 (Table.lt_next hq)]
      · rw [hload i hi]
        simp [hi]
    have hnew : rid ∉ (Finset.range e.requests.next).filter fun i => e.loadAt uid i = true := by
      simp [hbefore]
    rw [activeAgentLoad_eq, activeAgentLoad_eq, hset, Finset.card_insert_of_notMem hnew]

/-- the state in which the routing service asks for an assignment. -/
structure Queried (d t : Desk) (uid rid cid : ℕ) (c : Conversation) (q : HandoffRequest) :
    Prop where
  ground : SameGround d t uid
  next : t.requests.next = d.requests.next
  seats : ∀ i, i ≠ rid → t.seatAt uid i = d.seatAt uid i
  self : t.seatAt uid rid = (d.ensured cid).seatAt uid rid
  loads : t.loadAt uid = d.loadAt uid
  sessions : t.sessions = d.sessions
  conversation : t.conversations.get? cid =
    some { c with control := some (c.ensuredControl d.scopeCountry) }
  request : ∃ p, t.requests.get? rid = some { q with plan := p }
  related : t.Related

lemma Queried.load (h : Queried d t uid rid cid c q) :
    t.activeAgentLoad uid = d.activeAgentLoad uid := by
  rw [activeAgentLoad_eq, activeAgentLoad_eq, h.loads, h.next]

lemma ground_of_unplanned (uid : ℕ) (h : t.unplanned = d.unplanned) : SameGround d t uid := by
  have hnow : t.unplanned.now = d.unplanned.now := by rw [h]
  have hcountry : t.unplanned.scopeCountry = d.unplanned.scopeCountry := by rw [h]
  have huser : t.unplanned.user uid = d.unplanned.user uid := by rw [h]
  have hdeclined : t.unplanned.declined = d.unplanned.declined := by rw [h]
  have htickets : t.unplanned.tickets = d.unplanned.tickets := by rw [h]
  refine ⟨hnow, hcountry, huser, hdeclined, fun tid => ?_⟩
  exact congrArg (fun x => (Table.get? x tid).bind (·.scenario)) htickets

lemma asked_of_run (uid : ℕ) (hrel : d.Related) (hq : d.requests.get? rid = some q)
    (hst : q.status = .requested) (hcid : q.conversationId = cid)
    (hc : d.conversations.get? cid = some c) (k : ConversationControl) (b : Bool) :
    Queried d (askCandidate uid rid k b (d.ensured cid)).2 uid rid cid c q := by
  have hu := unplanned_askCandidate uid rid k b (d.ensured cid)
  have ho := looks_askCandidate uid uid rid k b (d.ensured cid)
  have hcore : (askCandidate uid rid k b (d.ensured cid)).2.core = d.core := by
    refine (Txn.Fixes.bind (fixes_ensureHandoffRoutingPlan rid) (fun plan =>
      Txn.Fixes.bind (fixes_candidateAuthorized plan k uid _ b) fun _ => Txn.Fixes.pure)
      (d.ensured cid)).trans ?_
    exact core_setConversation d cid fun _ => rfl
  obtain ⟨h1, h2⟩ := Prod.mk.inj ho
  obtain ⟨hseat, hload⟩ := Prod.mk.inj h2
  have hground : SameGround d (d.ensured cid) uid := ⟨rfl, rfl, rfl, rfl, fun _ => rfl⟩
  have hground' := ground_of_unplanned uid hu
  refine ⟨?_, ?_, ?_, ?_, ?_, ?_, ?_, ?_, related_of_core hcore hrel⟩
  · exact ⟨hground'.now, hground'.country, hground'.user, hground'.declined, hground'.scenario⟩
  · exact congrArg (fun x => x.2.2) h1
  · intro i hi
    rw [hseat]
    refine seatAt_away hground rfl (fun j hj => Table.get?_modify_of_ne _ _ hj) rfl ?_
    intro x hx hxc hxs
    exact hi (hrel.oneOpen cid i rid x q hx hq hxc hcid (by rw [hxs]; rfl) (by rw [hst]; rfl))
  · exact congrFun hseat rid
  · rw [hload]
    funext i
    exact loadAt_congr rfl conversationOpen_ensured rfl
  · have hsessions : (askCandidate uid rid k b (d.ensured cid)).2.unplanned.sessions =
        (d.ensured cid).unplanned.sessions := by rw [hu]
    exact hsessions
  · have hconv := congrArg (fun e : Desk => e.conversations.get? cid) hu
    refine hconv.trans ?_
    show (d.conversations.modify cid _).get? cid = _
    rw [Table.get?_modify_self, hc]
    rfl
  · have hreq : (d.ensured cid).requests.get? rid = some q := hq
    exact request_of_unplanned hu hreq

/-- **an authorised request whose control row is in step leaves the line and loads the agent**. -/
lemma assignHandoffToAgent_takes (hready : Ready uid st d)
    (hload : d.activeAgentLoad uid < st.maxConcurrentConversations)
    (hq : d.requests.get? rid = some q) (hcid : q.conversationId = cid)
    (hs : d.seatAt uid rid = some s) (hstep : s.inStep = true) :
    ∃ t, assignHandoffToAgent rid cid uid none d = (.ok (), t) ∧ Ready uid st t ∧
      t.requests.next = d.requests.next ∧
      t.seatAt uid = (fun i => if i = rid then none else d.seatAt uid i) ∧
      t.activeAgentLoad uid = d.activeAgentLoad uid + 1 := by
  unfold Desk.seatAt at hs
  rw [hq] at hs
  have hw := waits_of_seat hs
  obtain ⟨hst, hopen, -, -, hvoice⟩ := waits_iff.1 hw
  obtain ⟨c, k, hc, -, hs'⟩ := seat_of_waits hw
  rw [hcid] at hopen hvoice hc
  cases hs.symm.trans hs'
  have hverdict : (d.ensured cid).verdict uid rid q (c.ensuredControl d.scopeCountry) false =
      some true := of_decide_eq_true hstep
  have hq₁ : (d.ensured cid).requests.get? rid = some q := hq
  have hask := askCandidate_eq uid (c.ensuredControl d.scopeCountry) false hq₁
  rw [hverdict] at hask
  obtain ⟨plan, hrun, hplan⟩ := hask
  have hasked := asked_of_run uid hready.related hq hst hcid hc
    (c.ensuredControl d.scopeCountry) false
  rw [assignHandoffToAgent_run hc hvoice]
  cases hpair : askCandidate uid rid (c.ensuredControl d.scopeCountry) false (d.ensured cid) with
  | mk a t₁ =>
    rw [hpair] at hrun hasked
    dsimp only at hrun hasked
    subst hrun
    obtain ⟨p, hreq⟩ := hasked.request
    have hready₁ : Ready uid st t₁ := by
      refine ⟨hasked.related, ?_, hready.online, ?_⟩
      · unfold Desk.agentState
        rw [hasked.ground.user]
        exact hready.agent
      · rw [hasked.ground.now]
        exact hready.fresh
    have hvoice₁ : t₁.hasOpenVoice cid = false := by
      unfold Desk.hasOpenVoice
      rw [hasked.sessions]
      exact hvoice
    have hscope : (t₁.user uid).hasScope (Conversation.ensuredControl
        { c with control := some (c.ensuredControl d.scopeCountry) } t₁.scopeCountry) = true := by
      rw [hasked.ground.user, hasked.ground.country, Conversation.ensuredControl_idem]
      exact hasScope_of_verdict hverdict
    have haccept := Primitives.assignHandoffToAgent_accepts hready₁ hasked.conversation hscope hreq
      hst hvoice₁ (by rw [hasked.load]; exact hload)
    have hsettle : plan = none ∨ plan = some rid := by
      rw [hplan]
      split_ifs
      · exact Or.inr rfl
      · exact Or.inl rfl
    obtain ⟨t, hrun, hu, hother⟩ := settlePlan_run uid
      (d := (t₁.ensured cid).acceptHandoff rid cid uid none) hsettle
    refine ⟨t, ?_, ?_⟩
    · dsimp only
      rw [Txn.run_bind, haccept]
      exact hrun
    have hother' : ∀ i, i ≠ rid → t.requests.get? i = t₁.requests.get? i := by
      intro i hi
      rw [hother i hi, requests_acceptHandoff]
      exact Table.get?_modify_of_ne _ _ hi
    have hself : ∃ q', t.requests.get? rid = some q' ∧ q'.conversationId = cid ∧
        q'.status = .accepted ∧ q'.assignedAgentId = some uid := by
      have hrow : ∃ x, ((t₁.ensured cid).acceptHandoff rid cid uid none).requests.get? rid =
          some x ∧ x.conversationId = cid ∧ x.status = .accepted ∧
          x.assignedAgentId = some uid := by
        rw [requests_acceptHandoff, Table.get?_modify_self]
        have hreq₂ : (t₁.ensured cid).requests.get? rid = some { q with plan := p } := hreq
        rw [hreq₂]
        exact ⟨_, rfl, hcid, rfl, rfl⟩
      obtain ⟨x, hx, hxc, hxs, hxa⟩ := hrow
      obtain ⟨p', hp'⟩ := request_of_unplanned hu hx
      exact ⟨_, hp', hxc, hxs, hxa⟩
    have hground : SameGround t₁ t uid := by
      have hensured : SameGround t₁ (t₁.ensured cid) uid := ⟨rfl, rfl, rfl, rfl, fun _ => rfl⟩
      exact (hensured.trans ground_acceptHandoff).trans (ground_of_unplanned uid hu)
    have hsess : t.sessions = t₁.sessions := by
      have hlast : t.unplanned.sessions =
          ((t₁.ensured cid).acceptHandoff rid cid uid none).unplanned.sessions := by rw [hu]
      refine hlast.trans ?_
      exact sessions_acceptHandoff
    have hconvs : t.conversations =
        ((t₁.ensured cid).acceptHandoff rid cid uid none).conversations := by
      have hlast : t.unplanned.conversations =
          ((t₁.ensured cid).acceptHandoff rid cid uid none).unplanned.conversations := by rw [hu]
      exact hlast
    have hconv : ∀ j, j ≠ cid → t.conversations.get? j = t₁.conversations.get? j := by
      intro j hj
      rw [hconvs, conversations_acceptHandoff, Table.get?_modify_of_ne _ _ hj]
      exact Table.get?_modify_of_ne _ _ hj
    have hisOpen : ∀ j, t.conversationOpen j = t₁.conversationOpen j := by
      intro j
      have hlast : t.conversationOpen j =
          ((t₁.ensured cid).acceptHandoff rid cid uid none).conversationOpen j := by
        unfold Desk.conversationOpen
        rw [hconvs]
      rw [hlast, conversationOpen_acceptHandoff, conversationOpen_ensured]
    have hopen₁ : t₁.conversationOpen cid = true := by
      unfold Desk.conversationOpen at hopen ⊢
      rw [hasked.conversation]
      rw [hc] at hopen
      exact hopen
    have hnext : t.requests.next = t₁.requests.next := by
      have hlast : t.unplanned.requests.next =
          ((t₁.ensured cid).acceptHandoff rid cid uid none).unplanned.requests.next := by rw [hu]
      refine hlast.trans ?_
      show ((t₁.ensured cid).acceptHandoff rid cid uid none).requests.next = _
      rw [requests_acceptHandoff]
      rfl
    obtain ⟨hseats, hloads⟩ := accepted_line hground hnext hasked.related hreq hst hcid hsess hconv
      hisOpen hopen₁ hvoice₁ hother' hself
    obtain ⟨q', hq', hqc, -⟩ := hself
    have hrel : t.Related := related_of_request hasked.related hreq (by rw [hst]; rfl) hsess hother'
      ⟨q', hq', hqc.trans hcid.symm⟩
    refine ⟨⟨hrel, ?_, hready.online, ?_⟩, hnext.trans hasked.next, ?_, ?_⟩
    · unfold Desk.agentState
      rw [hground.user]
      exact hready₁.agent
    · rw [hground.now]
      exact hready₁.fresh
    · rw [hseats]
      funext i
      by_cases hi : i = rid
      · rw [if_pos hi, if_pos hi]
      · rw [if_neg hi, if_neg hi, hasked.seats i hi]
    · rw [hloads, hasked.load]

/-- **an authorised request whose control row is out of step stays, but admits the agent no more**.
-/
lemma assignHandoffToAgent_breaks (hready : Ready uid st d) (hq : d.requests.get? rid = some q)
    (hcid : q.conversationId = cid) (hs : d.seatAt uid rid = some s) (hmay : s.may = true)
    (hstep : s.inStep = false) :
    ∃ t, assignHandoffToAgent rid cid uid none d =
        (.error (.http 403 "agent_scenario_scope_not_authorized"), t) ∧ t.Related ∧
      t.requests.next = d.requests.next ∧ (∀ i, i ≠ rid → t.seatAt uid i = d.seatAt uid i) ∧
      (∀ s', t.seatAt uid rid = some s' → s'.may = false) ∧
      t.activeAgentLoad uid = d.activeAgentLoad uid := by
  unfold Desk.seatAt at hs
  rw [hq] at hs
  have hw := waits_of_seat hs
  obtain ⟨hst, -, -, -, hvoice⟩ := waits_iff.1 hw
  obtain ⟨c, k, hc, -, hs'⟩ := seat_of_waits hw
  rw [hcid] at hvoice hc
  cases hs.symm.trans hs'
  have hno : (d.ensured cid).verdict uid rid q (c.ensuredControl d.scopeCountry) false =
      some false := by
    have hsome := verdict_isSome (c.ensuredControl d.scopeCountry) false
      (of_decide_eq_true hmay)
    have hne := of_decide_eq_false hstep
    obtain ⟨v, hv⟩ := Option.isSome_iff_exists.1 hsome
    show d.verdict uid rid q (c.ensuredControl d.scopeCountry) false = some false
    rw [hv] at hne ⊢
    cases v with
    | true => exact absurd rfl hne
    | false => rfl
  have hq₁ : (d.ensured cid).requests.get? rid = some q := hq
  have hask := askCandidate_eq uid (c.ensuredControl d.scopeCountry) false hq₁
  rw [hno] at hask
  obtain ⟨plan, hrun, -⟩ := hask
  have hasked := asked_of_run uid hready.related hq hst hcid hc
    (c.ensuredControl d.scopeCountry) false
  rw [assignHandoffToAgent_run hc hvoice]
  cases hpair : askCandidate uid rid (c.ensuredControl d.scopeCountry) false (d.ensured cid) with
  | mk a t =>
    rw [hpair] at hrun hasked
    dsimp only at hrun hasked
    subst hrun
    refine ⟨t, rfl, hasked.related, hasked.next, hasked.seats, ?_, hasked.load⟩
    intro s' hs''
    rw [hasked.self] at hs''
    unfold Desk.seatAt at hs''
    rw [hq₁] at hs''
    have hw' := waits_of_seat hs''
    obtain ⟨c', k', hc', hk', hseat⟩ := seat_of_waits hw'
    cases hs''.symm.trans hseat
    have hrow : (d.ensured cid).conversations.get? q.conversationId =
        some { c with control := some (c.ensuredControl d.scopeCountry) } := by
      rw [hcid]
      show (d.conversations.modify cid _).get? cid = _
      rw [Table.get?_modify_self, hc]
      rfl
    rw [hrow] at hc'
    cases hc'
    cases hk'
    refine decide_eq_false fun hyes => ?_
    have hagain := verdict_of_exclude hyes
    rw [hno] at hagain
    cases hagain

end Assign

/-! ## the loop -/

section Loop
variable {d e t : Desk} {uid rid cid : ℕ} {st : AgentState} {assigned : List ℕ}

lemma Ready.congr (h : Ready uid st d) (ho : t.outlook uid = d.outlook uid)
    (hc : t.core = d.core) : Ready uid st t := by
  obtain ⟨h1, -⟩ := Prod.mk.inj ho
  obtain ⟨hnow, h2⟩ := Prod.mk.inj h1
  refine ⟨related_of_core hc h.related, ?_, h.online, ?_⟩
  · unfold Desk.agentState
    rw [(Prod.mk.inj h2).1]
    exact h.agent
  · rw [hnow]
    exact h.fresh

lemma fillText_full (h : st.maxConcurrentConversations ≤ d.activeAgentLoad uid) (fuel : ℕ) :
    fillTextWith routingOps uid st fuel d = (.ok [], d) := by
  cases fuel with
  | zero => rfl
  | succ n =>
    unfold fillTextWith
    rw [Txn.run_bind, Txn.run_read]
    dsimp only
    rw [if_neg (not_lt.2 h)]
    rfl

lemma fillText_succ (h : d.activeAgentLoad uid < st.maxConcurrentConversations) (n : ℕ) :
    fillTextWith routingOps uid st (n + 1) d =
      match eligibleTextRequestForAgent uid d with
      | (.error e, u) => (.error e, u)
      | (.ok none, u) => (.ok [], u)
      | (.ok (some (rid, cid)), u) =>
        match assignHandoffToAgent rid cid uid none u with
        | (.ok _, t) =>
          match fillTextWith routingOps uid st n t with
          | (.ok rest, t) => (.ok (rid :: rest), t)
          | (.error e, t) => (.error e, t)
        | (.error (.crash e), t) => (.error (.crash e), t)
        | (.error (.conflict _), t) => (.ok [], t)
        | (.error (.http code detail), t) =>
          if code = 409 ∧ detail = "handoff_not_waiting" then fillTextWith routingOps uid st n t
          else (.ok [], t) := by
  conv_lhs => unfold fillTextWith
  rw [Txn.run_bind, Txn.run_read]
  dsimp only
  have hops : routingOps.eligibleTextRequestForAgent uid = eligibleTextRequestForAgent uid := rfl
  rw [if_pos h, Txn.run_bind, hops]
  cases eligibleTextRequestForAgent uid d with
  | mk o u =>
    cases o with
    | error e => rfl
    | ok o =>
      cases o with
      | none => rfl
      | some x =>
        obtain ⟨rid, cid⟩ := x
        have hassign : routingOps.assignHandoffToAgent rid cid uid none =
            assignHandoffToAgent rid cid uid none := rfl
        dsimp only
        rw [Txn.run_bind, Txn.run_attempt, hassign]
        cases assignHandoffToAgent rid cid uid none u with
        | mk a t =>
          cases a with
          | ok _ =>
            dsimp only
            rw [Txn.run_bind]
            cases fillTextWith routingOps uid st n t with
            | mk b t' => cases b <;> rfl
          | error e =>
            cases e with
            | crash e => rfl
            | conflict c => rfl
            | http code detail =>
              dsimp only
              split_ifs <;> rfl

variable {front rest : List (ℕ × Seat)} {s : Seat}

/-- the line after the request at the end of `front` left it. -/
lemma lineup_leave (hline : d.lineup uid = front ++ (rid, s) :: rest)
    (hnext : t.requests.next = d.requests.next)
    (hseats : t.seatAt uid = fun i => if i = rid then none else d.seatAt uid i) :
    t.lineup uid = front ++ rest := by
  have hnodup := nodup_lineupOf d.requests.next (d.seatAt uid)
  change ((d.lineup uid).map Prod.fst).Nodup at hnodup
  rw [hline, List.map_append, List.map_cons, List.nodup_append] at hnodup
  obtain ⟨-, hrest, hne⟩ := hnodup
  have hfront : ∀ x ∈ front, x.1 ≠ rid := fun x hx =>
    hne x.1 (List.mem_map_of_mem hx) rid (List.mem_cons_self ..)
  have hback : ∀ x ∈ rest, x.1 ≠ rid := by
    intro x hx heq
    have hmem : x.1 ∈ rest.map Prod.fst := List.mem_map_of_mem hx
    rw [heq] at hmem
    exact (List.nodup_cons.1 hrest).1 hmem
  unfold Desk.lineup at hline ⊢
  rw [hnext, hseats, lineupOf_leave, hline, List.filter_append, List.filter_cons_of_neg (by simp),
    List.filter_eq_self.2 fun x hx => decide_eq_true (hfront x hx),
    List.filter_eq_self.2 fun x hx => decide_eq_true (hback x hx)]

lemma lineup_stop (hline : d.lineup uid = front ++ (rid, s) :: rest)
    (hnext : t.requests.next = d.requests.next)
    (hseats : ∀ i, i ≠ rid → t.seatAt uid i = d.seatAt uid i)
    (hself : ∀ s', t.seatAt uid rid = some s' → s'.may = false) :
    (∀ x ∈ t.lineup uid, x.2.may = false) ↔ ∀ x ∈ front ++ rest, x.2.may = false := by
  have hnodup := nodup_lineupOf d.requests.next (d.seatAt uid)
  change ((d.lineup uid).map Prod.fst).Nodup at hnodup
  rw [hline, List.map_append, List.map_cons, List.nodup_append] at hnodup
  obtain ⟨-, hrest, hne⟩ := hnodup
  have hothers : ∀ x ∈ front ++ rest, x.1 ≠ rid := by
    intro x hx
    rcases List.mem_append.1 hx with hx | hx
    · exact hne x.1 (List.mem_map_of_mem hx) rid (List.mem_cons_self ..)
    · intro heq
      have hmem : x.1 ∈ rest.map Prod.fst := List.mem_map_of_mem hx
      rw [heq] at hmem
      exact (List.nodup_cons.1 hrest).1 hmem
  constructor
  · intro h x hx
    have hmem : x ∈ d.lineup uid := by
      rw [hline]
      rcases List.mem_append.1 hx with hx | hx
      · exact List.mem_append_left _ hx
      · exact List.mem_append_right _ (List.mem_cons_of_mem _ hx)
    obtain ⟨hlt, hseat⟩ := mem_lineupOf.1 (show (x.1, x.2) ∈ _ from hmem)
    refine h x (mem_lineupOf.2 ⟨by rw [hnext]; exact hlt, ?_⟩)
    rw [hseats x.1 (hothers x hx)]
    exact hseat
  · rintro h ⟨i, s'⟩ hx
    obtain ⟨hlt, hseat⟩ := mem_lineupOf.1 hx
    by_cases hi : i = rid
    · subst hi
      exact hself s' hseat
    · rw [hseats i hi] at hseat
      have hmem : (i, s') ∈ d.lineup uid := mem_lineupOf.2 ⟨by rw [← hnext]; exact hlt, hseat⟩
      rw [hline] at hmem
      refine h (i, s') ?_
      rcases List.mem_append.1 hmem with hmem | hmem
      · exact List.mem_append_left _ hmem
      · rcases List.mem_cons.1 hmem with heq | hmem
        · exact absurd (Prod.mk.inj heq).1 hi
        · exact List.mem_append_right _ hmem

/-- what a run of the loop leaves, by the line in which it starts. -/
structure Served (d t : Desk) (uid : ℕ) (st : AgentState) (assigned : List ℕ) : Prop where
  related : t.Related
  oldest : assigned =
    (((d.lineup uid).filter (·.2.may)).map Prod.fst).take assigned.length
  conserves : (st.maxConcurrentConversations ≤ t.activeAgentLoad uid ∨
      ∀ x ∈ t.lineup uid, x.2.may = false) ↔
    Conserving 100 (fun x : ℕ × Seat => x.2.may) (fun x => x.2.inStep)
      (st.maxConcurrentConversations - d.activeAgentLoad uid) 0 (d.lineup uid)

lemma seat_of_lineup {rid : ℕ}
    (h : d.lineup uid = front ++ (rid, s) :: rest) : d.seatAt uid rid = some s := by
  have hmem : (rid, s) ∈ d.lineup uid := by
    rw [h]
    exact List.mem_append_right _ (List.mem_cons_self ..)
  exact (mem_lineupOf.1 hmem).2

lemma eligible_front {rid : ℕ}
    (hfront : ∀ x ∈ front, x.2.may = false) (hmay : s.may = true) (rest : List (ℕ × Seat)) :
    ((front ++ (rid, s) :: rest).filter fun x => x.2.may).map Prod.fst =
      rid :: (((front ++ rest).filter fun x => x.2.may).map Prod.fst) := by
  have hnone : front.filter (fun x => x.2.may) = [] := by
    rw [List.filter_eq_nil_iff]
    intro x hx
    rw [hfront x hx]
    exact Bool.false_ne_true
  have hcons : ((rid, s) :: rest).filter (fun x => x.2.may) =
      (rid, s) :: rest.filter fun x => x.2.may := List.filter_cons_of_pos hmay
  rw [List.filter_append, List.filter_append, hnone, List.nil_append, List.nil_append, hcons]
  rfl

lemma fillText_spec (fuel : ℕ) : ∀ {d t : Desk} {assigned : List ℕ}, Ready uid st d →
    st.maxConcurrentConversations ≤ d.activeAgentLoad uid + fuel →
    fillTextWith routingOps uid st fuel d = (.ok assigned, t) → Served d t uid st assigned := by
  induction fuel with
  | zero =>
    intro d t assigned hready hfuel h
    rw [fillText_full hfuel] at h
    cases h
    refine ⟨hready.related, rfl, ?_⟩
    rw [Nat.add_zero] at hfuel
    rw [Nat.sub_eq_zero_of_le hfuel]
    exact ⟨fun _ => conserving_zero, fun _ => Or.inl hfuel⟩
  | succ fuel ih =>
    intro d t assigned hready hfuel h
    by_cases hload : st.maxConcurrentConversations ≤ d.activeAgentLoad uid
    · rw [fillText_full hload] at h
      cases h
      refine ⟨hready.related, rfl, ?_⟩
      rw [Nat.sub_eq_zero_of_le hload]
      exact ⟨fun _ => conserving_zero, fun _ => Or.inl hload⟩
    · rw [not_le] at hload
      obtain ⟨n, hn⟩ : ∃ n, st.maxConcurrentConversations - d.activeAgentLoad uid = n + 1 :=
        ⟨_, (Nat.succ_pred_eq_of_pos (Nat.sub_pos_of_lt hload)).symm⟩
      rw [fillText_succ hload] at h
      cases helig : eligibleTextRequestForAgent uid d with
      | mk o u =>
        rw [helig] at h
        cases o with
        | error e => cases h
        | ok o =>
          obtain ⟨ho, hcore, hfound⟩ := eligibleTextRequestForAgent_spec helig
          have hline := lineup_of_outlook ho
          have hloadu := load_of_outlook ho
          have hreadyu := hready.congr ho hcore
          cases o with
          | none =>
            cases h
            refine ⟨hreadyu.related, rfl, ?_⟩
            rw [hn, conserving_blind hfound, hline, hloadu]
            exact or_iff_right (not_le.2 hload)
          | some x =>
            obtain ⟨rid, cid⟩ := x
            obtain ⟨⟨q, hq, hcid⟩, front, s, rest, hsplit, hlen, hfront, hmay⟩ := hfound
            obtain ⟨p, hqu⟩ := request_of_core hcore hq
            have hseat := seat_of_lineup (hline.trans hsplit)
            dsimp only at h
            cases hstep : s.inStep with
            | true =>
              obtain ⟨t', hrun, hready', hnext, hseats, hload'⟩ := assignHandoffToAgent_takes
                hreadyu (by rw [hloadu]; exact hload) hqu hcid hseat hstep
              rw [hrun] at h
              dsimp only at h
              cases hrest : fillTextWith routingOps uid st fuel t' with
              | mk b t'' =>
                rw [hrest] at h
                cases b with
                | error e => cases h
                | ok tail =>
                  cases h
                  have hserved := ih hready' (by omega) hrest
                  have hleave := lineup_leave (hline.trans hsplit) hnext hseats
                  have hn' : st.maxConcurrentConversations - t'.activeAgentLoad uid = n := by
                    omega
                  refine ⟨hserved.related, ?_, ?_⟩
                  · rw [hsplit, eligible_front hfront hmay rest, List.length_cons,
                      List.take_succ_cons]
                    refine congrArg _ ?_
                    conv_lhs => rw [hserved.oldest, hleave]
                  · rw [hserved.conserves, hleave, hn', hn, hsplit]
                    exact (conserving_take hfront hlen hmay hstep).symm
            | false =>
              obtain ⟨t', hrun, hrel, hnext, hseats, hself, hload'⟩ :=
                assignHandoffToAgent_breaks hreadyu hqu hcid hseat hmay hstep
              rw [hrun] at h
              dsimp only at h
              rw [if_neg (by decide)] at h
              cases h
              refine ⟨hrel, rfl, ?_⟩
              rw [hn, hsplit, conserving_stop hfront hlen hmay hstep,
                lineup_stop (hline.trans hsplit) hnext hseats hself]
              exact or_iff_right (by rw [hload', hloadu]; exact not_le.2 hload)

/-- **the loop ends**: more turns than there are free places change nothing. -/
lemma fillText_fuel (n : ℕ) : ∀ {d : Desk} {fuel : ℕ}, Ready uid st d →
    st.maxConcurrentConversations ≤ d.activeAgentLoad uid + n →
    st.maxConcurrentConversations ≤ d.activeAgentLoad uid + fuel →
    fillTextWith routingOps uid st fuel d = fillTextWith routingOps uid st n d := by
  induction n with
  | zero =>
    intro d fuel hready hn hfuel
    rw [fillText_full hn, fillText_full hn]
  | succ n ih =>
    intro d fuel hready hn hfuel
    by_cases hload : st.maxConcurrentConversations ≤ d.activeAgentLoad uid
    · rw [fillText_full hload, fillText_full hload]
    · rw [not_le] at hload
      cases fuel with
      | zero => omega
      | succ fuel =>
        rw [fillText_succ hload, fillText_succ hload]
        cases helig : eligibleTextRequestForAgent uid d with
        | mk o u =>
          cases o with
          | error e => rfl
          | ok o =>
            cases o with
            | none => rfl
            | some x =>
              obtain ⟨rid, cid⟩ := x
              obtain ⟨ho, hcore, ⟨q, hq, hcid⟩, front, s, rest, hsplit, hlen, hfront, hmay⟩ :=
                eligibleTextRequestForAgent_spec helig
              have hreadyu := hready.congr ho hcore
              have hloadu := load_of_outlook ho
              obtain ⟨p, hqu⟩ := request_of_core hcore hq
              have hseat := seat_of_lineup ((lineup_of_outlook ho).trans hsplit)
              dsimp only
              cases hstep : s.inStep with
              | true =>
                obtain ⟨t', hrun, hready', -, -, hload'⟩ := assignHandoffToAgent_takes
                  hreadyu (by rw [hloadu]; exact hload) hqu hcid hseat hstep
                rw [hrun]
                dsimp only
                rw [ih hready' (by omega) (by omega)]
              | false =>
                obtain ⟨t', hrun, -⟩ :=
                  assignHandoffToAgent_breaks hreadyu hqu hcid hseat hmay hstep
                rw [hrun]
                dsimp only
                rw [if_neg (by decide), if_neg (by decide)]

end Loop

end NexusHelpdesk.Handoff
