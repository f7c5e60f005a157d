import NexusHelpdesk.Handoff.Ledger

/-!
# The desk refines the ledger

`Desk.ledger` reads the abstract ledger off the database.  Every write of the handoff services is
one of the moves of the ledger, and everything else leaves the ledger alone.

* `ledger_setRequest`, `ledger_setConversation`, `ledger_setSession`: the squares of the table
  updates;
* `ledger_acceptHandoff`, `ledger_requeue`, `ledger_giveBack`, `ledger_releaseWrapUp`, …: the
  squares of the services' writes;
* `Good L d`: the ledger of `d` is sound and has the rows of `L`;
* `keeps_assignHandoffToAgent`: **an assignment keeps the ledger sound**, also where it fails
  half-way and its caller goes on.
-/

namespace NexusHelpdesk.Handoff
open Lib
open Txn (Keeps)

/-! ## the abstraction -/

def Conversation.entry (c : Conversation) : Snapshot :=
  ⟨c.currentHandoffRequestId, c.handoffStatus, c.activeAgentId⟩

def HandoffRequest.entry (r : HandoffRequest) : Ownership :=
  ⟨r.conversationId, r.status, r.assignedAgentId⟩

def VoiceSession.entry (x : VoiceSession) : CallEntry :=
  ⟨x.conversationId, x.handoffRequestId, x.wrapUpExpiresAt⟩

def Desk.ledger (d : Desk) : Ledger where
  now := d.now
  snapshot := fun i => (d.conversations.get? i).map Conversation.entry
  request := fun i => (d.requests.get? i).map HandoffRequest.entry
  call := fun i => (d.sessions.get? i).map VoiceSession.entry

lemma ledger_core (d : Desk) : d.core.ledger = d.ledger := by
  unfold Desk.ledger Desk.core
  simp only [Table.get?_mapRows, Option.map_map]
  rfl

lemma ledger_request {d : Desk} {rid : ℕ} {r : HandoffRequest} (h : d.requests.get? rid = some r) :
    d.ledger.request rid = some r.entry := congrArg (Option.map HandoffRequest.entry) h

lemma ledger_snapshot {d : Desk} {cid : ℕ} {c : Conversation}
    (h : d.conversations.get? cid = some c) : d.ledger.snapshot cid = some c.entry :=
  congrArg (Option.map Conversation.entry) h

lemma ledger_call {d : Desk} {sid : ℕ} {x : VoiceSession} (h : d.sessions.get? sid = some x) :
    d.ledger.call sid = some x.entry := congrArg (Option.map VoiceSession.entry) h

/-! ## the squares of the table updates -/

/-- an update of a table and the update of what `e` reads off its rows. -/
lemma Table.map_get?_modify {α β : Type} (t : Table α) (i : ℕ) {f : α → α} {e : α → β}
    {g : β → β} (h : ∀ a, t.get? i = some a → e (f a) = g (e a)) :
    (fun j => ((t.modify i f).get? j).map e) =
      fun j => if j = i then ((t.get? j).map e).map g else (t.get? j).map e := by
  funext j
  rw [Table.get?_modify]
  by_cases hj : j = i
  · subst hj
    rw [if_pos rfl, if_pos rfl]
    cases hr : t.get? j with
    | none => rfl
    | some a => exact congrArg some (h a hr)
  · rw [if_neg hj, if_neg hj]

lemma Table.map_get?_insert {α β : Type} (t : Table α) (a : α) (e : α → β) :
    (fun j => ((t.insert a).get? j).map e) =
      fun j => if j = t.next then some (e a) else (t.get? j).map e := by
  funext j
  rw [Table.get?_insert]
  by_cases hj : j = t.next
  · rw [if_pos hj, if_pos hj]
    rfl
  · rw [if_neg hj, if_neg hj]

section Squares
variable (d : Desk)
variable {f : HandoffRequest → HandoffRequest} {g : Ownership → Ownership}

lemma ledger_setRequest_of {rid : ℕ}
    (h : ∀ r, d.requests.get? rid = some r → (f r).entry = g r.entry) :
    (d.setRequest rid f).ledger = d.ledger.setRequest rid g :=
  congrArg (fun r => { d.ledger with request := r }) (Table.map_get?_modify d.requests rid h)

lemma ledger_setRequest (rid : ℕ) (h : ∀ r, (f r).entry = g r.entry) :
    (d.setRequest rid f).ledger = d.ledger.setRequest rid g :=
  ledger_setRequest_of d fun r _ => h r

lemma ledger_setConversation (cid : ℕ) {f : Conversation → Conversation} {g : Snapshot → Snapshot}
    (h : ∀ c, (f c).entry = g c.entry) :
    (d.setConversation cid f).ledger = d.ledger.setSnapshot cid g :=
  congrArg (fun r => { d.ledger with snapshot := r }) (Table.map_get?_modify d.conversations cid fun c _ => h c)

lemma ledger_setSession (sid : ℕ) {f : VoiceSession → VoiceSession} {g : CallEntry → CallEntry}
    (h : ∀ x, (f x).entry = g x.entry) :
    (d.setSession sid f).ledger = d.ledger.setCall sid g :=
  congrArg (fun r => { d.ledger with call := r }) (Table.map_get?_modify d.sessions sid fun x _ => h x)

lemma ledger_setRequest_same (rid : ℕ)
    (h : ∀ r, (f r).entry = r.entry) : (d.setRequest rid f).ledger = d.ledger := by
  rw [ledger_setRequest d rid (g := id) h]
  unfold Ledger.setRequest
  simp

lemma ledger_setConversation_same (cid : ℕ) {f : Conversation → Conversation}
    (h : ∀ c, (f c).entry = c.entry) : (d.setConversation cid f).ledger = d.ledger := by
  rw [ledger_setConversation d cid (g := id) h]
  unfold Ledger.setSnapshot
  simp

lemma ledger_setSession_same (sid : ℕ) {f : VoiceSession → VoiceSession}
    (h : ∀ x, (f x).entry = x.entry) : (d.setSession sid f).ledger = d.ledger := by
  rw [ledger_setSession d sid (g := id) h]
  unfold Ledger.setCall
  simp

lemma ledger_insertRequest (r : HandoffRequest) :
    ({ d with requests := d.requests.insert r } : Desk).ledger =
      d.ledger.addRequest d.requests.next r.entry :=
  congrArg (fun r => { d.ledger with request := r }) (Table.map_get?_insert d.requests r _)

lemma ledger_insertSession (x : VoiceSession) :
    ({ d with sessions := d.sessions.insert x } : Desk).ledger =
      d.ledger.addCall d.sessions.next x.entry :=
  congrArg (fun r => { d.ledger with call := r }) (Table.map_get?_insert d.sessions x _)

@[simp] lemma ledger_setTicket (tid : Option ℕ) (f : Ticket → Ticket) :
    (d.setTicket tid f).ledger = d.ledger := by
  cases tid <;> rfl

@[simp] lemma ledger_cancelOffersOfRequest (rid : ℕ) :
    (d.cancelOffersOfRequest rid).ledger = d.ledger := rfl

end Squares

/-! ## the squares of the writes -/

section Writes
variable (d : Desk)

def CallEntry.linkTo (rid : ℕ) (x : CallEntry) : CallEntry := { x with request := some rid }

lemma ledger_acceptCall (rid sid oid : ℕ) :
    (d.acceptCall rid sid oid).ledger = d.ledger.setCall sid (CallEntry.linkTo rid) :=
  ledger_setSession d sid
    (f := fun x => { x with handoffRequestId := some rid, status := .accepted }) fun _ => rfl

lemma ledger_acceptHandoff (rid cid uid : ℕ) (call : Option (ℕ × ℕ)) :
    (d.acceptHandoff rid cid uid call).ledger =
      match call with
      | none => d.ledger.take rid cid uid
      | some (sid, _) => (d.ledger.take rid cid uid).setCall sid (CallEntry.linkTo rid) := by
  have htake : ((d.setRequest rid fun r =>
      { r with
        status := .accepted
        assignedAgentId := some uid
        acceptedAt := some (r.acceptedAt.getD d.now)
        updatedAt := d.now }).setConversation cid fun c =>
      ((c.snapshot (some rid) .accepted (some uid)).suspendAi d.now).cancelAiTurns).ledger =
      d.ledger.take rid cid uid := by
    rw [ledger_setConversation _ cid (g := fun _ => ⟨some rid, .accepted, some uid⟩) fun _ => rfl,
      ledger_setRequest d rid
        (g := fun r => { r with status := .accepted, agent := some uid }) fun _ => rfl]
    rfl
  unfold Desk.acceptHandoff
  rw [ledger_setTicket]
  rcases call with _ | ⟨sid, oid⟩
  · exact htake
  · exact (ledger_acceptCall _ rid sid oid).trans
      (congrArg (fun L => L.setCall sid (CallEntry.linkTo rid)) htake)

lemma ledger_acceptByHand (rid cid tid uid : ℕ) :
    (d.acceptByHand rid cid tid uid).ledger = d.ledger.take rid cid uid := by
  unfold Desk.acceptByHand
  rw [ledger_setConversation _ cid (g := fun _ => ⟨some rid, .accepted, some uid⟩) fun _ => rfl,
    ledger_setTicket, ledger_setRequest d rid
      (g := fun r => { r with status := .accepted, agent := some uid }) fun _ => rfl]
  rfl

lemma ledger_requeue (rid cid : ℕ) :
    (d.requeue rid cid).ledger = d.ledger.requeue rid cid := by
  unfold Desk.requeue
  rw [ledger_setConversation _ cid (g := fun _ => ⟨some rid, .requested, none⟩) fun _ => rfl,
    ledger_setRequest d rid
      (g := fun r => { r with status := .requested, agent := none }) fun _ => rfl]
  rfl

lemma ledger_giveBack (rid cid : ℕ) :
    (d.giveBack rid cid).ledger = d.ledger.finish rid cid
      (fun r => { r with status := .resumedAi, agent := none }) fun _ => ⟨none, .none, none⟩ := by
  unfold Desk.giveBack
  rw [ledger_setConversation _ cid (g := fun _ => ⟨none, .none, none⟩) fun _ => rfl,
    ledger_setRequest d rid
      (g := fun r => { r with status := .resumedAi, agent := none }) fun _ => rfl]
  rfl

lemma ledger_openRequest (cid rid : ℕ) (session : Option ℕ) :
    (d.openRequest cid rid session).ledger =
      match session with
      | none => d.ledger.setSnapshot cid fun _ => ⟨some rid, .requested, none⟩
      | some sid => (d.ledger.setSnapshot cid fun _ => ⟨some rid, .requested, none⟩).setCall sid
          (CallEntry.linkTo rid) := by
  unfold Desk.openRequest
  cases session with
  | none => exact ledger_setConversation d cid fun _ => rfl
  | some sid =>
    refine (ledger_setConversation _ cid (g := fun _ => ⟨some rid, .requested, none⟩)
      fun _ => rfl).trans ?_
    rw [ledger_setSession d sid (g := CallEntry.linkTo rid) fun _ => rfl]
    rfl

lemma ledger_agentOf (x : VoiceSession) :
    d.ledger.agentOf x.entry = (d.linkedRequest x).bind (·.2.assignedAgentId) := by
  unfold Ledger.agentOf Desk.linkedRequest
  change (x.handoffRequestId.bind d.ledger.request).bind _ = _
  cases x.handoffRequestId with
  | none => rfl
  | some rid =>
    change ((d.requests.get? rid).map HandoffRequest.entry).bind _ =
      ((d.requests.get? rid).map fun r => (rid, r)).bind _
    cases d.requests.get? rid <;> rfl

lemma ledger_closeLinked (x : VoiceSession) :
    (d.closeLinked x (· = .accepted)).ledger = d.ledger.closeAccepted x.entry := by
  unfold Desk.closeLinked Desk.linkedRequest Ledger.closeAccepted
  change _ = match x.handoffRequestId with
    | none => d.ledger
    | some rid => d.ledger.setRequest rid Ledger.Ownership.closeAccepted
  cases hx : x.handoffRequestId with
  | none => rfl
  | some rid =>
    cases hr : d.requests.get? rid with
    | none =>
      simp only [Option.bind_some, hr, Option.map_none]
      refine (Ledger.setRequest_eq_self fun q hq => ?_).symm
      change (d.requests.get? rid).map _ = some q at hq
      rw [hr] at hq
      cases hq
    | some r =>
      simp only [Option.bind_some, hr, Option.map_some]
      by_cases ha : r.status = .accepted
      · rw [if_pos (decide_eq_true ha)]
        refine ledger_setRequest_of d fun q hq => ?_
        rw [hr] at hq
        cases hq
        exact (if_pos ha).symm
      · rw [if_neg (by simpa using ha)]
        refine (Ledger.setRequest_eq_self fun q hq => ?_).symm
        rw [ledger_request hr] at hq
        cases hq
        exact if_neg ha

lemma ledger_releaseWrapUp {sid : ℕ} {x : VoiceSession} (hx : d.sessions.get? sid = some x) :
    (d.releaseWrapUp sid).ledger = d.ledger.release sid x.entry := by
  unfold Desk.releaseWrapUp
  rw [hx]
  change (((d.closeLinked x (· = .accepted)).setSession sid _).setConversation _ _).ledger = _
  rw [ledger_setConversation _ _ (g := fun c =>
      if c.agent = d.ledger.agentOf x.entry then ⟨none, .closed, none⟩ else c) ?_,
    ledger_setSession _ sid (g := fun x => { x with wrapUp := none }) fun _ => rfl,
    ledger_closeLinked]
  · rfl
  · intro c
    rw [ledger_agentOf]
    by_cases hc : c.activeAgentId = (d.linkedRequest x).bind (·.2.assignedAgentId)
    · rw [if_pos hc]
      exact (if_pos hc).symm
    · rw [if_neg hc]
      exact (if_neg hc).symm

end Writes

/-! ## the invariant of a transaction -/

/-- the ledger of `d` is sound and has the rows of `L`. -/
def Good (L : Ledger) (d : Desk) : Prop := d.ledger.Sound ∧ Ledger.Extends L d.ledger

section Good
variable {L : Ledger} {d d' : Desk} {α β : Type}

lemma Good.start (h : d.ledger.Sound) : Good d.ledger d := ⟨h, Ledger.Extends.refl _⟩

lemma Good.belongs (h : Good L d) {rid cid : ℕ} (hb : L.Belongs rid cid) :
    d.ledger.Belongs rid cid := h.2.belongs hb

lemma Good.move (h : Good L d) {L' : Ledger} (he : d'.ledger = L') (hs : L'.Sound)
    (hx : Ledger.Extends d.ledger L') : Good L d' := by
  subst he
  exact ⟨hs, h.2.trans hx⟩

lemma Good.same (h : Good L d) (he : d'.ledger = d.ledger) : Good L d' := by
  unfold Good
  rw [he]
  exact h

lemma Good.rebase (h : Good L d) (h' : Good d.ledger d') : Good L d' := ⟨h'.1, h.2.trans h'.2⟩

lemma ensures_of_fixes {m : Op α} (h : Txn.Fixes Desk.core m) (P : Ledger → Prop) :
    Txn.Ensures (fun d => P d.ledger) m fun _ d => P d.ledger := by
  intro s a t hs hm
  have hc := h s
  rw [hm] at hc
  have hl : t.ledger = s.ledger := by rw [← ledger_core t, ← ledger_core s, hc]
  rw [hl]
  exact hs

lemma keeps_of_fixes {m : Op α} (h : Txn.Fixes Desk.core m) : Keeps (Good L) m := by
  intro s hs
  refine hs.same ?_
  rw [← ledger_core, h s, ledger_core]

end Good

/-! ## assignment -/

section Assign
variable {L : Ledger} {rid cid uid : ℕ} {offer : Option ℕ}
variable {d : Desk} {st : AgentState} {call : Option (ℕ × ℕ)}

lemma voiceSession_some {sid : ℕ} {x : VoiceSession} (h : d.voiceSession cid = some (sid, x)) :
    d.sessions.get? sid = some x ∧ x.conversationId = cid ∧ x.status.isOpen = true := by
  obtain ⟨h1, h2⟩ := (Table.mem_select d.sessions).1 (List.mem_of_getLast? h)
  rw [Bool.and_eq_true, decide_eq_true_iff] at h2
  exact ⟨h1, h2⟩

lemma activeRequest_some {r : HandoffRequest} (h : d.activeRequest cid = some (rid, r)) :
    d.requests.get? rid = some r ∧ r.conversationId = cid ∧ r.status.isOpen = true := by
  obtain ⟨h1, h2⟩ := (Table.mem_select d.requests).1 (List.mem_of_getLast? h)
  rw [Bool.and_eq_true, decide_eq_true_iff] at h2
  exact ⟨h1, h2⟩

lemma activeRequest_none (h : d.activeRequest cid = none) : d.ledger.Idle cid := by
  intro i q hq hc
  obtain ⟨r, hr, rfl⟩ := Option.map_eq_some_iff.1 hq
  by_contra ho
  rw [Bool.not_eq_false] at ho
  have hnil := List.getLast?_eq_none_iff.1 h
  have hmem : (i, r) ∈ d.requests.select fun _ r => r.conversationId = cid && r.status.isOpen := by
    refine (Table.mem_select d.requests).2 ⟨hr, ?_⟩
    rw [Bool.and_eq_true, decide_eq_true_iff]
    exact ⟨hc, ho⟩
  rw [hnil] at hmem
  cases hmem

lemma assignable_ok (h : d.assignable rid cid uid st offer = .ok call) :
    (∃ r, d.requests.get? rid = some r ∧ r.status = .requested) ∧
      ∀ sid oid, call = some (sid, oid) → ∃ x, d.voiceSession cid = some (sid, x) := by
  unfold Desk.assignable at h
  cases hr : d.requests.get? rid with
  | none => simp [hr] at h
  | some r =>
    cases hc : d.conversations.get? cid with
    | none => simp [hr, hc] at h
    | some c =>
      simp only [hr, hc] at h
      by_cases hst : r.status = .requested
      · rw [if_neg (not_not.2 hst)] at h
        refine ⟨⟨r, rfl, hst⟩, ?_⟩
        rintro sid oid rfl
        rcases hv : d.voiceSession cid with _ | ⟨sid', x⟩
        · simp only [hv] at h
          split_ifs at h
          cases h
        · simp only [hv] at h
          cases ho : d.voiceOccupancy sid' uid st offer with
          | error e => simp [ho] at h
          | ok oid' =>
            simp only [ho, Except.ok.injEq, Option.some.injEq, Prod.mk.injEq] at h
            exact ⟨x, by rw [h.1]⟩
      · rw [if_pos hst] at h
        cases h

lemma good_acceptHandoff (hg : Good L d) (hb : L.Belongs rid cid)
    (h : d.assignable rid cid uid st offer = .ok call) :
    Good L (d.acceptHandoff rid cid uid call) := by
  obtain ⟨⟨r, hr, hst⟩, hcall⟩ := assignable_ok h
  have hrow := ledger_request hr
  have hconv : r.entry.conversation = cid := by
    obtain ⟨q, hq, hc⟩ := hg.belongs hb
    rw [hrow] at hq
    cases hq
    exact hc
  have htake : (d.ledger.take rid cid uid).Sound :=
    hg.1.take hrow hconv (by change r.status.isOpen = true; rw [hst]; rfl) uid
  have hext : Ledger.Extends d.ledger (d.ledger.take rid cid uid) := Ledger.Extends.take uid
  rcases call with _ | ⟨sid, oid⟩
  · exact hg.move (ledger_acceptHandoff d rid cid uid none) htake hext
  · obtain ⟨x, hx⟩ := hcall sid oid rfl
    obtain ⟨hx, hxc, -⟩ := voiceSession_some hx
    refine hg.move (ledger_acceptHandoff d rid cid uid (some (sid, oid))) (htake.setCall ?_)
      (hext.trans (Ledger.Extends.setCall fun _ => rfl))
    intro y hy
    have hy : d.ledger.call sid = some y := hy
    rw [ledger_call hx] at hy
    cases hy
    refine ⟨rfl, fun i hi => .inr ?_⟩
    cases hi
    obtain ⟨q, hq, hc⟩ := hext.belongs (hg.belongs hb)
    exact ⟨q, hq, hc.trans hxc.symm⟩

lemma Primitives.keeps_assignHandoffToAgent (hb : L.Belongs rid cid) :
    Keeps (Good L) (Primitives.assignHandoffToAgent rid cid uid offer) :=
  Primitives.assignHandoffToAgent_keeps keeps_of_fixes fun _ _ _ hg hcall =>
    good_acceptHandoff hg hb hcall

lemma keeps_assignHandoffToAgent (hb : L.Belongs rid cid) :
    Keeps (Good L) (assignHandoffToAgent rid cid uid offer) :=
  assignHandoffToAgent_keeps keeps_of_fixes fun _ _ _ hg hcall => good_acceptHandoff hg hb hcall

end Assign

end NexusHelpdesk.Handoff
