import NexusHelpdesk.Handoff.Sound.Requests

/-!
# Calls and messages keep the ledger sound

* `declineVoiceOffer_good`, `markTerminal_good`, `createPublicVoiceSession_good`: calls, each with
  the condition under which the snapshot it writes is true;
* `reconcileStaleTextHandoffs_good`: the loop over stale handoffs;
* `addVisitorMessage_good`, `replyToConversation_good`: messages.
-/

namespace NexusHelpdesk.Handoff
open Lib
open Txn (Keeps Ensures)

/-! ## calls -/

section Calls
variable {L : Ledger} {sid uid : ℕ} {cid : ℕ} {setup : CallSetup}

/-- the request an agent declines to serve is still waiting. -/
def Desk.DeclineOk (d : Desk) (sid uid : ℕ) : Prop :=
  (d.offerTo sid uid).isSome = true → ∀ x rid r, d.sessions.get? sid = some x →
    x.handoffRequestId = some rid → d.requests.get? rid = some r → r.status = .requested

lemma callContext_ok {d : Desk} {x : VoiceSession} {rid : ℕ}
    (h : d.callContext sid = .ok (x, rid)) :
    d.sessions.get? sid = some x ∧ x.handoffRequestId = some rid ∧
      ∃ r, d.requests.get? rid = some r := by
  unfold Desk.callContext Desk.linkedRequest at h
  cases hx : d.sessions.get? sid with
  | none => simp [hx] at h
  | some y =>
    simp only [hx] at h
    cases hreq : y.handoffRequestId with
    | none => simp [hreq] at h
    | some i =>
      cases hr : d.requests.get? i with
      | none => simp [hreq, hr] at h
      | some r =>
        cases hc : d.conversations.get? y.conversationId with
        | none => simp [hreq, hr, hc] at h
        | some c =>
          simp only [hreq, hr, hc, Option.bind_some, Option.map_some, Except.ok.injEq,
            Prod.mk.injEq] at h
          obtain ⟨rfl, rfl⟩ := h
          exact ⟨rfl, hreq, r, hr⟩

lemma ledger_declineOffer (d : Desk) (rid cid oid : ℕ) :
    (d.declineOffer sid rid cid oid uid).ledger =
      d.ledger.setSnapshot cid fun c => { c with status := .requested, agent := none } := by
  unfold Desk.declineOffer
  rw [ledger_setConversation _ cid
    (g := fun c => { c with status := .requested, agent := none }) fun _ => rfl,
    ledger_setSession_same _ sid (f := fun x => { x with status := .ringing }) fun _ => rfl]
  rfl

lemma declineVoiceOffer_good :
    Ensures (fun d => Good L d ∧ d.DeclineOk sid uid) (declineVoiceOffer sid uid)
      fun _ => Good L := by
  unfold declineVoiceOffer
  refine Ensures.check_bind fun b => ?_
  obtain ⟨x, rid⟩ := b
  refine Ensures.read_bind fun offer => ?_
  rcases offer with _ | ⟨oid, o⟩
  · refine Ensures.pre (P := Good L) ?_ fun d hd => hd.1.1.1
    refine (Keeps.bind Keeps.read fun n => ?_).ensures
    exact Keeps.ite Keeps.pure Keeps.raise
  · refine Ensures.bind (R := fun _ => Good L) (Ensures.write ?_) fun _ =>
      (Keeps.bind (keeps_of_fixes (fixes_createNextVoiceOffer sid)) fun _ =>
        Keeps.pure).ensures
    rintro d ⟨⟨⟨hg, hok⟩, hctx⟩, hoffer⟩
    obtain ⟨hx, hreq, r, hr⟩ := callContext_ok hctx
    have hst : r.status = .requested := hok (by rw [hoffer]; rfl) x rid r hx hreq hr
    obtain ⟨q, hq, hqc⟩ := hg.1.linked sid x.entry rid (ledger_call hx) hreq
    have hrow := ledger_request hr
    rw [hrow] at hq
    cases hq
    have ho : r.entry.status.isOpen = true := by
      change r.status.isOpen = true
      rw [hst]
      rfl
    refine hg.move (ledger_declineOffer d rid _ oid) (hg.1.reshow hrow hqc ho ?_)
      (Ledger.Extends.setSnapshot _ _)
    intro c hc
    have hcur := ((hg.1.consistent _).open_shown c hc rid _ hrow hqc ho).1
    exact ⟨hcur, hst.symm, fun h => by cases h⟩

def Ledger.EndOk (L : Ledger) (x : CallEntry) : Prop :=
  (∃ rid r, x.request = some rid ∧ L.request rid = some r ∧ r.status.isOpen = true) ∨
    L.Idle x.conversation

def Snapshot.endCall (previous : Option ℕ) (c : Snapshot) : Snapshot :=
  ⟨none, .closed, if previous = none ∨ c.agent = previous then none else c.agent⟩

lemma Ledger.Sound.endCall {x : CallEntry} (h : L.Sound) (hx : L.call sid = some x)
    (hok : L.EndOk x) (previous : Option ℕ) :
    ((match x.request with
      | none => L
      | some rid => L.setRequest rid Ownership.close).setSnapshot x.conversation
        (Snapshot.endCall previous)).Sound := by
  cases hreq : x.request with
  | none =>
    refine h.clear fun _ _ => ⟨rfl, rfl, hok.resolve_left ?_⟩
    rintro ⟨rid, r, h1, -⟩
    rw [hreq] at h1
    cases h1
  | some rid =>
    obtain ⟨r, hr, hrc⟩ := h.linked sid x rid hx hreq
    refine h.close hr hrc (fun _ => ⟨rfl, rfl⟩) fun hclosed => hok.resolve_left ?_
    rintro ⟨i, q, h1, h2, h3⟩
    rw [hreq] at h1
    cases h1
    rw [hr] at h2
    cases h2
    rw [hclosed] at h3
    cases h3

lemma ledger_closeCallRequest (d : Desk) (x : VoiceSession) :
    (d.closeCallRequest x).ledger =
      match x.handoffRequestId with
      | none => d.ledger
      | some rid => d.ledger.setRequest rid Ownership.close := by
  unfold Desk.closeCallRequest Desk.linkedRequest
  cases x.handoffRequestId with
  | none => rfl
  | some rid =>
    refine Eq.trans ?_ (ledger_closeCurrent d rid)
    unfold Desk.closeCurrent
    simp only [Option.bind_some]
    cases d.requests.get? rid <;> rfl

lemma ledger_closeHandoffForTerminalSession (d : Desk) (x : VoiceSession) :
    (d.closeHandoffForTerminalSession x).ledger =
      (match x.handoffRequestId with
      | none => d.ledger
      | some rid => d.ledger.setRequest rid Ownership.close).setSnapshot x.conversationId
        (Snapshot.endCall ((d.linkedRequest x).bind (·.2.assignedAgentId))) := by
  unfold Desk.closeHandoffForTerminalSession
  rw [ledger_setConversation _ _
    (g := Snapshot.endCall ((d.linkedRequest x).bind (·.2.assignedAgentId))) fun _ => rfl,
    ledger_closeCallRequest]

/-- the end of a call that is still open finds its request open or the conversation idle. -/
def Desk.HangUpOk (d : Desk) (sid : ℕ) : Prop :=
  ∀ x, d.sessions.get? sid = some x → x.status.isOpen = true → d.ledger.EndOk x.entry

lemma markTerminal_good {e : CallEnd} :
    Ensures (fun d => Good L d ∧ d.HangUpOk sid) (markTerminal sid e) fun _ => Good L := by
  unfold markTerminal
  refine Ensures.read_bind fun row => ?_
  cases row with
  | none => exact Ensures.raise
  | some x =>
    refine Ensures.when (fun ho => ?_) fun _ d hd => hd.1.1
    refine Ensures.pre (P := fun d => (Good L d ∧ d.ledger.EndOk x.entry) ∧
        d.ledger.call sid = some x.entry) ?_ fun d hd =>
      ⟨⟨hd.1.1, hd.1.2 x hd.2 ho⟩, ledger_call hd.2⟩
    have hfix : ∀ {α : Type} {m : Op α}, Txn.Fixes Desk.core m →
        Ensures (fun d => (Good L d ∧ d.ledger.EndOk x.entry) ∧
            d.ledger.call sid = some x.entry) m
          fun _ d => (Good L d ∧ d.ledger.EndOk x.entry) ∧ d.ledger.call sid = some x.entry :=
      fun h => ensures_of_fixes h fun L' =>
        ((L'.Sound ∧ Ledger.Extends L L') ∧ L'.EndOk x.entry) ∧ L'.call sid = some x.entry
    refine Ensures.bind (hfix Txn.Fixes.read) fun agent => ?_
    refine Ensures.bind (hfix (fixes_wrapUpSeconds agent e)) fun wrapUp => ?_
    refine Ensures.bind (R := fun _ d => Good L d ∧ ∃ y, d.ledger.call sid = some y ∧
      y.request = x.handoffRequestId ∧ y.conversation = x.conversationId ∧ d.ledger.EndOk y)
      (Ensures.write ?_) fun _ => ?_
    · rintro d ⟨⟨hg, hok⟩, hx⟩
      have hl : (d.endSession sid agent e wrapUp).ledger = d.ledger.setCall sid fun x =>
          { x with
            wrapUp :=
              if agent.isSome ∧ e = .ended then
                if 0 < wrapUp then some (d.now + seconds wrapUp) else none
              else x.wrapUp } := ledger_setSession d sid fun _ => rfl
      refine ⟨hg.move hl (hg.1.setCall fun y _ => ⟨rfl, fun i hi => .inl hi⟩)
        (Ledger.Extends.setCall fun _ => rfl), ?_⟩
      rw [hl]
      refine ⟨_, (if_pos rfl).trans (congrArg _ hx), rfl, rfl, ?_⟩
      exact hok
    · refine Ensures.when (fun _ => Ensures.write ?_) fun _ d hd => hd.1
      rintro d ⟨hg, y, hy, hreq, hconv, hok⟩
      have hs := hg.1.endCall hy hok ((d.linkedRequest x).bind (·.2.assignedAgentId))
      rw [hreq, hconv] at hs
      refine hg.move (ledger_closeHandoffForTerminalSession d x) hs ?_
      cases x.handoffRequestId with
      | none => exact Ledger.Extends.setSnapshot _ _
      | some rid => exact Ledger.Extends.finish Ownership.close_conversation _

lemma openVoiceSession_good :
    Ensures (Good L) (openVoiceSession cid setup) fun _ => Good L := by
  unfold openVoiceSession
  refine Ensures.read_bind fun sid => ?_
  refine Ensures.bind (R := fun _ d => Good L d ∧ ∃ x, d.ledger.call sid = some x ∧
    x.conversation = cid) (Ensures.write ?_) fun _ => ?_
  · rintro d ⟨hg, rfl⟩
    have hl := ledger_insertSession d
      { conversationId := cid
        handoffRequestId := none
        status := if setup.aiFirst then .active else .ringing
        expiresAt := some (d.now + seconds setup.sessionTtlSeconds)
        wrapUpExpiresAt := none
        offerTimeoutSeconds := setup.offerTimeoutSeconds }
    have hnone : d.ledger.call d.sessions.next = none := by
      change (d.sessions.get? _).map _ = none
      rw [d.sessions.get?_eq_none_of_le le_rfl]
      rfl
    refine ⟨hg.move hl (hg.1.addCall rfl) (Ledger.Extends.addCall hnone), ?_⟩
    rw [hl]
    exact ⟨_, if_pos rfl, rfl⟩
  · refine Ensures.ite (fun _ => Ensures.pure fun d hd => hd.1) fun _ => ?_
    refine Ensures.bind (R := fun rid d => (Good L d ∧ d.ledger.Belongs rid cid) ∧
      ∃ x, d.ledger.call sid = some x ∧ x.conversation = cid) ?_ fun rid => ?_
    · rintro s rid t ⟨hg, x, hx, hxc⟩ hm
      obtain ⟨ht, hb⟩ := requestHandoff_good s rid t (Good.start hg.1) hm
      obtain ⟨y, hy, hyc⟩ := ht.2.call sid x hx
      exact ⟨⟨hg.rebase ht, hb⟩, y, hy, hyc.trans hxc⟩
    · refine Ensures.bind (R := fun _ => Good L) (Ensures.write ?_) fun _ =>
        Ensures.pure fun d hd => hd
      rintro d ⟨⟨hg, hb⟩, x, hx, hxc⟩
      refine good_link hg hb fun y hy => ?_
      rw [ledger_call hy] at hx
      cases hx
      exact hxc

/-- a call that nobody answered in time. -/
def VoiceSession.isOverdue (x : VoiceSession) (now : Instant) : Prop :=
  (x.status = .created ∨ x.status = .ringing) ∧ x.expiresAt.any (· ≤ now) = true

/-- an overdue call of the conversation ends rightly. -/
def Desk.RedialOk (d : Desk) (cid : ℕ) : Prop :=
  ∀ sid x, d.voiceSession cid = some (sid, x) → x.isOverdue d.now → d.HangUpOk sid

lemma createPublicVoiceSession_good :
    Ensures (fun d => Good L d ∧ d.RedialOk cid) (createPublicVoiceSession cid setup)
      fun _ => Good L := by
  unfold createPublicVoiceSession
  refine Ensures.check_bind fun _ => ?_
  refine Ensures.read_bind fun existing => ?_
  rcases existing with _ | ⟨sid, x⟩
  · exact openVoiceSession_good.pre fun d hd => hd.1.1.1
  refine Ensures.pre (P := fun d => Good L d ∧ (x.isOverdue d.now → d.HangUpOk sid)) ?_
    fun d hd => ⟨hd.1.1.1, hd.1.1.2 sid x hd.2⟩
  refine Ensures.bind (R := fun _ => Good L) ?_ fun expired => ?_
  · unfold expireSessionIfNeeded
    refine Ensures.read_bind fun now => ?_
    refine Ensures.ite (fun hdue => ?_) fun _ => Ensures.pure fun d hd => hd.1.1
    refine Ensures.pre (P := fun d => Good L d ∧ d.HangUpOk sid) ?_ ?_
    · exact Ensures.bind markTerminal_good fun _ => Ensures.pure fun d hd => hd
    · rintro d ⟨⟨hg, hok⟩, rfl⟩
      exact ⟨hg, hok hdue⟩
  · exact Ensures.ite (fun _ => openVoiceSession_good) fun _ =>
      Ensures.pure fun d hd => hd

end Calls

/-! ## stale handoffs and messages -/

section Traffic
variable {L : Ledger} {d : Desk} {agent : Option ℕ} {c : Conversation} {body : String}

lemma mem_staleCandidates {limit rid : ℕ} {r : HandoffRequest}
    (h : (rid, r) ∈ d.staleCandidates agent limit) :
    d.requests.get? rid = some r ∧ r.status = .accepted := by
  have hmem := (List.mem_insertionSort _).1 (List.mem_of_mem_take h)
  obtain ⟨hr, hp⟩ := (Table.mem_select d.requests).1 hmem
  simp only [Bool.and_eq_true, decide_eq_true_eq] at hp
  exact ⟨hr, hp.1.1.1.1.1⟩

lemma nodup_staleCandidates (d : Desk) (agent : Option ℕ) (limit : ℕ) :
    ((d.staleCandidates agent limit).map Prod.fst).Nodup := by
  unfold Desk.staleCandidates
  refine List.Nodup.sublist ((List.take_sublist _ _).map _) ?_
  exact ((List.perm_insertionSort _ _).map _).nodup_iff.2 (Table.nodup_keys_select _ _)

lemma ledger_releaseOne (d : Desk) (rid : ℕ) (r : HandoffRequest) (previous : ℕ) :
    (d.releaseOne rid r previous).ledger = d.ledger.requeue rid r.conversationId := by
  unfold Desk.releaseOne
  rw [ledger_setTicket, ledger_setConversation _ _ (g := fun _ => ⟨some rid, .requested, none⟩)
    fun _ => rfl, ledger_setRequest d rid
      (g := fun r => { r with status := .requested, agent := none }) fun _ => rfl]
  rfl

lemma releaseOne_other (d : Desk) {rid i : ℕ} (r : HandoffRequest) (previous : ℕ) (h : i ≠ rid) :
    (d.releaseOne rid r previous).requests.get? i = d.requests.get? i := by
  unfold Desk.releaseOne Desk.setTicket
  cases (d.conversations.get? r.conversationId).bind (·.ticketId) with
  | none => exact Table.get?_modify_of_ne _ _ h
  | some tid => exact Table.get?_modify_of_ne _ _ h

/-- **`reconcile_stale_text_handoffs` keeps the ledger sound**: every row still to come is accepted,
because no turn of the loop touches another request. -/
lemma reconcileStaleTextHandoffs_good {limit : ℕ} :
    Ensures (Good L) (reconcileStaleTextHandoffs agent limit) fun _ => Good L := by
  unfold reconcileStaleTextHandoffs
  refine Ensures.read_bind fun rows => ?_
  have hloop := Ensures.each (ε := Refusal)
    (I := fun rest d => Good L d ∧ (rest.map Prod.fst).Nodup ∧
      ∀ p ∈ rest, d.requests.get? p.1 = some p.2 ∧ p.2.status = .accepted)
    (f := fun x : ℕ × HandoffRequest => Txn.write fun d : Desk => d.reconcileOne x.1) ?_ rows
  · refine hloop.conseq ?_ fun _ d hd => hd.1
    rintro d ⟨hg, rfl⟩
    exact ⟨hg, nodup_staleCandidates d agent limit, fun p hp => mem_staleCandidates hp⟩
  · rintro ⟨rid, r⟩ rest
    refine Ensures.write ?_
    rintro d ⟨hg, hnd, hrows⟩
    obtain ⟨hr, hacc⟩ := hrows (rid, r) List.mem_cons_self
    rw [List.map_cons, List.nodup_cons] at hnd
    have hrest : ∀ p ∈ rest, d.requests.get? p.1 = some p.2 ∧ p.2.status = .accepted :=
      fun p hp => hrows p (List.mem_cons_of_mem _ hp)
    unfold Desk.reconcileOne
    simp only [hr]
    cases r.assignedAgentId with
    | none => exact ⟨hg, hnd.2, hrest⟩
    | some previous =>
      by_cases hstale : (d.isStale r && decide (0 < previous)) = true
      · simp only [hstale, if_true]
        refine ⟨hg.move (ledger_releaseOne d rid r previous) (hg.1.requeue (ledger_request hr) rfl
          (isOpen_of_accepted hacc)) Ledger.Extends.requeue, hnd.2, fun p hp => ?_⟩
        have hne : p.1 ≠ rid := by
          intro he
          refine hnd.1 ?_
          change rid ∈ rest.map Prod.fst
          rw [← he]
          exact List.mem_map_of_mem hp
        rw [releaseOne_other d r previous hne]
        exact hrest p hp
      · simp only [hstale]
        exact ⟨hg, hnd.2, hrest⟩

lemma ledger_messages (d : Desk) (t : Table Message) :
    ({ d with messages := t } : Desk).ledger = d.ledger := rfl

lemma good_resumeStale (hg : Good L d) {cid tid : ℕ} (hc : d.conversations.get? cid = some c) :
    Good L (d.resumeStaleRequestedHandoff cid tid c) := by
  unfold Desk.resumeStaleRequestedHandoff
  by_cases hstale : d.requestIsStale c = true
  · rw [if_pos hstale]
    have hst : c.handoffStatus = .requested := by
      unfold Desk.requestIsStale at hstale
      simp only [Bool.and_eq_true, decide_eq_true_eq] at hstale
      exact hstale.1.1.1
    obtain ⟨rid, q, hcur, hq, hqc, hqs, -⟩ := (hg.1.consistent cid).shown c.entry
      (ledger_snapshot hc) (by change c.handoffStatus.isOpen = true; rw [hst]; rfl)
    obtain ⟨r, hr, rfl⟩ := Option.map_eq_some_iff.1 hq
    have hcurrent : d.currentRequest c = some (rid, r) := by
      unfold Desk.currentRequest
      change c.currentHandoffRequestId = some rid at hcur
      rw [hcur]
      change (d.requests.get? rid).map _ = _
      rw [hr]
      rfl
    simp only [hcurrent]
    have hl : (((d.setRequest rid fun r =>
        { r with status := HandoffStatus.resumedAi, updatedAt := d.now }).setConversation cid
          fun c => (c.snapshot none .none none).resumeAi).setTicket (some tid) fun t =>
        { t with conversationState := .aiActive }).ledger =
        d.ledger.finish rid cid (fun r => { r with status := .resumedAi })
          fun _ => ⟨none, .none, none⟩ := by
      rw [ledger_setTicket, ledger_setConversation _ cid (g := fun _ => ⟨none, .none, none⟩)
        fun _ => rfl, ledger_setRequest d rid (g := fun r => { r with status := .resumedAi })
        fun _ => rfl]
      rfl
    refine hg.move hl (hg.1.finish hq hqc ?_ (fun _ => rfl) rfl fun _ => ⟨rfl, rfl⟩)
      (Ledger.Extends.finish (f := fun r => { r with status := .resumedAi }) (fun _ => rfl) _)
    rw [hqs]
    change c.handoffStatus.isOpen = true
    rw [hst]
    rfl
  · rw [if_neg hstale]
    exact hg

lemma addVisitorMessage_good {cid : ℕ} {clientMessageId : Option String} :
    Ensures (Good L) (addVisitorMessageToConversation cid body clientMessageId)
      fun _ => Good L := by
  unfold addVisitorMessageToConversation
  refine Ensures.bind (R := fun _ => Good L) (Keeps.check).ensures fun _ => ?_
  refine Ensures.bind (R := fun _ => Good L) (Keeps.read).ensures fun known => ?_
  refine Ensures.ite (fun _ => Ensures.pure fun d hd => hd) fun _ => ?_
  refine Ensures.read_bind fun row => ?_
  cases row with
  | none => exact Ensures.raise
  | some c =>
    refine Ensures.write ?_
    rintro d ⟨hg, hc⟩
    unfold Desk.receiveVisitorMessage
    have hg' : Good L { d with
        messages := d.messages.insert ⟨cid, .visitor, none, clientMessageId, d.now⟩ } :=
      hg.same (ledger_messages d _)
    dsimp only
    split
    · exact hg'
    · exact good_resumeStale (hg'.same (ledger_setTicket _ _ _)) hc

/-- a reply to a ticket the AI has finds the snapshot accepted. -/
def Desk.ReplyOk (d : Desk) (cid : ℕ) : Prop :=
  ∀ c tid t, d.conversations.get? cid = some c → c.ticketId = some tid →
    d.tickets.get? tid = some t → t.conversationState = .aiActive → c.handoffStatus = .accepted

lemma ledger_takeFromAi {cid tid : ℕ} {t : Ticket} (hc : d.conversations.get? cid = some c)
    (h : t.conversationState = .aiActive → c.handoffStatus = .accepted) :
    (d.takeFromAi cid tid t).ledger = d.ledger := by
  unfold Desk.takeFromAi
  by_cases ht : t.conversationState = .aiActive
  · rw [if_pos ht, ledger_setConversation d cid (g := fun c => { c with status := .accepted })
      fun _ => rfl]
    have hfun : (fun i => if i = cid then
        (d.ledger.snapshot i).map fun c => { c with status := HandoffStatus.accepted }
        else d.ledger.snapshot i) = d.ledger.snapshot := by
      funext i
      by_cases hi : i = cid
      · rw [if_pos hi, hi, ledger_snapshot hc]
        change some (⟨_, .accepted, _⟩ : Snapshot) = some ⟨_, c.handoffStatus, _⟩
        rw [h ht]
        rfl
      · rw [if_neg hi]
    unfold Ledger.setSnapshot
    rw [hfun]
  · rw [if_neg ht]

lemma replyToConversation_good {cid uid : ℕ} {allowed : String → Bool} :
    Ensures (fun d => Good L d ∧ d.ReplyOk cid) (replyToConversation cid uid body allowed)
      fun _ => Good L := by
  unfold replyToConversation
  refine Ensures.bind (R := fun _ d => Good L d ∧ d.ReplyOk cid)
    (Ensures.read fun d hd => hd) fun u => ?_
  refine Ensures.refuseUnless_bind fun _ => ?_
  refine Ensures.read_bind fun row => ?_
  cases row with
  | none => exact Ensures.raise
  | some c =>
    dsimp only
    cases htid : c.ticketId with
    | none =>
      refine Ensures.pre (P := Good L) ?_ fun d hd => hd.1.1
      refine (Keeps.bind Keeps.check fun _ => ?_).ensures
      refine Keeps.bind Keeps.check fun _ => Keeps.bind Keeps.check fun text => ?_
      refine Keeps.bind Keeps.refuseUnless fun _ => Keeps.write fun d hg => ?_
      exact hg.same (ledger_messages d _)
    | some tid =>
      refine Ensures.read_bind fun ticket => ?_
      cases ticket with
      | none => exact Ensures.raise
      | some t =>
        refine Ensures.pre (P := fun d => Good L d ∧ d.conversations.get? cid = some c ∧
            (t.conversationState = .aiActive → c.handoffStatus = .accepted)) ?_ fun d hd =>
          ⟨hd.1.1.1, hd.1.2, hd.1.1.2 c tid t hd.1.2 htid hd.2⟩
        refine (Ensures.check_bind fun _ => ?_)
        refine (Ensures.check_bind fun _ => ?_)
        refine (Ensures.check_bind fun text => ?_)
        refine Ensures.refuseUnless_bind fun _ => Ensures.write ?_
        rintro d ⟨⟨⟨⟨hg, hc, hai⟩, -⟩, -⟩, -⟩
        refine hg.same ((ledger_setTicket _ _ _).trans ?_)
        exact (ledger_messages _ _).trans (ledger_takeFromAi hc hai)

end Traffic

end NexusHelpdesk.Handoff
