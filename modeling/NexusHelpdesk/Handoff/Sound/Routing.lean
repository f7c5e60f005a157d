import NexusHelpdesk.Handoff.Refinement

/-!
# Routing keeps the ledger sound

* `releaseExpiredVoiceWrapUps_good`: the end of after-call work, by a loop invariant over the calls
  that are due;
* `OpsSound ops`: what both copies of the routing operations have in common, and
  `fillAgentCapacityWith_good` for either of them;
* `requestHandoff_good`, `requestWebchatHandoff_good`: asking for a human.
-/

namespace NexusHelpdesk.Handoff
open Lib
open Txn (Keeps Fixes Ensures)

/-! ## after-call work -/

section Release
variable {L : Ledger} {uid : Option ℕ} {limit : ℕ}

lemma mem_dueWrapUps {d : Desk} {sid : ℕ} {x : VoiceSession}
    (h : (sid, x) ∈ d.dueWrapUps uid limit) :
    d.sessions.get? sid = some x ∧ d.ledger.Due uid x.entry := by
  have hmem := (List.mem_insertionSort _).1 (List.mem_of_mem_take h)
  obtain ⟨hx, hp⟩ := (Table.mem_select d.sessions).1 hmem
  rw [Bool.and_eq_true] at hp
  refine ⟨hx, ?_, ?_⟩
  · obtain ⟨t, ht, hle⟩ := (Option.any_eq_true _ _).1 hp.1
    exact ⟨t, ht, of_decide_eq_true hle⟩
  · rintro u rfl
    obtain ⟨⟨rid, r⟩, hr, hu⟩ := (Option.any_eq_true _ _).1 hp.2
    rw [ledger_agentOf, hr]
    exact of_decide_eq_true hu

/-- **The release of due after-call work keeps the ledger sound**: `DueOk` of the calls still to
come is the invariant of the loop. -/
lemma Primitives.releaseExpiredVoiceWrapUps_good :
    Ensures (fun d => Good L d ∧ d.ledger.DueRight uid)
      (Primitives.releaseExpiredVoiceWrapUps uid limit) fun _ => Good L := by
  unfold Primitives.releaseExpiredVoiceWrapUps
  refine Ensures.read_bind fun due => ?_
  have hloop := Ensures.each (ε := Refusal)
    (I := fun rest d => Good L d ∧ ∀ p ∈ rest, ∀ y, d.ledger.call p.1 = some y → d.ledger.DueOk y)
    (f := fun x : ℕ × VoiceSession => Txn.write fun d : Desk => d.releaseWrapUp x.1) ?_ due
  · refine hloop.conseq ?_ fun _ d hd => hd.1
    rintro d ⟨⟨hg, hright⟩, rfl⟩
    refine ⟨hg, ?_⟩
    rintro ⟨sid, x⟩ hp y hy
    obtain ⟨hx, hdue⟩ := mem_dueWrapUps hp
    rw [ledger_call hx] at hy
    cases hy
    exact hright sid x.entry (ledger_call hx) hdue
  · rintro ⟨sid, x⟩ rest
    refine Ensures.write ?_
    rintro d ⟨hg, hok⟩
    cases hx : d.sessions.get? sid with
    | none =>
      have hsame : d.releaseWrapUp sid = d := by
        unfold Desk.releaseWrapUp
        rw [hx]
      rw [hsame]
      exact ⟨hg, fun p hp => hok p (List.mem_cons_of_mem _ hp)⟩
    | some x =>
      have hcall := ledger_call hx
      have hdue := hok (sid, _) List.mem_cons_self x.entry hcall
      have hl := ledger_releaseWrapUp d hx
      refine ⟨hg.move hl (hg.1.release hcall hdue) (Ledger.Extends.release _ _ _), ?_⟩
      rw [hl]
      intro p hp y hy
      obtain ⟨z, hz, hreq, hconv⟩ := Ledger.call_release hy
      have hz' := hok p (List.mem_cons_of_mem _ hp) z hz
      exact (Ledger.DueOk.release hg.1 hcall hdue hz hz').congr hreq hconv

lemma releaseExpiredVoiceWrapUps_good :
    Ensures (fun d => Good L d ∧ d.ledger.DueRight uid)
      (releaseExpiredVoiceWrapUps uid limit) fun _ => Good L := by
  unfold releaseExpiredVoiceWrapUps
  refine Ensures.bind (R := fun _ d => Good L d ∧ d.ledger.DueRight uid)
    (Ensures.read fun d hd => hd) fun due => ?_
  refine Ensures.bind Primitives.releaseExpiredVoiceWrapUps_good fun _ => ?_
  exact (keeps_of_fixes (Fixes.each fixes_closeRoutingPlan _)).ensures

end Release

/-! ## filling an agent's capacity -/

/-- what the two copies of the routing operations have in common. -/
structure OpsSound (ops : RoutingOps) : Prop where
  next : ∀ sid, Fixes Desk.core (ops.createNextVoiceOffer sid)
  release : ∀ L uid limit, Ensures (fun d => Good L d ∧ d.ledger.DueRight uid)
    (ops.releaseExpiredVoiceWrapUps uid limit) fun _ => Good L
  eligible : ∀ uid, Fixes Desk.core (ops.eligibleTextRequestForAgent uid)
  found : ∀ uid, Ensures (fun _ => True) (ops.eligibleTextRequestForAgent uid)
    fun candidate d => ∀ rid cid, candidate = some (rid, cid) → d.ledger.Belongs rid cid
  assign : ∀ L rid cid uid offer, L.Belongs rid cid →
    Keeps (Good L) (ops.assignHandoffToAgent rid cid uid offer)

section Fill
variable {ops : RoutingOps} {L : Ledger} {uid : ℕ}

lemma mem_textQueue {d : Desk} {rid : ℕ} {r : HandoffRequest} (h : (rid, r) ∈ d.textQueue uid) :
    d.ledger.Belongs rid r.conversationId := by
  have hmem := (List.mem_insertionSort _).1 h
  obtain ⟨hr, -⟩ := (Table.mem_select d.requests).1 hmem
  exact ⟨r.entry, ledger_request hr, rfl⟩

lemma scanTextQueue_found (rows : List (ℕ × HandoffRequest)) :
    Ensures (fun d => ∀ p ∈ rows, d.ledger.Belongs p.1 p.2.conversationId)
      (scanTextQueue uid rows)
      fun candidate d => ∀ rid cid, candidate = some (rid, cid) → d.ledger.Belongs rid cid := by
  induction rows with
  | nil =>
    refine Ensures.pure fun d hd rid cid h => ?_
    cases h
  | cons row rows ih =>
    obtain ⟨rid, r⟩ := row
    have hrest : Ensures
        (fun d => ∀ p ∈ (rid, r) :: rows, d.ledger.Belongs p.1 p.2.conversationId)
        (scanTextQueue uid rows)
        fun candidate d => ∀ rid cid, candidate = some (rid, cid) → d.ledger.Belongs rid cid :=
      ih.pre fun d hd p hp => hd p (List.mem_cons_of_mem _ hp)
    refine Ensures.bind (R := fun _ d => ∀ p ∈ (rid, r) :: rows,
      d.ledger.Belongs p.1 p.2.conversationId) (Ensures.read fun d hd => hd) fun control => ?_
    cases control with
    | none => exact hrest
    | some k =>
      refine Ensures.bind (ensures_of_fixes (fixes_ensureHandoffRoutingPlan rid)
        fun L => ∀ p ∈ (rid, r) :: rows, L.Belongs p.1 p.2.conversationId) fun plan => ?_
      refine Ensures.bind (ensures_of_fixes (fixes_candidateAuthorized plan k uid .text true)
        fun L => ∀ p ∈ (rid, r) :: rows, L.Belongs p.1 p.2.conversationId) fun b => ?_
      refine Ensures.ite (fun _ => Ensures.pure ?_) fun _ => hrest
      intro d hd rid' cid' h
      cases h
      exact hd (rid, r) List.mem_cons_self

lemma routingOps_sound : OpsSound routingOps where
  next := fixes_createNextVoiceOffer
  release := fun _ _ _ => releaseExpiredVoiceWrapUps_good
  eligible := fixes_eligibleTextRequestForAgent
  found := fun uid => by
    refine Ensures.read_bind fun rows => (scanTextQueue_found rows).pre ?_
    rintro d ⟨-, rfl⟩ p hp
    exact mem_textQueue (List.mem_of_mem_take hp)
  assign := fun _ _ _ _ _ hb => keeps_assignHandoffToAgent hb

lemma primitiveOps_sound : OpsSound primitiveOps where
  next := Primitives.fixes_createNextVoiceOffer
  release := fun _ _ _ => Primitives.releaseExpiredVoiceWrapUps_good
  eligible := fun _ => Fixes.read
  found := fun uid => by
    refine Ensures.read fun d _ rid cid h => ?_
    obtain ⟨⟨rid', r⟩, hfind, he⟩ := Option.map_eq_some_iff.1 h
    cases he
    exact mem_textQueue (List.mem_of_find?_eq_some hfind)
  assign := fun _ _ _ _ _ hb => Primitives.keeps_assignHandoffToAgent hb

lemma keeps_fillTextWith (hops : OpsSound ops) (st : AgentState) (fuel : ℕ) :
    Keeps (Good L) (fillTextWith ops uid st fuel) := by
  induction fuel generalizing L with
  | zero => exact Keeps.pure
  | succ fuel ih =>
    refine Keeps.bind Keeps.read fun load => Keeps.ite ?_ Keeps.pure
    refine Keeps.bind_ensures (keeps_of_fixes (hops.eligible uid))
      ((hops.found uid).pre fun _ _ => trivial) fun candidate d hg hfound => ?_
    rcases candidate with _ | ⟨rid, cid⟩
    · exact hg
    -- from here on the rows of `d` are the ones to keep
    refine hg.rebase ?_
    refine Keeps.bind (I := Good d.ledger)
      (Keeps.attempt (hops.assign _ rid cid uid none (hfound rid cid rfl)))
      (fun result => ?_) d (Good.start hg.1)
    rcases result with e | _
    · cases e with
      | crash e => exact Keeps.raise
      | conflict code => exact Keeps.pure
      | http code detail => exact Keeps.ite ih Keeps.pure
    · exact Keeps.bind ih fun rest => Keeps.pure

lemma fillAgentCapacityWith_good (hops : OpsSound ops) :
    Ensures (fun d => Good L d ∧ d.ledger.DueRight (some uid))
      (fillAgentCapacityWith ops uid) fun _ => Good L := by
  have hfix : ∀ {α : Type} {m : Op α}, Fixes Desk.core m →
      Ensures (fun d => Good L d ∧ d.ledger.DueRight (some uid)) m
        fun _ d => Good L d ∧ d.ledger.DueRight (some uid) := fun h =>
    ensures_of_fixes h fun L' => (L'.Sound ∧ Ledger.Extends L L') ∧ L'.DueRight (some uid)
  unfold fillAgentCapacityWith
  refine Ensures.bind (hfix (fixes_getOrCreateAgentState uid)) fun st => ?_
  refine Ensures.bind (hfix Fixes.read) fun now => ?_
  refine Ensures.ite (fun _ => ?_) fun _ => Ensures.pure fun d hd => hd.1
  refine Ensures.bind (hfix (fixes_expireVoiceOffersWith hops.next _ _ _)) fun _ => ?_
  refine Ensures.bind (hops.release L (some uid) 100) fun _ => ?_
  refine Ensures.bind (keeps_fillTextWith hops st _).ensures fun assigned => ?_
  refine Ensures.bind (R := fun _ => Good L) ?_ fun _ => Ensures.pure fun d hd => hd
  exact (Keeps.when (keeps_of_fixes (fixes_offerWaitingCalls hops.next))).ensures

end Fill

/-! ## asking for a human -/

section Ask
variable {L : Ledger} {rid cid : ℕ} {α : Type} {d : Desk}

lemma ensures_belongs {m : Op α} (h : ∀ L : Ledger, L.Belongs rid cid → Keeps (Good L) m) :
    Ensures (fun d => Good L d ∧ d.ledger.Belongs rid cid) m
      fun _ d => Good L d ∧ d.ledger.Belongs rid cid := by
  rintro s a t ⟨hg, hb⟩ hm
  have ht := (h s.ledger hb).ensures s a t (Good.start hg.1) hm
  exact ⟨hg.rebase ht, ht.belongs hb⟩

lemma ensures_belongs_of_fixes {m : Op α} (h : Fixes Desk.core m) :
    Ensures (fun d => Good L d ∧ d.ledger.Belongs rid cid) m
      fun _ d => Good L d ∧ d.ledger.Belongs rid cid :=
  ensures_belongs fun _ _ => keeps_of_fixes h

lemma good_link (hg : Good L d) (hb : d.ledger.Belongs rid cid) {sid : ℕ}
    (hx : ∀ x, d.sessions.get? sid = some x → x.conversationId = cid) :
    Good L (d.setSession sid fun x => { x with handoffRequestId := some rid }) := by
  refine hg.move (ledger_setSession d sid (g := CallEntry.linkTo rid) fun _ => rfl)
    (hg.1.setCall ?_) (Ledger.Extends.setCall fun _ => rfl)
  intro y hy
  obtain ⟨x, hx', rfl⟩ := Option.map_eq_some_iff.1 hy
  refine ⟨rfl, fun i hi => .inr ?_⟩
  cases hi
  obtain ⟨q, hq, hc⟩ := hb
  exact ⟨q, hq, hc.trans (hx x hx').symm⟩

lemma ringForRequest_good :
    Ensures (fun d => Good L d ∧ d.ledger.Belongs rid cid) (ringForRequest cid rid)
      fun _ d => Good L d ∧ d.ledger.Belongs rid cid := by
  unfold ringForRequest
  refine Ensures.read_bind fun session => ?_
  rcases session with _ | ⟨sid, x⟩
  · exact Ensures.pure fun d hd => hd.1
  refine Ensures.bind (Ensures.write ?_) fun _ => Ensures.bind
    (ensures_belongs_of_fixes (fixes_createNextVoiceOffer sid)) fun _ =>
      Ensures.pure fun d hd => hd
  rintro d ⟨⟨hg, hb⟩, hx⟩
  refine ⟨good_link hg hb fun y hy => ?_, hb⟩
  obtain ⟨h1, h2, -⟩ := voiceSession_some hx
  rw [h1] at hy
  cases hy
  exact h2

lemma keeps_autoAssignTextRequest (hb : L.Belongs rid cid) (control : ConversationControl) :
    Keeps (Good L) (autoAssignTextRequest rid cid control) :=
  autoAssignTextRequest_keeps keeps_of_fixes (fun _ => keeps_assignHandoffToAgent hb) control

/-- a new request of an idle conversation has been inserted, and the snapshot is still to come. -/
structure Asked (L : Ledger) (rid cid : ℕ) (L' : Ledger) : Prop where
  asked : ∃ L0 : Ledger, L0.Sound ∧ Ledger.Extends L L0 ∧ L0.request rid = none ∧ L0.Idle cid ∧
    L' = L0.addRequest rid ⟨cid, .requested, none⟩

lemma asked_insert (hg : Good L d) (hidle : d.ledger.Idle cid) (ticketId : Option ℕ) :
    Asked L d.requests.next cid
      ({ d with requests := d.requests.insert (HandoffRequest.new cid ticketId d.now) } :
        Desk).ledger := by
  refine ⟨d.ledger, hg.1, hg.2, ?_, hidle, ledger_insertRequest d _⟩
  change (d.requests.get? _).map _ = none
  rw [d.requests.get?_eq_none_of_le le_rfl]
  rfl

lemma Asked.sound {L' : Ledger} (h : Asked L rid cid L') :
    (L'.setSnapshot cid fun _ => ⟨some rid, .requested, none⟩).Sound ∧
      Ledger.Extends L (L'.setSnapshot cid fun _ => ⟨some rid, .requested, none⟩) ∧
      L'.Belongs rid cid := by
  obtain ⟨L0, hs, hx, hr, hidle, rfl⟩ := h
  exact ⟨hs.ask hr hidle, hx.trans (Ledger.Extends.ask hr), ⟨_, Ledger.request_addRequest_self _, rfl⟩⟩

lemma good_openRequest (h : Asked L rid cid d.ledger) {session : Option (ℕ × VoiceSession)}
    (hx : d.voiceSession cid = session) :
    Good L (d.openRequest cid rid (session.map (·.1))) ∧
      (d.openRequest cid rid (session.map (·.1))).ledger.Belongs rid cid := by
  obtain ⟨hs, hext, hb⟩ := h.sound
  unfold Good
  rw [ledger_openRequest]
  rcases session with _ | ⟨sid, x⟩
  · exact ⟨⟨hs, hext⟩, hb⟩
  · obtain ⟨hrow, hc, -⟩ := voiceSession_some hx
    refine ⟨⟨hs.setCall ?_, hext.trans (Ledger.Extends.setCall fun _ => rfl)⟩, hb⟩
    intro y hy
    have hy : d.ledger.call sid = some y := hy
    rw [ledger_call hrow] at hy
    cases hy
    refine ⟨rfl, fun i hi => .inr ?_⟩
    cases hi
    obtain ⟨q, hq, hqc⟩ := hb
    exact ⟨q, hq, hqc.trans hc.symm⟩

lemma requestHandoff_good :
    Ensures (Good L) (requestHandoff cid)
      fun rid d => Good L d ∧ d.ledger.Belongs rid cid := by
  unfold requestHandoff
  refine Ensures.read_bind fun existing => ?_
  rcases existing with _ | ⟨rid, r⟩
  · refine Ensures.bind (R := fun _ d => Good L d ∧ d.ledger.Idle cid)
      (Ensures.read fun d hd => ⟨hd.1, activeRequest_none hd.2⟩) fun row => ?_
    cases row with
    | none => exact Ensures.raise
    | some c =>
      refine Ensures.read_bind fun rid => ?_
      refine Ensures.bind (R := fun _ d => Asked L rid cid d.ledger)
        (Ensures.write ?_) fun _ => ?_
      · rintro d ⟨⟨hg, hidle⟩, rfl⟩
        exact asked_insert hg hidle c.ticketId
      refine Ensures.bind (ensures_of_fixes (fixes_ensureHandoffRoutingPlan rid)
        (Asked L rid cid)) fun _ => ?_
      refine Ensures.read_bind fun session => ?_
      refine Ensures.bind (R := fun _ d => Good L d ∧ d.ledger.Belongs rid cid)
        (Ensures.write fun d hd => good_openRequest hd.1 hd.2) fun _ => ?_
      refine Ensures.bind (ensures_belongs_of_fixes (fixes_ensureConversationControl cid))
        fun control => ?_
      rcases session with _ | ⟨sid, x⟩
      · refine Ensures.bind (ensures_belongs fun _ hb => keeps_autoAssignTextRequest hb control)
          fun _ => ?_
        exact Ensures.pure fun d hd => hd
      · refine Ensures.bind (ensures_belongs_of_fixes (fixes_createNextVoiceOffer sid))
          fun _ => ?_
        exact Ensures.pure fun d hd => hd
  · have hpre : ∀ d, Good L d ∧ d.activeRequest cid = some (rid, r) →
        Good L d ∧ d.ledger.Belongs rid cid := by
      rintro d ⟨hg, hr⟩
      obtain ⟨h1, h2, -⟩ := activeRequest_some hr
      exact ⟨hg, r.entry, ledger_request h1, h2⟩
    refine Ensures.pre (P := fun d => Good L d ∧ d.ledger.Belongs rid cid) ?_ hpre
    refine Ensures.ite (fun _ => ?_) fun _ => Ensures.pure fun d hd => hd
    refine Ensures.bind (R := fun _ d => Good L d ∧ d.ledger.Belongs rid cid)
      (Ensures.write ?_) fun _ => ?_
    · rintro d ⟨hg, hb⟩
      have hsame := ledger_setRequest_same d rid
        (f := fun r => { r with updatedAt := d.now }) fun _ => rfl
      exact ⟨hg.same hsame, by rw [hsame]; exact hb⟩
    refine Ensures.bind (ensures_belongs_of_fixes (fixes_ensureHandoffRoutingPlan rid))
      fun _ => ?_
    exact Ensures.bind ringForRequest_good fun _ => Ensures.pure fun d hd => hd

/-- the request of `withOpenRequest` is the one the snapshot shows, or a new one. -/
lemma withOpenRequest_cases (hg : Good L d) (cid : ℕ) (ticketId : Option ℕ) :
    (∃ r, d.activeRequest cid = some ((d.withOpenRequest cid ticketId).2, r) ∧
        (d.withOpenRequest cid ticketId).1.ledger = d.ledger) ∨
      Asked L (d.withOpenRequest cid ticketId).2 cid (d.withOpenRequest cid ticketId).1.ledger := by
  unfold Desk.withOpenRequest
  rcases h : d.activeRequest cid with _ | ⟨rid, r⟩
  · exact .inr (asked_insert hg (activeRequest_none h) ticketId)
  · exact .inl ⟨r, rfl, ledger_setRequest_same d rid fun _ => rfl⟩

/-- **`request_webchat_handoff` keeps the ledger sound** unless a request of the conversation is
accepted. -/
lemma requestWebchatHandoff_good (ticketId : Option ℕ) :
    Ensures (fun d => Good L d ∧ ∀ rid r, d.requests.get? rid = some r →
        r.conversationId = cid → r.status ≠ .accepted)
      (requestWebchatHandoff cid ticketId) fun _ => Good L := by
  unfold requestWebchatHandoff
  refine Ensures.read_bind fun rid => ?_
  refine Ensures.bind (R := fun _ => Good L) (Ensures.write ?_) fun _ =>
    Ensures.pure fun d hd => hd
  rintro d ⟨⟨hg, hnone⟩, rfl⟩
  have hl : ∀ d' : Desk, ((d'.setTicket ticketId Ticket.awaitHuman).setConversation cid fun c =>
      ((c.snapshot (some (d.withOpenRequest cid ticketId).2) .requested none).suspendAi
        d.now).cancelAiTurns).ledger =
      d'.ledger.setSnapshot cid fun _ =>
        ⟨some (d.withOpenRequest cid ticketId).2, .requested, none⟩ := by
    intro d'
    rw [ledger_setConversation _ cid (g := fun _ =>
      ⟨some (d.withOpenRequest cid ticketId).2, .requested, none⟩) fun _ => rfl, ledger_setTicket]
  rcases withOpenRequest_cases hg cid ticketId with ⟨r, hr, hsame⟩ | hasked
  · -- the open request is `requested`, so the snapshot already shows it
    obtain ⟨hrow, hc, ho⟩ := activeRequest_some hr
    have hst : r.status = .requested := by
      unfold HandoffStatus.isOpen at ho
      rw [Bool.or_eq_true, decide_eq_true_iff, decide_eq_true_iff] at ho
      exact ho.resolve_right (hnone _ r hrow hc)
    refine hg.move (hl _) ?_ ?_
    · rw [hsame]
      exact hg.1.reshow (ledger_request hrow) hc ho fun c _ => ⟨rfl, hst.symm, fun h => by cases h⟩
    · rw [hsame]
      exact Ledger.Extends.setSnapshot _ _
  · obtain ⟨hs, hext, -⟩ := hasked.sound
    unfold Good
    rw [hl]
    exact ⟨hs, hext⟩

end Ask

end NexusHelpdesk.Handoff
