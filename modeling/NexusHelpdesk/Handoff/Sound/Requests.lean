import NexusHelpdesk.Handoff.Sound.Routing

/-!
# The transitions of a request keep the ledger sound

* `Core.acceptHandoffRequest_good`, …, `forceTakeoverTicket_good`: ticket-backed requests;
* `acceptHandoffRequest_good`, …, `resumeAiForHandoff_good`: the facade, which refills the agent it
  takes a handoff from;
* `closeConversation_good`: the end of a conversation.
-/

namespace NexusHelpdesk.Handoff
open Lib
open Txn (Keeps Fixes Ensures)

/-! ## ticket-backed requests -/

section Core
variable {L : Ledger} {rid uid : ℕ}
variable {d : Desk} {r : HandoffRequest} {tid : ℕ} {cid : ℕ}

lemma ticketContext_ok (h : d.ticketContext rid uid = .ok (r, tid)) :
    d.requests.get? rid = some r := by
  unfold Desk.ticketContext at h
  cases hr : d.requests.get? rid with
  | none => simp [hr] at h
  | some q =>
    simp only [hr] at h
    cases hc : d.conversations.get? q.conversationId with
    | none => simp [hc] at h
    | some c =>
      rcases ht : d.ticketRow q.ticketId with _ | ⟨t, row⟩
      · simp [hc, ht] at h
      · simp only [hc, ht] at h
        cases hv : d.ensureTicketVisible uid t row with
        | error e => simp [hv] at h
        | ok _ =>
          simp only [hv, Except.ok.injEq, Prod.mk.injEq] at h
          rw [h.1]

lemma isOpen_of_accepted (h : r.status = .accepted) :
    r.status.isOpen = true := by
  rw [h]
  rfl

lemma Core.acceptHandoffRequest_good :
    Ensures (Good L) (Core.acceptHandoffRequest rid uid) fun _ => Good L := by
  unfold Core.acceptHandoffRequest
  refine Ensures.check_bind fun b => ?_
  obtain ⟨r, tid⟩ := b
  refine Ensures.refuseUnless_bind fun _ => Ensures.refuseUnless_bind fun ho => ?_
  refine Ensures.write ?_
  rintro d ⟨hg, hctx⟩
  have hrow := ledger_request (ticketContext_ok hctx)
  exact hg.move (ledger_acceptByHand d _ _ tid uid) (hg.1.take hrow rfl ho uid)
    (Ledger.Extends.take uid)

lemma ledger_declineRequest (d : Desk) : (d.declineRequest rid uid).ledger = d.ledger :=
  ledger_setRequest_same d rid (f := fun r => { r with updatedAt := d.now }) fun _ => rfl

lemma Core.declineHandoffRequest_good :
    Ensures (Good L) (Core.declineHandoffRequest rid uid) fun _ => Good L := by
  unfold Core.declineHandoffRequest
  refine Ensures.check_bind fun b => ?_
  obtain ⟨r, tid⟩ := b
  refine Ensures.refuseUnless_bind fun _ => Ensures.write ?_
  rintro d ⟨hg, -⟩
  exact hg.same (ledger_declineRequest d)

lemma good_requeue (hg : Good L d)
    (hr : d.requests.get? rid = some r) (ho : r.status.isOpen = true) :
    Good L (d.requeue rid r.conversationId) :=
  hg.move (ledger_requeue d rid _) (hg.1.requeue (ledger_request hr) rfl ho) Ledger.Extends.requeue

lemma Core.releaseHandoffRequest_good :
    Ensures (Good L) (Core.releaseHandoffRequest rid uid) fun _ => Good L := by
  unfold Core.releaseHandoffRequest
  refine Ensures.check_bind fun b => ?_
  obtain ⟨r, tid⟩ := b
  refine Ensures.refuseUnless_bind fun hacc => ?_
  refine Ensures.bind (R := fun _ d => Good L d ∧ d.ticketContext rid uid = .ok (r, tid))
    (Ensures.read fun d hd => hd) fun u => ?_
  refine Ensures.refuseUnless_bind fun _ => Ensures.write ?_
  rintro d ⟨hg, hctx⟩
  refine (good_requeue hg (ticketContext_ok hctx) ?_).same (ledger_setTicket _ _ _)
  exact isOpen_of_accepted (of_decide_eq_true hacc)

lemma good_giveBack (hg : Good L d)
    (hr : d.requests.get? rid = some r) (ho : r.status.isOpen = true) :
    Good L (d.giveBack rid r.conversationId) :=
  hg.move (ledger_giveBack d rid _)
    (hg.1.finish (ledger_request hr) rfl ho (fun _ => rfl) rfl fun _ => ⟨rfl, rfl⟩)
    (Ledger.Extends.finish (f := fun r => { r with status := .resumedAi, agent := none })
      (fun _ => rfl) _)

lemma Core.resumeAiForHandoff_good :
    Ensures (Good L) (Core.resumeAiForHandoff rid uid) fun _ => Good L := by
  unfold Core.resumeAiForHandoff
  refine Ensures.check_bind fun b => ?_
  obtain ⟨r, tid⟩ := b
  refine Ensures.refuseUnless_bind fun ho => Ensures.write ?_
  rintro d ⟨hg, hctx⟩
  exact (good_giveBack hg (ticketContext_ok hctx) ho).same (ledger_setTicket _ _ _)

lemma Asked.take {L' : Ledger} (h : Asked L rid cid L') :
    (L'.take rid cid uid).Sound ∧ Ledger.Extends L (L'.take rid cid uid) := by
  obtain ⟨L0, hs, hx, hr, hidle, rfl⟩ := h
  have heq : (L0.ask rid cid).take rid cid uid =
      (L0.addRequest rid ⟨cid, .requested, none⟩).take rid cid uid := by
    unfold Ledger.ask Ledger.take Ledger.setSnapshot
    simp only [Ledger.setRequest, Ledger.mk.injEq, true_and, and_true]
    funext i
    by_cases hi : i = cid
    · simp only [hi, if_true, Option.map_map]
      rfl
    · simp only [hi, if_false]
  rw [← heq]
  refine ⟨(hs.ask hr hidle).take (Ledger.request_addRequest_self _) rfl rfl uid, ?_⟩
  exact (hx.trans (Ledger.Extends.ask hr)).trans (Ledger.Extends.take uid)

lemma Core.acceptHandoffRequest_asked :
    Ensures (fun d => Asked L rid cid d.ledger) (Core.acceptHandoffRequest rid uid)
      fun _ => Good L := by
  unfold Core.acceptHandoffRequest
  refine Ensures.check_bind fun b => ?_
  obtain ⟨r, tid⟩ := b
  refine Ensures.refuseUnless_bind fun _ => Ensures.refuseUnless_bind fun ho => ?_
  refine Ensures.write ?_
  rintro d ⟨hasked, hctx⟩
  obtain ⟨-, -, q, hq, hqc⟩ := hasked.sound
  rw [ledger_request (ticketContext_ok hctx)] at hq
  cases hq
  unfold Good
  rw [ledger_acceptByHand]
  change r.conversationId = cid at hqc
  rw [hqc]
  exact hasked.take

lemma forceTakeoverTicket_good :
    Ensures (Good L) (forceTakeoverTicket tid uid) fun _ => Good L := by
  unfold forceTakeoverTicket
  refine Ensures.check_bind fun cid => ?_
  refine Ensures.pre (P := Good L) ?_ fun d hd => hd.1
  refine Ensures.read_bind fun rid => ?_
  refine Ensures.bind (R := fun _ d => Good L d ∨ Asked L rid cid d.ledger)
    (Ensures.write ?_) fun _ => ?_
  · rintro d ⟨hg, rfl⟩
    rcases withOpenRequest_cases hg cid (some tid) with ⟨r, -, hsame⟩ | hasked
    · exact .inl (hg.same hsame)
    · exact .inr hasked
  · intro s a t hs hm
    rcases hs with hg | hasked
    · exact Core.acceptHandoffRequest_good s a t hg hm
    · exact Core.acceptHandoffRequest_asked s a t hasked hm

end Core

/-! ## the facade -/

section Facade
variable {L : Ledger} {rid uid : ℕ}

lemma requestRow_ok {d : Desk} {r : HandoffRequest} (h : d.requestRow rid = .ok r) :
    d.requests.get? rid = some r := by
  unfold Desk.requestRow at h
  cases hr : d.requests.get? rid with
  | none => simp [hr] at h
  | some q =>
    rw [hr] at h
    cases h
    rfl

lemma acceptHandoffRequest_good :
    Ensures (Good L) (acceptHandoffRequest rid uid) fun _ => Good L := by
  unfold acceptHandoffRequest
  refine Ensures.check_bind fun r => ?_
  have hpre : ∀ d, Good L d ∧ d.requestRow rid = .ok r →
      Good L d ∧ d.ledger.Belongs rid r.conversationId := fun d hd =>
    ⟨hd.1, r.entry, ledger_request (requestRow_ok hd.2), rfl⟩
  refine Ensures.ite (fun _ => Core.acceptHandoffRequest_good.pre fun d hd => hd.1) fun _ => ?_
  refine Ensures.pre (P := fun d => Good L d ∧ d.ledger.Belongs rid r.conversationId) ?_ hpre
  refine Ensures.bind (ensures_belongs_of_fixes Fixes.read) fun u => ?_
  refine Ensures.refuseUnless_bind fun _ => ?_
  refine Ensures.bind (ensures_belongs_of_fixes Fixes.check) fun c => ?_
  refine Ensures.ite (fun _ => Ensures.pure fun d hd => hd.1) fun _ => ?_
  refine Ensures.refuseUnless_bind fun _ => ?_
  exact (ensures_belongs fun _ hb => keeps_assignHandoffToAgent hb).post fun _ d hd => hd.1

lemma declineHandoffRequest_good :
    Ensures (Good L) (declineHandoffRequest rid uid) fun _ => Good L := by
  unfold declineHandoffRequest
  refine Ensures.check_bind fun r => ?_
  refine Ensures.pre (P := Good L) ?_ fun d hd => hd.1
  refine Ensures.ite (fun _ => Core.declineHandoffRequest_good) fun _ => ?_
  refine (Keeps.bind Keeps.read fun u => ?_).ensures
  refine Keeps.bind Keeps.refuseUnless fun _ => Keeps.bind Keeps.check fun _ => ?_
  refine Keeps.bind Keeps.refuseUnless fun _ => Keeps.bind Keeps.read fun _ => ?_
  exact Keeps.when (Keeps.write fun d hg => hg.same (ledger_declineRequest d))

lemma refillPrevious_good {previous : Option ℕ} :
    Ensures (fun d => Good L d ∧ ∀ u, previous = some u → d.ledger.DueRight (some u))
      (refillPrevious previous) fun _ => Good L := by
  cases previous with
  | none => exact Ensures.pure fun d hd => hd.1
  | some u =>
    refine Ensures.pre (P := fun d => Good L d ∧ d.ledger.DueRight (some u)) ?_
      fun d hd => ⟨hd.1, hd.2 u rfl⟩
    refine Ensures.bind (R := fun _ d => Good L d ∧ d.ledger.DueRight (some u))
      (Ensures.read fun d hd => hd) fun known => ?_
    refine Ensures.when (fun _ => ?_) fun _ d hd => hd.1
    exact Ensures.bind (fillAgentCapacityWith_good routingOps_sound) fun _ =>
      Ensures.pure fun d hd => hd

/-- the after-call work of the agent of a ticketless request that is due outside its conversation is
so rightly. -/
def Desk.RefillOk (d : Desk) (rid : ℕ) : Prop :=
  ∀ r u, d.requests.get? rid = some r → r.ticketId = none → r.assignedAgentId = some u →
    d.ledger.DueElsewhere (some u) r.conversationId

lemma ledger_declineFor (d : Desk) (rid : ℕ) (agent : Option ℕ) :
    (d.declineFor rid agent).ledger = d.ledger := by
  unfold Desk.declineFor
  cases agent with
  | none => rfl
  | some a =>
    by_cases h : d.declinedBy rid a
    · simp only [h, if_true]
    · simp only [h]
      rfl

lemma dueRight_finish {L : Ledger} (hs : L.Sound) {r : Ownership} (hr : L.request rid = some r)
    {u : ℕ} (hdue : L.DueElsewhere (some u) r.conversation) {f : Ownership → Ownership}
    {g : Snapshot → Snapshot} (hf : ∀ q, (f q).conversation = q.conversation)
    (hg : ∀ c, (g c).agent = none) :
    (L.finish rid r.conversation f g).DueRight (some u) := by
  refine hdue.right hs.linked ?_ rfl rfl ?_
  · refine Ledger.Within.trans (Ledger.Within.setRequest ?_ hf) (Ledger.Within.setSnapshot _ _)
    intro q hq
    rw [hr] at hq
    cases hq
    rfl
  · intro c hc
    unfold Ledger.finish at hc
    rw [Ledger.snapshot_setSnapshot_self] at hc
    obtain ⟨c', -, rfl⟩ := Option.map_eq_some_iff.1 hc
    exact hg c'

lemma releaseHandoffRequest_good :
    Ensures (fun d => Good L d ∧ d.RefillOk rid) (releaseHandoffRequest rid uid)
      fun _ => Good L := by
  unfold releaseHandoffRequest
  refine Ensures.check_bind fun r => ?_
  refine Ensures.ite (fun _ => Core.releaseHandoffRequest_good.pre fun d hd => hd.1.1)
    fun hticket => ?_
  have hnone : r.ticketId = none := by simpa using hticket
  refine Ensures.pre (P := fun d => (Good L d ∧ d.RefillOk rid) ∧
    d.requests.get? rid = some r) ?_ fun d hd => ⟨hd.1, requestRow_ok hd.2⟩
  refine Ensures.bind (R := fun _ d => (Good L d ∧ d.RefillOk rid) ∧
    d.requests.get? rid = some r) (Ensures.read fun d hd => hd) fun u => ?_
  refine Ensures.refuseUnless_bind fun _ => ?_
  refine Ensures.check_bind fun c => ?_
  refine Ensures.refuseUnless_bind fun hacc => Ensures.refuseUnless_bind fun _ => ?_
  refine Ensures.bind (Ensures.write ?_) fun _ => refillPrevious_good
  rintro d ⟨⟨⟨hg, hrefill⟩, hrow⟩, -⟩
  have hsame := ledger_declineFor d rid r.assignedAgentId
  have hg' : Good L (d.declineFor rid r.assignedAgentId) := hg.same hsame
  have hrow' : (d.declineFor rid r.assignedAgentId).requests.get? rid = some r := by
    unfold Desk.declineFor
    cases r.assignedAgentId with
    | none => exact hrow
    | some a =>
      by_cases h : d.declinedBy rid a
      · simp only [h, if_true]
        exact hrow
      · simp only [h]
        exact hrow
  refine ⟨good_requeue hg' hrow' (isOpen_of_accepted (of_decide_eq_true hacc)), fun v hv => ?_⟩
  rw [ledger_requeue, hsame]
  exact dueRight_finish hg.1 (ledger_request hrow) (hrefill r v hrow hnone hv)
    (f := fun r => { r with status := .requested, agent := none }) (fun _ => rfl) fun _ => rfl

lemma resumeAiForHandoff_good :
    Ensures (fun d => Good L d ∧ d.RefillOk rid) (resumeAiForHandoff rid uid)
      fun _ => Good L := by
  unfold resumeAiForHandoff
  refine Ensures.check_bind fun r => ?_
  refine Ensures.ite (fun _ => Core.resumeAiForHandoff_good.pre fun d hd => hd.1.1)
    fun hticket => ?_
  have hnone : r.ticketId = none := by simpa using hticket
  refine Ensures.pre (P := fun d => (Good L d ∧ d.RefillOk rid) ∧
    d.requests.get? rid = some r) ?_ fun d hd => ⟨hd.1, requestRow_ok hd.2⟩
  refine Ensures.check_bind fun c => ?_
  refine Ensures.refuseUnless_bind fun ho => ?_
  refine Ensures.read_bind fun u => Ensures.refuseUnless_bind fun _ => ?_
  refine Ensures.bind (Ensures.write ?_) fun _ => refillPrevious_good
  rintro d ⟨⟨⟨⟨hg, hrefill⟩, hrow⟩, -⟩, -⟩
  refine ⟨good_giveBack hg hrow ho, fun v hv => ?_⟩
  rw [ledger_giveBack]
  exact dueRight_finish hg.1 (ledger_request hrow) (hrefill r v hrow hnone hv)
    (fun _ => rfl) fun _ => rfl

end Facade

/-! ## closing a conversation -/

section Close
variable {L : Ledger} {cid uid : ℕ} {c : Snapshot} {outcome : String}

/-- what is left of the requests of `cid` when its current request is closed. -/
def Ownership.close (r : Ownership) : Ownership :=
  if r.status.isOpen then { r with status := .closed } else r

def Ledger.closeShown (L : Ledger) (cid : ℕ) (current : Option ℕ) : Ledger :=
  match current with
  | none => L.setSnapshot cid fun _ => ⟨none, .closed, none⟩
  | some rid => L.finish rid cid Ownership.close fun _ => ⟨none, .closed, none⟩

lemma Ownership.close_conversation (r : Ownership) :
    (Ownership.close r).conversation = r.conversation := by
  unfold Ownership.close
  split_ifs <;> rfl

lemma Ledger.Sound.close (h : L.Sound) {rid : ℕ} {r : Ownership} {g : Snapshot → Snapshot}
    (hr : L.request rid = some r) (hrc : r.conversation = cid)
    (hg : ∀ c, (g c).status.isOpen = false ∧ (g c).current = none)
    (hidle : r.status.isOpen = false → L.Idle cid) :
    (L.finish rid cid Ownership.close g).Sound := by
  by_cases ho : r.status.isOpen = true
  · refine h.finish hr hrc ho Ownership.close_conversation ?_ hg
    unfold Ownership.close
    rw [if_pos ho]
    rfl
  · have hself : L.setRequest rid Ownership.close = L := by
      refine Ledger.setRequest_eq_self fun q hq => ?_
      rw [hr] at hq
      cases hq
      exact if_neg ho
    change ((L.setRequest rid Ownership.close).setSnapshot cid g).Sound
    rw [hself]
    exact h.clear fun c _ => ⟨(hg c).1, (hg c).2, hidle (Bool.eq_false_iff.2 ho)⟩

lemma Ledger.Sound.closeShown (h : L.Sound) (hc : L.snapshot cid = some c) :
    (L.closeShown cid c.current).Sound := by
  have hshown := (h.consistent cid).open_shown c hc
  cases hcur : c.current with
  | none =>
    refine h.clear fun _ _ => ⟨rfl, rfl, ?_⟩
    intro i q hq hqc
    by_contra ho
    rw [Bool.not_eq_false] at ho
    have := (hshown i q hq hqc ho).1
    rw [hcur] at this
    cases this
  | some rid =>
    obtain ⟨r, hr, hrc⟩ := h.owned cid c rid hc hcur
    refine h.close hr hrc (fun _ => ⟨rfl, rfl⟩) fun hclosed i q hq hqc => ?_
    by_contra ho
    rw [Bool.not_eq_false] at ho
    have := (hshown i q hq hqc ho).1
    rw [hcur] at this
    cases this
    rw [hr] at hq
    cases hq
    rw [hclosed] at ho
    cases ho

lemma Ledger.Extends.closeShown (L : Ledger) (current : Option ℕ) :
    Ledger.Extends L (L.closeShown cid current) := by
  cases current with
  | none => exact Ledger.Extends.setSnapshot _ _
  | some rid => exact Ledger.Extends.finish Ownership.close_conversation _

lemma ledger_closeCurrent (d : Desk) (rid : ℕ) :
    (d.closeCurrent (some rid)).ledger = d.ledger.setRequest rid Ownership.close := by
  change (if (d.requests.get? rid).any (·.status.isOpen) then _ else d).ledger = _
  cases hr : d.requests.get? rid with
  | none =>
    refine (Ledger.setRequest_eq_self fun q hq => ?_).symm
    change (d.requests.get? rid).map _ = some q at hq
    rw [hr] at hq
    cases hq
  | some r =>
    by_cases ho : r.status.isOpen = true
    · rw [if_pos (show (some r).any (fun r => r.status.isOpen) = true from ho),
        ledger_cancelOffersOfRequest]
      refine ledger_setRequest_of d fun q hq => ?_
      rw [hr] at hq
      cases hq
      exact (if_pos ho).symm
    · rw [if_neg (show ¬(some r).any (fun r => r.status.isOpen) = true from ho)]
      refine (Ledger.setRequest_eq_self fun q hq => ?_).symm
      rw [ledger_request hr] at hq
      cases hq
      exact if_neg ho

lemma ledger_closeConversation (d : Desk) (cid : ℕ) (c : Conversation) (outcome : String) :
    (d.closeConversation cid c outcome).ledger =
      d.ledger.closeShown cid c.currentHandoffRequestId := by
  unfold Desk.closeConversation
  rw [ledger_setConversation _ cid (g := fun _ => ⟨none, .closed, none⟩) fun _ => rfl]
  cases c.currentHandoffRequestId with
  | none => rfl
  | some rid =>
    rw [ledger_closeCurrent]
    rfl

/-- the after-call work of the conversation's agent that is due elsewhere is so rightly. -/
def Ledger.CloseOk (L : Ledger) (cid : ℕ) : Prop :=
  ∀ c u, L.snapshot cid = some c → c.agent = some u → L.DueElsewhere (some u) cid

lemma dueRight_closeShown (h : L.Sound) (hc : L.snapshot cid = some c) {u : ℕ}
    (hdue : L.DueElsewhere (some u) cid) :
    (L.closeShown cid c.current).DueRight (some u) := by
  have hsn : ∀ L' : Ledger, ∀ s, (L'.setSnapshot cid fun _ => ⟨none, .closed, none⟩).snapshot cid =
      some s → s.agent = none := by
    intro L' s hs
    rw [Ledger.snapshot_setSnapshot_self] at hs
    obtain ⟨-, -, rfl⟩ := Option.map_eq_some_iff.1 hs
    rfl
  cases hcur : c.current with
  | none => exact hdue.right h.linked (Ledger.Within.setSnapshot _ _) rfl rfl (hsn L)
  | some rid =>
    refine hdue.right h.linked ?_ rfl rfl (hsn _)
    refine Ledger.Within.trans (Ledger.Within.setRequest ?_ Ownership.close_conversation)
      (Ledger.Within.setSnapshot _ _)
    intro q hq
    obtain ⟨r, hr, hrc⟩ := h.owned cid c rid hc hcur
    rw [hr] at hq
    cases hq
    exact hrc

lemma Primitives.closeConversation_good :
    Ensures (fun d => Good L d ∧ d.ledger.CloseOk cid)
      (Primitives.closeConversation cid uid outcome) fun _ => Good L := by
  have hfix : ∀ {α : Type} {m : Op α}, Fixes Desk.core m →
      Ensures (fun d => Good L d ∧ d.ledger.CloseOk cid) m
        fun _ d => Good L d ∧ d.ledger.CloseOk cid := fun h =>
    ensures_of_fixes h fun L' => (L'.Sound ∧ Ledger.Extends L L') ∧ L'.CloseOk cid
  unfold Primitives.closeConversation
  generalize PyStr.lower (PyStr.strip outcome) = normalized
  dsimp only
  refine Ensures.refuseUnless_bind fun _ => ?_
  refine Ensures.bind (hfix (fixes_ensureConversationControl cid)) fun control => ?_
  refine Ensures.bind (hfix Fixes.read) fun u => Ensures.refuseUnless_bind fun _ => ?_
  refine Ensures.read_bind fun row => ?_
  cases row with
  | none => exact Ensures.raise
  | some c =>
    refine Ensures.ite (fun _ => ?_) fun _ => Ensures.pure fun d hd => hd.1.1
    refine Ensures.refuseUnless_bind fun _ => ?_
    refine Ensures.bind (R := fun _ d => Good L d ∧
      ∀ u, c.activeAgentId = some u → d.ledger.DueRight (some u)) (Ensures.write ?_) fun _ => ?_
    · rintro d ⟨⟨hg, hclose⟩, hrow⟩
      have hsn := ledger_snapshot hrow
      have hl := ledger_closeConversation d cid c normalized
      refine ⟨hg.move hl (hg.1.closeShown hsn) (Ledger.Extends.closeShown _ _), fun u hu => ?_⟩
      rw [hl]
      exact dueRight_closeShown hg.1 hsn (hclose c.entry u hsn hu)
    · cases hagent : c.activeAgentId with
      | none => exact Ensures.pure fun d hd => hd.1
      | some previous =>
        refine Ensures.pre (P := fun d => Good L d ∧ d.ledger.DueRight (some previous)) ?_
          fun d hd => ⟨hd.1, hd.2 previous rfl⟩
        refine Ensures.bind (R := fun _ d => Good L d ∧ d.ledger.DueRight (some previous))
          (Ensures.read fun d hd => hd) fun known => ?_
        refine Ensures.when (fun _ => ?_) fun _ d hd => hd.1
        exact Ensures.bind (fillAgentCapacityWith_good primitiveOps_sound) fun _ =>
          Ensures.pure fun d hd => hd

lemma closeConversation_good :
    Ensures (fun d => Good L d ∧ d.ledger.CloseOk cid) (closeConversation cid uid outcome)
      fun _ => Good L := by
  have hfix : ∀ {α : Type} {m : Op α}, Fixes Desk.core m →
      Ensures (fun d => Good L d ∧ d.ledger.CloseOk cid) m
        fun _ d => Good L d ∧ d.ledger.CloseOk cid := fun h =>
    ensures_of_fixes h fun L' => (L'.Sound ∧ Ledger.Extends L L') ∧ L'.CloseOk cid
  unfold closeConversation
  refine Ensures.bind (hfix (fixes_ensureConversationControl cid)) fun control => ?_
  refine Ensures.bind (hfix (fixes_scopeGrantExists uid cid control)) fun granted => ?_
  refine Ensures.refuseUnless_bind fun _ => ?_
  refine Ensures.bind (hfix Fixes.read) fun current => ?_
  refine Ensures.bind Primitives.closeConversation_good fun _ => ?_
  cases current with
  | none => exact Ensures.pure fun d hd => hd
  | some rid => exact (keeps_of_fixes (fixes_closeRoutingPlan rid)).ensures

end Close

end NexusHelpdesk.Handoff
