import NexusHelpdesk.Handoff.Actions
import NexusHelpdesk.Handoff.Sound.Traffic

/-!
# The handoff snapshot of a conversation

A conversation repeats the status, the key and the agent of its open handoff request.  Most
services keep the two in agreement.  Some write the snapshot without looking at the request, and
`Step.Faithful` says when what they write is true.

* `Desk.Consistent d cid`: the snapshot of conversation `cid` agrees with its requests;
* `Step.Faithful d s`: the step does not reach a write of the snapshot that the requests contradict;
* `run_consistent`: **every run of faithful steps from fresh conversations keeps all snapshots
  consistent**;
* `repeated_request_inconsistent`: asking again for a human who is already there is not faithful.
-/

namespace NexusHelpdesk.Handoff
open Lib
open Txn (Ensures)

/-- the snapshot of the conversation agrees with its requests. -/
structure Desk.Consistent (d : Desk) (cid : ℕ) : Prop where
  shown : ∀ c, d.conversations.get? cid = some c → c.handoffStatus.isOpen = true →
    ∃ rid r, c.currentHandoffRequestId = some rid ∧ d.requests.get? rid = some r ∧
      r.conversationId = cid ∧ r.status = c.handoffStatus ∧
      (c.handoffStatus = .accepted → r.assignedAgentId = c.activeAgentId)
  open_shown : ∀ c, d.conversations.get? cid = some c → ∀ rid r, d.requests.get? rid = some r →
    r.conversationId = cid → r.status.isOpen = true →
    c.currentHandoffRequestId = some rid ∧ c.handoffStatus = r.status

/-- no handoff has been asked for yet, and nobody has called. -/
structure Desk.Fresh (d : Desk) : Prop where
  requests : ∀ rid, d.requests.get? rid = none
  sessions : ∀ sid, d.sessions.get? sid = none
  conversations : ∀ cid c, d.conversations.get? cid = some c →
    c.currentHandoffRequestId = none ∧ c.handoffStatus = .none ∧ c.activeAgentId = none

/-- the step does not write a snapshot that the requests of the conversation contradict. -/
def Step.Faithful (d : Desk) : Step → Prop
  | .act (.requestWebchatHandoff cid _) => ∀ rid r, d.requests.get? rid = some r →
      r.conversationId = cid → r.status ≠ .accepted
  | .act (.releaseHandoffRequest rid _) | .act (.resumeAiForHandoff rid _) =>
      d.RefillOk rid
  | .act (.declineVoiceOffer sid uid) => d.DeclineOk sid uid
  | .act (.releaseExpiredVoiceWrapUps uid _) => d.ledger.DueRight uid
  | .act (.createPublicVoiceSession cid _) => d.RedialOk cid
  | .act (.markTerminal sid _) => d.HangUpOk sid
  | .act (.closeConversation cid _ _) => d.ledger.CloseOk cid
  | .act (.replyToConversation cid _ _ _) => d.ReplyOk cid
  | _ => True

def Desk.FaithfulRun : Desk → List Step → Prop
  | _, [] => True
  | d, s :: steps => s.Faithful d ∧ (s.run d).FaithfulRun steps

/-! ## the desk and its ledger -/

variable {d : Desk} {L : Ledger}

lemma Desk.Fresh.sound (h : d.Fresh) : d.ledger.Sound := by
  have hreq : ∀ i, d.ledger.request i = none := by
    intro i
    change (d.requests.get? i).map _ = none
    rw [h.requests i]
    rfl
  refine ⟨fun cid => Ledger.ConsistentAt.settled ?_ ?_, ?_, ?_⟩
  · intro c hc
    obtain ⟨c, hrow, rfl⟩ := Option.map_eq_some_iff.1 hc
    change c.handoffStatus.isOpen = false
    rw [(h.conversations cid c hrow).2.1]
    rfl
  · intro i r hr
    rw [hreq i] at hr
    cases hr
  · intro cid c rid hc hcur
    obtain ⟨c, hrow, rfl⟩ := Option.map_eq_some_iff.1 hc
    change c.currentHandoffRequestId = some rid at hcur
    rw [(h.conversations cid c hrow).1] at hcur
    cases hcur
  · intro sid x rid hx
    change (d.sessions.get? sid).map _ = some x at hx
    rw [h.sessions sid] at hx
    cases hx

lemma Ledger.Sound.desk_consistent (h : d.ledger.Sound) (cid : ℕ) :
    d.Consistent cid := by
  constructor
  · intro c hc ho
    obtain ⟨rid, q, h1, h2, h3, h4, h5⟩ := (h.consistent cid).shown c.entry (ledger_snapshot hc) ho
    obtain ⟨r, hr, rfl⟩ := Option.map_eq_some_iff.1 h2
    exact ⟨rid, r, h1, hr, h3, h4, h5⟩
  · intro c hc rid r hr hconv ho
    exact (h.consistent cid).open_shown c.entry (ledger_snapshot hc) rid r.entry
      (ledger_request hr) hconv ho

/-! ## one step -/

lemma assignRequest_good {rid uid : ℕ} {offer : Option ℕ} :
    Ensures (Good L) (assignRequest rid uid offer) fun _ => Good L := by
  unfold assignRequest
  refine Ensures.check_bind fun r => ?_
  refine Ensures.pre (P := fun d => Good L d ∧ d.ledger.Belongs rid r.conversationId) ?_
    fun d hd => ⟨hd.1, r.entry, ledger_request (requestRow_ok hd.2), rfl⟩
  exact (ensures_belongs fun _ hb => keeps_assignHandoffToAgent hb).post fun _ d hd => hd.1

lemma acceptVoiceOffer_good {sid uid : ℕ} :
    Ensures (Good L) (acceptVoiceOffer sid uid) fun _ => Good L := by
  unfold acceptVoiceOffer
  refine Ensures.check_bind fun b => ?_
  obtain ⟨x, rid⟩ := b
  refine Ensures.pre (P := fun d => Good L d ∧ d.ledger.Belongs rid x.conversationId) ?_ ?_
  · refine Ensures.bind (ensures_belongs_of_fixes Txn.Fixes.read) fun offer => ?_
    rcases offer with _ | ⟨oid, o⟩
    · exact Ensures.raise
    · exact (ensures_belongs fun _ hb => keeps_assignHandoffToAgent hb).post fun _ d hd => hd.1
  · rintro d ⟨hg, hctx⟩
    obtain ⟨hx, hreq, -⟩ := callContext_ok hctx
    exact ⟨hg, hg.1.linked sid x.entry rid (ledger_call hx) hreq⟩

lemma ensures_discard {α : Type} {m : Op α} {P : Desk → Prop}
    (h : Ensures P m fun _ => Good L) :
    Ensures P (m >>= fun _ => pure ()) fun _ => Good L :=
  Ensures.bind h fun _ => Ensures.pure fun d hd => hd

lemma perform_good (a : Action) :
    Ensures (fun d => Good L d ∧ (Step.act a).Faithful d) a.perform fun _ => Good L := by
  cases a with
  | requestHandoff cid =>
    exact ensures_discard ((requestHandoff_good.post fun _ d hd => hd.1).pre fun d hd => hd.1)
  | requestWebchatHandoff cid ticketId =>
    exact ensures_discard (requestWebchatHandoff_good ticketId)
  | assignHandoffToAgent rid uid offer => exact assignRequest_good.pre fun d hd => hd.1
  | acceptHandoffRequest rid uid => exact acceptHandoffRequest_good.pre fun d hd => hd.1
  | declineHandoffRequest rid uid => exact declineHandoffRequest_good.pre fun d hd => hd.1
  | releaseHandoffRequest rid uid => exact releaseHandoffRequest_good
  | resumeAiForHandoff rid uid => exact resumeAiForHandoff_good
  | forceTakeoverTicket tid uid => exact forceTakeoverTicket_good.pre fun d hd => hd.1
  | acceptVoiceOffer sid uid => exact acceptVoiceOffer_good.pre fun d hd => hd.1
  | declineVoiceOffer sid uid => exact declineVoiceOffer_good
  | releaseExpiredVoiceWrapUps uid limit => exact releaseExpiredVoiceWrapUps_good
  | createPublicVoiceSession cid setup => exact ensures_discard createPublicVoiceSession_good
  | markTerminal sid e => exact markTerminal_good
  | reconcileStaleTextHandoffs agent limit =>
    exact reconcileStaleTextHandoffs_good.pre fun d hd => hd.1
  | closeConversation cid uid outcome => exact closeConversation_good
  | visitorMessage cid body clientMessageId => exact addVisitorMessage_good.pre fun d hd => hd.1
  | replyToConversation cid uid body allowed => exact replyToConversation_good

lemma Ledger.Sound.congr {L' : Ledger} (h : L.Sound) (hs : L'.snapshot = L.snapshot)
    (hr : L'.request = L.request) (hc : L'.call = L.call) : L'.Sound := by
  obtain ⟨now, snapshot, request, call⟩ := L
  obtain ⟨now', snapshot', request', call'⟩ := L'
  subst hs hr hc
  exact ⟨fun cid => ⟨(h.consistent cid).shown, (h.consistent cid).open_shown⟩, h.owned, h.linked⟩

lemma Step.sound (s : Step) (h : d.ledger.Sound) (hs : s.Faithful d) :
    (s.run d).ledger.Sound := by
  cases s with
  | act a =>
    have hgood := (perform_good (L := d.ledger) a).commit (s := d) ⟨Good.start h, hs⟩ (Good.start h)
    exact hgood.1
  | surroundings w => exact h.congr rfl rfl rfl

lemma run_sound (steps : List Step) (h : d.ledger.Sound) (hf : d.FaithfulRun steps) :
    (d.run steps).ledger.Sound := by
  induction steps generalizing d with
  | nil => exact h
  | cons s steps ih => exact ih (s.sound h hf.1) hf.2

theorem run_consistent (d : Desk) (steps : List Step) (hd : d.Fresh) (hf : d.FaithfulRun steps)
    (cid : ℕ) : (d.run steps).Consistent cid :=
  (run_sound steps hd.sound hf).desk_consistent cid

/-! ## a repeated request -/

/-- one open conversation with a ticket, and one agent who may see it. -/
def sampleDesk : Desk where
  now := 0
  scopeCountry := some "DE"
  tenantAuthority := fun _ _ _ => true
  users := Table.empty.insert ⟨true, none, [capTicketRead, capTicketAssign], [], none⟩
  conversations := Table.empty.insert
    ⟨some 1, true, "t", "web", none, none, .none, none, false, none, none⟩
  requests := Table.empty
  sessions := Table.empty
  offers := Table.empty
  messages := Table.empty
  tickets := Table.empty.insert
    ⟨.pendingAssignment, .aiActive, none, none, 0, false, none, none, []⟩
  declined := []

/-- a human is asked for, and comes. -/
def sampleRun : List Step :=
  [.act (.requestWebchatHandoff 1 (some 1)), .act (.acceptHandoffRequest 1 1)]

lemma sampleDesk_fresh : sampleDesk.Fresh := by
  refine ⟨fun _ => rfl, fun _ => rfl, ?_⟩
  intro cid c hc
  change (Table.empty.insert _).get? cid = some c at hc
  rw [Table.get?_insert] at hc
  by_cases hcid : cid = (Table.empty : Table Conversation).next
  · rw [if_pos hcid] at hc
    cases hc
    exact ⟨rfl, rfl, rfl⟩
  · rw [if_neg hcid] at hc
    cases hc

theorem run_consistent_sample : sampleDesk.Fresh ∧ sampleDesk.FaithfulRun sampleRun ∧
    (sampleDesk.run sampleRun).Consistent 1 := by
  have hf : sampleDesk.FaithfulRun sampleRun :=
    ⟨fun rid r hr => absurd hr (Option.some_ne_none r).symm, trivial, trivial⟩
  exact ⟨sampleDesk_fresh, hf, run_consistent sampleDesk sampleRun sampleDesk_fresh hf 1⟩

theorem repeated_request_inconsistent : sampleDesk.Fresh ∧
    ¬(sampleDesk.run (sampleRun ++ [.act (.requestWebchatHandoff 1 (some 1))])).Consistent 1 := by
  refine ⟨sampleDesk_fresh, fun h => ?_⟩
  generalize hd : sampleDesk.run (sampleRun ++ [.act (.requestWebchatHandoff 1 (some 1))]) = d at h
  have hc : (d.conversations.get? 1).map (·.handoffStatus) = some .requested := by
    rw [← hd]
    decide +kernel
  have hr : (d.requests.get? 1).map (fun r => (r.conversationId, r.status)) = some (1, .accepted) := by
    rw [← hd]
    decide +kernel
  obtain ⟨c, hc, hst⟩ := Option.map_eq_some_iff.1 hc
  obtain ⟨r, hr, hrow⟩ := Option.map_eq_some_iff.1 hr
  obtain ⟨hconv, hacc⟩ := Prod.mk.inj hrow
  have hshown := (h.open_shown c hc 1 r hr hconv (by rw [hacc]; rfl)).2
  rw [hst, hacc] at hshown
  cases hshown

end NexusHelpdesk.Handoff
