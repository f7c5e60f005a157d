import NexusHelpdesk.Handoff.Sound.Routing

/-!
# A human who is asked for

* `Ledger.Waits L cid`: a request of conversation `cid` is open;
* `requestHandoff_waits`: **who asks for a human has an open request**.
-/

namespace NexusHelpdesk.Handoff
open Lib
open Txn (Keeps Ensures)

def Ledger.Waits (L : Ledger) (cid : ℕ) : Prop :=
  ∃ i q, L.request i = some q ∧ q.conversation = cid ∧ q.status.isOpen = true

section Waits
variable {L : Ledger} {d : Desk} {cid rid : ℕ} {α : Type}
variable {i uid : ℕ}

lemma Ledger.Waits.setSnapshot {f : Snapshot → Snapshot} (h : L.Waits cid) :
    (L.setSnapshot i f).Waits cid := h

lemma Ledger.Waits.setCall {f : CallEntry → CallEntry} (h : L.Waits cid) :
    (L.setCall i f).Waits cid := h

lemma Ledger.Waits.take (h : L.Waits cid) : (L.take rid i uid).Waits cid := by
  obtain ⟨j, q, hq, hc, ho⟩ := h
  by_cases hj : j = rid
  · subst hj
    refine ⟨j, { q with status := .accepted, agent := some uid }, ?_, hc, rfl⟩
    change (if j = j then (L.request j).map _ else L.request j) = _
    rw [if_pos rfl, hq]
    rfl
  · exact ⟨j, q, (if_neg hj).trans hq, hc, ho⟩

lemma waits_of_active {r : HandoffRequest} (h : d.activeRequest cid = some (rid, r)) :
    d.ledger.Waits cid := by
  obtain ⟨hr, hc, ho⟩ := activeRequest_some h
  exact ⟨rid, r.entry, ledger_request hr, hc, ho⟩

lemma waits_insert (ticketId : Option ℕ) :
    ({ d with requests := d.requests.insert (HandoffRequest.new cid ticketId d.now) } :
      Desk).ledger.Waits cid := by
  rw [ledger_insertRequest]
  exact ⟨d.requests.next, _, Ledger.request_addRequest_self _, rfl, rfl⟩

lemma waits_acceptHandoff (call : Option (ℕ × ℕ)) (h : d.ledger.Waits cid) :
    (d.acceptHandoff rid i uid call).ledger.Waits cid := by
  rw [ledger_acceptHandoff]
  cases call with
  | none => exact h.take
  | some call => exact h.take.setCall

lemma waits_openRequest {session : Option ℕ} (h : d.ledger.Waits cid) :
    (d.openRequest cid rid session).ledger.Waits cid := by
  rw [ledger_openRequest]
  cases session with
  | none => exact h.setSnapshot
  | some sid => exact h.setSnapshot.setCall

lemma keepsWaits_of_fixes {m : Op α} (h : Txn.Fixes Desk.core m) :
    Keeps (fun d => d.ledger.Waits cid) m := by
  intro d hd
  show (m d).2.ledger.Waits cid
  rw [← ledger_core, h d, ledger_core]
  exact hd

/-! ## assignment -/

lemma waits_assignHandoffToAgent {offer : Option ℕ} :
    Keeps (fun d => d.ledger.Waits cid) (assignHandoffToAgent rid i uid offer) :=
  assignHandoffToAgent_keeps keepsWaits_of_fixes fun _ _ call hd _ => waits_acceptHandoff call hd

lemma waits_autoAssignTextRequest (control : ConversationControl) :
    Keeps (fun d => d.ledger.Waits cid) (autoAssignTextRequest rid i control) :=
  autoAssignTextRequest_keeps keepsWaits_of_fixes (fun _ => waits_assignHandoffToAgent) control

lemma waits_ringForRequest :
    Keeps (fun d => d.ledger.Waits cid) (ringForRequest i rid) := by
  unfold ringForRequest
  refine Keeps.bind Keeps.read fun session => ?_
  rcases session with _ | ⟨sid, x⟩
  · exact Keeps.pure
  · refine Keeps.bind (Keeps.write fun d hd => ?_) fun _ => ?_
    · rw [ledger_setSession d sid (g := CallEntry.linkTo rid) fun _ => rfl]
      exact hd.setCall
    · exact Keeps.bind (keepsWaits_of_fixes (fixes_createNextVoiceOffer sid)) fun _ =>
        Keeps.pure

lemma requestHandoff_waits :
    Ensures (fun _ => True) (requestHandoff cid) fun _ d => d.ledger.Waits cid := by
  unfold requestHandoff
  refine Ensures.read_bind fun existing => ?_
  rcases existing with _ | ⟨rid, r⟩
  · refine Ensures.bind (R := fun _ _ => True) (Ensures.read fun _ _ => trivial)
      fun row => ?_
    cases row with
    | none => exact Ensures.raise
    | some c =>
      refine Ensures.bind (R := fun _ _ => True) (Ensures.read fun _ _ => trivial)
        fun rid => ?_
      refine Ensures.bind (R := fun _ d => d.ledger.Waits cid)
        (Ensures.write fun d _ => waits_insert c.ticketId) fun _ => ?_
      refine Ensures.bind (keepsWaits_of_fixes (fixes_ensureHandoffRoutingPlan rid)).ensures
        fun _ => ?_
      refine Ensures.bind (R := fun _ d => d.ledger.Waits cid)
        (Ensures.read fun d hd => hd) fun session => ?_
      refine Ensures.bind (R := fun _ d => d.ledger.Waits cid)
        (Ensures.write fun d hd => waits_openRequest hd) fun _ => ?_
      refine Ensures.bind (keepsWaits_of_fixes (fixes_ensureConversationControl cid)).ensures
        fun control => ?_
      rcases session with _ | ⟨sid, x⟩
      · refine Ensures.bind (waits_autoAssignTextRequest control).ensures fun _ => ?_
        exact Ensures.pure fun d hd => hd
      · refine Ensures.bind (keepsWaits_of_fixes (fixes_createNextVoiceOffer sid)).ensures
          fun _ => ?_
        exact Ensures.pure fun d hd => hd
  · refine Ensures.pre (P := fun d => d.ledger.Waits cid) ?_ fun d hd => waits_of_active hd.2
    refine Ensures.ite (fun _ => ?_) fun _ => Ensures.pure fun d hd => hd
    refine Ensures.bind (R := fun _ d => d.ledger.Waits cid) (Ensures.write ?_) fun _ => ?_
    · intro d hd
      rw [ledger_setRequest_same d rid (f := fun r => { r with updatedAt := d.now }) fun _ => rfl]
      exact hd
    refine Ensures.bind (keepsWaits_of_fixes (fixes_ensureHandoffRoutingPlan rid)).ensures
      fun _ => ?_
    exact Ensures.bind waits_ringForRequest.ensures fun _ => Ensures.pure fun d hd => hd

end Waits

end NexusHelpdesk.Handoff
