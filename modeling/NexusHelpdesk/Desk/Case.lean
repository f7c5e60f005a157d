import NexusHelpdesk.Desk.Ticket

/-!
# Cases and their SLA

A case is a ticket with its closing stamps and the SLA target of `ticket_sla_targets`.  The SLA
service keeps one assignment, one target and the pause intervals of a ticket; missing
configuration is refused by the administrative paths and passed over by the others.

* `SlaRows`: what the service finds about a ticket in the policy tables;
* `CaseTicket.ensureSlaAssignment`, `CaseTicket.applyPolicy`: assignment and target;
* `CaseTicket.pauseSla`, `CaseTicket.resumeSla`, `CaseTicket.updatePauseState`: the pauses;
* `CaseTicket.evaluateSla`: the evaluation, without the breach flags;
* `CaseTicket.SameCase`: **the SLA service changes neither status nor stamps**.
-/

namespace NexusHelpdesk

structure CaseTicket extends Ticket where
  closedAt : Option Instant
  resolvedAt : Option Instant
  reopenCount : ℕ
  resolutionSummary : Option String
  slaTarget : Option Sla.SLATarget

/-- the policy tables as a request finds them. -/
structure SlaRows where
  /-- `get_policy_for_priority` finds a policy. -/
  priorityPolicy : Bool
  /-- `ticket.sla_policy` is set. -/
  linkedPolicy : Bool
  /-- what `select_policy_revision` finds. -/
  revision : Option SlaAssignment
  revision_policy : revision.isSome = true → priorityPolicy = true

namespace SlaRows

/-- `ticket.sla_policy or get_policy_for_priority(…)` is a policy. -/
def hasPolicy (rows : SlaRows) : Bool := rows.linkedPolicy || rows.priorityPolicy

end SlaRows

namespace CaseTicket

open Lib
open Sla (SLAConfigurationError PauseInterval)

/-! ## assignment and target -/

def ensureSlaAssignment (rows : SlaRows) (t : CaseTicket) :
    Except SLAConfigurationError (SlaAssignment × CaseTicket) :=
  match t.sla with
  | some a => .ok (a, t)
  | none =>
    match rows.revision with
    | some a => .ok (a, { t with sla := some a })
    | none => .error ⟨"approved_sla_revision_missing"⟩

def applyPolicy (rows : SlaRows) (t : CaseTicket) (now : Instant) :
    Except SLAConfigurationError CaseTicket := do
  let (a, t) ← t.ensureSlaAssignment rows
  let target ← Sla.applyPolicyToTicket a.snapshot t.createdAt t.pauses now
  return { t with slaTarget := some target }

/-! ## pauses -/

def endPause (now : Instant) : List PauseInterval → List PauseInterval
  | [] => []
  | p :: rest =>
    if p.endedAt.isNone then { p with endedAt := some now } :: rest else p :: endPause now rest

/-- the target of an assigned ticket after its pauses changed. -/
def recalculate (rows : SlaRows) (t : CaseTicket) (now : Instant) :
    Except SLAConfigurationError CaseTicket :=
  if rows.hasPolicy && t.sla.isSome then t.applyPolicy rows now else .ok t

/-- `resume_sla`; the answer tells whether an interval was closed. -/
def resumeSla (rows : SlaRows) (t : CaseTicket) (now : Instant) :
    Except SLAConfigurationError (Bool × CaseTicket) :=
  match t.openPause with
  | none => .ok (false, t)
  | some _ => do
    let t ← recalculate rows { t with pauses := endPause now t.pauses } now
    return (true, t)

/-- `pause_sla` for a reason in normal form. -/
def pauseSla (rows : SlaRows) (t : CaseTicket) (reason : String) (now : Instant) :
    Except SLAConfigurationError CaseTicket :=
  match t.openPause with
  | some p => if p.reasonCode ≠ reason then .error ⟨"sla_pause_already_open"⟩ else .ok t
  | none => do
    let (a, t) ← t.ensureSlaAssignment rows
    if reason ∉ a.pauseReasons then .error ⟨"sla_pause_reason_not_allowed"⟩
    else
      let paused := { t with pauses := t.pauses ++ [PauseInterval.mk now none reason] }
      if rows.hasPolicy then paused.applyPolicy rows now else .error ⟨"sla_policy_missing"⟩

def pauseReason : TicketStatus → Option String
  | .waitingCustomer => some "waiting_customer"
  | .waitingInternal => some "waiting_internal"
  | _ => none

/-- the part of `update_pause_state_for_status` that needs the assignment. -/
def syncPause (rows : SlaRows) (t : CaseTicket) (a : SlaAssignment) (status : TicketStatus)
    (now : Instant) : Except SLAConfigurationError CaseTicket :=
  match (pauseReason status).filter (· ∈ a.pauseReasons) with
  | some reason => t.pauseSla rows reason now
  | none => do
    let (closed, t) ← t.resumeSla rows now
    if !closed && rows.hasPolicy then t.applyPolicy rows now else .ok t

/-- `update_pause_state_for_status`: without an approved revision the ticket is not paused. -/
def updatePauseState (rows : SlaRows) (t : CaseTicket) (status : TicketStatus) (now : Instant) :
    Except SLAConfigurationError CaseTicket :=
  match t.ensureSlaAssignment rows with
  | .ok (a, t) => t.syncPause rows a status now
  | .error _ => do
    let (_, t) ← t.resumeSla rows now
    return t

/-- `evaluate_sla` without its flags: a missing target is computed, and a missing revision is
passed over. -/
def evaluateSla (rows : SlaRows) (t : CaseTicket) (now : Instant) :
    Except SLAConfigurationError CaseTicket :=
  if t.slaTarget.isSome && t.openPause.isNone then .ok t
  else if rows.hasPolicy then
    match t.ensureSlaAssignment rows with
    | .error _ => .ok t
    | .ok _ => t.applyPolicy rows now
  else .ok t

/-! ## when the policy applies -/

section Applies
variable {rows : SlaRows} {t u : CaseTicket} {now : Instant} {a : SlaAssignment}

def Computes (t : CaseTicket) (a : SlaAssignment) (now : Instant) : Prop :=
  ∃ target, Sla.applyPolicyToTicket a.snapshot t.createdAt t.pauses now = .ok target

lemma ensureSlaAssignment_eq (h : t.sla.or rows.revision = some a) :
    t.ensureSlaAssignment rows = .ok (a, { t with sla := some a }) := by
  cases hs : t.sla with
  | some b =>
    rw [hs, Option.some_or] at h
    cases h
    have hsame : { t with sla := some a } = t := by rw [← hs]
    rw [hsame]
    unfold ensureSlaAssignment
    rw [hs]
  | none =>
    rw [hs, Option.none_or] at h
    unfold ensureSlaAssignment
    rw [hs, h]

lemma ensureSlaAssignment_missing (h : t.sla.or rows.revision = none) :
    t.ensureSlaAssignment rows = .error ⟨"approved_sla_revision_missing"⟩ := by
  obtain ⟨hs, hr⟩ := Option.or_eq_none_iff.1 h
  unfold ensureSlaAssignment
  rw [hs, hr]

lemma applyPolicy_ok (ha : t.sla.or rows.revision = some a) (h : t.Computes a now) :
    ∃ target, t.applyPolicy rows now = .ok { t with sla := some a, slaTarget := some target } := by
  obtain ⟨target, htarget⟩ := h
  refine ⟨target, ?_⟩
  unfold applyPolicy
  rw [ensureSlaAssignment_eq ha]
  show (Sla.applyPolicyToTicket a.snapshot t.createdAt t.pauses now >>= fun target =>
    pure { t with sla := some a, slaTarget := some target }) = _
  rw [htarget]
  rfl

lemma computes_of_applyPolicy (h : t.applyPolicy rows now = .ok u) :
    ∃ a, t.sla.or rows.revision = some a ∧ t.Computes a now := by
  cases ha : t.sla.or rows.revision with
  | none =>
    unfold applyPolicy at h
    rw [ensureSlaAssignment_missing ha] at h
    cases h
  | some a =>
    refine ⟨a, rfl, ?_⟩
    unfold applyPolicy at h
    rw [ensureSlaAssignment_eq ha] at h
    change (Sla.applyPolicyToTicket a.snapshot t.createdAt t.pauses now >>= fun target =>
      pure { t with sla := some a, slaTarget := some target }) = _ at h
    obtain ⟨target, htarget, -⟩ := bind_eq_ok.1 h
    exact ⟨target, htarget⟩

lemma map_endPause (ps : List PauseInterval) :
    (endPause now ps).map (fun p => (p.startedAt, p.stop now)) =
      ps.map fun p => (p.startedAt, p.stop now) := by
  induction ps with
  | nil => rfl
  | cons p ps ih =>
    unfold endPause
    by_cases hp : p.endedAt.isNone = true
    · rw [if_pos hp, List.map_cons, List.map_cons]
      have hstop : p.stop now = now := by
        unfold PauseInterval.stop
        rw [Option.isNone_iff_eq_none.1 hp]
        rfl
      rw [hstop]
      rfl
    · rw [if_neg hp, List.map_cons, List.map_cons, ih]

lemma sumPauses_congr (c : Sla.Calendar) {ps qs : List PauseInterval}
    (h : ps.map (fun p => (p.startedAt, p.stop now)) =
      qs.map fun p => (p.startedAt, p.stop now)) :
    Sla.sumPauses c now ps = Sla.sumPauses c now qs := by
  induction ps generalizing qs with
  | nil =>
    cases qs with
    | nil => rfl
    | cons q qs => cases h
  | cons p ps ih =>
    cases qs with
    | nil => cases h
    | cons q qs =>
      rw [List.map_cons, List.map_cons, List.cons.injEq, Prod.mk.injEq] at h
      unfold Sla.sumPauses
      rw [h.1.1, h.1.2, ih h.2]

lemma totalPauseSeconds_endPause (c : Sla.Calendar) (ps : List PauseInterval) :
    Sla.totalPauseSeconds c (endPause now ps) now = Sla.totalPauseSeconds c ps now := by
  unfold Sla.totalPauseSeconds
  refine sumPauses_congr c ?_
  have hsort : ∀ l : List PauseInterval,
      (l.insertionSort fun p q => p.startedAt ≤ q.startedAt).map
        (fun p => (p.startedAt, p.stop now)) =
      (l.map fun p => (p.startedAt, p.stop now)).insertionSort fun x y => x.1 ≤ y.1 := by
    intro l
    exact List.map_insertionSort _ _ _ l fun a _ b _ => Iff.rfl
  rw [hsort, hsort, map_endPause]

lemma computes_endPause :
    Computes { t with pauses := endPause now t.pauses } a now ↔ t.Computes a now := by
  unfold Computes Sla.applyPolicyToTicket
  rw [totalPauseSeconds_endPause]

end Applies

/-! ## what the SLA service leaves alone -/

/-- the two tickets differ in their SLA only. -/
structure SameCase (t u : CaseTicket) : Prop where
  status : u.status = t.status
  conversationState : u.conversationState = t.conversationState
  closedAt : u.closedAt = t.closedAt
  resolvedAt : u.resolvedAt = t.resolvedAt
  reopenCount : u.reopenCount = t.reopenCount
  assigneeId : u.assigneeId = t.assigneeId

namespace SameCase

lemma refl (t : CaseTicket) : SameCase t t := ⟨rfl, rfl, rfl, rfl, rfl, rfl⟩

lemma trans {t u v : CaseTicket} (h : SameCase t u) (h' : SameCase u v) : SameCase t v :=
  ⟨h'.status.trans h.status, h'.conversationState.trans h.conversationState,
    h'.closedAt.trans h.closedAt, h'.resolvedAt.trans h.resolvedAt,
    h'.reopenCount.trans h.reopenCount, h'.assigneeId.trans h.assigneeId⟩

end SameCase

section Frames
variable {rows : SlaRows} {t u : CaseTicket} {now : Instant} {status : TicketStatus}
  {a : SlaAssignment}

lemma sameCase_ensureSlaAssignment (h : t.ensureSlaAssignment rows = .ok (a, u)) :
    SameCase t u := by
  unfold ensureSlaAssignment at h
  split at h
  · cases h
    exact SameCase.refl t
  · split at h
    · cases h
      exact ⟨rfl, rfl, rfl, rfl, rfl, rfl⟩
    · cases h

lemma sameCase_applyPolicy (h : t.applyPolicy rows now = .ok u) : SameCase t u := by
  unfold applyPolicy at h
  obtain ⟨⟨a, v⟩, hv, hrest⟩ := bind_eq_ok.1 h
  obtain ⟨target, -, hret⟩ := bind_eq_ok.1 hrest
  cases hret
  have hstep := sameCase_ensureSlaAssignment hv
  exact hstep.trans ⟨rfl, rfl, rfl, rfl, rfl, rfl⟩

lemma sameCase_recalculate (h : t.recalculate rows now = .ok u) : SameCase t u := by
  unfold recalculate at h
  split at h
  · exact sameCase_applyPolicy h
  · cases h
    exact SameCase.refl t

lemma sameCase_resumeSla {closed : Bool} (h : t.resumeSla rows now = .ok (closed, u)) :
    SameCase t u := by
  unfold resumeSla at h
  split at h
  · cases h
    exact SameCase.refl t
  · obtain ⟨v, hv, hret⟩ := bind_eq_ok.1 h
    cases hret
    have hended : SameCase t { t with pauses := endPause now t.pauses } :=
      ⟨rfl, rfl, rfl, rfl, rfl, rfl⟩
    exact hended.trans (sameCase_recalculate hv)

lemma sameCase_pauseSla {reason : String} (h : t.pauseSla rows reason now = .ok u) :
    SameCase t u := by
  unfold pauseSla at h
  split at h
  · split at h
    · cases h
    · cases h
      exact SameCase.refl t
  · obtain ⟨⟨a, v⟩, hv, hrest⟩ := bind_eq_ok.1 h
    dsimp only at hrest
    split at hrest
    · cases hrest
    · split at hrest
      · have hopened : SameCase v { v with pauses := v.pauses ++ [PauseInterval.mk now none reason] } :=
          ⟨rfl, rfl, rfl, rfl, rfl, rfl⟩
        exact (sameCase_ensureSlaAssignment hv).trans
          (hopened.trans (sameCase_applyPolicy hrest))
      · cases hrest

lemma sameCase_syncPause (h : t.syncPause rows a status now = .ok u) :
    SameCase t u := by
  unfold syncPause at h
  split at h
  · exact sameCase_pauseSla h
  · obtain ⟨⟨closed, v⟩, hv, hrest⟩ := bind_eq_ok.1 h
    dsimp only at hrest
    split at hrest
    · exact (sameCase_resumeSla hv).trans (sameCase_applyPolicy hrest)
    · cases hrest
      exact sameCase_resumeSla hv

lemma sameCase_updatePauseState (h : t.updatePauseState rows status now = .ok u) :
    SameCase t u := by
  unfold updatePauseState at h
  split at h
  · rename_i a v hv
    exact (sameCase_ensureSlaAssignment hv).trans (sameCase_syncPause h)
  · obtain ⟨⟨closed, v⟩, hv, hret⟩ := bind_eq_ok.1 h
    cases hret
    exact sameCase_resumeSla hv

lemma sameCase_evaluateSla (h : t.evaluateSla rows now = .ok u) : SameCase t u := by
  unfold evaluateSla at h
  split at h
  · cases h
    exact SameCase.refl t
  · split at h
    · split at h
      · cases h
        exact SameCase.refl t
      · exact sameCase_applyPolicy h
    · cases h
      exact SameCase.refl t

end Frames

end CaseTicket
end NexusHelpdesk
