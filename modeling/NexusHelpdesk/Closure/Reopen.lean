import NexusHelpdesk.Closure.Case

/-!
# When reopening works

A reopening fails when the policy of its ticket cannot be applied or when the ledger refuses its
record.  The record is looked up by the latest `closed` record and the reason, so a ticket that is
canceled or resolved again after a reopening meets the record of that reopening.

* `SlaApplies`: the policies of the ticket have a target for it;
* `FirstInvalidation`: the latest `closed` record is not invalidated yet, but for a repetition at
  the same moment for the same reason;
* `reopening_works_iff`: **every reopening of a run succeeds, and every `closed` record is
  invalidated at most once, exactly if every reopening is a first invalidation with a policy that
  applies**;
* `reopening_clashes`: a cancellation between two reopenings.
-/

namespace NexusHelpdesk.Closure

open Lib

/-! ## the policy -/

section Policy
variable (req : CaseRequest) (t : CaseTicket)

/-- with a policy for the priority there is an assignment or a revision, and it has a target; with
a policy of the ticket alone its assignment has one, if a target is missing or a pause is open. -/
def SlaApplies : Prop :=
  if req.sla.priorityPolicy then
    ∃ a, t.sla.or req.sla.revision = some a ∧ t.Computes a req.now
  else req.sla.linkedPolicy = true → t.openPause.isSome = true ∨ t.slaTarget = none →
    ∀ a, t.sla = some a → t.Computes a req.now

variable {req t} {a : SlaAssignment}

lemma retarget_ok (h : req.sla.priorityPolicy = true) (ha : t.sla.or req.sla.revision = some a)
    (hc : t.Computes a req.now) :
    ∃ target, retarget req t = .ok { t with sla := some a, slaTarget := some target } := by
  unfold retarget
  rw [if_pos h]
  exact CaseTicket.applyPolicy_ok ha hc

lemma revision_eq_none (h : req.sla.priorityPolicy = false) : req.sla.revision = none := by
  by_contra hne
  have hpolicy := req.sla.revision_policy (Option.isSome_iff_ne_none.2 hne)
  rw [h] at hpolicy
  cases hpolicy

/-- an assigned ticket with a target for its assignment passes the end of the pause and the
evaluation. -/
lemma resume_evaluate_ok (ha : t.sla = some a) (hc : t.Computes a req.now) :
    ∃ u, (t.resumeSla req.sla req.now >>= fun p => p.2.evaluateSla req.sla req.now) = .ok u := by
  have happly : ∀ v : CaseTicket, v.sla = some a → v.Computes a req.now →
      ∃ w, v.applyPolicy req.sla req.now = .ok w ∧ w.sla = some a ∧ w.Computes a req.now := by
    intro v hv hcv
    have hrevision : v.sla.or req.sla.revision = some a := by rw [hv, Option.some_or]
    obtain ⟨target, htarget⟩ := CaseTicket.applyPolicy_ok hrevision hcv
    exact ⟨_, htarget, rfl, hcv⟩
  have heval : ∀ v : CaseTicket, v.sla = some a → v.Computes a req.now →
      ∃ w, v.evaluateSla req.sla req.now = .ok w := by
    intro v hv hcv
    obtain ⟨w, hw, -, -⟩ := happly v hv hcv
    unfold CaseTicket.evaluateSla
    split
    · exact ⟨v, rfl⟩
    · split
      · split
        · exact ⟨v, rfl⟩
        · exact ⟨w, hw⟩
      · exact ⟨v, rfl⟩
  unfold CaseTicket.resumeSla
  split
  · exact heval t ha hc
  · have hended : CaseTicket.Computes
        { t with pauses := CaseTicket.endPause req.now t.pauses } a req.now :=
      CaseTicket.computes_endPause.2 hc
    have hrec : ∃ v, CaseTicket.recalculate req.sla
        { t with pauses := CaseTicket.endPause req.now t.pauses } req.now = .ok v ∧
        v.sla = some a ∧ v.Computes a req.now := by
      unfold CaseTicket.recalculate
      split
      · exact happly _ ha hended
      · exact ⟨_, rfl, ha, hended⟩
    obtain ⟨v, hv, hvs, hvc⟩ := hrec
    obtain ⟨w, hw⟩ := heval v hvs hvc
    refine ⟨w, ?_⟩
    rw [hv]
    exact hw

lemma resume_evaluate_free (hrev : req.sla.revision = none)
    (h : t.sla = none ∨ req.sla.hasPolicy = false) :
    ∃ u, (t.resumeSla req.sla req.now >>= fun p => p.2.evaluateSla req.sla req.now) = .ok u := by
  have heval : ∀ v : CaseTicket, v.sla = none ∨ req.sla.hasPolicy = false →
      v.evaluateSla req.sla req.now = .ok v := by
    intro v hv
    unfold CaseTicket.evaluateSla
    rcases hv with hsla | hpolicy
    · rw [CaseTicket.ensureSlaAssignment_missing (by rw [hsla, hrev]; rfl)]
      split
      · rfl
      · split <;> rfl
    · rw [hpolicy]
      split <;> rfl
  unfold CaseTicket.resumeSla
  split
  · exact ⟨t, heval t h⟩
  · have hrec : CaseTicket.recalculate req.sla
        { t with pauses := CaseTicket.endPause req.now t.pauses } req.now =
        .ok { t with pauses := CaseTicket.endPause req.now t.pauses } := by
      unfold CaseTicket.recalculate
      rcases h with hsla | hpolicy
      · rw [if_neg (by simp [hsla])]
      · rw [if_neg (by simp [hpolicy])]
    rw [hrec]
    exact ⟨_, heval _ h⟩

lemma computes_of_resume_evaluate {u : CaseTicket} (ha : t.sla = some a)
    (hpolicy : req.sla.hasPolicy = true) (hdue : t.openPause.isSome = true ∨ t.slaTarget = none)
    (h : (t.resumeSla req.sla req.now >>= fun p => p.2.evaluateSla req.sla req.now) = .ok u) :
    t.Computes a req.now := by
  obtain ⟨⟨closed, v⟩, hv, hu⟩ := bind_eq_ok.1 h
  dsimp only at hu
  unfold CaseTicket.resumeSla at hv
  split at hv
  · rename_i hopen
    cases hv
    have htarget : t.slaTarget = none := by
      rcases hdue with hsome | hnone
      · rw [hopen] at hsome
        cases hsome
      · exact hnone
    unfold CaseTicket.evaluateSla at hu
    rw [htarget, if_neg (by simp), if_pos hpolicy,
      CaseTicket.ensureSlaAssignment_eq (a := a) (by rw [ha, Option.some_or])] at hu
    obtain ⟨b, hb, hc⟩ := CaseTicket.computes_of_applyPolicy hu
    rw [ha, Option.some_or] at hb
    cases hb
    exact hc
  · obtain ⟨w, hw, -⟩ := bind_eq_ok.1 hv
    unfold CaseTicket.recalculate at hw
    rw [if_pos (by simp [hpolicy, ha])] at hw
    obtain ⟨b, hb, hc⟩ := CaseTicket.computes_of_applyPolicy hw
    have hab : some b = some a := by
      rw [← ha, ← hb]
      show t.sla.or req.sla.revision = t.sla
      rw [ha, Option.some_or]
    cases hab
    exact CaseTicket.computes_endPause.1 hc

lemma reopenSla_ok_iff : (∃ u, reopenSla req t = .ok u) ↔ SlaApplies req t := by
  unfold SlaApplies
  by_cases hprio : req.sla.priorityPolicy = true
  · rw [if_pos hprio]
    constructor
    · rintro ⟨u, hu⟩
      obtain ⟨v, hv, -⟩ := bind_eq_ok.1 hu
      unfold retarget at hv
      rw [if_pos hprio] at hv
      exact CaseTicket.computes_of_applyPolicy hv
    · rintro ⟨a, ha, hc⟩
      obtain ⟨target, htarget⟩ := retarget_ok hprio ha hc
      unfold reopenSla
      rw [htarget]
      exact resume_evaluate_ok (t := { t with sla := some a, slaTarget := some target }) rfl hc
  · have hfalse : req.sla.priorityPolicy = false := eq_false_of_ne_true hprio
    rw [if_neg hprio]
    have hsame : reopenSla req t =
        (t.resumeSla req.sla req.now >>= fun p => p.2.evaluateSla req.sla req.now) := by
      unfold reopenSla retarget
      rw [if_neg hprio]
      rfl
    rw [hsame]
    constructor
    · rintro ⟨u, hu⟩ hlinked hdue a ha
      have hpolicy : req.sla.hasPolicy = true := by
        unfold SlaRows.hasPolicy
        rw [hlinked, Bool.true_or]
      exact computes_of_resume_evaluate ha hpolicy hdue hu
    · intro hcond
      cases hsla : t.sla with
      | none => exact resume_evaluate_free (revision_eq_none hfalse) (.inl hsla)
      | some a =>
        by_cases hlinked : req.sla.linkedPolicy = true
        · by_cases hdue : t.openPause.isSome = true ∨ t.slaTarget = none
          · exact resume_evaluate_ok hsla (hcond hlinked hdue a hsla)
          · rw [not_or] at hdue
            have hopen : t.openPause = none := Option.not_isSome_iff_eq_none.1 hdue.1
            have htarget : t.slaTarget.isSome = true := Option.isSome_iff_ne_none.2 hdue.2
            unfold CaseTicket.resumeSla
            rw [hopen]
            refine ⟨t, ?_⟩
            show t.evaluateSla req.sla req.now = .ok t
            unfold CaseTicket.evaluateSla
            rw [hopen, htarget, if_pos (by simp)]
        · have hpolicy : req.sla.hasPolicy = false := by
            unfold SlaRows.hasPolicy
            rw [hfalse, eq_false_of_ne_true hlinked]
            rfl
          exact resume_evaluate_free (revision_eq_none hfalse) (.inr hpolicy)

end Policy

/-! ## the ledger -/

section Ledger
variable (sha256 : Text → Text)

def FirstInvalidation (l : Ledger) (reason : Text) (now : Instant) : Prop :=
  ∀ i r, latestClosed l = some (i, r) → ∀ j q, l.get? j = some q → q.parentRecordId = some i →
    q.occurredAt = now ∧ q.payload = .invalidation i (priorDigest i r)
      (sha256 (reasonText reason)) (reasonText reason).length

variable {sha256} {l l' : Ledger} {reason : Text} {actorId : Option ℕ} {now : Instant}

namespace Ledger.Sound

lemma eq_invalidation (h : Sound sha256 l) {i j : ℕ} {r q : CaseOutcomeRecord}
    (hr : l.get? i = some r) (hq : l.get? j = some q) (hparent : q.parentRecordId = some i) :
    ∃ reason actorId now, q = invalidationRecord sha256 i r reason actorId now := by
  cases hstate : q.state with
  | closed =>
    obtain ⟨receipt, a, n, rfl⟩ := h.closed j q hq hstate
    cases hparent
  | reopened =>
    obtain ⟨i', r', reason, a, n, -, hr', -, rfl⟩ := h.reopened j q hq hstate
    cases hparent
    obtain rfl := Option.some.inj (hr'.symm.trans hr)
    exact ⟨reason, a, n, rfl⟩

end Ledger.Sound

lemma FirstInvalidation.invalidates (actorId : Option ℕ) (hl : l.Sound sha256)
    (h : FirstInvalidation sha256 l reason now) :
    ∃ p, invalidateLatestClosureReceipt sha256 l reason actorId now = .ok p := by
  have hspec := invalidation_spec sha256 l reason actorId now
  generalize invalidateLatestClosureReceipt sha256 l reason actorId now = result at hspec
  cases hspec with
  | noReceipt _ => exact ⟨_, rfl⟩
  | appended _ _ _ _ => exact ⟨_, rfl⟩
  | found _ _ _ _ _ _ _ _ => exact ⟨_, rfl⟩
  | conflict i j r q hlatest hq hkey hdiff =>
    obtain ⟨-, hparent⟩ := hl.reopened_of_key hq hkey
    obtain ⟨hr, -⟩ := Table.get?_of_latest hlatest
    obtain ⟨reason', a, n, heq⟩ := hl.eq_invalidation hr hq hparent
    obtain ⟨hnow, hpayload⟩ := h i r hlatest j q hq hparent
    have hsame : q.same (invalidationRecord sha256 i r reason actorId now) = true := by
      unfold CaseOutcomeRecord.same
      rw [hnow, hpayload, heq]
      simp [invalidationRecord]
    rw [hsame] at hdiff
    cases hdiff

lemma FirstInvalidation.atMostOnce (hl : l.Sound sha256) (hone : l.AtMostOnce)
    (h : FirstInvalidation sha256 l reason now)
    {b : Bool} (happend : invalidateLatestClosureReceipt sha256 l reason actorId now = .ok (b, l')) :
    l'.AtMostOnce := by
  have hspec := invalidation_spec sha256 l reason actorId now
  rw [happend] at hspec
  cases hspec with
  | noReceipt _ => exact hone
  | found _ _ _ _ _ _ _ _ => exact hone
  | appended i r hlatest hnew =>
    obtain ⟨hr, -⟩ := Table.get?_of_latest hlatest
    have hnone : ∀ j q, l.get? j = some q → q.parentRecordId ≠ some i := by
      intro j q hq hparent
      obtain ⟨reason', a, n, heq⟩ := hl.eq_invalidation hr hq hparent
      obtain ⟨-, hpayload⟩ := h i r hlatest j q hq hparent
      refine hnew j q hq ?_
      rw [heq] at hpayload ⊢
      have hsha : sha256 (reasonText reason') = sha256 (reasonText reason) :=
        (AssessmentPayload.invalidation.inj hpayload).2.2.1
      show invalidationKey i (sha256 (reasonText reason')) = _
      rw [hsha]
    intro p j k q q' hq hq' hs hs' hp hp'
    rw [Table.get?_insert] at hq hq'
    split at hq
    · rename_i hj
      cases hq
      cases hp
      split at hq'
      · rename_i hk
        rw [hj, hk]
      · exact absurd hp' (hnone k q' hq')
    · split at hq'
      · cases hq'
        cases hp'
        exact absurd hp (hnone j q hq)
      · exact hone p j k q q' hq hq' hs hs' hp hp'

lemma firstInvalidation_of_atMostOnce (hl : l.Sound sha256) (hone : l'.AtMostOnce) {b : Bool}
    (happend : invalidateLatestClosureReceipt sha256 l reason actorId now = .ok (b, l')) :
    FirstInvalidation sha256 l reason now := by
  intro i r hlatest j q hq hparent
  obtain ⟨hr, -⟩ := Table.get?_of_latest hlatest
  obtain ⟨reason', a, n, heq⟩ := hl.eq_invalidation hr hq hparent
  have hreopened : q.state = .reopened := by rw [heq]; rfl
  have hspec := invalidation_spec sha256 l reason actorId now
  rw [happend] at hspec
  cases hspec with
  | noReceipt hnone =>
    rw [hnone] at hlatest
    cases hlatest
  | appended i' r' hlatest' hnew =>
    obtain ⟨rfl, rfl⟩ := Prod.mk.inj (Option.some.inj (hlatest'.symm.trans hlatest))
    have hkey := hone i' j l.next q _ (Table.get?_insert_of_some l hq)
      (Table.get?_insert_self l _) hreopened rfl hparent rfl
    rw [hkey, Table.get?_eq_none_of_le l le_rfl] at hq
    cases hq
  | found i' k r' q' hlatest' hq' hkey hsame =>
    obtain ⟨rfl, rfl⟩ := Prod.mk.inj (Option.some.inj (hlatest'.symm.trans hlatest))
    obtain ⟨hreopened', hparent'⟩ := hl.reopened_of_key hq' hkey
    obtain rfl := hone i' j k q q' hq hq' hreopened hreopened' hparent hparent'
    obtain rfl := Option.some.inj (hq'.symm.trans hq)
    unfold CaseOutcomeRecord.same at hsame
    simp only [Bool.and_eq_true, decide_eq_true_eq] at hsame
    exact ⟨hsame.2, hsame.1.1.1.2⟩

lemma Ledger.AtMostOnce.of_subset (h : l'.AtMostOnce)
    (hsub : ∀ j q, l.get? j = some q → l'.get? j = some q) : l.AtMostOnce := by
  intro i j k q q' hq hq'
  exact h i j k q q' (hsub j q hq) (hsub k q' hq')

end Ledger

/-! ## runs -/

section Runs
variable (sha256 : Text → Text)

def opened (t : CaseTicket) : CaseState := ⟨t, Table.empty⟩

/-- a reopening of a resolved, closed or canceled ticket that the actor may see succeeds. -/
def ReopeningSucceeds (s : CaseState) (i : CaseRequest × CaseOp) : Prop :=
  match i.2 with
  | .reopenTicket _ _ =>
    terminal s.ticket.status = true → i.1.checked = .ok () →
      ∃ s', perform sha256 i.1 s i.2 = .ok s'
  | .recontact _ _ =>
    terminal s.ticket.status = true → ∃ s', perform sha256 i.1 s i.2 = .ok s'
  | _ => True

/-- a reopening is the first of its close, and the policy of its ticket applies. -/
def ReopensOnce (s : CaseState) (i : CaseRequest × CaseOp) : Prop :=
  match i.2 with
  | .reopenTicket _ reason =>
    terminal s.ticket.status = true → i.1.checked = .ok () →
      SlaApplies i.1 s.ticket ∧ FirstInvalidation sha256 s.ledger reason i.1.now
  | .recontact source externalMessageId =>
    terminal s.ticket.status = true →
      FirstInvalidation sha256 s.ledger (recontactReason source externalMessageId) i.1.now
  | _ => True

variable {sha256} {req : CaseRequest} {s s' : CaseState} {t : CaseTicket} {b : Bool}

lemma slaApplies_reopened :
    SlaApplies req (reopened t b) ↔ SlaApplies req t := Iff.rfl

lemma coreReopenTicket_ok_iff (hterminal : terminal t.status = true)
    (hchecked : req.checked = .ok ()) :
    (∃ u, coreReopenTicket req t b = .ok u) ↔ SlaApplies req t := by
  have hcore : coreReopenTicket req t b = sla (reopenSla req (reopened t b)) := by
    unfold coreReopenTicket
    rw [hchecked]
    unfold guard
    rw [if_pos hterminal]
    rfl
  rw [hcore, ← slaApplies_reopened (b := b), ← reopenSla_ok_iff]
  constructor
  · rintro ⟨u, hu⟩
    exact ⟨u, of_sla hu⟩
  · rintro ⟨u, hu⟩
    refine ⟨u, ?_⟩
    rw [hu]
    rfl

lemma reopenTicket_ok {reason : Text} (hl : s.ledger.Sound sha256)
    (hterminal : terminal s.ticket.status = true) (hchecked : req.checked = .ok ())
    (hsla : SlaApplies req s.ticket) (hfirst : FirstInvalidation sha256 s.ledger reason req.now) :
    ∃ s', reopenTicket sha256 req s b reason = .ok s' := by
  obtain ⟨u, hu⟩ := (coreReopenTicket_ok_iff (b := b) hterminal hchecked).2 hsla
  obtain ⟨⟨c, l⟩, hp⟩ := hfirst.invalidates req.actorId hl
  refine ⟨⟨u, l⟩, ?_⟩
  unfold reopenTicket
  rw [hu]
  show (invalidateLatestClosureReceipt sha256 s.ledger reason req.actorId req.now >>= _) = _
  rw [hp]
  rfl

lemma recontact_ok {source externalMessageId : Text} (hl : s.ledger.Sound sha256)
    (hterminal : terminal s.ticket.status = true)
    (hfirst : FirstInvalidation sha256 s.ledger (recontactReason source externalMessageId)
      req.now) :
    ∃ s', recontact sha256 req s source externalMessageId = .ok s' := by
  obtain ⟨⟨c, l⟩, hp⟩ := hfirst.invalidates req.actorId hl
  refine ⟨⟨recontacted s.ticket, l⟩, ?_⟩
  unfold recontact
  rw [if_pos hterminal, hp]
  rfl

lemma receiptAppend_atMostOnce {l l' : Ledger} {receipt : ClosureReceipt} {actorId : Option ℕ}
    {now : Instant} (hone : l.AtMostOnce)
    (h : appendClosureReceipt l receipt actorId now = .ok l') : l'.AtMostOnce := by
  have hspec := receiptAppend_spec l receipt actorId now
  rw [h] at hspec
  cases hspec with
  | found _ _ _ _ _ => exact hone
  | appended hnew =>
    intro i j k q q' hq hq' hs hs' hp hp'
    rw [Table.get?_insert] at hq hq'
    split at hq
    · cases hq
      cases hs
    · split at hq'
      · cases hq'
        cases hs'
      · exact hone i j k q q' hq hq' hs hs' hp hp'

section
variable (i : CaseRequest × CaseOp) (hl : s.ledger.Sound sha256)
include i hl

lemma step_atMostOnce (hone : s.ledger.AtMostOnce) (h : ReopensOnce sha256 s i) :
    (step sha256 i s).ledger.AtMostOnce := by
  obtain ⟨req, op⟩ := i
  unfold step
  cases hp : perform sha256 req s op with
  | error e => exact hone
  | ok s' =>
    show s'.ledger.AtMostOnce
    cases op with
    | changeStatus newStatus note gate =>
      obtain ⟨-, ⟨-, hsame⟩ | ⟨-, receipt, -, hl'⟩⟩ := changeStatus_spec hp
      · rw [hsame]
        exact hone
      · exact receiptAppend_atMostOnce hone hl'
    | reopenTicket b reason =>
      obtain ⟨t, ht, hrest⟩ := bind_eq_ok.1 hp
      obtain ⟨⟨c, l⟩, hl', hret⟩ := bind_eq_ok.1 hrest
      cases hret
      obtain ⟨hchecked, hterminal, -⟩ := coreReopenTicket_spec ht
      exact (h hterminal hchecked).2.atMostOnce hl hone hl'
    | recontact source externalMessageId =>
      change recontact sha256 req s source externalMessageId = .ok s' at hp
      unfold recontact at hp
      split at hp
      · rename_i hterminal
        obtain ⟨⟨c, l⟩, hl', hret⟩ := bind_eq_ok.1 hp
        cases hret
        exact FirstInvalidation.atMostOnce hl hone (h hterminal) hl'
      · cases hp
        exact hone
    | escalateTicket _ | visitorMessage _ _ | handoffCard | humanReply | aiReply _ | reuseTicket =>
      obtain ⟨_, -, hret⟩ := bind_eq_ok.1 hp
      cases hret
      exact hone

lemma reopeningSucceeds_of_once (h : ReopensOnce sha256 s i) : ReopeningSucceeds sha256 s i := by
  obtain ⟨req, op⟩ := i
  cases op with
  | reopenTicket b reason =>
    intro hterminal hchecked
    obtain ⟨hsla, hfirst⟩ := h hterminal hchecked
    exact reopenTicket_ok hl hterminal hchecked hsla hfirst
  | recontact source externalMessageId =>
    intro hterminal
    exact recontact_ok hl hterminal (h hterminal)
  | changeStatus _ _ _ | escalateTicket _ | visitorMessage _ _ => trivial
  | handoffCard | humanReply | aiReply _ | reuseTicket => trivial

lemma reopensOnce_of_succeeds (hone : (step sha256 i s).ledger.AtMostOnce)
    (h : ReopeningSucceeds sha256 s i) :
    ReopensOnce sha256 s i := by
  obtain ⟨req, op⟩ := i
  cases op with
  | reopenTicket b reason =>
    intro hterminal hchecked
    obtain ⟨s', hs'⟩ := h hterminal hchecked
    have hstep : step sha256 (req, .reopenTicket b reason) s = s' := by
      unfold step
      rw [hs']
    rw [hstep] at hone
    obtain ⟨t, ht, hrest⟩ := bind_eq_ok.1 hs'
    obtain ⟨⟨c, l⟩, hl', hret⟩ := bind_eq_ok.1 hrest
    cases hret
    exact ⟨(coreReopenTicket_ok_iff hterminal hchecked).1 ⟨t, ht⟩,
      firstInvalidation_of_atMostOnce hl hone hl'⟩
  | recontact source externalMessageId =>
    intro hterminal
    obtain ⟨s', hs'⟩ := h hterminal
    have hstep : step sha256 (req, .recontact source externalMessageId) s = s' := by
      unfold step
      rw [hs']
    rw [hstep] at hone
    change recontact sha256 req s source externalMessageId = .ok s' at hs'
    unfold recontact at hs'
    rw [if_pos hterminal] at hs'
    obtain ⟨⟨c, l⟩, hl', hret⟩ := bind_eq_ok.1 hs'
    cases hret
    exact firstInvalidation_of_atMostOnce hl hone hl'
  | changeStatus _ _ _ | escalateTicket _ | visitorMessage _ _ => trivial
  | handoffCard | humanReply | aiReply _ | reuseTicket => trivial

end

lemma run_reopening (l : List (CaseRequest × CaseOp)) (hl : s.ledger.Sound sha256)
    (hone : s.ledger.AtMostOnce) :
    (Along (step sha256) (ReopeningSucceeds sha256) s l ∧
      (run (step sha256) s l).ledger.AtMostOnce) ↔
    Along (step sha256) (ReopensOnce sha256) s l := by
  induction l generalizing s with
  | nil => exact ⟨fun _ => trivial, fun _ => ⟨trivial, hone⟩⟩
  | cons i rest ih =>
    have hl' : (step sha256 i s).ledger.Sound sha256 := (step_appends i s).sound hl
    constructor
    · rintro ⟨⟨hsucc, hrest⟩, hfinal⟩
      have hone' : (step sha256 i s).ledger.AtMostOnce :=
        Ledger.AtMostOnce.of_subset hfinal fun j q hq => run_get? rest hq
      exact ⟨reopensOnce_of_succeeds i hl hone' hsucc, (ih hl' hone').1 ⟨hrest, hfinal⟩⟩
    · rintro ⟨hfirst, hrest⟩
      have hone' := step_atMostOnce i hl hone hfirst
      obtain ⟨halong, hfinal⟩ := (ih hl' hone').2 hrest
      exact ⟨⟨reopeningSucceeds_of_once i hl hfirst, halong⟩, hfinal⟩

end Runs

theorem reopening_works_iff (sha256 : Text → Text) (t : CaseTicket)
    (l : List (CaseRequest × CaseOp)) :
    (Along (step sha256) (ReopeningSucceeds sha256) (opened t) l ∧
      (run (step sha256) (opened t) l).ledger.AtMostOnce) ↔
    Along (step sha256) (ReopensOnce sha256) (opened t) l := by
  refine run_reopening l Ledger.Sound.empty ?_
  intro i j k q q' hq
  cases hq

/-! ## a cancellation between two reopenings -/

def reasonDigest (s : Text) : Text :=
  if s = "still broken".toList then
    "97025fd789c9ac9408f37499a333681636b79ae6fce6ad403acc54a717aac975".toList
  else []

def workedOn : CaseTicket where
  status := .inProgress
  conversationState := .humanOwned
  assigneeId := some 7
  teamId := none
  createdAt := 0
  resolutionCategorySet := true
  scenario := none
  sla := none
  pauses := []
  closedAt := none
  resolvedAt := none
  reopenCount := 0
  resolutionSummary := none
  slaTarget := none

/-- an operator's request at a time, without policies. -/
def requestAt (now : Instant) : CaseRequest :=
  ⟨now, some 7, ⟨false, false, none, fun h => by cases h⟩, .ok ()⟩

def canceledAgain : List (CaseRequest × CaseOp) :=
  [(requestAt 1, .changeStatus .resolved [] (.error ⟨409, "closure_not_ready"⟩)),
   (requestAt 2, .changeStatus .closed "done".toList (.ok ⟨"d1".toList, none, some 3, true⟩)),
   (requestAt 3, .reopenTicket false "still broken".toList),
   (requestAt 4, .changeStatus .canceled "duplicate".toList (.error ⟨409, "closure_not_ready"⟩))]

def refusal {α : Type} : Except CaseError α → Option CaseError
  | .ok _ => none
  | .error e => some e

/-- the reopening of the canceled ticket for the old reason is refused. -/
theorem reopening_clashes :
    ¬(Along (step reasonDigest) (ReopeningSucceeds reasonDigest) (opened workedOn)
        (canceledAgain ++ [(requestAt 5, .reopenTicket false "still broken".toList)]) ∧
      (run (step reasonDigest) (opened workedOn) (canceledAgain ++
        [(requestAt 5, .reopenTicket false "still broken".toList)])).ledger.AtMostOnce) := by
  rintro ⟨halong, -⟩
  rw [along_append] at halong
  obtain ⟨-, hlast, -⟩ := halong
  have hterminal :
      terminal (run (step reasonDigest) (opened workedOn) canceledAgain).ticket.status = true := by
    decide +kernel
  have hrefused : refusal (perform reasonDigest (requestAt 5)
      (run (step reasonDigest) (opened workedOn) canceledAgain)
      (.reopenTicket false "still broken".toList)) =
      some (.value "case_outcome_idempotency_conflict") := by decide +kernel
  obtain ⟨s', hs'⟩ := hlast hterminal rfl
  rw [hs'] at hrefused
  cases hrefused

end NexusHelpdesk.Closure
