import NexusHelpdesk.Closure.Reopen

/-!
# Status, stamps and ledger agree

A closed ticket has its closing stamp and a `closed` record as its last assessment; an open one has
no stamp, and its last assessment is no `closed` record.

* `Coherent`: what a reader of the ticket relies on;
* `Settled`: the invariant, with what resolved and canceled tickets keep;
* `KeepsClosure`: the requests that keep it, seen from the state before them;
* `coherent_iff`: **every state of a run is coherent exactly if each of its requests that is
  carried out keeps the closure**;
* `escalation_keeps_stamp`: a closed ticket is escalated.
-/

namespace NexusHelpdesk.Closure

open Lib
open CaseTicket (SameCase)

lemma terminal_iff {s : TicketStatus} :
    terminal s = true ↔ s = .resolved ∨ s = .closed ∨ s = .canceled := by
  cases s <;> decide

def lastState (l : Ledger) : Option AssessmentState := (latestAssessment l).map (·.2.state)

structure Coherent (s : CaseState) : Prop where
  closed : s.ticket.status = .closed →
    s.ticket.closedAt ≠ none ∧ lastState s.ledger = some .closed
  open' : terminal s.ticket.status = false →
    s.ticket.closedAt = none ∧ s.ticket.resolvedAt = none ∧ lastState s.ledger ≠ some .closed

/-- a coherent case whose terminal phases have their stamps. -/
structure Settled (sha256 : Text → Text) (s : CaseState) : Prop where
  coherent : Coherent s
  sound : s.ledger.Sound sha256
  resolvedAt : s.ticket.status = .resolved ∨ s.ticket.status = .closed →
    s.ticket.resolvedAt ≠ none
  closedAt : s.ticket.status = .closed ∨ s.ticket.status = .canceled →
    s.ticket.closedAt ≠ none
  reopened : s.ticket.status ≠ .closed → lastState s.ledger ≠ some .closed

/-! ## the last assessment -/

section Last
variable {sha256 : Text → Text} {l l' : Ledger} {reason : Text} {actorId : Option ℕ}
  {now : Instant}

lemma lastState_insert (r : CaseOutcomeRecord) : lastState (l.insert r) = some r.state := by
  unfold lastState latestAssessment
  rw [Table.latest_insert, if_pos rfl]
  rfl

lemma lastState_eq_some {st : AssessmentState} (h : lastState l = some st) :
    ∃ j q, latestAssessment l = some (j, q) ∧ q.state = st := by
  obtain ⟨⟨j, q⟩, hjq, hst⟩ := Option.map_eq_some_iff.1 h
  exact ⟨j, q, hjq, hst⟩

lemma lastState_of_invalidation (hl : l.Sound sha256) {b : Bool}
    (h : invalidateLatestClosureReceipt sha256 l reason actorId now = .ok (b, l')) :
    lastState l' ≠ some .closed := by
  have hspec := invalidation_spec sha256 l reason actorId now
  rw [h] at hspec
  cases hspec with
  | noReceipt hnone =>
    intro hlast
    obtain ⟨j, q, hjq, hstate⟩ := lastState_eq_some hlast
    obtain ⟨hq, -⟩ := Table.get?_of_latest hjq
    have hno := Table.latest_eq_none.1 hnone j q hq
    rw [decide_eq_false_iff_not] at hno
    exact hno hstate
  | appended i r hlatest hnew =>
    rw [lastState_insert]
    intro hc
    cases hc
  | found i k r q' hlatest hq' hkey hsame =>
    intro hlast
    obtain ⟨j, q, hjq, hstate⟩ := lastState_eq_some hlast
    obtain ⟨hq, -⟩ := Table.get?_of_latest hjq
    -- the found record lies behind the latest `closed` one, and the last record behind both
    obtain ⟨hreopened, hparent⟩ := hl.reopened_of_key hq' hkey
    obtain ⟨i', r', reason', a, n, hlt, -, -, rfl⟩ := hl.reopened k q' hq' hreopened
    cases hparent
    have hkj : k ≤ j := Table.le_of_latest hjq hq' rfl
    have hji : j ≤ i := Table.le_of_latest hlatest hq (decide_eq_true hstate)
    omega

end Last

/-! ## what a request decides -/

section Decisions
variable {sha256 : Text → Text} {s s' : CaseState} {req : CaseRequest} {t : CaseTicket}
  {l : Ledger}

def Decides (sha256 : Text → Text) (s' : CaseState) (c : Prop) : Prop :=
  (Coherent s' → c) ∧ (c → Settled sha256 s')

lemma Decides.of_settled {c : Prop} (h : Settled sha256 s') (hc : c) : Decides sha256 s' c :=
  ⟨fun _ => hc, fun _ => h⟩

lemma settled_open (hl : l.Sound sha256) (hstatus : terminal t.status = false)
    (hclosed : t.closedAt = none) (hresolved : t.resolvedAt = none)
    (hlast : lastState l ≠ some .closed) : Settled sha256 ⟨t, l⟩ := by
  have hnot : ∀ st, t.status = st → terminal st = true → False := by
    intro st hst hterminal
    rw [hst, hterminal] at hstatus
    cases hstatus
  refine ⟨⟨?_, ?_⟩, hl, ?_, ?_, fun _ => hlast⟩
  · intro h
    exact (hnot _ h rfl).elim
  · intro _
    exact ⟨hclosed, hresolved, hlast⟩
  · rintro (h | h)
    · exact (hnot _ h rfl).elim
    · exact (hnot _ h rfl).elim
  · rintro (h | h)
    · exact (hnot _ h rfl).elim
    · exact (hnot _ h rfl).elim

lemma Settled.stamp (h : Settled sha256 s) (hterminal : terminal s.ticket.status = true) :
    ¬(s.ticket.closedAt = none ∧ s.ticket.resolvedAt = none) := by
  rintro ⟨hclosed, hresolved⟩
  rcases terminal_iff.1 hterminal with hst | hst | hst
  · exact h.resolvedAt (.inl hst) hresolved
  · exact h.closedAt (.inl hst) hclosed
  · exact h.closedAt (.inr hst) hclosed

lemma decides_moved (h : Settled sha256 s) (hstatus : terminal t.status = false)
    (hclosed : t.closedAt = s.ticket.closedAt) (hresolved : t.resolvedAt = s.ticket.resolvedAt) :
    Decides sha256 ⟨t, s.ledger⟩ (terminal s.ticket.status = false) := by
  constructor
  · intro hcoherent
    obtain ⟨hc, hr, -⟩ := hcoherent.open' hstatus
    by_contra hterminal
    exact h.stamp (eq_true_of_ne_false hterminal)
      ⟨hclosed.symm.trans hc, hresolved.symm.trans hr⟩
  · intro hopen
    obtain ⟨hc, hr, hlast⟩ := h.coherent.open' hopen
    exact settled_open h.sound hstatus (hclosed.trans hc) (hresolved.trans hr) hlast

lemma settled_kept (h : Settled sha256 s) (hstatus : t.status = s.ticket.status)
    (hclosed : t.closedAt = s.ticket.closedAt) (hresolved : t.resolvedAt = s.ticket.resolvedAt) :
    Settled sha256 ⟨t, s.ledger⟩ := by
  refine ⟨⟨?_, ?_⟩, h.sound, ?_, ?_, ?_⟩
  · show t.status = .closed → t.closedAt ≠ none ∧ _
    rw [hstatus, hclosed]
    exact h.coherent.closed
  · show terminal t.status = false → t.closedAt = none ∧ t.resolvedAt = none ∧ _
    rw [hstatus, hclosed, hresolved]
    exact h.coherent.open'
  · show t.status = .resolved ∨ t.status = .closed → t.resolvedAt ≠ none
    rw [hstatus, hresolved]
    exact h.resolvedAt
  · show t.status = .closed ∨ t.status = .canceled → t.closedAt ≠ none
    rw [hstatus, hclosed]
    exact h.closedAt
  · show t.status ≠ .closed → _
    rw [hstatus]
    exact h.reopened

lemma terminal_reopened (t : CaseTicket) (b : Bool) : terminal (reopened t b).status = false := by
  unfold reopened
  dsimp only
  split <;> rfl

lemma settled_reopenTicket {b : Bool} {reason : Text} (h : Settled sha256 s)
    (hok : reopenTicket sha256 req s b reason = .ok s') : Settled sha256 s' := by
  obtain ⟨t, ht, hrest⟩ := bind_eq_ok.1 hok
  obtain ⟨⟨c, l⟩, hl, hret⟩ := bind_eq_ok.1 hrest
  cases hret
  obtain ⟨-, -, hsame⟩ := coreReopenTicket_spec ht
  have hstatus : terminal t.status = false := by
    rw [hsame.status]
    exact terminal_reopened _ _
  exact settled_open ((Invalidation.appends hl).sound h.sound) hstatus hsame.closedAt
    hsame.resolvedAt (lastState_of_invalidation h.sound hl)

lemma settled_recontact {source externalMessageId : Text} (h : Settled sha256 s)
    (hok : recontact sha256 req s source externalMessageId = .ok s') : Settled sha256 s' := by
  unfold recontact at hok
  split at hok
  · obtain ⟨⟨c, l⟩, hl, hret⟩ := bind_eq_ok.1 hok
    cases hret
    exact settled_open ((Invalidation.appends hl).sound h.sound) rfl rfl rfl
      (lastState_of_invalidation h.sound hl)
  · cases hok
    exact h

lemma status_of_allowed {a b : TicketStatus} (h : b ∈ allowedTransitions a) :
    b = .closed ∧ a = .resolved ∨ b ≠ .closed ∧ terminal a = false := by
  cases a <;> cases b <;> first | (exfalso; revert h; decide) | decide

lemma settled_changed {newStatus : TicketStatus} {note : Text} (h : Settled sha256 s)
    (hne : newStatus ≠ .closed)
    (hcore : coreChangeStatus req s.ticket newStatus note = .ok t) :
    Settled sha256 ⟨t, s.ledger⟩ := by
  obtain ⟨hallowed, hsame⟩ := coreChangeStatus_spec hcore
  have hopen : terminal s.ticket.status = false := by
    rcases status_of_allowed hallowed with ⟨hclosed, -⟩ | ⟨-, hopen⟩
    · exact absurd hclosed hne
    · exact hopen
  obtain ⟨hc, hr, hlast⟩ := h.coherent.open' hopen
  have hstatus : t.status = newStatus := hsame.status
  have hclosedAt : t.closedAt = if newStatus = .canceled then some req.now else none := by
    rw [hsame.closedAt]
    unfold stamped
    simp only [hne, false_or]
    rw [hc]
  have hresolvedAt : t.resolvedAt = if newStatus = .resolved then some req.now else none := by
    rw [hsame.resolvedAt]
    unfold stamped
    rw [hr]
  refine ⟨⟨?_, ?_⟩, h.sound, ?_, ?_, fun _ => hlast⟩
  · intro hbad
    exact absurd (hstatus.symm.trans hbad) hne
  · intro hnot
    change terminal t.status = false at hnot
    rw [hstatus] at hnot
    refine ⟨?_, ?_, hlast⟩
    · show t.closedAt = none
      rw [hclosedAt, if_neg]
      rintro rfl
      cases hnot
    · show t.resolvedAt = none
      rw [hresolvedAt, if_neg]
      rintro rfl
      cases hnot
  · rintro (hres | hbad)
    · show t.resolvedAt ≠ none
      rw [hresolvedAt, if_pos (hstatus.symm.trans hres)]
      exact Option.some_ne_none _
    · exact absurd (hstatus.symm.trans hbad) hne
  · rintro (hbad | hcanceled)
    · exact absurd (hstatus.symm.trans hbad) hne
    · show t.closedAt ≠ none
      rw [hclosedAt, if_pos (hstatus.symm.trans hcanceled)]
      exact Option.some_ne_none _

lemma decides_close {note : Text} {receipt : ClosureReceipt} (h : Settled sha256 s)
    (hcore : coreChangeStatus req s.ticket .closed note = .ok t)
    (happend : appendClosureReceipt s.ledger receipt req.actorId req.now = .ok l) :
    Decides sha256 ⟨t, l⟩ (∀ j q, s.ledger.get? j = some q →
      q.idempotencyKey ≠ receiptKey receipt.receiptSha256) := by
  obtain ⟨hallowed, hsame⟩ := coreChangeStatus_spec hcore
  have hresolved : s.ticket.status = .resolved := by
    rcases status_of_allowed hallowed with ⟨-, hres⟩ | ⟨hbad, -⟩
    · exact hres
    · exact absurd rfl hbad
  have hstatus : t.status = .closed := hsame.status
  have hspec := receiptAppend_spec s.ledger receipt req.actorId req.now
  rw [happend] at hspec
  cases hspec with
  | found j q hq hkey hsameRecord =>
    constructor
    · intro hcoherent
      exact absurd (hcoherent.closed hstatus).2 (h.reopened (by rw [hresolved]; decide))
    · intro hnew
      exact absurd hkey (hnew j q hq)
  | appended hnew =>
    refine Decides.of_settled ?_ hnew
    have hclosedAt : t.closedAt ≠ none := by
      rw [hsame.closedAt]
      exact Option.some_ne_none _
    have hresolvedAt : t.resolvedAt ≠ none := by
      rw [hsame.resolvedAt]
      exact h.resolvedAt (.inl hresolved)
    refine ⟨⟨?_, ?_⟩, h.sound.insert_receipt hnew, fun _ => hresolvedAt, fun _ => hclosedAt, ?_⟩
    · intro _
      exact ⟨hclosedAt, lastState_insert _⟩
    · intro hnot
      change terminal t.status = false at hnot
      rw [hstatus] at hnot
      cases hnot
    · intro hbad
      exact absurd hstatus hbad

lemma decides_visitorMessage {suspended resumes : Bool} (h : Settled sha256 s) :
    Decides sha256 ⟨visitorMessage s.ticket suspended resumes, s.ledger⟩
      (s.ticket.status ≠ .resolved ∧ s.ticket.status ≠ .closed) := by
  by_cases hback : s.ticket.status = .resolved ∨ s.ticket.status = .closed
  · have hstatus : terminal (visitorMessage s.ticket suspended resumes).status = false := by
      unfold visitorMessage
      rw [if_pos hback]
      split <;> rfl
    have hclosed : (visitorMessage s.ticket suspended resumes).closedAt = s.ticket.closedAt := by
      unfold visitorMessage
      rw [if_pos hback]
      split <;> rfl
    have hres : (visitorMessage s.ticket suspended resumes).resolvedAt = s.ticket.resolvedAt := by
      unfold visitorMessage
      rw [if_pos hback]
      split <;> rfl
    have hterminal : terminal s.ticket.status = true :=
      terminal_iff.2 (hback.imp_right .inl)
    have hnot := (decides_moved h hstatus hclosed hres).1
    constructor
    · intro hcoherent
      rw [hnot hcoherent] at hterminal
      cases hterminal
    · rintro ⟨hr, hc⟩
      exact (hback.elim hr hc).elim
  · refine Decides.of_settled (settled_kept h ?_ ?_ ?_) (not_or.1 hback)
    all_goals
      unfold visitorMessage
      rw [if_neg hback]
      split <;> split <;> rfl

lemma decides_reuseTicket (h : Settled sha256 s) :
    Decides sha256 ⟨reuseTicket s.ticket, s.ledger⟩ (s.ticket.status ≠ .closed) := by
  by_cases hterminal : terminal s.ticket.status = true
  · have hopen : terminal (reuseTicket s.ticket).status = false := by
      unfold reuseTicket
      dsimp only
      rw [if_pos hterminal]
      dsimp only
      split <;> rfl
    have hclosed : (reuseTicket s.ticket).closedAt = none := by
      unfold reuseTicket
      dsimp only
      rw [if_pos hterminal]
    have hres : (reuseTicket s.ticket).resolvedAt = none := by
      unfold reuseTicket
      dsimp only
      rw [if_pos hterminal]
    constructor
    · intro hcoherent hst
      exact (hcoherent.open' hopen).2.2 (h.coherent.closed hst).2
    · intro hst
      exact settled_open h.sound hopen hclosed hres (h.reopened hst)
  · have hopen : terminal s.ticket.status = false := eq_false_of_ne_true hterminal
    obtain ⟨hc, hr, hlast⟩ := h.coherent.open' hopen
    refine Decides.of_settled (settled_open h.sound ?_ ?_ ?_ hlast) ?_
    · unfold reuseTicket
      dsimp only
      rw [if_neg hterminal]
      split
      · dsimp only
        split <;> rfl
      · exact hopen
    · unfold reuseTicket
      dsimp only
      rw [if_neg hterminal]
      split <;> exact hc
    · unfold reuseTicket
      dsimp only
      rw [if_neg hterminal]
      split <;> exact hr
    · rintro hst
      rw [hst] at hopen
      cases hopen

end Decisions

/-! ## runs -/

section Runs
variable (sha256 : Text → Text)

/-- what a request asks of the case, if it is carried out. -/
def closureCondition (s : CaseState) : CaseOp → Prop
  | .changeStatus newStatus _ gate =>
    newStatus = .closed → ∀ receipt, gate = .ok receipt → ∀ j q, s.ledger.get? j = some q →
      q.idempotencyKey ≠ receiptKey receipt.receiptSha256
  | .escalateTicket _ | .handoffCard | .humanReply | .aiReply false =>
    terminal s.ticket.status = false
  | .visitorMessage _ _ => s.ticket.status ≠ .resolved ∧ s.ticket.status ≠ .closed
  | .reuseTicket => s.ticket.status ≠ .closed
  | .reopenTicket _ _ | .recontact _ _ | .aiReply true => True

/-- a request that is carried out moves no terminal ticket past its stamps and receipts. -/
def KeepsClosure (s : CaseState) (i : CaseRequest × CaseOp) : Prop :=
  (∃ s', perform sha256 i.1 s i.2 = .ok s') → closureCondition s i.2

variable {sha256} {s s' : CaseState}

lemma decides_perform {req : CaseRequest} {op : CaseOp} (h : Settled sha256 s)
    (hok : perform sha256 req s op = .ok s') : Decides sha256 s' (closureCondition s op) := by
  cases op with
  | changeStatus newStatus note gate =>
    obtain ⟨hcore, ⟨hne, hledger⟩ | ⟨rfl, receipt, rfl, happend⟩⟩ := changeStatus_spec hok
    · obtain ⟨t, l⟩ := s'
      dsimp only at hcore hledger
      subst hledger
      exact Decides.of_settled (settled_changed h hne hcore) fun hc => absurd hc hne
    · have hdecides := decides_close h hcore happend
      constructor
      · intro hcoherent _ receipt' hr
        cases hr
        exact hdecides.1 hcoherent
      · intro hcond
        exact hdecides.2 (hcond rfl receipt rfl)
  | reopenTicket b reason => exact Decides.of_settled (settled_reopenTicket h hok) trivial
  | recontact source externalMessageId =>
    exact Decides.of_settled (settled_recontact h hok) trivial
  | escalateTicket teamId =>
    obtain ⟨t, ht, hret⟩ := bind_eq_ok.1 hok
    cases hret
    have hsame := escalateTicket_spec ht
    exact decides_moved h (by rw [hsame.status]; rfl) hsame.closedAt hsame.resolvedAt
  | visitorMessage suspended resumes =>
    obtain ⟨_, -, hret⟩ := bind_eq_ok.1 hok
    cases hret
    exact decides_visitorMessage h
  | handoffCard =>
    obtain ⟨_, -, hret⟩ := bind_eq_ok.1 hok
    cases hret
    exact decides_moved h rfl rfl rfl
  | humanReply =>
    obtain ⟨t, ht, hret⟩ := bind_eq_ok.1 hok
    cases hret
    have hsame := humanReply_spec ht
    exact decides_moved h (by rw [hsame.status]; rfl) hsame.closedAt hsame.resolvedAt
  | aiReply suspended =>
    obtain ⟨t, ht, hret⟩ := bind_eq_ok.1 hok
    cases hret
    have hsame := aiReply_spec ht
    cases suspended with
    | true =>
      exact Decides.of_settled (settled_kept h hsame.status hsame.closedAt hsame.resolvedAt)
        trivial
    | false => exact decides_moved h (by rw [hsame.status]; rfl) hsame.closedAt hsame.resolvedAt
  | reuseTicket =>
    obtain ⟨_, -, hret⟩ := bind_eq_ok.1 hok
    cases hret
    exact decides_reuseTicket h

lemma step_decides (i : CaseRequest × CaseOp) (h : Settled sha256 s) :
    Decides sha256 (step sha256 i s) (KeepsClosure sha256 s i) := by
  unfold step
  cases hok : perform sha256 i.1 s i.2 with
  | error e =>
    refine Decides.of_settled h ?_
    rintro ⟨s', hs'⟩
    rw [hok] at hs'
    cases hs'
  | ok s' =>
    have hdecides := decides_perform h hok
    constructor
    · intro hcoherent _
      exact hdecides.1 hcoherent
    · intro hkeeps
      exact hdecides.2 (hkeeps ⟨s', hok⟩)

end Runs

/-- a case at its start: open, without stamps and without closure records. -/
structure Fresh (s : CaseState) : Prop where
  status : terminal s.ticket.status = false
  closedAt : s.ticket.closedAt = none
  resolvedAt : s.ticket.resolvedAt = none
  ledger : s.ledger = Table.empty

lemma Fresh.settled {sha256 : Text → Text} {s : CaseState} (h : Fresh s) :
    Settled sha256 s := by
  obtain ⟨t, l⟩ := s
  obtain ⟨hstatus, hclosed, hresolved, rfl⟩ := h
  refine settled_open Ledger.Sound.empty hstatus hclosed hresolved ?_
  intro hlast
  cases hlast

theorem coherent_iff (sha256 : Text → Text) (s : CaseState) (l : List (CaseRequest × CaseOp))
    (hs : Fresh s) :
    (∀ p, p <+: l → Coherent (run (step sha256) s p)) ↔
      Along (step sha256) (KeepsClosure sha256) s l := by
  have hsettled : Settled sha256 s := hs.settled
  rw [forall_prefix_iff, and_iff_right hsettled.coherent]
  refine Along.congr (I := Settled sha256) (A := fun _ _ => True) ?_ ?_ hsettled (along_true s l)
  · intro s i h _
    exact ⟨(step_decides i h).1, fun hk => ((step_decides i h).2 hk).coherent⟩
  · intro s i h _ hk
    exact (step_decides i h).2 hk

/-- an escalation and a reply on a ticket in work. -/
theorem coherent_escalated :
    Coherent (run (step reasonDigest) (opened workedOn)
      [(requestAt 1, CaseOp.escalateTicket 4), (requestAt 2, CaseOp.humanReply)]) := by
  refine (coherent_iff reasonDigest (opened workedOn) _ ⟨rfl, rfl, rfl, rfl⟩).2 ?_ _ List.prefix_rfl
  refine ⟨fun _ => rfl, fun _ => ?_, trivial⟩
  show terminal (step reasonDigest (requestAt 1, .escalateTicket 4) (opened workedOn)).ticket.status
    = false
  decide +kernel

def escalatedAfterClose : List (CaseRequest × CaseOp) :=
  [(requestAt 1, .changeStatus .resolved [] (.error ⟨409, "closure_not_ready"⟩)),
   (requestAt 2, .changeStatus .closed "done".toList (.ok ⟨"d1".toList, none, some 3, true⟩)),
   (requestAt 3, .escalateTicket 4)]

theorem escalation_keeps_stamp :
    ¬∀ p, p <+: escalatedAfterClose →
      Coherent (run (step reasonDigest) (opened workedOn) p) := by
  intro h
  have hlast := h escalatedAfterClose List.prefix_rfl
  have hstatus : terminal
      (run (step reasonDigest) (opened workedOn) escalatedAfterClose).ticket.status = false := by
    decide +kernel
  have hclosed :
      (run (step reasonDigest) (opened workedOn) escalatedAfterClose).ticket.closedAt =
        some 2 := by decide +kernel
  rw [(hlast.open' hstatus).1] at hclosed
  cases hclosed

end NexusHelpdesk.Closure
