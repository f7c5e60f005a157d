import NexusHelpdesk.Lib.Run
import NexusHelpdesk.Closure.Ledger

/-!
# Writers of a case's status

The requests that move a ticket into or out of a terminal status: `ticket_service.py` with its
core, `customer_recontact_service.py`, the WebChat message, card and reply services, the AI reply
and the ticket reuse of `auto_ticket_service.py`.

* `validateTransition`: the table of allowed transitions;
* `changeStatus`, `reopenTicket`, `escalateTicket`: the operator's requests;
* `recontact`: `reopen_ticket_from_customer_message`;
* `visitorMessage`, `handoffCard`, `humanReply`, `aiReply`, `reuseTicket`: the other writers;
* `perform`, `step`: one request, and what it commits;
* `Appends`: **the ledger only grows, by a receipt or an invalidation at a time**.

A request that raises is rolled back.
-/

namespace NexusHelpdesk.Closure

open Lib

structure CaseState where
  ticket : CaseTicket
  ledger : Ledger

/-- what a request finds outside the ticket and its ledger. -/
structure CaseRequest where
  now : Instant
  actorId : Option ℕ
  sla : SlaRows
  /-- the lookups, the permissions and the content policies of the request. -/
  checked : Except HTTPException Unit

inductive CaseOp where
  /-- the gate is the answer of `require_closure_ready`. -/
  | changeStatus (newStatus : TicketStatus) (note : Text)
      (gate : Except HTTPException ClosureReceipt)
  | reopenTicket (assignToPrevious : Bool) (reason : Text)
  | escalateTicket (teamId : ℕ)
  | recontact (source externalMessageId : Text)
  | visitorMessage (aiSuspended aiResumes : Bool)
  | handoffCard
  | humanReply
  | aiReply (aiSuspended : Bool)
  | reuseTicket

/-! ## transitions -/

def allowedTransitions : TicketStatus → List TicketStatus
  | .new => [.pendingAssignment, .inProgress, .canceled]
  | .pendingAssignment => [.inProgress, .canceled, .escalated]
  | .inProgress => [.waitingCustomer, .waitingInternal, .resolved, .canceled, .escalated]
  | .waitingCustomer => [.inProgress, .resolved, .canceled, .escalated]
  | .waitingInternal => [.inProgress, .resolved, .canceled, .escalated]
  | .escalated => [.inProgress, .waitingInternal, .resolved, .canceled]
  | .resolved => [.closed]
  | .closed => []
  | .canceled => []

def statusValue : TicketStatus → String
  | .new => "new"
  | .pendingAssignment => "pending_assignment"
  | .inProgress => "in_progress"
  | .waitingCustomer => "waiting_customer"
  | .waitingInternal => "waiting_internal"
  | .escalated => "escalated"
  | .resolved => "resolved"
  | .closed => "closed"
  | .canceled => "canceled"

def validateTransition (current wanted : TicketStatus) : Except CaseError Unit :=
  if wanted ∈ allowedTransitions current then .ok ()
  else .error (.http ⟨400,
    s!"Invalid transition: {statusValue current} -> {statusValue wanted}"⟩)

def requiresNote (s : TicketStatus) : Bool := s = .canceled || s = .closed

def terminal (s : TicketStatus) : Bool := s = .resolved || s = .closed || s = .canceled

/-! ## the operator's requests -/

section Operator
variable (req : CaseRequest) (t : CaseTicket)

/-- an SLA refusal inside a request. -/
def sla {α : Type} : Except Sla.SLAConfigurationError α → Except CaseError α
  | .ok a => .ok a
  | .error e => .error (.sla e)

def check : Except HTTPException Unit → Except CaseError Unit
  | .ok () => .ok ()
  | .error e => .error (.http e)

def guard (p : Prop) [Decidable p] (code : ℕ) (detail : String) : Except CaseError Unit :=
  if p then .ok () else .error (.http ⟨code, detail⟩)

def stamped (newStatus : TicketStatus) : CaseTicket :=
  { t with
    status := newStatus
    resolvedAt := if newStatus = .resolved then some req.now else t.resolvedAt
    closedAt :=
      if newStatus = .closed ∨ newStatus = .canceled then some req.now else t.closedAt }

/-- a close or a cancellation ends the pause first. -/
def endSla (newStatus : TicketStatus) : Except Sla.SLAConfigurationError CaseTicket :=
  if newStatus = .closed ∨ newStatus = .canceled then do
    let (_, t) ← t.resumeSla req.sla req.now
    return t
  else .ok t

def statusSla (newStatus : TicketStatus) : Except Sla.SLAConfigurationError CaseTicket := do
  let t ← endSla req t newStatus
  let t ← t.updatePauseState req.sla newStatus req.now
  t.evaluateSla req.sla req.now

def coreChangeStatus (newStatus : TicketStatus) (note : Text) : Except CaseError CaseTicket := do
  let _ ← check req.checked
  let _ ← validateTransition t.status newStatus
  let _ ← guard (¬(requiresNote newStatus = true ∧ note = [])) 400
    "This status change requires a note"
  let _ ← guard (¬(newStatus = .closed ∧ t.resolutionCategorySet = false)) 400
    "Resolution category is required before closing a ticket"
  sla (statusSla req (stamped req t newStatus) newStatus)

/-- `change_status`: a close needs a receipt, which the ledger keeps. -/
def changeStatus (s : CaseState) (newStatus : TicketStatus) (note : Text)
    (gate : Except HTTPException ClosureReceipt) : Except CaseError CaseState :=
  if newStatus = .closed then
    match gate with
    | .error e => .error (.http e)
    | .ok receipt => do
      let t ← coreChangeStatus req s.ticket newStatus note
      let l ← appendClosureReceipt s.ledger receipt req.actorId req.now
      return ⟨t, l⟩
  else do
    let t ← coreChangeStatus req s.ticket newStatus note
    return ⟨t, s.ledger⟩

def reopened (assignToPrevious : Bool) : CaseTicket :=
  let keeps := assignToPrevious && t.assigneeId.isSome
  { t with
    reopenCount := t.reopenCount + 1
    closedAt := none
    resolvedAt := none
    assigneeId := if keeps then t.assigneeId else none
    status := if keeps then .inProgress else .pendingAssignment }

def retarget : Except Sla.SLAConfigurationError CaseTicket :=
  if req.sla.priorityPolicy then t.applyPolicy req.sla req.now else .ok t

/-- the SLA of a reopened ticket: the policy of its priority, the end of its pause, the targets. -/
def reopenSla : Except Sla.SLAConfigurationError CaseTicket := do
  let t ← retarget req t
  let (_, t) ← t.resumeSla req.sla req.now
  t.evaluateSla req.sla req.now

def coreReopenTicket (assignToPrevious : Bool) : Except CaseError CaseTicket := do
  let _ ← check req.checked
  let _ ← guard (terminal t.status) 400
    "Only resolved, closed, or canceled tickets can be reopened"
  sla (reopenSla req (reopened t assignToPrevious))

def escalateTicket (teamId : ℕ) : Except CaseError CaseTicket := do
  let _ ← check req.checked
  sla (CaseTicket.evaluateSla req.sla
    { t with teamId := some teamId, assigneeId := none, status := .escalated } req.now)

end Operator

section Reopen
variable (sha256 : Text → Text) (req : CaseRequest) (s : CaseState)

def reopenTicket (assignToPrevious : Bool) (reason : Text) : Except CaseError CaseState := do
  let t ← coreReopenTicket req s.ticket assignToPrevious
  let (_, l) ← invalidateLatestClosureReceipt sha256 s.ledger reason req.actorId req.now
  return ⟨t, l⟩

/-! ## the customer's requests -/

def recontactReason (source externalMessageId : Text) : Text :=
  let given := (PyStr.stripChars (if source = [] then "channel_intake".toList else source)).take 80
  let sourceValue := if given = [] then "channel_intake".toList else given
  let identity := (PyStr.stripChars externalMessageId).take 180
  "Customer recontact via ".toList ++ sourceValue ++ "; message identity ".toList ++
    (if identity = [] then "unavailable".toList else identity)

/-- the fields of a ticket that the customer reopens. -/
def recontacted (t : CaseTicket) : CaseTicket :=
  { t with
    status := .pendingAssignment
    reopenCount := t.reopenCount + 1
    closedAt := none
    resolvedAt := none
    resolutionSummary := none
    conversationState := .reopenedByCustomer }

/-- `reopen_ticket_from_customer_message`. -/
def recontact (source externalMessageId : Text) : Except CaseError CaseState :=
  if terminal s.ticket.status then do
    let (_, l) ← invalidateLatestClosureReceipt sha256 s.ledger
      (recontactReason source externalMessageId) req.actorId req.now
    return ⟨recontacted s.ticket, l⟩
  else .ok s

end Reopen

section Customer
variable (req : CaseRequest) (t : CaseTicket)

/-- `add_visitor_message_to_conversation` with a new message; `aiResumes` when a stale handoff
request of the conversation gives it back to the AI. -/
def visitorMessage (aiSuspended aiResumes : Bool) : CaseTicket :=
  let t : CaseTicket :=
    if t.status = .resolved ∨ t.status = .closed then
      { t with status := .pendingAssignment, conversationState := .reopenedByCustomer }
    else if t.conversationState ≠ .humanReviewRequired ∧ aiSuspended = false then
      { t with conversationState := .humanOwned }
    else t
  if aiResumes then { t with conversationState := .aiActive } else t

/-- `submit_card_action_to_conversation` with an action that asks for a human. -/
def handoffCard : CaseTicket :=
  { t with toTicket := Ticket.awaitHuman { t.toTicket with status := .inProgress } }

/-! ## the other writers -/

def waiting : CaseTicket :=
  { t with status := .waitingCustomer, conversationState := .waitingCustomer }

/-- `reply_to_conversation` on a conversation with a ticket. -/
def humanReply : Except CaseError CaseTicket := do
  let _ ← check req.checked
  sla ((waiting t).evaluateSla req.sla req.now)

/-- the reply that `process_webchat_ai_reply_job` persists. -/
def aiReply (aiSuspended : Bool) : Except CaseError CaseTicket := do
  let _ ← check req.checked
  sla (CaseTicket.evaluateSla req.sla
    (if aiSuspended then { t with conversationState := .humanReviewRequired } else waiting t)
    req.now)

/-- `_project_existing_ticket_to_human_review`, when `create_or_reuse_ticket_from_case_context`
finds the ticket. -/
def reuseTicket : CaseTicket :=
  let taken : TicketStatus := if t.assigneeId.isSome then .inProgress else .pendingAssignment
  let state : ConversationState :=
    if t.assigneeId.isSome then .humanOwned else .humanReviewRequired
  if terminal t.status then
    { t with
      status := taken
      closedAt := none
      resolvedAt := none
      reopenCount := t.reopenCount + 1
      conversationState := state }
  else if t.status = .new ∨ (t.status = .pendingAssignment ∧ t.assigneeId.isSome) then
    { t with status := taken, conversationState := state }
  else { t with conversationState := state }

end Customer

section Requests
variable (sha256 : Text → Text)

def perform (req : CaseRequest) (s : CaseState) : CaseOp → Except CaseError CaseState
  | .changeStatus newStatus note gate => changeStatus req s newStatus note gate
  | .reopenTicket assignToPrevious reason => reopenTicket sha256 req s assignToPrevious reason
  | .escalateTicket teamId => do
    let t ← escalateTicket req s.ticket teamId
    return ⟨t, s.ledger⟩
  | .recontact source externalMessageId => recontact sha256 req s source externalMessageId
  | .visitorMessage aiSuspended aiResumes => do
    let _ ← check req.checked
    return ⟨visitorMessage s.ticket aiSuspended aiResumes, s.ledger⟩
  | .handoffCard => do
    let _ ← check req.checked
    return ⟨handoffCard s.ticket, s.ledger⟩
  | .humanReply => do
    let t ← humanReply req s.ticket
    return ⟨t, s.ledger⟩
  | .aiReply aiSuspended => do
    let t ← aiReply req s.ticket aiSuspended
    return ⟨t, s.ledger⟩
  | .reuseTicket => do
    let _ ← check req.checked
    return ⟨reuseTicket s.ticket, s.ledger⟩

def step (i : CaseRequest × CaseOp) (s : CaseState) : CaseState :=
  match perform sha256 i.1 s i.2 with
  | .ok s' => s'
  | .error _ => s

end Requests

/-! ## what a request leaves -/

section Specs
variable {req : CaseRequest} {t u : CaseTicket} {newStatus : TicketStatus} {note : Text}

open CaseTicket (SameCase)

lemma of_sla {α : Type} {x : Except Sla.SLAConfigurationError α} {a : α} (h : sla x = .ok a) :
    x = .ok a := by
  cases x with
  | error e => cases h
  | ok b =>
    cases h
    rfl

lemma sameCase_endSla (h : endSla req t newStatus = .ok u) : SameCase t u := by
  unfold endSla at h
  split at h
  · obtain ⟨⟨closed, v⟩, hv, hret⟩ := bind_eq_ok.1 h
    cases hret
    exact CaseTicket.sameCase_resumeSla hv
  · cases h
    exact SameCase.refl t

lemma coreChangeStatus_spec (h : coreChangeStatus req t newStatus note = .ok u) :
    newStatus ∈ allowedTransitions t.status ∧ SameCase (stamped req t newStatus) u := by
  unfold coreChangeStatus at h
  obtain ⟨_, -, h⟩ := bind_eq_ok.1 h
  obtain ⟨_, hallowed, h⟩ := bind_eq_ok.1 h
  obtain ⟨_, -, h⟩ := bind_eq_ok.1 h
  obtain ⟨_, -, h⟩ := bind_eq_ok.1 h
  have hmem : newStatus ∈ allowedTransitions t.status := by
    by_contra hnot
    unfold validateTransition at hallowed
    rw [if_neg hnot] at hallowed
    cases hallowed
  refine ⟨hmem, ?_⟩
  have hsla := of_sla h
  unfold statusSla at hsla
  obtain ⟨v, hv, hsla⟩ := bind_eq_ok.1 hsla
  obtain ⟨w, hw, hu⟩ := bind_eq_ok.1 hsla
  exact (sameCase_endSla hv).trans
    ((CaseTicket.sameCase_updatePauseState hw).trans (CaseTicket.sameCase_evaluateSla hu))

lemma changeStatus_spec {s s' : CaseState} {gate : Except HTTPException ClosureReceipt}
    (h : changeStatus req s newStatus note gate = .ok s') :
    coreChangeStatus req s.ticket newStatus note = .ok s'.ticket ∧
      (newStatus ≠ .closed ∧ s'.ledger = s.ledger ∨
        newStatus = .closed ∧ ∃ receipt, gate = .ok receipt ∧
          appendClosureReceipt s.ledger receipt req.actorId req.now = .ok s'.ledger) := by
  unfold changeStatus at h
  split at h
  · rename_i hclosed
    split at h
    · cases h
    · rename_i receipt
      obtain ⟨t, ht, h⟩ := bind_eq_ok.1 h
      obtain ⟨l, hl, hret⟩ := bind_eq_ok.1 h
      cases hret
      exact ⟨ht, .inr ⟨hclosed, receipt, rfl, hl⟩⟩
  · rename_i hopen
    obtain ⟨t, ht, hret⟩ := bind_eq_ok.1 h
    cases hret
    exact ⟨ht, .inl ⟨hopen, rfl⟩⟩

lemma sameCase_retarget (h : retarget req t = .ok u) : SameCase t u := by
  unfold retarget at h
  split at h
  · exact CaseTicket.sameCase_applyPolicy h
  · cases h
    exact SameCase.refl t

lemma sameCase_reopenSla (h : reopenSla req t = .ok u) : SameCase t u := by
  unfold reopenSla at h
  obtain ⟨v, hv, h⟩ := bind_eq_ok.1 h
  obtain ⟨⟨closed, w⟩, hw, hu⟩ := bind_eq_ok.1 h
  exact (sameCase_retarget hv).trans
    ((CaseTicket.sameCase_resumeSla hw).trans (CaseTicket.sameCase_evaluateSla hu))

lemma of_check {x : Except HTTPException Unit} {a : Unit} (h : check x = .ok a) : x = .ok () := by
  cases x with
  | error e => cases h
  | ok b => rfl

lemma coreReopenTicket_spec {b : Bool} (h : coreReopenTicket req t b = .ok u) :
    req.checked = .ok () ∧ terminal t.status = true ∧ SameCase (reopened t b) u := by
  unfold coreReopenTicket at h
  obtain ⟨_, hchecked, h⟩ := bind_eq_ok.1 h
  obtain ⟨_, hterminal, h⟩ := bind_eq_ok.1 h
  refine ⟨of_check hchecked, ?_, sameCase_reopenSla (of_sla h)⟩
  by_contra hnot
  unfold guard at hterminal
  rw [if_neg hnot] at hterminal
  cases hterminal

lemma escalateTicket_spec {teamId : ℕ} (h : escalateTicket req t teamId = .ok u) :
    SameCase { t with teamId := some teamId, assigneeId := none, status := .escalated } u := by
  unfold escalateTicket at h
  obtain ⟨_, -, h⟩ := bind_eq_ok.1 h
  exact CaseTicket.sameCase_evaluateSla (of_sla h)

lemma humanReply_spec (h : humanReply req t = .ok u) : SameCase (waiting t) u := by
  unfold humanReply at h
  obtain ⟨_, -, h⟩ := bind_eq_ok.1 h
  exact CaseTicket.sameCase_evaluateSla (of_sla h)

lemma aiReply_spec {suspended : Bool} (h : aiReply req t suspended = .ok u) :
    SameCase (if suspended then { t with conversationState := .humanReviewRequired }
      else waiting t) u := by
  unfold aiReply at h
  obtain ⟨_, -, h⟩ := bind_eq_ok.1 h
  exact CaseTicket.sameCase_evaluateSla (of_sla h)

end Specs

/-! ## what a request appends -/

section Appends
variable (sha256 : Text → Text)

inductive Appends (l : Ledger) : Ledger → Prop
  | nothing : Appends l l
  | receipt (receipt : ClosureReceipt) (actorId : Option ℕ) (now : Instant)
      (hnew : ∀ j q, l.get? j = some q → q.idempotencyKey ≠ receiptKey receipt.receiptSha256) :
      Appends l (l.insert (receiptRecord receipt actorId now))
  | invalidation (i : ℕ) (r : CaseOutcomeRecord) (reason : Text) (actorId : Option ℕ)
      (now : Instant) (h : latestClosed l = some (i, r))
      (hnew : ∀ j q, l.get? j = some q →
        q.idempotencyKey ≠ invalidationKey i (sha256 (reasonText reason))) :
      Appends l (l.insert (invalidationRecord sha256 i r reason actorId now))

variable {sha256} {l l' : Ledger} {req : CaseRequest} {s s' : CaseState} {op : CaseOp} {j : ℕ}
  {q : CaseOutcomeRecord}

lemma Invalidation.appends {reason : Text} {actorId : Option ℕ} {now : Instant} {b : Bool}
    (h : invalidateLatestClosureReceipt sha256 l reason actorId now = .ok (b, l')) :
    Appends sha256 l l' := by
  have hspec := invalidation_spec sha256 l reason actorId now
  rw [h] at hspec
  cases hspec with
  | noReceipt _ => exact .nothing
  | appended i r hlatest hnew => exact .invalidation i r reason actorId now hlatest hnew
  | found i j r q _ _ _ _ => exact .nothing

lemma changeStatus_appends {newStatus : TicketStatus} {note : Text}
    {gate : Except HTTPException ClosureReceipt}
    (h : changeStatus req s newStatus note gate = .ok s') : Appends sha256 s.ledger s'.ledger := by
  obtain ⟨-, ⟨-, hsame⟩ | ⟨-, receipt, -, hl⟩⟩ := changeStatus_spec h
  · rw [hsame]
    exact .nothing
  · have hspec := receiptAppend_spec s.ledger receipt req.actorId req.now
    rw [hl] at hspec
    generalize s'.ledger = l at hspec
    cases hspec with
    | appended hnew => exact .receipt receipt req.actorId req.now hnew
    | found _ _ _ _ _ => exact .nothing

lemma perform_appends (h : perform sha256 req s op = .ok s') :
    Appends sha256 s.ledger s'.ledger := by
  cases op with
  | changeStatus newStatus note gate => exact changeStatus_appends h
  | reopenTicket b reason =>
    obtain ⟨t, -, h⟩ := bind_eq_ok.1 h
    obtain ⟨⟨c, l⟩, hl, hret⟩ := bind_eq_ok.1 h
    cases hret
    exact Invalidation.appends hl
  | recontact source externalMessageId =>
    change recontact sha256 req s source externalMessageId = .ok s' at h
    unfold recontact at h
    split at h
    · obtain ⟨⟨c, l⟩, hl, hret⟩ := bind_eq_ok.1 h
      cases hret
      exact Invalidation.appends hl
    · cases h
      exact .nothing
  | escalateTicket _ | visitorMessage _ _ | handoffCard | humanReply | aiReply _ | reuseTicket =>
    obtain ⟨_, -, hret⟩ := bind_eq_ok.1 h
    cases hret
    exact .nothing

lemma step_appends (i : CaseRequest × CaseOp) (s : CaseState) :
    Appends sha256 s.ledger (step sha256 i s).ledger := by
  unfold step
  cases h : perform sha256 i.1 s i.2 with
  | ok s' => exact perform_appends h
  | error e => exact .nothing

lemma Appends.get? (h : Appends sha256 l l') (hq : l.get? j = some q) : l'.get? j = some q := by
  cases h with
  | nothing => exact hq
  | receipt _ _ _ _ => exact Table.get?_insert_of_some l hq
  | invalidation _ _ _ _ _ _ _ => exact Table.get?_insert_of_some l hq

lemma Appends.sound (h : Appends sha256 l l') (hl : l.Sound sha256) : l'.Sound sha256 := by
  cases h with
  | nothing => exact hl
  | receipt _ _ _ hnew => exact hl.insert_receipt hnew
  | invalidation _ _ _ _ _ hlatest hnew => exact hl.insert_invalidation hlatest hnew

lemma run_get? (run' : List (CaseRequest × CaseOp)) (hq : s.ledger.get? j = some q) :
    (run (step sha256) s run').ledger.get? j = some q := by
  induction run' generalizing s with
  | nil => exact hq
  | cons i rest ih => exact ih ((step_appends i s).get? hq)

end Appends

end NexusHelpdesk.Closure
