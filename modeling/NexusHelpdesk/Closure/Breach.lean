import NexusHelpdesk.Closure.Case

/-!
# Breach flags

`evaluate_sla` sets a breach flag when it finds the clock running past its deadline; the operation
that stops a clock writes the stop before it evaluates.  Evaluations may fall anywhere between the
operations.

* `SlaTicket`, `record`: a ticket with its flags, and what an evaluation adds to them;
* `TicketOp`, `Event`, `slaStep`: the operations that evaluate, the evaluations between them, and
  what each commits;
* `finds`, `found`: an event, or some event of a run, finds a ticket past its deadline;
* `Provided`: no evaluation makes the SLA assignment.

`breached_eq_iff`: **two runs with the same operations end with the same flags exactly where the
flag was set before, an operation finds the breach itself, or the evaluations of both runs agree.**
`lateReply_unseen`: nobody evaluates before a late first response, and no breach is recorded.
-/

namespace NexusHelpdesk.Closure

open Lib

/-! ## the code -/

inductive Clock where
  | firstResponse
  | resolution
deriving DecidableEq

structure SlaTicket where
  ticket : CaseTicket
  firstResponseAt : Option Instant
  /-- the due columns of a ticket without a target. -/
  dueColumn : Clock → Option Instant
  /-- `first_response_breached` and `resolution_breached`. -/
  breached : Clock → Bool

namespace SlaTicket
variable (s : SlaTicket)

/-- the due time that `_runtime_due_times` returns once it has brought the target up to date. -/
def dueAt : Clock → Option Instant
  | .firstResponse =>
    (s.ticket.slaTarget.map (·.firstResponseDueAt)).or (s.dueColumn .firstResponse)
  | .resolution => (s.ticket.slaTarget.map (·.resolutionDueAt)).or (s.dueColumn .resolution)

def running : Clock → Bool
  | .firstResponse => s.firstResponseAt.isNone
  | .resolution => s.ticket.status ≠ .closed && s.ticket.status ≠ .canceled

/-- the comparison of `compute_sla_snapshot`. -/
def overdue (now : Instant) (c : Clock) : Bool := s.running c && (s.dueAt c).any (· < now)

def record (now : Instant) : SlaTicket :=
  { s with breached := fun c => s.breached c || s.overdue now c }

end SlaTicket

inductive TicketOp where
  | changeStatus (newStatus : TicketStatus) (note : Text)
  | reopenTicket (assignToPrevious : Bool)
  | escalateTicket (teamId : ℕ)
  /-- `add_comment`; an external one does what `send_outbound_message` does. -/
  | comment (external : Bool)
  | humanReply
  | aiReply (aiSuspended : Bool)

namespace TicketOp

/-- the operation calls `update_first_response`. -/
def responds : TicketOp → Bool
  | .comment external => external
  | .humanReply | .aiReply _ => true
  | _ => false

end TicketOp

def operate (req : CaseRequest) (t : CaseTicket) : TicketOp → Except CaseError CaseTicket
  | .changeStatus newStatus note => coreChangeStatus req t newStatus note
  | .reopenTicket assignToPrevious => coreReopenTicket req t assignToPrevious
  | .escalateTicket teamId => escalateTicket req t teamId
  | .comment _ => do
    let _ ← check req.checked
    sla (t.evaluateSla req.sla req.now)
  | .humanReply => humanReply req t
  | .aiReply aiSuspended => aiReply req t aiSuspended

inductive Event where
  | evaluate (now : Instant) (rows : SlaRows)
  | operate (req : CaseRequest) (op : TicketOp)

namespace Event

def now : Event → Instant
  | .evaluate now _ => now
  | .operate req _ => req.now

def rows : Event → SlaRows
  | .evaluate _ rows => rows
  | .operate req _ => req.sla

def isOperation : Event → Bool
  | .evaluate _ _ => false
  | .operate _ _ => true

end Event

def attempt (s : SlaTicket) : Event → Except CaseError SlaTicket
  | .evaluate now rows => do
    let t ← sla (s.ticket.evaluateSla rows now)
    return { s with ticket := t }
  | .operate req op => do
    let t ← operate req s.ticket op
    return { s with
      ticket := t
      firstResponseAt :=
        if op.responds then s.firstResponseAt.or (some req.now) else s.firstResponseAt }

/-- what an event commits; an error rolls it back. -/
def slaStep (e : Event) (s : SlaTicket) : SlaTicket :=
  match attempt s e with
  | .ok s' => s'.record e.now
  | .error _ => s

/-- the evaluation of an event finds the clock running past its deadline. -/
def finds (s : SlaTicket) (e : Event) (c : Clock) : Bool :=
  match attempt s e with
  | .ok s' => s'.overdue e.now c
  | .error _ => false

def found (p : Event → Bool) : SlaTicket → List Event → Clock → Bool
  | _, [], _ => false
  | s, e :: l, c => p e && finds s e c || found p (slaStep e s) l c

section Latch
variable (s : SlaTicket) (e : Event) (c : Clock)

lemma breached_attempt {s' : SlaTicket} (h : attempt s e = .ok s') : s'.breached = s.breached := by
  cases e <;>
  · obtain ⟨t, -, ht⟩ := bind_eq_ok.1 h
    cases ht
    rfl

lemma breached_slaStep : (slaStep e s).breached c = (s.breached c || finds s e c) := by
  unfold slaStep finds
  cases h : attempt s e with
  | error err => exact (Bool.or_false _).symm
  | ok s' =>
    show (s'.breached c || s'.overdue e.now c) = _
    rw [breached_attempt s e h]

lemma breached_run (l : List Event) :
    (run slaStep s l).breached c = (s.breached c || found Event.isOperation s l c ||
      found (fun e => !e.isOperation) s l c) := by
  induction l generalizing s with
  | nil => simp [run, found]
  | cons e l ih =>
    unfold run found
    rw [ih, breached_slaStep]
    cases e.isOperation <;> cases finds s e c <;> simp
end Latch

/-! ## what an evaluation leaves alone -/

section Core
variable {rows : SlaRows} {t u : CaseTicket} {now : Instant} {a : SlaAssignment} {req : CaseRequest}

/-- the ticket without the target that an evaluation recomputes during a pause. -/
def clockless (t : CaseTicket) : CaseTicket :=
  if t.openPause.isSome then { t with slaTarget := none } else t

section
variable (ha : t.sla = some a)
include ha

lemma applyPolicy_untargeted :
    CaseTicket.applyPolicy rows { t with slaTarget := none } now = t.applyPolicy rows now := by
  unfold CaseTicket.applyPolicy CaseTicket.ensureSlaAssignment
  simp only [ha]
  rfl

lemma recalculate_untargeted (hp : rows.hasPolicy = true) :
    CaseTicket.recalculate rows { t with slaTarget := none } now = t.recalculate rows now := by
  unfold CaseTicket.recalculate
  simp only [ha, hp, Option.isSome_some, Bool.and_self, if_true]
  exact applyPolicy_untargeted ha

lemma resumeSla_untargeted (hp : rows.hasPolicy = true) (ho : t.openPause.isSome = true) :
    CaseTicket.resumeSla rows { t with slaTarget := none } now = t.resumeSla rows now := by
  obtain ⟨p, hp'⟩ := Option.isSome_iff_exists.1 ho
  unfold CaseTicket.resumeSla
  simp only [hp']
  rw [← recalculate_untargeted (t := { t with pauses := CaseTicket.endPause now t.pauses }) ha hp]

lemma evaluateSla_untargeted (hp : rows.hasPolicy = true) (ho : t.openPause.isSome = true) :
    CaseTicket.evaluateSla rows { t with slaTarget := none } now = t.evaluateSla rows now := by
  obtain ⟨p, hp'⟩ := Option.isSome_iff_exists.1 ho
  unfold CaseTicket.evaluateSla CaseTicket.ensureSlaAssignment
  simp only [hp', ha, hp, Option.isNone_some, Bool.and_false, Bool.false_eq_true, if_false, if_true]
  exact applyPolicy_untargeted ha

lemma statusSla_untargeted {st : TicketStatus} (hp : req.sla.hasPolicy = true)
    (ho : t.openPause.isSome = true) :
    statusSla req { t with slaTarget := none } st = statusSla req t st := by
  unfold statusSla endSla
  split
  · rw [resumeSla_untargeted ha hp ho]
  · show (CaseTicket.updatePauseState req.sla _ st req.now >>= _) =
      (t.updatePauseState req.sla st req.now >>= _)
    unfold CaseTicket.updatePauseState CaseTicket.ensureSlaAssignment CaseTicket.syncPause
    simp only [ha]
    split
    · obtain ⟨p, hp'⟩ := Option.isSome_iff_exists.1 ho
      unfold CaseTicket.pauseSla
      simp only [hp']
      split
      · rfl
      · exact evaluateSla_untargeted ha hp ho
    · rw [resumeSla_untargeted ha hp ho]

lemma reopenSla_untargeted (hp : req.sla.hasPolicy = true) (ho : t.openPause.isSome = true) :
    reopenSla req { t with slaTarget := none } = reopenSla req t := by
  unfold reopenSla retarget
  split
  · rw [applyPolicy_untargeted ha]
  · show (CaseTicket.resumeSla req.sla _ req.now >>= _) = (t.resumeSla req.sla req.now >>= _)
    rw [resumeSla_untargeted ha hp ho]

end
lemma clockless_untargeted (ho : t.openPause.isSome = true) :
    clockless { t with slaTarget := none } = clockless t := by
  unfold clockless
  rw [if_pos ho, if_pos ho]

lemma operate_untargeted (op : TicketOp) (ha : t.sla = some a) (hp : req.sla.hasPolicy = true)
    (ho : t.openPause.isSome = true) :
    operate req { t with slaTarget := none } op = operate req t op := by
  have heval : ∀ u : CaseTicket, u.sla = some a → u.openPause.isSome = true →
      (check req.checked >>= fun _ =>
        sla (CaseTicket.evaluateSla req.sla { u with slaTarget := none } req.now)) =
      check req.checked >>= fun _ => sla (u.evaluateSla req.sla req.now) := by
    intro u hu huo
    rw [evaluateSla_untargeted hu hp huo]
  cases op with
  | changeStatus st note =>
    unfold operate coreChangeStatus
    simp only [← statusSla_untargeted (t := stamped req t st) ha hp ho]
    rfl
  | reopenTicket b =>
    unfold operate coreReopenTicket
    simp only [← reopenSla_untargeted (t := reopened t b) ha hp ho]
    rfl
  | escalateTicket teamId => exact heval { t with
      teamId := some teamId, assigneeId := none, status := .escalated } ha ho
  | comment b => exact heval t ha ho
  | humanReply => exact heval (waiting t) ha ho
  | aiReply b =>
    cases b
    · exact heval (waiting t) ha ho
    · exact heval { t with conversationState := .humanReviewRequired } ha ho
end Core

/-! ## runs with other evaluations -/

/-- the ticket has its assignment, with its policy and, outside a pause, its target; or it has none
and no revision offers one. -/
def Provided (rows : SlaRows) (t : CaseTicket) : Prop :=
  t.sla.isSome = true ∧ rows.hasPolicy = true ∧
      (t.openPause = none → t.slaTarget.isSome = true) ∨
    t.sla = none ∧ t.openPause = none ∧ rows.revision = none

section Runs
variable {s : SlaTicket} {e : Event} {c : Clock} {rows : SlaRows} {now : Instant}

def core (s : SlaTicket) : SlaTicket :=
  { s with ticket := clockless s.ticket, breached := fun _ => false }

lemma clockless_of_none {t : CaseTicket} (ho : t.openPause = none) : clockless t = t := by
  unfold clockless
  rw [ho, Option.isSome_none, if_neg Bool.false_ne_true]

lemma clockless_clockless (t : CaseTicket) : clockless (clockless t) = clockless t := by
  cases ho : t.openPause with
  | none => rw [clockless_of_none ho, clockless_of_none ho]
  | some p =>
    have ho' : t.openPause.isSome = true := by rw [ho]; rfl
    have hc : clockless t = { t with slaTarget := none } := if_pos ho'
    rw [hc, clockless_untargeted ho', hc]

lemma clockless_evaluateSla {t u : CaseTicket} (hs : Provided rows t)
    (h : t.evaluateSla rows now = .ok u) : clockless u = clockless t := by
  unfold CaseTicket.evaluateSla at h
  rcases hs with ⟨hsla, hp, htarget⟩ | ⟨hsla, ho, hr⟩
  · cases ho : t.openPause with
    | none =>
      rw [ho, htarget ho] at h
      cases h
      rfl
    | some p =>
      obtain ⟨a, ha⟩ := Option.isSome_iff_exists.1 hsla
      unfold CaseTicket.ensureSlaAssignment CaseTicket.applyPolicy
        CaseTicket.ensureSlaAssignment at h
      simp only [ho, ha, hp, Option.isNone_some, Bool.and_false, Bool.false_eq_true, if_false,
        if_true] at h
      obtain ⟨_, hv, h⟩ := bind_eq_ok.1 h
      cases hv
      obtain ⟨target, -, h⟩ := bind_eq_ok.1 h
      cases h
      have ho' : t.openPause.isSome = true := by rw [ho]; rfl
      unfold clockless
      rw [if_pos ho', if_pos ho']
  · have hmissing : t.ensureSlaAssignment rows = _ :=
      CaseTicket.ensureSlaAssignment_missing (by rw [hsla, hr]; rfl)
    rw [hmissing] at h
    split_ifs at h <;> cases h <;> rfl

lemma core_evaluate (hs : Provided rows s.ticket) :
    core (slaStep (.evaluate now rows) s) = core s := by
  have hattempt : attempt s (.evaluate now rows) =
      sla (s.ticket.evaluateSla rows now) >>= fun t => .ok { s with ticket := t } := rfl
  unfold slaStep
  rw [hattempt]
  cases h : s.ticket.evaluateSla rows now with
  | error err => rfl
  | ok u =>
    show { core s with ticket := clockless u } = core s
    rw [clockless_evaluateSla hs h]
    rfl

lemma core_operate {req : CaseRequest} (op : TicketOp) (hs : Provided req.sla s.ticket) :
    core (slaStep (.operate req op) (core s)) = core (slaStep (.operate req op) s) ∧
      finds (core s) (.operate req op) c = finds s (.operate req op) c := by
  have hop : operate req (clockless s.ticket) op = operate req s.ticket op := by
    cases ho : s.ticket.openPause with
    | none => rw [clockless_of_none ho]
    | some p =>
      have ho' : s.ticket.openPause.isSome = true := by rw [ho]; rfl
      rcases hs with ⟨hsla, hp, -⟩ | ⟨-, hnone, -⟩
      · obtain ⟨a, ha⟩ := Option.isSome_iff_exists.1 hsla
        have hc : clockless s.ticket = { s.ticket with slaTarget := none } := if_pos ho'
        rw [hc]
        exact operate_untargeted op ha hp ho'
      · rw [hnone] at ho
        cases ho
  have hcore : core (core s) = core s := by
    show { core s with ticket := clockless (clockless s.ticket) } = core s
    rw [clockless_clockless]
    rfl
  have hattempt : ∀ v : SlaTicket, attempt v (.operate req op) =
      operate req v.ticket op >>= fun t => .ok { v with
        ticket := t
        firstResponseAt :=
          if op.responds then v.firstResponseAt.or (some req.now) else v.firstResponseAt } :=
    fun _ => rfl
  unfold slaStep finds
  rw [hattempt, hattempt, show (core s).ticket = clockless s.ticket from rfl, hop]
  cases operate req s.ticket op with
  | error err => exact ⟨hcore, rfl⟩
  | ok u => exact ⟨rfl, rfl⟩

/-- the operations alone, each one seeing the core alone. -/
def replayed : SlaTicket → List Event → Clock → Bool
  | _, [], _ => false
  | s, e :: l, c => finds s e c || replayed (core (slaStep e s)) l c

lemma found_eq_replayed {l : List Event}
    (hl : Along slaStep (fun s e => Provided e.rows s.ticket) s l) :
    found Event.isOperation s l c = replayed (core s) (l.filter Event.isOperation) c := by
  induction l generalizing s with
  | nil => rfl
  | cons e l ih =>
    have hrest := ih hl.2
    cases e with
    | evaluate now rows =>
      have hsame : core (slaStep (.evaluate now rows) s) = core s := core_evaluate hl.1
      rw [hsame] at hrest
      exact hrest
    | operate req op =>
      have hop := core_operate (c := c) op hl.1
      unfold found
      rw [hrest, ← hop.1, ← hop.2]
      rfl

theorem breached_eq_iff (s : SlaTicket) (l l' : List Event)
    (hsame : l.filter Event.isOperation = l'.filter Event.isOperation)
    (hl : Along slaStep (fun s e => Provided e.rows s.ticket) s l)
    (hl' : Along slaStep (fun s e => Provided e.rows s.ticket) s l') :
    (run slaStep s l).breached = (run slaStep s l').breached ↔
      ∀ c, s.breached c = true ∨ found Event.isOperation s l c = true ∨
        found (fun e => !e.isOperation) s l c = found (fun e => !e.isOperation) s l' c := by
  have hops : ∀ c, found Event.isOperation s l c = found Event.isOperation s l' c := by
    intro c
    rw [found_eq_replayed hl, found_eq_replayed hl', hsame]
  rw [funext_iff]
  refine forall_congr' fun c => ?_
  rw [breached_run, breached_run, ← hops]
  cases s.breached c <;> cases found Event.isOperation s l c <;> simp

end Runs

/-! ## a late first response -/

def minuteTicket : SlaTicket where
  ticket := {
    status := .inProgress, conversationState := .humanOwned, assigneeId := none, teamId := none
    createdAt := 0, resolutionCategorySet := true, scenario := none
    sla := some ⟨Sla.oneMinute, []⟩, pauses := [], closedAt := none, resolvedAt := none
    reopenCount := 0, resolutionSummary := none
    slaTarget := some ⟨seconds 60, seconds 60, seconds 60, seconds 60, 0, 0⟩ }
  firstResponseAt := none
  dueColumn := fun _ => none
  breached := fun _ => false

def linkedRows : SlaRows := ⟨true, true, none, fun h => absurd h (by decide)⟩

def replyAt (now : Instant) : Event := .operate ⟨now, none, linkedRows, .ok ()⟩ .humanReply

lemma provided_minuteTicket : Provided linkedRows minuteTicket.ticket :=
  .inl ⟨rfl, rfl, fun _ => rfl⟩

/-- an evaluation in time changes nothing. -/
theorem breached_eq_in_time :
    (run slaStep minuteTicket [replyAt (seconds 40)]).breached =
      (run slaStep minuteTicket
        [.evaluate (seconds 30) linkedRows, replyAt (seconds 40)]).breached := by
  refine (breached_eq_iff minuteTicket [replyAt (seconds 40)]
    [.evaluate (seconds 30) linkedRows, replyAt (seconds 40)] rfl
    ⟨provided_minuteTicket, trivial⟩ ⟨provided_minuteTicket, provided_minuteTicket, trivial⟩).2 ?_
  intro c
  cases c <;> decide +kernel

/-- the first response comes a minute late; whether anybody notices depends on an evaluation. -/
theorem lateReply_unseen :
    (run slaStep minuteTicket [replyAt (seconds 120)]).breached .firstResponse = false ∧
      (run slaStep minuteTicket
        [.evaluate (seconds 90) linkedRows, replyAt (seconds 120)]).breached
          .firstResponse = true := by
  decide +kernel

end NexusHelpdesk.Closure
