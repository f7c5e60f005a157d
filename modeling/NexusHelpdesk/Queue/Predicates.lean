import NexusHelpdesk.Lib.Truth
import NexusHelpdesk.Queue.Listing

/-!
# Predicates of the operator queue

The `_apply_*_sql` functions of `operator_work_queue_core.py` as conditions of three-valued logic
over the columns of a row, where an outer join leaves the columns of the ticket without values.

* `SourceRow`: a handoff with its ticket, a ticket, a dispatch with or without a ticket;
* `applyStateSql`, `applyPrioritySql`, `applyOwnerSql`, `applySlaSql`, `applyRetrySql`: the code;
* `SourceRow.item`: the filtered fields of the item.

`predicates_agree`: **a row satisfies the predicates exactly when its item passes
`_matches_filters`, and it satisfies the predicate of exactly one SLA state.**
-/

namespace NexusHelpdesk.Queue

open Lib

inductive SourceRow where
  | handoff (handoff : HandoffRow) (ticket : TicketRow)
  | ticket (ticket : TicketRow)
  | dispatch (dispatch : DispatchRow) (ticket : Option TicketRow)

namespace SourceRow

def source : SourceRow → SourceType
  | .handoff _ _ => .handoff
  | .ticket _ => .ticket
  | .dispatch _ _ => .dispatch

def ticketRow : SourceRow → Option TicketRow
  | .handoff _ t | .ticket t => some t
  | .dispatch _ t => t

def active : SourceRow → Bool
  | .handoff h _ => decide (h.status ∈ activeHandoff)
  | .ticket t => decide (t.status ∈ activeTicket)
  | .dispatch d _ => decide (d.status ∈ activeDispatch)

def updatedAt : SourceRow → UtcTime
  | .handoff h _ => h.updatedAt
  | .ticket t => t.updatedAt
  | .dispatch d _ => d.updatedAt

/-- the fields of the item that the filters read; the others are those of `x`. -/
def item (x : Item) (now : UtcTime) (row : SourceRow) : Item :=
  { x with
    sourceType := row.source
    state := queueState row.active
    priority := priority row.ticketRow
    owner := match row with
      | .handoff h t => Queue.owner (some t) h.assignedAgentId false
      | .ticket t => Queue.owner (some t) none false
      | .dispatch d t => Queue.owner t none (d.status = .processing)
    sla := Queue.sla row.ticketRow (!row.active) now row.updatedAt
    retry := match row with
      | .dispatch d _ => Queue.retry (some d)
      | _ => Queue.retry none }

end SourceRow

/-! ## the code -/

def slaPredicate (active pausedTicket breachFlag noTicket : Truth) (due : Option ℤ) (now : ℤ)
    (updated : Option ℤ) (requested : SlaState) : Truth :=
  let paused := active.and pausedTicket
  let eligible := active.and paused.not
  let missing := noTicket.or (breachFlag.not.and (.known due.isNone))
  match requested with
  | .notApplicable => active.not
  | .paused => paused
  | .stale => (eligible.and missing).and (.test (fun u => decide (u ≤ now - staleAfter)) updated)
  | .unavailable => (eligible.and missing).and
      ((Truth.known updated.isNone).or (.test (fun u => decide (now - staleAfter < u)) updated))
  | .breached => eligible.and (breachFlag.or (.test (fun d => decide (d ≤ now)) due))
  | .atRisk => (eligible.and breachFlag.not).and
      ((Truth.test (fun d => decide (now < d)) due).and
        (.test (fun d => decide (d ≤ now + atRiskWithin)) due))
  | .healthy => (eligible.and breachFlag.not).and
      (.test (fun d => decide (now + atRiskWithin < d)) due)

section Predicates
variable (userId : UserKey) (now : UtcTime) (row : SourceRow)

def applyStateSql : Option QueueState → Truth
  | some .active => .known row.active
  | some .terminal => (Truth.known row.active).not
  | none => .known true

/-- `_apply_priority_sql`; the ticket of a dispatch is optional. -/
def applyPrioritySql : Option Priority → Truth
  | none => .known true
  | some requested =>
    let same := Truth.test (fun t : TicketRow => decide (t.priority = requested)) row.ticketRow
    if row.source = .dispatch ∧ requested = .medium then same.or (.known row.ticketRow.isNone)
    else same

def applyOwnerSql (requested : OwnerFilter) : Truth :=
  let assignee := row.ticketRow.bind (·.assigneeId)
  let team := row.ticketRow.bind (·.teamId)
  let mine (column : Option UserKey) := Truth.test (fun u => decide (u = userId)) column
  match row, requested with
  | _, .any => .known true
  | .handoff h _, .mine =>
    (mine h.assignedAgentId).or ((Truth.known h.assignedAgentId.isNone).and (mine assignee))
  | .handoff h _, .team =>
    ((Truth.known h.assignedAgentId.isNone).and (.known assignee.isNone)).and (.known team.isSome)
  | .handoff h _, .unassigned =>
    ((Truth.known h.assignedAgentId.isNone).and (.known assignee.isNone)).and (.known team.isNone)
  | .ticket _, .mine => mine assignee
  | .ticket _, .team => (Truth.known assignee.isNone).and (.known team.isSome)
  | .ticket _, .unassigned => (Truth.known assignee.isNone).and (.known team.isNone)
  | .dispatch d _, .mine => (Truth.known (d.status ≠ .processing)).and (mine assignee)
  | .dispatch d _, .team => (Truth.known (d.status ≠ .processing)).and
      ((Truth.known assignee.isNone).and (.known team.isSome))
  | .dispatch d t, .unassigned => (Truth.known (d.status ≠ .processing)).and
      ((Truth.known t.isNone).or ((Truth.known assignee.isNone).and (.known team.isNone)))

/-- `_apply_sla_sql`; the deadline is that of the `CASE`, times are in microseconds. -/
def applySlaSql : Option SlaState → Truth
  | none => .known true
  | some requested =>
    let ticket := row.ticketRow
    slaPredicate (.known row.active)
      ((Truth.known ticket.isSome).and (.known (ticket.any (·.slaPaused))))
      ((Truth.known (ticket.any (·.firstResponseBreached))).or
        (.known (ticket.any (·.resolutionBreached))))
      (.known ticket.isNone) ((ticket.bind (·.due)).map (·.micros)) now.micros
      (some row.updatedAt.micros) requested

/-- `_apply_retry_sql`; no query without a condition. -/
def applyRetrySql : Option RetryState → Option Truth
  | none => some (.known true)
  | some requested =>
    match row, requested with
    | .dispatch _ _, .notApplicable => none
    | .dispatch d _, .pending => some (.known (d.status ∈ [.pending]))
    | .dispatch d _, .processing => some (.known (d.status ∈ [.processing]))
    | .dispatch d _, .retryScheduled => some (.known (d.status ∈ [.retryable]))
    | .dispatch d _, .exhausted => some (.known (d.status ∈ [.failed, .deadLetter]))
    | .dispatch d _, .settled => some (.known (d.status ∈ [.dispatched, .cancelled]))
    | _, .notApplicable => some (.known true)
    | _, _ => none

/-- a query over the source of the row runs and keeps the row. -/
def satisfies (filters : QueueFilters) : Bool :=
  agrees filters.sourceType row.source &&
    match applyRetrySql row filters.retry with
    | none => false
    | some retry =>
      ((((applyStateSql row filters.state).and (applyPrioritySql row filters.priority)).and
        (applyOwnerSql userId row filters.owner)).and (applySlaSql now row filters.sla)).and retry
        |>.selected

/-! ## each predicate is the test of the item -/

lemma applyStateSql_selected (requested : Option QueueState) :
    (applyStateSql row requested).selected = agrees requested (queueState row.active) := by
  rw [← stateSql_eq]
  cases requested with
  | none => rfl
  | some state => cases state <;> simp [applyStateSql, stateSql]

lemma applyPrioritySql_selected (requested : Option Priority) :
    (applyPrioritySql row requested).selected = agrees requested (priority row.ticketRow) := by
  have hsql : (applyPrioritySql row requested).selected =
      prioritySql row.ticketRow (row.source = .dispatch) requested := by
    cases requested with
    | none => rfl
    | some requested =>
      unfold applyPrioritySql prioritySql
      by_cases hmedium : row.source = .dispatch ∧ requested = .medium
      · simp [hmedium]
      · simp [hmedium]
  rw [hsql]
  cases row with
  | handoff h t => exact prioritySql_eq t _ requested
  | ticket t => exact prioritySql_eq t _ requested
  | dispatch d t =>
    cases t with
    | none => exact prioritySql_none requested
    | some t => exact prioritySql_eq t _ requested

lemma applyOwnerSql_selected (x : Item) (requested : OwnerFilter) :
    (applyOwnerSql userId row requested).selected =
      matchesOwner userId (row.item x now).owner requested := by
  have hmine : ∀ o : Option UserKey, o.any (fun u => decide (u = userId)) =
      decide (o = some userId) := by
    intro o
    cases o <;> simp
  cases row with
  | handoff h t =>
    rw [SourceRow.item, ← handoffOwnerSql_eq]
    cases requested <;> simp [applyOwnerSql, handoffOwnerSql, SourceRow.ticketRow, hmine]
  | ticket t =>
    rw [SourceRow.item, ← ticketOwnerSql_eq]
    cases requested <;> simp [applyOwnerSql, ticketOwnerSql, SourceRow.ticketRow, hmine]
  | dispatch d t =>
    rw [SourceRow.item, ← dispatchOwnerSql_eq]
    cases t <;> cases requested <;>
      simp [applyOwnerSql, dispatchOwnerSql, SourceRow.ticketRow, hmine]

lemma slaPredicate_selected (active paused breachFlag noTicket : Bool) (due : Option ℤ)
    (now updated : ℤ) (requested : SlaState) :
    (slaPredicate (.known active) (.known paused) (.known breachFlag) (.known noTicket) due now
      (some updated) requested).selected =
        slaConditions active paused breachFlag noTicket due now updated requested := by
  have hboth : (due.any (fun d => decide (now < d)) &&
      due.any fun d => decide (d ≤ now + atRiskWithin)) =
        due.any fun d => decide (now < d) && decide (d ≤ now + atRiskWithin) := by
    cases due <;> rfl
  cases requested <;>
    simp only [slaPredicate, slaConditions, Truth.and_known, Truth.or_known, Truth.not_known,
      Truth.selected_and, Truth.selected_or, Truth.selected_test, Truth.selected_known,
      Option.any_some, Option.isNone_some, Bool.false_or, hboth]

lemma applySlaSql_selected (requested : Option SlaState) :
    (applySlaSql now row requested).selected =
      agrees requested (sla row.ticketRow (!row.active) now row.updatedAt).state := by
  rw [← slaSql_eq]
  cases requested with
  | none => rfl
  | some requested =>
    unfold applySlaSql slaSql
    dsimp only
    rw [Truth.and_known, Truth.or_known, slaPredicate_selected]
    cases row.ticketRow <;> rfl

lemma applyRetrySql_selected (x : Item) (requested : Option RetryState) :
    (applyRetrySql row requested).any Truth.selected =
      agrees requested (row.item x now).retry.state := by
  cases requested with
  | none => rfl
  | some requested =>
    cases row with
    | handoff h t => cases requested <;> rfl
    | ticket t => cases requested <;> rfl
    | dispatch d t =>
      rw [SourceRow.item, ← retrySql_eq]
      cases requested <;> simp [applyRetrySql, retrySql]

theorem predicates_agree (filters : QueueFilters) (x : Item) :
    satisfies userId now row filters = matchesFilters userId filters (row.item x now) ∧
      ∃! state, (applySlaSql now row (some state)).selected = true := by
  constructor
  · have hitem : matchesFilters userId filters (row.item x now) =
        (agrees filters.state (queueState row.active) && agrees filters.sourceType row.source &&
          agrees filters.priority (priority row.ticketRow) &&
          agrees filters.sla (sla row.ticketRow (!row.active) now row.updatedAt).state &&
          agrees filters.retry (row.item x now).retry.state &&
          matchesOwner userId (row.item x now).owner filters.owner) := rfl
    rw [hitem, ← applyRetrySql_selected, ← applyOwnerSql_selected, ← applySlaSql_selected,
      ← applyPrioritySql_selected, ← applyStateSql_selected]
    unfold satisfies
    cases applyRetrySql row filters.retry with
    | none => simp only [Option.any_none, Bool.and_false, Bool.false_and]
    | some retry =>
      simp only [Truth.selected_and, Option.any_some]
      generalize (applyStateSql row filters.state).selected = a
      generalize (applyPrioritySql row filters.priority).selected = b
      generalize (applyOwnerSql userId row filters.owner).selected = c
      generalize (applySlaSql now row filters.sla).selected = d
      generalize agrees filters.sourceType row.source = e
      generalize retry.selected = f
      ac_rfl
  · refine ⟨(sla row.ticketRow (!row.active) now row.updatedAt).state, ?_, fun state hstate => ?_⟩
    · dsimp only
      rw [applySlaSql_selected]
      exact decide_eq_true rfl
    · dsimp only at hstate
      rw [applySlaSql_selected] at hstate
      exact of_decide_eq_true hstate

end Predicates

end NexusHelpdesk.Queue
