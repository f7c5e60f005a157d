import NexusHelpdesk.Lib.Table
import NexusHelpdesk.Lib.UtcTime

/-!
# Items of the operator queue (`services/operator_work_queue_core.py`)

The rows behind the queue and the item that a row becomes.  Each filter exists twice: as a condition
of the query, where an outer join leaves columns without a value, and as a test of the finished item.

* `TicketRow`, `ConversationRow`, `HandoffRow`, `DispatchRow`: the rows;
* `owner`, `sla`, `retry`, `priority`: the projections of an item;
* `ownerSql`, `slaSql`, `prioritySql`, `stateSql`: the conditions of the queries;
* `slaSql_eq`, `handoffOwnerSql_eq`, `ticketOwnerSql_eq`, `dispatchOwnerSql_eq`: **each condition
  keeps exactly the rows whose item passes the test**.
-/

namespace NexusHelpdesk.Queue

open Lib

abbrev Text := List Char

abbrev UserKey := {n : ℕ // 0 < n ∧ n < 2 ^ 31}

/-! ## rows -/

inductive Priority where
  | low | medium | high | urgent
deriving DecidableEq, Repr

inductive DispatchStatus where
  | pending | processing | dispatched | retryable | failed | cancelled | deadLetter
deriving DecidableEq, Repr

structure TicketRow where
  status : Text
  priority : Priority
  assigneeId : Option UserKey
  teamId : Option UserKey
  countryCode : Option Text
  firstResponseAt : Option UtcTime
  firstResponseDueAt : Option UtcTime
  resolutionDueAt : Option UtcTime
  reopenCount : ℕ
  slaPaused : Bool
  firstResponseBreached : Bool
  resolutionBreached : Bool
  createdAt : UtcTime
  updatedAt : UtcTime
deriving DecidableEq, Repr

structure ConversationRow where
  tenantKey : Text
  channelKey : Text
  ticketId : Option ℕ
  createdAt : UtcTime
  updatedAt : UtcTime
deriving DecidableEq, Repr

structure HandoffRow where
  conversationId : ℕ
  ticketId : Option ℕ
  status : Text
  assignedAgentId : Option UserKey
  createdAt : UtcTime
  updatedAt : UtcTime
deriving DecidableEq, Repr

structure DispatchRow where
  ticketId : Option ℕ
  tenantKey : Text
  countryCode : Text
  channelKey : Text
  status : DispatchStatus
  attemptCount : ℕ
  maxAttempts : ℕ
  nextRetryAt : Option UtcTime
  createdAt : UtcTime
  updatedAt : UtcTime
deriving DecidableEq, Repr

/-! ## items -/

inductive SourceType where
  | handoff | ticket | dispatch
deriving DecidableEq, Repr

def SourceType.rank : SourceType → ℕ
  | .handoff => 0
  | .ticket => 1
  | .dispatch => 2

inductive QueueState where
  | active | terminal
deriving DecidableEq, Repr

inductive Owner where
  | user (userId : UserKey) | workerLease | team (teamId : UserKey) | unassigned
deriving DecidableEq, Repr

inductive SlaState where
  | healthy | atRisk | breached | paused | stale | notApplicable | unavailable
deriving DecidableEq, Repr

structure Sla where
  state : SlaState
  dueAt : Option UtcTime
  secondsRemaining : Option ℤ
deriving DecidableEq, Repr

inductive RetryState where
  | notApplicable | pending | processing | retryScheduled | exhausted | settled
deriving DecidableEq, Repr

structure Retry where
  state : RetryState
  attemptCount : ℕ
  maxAttempts : ℕ
  nextRetryAt : Option UtcTime
deriving DecidableEq, Repr

structure Item where
  sourceType : SourceType
  sourceId : ℕ
  ticketId : Option ℕ
  conversationId : Option ℕ
  countryCode : Text
  channelKey : Text
  state : QueueState
  sourceStatus : Text
  reopened : Bool
  priority : Priority
  owner : Owner
  sla : Sla
  retry : Retry
  createdAt : UtcTime
  updatedAt : UtcTime
deriving DecidableEq, Repr

def owner (ticket : Option TicketRow) (assignedUserId : Option UserKey) (worker : Bool) : Owner :=
  match assignedUserId with
  | some userId => .user userId
  | none =>
    if worker then .workerLease
    else
      match ticket.bind (·.assigneeId), ticket.bind (·.teamId) with
      | some userId, _ => .user userId
      | none, some teamId => .team teamId
      | none, none => .unassigned

/-- `_STALE_AFTER_SECONDS`, in microseconds. -/
@[irreducible] def staleAfter : ℤ := 86400 * 1000000

/-- half an hour, in microseconds. -/
@[irreducible] def atRiskWithin : ℤ := 1800 * 1000000

lemma atRiskWithin_pos : 0 < atRiskWithin := by
  unfold atRiskWithin
  decide

/-- the deadline that counts next. -/
def TicketRow.due (t : TicketRow) : Option UtcTime :=
  if t.firstResponseAt.isNone then t.firstResponseDueAt else t.resolutionDueAt

def TicketRow.breached (t : TicketRow) : Bool := t.firstResponseBreached || t.resolutionBreached

def sla (ticket : Option TicketRow) (terminal : Bool) (now sourceUpdatedAt : UtcTime) : Sla :=
  if terminal then ⟨.notApplicable, none, none⟩
  else if ticket.any (·.slaPaused) then ⟨.paused, none, none⟩
  else
    let due := ticket.bind (·.due)
    if ticket.any (·.breached) then ⟨.breached, due, none⟩
    else
      match due with
      | none =>
        if now.micros - sourceUpdatedAt.micros ≥ staleAfter then ⟨.stale, none, none⟩
        else ⟨.unavailable, none, none⟩
      | some due =>
        let raw := due.micros - now.micros
        ⟨if raw ≤ 0 then .breached else if raw ≤ atRiskWithin then .atRisk else .healthy,
          some due, some (max (-31536000) (min 31536000 (raw.tdiv 1000000)))⟩

def retry : Option DispatchRow → Retry
  | none => ⟨.notApplicable, 0, 0, none⟩
  | some row =>
    ⟨match row.status with
      | .pending => .pending
      | .processing => .processing
      | .retryable => .retryScheduled
      | .failed | .deadLetter => .exhausted
      | .dispatched | .cancelled => .settled,
      min 1000 row.attemptCount, min 1000 row.maxAttempts, row.nextRetryAt⟩

def priority (ticket : Option TicketRow) : Priority := (ticket.map (·.priority)).getD .medium

/-! ## filters -/

inductive OwnerFilter where
  | any | mine | unassigned | team
deriving DecidableEq, Repr

inductive SortOrder where
  | oldest | newest
deriving DecidableEq, Repr

structure QueueFilters where
  state : Option QueueState
  sourceType : Option SourceType
  owner : OwnerFilter
  priority : Option Priority
  sla : Option SlaState
  retry : Option RetryState
  sort : SortOrder
deriving DecidableEq, Repr

/-- the part of `_matches_filters` about the owner. -/
def matchesOwner (userId : UserKey) (owner : Owner) : OwnerFilter → Bool
  | .any => true
  | .mine => owner = .user userId
  | .unassigned => owner = .unassigned
  | .team =>
    match owner with
    | .team _ => true
    | _ => false

def agrees {α : Type} [DecidableEq α] (requested : Option α) (value : α) : Bool :=
  requested.all (· = value)

def matchesFilters (userId : UserKey) (filters : QueueFilters) (item : Item) : Bool :=
  agrees filters.state item.state && agrees filters.sourceType item.sourceType &&
    agrees filters.priority item.priority && agrees filters.sla item.sla.state &&
    agrees filters.retry item.retry.state && matchesOwner userId item.owner filters.owner

/-! ## the conditions of the queries -/

def stateSql (active : Bool) : Option QueueState → Bool
  | some .active => active
  | some .terminal => !active
  | none => true

/-- `_apply_priority_sql`; `optional` where the ticket is joined from outside. -/
def prioritySql (ticket : Option TicketRow) (optional : Bool) : Option Priority → Bool
  | none => true
  | some requested =>
    if optional && requested = .medium then
      ticket.any (·.priority = requested) || ticket.isNone
    else ticket.any (·.priority = requested)

def handoffOwnerSql (userId : UserKey) (assigned : Option UserKey) (ticket : TicketRow) :
    OwnerFilter → Bool
  | .any => true
  | .mine => assigned = some userId || assigned.isNone && ticket.assigneeId = some userId
  | .team => assigned.isNone && ticket.assigneeId.isNone && ticket.teamId.isSome
  | .unassigned => assigned.isNone && ticket.assigneeId.isNone && ticket.teamId.isNone

def ticketOwnerSql (userId : UserKey) (ticket : TicketRow) : OwnerFilter → Bool
  | .any => true
  | .mine => ticket.assigneeId = some userId
  | .team => ticket.assigneeId.isNone && ticket.teamId.isSome
  | .unassigned => ticket.assigneeId.isNone && ticket.teamId.isNone

/-- `_apply_owner_sql` for dispatches, whose ticket is joined from outside. -/
def dispatchOwnerSql (userId : UserKey) (status : DispatchStatus) (ticket : Option TicketRow) :
    OwnerFilter → Bool
  | .any => true
  | .mine => status ≠ .processing && ticket.any (·.assigneeId = some userId)
  | .team => status ≠ .processing && ticket.any fun t => t.assigneeId.isNone && t.teamId.isSome
  | .unassigned => status ≠ .processing &&
      (ticket.isNone || ticket.any fun t => t.assigneeId.isNone && t.teamId.isNone)

/-- `_apply_sla_sql` on the values of a row; the deadline and the times in microseconds. -/
def slaConditions (active paused breachFlag noTicket : Bool) (due : Option ℤ) (now updated : ℤ) :
    SlaState → Bool
  | .notApplicable => !active
  | .paused => active && paused
  | .stale => active && !(active && paused) && (noTicket || !breachFlag && due.isNone) &&
      updated ≤ now - staleAfter
  | .unavailable => active && !(active && paused) && (noTicket || !breachFlag && due.isNone) &&
      now - staleAfter < updated
  | .breached => active && !(active && paused) && (breachFlag || due.any fun d => d ≤ now)
  | .atRisk => active && !(active && paused) && !breachFlag &&
      due.any fun d => now < d && d ≤ now + atRiskWithin
  | .healthy => active && !(active && paused) && !breachFlag &&
      due.any fun d => now + atRiskWithin < d

def slaSql (active : Bool) (ticket : Option TicketRow) (now updated : UtcTime) :
    Option SlaState → Bool
  | none => true
  | some requested =>
    slaConditions active (ticket.any (·.slaPaused)) (ticket.any (·.breached)) ticket.isNone
      ((ticket.bind (·.due)).map (·.micros)) now.micros updated.micros requested

def retrySql (status : DispatchStatus) : Option RetryState → Bool
  | none => true
  | some .pending => status = .pending
  | some .processing => status = .processing
  | some .retryScheduled => status = .retryable
  | some .exhausted => status = .failed || status = .deadLetter
  | some .settled => status = .dispatched || status = .cancelled
  | some .notApplicable => false

/-! ## each condition is the test of the item -/

def queueState (active : Bool) : QueueState := if active then .active else .terminal

lemma stateSql_eq (active : Bool) (requested : Option QueueState) :
    stateSql active requested = agrees requested (queueState active) := by
  cases active with
  | true =>
    cases requested with
    | none => rfl
    | some state => cases state <;> rfl
  | false =>
    cases requested with
    | none => rfl
    | some state => cases state <;> rfl

lemma prioritySql_eq (ticket : TicketRow) (optional : Bool) (requested : Option Priority) :
    prioritySql (some ticket) optional requested =
      agrees requested (priority (some ticket)) := by
  cases requested with
  | none => rfl
  | some requested =>
    have hsame : decide (ticket.priority = requested) = decide (requested = ticket.priority) :=
      decide_eq_decide.2 eq_comm
    unfold prioritySql agrees priority
    simp only [Option.any_some, Option.isNone_some, Bool.or_false, Option.all_some,
      Option.map_some, Option.getD_some, ite_self]
    exact hsame

lemma prioritySql_none (requested : Option Priority) :
    prioritySql none true requested = agrees requested (priority none) := by
  cases requested with
  | none => rfl
  | some requested => cases requested <;> rfl

lemma handoffOwnerSql_eq (userId : UserKey) (assigned : Option UserKey) (ticket : TicketRow)
    (requested : OwnerFilter) :
    handoffOwnerSql userId assigned ticket requested =
      matchesOwner userId (owner (some ticket) assigned false) requested := by
  cases assigned with
  | some agent => cases requested <;> simp [handoffOwnerSql, matchesOwner, owner]
  | none =>
    cases hassignee : ticket.assigneeId with
    | some assignee =>
      cases requested <;> simp [handoffOwnerSql, matchesOwner, owner, hassignee]
    | none =>
      cases hteam : ticket.teamId with
      | some team =>
        cases requested <;> simp [handoffOwnerSql, matchesOwner, owner, hassignee, hteam]
      | none =>
        cases requested <;> simp [handoffOwnerSql, matchesOwner, owner, hassignee, hteam]

lemma ticketOwnerSql_eq (userId : UserKey) (ticket : TicketRow) (requested : OwnerFilter) :
    ticketOwnerSql userId ticket requested =
      matchesOwner userId (owner (some ticket) none false) requested := by
  rw [← handoffOwnerSql_eq]
  cases requested <;> simp [handoffOwnerSql, ticketOwnerSql]

lemma dispatchOwnerSql_eq (userId : UserKey) (status : DispatchStatus)
    (ticket : Option TicketRow) (requested : OwnerFilter) :
    dispatchOwnerSql userId status ticket requested =
      matchesOwner userId (owner ticket none (status = .processing)) requested := by
  by_cases hworker : status = .processing
  · cases requested <;> simp [dispatchOwnerSql, matchesOwner, owner, hworker]
  · cases ticket with
    | none => cases requested <;> simp [dispatchOwnerSql, matchesOwner, owner, hworker]
    | some ticket =>
      have hticket := ticketOwnerSql_eq userId ticket requested
      have howner : owner (some ticket) none (decide (status = .processing)) =
          owner (some ticket) none false := by rw [decide_eq_false hworker]
      rw [howner, ← hticket]
      cases requested <;> simp [dispatchOwnerSql, ticketOwnerSql, hworker]

/-- the state that the item shows, on the same values. -/
def slaStateOf (active paused breachFlag : Bool) (due : Option ℤ) (now updated : ℤ) : SlaState :=
  if !active then .notApplicable
  else if paused then .paused
  else if breachFlag then .breached
  else
    match due with
    | none => if updated ≤ now - staleAfter then .stale else .unavailable
    | some d => if d ≤ now then .breached else if d ≤ now + atRiskWithin then .atRisk else .healthy

lemma sla_state (active : Bool) (ticket : Option TicketRow) (now updated : UtcTime) :
    (sla ticket (!active) now updated).state =
      slaStateOf active (ticket.any (·.slaPaused)) (ticket.any (·.breached))
        ((ticket.bind (·.due)).map (·.micros)) now.micros updated.micros := by
  unfold sla slaStateOf
  cases active with
  | false => rfl
  | true =>
    rw [Bool.not_true, if_neg Bool.false_ne_true, if_neg Bool.false_ne_true]
    by_cases hpaused : ticket.any (·.slaPaused) = true
    · rw [if_pos hpaused, if_pos hpaused]
    · rw [if_neg hpaused, if_neg hpaused]
      dsimp only
      by_cases hflag : ticket.any (·.breached) = true
      · rw [if_pos hflag, if_pos hflag]
      · rw [if_neg hflag, if_neg hflag]
        cases ticket.bind (·.due) with
        | none =>
          rw [Option.map_none]
          dsimp only
          have hstale : now.micros - updated.micros ≥ staleAfter ↔
              updated.micros ≤ now.micros - staleAfter := by omega
          by_cases h : updated.micros ≤ now.micros - staleAfter
          · rw [if_pos (hstale.2 h), if_pos h]
          · rw [if_neg (fun h' => h (hstale.1 h')), if_neg h]
        | some due =>
          rw [Option.map_some]
          dsimp only
          have hover : due.micros - now.micros ≤ 0 ↔ due.micros ≤ now.micros := by omega
          have hsoon : due.micros - now.micros ≤ atRiskWithin ↔
              due.micros ≤ now.micros + atRiskWithin := by omega
          simp only [hover, hsoon]

lemma slaConditions_eq (active paused breachFlag noTicket : Bool) (due : Option ℤ)
    (now updated : ℤ) (hticket : noTicket = true → breachFlag = false ∧ due = none)
    (requested : SlaState) :
    slaConditions active paused breachFlag noTicket due now updated requested =
      decide (requested = slaStateOf active paused breachFlag due now updated) := by
  unfold slaStateOf
  cases active with
  | false => cases requested <;> rfl
  | true =>
    cases paused with
    | true => cases requested <;> simp [slaConditions]
    | false =>
      cases breachFlag with
      | true =>
        have hthere : noTicket = false := by
          cases noTicket with
          | false => rfl
          | true => cases (hticket rfl).1
        cases requested <;> simp [slaConditions, hthere]
      | false =>
        cases due with
        | none =>
          by_cases hold : updated ≤ now - staleAfter
          · cases requested <;> simp [slaConditions, hold]
          · cases requested <;> simp [slaConditions, hold, not_le.1 hold]
        | some d =>
          have hthere : noTicket = false := by
            cases noTicket with
            | false => rfl
            | true => cases (hticket rfl).2
          have hpos := atRiskWithin_pos
          by_cases hover : d ≤ now
          · have hsoon : ¬now + atRiskWithin < d := by omega
            cases requested <;> simp [slaConditions, hthere, hover, hsoon, not_lt.2 hover]
          · have hover' := not_le.1 hover
            by_cases hsoon : d ≤ now + atRiskWithin
            · cases requested <;> simp [slaConditions, hthere, hover, hover', hsoon]
            · cases requested <;>
                simp [slaConditions, hthere, hover, hover', hsoon, not_le.1 hsoon]

lemma slaSql_eq (active : Bool) (ticket : Option TicketRow) (now updated : UtcTime)
    (requested : Option SlaState) :
    slaSql active ticket now updated requested =
      agrees requested (sla ticket (!active) now updated).state := by
  cases requested with
  | none => rfl
  | some requested =>
    unfold agrees
    rw [sla_state, Option.all_some]
    refine slaConditions_eq _ _ _ _ _ _ _ (fun hnone => ?_) requested
    rw [Option.isNone_iff_eq_none.1 hnone]
    exact ⟨rfl, rfl⟩

lemma retrySql_eq (row : DispatchRow) (requested : Option RetryState) :
    retrySql row.status requested = agrees requested (retry (some row)).state := by
  cases requested with
  | none => rfl
  | some requested =>
    unfold retrySql agrees retry
    cases hstatus : row.status <;> cases requested <;> simp [hstatus]

end NexusHelpdesk.Queue
