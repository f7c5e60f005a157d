import NexusHelpdesk.Desk.Basic
import NexusHelpdesk.Lib.Batch
import NexusHelpdesk.Lib.Run
import NexusHelpdesk.Lib.WriteBack

/-!
# The operations dispatch outbox (`operations_dispatch_outbox.py`, `operations_dispatch_processor.py`)

A dispatch is stored once per `dispatch_key`; a worker claims the oldest due one under a lease,
commits, calls the provider adapter, and finalises under the same lease.  An operator may cancel.

* `enqueueOperationsDispatch`;
* `claimNextOperationsDispatch`: `recoverExpiredLeases`, `deadLetterExhaustedDueRows`, then the claim;
* `markOperationsDispatchSuccess`, `markOperationsDispatchFailure`: both through
  `ownedProcessingRecord`;
* `cancelOperationsDispatch`: what a cancellation makes of its copy of the row, written back by
  primary key under the check constraints of the table;
* `DispatchStep`: the moves of workers and operators.
-/

namespace NexusHelpdesk.Operations

open Lib

inductive DispatchStatus where
  | pending | processing | dispatched | retryable | failed | cancelled | deadLetter
deriving DecidableEq, Repr

/-- the two statuses a cancellation refuses. -/
def DispatchStatus.terminal : DispatchStatus → Bool
  | .dispatched | .deadLetter => true
  | _ => false

/-- the immutable scope of a dispatch, the fields `_assert_same_scope` compares. -/
structure Scope where
  tenantKey : String
  countryCode : String
  channelKey : String
  routingRuleId : ℤ
  destinationGroupKey : String
  destinationGroupHash : String
  ticketId : Option ℤ
deriving DecidableEq, Repr

structure OutboxRecord where
  dispatchKey : String
  scope : Scope
  status : DispatchStatus
  attemptCount : ℕ
  maxAttempts : ℕ
  nextRetryAt : Option Instant
  leaseOwner : Option String
  leaseExpiresAt : Option Instant
  errorCategory : Option String
  createdAt : Instant
  updatedAt : Instant
  dispatchedAt : Option Instant
  cancelledAt : Option Instant
deriving DecidableEq, Repr

def OutboxRecord.constraints (r : OutboxRecord) : Bool :=
  decide (1 ≤ r.maxAttempts) && decide (r.attemptCount ≤ r.maxAttempts) &&
    (if r.status = .processing then r.leaseOwner.isSome && r.leaseExpiresAt.isSome
      else r.leaseOwner.isNone && r.leaseExpiresAt.isNone) &&
    (r.status != .retryable || r.nextRetryAt.isSome) &&
    (r.status != .dispatched || r.dispatchedAt.isSome) &&
    (r.status != .cancelled || r.cancelledAt.isSome)

/-! ## enqueue -/

def safeScopeChar (c : Char) : Bool := c.isAlphanum || c ∈ ['.', '_', ':', '-']

/-- `_scope`: the trimmed text if it is not empty, not too long and matches `_SAFE_SCOPE_RE`. -/
def scopeText (field : String) (limit : ℕ) (value : String) : Except String String :=
  let text := PyStr.strip value
  let chars := text.toList
  if chars.head?.any Char.isAlphanum && chars.all safeScopeChar &&
      decide (chars.length ≤ min limit 200) then .ok text
  else .error ("operations_dispatch_invalid_" ++ field)

def positiveInt (field : String) (value : ℤ) : Except String ℤ :=
  if 0 < value then .ok value else .error ("operations_dispatch_invalid_" ++ field)

def optionalPositiveInt (field : String) : Option ℤ → Except String (Option ℤ)
  | none => .ok none
  | some value => (positiveInt field value).map some

/-- `_digest`: `sha256:` and 64 hexadecimal digits. -/
def digestText (field value : String) : Except String String :=
  let text := PyStr.lower (PyStr.strip value)
  let hex := text.toList.drop 7
  if text.toList.take 7 = "sha256:".toList ∧ hex.length = 64 ∧
      hex.all (fun c => c.isDigit || ('a' ≤ c && c ≤ 'f')) then .ok text
  else .error ("operations_dispatch_invalid_" ++ field)

structure EnqueueRequest where
  dispatchKey : String
  scope : Scope
  maxAttempts : ℤ
deriving DecidableEq, Repr

/-- the validated scope, in the order in which the fields are checked after the key. -/
def validScope (q : Scope) : Except String Scope := do
  let tenantKey ← scopeText "tenant_key" 80 q.tenantKey
  let countryCode ← scopeText "country_code" 16 q.countryCode
  let channelKey ← scopeText "channel_key" 40 q.channelKey
  let routingRuleId ← positiveInt "routing_rule_id" q.routingRuleId
  let destinationGroupKey ← scopeText "destination_group_key" 200 q.destinationGroupKey
  let destinationGroupHash ← digestText "destination_group_hash" q.destinationGroupHash
  let ticketId ← optionalPositiveInt "ticket_id" q.ticketId
  return {
    tenantKey := tenantKey
    countryCode := String.ofList (countryCode.toList.map Char.toUpper)
    channelKey := PyStr.lower channelKey
    routingRuleId := routingRuleId
    destinationGroupKey := destinationGroupKey
    destinationGroupHash := destinationGroupHash
    ticketId := ticketId }

def newRecord (now : Instant) (key : String) (scope : Scope) (maxAttempts : ℤ) :
    OutboxRecord where
  dispatchKey := key
  scope := scope
  status := .pending
  attemptCount := 0
  maxAttempts := (min 20 (max 1 maxAttempts)).toNat
  nextRetryAt := none
  leaseOwner := none
  leaseExpiresAt := none
  errorCategory := none
  createdAt := now
  updatedAt := now
  dispatchedAt := none
  cancelledAt := none

/-- `enqueue_operations_dispatch`: the row, whether it is new, and the table. -/
def enqueueOperationsDispatch (now : Instant) (q : EnqueueRequest) (records : Table OutboxRecord) :
    Except String (ℕ × Bool × Table OutboxRecord) := do
  let key ← scopeText "dispatch_key" 80 q.dispatchKey
  let scope ← validScope q.scope
  match (records.select fun _ r => r.dispatchKey = key).head? with
  | some (id, r) =>
    if r.scope = scope then return (id, false, records)
    else throw "operations_dispatch_key_scope_collision"
  | none => return (records.next, true, records.insert (newRecord now key scope q.maxAttempts))

/-! ## claim -/

/-- `status = 'processing' and lease_expires_at <= current`. -/
def leaseExpired (now : Instant) (r : OutboxRecord) : Bool :=
  r.status == .processing && r.leaseExpiresAt.any (· ≤ now)

def exhausted (r : OutboxRecord) : Bool := decide (r.maxAttempts ≤ r.attemptCount)

def deadLetter (now : Instant) (category : String) (r : OutboxRecord) : OutboxRecord :=
  { r with
    status := .deadLetter
    nextRetryAt := none
    leaseOwner := none
    leaseExpiresAt := none
    errorCategory := some category
    updatedAt := now }

/-- one row under the two updates of `_recover_expired_leases`. -/
def recoverLease (now : Instant) (r : OutboxRecord) : OutboxRecord :=
  if leaseExpired now r then
    if exhausted r then deadLetter now "lease_expired_attempts_exhausted" r
    else
      { r with
        status := .retryable
        nextRetryAt := some now
        leaseOwner := none
        leaseExpiresAt := none
        errorCategory := some "lease_expired"
        updatedAt := now }
  else r

/-- one row under `_dead_letter_exhausted_due_rows`. -/
def deadLetterExhausted (now : Instant) (r : OutboxRecord) : OutboxRecord :=
  if (r.status == .pending || r.status == .retryable) && exhausted r then
    deadLetter now "attempts_exhausted" r
  else r

def recoverExpiredLeases (now : Instant) (records : Table OutboxRecord) : Table OutboxRecord :=
  records.mapRows fun _ r => recoverLease now r

def deadLetterExhaustedDueRows (now : Instant) (records : Table OutboxRecord) :
    Table OutboxRecord :=
  records.mapRows fun _ r => deadLetterExhausted now r

def dispatchDue (now : Instant) (r : OutboxRecord) : Bool :=
  (r.status == .pending || (r.status == .retryable && r.nextRetryAt.any (· ≤ now))) &&
    decide (r.attemptCount < r.maxAttempts)

abbrev oldestFirst : ℕ × OutboxRecord → ℕ × OutboxRecord → Prop :=
  Table.earlier OutboxRecord.createdAt

def claimRecord (now : Instant) (owner : String) (leaseSeconds : ℤ) (r : OutboxRecord) :
    OutboxRecord :=
  { r with
    status := .processing
    attemptCount := r.attemptCount + 1
    leaseOwner := some owner
    leaseExpiresAt := some (now + seconds (max 1 leaseSeconds))
    nextRetryAt := none
    errorCategory := none
    updatedAt := now }

/-- the rows after the two sweeps that precede every claim. -/
def sweep (now : Instant) (records : Table OutboxRecord) : Table OutboxRecord :=
  deadLetterExhaustedDueRows now (recoverExpiredLeases now records)

def claimCandidate (now : Instant) (records : Table OutboxRecord) : Option (ℕ × OutboxRecord) :=
  ((sweep now records).ordered oldestFirst fun _ r => dispatchDue now r).head?

/-- `claim_next_operations_dispatch`: the claimed row, if one is due, and the table. -/
def claimNextOperationsDispatch (now : Instant) (owner : String) (leaseSeconds : ℤ)
    (records : Table OutboxRecord) : Option (ℕ × OutboxRecord) × Table OutboxRecord :=
  match claimCandidate now records with
  | some (id, r) =>
    (some (id, claimRecord now owner leaseSeconds r),
      (sweep now records).set id (claimRecord now owner leaseSeconds r))
  | none => (none, sweep now records)

/-! ## the adapter and the end of an attempt -/

structure Envelope where
  outboxId : ℕ
  dispatchKey : String
  scope : Scope
  attemptCount : ℕ
  maxAttempts : ℕ
deriving DecidableEq, Repr

def envelope (id : ℕ) (r : OutboxRecord) : Envelope :=
  ⟨id, r.dispatchKey, r.scope, r.attemptCount, r.maxAttempts⟩

/-- `OperationsDispatchAdapterResult`; an exception of the adapter is a retryable failure. -/
structure AdapterResult where
  success : Bool
  retryable : Bool
  errorCategory : Option String
deriving DecidableEq, Repr

def ownedProcessing (now : Instant) (owner : String) (r : OutboxRecord) : Bool :=
  r.status == .processing && r.leaseOwner == some owner && r.leaseExpiresAt.any (now < ·)

/-- `mark_operations_dispatch_success` on the row it owns. -/
def markOperationsDispatchSuccess (now : Instant) (r : OutboxRecord) : OutboxRecord :=
  { r with
    status := .dispatched
    leaseOwner := none
    leaseExpiresAt := none
    nextRetryAt := none
    errorCategory := none
    dispatchedAt := some now
    updatedAt := now }

def retryDelay (attemptCount : ℕ) : ℤ :=
  seconds (min 3600 (max 30 (30 * 2 ^ (attemptCount - 1))) : ℕ)

/-- `mark_operations_dispatch_failure` on the row it owns. -/
def markOperationsDispatchFailure (now : Instant) (retryable : Bool) (category : String)
    (r : OutboxRecord) : OutboxRecord :=
  { r with
    status :=
      if retryable && !exhausted r then .retryable
      else if exhausted r then .deadLetter else .failed
    nextRetryAt :=
      if retryable && !exhausted r then some (now + retryDelay r.attemptCount) else none
    leaseOwner := none
    leaseExpiresAt := none
    errorCategory := some category
    updatedAt := now }

/-- the finalisation of an attempt; `none` is `OperationsDispatchLeaseLostError`. -/
def finalizeRecord (now : Instant) (owner : String) (result : AdapterResult) (r : OutboxRecord) :
    Option OutboxRecord :=
  if ownedProcessing now owner r then
    if result.success then some (markOperationsDispatchSuccess now r)
    else some (markOperationsDispatchFailure now result.retryable
      (if PyStr.truthy result.errorCategory then result.errorCategory.getD ""
        else "dispatch_failed") r)
  else none

/-- the row in memory when a cancellation is written. -/
def cancelOperationsDispatch (now : Instant) (r : OutboxRecord) : OutboxRecord :=
  { r with
    status := .cancelled
    leaseOwner := none
    leaseExpiresAt := none
    nextRetryAt := none
    cancelledAt := some now
    errorCategory := some "cancelled"
    updatedAt := now }

/-- the update by primary key that a flush emits: only the columns that changed in memory. -/
def flushRecord (read new stored : OutboxRecord) : OutboxRecord :=
  { stored with
    status := changed read.status new.status stored.status
    attemptCount := changed read.attemptCount new.attemptCount stored.attemptCount
    nextRetryAt := changed read.nextRetryAt new.nextRetryAt stored.nextRetryAt
    leaseOwner := changed read.leaseOwner new.leaseOwner stored.leaseOwner
    leaseExpiresAt := changed read.leaseExpiresAt new.leaseExpiresAt stored.leaseExpiresAt
    errorCategory := changed read.errorCategory new.errorCategory stored.errorCategory
    updatedAt := changed read.updatedAt new.updatedAt stored.updatedAt
    cancelledAt := changed read.cancelledAt new.cancelledAt stored.cancelledAt }

/-- the cancellation as the database takes it: refused if a check constraint fails. -/
def writeCancelled (now : Instant) (read stored : OutboxRecord) : OutboxRecord :=
  let new := flushRecord read (cancelOperationsDispatch now read) stored
  if new.constraints then new else stored

/-! ## runs -/

/-- what a worker is doing: it has claimed and committed, or the adapter has answered. -/
inductive Work where
  | claimed (e : Envelope)
  | answered (e : Envelope) (result : AdapterResult)

def Work.envelope : Work → Envelope
  | .claimed e => e
  | .answered e _ => e

/-- the committed rows, the work of each worker, the row each operator has read in order to cancel
it, and the envelopes the adapter was called with, newest first. -/
structure World where
  records : Table OutboxRecord
  held : InHand String Work
  cancels : InHand ℕ (ℕ × OutboxRecord)
  calls : List Envelope

def World.empty : World := ⟨.empty, .empty, .empty, []⟩

inductive DispatchStep where
  | enqueue (now : Instant) (q : EnqueueRequest)
  | claim (now : Instant) (worker : String) (leaseSeconds : ℤ)
  | call (worker : String) (result : AdapterResult)
  | finalize (now : Instant) (worker : String)
  | crash (worker : String)
  | readCancel (operator : ℕ) (id : ℕ)
  | writeCancel (now : Instant) (operator : ℕ)

namespace DispatchStep

/-- a worker claims only when it has nothing in hand: its batch is a loop. -/
def applyClaim (now : Instant) (worker : String) (leaseSeconds : ℤ) (s : World) : World :=
  match s.held worker with
  | some _ => s
  | none =>
    match claimNextOperationsDispatch now worker leaseSeconds s.records with
    | (some (id, r), records) =>
      { s with records := records, held := s.held.take worker (.claimed (envelope id r)) }
    | (none, records) => { s with records := records }

def applyCall (worker : String) (result : AdapterResult) (s : World) : World :=
  match s.held worker with
  | some (.claimed e) =>
    { s with held := s.held.take worker (.answered e result), calls := e :: s.calls }
  | _ => s

def applyFinalize (now : Instant) (worker : String) (s : World) : World :=
  match s.held worker with
  | some (.answered e result) =>
    { s with
      records := s.records.modify e.outboxId fun r =>
        (finalizeRecord now worker result r).getD r
      held := s.held.release worker }
  | _ => s

def applyReadCancel (operator id : ℕ) (s : World) : World :=
  match s.records.get? id with
  | some r =>
    if r.status.terminal then { s with cancels := s.cancels.release operator }
    else { s with cancels := s.cancels.take operator (id, r) }
  | none => { s with cancels := s.cancels.release operator }

def applyWriteCancel (now : Instant) (operator : ℕ) (s : World) : World :=
  match s.cancels operator with
  | some (id, read) =>
    { s with
      records := s.records.modify id (writeCancelled now read)
      cancels := s.cancels.release operator }
  | none => s

def apply : DispatchStep → World → World
  | .enqueue now q, s =>
    match enqueueOperationsDispatch now q s.records with
    | .ok (_, _, records) => { s with records := records }
    | .error _ => s
  | .claim now worker leaseSeconds, s => applyClaim now worker leaseSeconds s
  | .call worker result, s => applyCall worker result s
  | .finalize now worker, s => applyFinalize now worker s
  | .crash worker, s => { s with held := s.held.release worker }
  | .readCancel operator id, s => applyReadCancel operator id s
  | .writeCancel now operator, s => applyWriteCancel now operator s

end DispatchStep

end NexusHelpdesk.Operations
