import NexusHelpdesk.Outbound.Dispatch
import NexusHelpdesk.Lib.Run
import NexusHelpdesk.Lib.WriteBack

/-!
# Processing restrictions and the dispatcher (`processing_purpose_enforcement.py`)

Restrictions of customers, the listener that vetoes writes of their automatic messages, and
`dispatch_pending_messages` cut at its commits and around its provider calls.

* `automaticOutbound`, `refusal`: what the listeners refuse to write;
* `cancelled`: what the activation of a restriction writes into a pending message;
* `reclaimStale`, `claimPending`: the two transactions before the loop;
* `finished`: the end of an attempt, with the recovery of an exception;
* `DispatchWorld`, `dispatchStep`: restrictions, messages and workers in any order.

Every transaction is one step.
-/

namespace NexusHelpdesk.Outbound

open Lib

/-! ## restrictions -/

structure TicketScope where
  tenantId : Option ℕ
  customerId : Option ℕ
deriving DecidableEq

structure ProcessingRestriction where
  tenantId : ℕ
  customerId : ℕ
  requestId : ℕ
  active : Bool
  blockedPurposes : List String
  allowedPurposes : List String
deriving DecidableEq

def purposeAutomaticOutbound : String := "automatic_outbound"

def allowedPurposesWhenRestricted : List String :=
  ["dsar", "fraud_prevention", "human_support", "legal_obligation", "retention", "security"]

def defaultBlockedPurposes : List String :=
  ["analytics", "automated_ai", "automatic_outbound", "marketing", "model_training",
    "provider_tool_execution"]

def placed (tenantId customerId requestId : ℕ) : ProcessingRestriction :=
  ⟨tenantId, customerId, requestId, true, defaultBlockedPurposes, allowedPurposesWhenRestricted⟩

/-- `str(item).strip().lower()`. -/
def normalized (s : String) : String := PyStr.lower (PyStr.strip s)

def purposeIsBlocked (r : ProcessingRestriction) (purpose : String) : Bool :=
  normalized purpose ∈ r.blockedPurposes.map normalized ||
    normalized purpose ∉ r.allowedPurposes.map normalized

def restricts (customerId : Option ℕ) (r : ProcessingRestriction) : Bool :=
  some r.customerId = customerId && r.active && purposeIsBlocked r purposeAutomaticOutbound

def activeRestriction (rs : List ProcessingRestriction) (customerId : Option ℕ) : Bool :=
  rs.any (restricts customerId)

/-- a row after `release_data_processing_restriction`. -/
def released (requestId : ℕ) (r : ProcessingRestriction) : ProcessingRestriction :=
  if r.requestId = requestId then { r with active := false } else r

/-! ## the listeners -/

/-- the notice of a restriction itself. -/
def privacyHandoff (m : OutboundMessage) : Bool :=
  "privacy_handoff".toList.isPrefixOf (normalized (m.providerStatus.getD "")).toList

def unattended (m : OutboundMessage) : Bool :=
  isExternalOutboundChannel m.channel && m.createdBy.isNone &&
    normalized (m.origin.getD "") ∉ ["human_agent", "human"]

def automaticOutbound (m : OutboundMessage) : Bool := !privacyHandoff m && unattended m

def outboundRequiresGuard (m : OutboundMessage) : Bool :=
  (m.status = .pending || m.status = .sent) && automaticOutbound m

inductive Refusal where
  /-- `validate_persisted_ai_payload_binding`. -/
  | binding
  /-- `DataProcessingRestricted`. -/
  | restricted
deriving DecidableEq, Repr

def Refusal.typeName : Refusal → String
  | .binding => "ValueError"
  | .restricted => "DataProcessingRestricted"

structure GuardEnv where
  settings : Settings
  /-- the tenant and the customer of a ticket. -/
  scope : ℕ → TicketScope
  bindingViolation : OutboundMessage → Option String

variable (env : GuardEnv)

def concerns (c : ℕ) (m : OutboundMessage) : Bool := (env.scope m.ticketId).customerId = some c

def ofRestricted (rs : List ProcessingRestriction) (m : OutboundMessage) : Bool :=
  activeRestriction rs (env.scope m.ticketId).customerId

/-- what the listeners say of a row before it is written. -/
def refusal (rs : List ProcessingRestriction) (m : OutboundMessage) : Option Refusal :=
  if (env.bindingViolation m).isSome then some .binding
  else if outboundRequiresGuard m && ofRestricted env rs m then some .restricted
  else none

/-! ## writers -/

def cancels (tenantId customerId : ℕ) (m : OutboundMessage) : Bool :=
  env.scope m.ticketId = ⟨some tenantId, some customerId⟩ && m.status = .pending &&
    m.createdBy.isNone && isExternalOutboundChannel m.channel

def cancelled (m : OutboundMessage) : OutboundMessage :=
  { m with
    status := .dead
    providerStatus := some "dead:data_processing_restricted"
    failureCode := some "data_processing_restricted"
    failureReason := some "Automatic outbound blocked by active processing restriction"
    errorMessage := some "Automatic outbound blocked by active processing restriction"
    nextRetryAt := none
    lockedAt := none
    lockedBy := none }

def queued (m : OutboundMessage) : OutboundMessage :=
  { m with
    status := .pending
    retryCount := 0
    sentAt := none
    lastAttemptAt := none
    nextRetryAt := none
    lockedAt := none
    lockedBy := none }

def lapsed (now : Instant) (m : OutboundMessage) : OutboundMessage :=
  markRetry now "Previous outbound worker lease expired before a terminal result"
    (some "worker_lease_expired") m

/-- `reclaim_stale_processing_messages`: the rows are flushed one by one, and one that is refused
takes all of them back. -/
def reclaimStale (now : Instant) (limit : Option ℕ) (rs : List ProcessingRestriction)
    (t : Table OutboundMessage) : Except Refusal (Table OutboundMessage) :=
  let rows := (orderByCreatedAt (t.select fun _ m => isStaleProcessing env.settings now m)).take
    (batchLimit env.settings limit)
  match rows.findSome? fun r => refusal env rs (lapsed now r.2) with
  | some e => .error e
  | none => .ok (t.mapRows fun i m => if i ∈ rows.map (·.1) then lapsed now m else m)

def claimedIds (now : Instant) (limit : Option ℕ) (t : Table OutboundMessage) : List ℕ :=
  ((orderByCreatedAt (t.select fun _ m => isClaimable env.settings now m)).take
    (batchLimit env.settings limit)).map (·.1)

def leased (now : Instant) (token : String) (m : OutboundMessage) : OutboundMessage :=
  { m with status := .processing, lockedAt := some now, lockedBy := some token }

inductive AttemptOutcome where
  | sent (providerStatus : Option String) (sentAt : Option Instant)
      (providerMessageId receiptProvider : Option String)
  | retryable (reason : String) (failureCode : Option String)
  | final (reason failureCode : String)
  | raised (typeName : String)
deriving DecidableEq

def AttemptOutcome.written (o : AttemptOutcome) (now : Instant) (m : OutboundMessage) :
    Except String OutboundMessage :=
  match o with
  | .sent providerStatus sentAt providerMessageId receiptProvider =>
    .ok (markSent now providerStatus sentAt providerMessageId receiptProvider m)
  | .retryable reason failureCode => .ok (markRetry now reason failureCode m)
  | .final reason failureCode => .ok (markDead now reason failureCode m)
  | .raised typeName => .error typeName

def flushed (rs : List ProcessingRestriction) (m : OutboundMessage) : Except String OutboundMessage :=
  match refusal env rs m with
  | some e => .error e.typeName
  | none => .ok m

/-- the row after an attempt: what was written is committed only if it still shows the lease, and an
exception is recovered under the lease. -/
def finished (now : Instant) (token : String) (o : AttemptOutcome) (rs : List ProcessingRestriction)
    (m : OutboundMessage) : Except Refusal OutboundMessage :=
  match o.written now m >>= flushed env rs with
  | .ok m' => .ok (if holdsLease token m' then m' else m)
  | .error typeName =>
    if holdsLease token m then
      let m' := markRetry now ("Unhandled dispatch exception: " ++ typeName) none m
      match refusal env rs m' with
      | some e => .error e
      | none => .ok m'
    else .ok m

/-! ## runs -/

/-- where a call of `dispatch_pending_messages` is. -/
inductive DispatchPhase where
  | reclaimed
  | batch (todo : List ℕ)
  | calling (id : ℕ) (todo : List ℕ)
deriving DecidableEq

/-- an automatic message that a restriction found pending or processing. -/
structure StoppedMessage where
  id : ℕ
  /-- a provider call for it had started. -/
  called : Bool
deriving DecidableEq

structure DispatchWorld where
  messages : Table OutboundMessage
  restrictions : List ProcessingRestriction
  workers : InHand String DispatchPhase
  /-- the messages whose attempts have started. -/
  calls : List ℕ
  /-- the exceptions that left `dispatch_pending_messages`. -/
  raised : List Refusal
  stopped : List StoppedMessage

def DispatchWorld.start (t : Table OutboundMessage) : DispatchWorld :=
  ⟨t, [], InHand.empty, [], [], []⟩

inductive DispatchStep where
  | activate (tenantId customerId requestId : ℕ)
  | release (requestId : ℕ)
  | create (m : OutboundMessage)
  | reclaim (token : String) (now : Instant) (limit : Option ℕ)
  | claim (token : String) (now : Instant) (limit : Option ℕ)
  /-- the lease of the next message is refreshed and its attempt starts. -/
  | begin (token : String) (now : Instant)
  | finish (token : String) (now : Instant) (o : AttemptOutcome)
  | crash (token : String)

def DispatchStep.dispatches : DispatchStep → Bool
  | .activate .. | .release .. | .create .. => false
  | .reclaim .. | .claim .. | .begin .. | .finish .. | .crash .. => true

namespace DispatchWorld
variable (w : DispatchWorld)

def stops (c : ℕ) : List StoppedMessage :=
  (w.messages.select fun _ m => automaticOutbound m && concerns env c m &&
    (m.status = .pending || m.status = .processing)).map fun r => ⟨r.1, r.1 ∈ w.calls⟩

/-- an exception leaves the call. -/
def raise (token : String) (e : Refusal) : DispatchWorld :=
  { w with workers := w.workers.release token, raised := e :: w.raised }

/-- row `id` becomes `f` of it. -/
def rewrite (id : ℕ) (f : OutboundMessage → OutboundMessage) : DispatchWorld :=
  { w with messages := w.messages.modify id f }

def go (token : String) (p : DispatchPhase) : DispatchWorld :=
  { w with workers := w.workers.take token p }

end DispatchWorld

def refreshed (now : Instant) (m : OutboundMessage) : OutboundMessage :=
  { m with lockedAt := some now }

def startAttempt (w : DispatchWorld) (token : String) (now : Instant) (id : ℕ) (todo : List ℕ)
    (m : OutboundMessage) : DispatchWorld :=
  match messageDispatchBlockReason env.settings m with
  | some (failureCode, reason) =>
    match refusal env w.restrictions (markDead now reason failureCode m) with
    | some e => w.raise token e
    | none => (w.rewrite id fun _ => markDead now reason failureCode m).go token (.batch todo)
  | none => { w.go token (.calling id todo) with calls := id :: w.calls }

def beginMessage (w : DispatchWorld) (token : String) (now : Instant) (id : ℕ) (todo : List ℕ) :
    DispatchWorld :=
  match w.messages.get? id with
  | none => w.go token (.batch todo)
  | some m =>
    if holdsLease token m then
      startAttempt env (w.rewrite id fun _ => refreshed now m) token now id todo (refreshed now m)
    else w.go token (.batch todo)

def finishMessage (w : DispatchWorld) (token : String) (now : Instant) (o : AttemptOutcome)
    (id : ℕ) (todo : List ℕ) : DispatchWorld :=
  match w.messages.get? id with
  | none => w.go token (.batch todo)
  | some m =>
    match finished env now token o w.restrictions m with
    | .error e => w.raise token e
    | .ok m' => (w.rewrite id fun _ => m').go token (.batch todo)

def dispatchStep : DispatchStep → DispatchWorld → DispatchWorld
  | .activate tenantId customerId requestId, w =>
    if w.restrictions.any (·.requestId = requestId) then w
    else { w with
      restrictions := w.restrictions ++ [placed tenantId customerId requestId]
      messages := w.messages.mapRows fun _ m =>
        if cancels env tenantId customerId m then cancelled m else m
      stopped := w.stops env customerId ++ w.stopped }
  | .release requestId, w =>
    { w with restrictions := w.restrictions.map (released requestId) }
  | .create m, w =>
    match refusal env w.restrictions (queued m) with
    | some _ => w
    | none => { w with messages := w.messages.insert (queued m) }
  | .reclaim token now limit, w =>
    if (w.workers token).isSome || (runtimeDispatchBlockReason env.settings).isSome then w
    else
      match reclaimStale env now limit w.restrictions w.messages with
      | .error e => w.raise token e
      | .ok t => { w.go token .reclaimed with messages := t }
  | .claim token now limit, w =>
    match w.workers token with
    | some .reclaimed =>
      let ids := claimedIds env now limit w.messages
      { w.go token (.batch ids) with
        messages := w.messages.mapRows fun i m => if i ∈ ids then leased now token m else m }
    | _ => w
  | .begin token now, w =>
    match w.workers token with
    | some (.batch []) => { w with workers := w.workers.release token }
    | some (.batch (id :: todo)) => beginMessage env w token now id todo
    | _ => w
  | .finish token now o, w =>
    match w.workers token with
    | some (.calling id todo) => finishMessage env w token now o id todo
    | _ => w
  | .crash token, w => { w with workers := w.workers.release token }

end NexusHelpdesk.Outbound
