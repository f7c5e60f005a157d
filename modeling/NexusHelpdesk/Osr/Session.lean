import NexusHelpdesk.Osr.CaseContext
import NexusHelpdesk.Lib.Txn

/-!
# Database sessions of the OSR services

* `Store`: the rows that the services read and write, of one conversation;
* `Session`: the rows as they were sent in the open transaction, the rows as the objects of the
  session say, and the answers that its next flushes get;
* `flush`, `expireAll`, `savepoint`: the session's operations;
* `saveCaseContext`, `closeCaseContext`: the services on contexts.

Autoflush is off: a query reads what was sent.
-/

namespace NexusHelpdesk.Osr

open Lib

/-! ## rows -/

structure Customer where
  name : Text
  externalRef : Option Text
deriving DecidableEq, Repr

inductive TicketPriority where
  | low | medium | high | urgent
deriving DecidableEq, Repr

structure Ticket where
  ticketNo : Text
  title : Text
  description : Text
  customerId : ℕ
  sourceChannel : SourceChannel
  priority : TicketPriority
  status : TicketStatus
  conversationState : ConversationState
  assigneeId : Option ℕ
  preferredReplyContact : Option Text
  countryCode : Option Text
  caseType : Option Text
  customerRequest : Option Text
  requiredAction : Option Text
  missingFields : Option Text
  reopenCount : ℕ
  resolvedAt : Option Instant
  closedAt : Option Instant
  updatedAt : Instant
deriving DecidableEq, Repr

structure TicketEvent where
  ticketId : ℕ
  created : Bool
  changedFields : List String
deriving DecidableEq, Repr

structure WebchatConversation where
  publicId : Text
  tenantKey : Option Text
  ticketId : Option ℕ
  updatedAt : Instant
deriving DecidableEq, Repr

structure Store where
  conversation : WebchatConversation
  customers : Table Customer
  tickets : Table Ticket
  events : Table TicketEvent
  contexts : Table CaseContextRecord

/-! ## sessions -/

inductive OsrError where
  /-- `IntegrityError`, for a taken ticket number or for another constraint. -/
  | integrity (ticketNo : Bool)
  /-- another error of the database. -/
  | database
  /-- `AutoTicketIdentityConflictError`. -/
  | identityConflict (code : String)
  /-- `AutoTicketReferencedTicketNotFoundError`. -/
  | ticketNotFound
  | pendingRollback
  | runtime (code : String)
deriving DecidableEq, Repr

structure Session where
  flushed : Store
  pending : Store
  dirty : Bool
  /-- no flush has failed since the transaction or savepoint began. -/
  active : Bool
  /-- the errors of the next flushes that send something. -/
  answers : List (Option OsrError)

abbrev Work (α : Type) : Type := Txn Session OsrError α

/-- the rows of an open transaction; nothing is in flight. -/
def Session.start (d : Store) (answers : List (Option OsrError)) : Session :=
  ⟨d, d, false, true, answers⟩

/-- an assignment to attributes of objects, or a new object. -/
def assign (f : Store → Store) : Work Unit :=
  Txn.write fun s => { s with pending := f s.pending, dirty := true }

def requireActive : Work Unit := fun s =>
  (if s.active = true then .ok () else .error .pendingRollback, s)

def query {α : Type} (f : Store → α) : Work α := do
  requireActive
  Txn.read fun s => f s.flushed

def loaded {α : Type} (f : Store → α) : Work α := Txn.read fun s => f s.pending

def flush : Work Unit := fun s =>
  if s.dirty = false then (.ok (), s)
  else if s.active = false then (.error .pendingRollback, s)
  else
    match s.answers with
    | some e :: rest => (.error e, { s with active := false, answers := rest })
    | _ => (.ok (), { s with flushed := s.pending, dirty := false, answers := s.answers.tail })

/-- `expire_all`: the objects are read again. -/
def expireAll : Work Unit := Txn.write fun s => { s with pending := s.flushed, dirty := false }

/-- `with db.begin_nested():`; what is in flight is sent first. -/
def savepoint {α : Type} (m : Work α) : Work α := do
  requireActive
  flush
  let before ← query id
  let r ← Txn.attempt (do
    let a ← m
    requireActive
    flush
    pure a)
  match r with
  | .ok a => pure a
  | .error e => do
    Txn.write fun s =>
      { s with flushed := before, pending := before, dirty := false, active := true }
    Txn.raise e

/-! ## contexts -/

def Store.setContexts (f : Table CaseContextRecord → Table CaseContextRecord) (d : Store) : Store :=
  { d with contexts := f d.contexts }

section Contexts
variable (now : Instant)

def CaseContext.incomingActive (c : CaseContext) : Bool :=
  (c.conversationId.isSome || c.ticketId.isSome) && !c.status.terminal && c.closedAt = none

def rowForSave (tenantId : Text) (c : CaseContext) : Work (Option ℕ) :=
  if c.conversationId = none ∧ c.ticketId = none then pure none
  else do
    let stale ← query fun d => deactivates d.contexts now tenantId c.conversationId c.ticketId
    Txn.when stale do
      assign (Store.setContexts fun rows => deactivate rows now tenantId c.conversationId c.ticketId)
      flush
    query fun d => (activeExactRow d.contexts now tenantId c.conversationId c.ticketId).map Prod.fst

/-- another transaction has inserted the active row. -/
def saveOverWinner (tenantId : Text) (c : CaseContext) (e : OsrError) : Work Unit := do
  expireAll
  let winner ← query fun d =>
    (activeExactRow d.contexts now tenantId c.conversationId c.ticketId).map Prod.fst
  match winner with
  | none => Txn.raise e
  | some id => do
    assign (Store.setContexts fun rows => rows.modify id (.applyValues c true none))
    flush

def saveCaseContext (c : CaseContext) (tenant : Text) : Work Unit := do
  let tenantId := normalizeTenant tenant
  let record : CaseContextRecord := ⟨c, tenantId, c.incomingActive, none⟩
  let row ← rowForSave now tenantId c
  match row with
  | some id => do
    assign (Store.setContexts fun rows => rows.modify id (.applyValues c c.incomingActive none))
    flush
  | none =>
    if c.incomingActive = false then do
      assign (Store.setContexts fun rows => rows.insert record)
      flush
    else do
      let inserted ← Txn.attempt (savepoint do
        assign (Store.setContexts fun rows => rows.insert record)
        flush)
      match inserted with
      | .ok _ => pure ()
      | .error (.integrity ticketNo) => saveOverWinner now tenantId c (.integrity ticketNo)
      | .error e => Txn.raise e

def closeCaseContext (conversationId ticketId : Option ℤ) (tenant : Text) : Work Unit := do
  let row ← query fun d =>
    (activeExactRow d.contexts now (normalizeTenant tenant) conversationId ticketId).map Prod.fst
  match row with
  | none => pure ()
  | some id => do
    assign (Store.setContexts fun rows => rows.modify id fun r =>
      { r with status := .closed, closedAt := some now, isActive := false })
    flush

end Contexts

end NexusHelpdesk.Osr
