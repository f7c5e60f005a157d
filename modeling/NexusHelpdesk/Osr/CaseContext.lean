import NexusHelpdesk.Desk.Basic
import NexusHelpdesk.Lib.Table

/-!
# Case contexts (`nexus_osr/case_context.py`, `nexus_osr/case_context_persistence.py`)

* `CaseContext`, `CaseContextRecord`: a context, and its row;
* `activeExactRow`: the active row of a conversation and ticket;
* `loadCaseContext`: `load_case_context` of a conversation.
-/

namespace NexusHelpdesk.Osr

open Lib

abbrev Text := List Char

/-! ## contexts -/

inductive CaseContextStatus where
  | active | waitingCustomer | humanReview | ticketCreated | routed | closed | archived
deriving DecidableEq, Repr

def CaseContextStatus.terminal : CaseContextStatus → Bool
  | .closed | .archived => true
  | _ => false

structure ContactMethod where
  channel : Text
  valueRedacted : Text
  source : Text := []
  isDefault : Bool := false
deriving DecidableEq, Repr

structure CaseContext where
  conversationId : Option ℤ := none
  ticketId : Option ℤ := none
  channel : Option Text := none
  countryCode : Option Text := none
  issueType : Option Text := none
  status : CaseContextStatus := .active
  safeTrackingReference : Option Text := none
  trackingNumberHash : Option Text := none
  contactMethods : List ContactMethod := []
  customerClaimSummary : Option Text := none
  lastMcpFact : Option Text := none
  missingInfo : List Text := []
  handoffRequested : Bool := false
  ticketCreated : Bool := false
  routedGroupKey : Option Text := none
  aiActionsTaken : List Text := []
  agentHandoverSummary : Option Text := none
  closedAt : Option Instant := none
deriving DecidableEq, Repr

/-- `mark_handoff_requested`; `summary` is redacted already. -/
def CaseContext.markHandoffRequested (summary : Option Text) (c : CaseContext) : CaseContext :=
  { c with
    handoffRequested := true
    status := .humanReview
    agentHandoverSummary := if (summary.getD []) = [] then c.agentHandoverSummary else summary }

def CaseContext.markTicketCreated (ticketId : ℤ) (c : CaseContext) : CaseContext :=
  { c with ticketId := some ticketId, ticketCreated := true, status := .ticketCreated }

/-! ## rows -/

structure CaseContextRecord extends CaseContext where
  tenantId : Text
  isActive : Bool
  expiresAt : Option Instant
deriving DecidableEq, Repr

def CaseContextRecord.applyValues (context : CaseContext) (isActive : Bool)
    (expiresAt : Option Instant) (r : CaseContextRecord) : CaseContextRecord :=
  { r with toCaseContext := context, isActive := isActive, expiresAt := expiresAt }

def normalizeTenant (value : Text) : Text :=
  let cleaned := PyStr.stripChars value
  (if cleaned = [] then "default".toList else cleaned).take 80

/-- `_identity_query`. -/
def CaseContextRecord.isFor (tenantId : Text) (conversationId ticketId : Option ℤ)
    (r : CaseContextRecord) : Bool :=
  r.tenantId = tenantId && r.conversationId = conversationId && r.ticketId = ticketId

/-- `_apply_read_state`. -/
def CaseContextRecord.readable (now : Instant) (r : CaseContextRecord) : Bool :=
  r.isActive && r.closedAt = none && !r.status.terminal && r.expiresAt.all (now < ·)

def lastRow (rows : List (ℕ × CaseContextRecord)) : Option (ℕ × CaseContextRecord) := rows.getLast?

section Queries
variable (rows : Table CaseContextRecord) (now : Instant) (tenantId : Text)
  (conversationId ticketId : Option ℤ)

def activeExactRow : Option (ℕ × CaseContextRecord) :=
  if conversationId = none ∧ ticketId = none then none
  else lastRow (rows.select fun _ r =>
    r.isFor tenantId conversationId ticketId && r.readable now)

def deactivate : Table CaseContextRecord :=
  rows.mapRows fun _ r =>
    if (r.isFor tenantId conversationId ticketId && r.isActive && !r.readable now) = true then
      { r with isActive := false }
    else r

def deactivates : Bool :=
  rows.count (fun _ r =>
    r.isFor tenantId conversationId ticketId && r.isActive && !r.readable now) ≠ 0

def loadCaseContext (conversation : ℤ) : Except String (Option CaseContext) :=
  match lastRow (rows.select fun _ r => r.isFor tenantId (some conversation) none && r.readable now) with
  | some (_, r) => .ok (some r.toCaseContext)
  | none =>
    match rows.select fun _ r => r.tenantId = tenantId && r.conversationId = some conversation &&
        r.ticketId.isSome && r.readable now with
    | [] => .ok none
    | [(_, r)] => .ok (some r.toCaseContext)
    | _ => .error "case_context_identity_ambiguous"

end Queries

end NexusHelpdesk.Osr
