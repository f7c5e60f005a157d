import NexusHelpdesk.Desk.Basic
import NexusHelpdesk.Lib.Table

/-!
# Scenario assignments

`case_scenario_service.py`: a ticket is assigned to one scenario of the business catalog, by the
flush listeners of the ticket or by `reclassify_case_scenario`.

* `Catalog`: a catalog that parses; `loadRuntimeScenarioCatalog` refuses one with an inactive
  scenario;
* `candidateMatches`, `resolveCandidateScenario`: what the identity fields of a ticket name;
* `insertTicket`, `updateTicket`: a flush with the three listeners around it;
* `reclassifyCaseScenario`;
* `Command`, `Store.step`: the transactions.
-/

namespace NexusHelpdesk.Scenario
open Lib

/-! ## the catalog -/

structure Lifecycle where
  status : String
  effectiveFrom : Instant
  expiresAt : Option Instant
deriving DecidableEq

/-- `terms` stands for the other fields of a definition, as the snapshot carries them. -/
structure ScenarioDefinition where
  scenarioKey : String
  issueTypeAliases : List String
  terms : String
  lifecycle : Lifecycle
deriving DecidableEq

def ScenarioDefinition.names (s : ScenarioDefinition) : List String :=
  s.scenarioKey :: s.issueTypeAliases

/-- a catalog that `parse_business_scenario_catalog` accepts (`_validate_unique_catalog`). -/
structure Catalog where
  catalogVersion : String
  sourceSha256 : String
  scenarios : List ScenarioDefinition
  nodup_keys : (scenarios.map (·.scenarioKey)).Nodup
  names_unique : ∀ s ∈ scenarios, ∀ t ∈ scenarios, ∀ a ∈ s.names, a ∈ t.names →
    s.scenarioKey = t.scenarioKey

/-- `alias_map().get(name)`: a later entry replaces an earlier one. -/
def Catalog.aliasOf (c : Catalog) (name : String) : Option String :=
  (c.scenarios.reverse.find? fun s => name ∈ s.names).map (·.scenarioKey)

/-- `by_key().get(key)`. -/
def Catalog.byKey (c : Catalog) (key : String) : Option ScenarioDefinition :=
  c.scenarios.reverse.find? fun s => s.scenarioKey = key

def scenarioIsRuntimeActive (s : ScenarioDefinition) (at' : Instant) : Bool :=
  s.lifecycle.status = "approved" && s.lifecycle.effectiveFrom ≤ at' &&
    s.lifecycle.expiresAt.all (at' < ·)

/-! ## tickets and assignments -/

inductive IdentityField where
  | caseType | subCategory | category | aiClassification
deriving DecidableEq, Repr

def scenarioIdentityFields : List IdentityField :=
  [.caseType, .subCategory, .category, .aiClassification]

/-- `other` stands for the columns no listener reads. -/
structure TicketRow where
  identity : IdentityField → Option String
  createdBy : Option ℕ
  createdAt : Option Instant
  other : String

structure ScenarioSnapshot where
  catalogVersion : String
  catalogSha256 : String
  scenario : ScenarioDefinition
deriving DecidableEq

/-- `IMMUTABLE_ASSIGNMENT_FIELDS`. -/
structure Contract where
  ticketId : ℕ
  scenarioKey : String
  catalogVersion : String
  catalogSha256 : String
  scenarioSnapshot : ScenarioSnapshot
  assignmentSource : String
  assignmentReason : Option String
  assignedBy : Option ℕ
  assignedAt : Instant
deriving DecidableEq

structure Assignment where
  contract : Contract
  supersededAt : Option Instant
  supersededById : Option ℕ
deriving DecidableEq

structure Store where
  now : Instant
  catalog : Catalog
  tickets : Table TicketRow
  assignments : Table Assignment

inductive Refusal where
  | notFound (detail : String)
  | badRequest (code : String)
  | conflict (code : String)
  | crash (error : String)
deriving DecidableEq, Repr

/-! ## candidates -/

def loadRuntimeScenarioCatalog (d : Store) : Except Refusal Catalog :=
  if d.catalog.scenarios.all (scenarioIsRuntimeActive · d.now) then .ok d.catalog
  else .error (.conflict "scenario_catalog_contains_runtime_inactive_definition")

def normalized (value : Option String) : Option String :=
  let text := PyStr.lower (PyStr.strip (value.getD ""))
  if text = "" then none else some text

def Catalog.named (c : Catalog) (value : Option String) : Option String :=
  (normalized value).bind c.aliasOf

def candidateMatches (t : TicketRow) (c : Catalog) : List (IdentityField × String) :=
  scenarioIdentityFields.filterMap fun f => (c.named (t.identity f)).map fun key => (f, key)

def changedCandidateMatches (old t : TicketRow) (c : Catalog) : List (IdentityField × String) :=
  (scenarioIdentityFields.filter fun f => t.identity f ≠ old.identity f).filterMap fun f =>
    (c.named (t.identity f)).map fun key => (f, key)

/-- the matches name more than one scenario. -/
def ambiguous (ms : List (IdentityField × String)) : Bool := 1 < (ms.map (·.2)).dedup.length

def resolveCandidateScenario (t : TicketRow) (c : Catalog) (now : Instant) :
    Except Refusal (Option ScenarioDefinition) :=
  if ambiguous (candidateMatches t c) then .error (.conflict "case_scenario_identity_conflict")
  else match candidateMatches t c with
    | [] => .ok none
    | (_, key) :: _ =>
      match c.byKey key with
      | none => .error (.crash "KeyError")
      | some s =>
        if scenarioIsRuntimeActive s now then .ok (some s)
        else .error (.conflict "case_scenario_not_runtime_active")

def resolveExplicitScenario (c : Catalog) (scenarioKey : String) (now : Instant) :
    Except Refusal ScenarioDefinition :=
  match c.named (some scenarioKey) with
  | none => .error (.notFound "case_scenario_not_found")
  | some key =>
    match c.byKey key with
    | none => .error (.crash "KeyError")
    | some s =>
      if scenarioIsRuntimeActive s now then .ok s
      else .error (.conflict "case_scenario_not_runtime_active")

/-! ## assignments -/

def assignmentValues (tid : ℕ) (c : Catalog) (s : ScenarioDefinition) (source : String)
    (reason : Option String) (actor : Option ℕ) (assignedAt : Instant) : Assignment where
  contract :=
    { ticketId := tid
      scenarioKey := s.scenarioKey
      catalogVersion := c.catalogVersion
      catalogSha256 := c.sourceSha256
      scenarioSnapshot := ⟨c.catalogVersion, c.sourceSha256, s⟩
      assignmentSource := source
      assignmentReason := reason
      assignedBy := actor
      assignedAt := assignedAt }
  supersededAt := none
  supersededById := none

namespace Store
variable (d : Store)

def currentRows (tid : ℕ) : List (ℕ × Assignment) :=
  d.assignments.select fun _ a => a.contract.ticketId = tid && a.supersededAt.isNone

def currentCaseScenarioAssignment (tid : ℕ) : Option (ℕ × Assignment) :=
  (d.currentRows tid).getLast?

def connectionCurrentAssignment (tid : ℕ) : Option (ℕ × Assignment) := (d.currentRows tid).head?

/-- an insertion under the index `uq_case_scenario_assignments_current_ticket`. -/
def insertAssignment (a : Assignment) : Except Refusal Store :=
  if (d.currentRows a.contract.ticketId).isEmpty then
    .ok { d with assignments := d.assignments.insert a }
  else .error (.crash "IntegrityError")

def updateAssignment (i : ℕ) (f : Assignment → Assignment) : Except Refusal Store :=
  if (d.assignments.get? i).all fun a => (f a).contract = a.contract then
    .ok { d with assignments := d.assignments.modify i f }
  else .error (.crash "case_scenario_assignment_immutable")

def insertAutomaticAssignment (tid : ℕ) (t : TicketRow) (source : String) :
    Except Refusal Store :=
  if (d.connectionCurrentAssignment tid).isSome then .ok d
  else do
    let c ← loadRuntimeScenarioCatalog d
    match ← resolveCandidateScenario t c d.now with
    | none => .ok d
    | some s =>
      d.insertAssignment
        (assignmentValues tid c s source none t.createdBy (t.createdAt.getD d.now))

/-! ## the commands -/

def insertTicket (t : TicketRow) : Except Refusal Store :=
  { d with tickets := d.tickets.insert t }.insertAutomaticAssignment d.tickets.next t
    "ticket_insert"

def guardScenarioIdentityUpdate (tid : ℕ) (old t : TicketRow) : Except Refusal Unit :=
  if scenarioIdentityFields.any fun f => t.identity f ≠ old.identity f then do
    let c ← loadRuntimeScenarioCatalog d
    match d.connectionCurrentAssignment tid with
    | some (_, current) =>
      if (changedCandidateMatches old t c).any fun m => m.2 ≠ current.contract.scenarioKey then
        .error (.conflict "case_scenario_reclassification_command_required")
      else .ok ()
    | none =>
      if ambiguous (candidateMatches t c) then
        .error (.conflict "case_scenario_identity_conflict")
      else .ok ()
  else .ok ()

/-- the listeners around the update of the ticket `old` to `t`. -/
def flushTicket (tid : ℕ) (old t : TicketRow) : Except Refusal Store := do
  d.guardScenarioIdentityUpdate tid old t
  { d with tickets := d.tickets.set tid t }.insertAutomaticAssignment tid t
    "ticket_identity_update"

def updateTicket (tid : ℕ) (t : TicketRow) : Except Refusal Store :=
  match d.tickets.get? tid with
  | none => .error (.notFound "ticket_not_found")
  | some old => d.flushTicket tid old t

/-- the new row of `reclassify_case_scenario` follows the current one. -/
def supersede (tid i : ℕ) (row : Assignment) : Except Refusal Store := do
  let d₁ ← d.updateAssignment i fun a => { a with supersededAt := some d.now }
  let d₂ ← d₁.insertAssignment row
  d₂.updateAssignment i fun a => { a with supersededById := some d₁.assignments.next }

def reclassifyCaseScenario (tid : ℕ) (scenarioKey reason : String) (actor : Option ℕ) :
    Except Refusal Store :=
  if PyStr.strip reason = "" then
    .error (.badRequest "case_scenario_reclassification_reason_required")
  else if (d.tickets.get? tid).isNone then .error (.notFound "ticket_not_found")
  else do
    let c ← loadRuntimeScenarioCatalog d
    let s ← resolveExplicitScenario c scenarioKey d.now
    let note := String.ofList ((PyStr.collapse reason.toList).take 2000)
    let row := assignmentValues tid c s "explicit_reclassification" (some note) actor d.now
    match d.currentCaseScenarioAssignment tid with
    | none => d.insertAssignment row
    | some (i, current) =>
      if current.contract.scenarioKey = s.scenarioKey ∧
          current.contract.catalogSha256 = c.sourceSha256 then .ok d
      else d.supersede tid i row

end Store

inductive Command where
  | insertTicket (t : TicketRow)
  | updateTicket (tid : ℕ) (t : TicketRow)
  | reclassify (tid : ℕ) (scenarioKey reason : String) (actor : Option ℕ)
  | replaceCatalog (c : Catalog)

namespace Store

def perform (d : Store) : Command → Except Refusal Store
  | .insertTicket t => d.insertTicket t
  | .updateTicket tid t => d.updateTicket tid t
  | .reclassify tid scenarioKey reason actor =>
    d.reclassifyCaseScenario tid scenarioKey reason actor
  | .replaceCatalog c => .ok { d with catalog := c }

/-- a command at a time; what it raises is rolled back. -/
def step (e : Instant × Command) (d : Store) : Store :=
  match { d with now := e.1 }.perform e.2 with
  | .ok t => t
  | .error _ => { d with now := e.1 }

end Store

end NexusHelpdesk.Scenario
