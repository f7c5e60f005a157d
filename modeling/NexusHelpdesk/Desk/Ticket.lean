import NexusHelpdesk.Sla.Deadline

/-!
# Tickets

The part of a ticket that the handoff services, the routing authority and the SLA service read or
write, with the rows that belong to exactly one ticket: its current scenario assignment, its SLA
assignment and its pause intervals.

* `ScenarioDocument`: what `json.loads(scenario_snapshot_json)` gives;
* `ScenarioAssignment`: the current row of `case_scenario_assignments`;
* `SlaAssignment`: the immutable SLA revision of the ticket with its pause reasons;
* `Ticket.openPause`: the pause interval without an end;
* `Ticket.awaitHuman`, `Ticket.takenBy`, `Ticket.unassigned`, `Ticket.returnedToAi`: what the
  handoff services write.
-/

namespace NexusHelpdesk

/-- a scenario as a JSON object; an absent or null field is `none`, and so is a
`required_capabilities` that is no list. -/
structure ScenarioBody where
  scenarioKey : Option String
  ownerQueueKey : Option String
  riskLevel : Option String
  escalationPolicyKey : Option String
  requiredCapabilities : Option (List String)
deriving DecidableEq, Repr

inductive ScenarioDocument where
  /-- no JSON, or no object with a `scenario`. -/
  | unreadable
  /-- the scenario is no object. -/
  | shapeless (schema : Option String)
  | document (schema : Option String) (scenario : ScenarioBody)
deriving DecidableEq, Repr

structure ScenarioAssignment where
  id : ℕ
  scenarioKey : String
  catalogSha256 : String
  snapshot : ScenarioDocument
deriving DecidableEq, Repr

structure SlaAssignment where
  snapshot : Sla.PolicySnapshot
  pauseReasons : List String

structure Ticket where
  status : TicketStatus
  conversationState : ConversationState
  assigneeId : Option ℕ
  teamId : Option ℕ
  createdAt : Instant
  resolutionCategorySet : Bool
  scenario : Option ScenarioAssignment
  sla : Option SlaAssignment
  pauses : List Sla.PauseInterval

namespace Ticket

/-- the pause interval without an end (`_open_pause`). -/
def openPause (t : Ticket) : Option Sla.PauseInterval :=
  t.pauses.find? fun p => p.endedAt.isNone

def awaitHuman (t : Ticket) : Ticket :=
  { t with
    conversationState := .humanReviewRequired
    status :=
      if t.status = .new ∨ t.status = .resolved ∨ t.status = .closed ∨ t.status = .canceled then
        .pendingAssignment
      else t.status }

/-- an operator accepts the handoff. -/
def takenBy (t : Ticket) (uid : ℕ) : Ticket :=
  { t with assigneeId := some uid, status := .inProgress, conversationState := .humanOwned }

/-- the handoff of the operator goes back to the queue. -/
def unassigned (t : Ticket) (uid : ℕ) : Ticket :=
  { t with
    assigneeId := if t.assigneeId = some uid then none else t.assigneeId
    status := .pendingAssignment
    conversationState := .humanReviewRequired }

def returnedToAi (t : Ticket) (uid : ℕ) : Ticket :=
  { t with
    conversationState := .aiActive
    assigneeId := if t.assigneeId = some uid then none else t.assigneeId }

end Ticket
end NexusHelpdesk
