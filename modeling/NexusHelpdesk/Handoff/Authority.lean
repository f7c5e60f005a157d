import NexusHelpdesk.Handoff.Desk

/-!
# The routing authority

`handoff_routing_authority.py`: the routing plan of a ticket-backed request is derived from the
scenario assignment of its ticket, and every candidate is authorised against it.

* `planContract`: the contract the current scenario assignment implies, or one of the five ways
  in which the assignment is refused;
* `verifiedPlan`: the plan `ensure_handoff_routing_plan` answers, or the conflict it raises;
* `candidateIsAuthorized`, `eligibleAgents`: who may serve a request;
* `activateDueGeneration`, `scheduleRetryOrExhaust`, `markPlanAssigned`, `closeRoutingPlan`: the
  moves of a plan.

A plan is named by the key of its request, `none` is the absent plan of a ticketless request.
-/

namespace NexusHelpdesk.Handoff
open Lib

/-! ## the contract -/

def routingPlanSchema := "nexus.handoff-routing-plan.v1"
def assignmentSchema := "nexus.case-scenario-assignment.v1"

/-- `str(x or "").strip().lower()`. -/
def normalizedText (s : Option String) : String := PyStr.lower (PyStr.strip (s.getD ""))

def normalizedCapabilities (raw : List String) : List String :=
  (((raw.filter fun s => PyStr.strip s != "").map fun s => PyStr.lower (PyStr.strip s)).dedup)
    |>.insertionSort (· ≤ ·)

/-- `_max_generations`: high and critical risks get the default too. -/
def maxGenerations (riskLevel : String) : ℕ :=
  if riskLevel = "high" ∨ riskLevel = "critical" then 3 else 3

/-- `_plan_contract` and the immutable fields `ensure_handoff_routing_plan` derives. -/
def planContract (rid tid : ℕ) (a : ScenarioAssignment) : Except Refusal PlanContract :=
  match a.snapshot with
  | .unreadable => .error (.conflict "handoff_routing_scenario_snapshot_invalid")
  | .shapeless schema =>
    if schema ≠ some assignmentSchema then
      .error (.conflict "handoff_routing_scenario_snapshot_schema_invalid")
    else .error (.crash "AttributeError")
  | .document schema b =>
    if schema ≠ some assignmentSchema then
      .error (.conflict "handoff_routing_scenario_snapshot_schema_invalid")
    else if b.scenarioKey ≠ some a.scenarioKey then
      .error (.conflict "handoff_routing_scenario_identity_mismatch")
    else if normalizedText b.ownerQueueKey = "" ∨
        normalizedText b.riskLevel ∉ ["low", "medium", "high", "critical"] then
      .error (.conflict "handoff_routing_scenario_contract_invalid")
    else match b.requiredCapabilities with
      | none => .error (.conflict "handoff_routing_capabilities_invalid")
      | some raw => .ok
        { schema := routingPlanSchema
          requestId := rid
          ticketId := tid
          scenarioAssignmentId := a.id
          scenarioKey := a.scenarioKey
          catalogSha256 := a.catalogSha256
          scenarioSnapshot := a.snapshot
          ownerQueueKey := normalizedText b.ownerQueueKey
          requiredCapabilities := normalizedCapabilities raw
          riskLevel := normalizedText b.riskLevel
          escalationPolicyKey :=
            if PyStr.strip (b.escalationPolicyKey.getD "") = "" then none
            else some (PyStr.strip (b.escalationPolicyKey.getD ""))
          maxGenerations := maxGenerations (normalizedText b.riskLevel) }

def RoutingPlan.observed (p : RoutingPlan) : PlanContract :=
  { p.contract with
    requiredCapabilities := normalizedCapabilities p.contract.requiredCapabilities }

def RoutingPlan.new (k : PlanContract) : RoutingPlan := ⟨k, k, .active, 1, none, none, []⟩

/-- the verdict of `ensure_handoff_routing_plan` on the row `r` under key `rid`: the plan to use, or
`none` for a ticketless request. -/
def verifiedPlan (d : Desk) (rid : ℕ) (r : HandoffRequest) : Except Refusal (Option RoutingPlan) :=
  match r.ticketId with
  | none => .ok none
  | some tid =>
    match (d.tickets.get? tid).bind (·.scenario) with
    | none => .error (.conflict "handoff_scenario_assignment_required")
    | some a =>
      match planContract rid tid a with
      | .error e => .error e
      | .ok k =>
        match r.plan with
        | none => .ok (some (RoutingPlan.new k))
        | some p =>
          if p.digest ≠ k ∨ p.observed ≠ k then
            .error (.conflict "handoff_routing_plan_conflict")
          else .ok (some p)

def ensureHandoffRoutingPlan (rid : ℕ) : Op (Option ℕ) := do
  let row ← Txn.read (·.requests.get? rid)
  match row with
  | none => Txn.raise (.crash "request_missing")
  | some r => do
    let plan ← Txn.check fun d => verifiedPlan d rid r
    match plan with
    | none => pure none
    | some p => do
      Txn.write (·.setRequest rid fun r => { r with plan := some p })
      pure (some rid)

/-! ## the moves of a plan -/

/-- `routing_plan_for_request`. -/
def Desk.plan? (d : Desk) (rid : ℕ) : Option RoutingPlan := (d.requests.get? rid).bind (·.plan)

def Desk.setPlan (d : Desk) (rid : ℕ) (f : RoutingPlan → RoutingPlan) : Desk :=
  d.setRequest rid fun r => { r with plan := r.plan.map f }

/-- what `activate_due_generation` does to a plan, and its answer. -/
def RoutingPlan.activateDue (p : RoutingPlan) (now : Instant) : RoutingPlan × Bool :=
  if p.status ≠ .retryScheduled then (p, p.status = .active)
  else match p.nextRetryAt with
    | none => (p, false)
    | some due =>
      if now < due then (p, false)
      else if p.contract.maxGenerations ≤ p.currentGeneration then
        ({ p with status := .exhausted, nextRetryAt := none }, false)
      else
        ({ p with
            currentGeneration := p.currentGeneration + 1
            status := .active
            nextRetryAt := none }, true)

def activateDueGeneration (rid : ℕ) : Op Bool := do
  let now ← Txn.read (·.now)
  let row ← Txn.read (·.plan? rid)
  match row with
  | none => pure false
  | some p => do
    Txn.write (·.setPlan rid fun p => (p.activateDue now).1)
    pure (p.activateDue now).2

/-- `schedule_retry_or_exhaust` of a plan: the back-off doubles with the generation, up to five
minutes. -/
def RoutingPlan.retryOrExhaust (p : RoutingPlan) (now : Instant) : RoutingPlan :=
  if p.status = .assigned ∨ p.status = .closed ∨ p.status = .exhausted then p
  else if p.contract.maxGenerations ≤ p.currentGeneration then
    { p with status := .exhausted, nextRetryAt := none }
  else
    { p with
      status := .retryScheduled
      nextRetryAt := some (now + seconds (min (30 * 2 ^ (p.currentGeneration - 1)) 300)) }

/-- `if plan is not None and plan.status == "active": schedule_retry_or_exhaust(plan)`. -/
def scheduleRetryOrExhaust (plan : Option ℕ) : Op Unit :=
  match plan with
  | none => pure ()
  | some rid => Txn.write fun d => d.setPlan rid fun p =>
      if p.status = .active then p.retryOrExhaust d.now else p

def markPlanAssigned (plan : Option ℕ) (uid : ℕ) : Op Unit :=
  match plan with
  | none => pure ()
  | some rid => Txn.write (·.setPlan rid fun p =>
      { p with status := .assigned, assignedAgentId := some uid, nextRetryAt := none })

def closeRoutingPlan (rid : ℕ) : Op Unit :=
  Txn.write (·.setPlan rid fun p => { p with status := .closed, nextRetryAt := none })

def RoutingPlan.recordAttempt (p : RoutingPlan) (uid : ℕ) (kind : ChannelKind) : RoutingPlan :=
  let a : CandidateAttempt := ⟨p.currentGeneration, uid, kind⟩
  if a ∈ p.attempts then p else { p with attempts := p.attempts ++ [a] }

def recordCandidateAttempt (plan : Option ℕ) (uid : ℕ) (kind : ChannelKind) : Op Unit :=
  match plan with
  | none => pure ()
  | some rid => Txn.write (·.setPlan rid (·.recordAttempt uid kind))

/-! ## candidates -/

/-- the static part of `candidate_is_authorized` with a plan: capabilities, attempts, grant. -/
def RoutingPlan.admits (p : RoutingPlan) (control : ConversationControl) (uid : ℕ) (u : User)
    (kind : ChannelKind) (excludeAttempted : Bool) : Bool :=
  (normalizedCapabilities p.contract.requiredCapabilities).all u.can &&
    !(excludeAttempted && p.attempts.contains ⟨p.currentGeneration, uid, kind⟩) &&
    u.grants.any fun g => g.covers control && g.queueKey = p.contract.ownerQueueKey

def candidateIsAuthorized (plan : Option ℕ) (control : ConversationControl) (uid : ℕ)
    (kind : ChannelKind) (excludeAttempted : Bool) : Op Bool := do
  let u ← Txn.read (·.user uid)
  if u.isActive && control.hasCountry then
    match plan with
    | none => pure (u.grants.any (·.covers control))
    | some rid => do
      let active ← activateDueGeneration rid
      if active then
        Txn.read fun d =>
          (d.plan? rid).any fun p => p.admits control uid u kind excludeAttempted
      else pure false
  else pure false

/-- `_candidate_authorized` of the routing service: without a plan the grant must be for the legacy
queue. -/
def candidateAuthorized (plan : Option ℕ) (control : ConversationControl) (uid : ℕ)
    (kind : ChannelKind) (excludeAttempted : Bool) : Op Bool :=
  match plan with
  | some rid => candidateIsAuthorized (some rid) control uid kind excludeAttempted
  | none => Txn.read fun d =>
      (d.user uid).isActive && control.hasCountry &&
        (d.user uid).grants.any fun g => g.covers control && g.queueKey = "legacy"

def Desk.onlineAgents (d : Desk) : List (ℕ × AgentState) :=
  let rows := d.users.rows.filterMap fun (uid, u) =>
    match u.agentState with
    | some st => if u.isActive && st.status = .online then some (uid, st) else none
    | none => none
  rows.insertionSort fun a b => a.2.updatedAt ≤ b.2.updatedAt

def eligibleAgents (plan : Option ℕ) (control : ConversationControl) (kind : ChannelKind)
    (requireVoice : Bool) : Op (List (ℕ × AgentState)) := do
  let now ← Txn.read (·.now)
  let rows ← Txn.read (·.onlineAgents)
  Txn.filter rows fun (uid, st) =>
    if (!requireVoice || st.voiceEnabled) && st.heartbeatIsFresh now then
      candidateIsAuthorized plan control uid kind true
    else pure false

end NexusHelpdesk.Handoff
