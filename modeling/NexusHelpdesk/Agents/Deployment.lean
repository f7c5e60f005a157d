import NexusHelpdesk.Agents.Release

/-!
# Deployments (`agent_release_service.py`)

A deployment points a scope at a release.  A row is found again by its joined scope key; a request
is matched field by field, each field normalised once more.

* `optionalScope`, `canonicalScopeKey`: the normalised fields and the key;
* `activateDeployment`: the row of the scope is made or overwritten;
* `deploymentRank`, `chooseDeployment`, `resolveAgentRelease`: what a request is served.

`str.lower()` is the parameter `lower`: nothing below depends on the case mapping.
-/

namespace NexusHelpdesk

namespace Agents

open Lib

structure Scope where
  marketId : Option ℤ
  channel : Option Text
  language : Option Text
  caseType : Option Text
deriving DecidableEq, Repr

structure AgentDeployment where
  tenantKey : Text
  environment : Text
  scopeKey : Text
  scope : Scope
  activeReleaseId : ℕ
  canaryReleaseId : Option ℕ
  canaryPercent : ℤ
  isActive : Bool
  activatedBy : Option ℕ
  activatedAt : Instant
deriving DecidableEq

structure Activation where
  tenantKey : Text
  environment : Option Text
  releaseId : ℕ
  scope : Scope
  canaryReleaseId : Option ℕ
  canaryPercent : ℤ
  actorId : Option ℕ
  now : Instant

section Scope
variable (lower : Text → Text)

def optionalScope (value : Option Text) (maxChars : ℕ) : Option Text :=
  let cleaned := PyStr.collapse (lower (PyStr.stripChars (value.getD [])))
  if cleaned = [] then none else some (cleaned.take maxChars)

def normalizeScope (s : Scope) : Scope where
  marketId := s.marketId
  channel := optionalScope lower s.channel 40
  language := optionalScope lower s.language 24
  caseType := optionalScope lower s.caseType 80

def keyPart (value : Option Text) : Text := value.getD ['*']

def joinedKey (s : Scope) : Text :=
  "market:".toList ++ keyPart (s.marketId.map fun n => (toString n).toList) ++
  "|channel:".toList ++ keyPart s.channel ++
  "|language:".toList ++ keyPart s.language ++
  "|case:".toList ++ keyPart s.caseType

def canonicalScopeKey (s : Scope) : Text := joinedKey (normalizeScope lower s)

/-! ## activation -/

def environments : List Text := ["test".toList, "staging".toList, "production".toList]

/-- `str(environment or "production").strip().lower()`. -/
def cleanEnvironment (environment : Option Text) : Text :=
  lower (PyStr.stripChars (match environment with
    | some e => if e = [] then "production".toList else e
    | none => "production".toList))

/-- the checks of `activate_deployment`, with the releases of the endpoint. -/
def checkActivation (db : Registry) (a : Activation) : Except HTTPException Unit := do
  let release ← match db.releases.get? a.releaseId with
    | some release => .ok release
    | none => .error ⟨404, "agent_release_not_found"⟩
  let canary ← match a.canaryReleaseId with
    | none => .ok none
    | some id =>
      match db.releases.get? id with
      | some canary => .ok (some canary)
      | none => .error ⟨404, "agent_canary_release_not_found"⟩
  if cleanEnvironment lower a.environment ∉ environments then
    .error ⟨400, "agent_environment_invalid"⟩
  if a.canaryPercent < 0 ∨ 100 < a.canaryPercent then
    .error ⟨400, "agent_canary_percent_invalid"⟩
  if canary.isNone ∧ a.canaryPercent ≠ 0 then
    .error ⟨400, "agent_canary_release_and_percent_must_match"⟩
  if a.canaryReleaseId = some a.releaseId then
    .error ⟨400, "agent_canary_release_must_differ"⟩
  assertReleaseTenant db release a.tenantKey
  if release.status ≠ .approved then
    .error ⟨409, "agent_release_not_approved"⟩
  match canary with
  | none => .ok ()
  | some canary =>
    assertReleaseTenant db canary a.tenantKey
    if canary.status ≠ .approved then
      .error ⟨409, "agent_canary_release_not_approved"⟩

def findDeployment (tenantKey environment scopeKey : Text) (t : Table AgentDeployment) :
    Option (ℕ × AgentDeployment) :=
  t.rows.find? fun r =>
    r.2.tenantKey == tenantKey && r.2.environment == environment && r.2.scopeKey == scopeKey

def pointAt (a : Activation) (row : AgentDeployment) : AgentDeployment :=
  { row with
    activeReleaseId := a.releaseId
    canaryReleaseId := a.canaryReleaseId
    canaryPercent := if a.canaryReleaseId.isSome then a.canaryPercent else 0
    isActive := true
    activatedBy := a.actorId
    activatedAt := a.now }

def newDeployment (a : Activation) : AgentDeployment where
  tenantKey := a.tenantKey
  environment := cleanEnvironment lower a.environment
  scopeKey := joinedKey (normalizeScope lower (normalizeScope lower a.scope))
  scope := normalizeScope lower a.scope
  activeReleaseId := a.releaseId
  canaryReleaseId := none
  canaryPercent := 0
  isActive := true
  activatedBy := none
  activatedAt := a.now

def activateDeployment (db : Registry) (a : Activation) (t : Table AgentDeployment) :
    Except HTTPException (Table AgentDeployment) :=
  match checkActivation lower db a with
  | .error e => .error e
  | .ok () =>
    -- the fields are normalised here and once more inside `canonical_scope_key`
    let key := canonicalScopeKey lower (normalizeScope lower a.scope)
    match findDeployment a.tenantKey (cleanEnvironment lower a.environment) key t with
    | some (i, _) => .ok (t.modify i (pointAt a))
    | none => .ok (t.insert (pointAt a (newDeployment lower a)))

/-- a refused activation leaves the table as it is. -/
def activateOrKeep (db : Registry) (a : Activation) (t : Table AgentDeployment) :
    Table AgentDeployment :=
  match activateDeployment lower db a t with
  | .ok t' => t'
  | .error _ => t

/-! ## resolution -/

/-- one scope field: no match, or the weight of a given field. -/
def fieldRank {α : Type} [DecidableEq α] (weight : ℤ) (expected actual : Option α) : Option ℤ :=
  match expected with
  | none => some 0
  | some v => if actual = some v then some weight else none

def deploymentRank (row : AgentDeployment) (request : Scope) : ℤ :=
  let expected := normalizeScope lower row.scope
  let actual := normalizeScope lower request
  let total : Option ℤ := do
    let market ← fieldRank 16 expected.marketId actual.marketId
    let channel ← fieldRank 8 expected.channel actual.channel
    let language ← fieldRank 4 expected.language actual.language
    let caseType ← fieldRank 2 expected.caseType actual.caseType
    return market + channel + language + caseType
  total.getD (-1)

/-- the sort key `(-rank, id)`. -/
def servedBefore (x y : ℤ × ℕ × AgentDeployment) : Prop :=
  y.1 < x.1 ∨ (x.1 = y.1 ∧ x.2.1 ≤ y.2.1)

instance : DecidableRel servedBefore := fun x y =>
  inferInstanceAs (Decidable (y.1 < x.1 ∨ (x.1 = y.1 ∧ x.2.1 ≤ y.2.1)))

def matchingDeployments (tenantKey environment : Text) (request : Scope)
    (t : Table AgentDeployment) : List (ℤ × ℕ × AgentDeployment) :=
  let rows := t.select fun _ row =>
    row.tenantKey == tenantKey && row.environment == environment && row.isActive
  ((rows.map fun r => (deploymentRank lower r.2 request, r)).filter fun m =>
    decide (0 ≤ m.1)).insertionSort servedBefore

def chooseDeployment (tenantKey environment : Text) (request : Scope) (t : Table AgentDeployment) :
    Except String (ℕ × AgentDeployment) :=
  let candidates := matchingDeployments lower tenantKey environment request t
  match candidates with
  | [] => .error "agent_deployment_not_found"
  | best :: _ =>
    match candidates.filter fun m => m.1 == best.1 with
    | [tied] => .ok tied.2
    | _ => .error "ambiguous_agent_deployment_scope"

def chosenRelease (row : AgentDeployment) (cohort : ℕ) : ℕ × Bool :=
  match row.canaryReleaseId with
  | some canary =>
    if 0 < row.canaryPercent ∧ (cohort : ℤ) < row.canaryPercent then (canary, true)
    else (row.activeReleaseId, false)
  | none => (row.activeReleaseId, false)

structure ResolvedAgentRelease where
  deploymentId : ℕ
  deployment : AgentDeployment
  releaseId : ℕ
  snapshot : Json
  digest : Text

def resolveAgentRelease (h : Hashes) (db : Registry) (tenantKey environment : Text)
    (request : Scope) (cohortKey : Text) (t : Table AgentDeployment) :
    Except ReleaseError ResolvedAgentRelease :=
  match chooseDeployment lower tenantKey environment request t with
  | .error code => .error (.unavailable code)
  | .ok (i, row) =>
    let cohort := h.cohortPercent cohortKey
    let (releaseId, canary) := chosenRelease row cohort
    match releaseSnapshot h db tenantKey ⟨i, row.environment, row.scopeKey, cohort, canary⟩
      releaseId with
    | .error e => .error e
    | .ok snapshot => .ok ⟨i, row, releaseId, snapshot, h.manifestDigest snapshot⟩

end Scope

end Agents
end NexusHelpdesk
