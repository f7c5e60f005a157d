import NexusHelpdesk.Desk.Basic
import NexusHelpdesk.Lib.Except
import NexusHelpdesk.Lib.Json
import NexusHelpdesk.Lib.Run
import NexusHelpdesk.Lib.Table

/-!
# Persona profiles (`persona_service.py`, `agent_resource_authority.py`)

A profile with its resource binding: the tenant that may manage it, or a global template that every
tenant sees.

* `visibleTo`, `manageableBy`: the bindings as an actor sees them;
* `createProfile`, `updateProfile`, `publishProfile`, `rollbackProfile`, `publishApprovedReview`:
  the calls;
* `resolvePreview`: the profile for a market, a channel and a language;
* `PersonaWorld`, `personaStep`: calls of any actors.

Users and times of a profile are left out: nothing here reads them.
-/

namespace NexusHelpdesk.Personas

open Lib

abbrev Text := List Char

abbrev Payload := List (Text × Json)

structure PersonaEnv where
  /-- `str.lower()`. -/
  lower : Text → Text
  validateContent : Payload → Except HTTPException Payload
  /-- the order of the database on profile keys. -/
  keyBefore : Text → Text → Bool

structure PersonaScope where
  marketId : Option ℕ
  channel : Option Text
  language : Option Text
deriving DecidableEq, Repr

/-- `PersonaProfile` and its `AgentResourceBinding`. -/
structure PersonaProfile where
  profileKey : Text
  name : Text
  description : Option Text
  scope : PersonaScope
  isActive : Bool
  draftSummary : Option Text
  draftContent : Payload
  publishedSummary : Option Text
  publishedContent : Payload
  publishedVersion : ℕ
  tenantKey : Text
  isGlobalTemplate : Bool

structure Snapshot where
  name : Text
  description : Option Text
  summary : Option Text
  content : Payload
  scope : PersonaScope

structure ProfileVersion where
  profileId : ℕ
  version : ℕ
  snapshot : Snapshot

inductive ReviewStatus where
  | pending | approved | rejected | published
deriving DecidableEq, Repr

structure ProfileReview where
  profileId : ℕ
  status : ReviewStatus
  snapshot : Snapshot
  releaseWindowStart : Option Instant
  releaseWindowEnd : Option Instant

inductive PersonaError where
  | http (e : HTTPException)
  /-- a constraint of the database. -/
  | integrity
deriving DecidableEq, Repr

def refused {α : Type} (statusCode : ℕ) (detail : String) : Except PersonaError α :=
  .error (.http ⟨statusCode, detail⟩)

/-! ## bindings -/

/-- the tenant of an actor; none for an actor of the platform. -/
abbrev Actor := Option Text

def actorTenantKey (actor : Actor) : Text := actor.getD "default".toList

/-- `visible_resource_ids` with the global templates. -/
def PersonaProfile.visibleTo (actor : Actor) (p : PersonaProfile) : Bool :=
  match actor with
  | none => true
  | some tenantKey => p.tenantKey == tenantKey || p.isGlobalTemplate

/-- `manageable_resource_ids`. -/
def PersonaProfile.manageableBy (actor : Actor) (p : PersonaProfile) : Bool :=
  match actor with
  | none => true
  | some tenantKey => p.tenantKey == tenantKey && !p.isGlobalTemplate

/-- `get_profile_or_404` and `ensure_resource_manageable`. -/
def manageableProfile (actor : Actor) (t : Table PersonaProfile) (i : ℕ) :
    Except PersonaError PersonaProfile :=
  match (t.get? i).filter (·.visibleTo actor) with
  | none => refused 404 "Persona profile not found"
  | some p =>
    if p.manageableBy actor = false then refused 404 "agent_resource_not_found" else .ok p

/-! ## create and update -/

structure ProfileCreate where
  profileKey : Text
  name : Text
  description : Option Text
  scope : PersonaScope
  isActive : Bool
  draftSummary : Option Text
  draftContent : Payload

/-- the fields that were set; an explicit null of a name or of `is_active` fails in the database. -/
structure ProfileUpdate where
  name : Option Text
  description : Option (Option Text)
  marketId : Option (Option ℕ)
  channel : Option (Option Text)
  language : Option (Option Text)
  isActive : Option Bool
  draftSummary : Option (Option Text)
  draftContent : Option Payload

section Calls
variable (env : PersonaEnv)

def tenantProfileKey (tenantKey value : Text) : Text :=
  let key := env.lower (PyStr.stripChars value)
  if tenantKey = "default".toList then key.take 120
  else
    let start := tenantKey ++ ['.']
    (if start.isPrefixOf key then key else start ++ key).take 120

def validated (content : Payload) : Except PersonaError Payload :=
  match env.validateContent content with
  | .ok content => .ok content
  | .error e => .error (.http e)

def createProfile (actor : Actor) (p : ProfileCreate) (t : Table PersonaProfile) :
    Except PersonaError (Table PersonaProfile) := do
  let tenantKey := actorTenantKey actor
  let key := tenantProfileKey env tenantKey p.profileKey
  let content ← validated env p.draftContent
  if t.rows.any fun r => r.2.visibleTo actor && r.2.profileKey == key then
    refused 409 "profile_key already exists"
  else if t.rows.any fun r => r.2.profileKey == key then .error .integrity
  else
    .ok (t.insert
      { profileKey := key
        name := p.name
        description := p.description
        scope := p.scope
        isActive := p.isActive
        draftSummary := p.draftSummary
        draftContent := content
        publishedSummary := none
        publishedContent := []
        publishedVersion := 0
        tenantKey := tenantKey
        isGlobalTemplate := actor.isNone && tenantKey == "default".toList })

def ProfileUpdate.scope (p : ProfileUpdate) (row : PersonaProfile) : PersonaScope :=
  ⟨p.marketId.getD row.scope.marketId, p.channel.getD row.scope.channel,
    p.language.getD row.scope.language⟩

def updatedContent (p : ProfileUpdate) (row : PersonaProfile) : Except PersonaError Payload :=
  match p.draftContent with
  | some content => validated env content
  | none => .ok row.draftContent

def updateProfile (actor : Actor) (i : ℕ) (p : ProfileUpdate) (t : Table PersonaProfile) :
    Except PersonaError (Table PersonaProfile) := do
  let row ← manageableProfile actor t i
  let content ← updatedContent env p row
  .ok (t.set i
    { row with
      name := p.name.getD row.name
      description := p.description.getD row.description
      scope := p.scope row
      isActive := p.isActive.getD row.isActive
      draftSummary := p.draftSummary.getD row.draftSummary
      draftContent := content })

/-! ## publish -/

def PersonaProfile.hasDraftContent (p : PersonaProfile) : Bool :=
  PyStr.stripChars (p.draftSummary.getD []) != [] || !p.draftContent.isEmpty

def PersonaProfile.isServed (p : PersonaProfile) : Bool :=
  p.isActive && decide (0 < p.publishedVersion)

/-- `_ensure_no_scope_conflict` finds a profile. -/
def scopeConflict (actor : Actor) (i : ℕ) (scope : PersonaScope) (t : Table PersonaProfile) :
    Bool :=
  t.rows.any fun r =>
    r.1 != i && r.2.isServed && r.2.scope == scope && r.2.manageableBy actor

structure PersonaWorld where
  profiles : Table PersonaProfile
  versions : List ProfileVersion

def publishProfile (actor : Actor) (i : ℕ) (row : PersonaProfile) (w : PersonaWorld) :
    Except PersonaError PersonaWorld :=
  if row.hasDraftContent = false then refused 400 "Draft persona content is empty"
  else if scopeConflict actor i row.scope w.profiles = true then
    refused 409 "persona_scope_conflict"
  else do
    let content ← validated env row.draftContent
    let version := row.publishedVersion + 1
    .ok {
      profiles := w.profiles.set i
        { row with
          draftContent := content
          publishedSummary := row.draftSummary
          publishedContent := content
          publishedVersion := version }
      versions := w.versions ++
        [⟨i, version, ⟨row.name, row.description, row.draftSummary, content, row.scope⟩⟩] }

def PersonaProfile.restore (p : PersonaProfile) (s : Snapshot) (content : Payload) :
    PersonaProfile :=
  { p with
    name := if s.name.isEmpty then p.name else s.name
    description := s.description
    scope := s.scope
    draftSummary := s.summary
    draftContent := content }

def rollbackProfile (actor : Actor) (i version : ℕ) (w : PersonaWorld) :
    Except PersonaError PersonaWorld := do
  let row ← manageableProfile actor w.profiles i
  match w.versions.find? fun v => v.profileId == i && v.version == version with
  | none => refused 404 "Persona profile version not found"
  | some target =>
    let content ← validated env target.snapshot.content
    publishProfile env actor i (row.restore target.snapshot content) w

def publishApprovedReview (actor : Actor) (review : ProfileReview) (now : Instant)
    (w : PersonaWorld) : Except PersonaError PersonaWorld := do
  let row ← manageableProfile actor w.profiles review.profileId
  if review.status ≠ .approved then refused 409 "persona_review_not_approved"
  else if review.releaseWindowStart.any (now < ·) then
    refused 409 "persona_release_window_not_open"
  else if review.releaseWindowEnd.any (· < now) then
    refused 409 "persona_release_window_expired"
  else
    let content ← validated env review.snapshot.content
    publishProfile env actor review.profileId (row.restore review.snapshot content) w

end Calls

/-- the weight of a field of a scope; none if it does not match. -/
def fieldScore {α : Type} [DecidableEq α] (expected actual : Option α) (weight : ℕ) : Option ℕ :=
  match expected with
  | none => some 0
  | some e => if some e ≠ actual then none else some weight

def personaRank (s request : PersonaScope) : Option ℕ := do
  let market ← fieldScore s.marketId request.marketId 4
  let channel ← fieldScore s.channel request.channel 2
  let language ← fieldScore s.language request.language 1
  some (7 - (market + channel + language))

def listActive (env : PersonaEnv) (tenantKey : Text) (t : Table PersonaProfile) :
    List (ℕ × PersonaProfile) :=
  ((t.rows.filter fun r => r.2.visibleTo (some tenantKey) && r.2.isActive).mergeSort
    fun r r' => env.keyBefore r.2.profileKey r'.2.profileKey).take 200

def resolvePreview (env : PersonaEnv) (tenantKey : Text) (request : PersonaScope)
    (t : Table PersonaProfile) : Except HTTPException (Option ((ℕ × PersonaProfile) × ℕ)) :=
  let rows := (listActive env tenantKey t).filter fun r => decide (0 < r.2.publishedVersion)
  let ranked := rows.filterMap fun r => (personaRank r.2.scope request).map fun rank => (rank, r)
  match (ranked.map Prod.fst).min? with
  | none => .ok none
  | some best =>
    match ranked.filter fun m => m.1 == best with
    | [m] => .ok (some (m.2, best))
    | _ => .error ⟨409, "ambiguous_persona_scope"⟩

inductive PersonaStep where
  | create (actor : Actor) (p : ProfileCreate)
  | update (actor : Actor) (i : ℕ) (p : ProfileUpdate)
  | publish (actor : Actor) (i : ℕ)
  | rollback (actor : Actor) (i version : ℕ)
  | publishReview (actor : Actor) (review : ProfileReview) (now : Instant)

def personaCall (env : PersonaEnv) (i : PersonaStep) (w : PersonaWorld) :
    Except PersonaError PersonaWorld :=
  match i with
  | .create actor p => do
    let profiles ← createProfile env actor p w.profiles
    .ok { w with profiles := profiles }
  | .update actor i p => do
    let profiles ← updateProfile env actor i p w.profiles
    .ok { w with profiles := profiles }
  | .publish actor i => do
    let row ← manageableProfile actor w.profiles i
    publishProfile env actor i row w
  | .rollback actor i version => rollbackProfile env actor i version w
  | .publishReview actor review now => publishApprovedReview env actor review now w

/-- a call that raises is rolled back. -/
def personaStep (env : PersonaEnv) (i : PersonaStep) (w : PersonaWorld) : PersonaWorld :=
  match personaCall env i w with
  | .ok w' => w'
  | .error _ => w

def PersonaWorld.start : PersonaWorld := ⟨.empty, []⟩

end NexusHelpdesk.Personas
