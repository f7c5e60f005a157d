import NexusHelpdesk.Desk.Basic
import NexusHelpdesk.Lib.Json
import NexusHelpdesk.Lib.Table

/-!
# Agent releases (`agent_release_service.py`)

A definition belongs to a tenant; a release is an approved version of it with its manifest and the
evidence of its validation.  Whatever a release stores is bounded again when it is read.

* `boundedMetadata`: `_bounded_metadata`, by depth, width and length;
* `AgentDefinition`, `AgentRelease`: the rows; `Registry`: their tables;
* `Hashes`: SHA-256 of a canonical text and of a cohort key;
* `releaseSnapshot`: what the runtime gets of a release.
-/

namespace NexusHelpdesk.Agents

open Lib

abbrev Text := List Char

/-! ## bounded values -/

/-- the value under a key of an object. -/
def field (k : String) : Json → Option Json
  | .obj fields => (fields.find? fun f => f.1 == k.toList).map Prod.snd
  | _ => none

/-- one entry of a dict display: a later value takes the place of an earlier one. -/
def setField (k : Text) (v : Json) : List (Text × Json) → List (Text × Json)
  | [] => [(k, v)]
  | f :: rest => if f.1 = k then (k, v) :: rest else f :: setField k v rest

def dictOf (entries : List (Text × Json)) : List (Text × Json) :=
  entries.foldl (fun fields e => setField e.1 e.2 fields) []

def payloadTooDeep : HTTPException := ⟨400, "agent_release_payload_too_deep"⟩
def payloadTooWide : HTTPException := ⟨400, "agent_release_payload_too_wide"⟩
def payloadTooLarge : HTTPException := ⟨400, "agent_release_payload_too_large"⟩

mutual

def boundedMetadata (depth : ℕ) : Json → Except HTTPException Json
  | .str s => if 8 < depth then .error payloadTooDeep else .ok (.str (s.take 8000))
  | .obj fields =>
    if 8 < depth then .error payloadTooDeep
    else if 200 < fields.length then .error payloadTooWide
    else
      match boundedFields (depth + 1) fields with
      | .error e => .error e
      | .ok entries => .ok (.obj (dictOf entries))
  | .arr items =>
    if 8 < depth then .error payloadTooDeep
    else if 300 < items.length then .error payloadTooLarge
    else
      match boundedItems (depth + 1) items with
      | .error e => .error e
      | .ok items => .ok (.arr items)
  | v => if 8 < depth then .error payloadTooDeep else .ok v

def boundedFields (depth : ℕ) : List (Text × Json) → Except HTTPException (List (Text × Json))
  | [] => .ok []
  | (k, v) :: rest =>
    match boundedMetadata depth v with
    | .error e => .error e
    | .ok v =>
      match boundedFields depth rest with
      | .error e => .error e
      | .ok rest => .ok ((k.take 160, v) :: rest)

def boundedItems (depth : ℕ) : List Json → Except HTTPException (List Json)
  | [] => .ok []
  | v :: rest =>
    match boundedMetadata depth v with
    | .error e => .error e
    | .ok v =>
      match boundedItems depth rest with
      | .error e => .error e
      | .ok rest => .ok (v :: rest)

end

def jsonObject : Json → Except HTTPException Json
  | .obj fields => boundedMetadata 0 (.obj fields)
  | _ => .ok (.obj [])

/-! ## rows -/

structure AgentDefinition where
  tenantKey : Text
  definitionKey : Text
  name : Text
  isActive : Bool
  draftManifestJson : Json

inductive ReleaseStatus where
  | approved | retired
deriving DecidableEq, Repr

structure AgentRelease where
  definitionId : ℕ
  version : ℕ
  status : ReleaseStatus
  manifestJson : Json
  manifestSha256 : Text
  validationJson : Json

structure Registry where
  definitions : Table AgentDefinition
  releases : Table AgentRelease

/-- `manifest_digest` and `_cohort_percent`. -/
structure Hashes where
  manifestDigest : Json → Text
  cohortPercent : Text → ℕ

inductive ReleaseError where
  | http (e : HTTPException)
  | unavailable (code : String)
deriving DecidableEq, Repr

def releaseSchema : String := "nexus.agent_release.v1"

def str (s : String) : Json := .str s.toList

/-- an object with fixed keys. -/
def record (fields : List (String × Json)) : Json := .obj (fields.map fun f => (f.1.toList, f.2))

def assertReleaseTenant (db : Registry) (release : AgentRelease) (tenantKey : Text) :
    Except HTTPException Unit :=
  match db.definitions.get? release.definitionId with
  | some definition =>
    if definition.tenantKey = tenantKey then .ok ()
    else .error ⟨403, "cross_tenant_agent_release_forbidden"⟩
  | none => .error ⟨403, "cross_tenant_agent_release_forbidden"⟩

/-- where a release is served: the deployment and the cohort of the request. -/
structure Serving where
  deploymentId : ℕ
  environment : Text
  scopeKey : Text
  cohort : ℕ
  canary : Bool
deriving DecidableEq

/-- `resolve_agent_release` after the choice of the release: its checks and the snapshot. -/
def releaseSnapshot (h : Hashes) (db : Registry) (tenantKey : Text) (s : Serving) (releaseId : ℕ) :
    Except ReleaseError Json :=
  match db.releases.get? releaseId with
  | none => .error (.unavailable "agent_deployment_release_unavailable")
  | some release =>
    match assertReleaseTenant db release tenantKey with
    | .error e => .error (.http e)
    | .ok () =>
      if release.status ≠ .approved then .error (.unavailable "agent_deployment_release_retired")
      else if h.manifestDigest release.manifestJson ≠ release.manifestSha256 then
        .error (.unavailable "agent_release_digest_mismatch")
      else
        match jsonObject release.validationJson with
        | .error e => .error (.http e)
        | .ok resolved =>
          match field "manifest_sha256" resolved with
          | some (.str sha) =>
            if sha ≠ release.manifestSha256 then
              .error (.unavailable "agent_release_validation_mismatch")
            else
              match db.definitions.get? release.definitionId with
              | none => .error (.unavailable "agent_definition_unavailable")
              | some definition =>
                if definition.isActive then
                  match jsonObject release.manifestJson with
                  | .error e => .error (.http e)
                  | .ok manifest =>
                    .ok (record [
                      ("schema_version", str releaseSchema),
                      ("source", str "deployment"),
                      ("tenant_key", .str tenantKey),
                      ("definition", record [
                        ("id", .num release.definitionId),
                        ("definition_key", .str definition.definitionKey),
                        ("name", .str definition.name)]),
                      ("deployment", record [
                        ("id", .num s.deploymentId),
                        ("environment", .str s.environment),
                        ("scope_key", .str s.scopeKey),
                        ("cohort", .num s.cohort),
                        ("canary", .bool s.canary)]),
                      ("release", record [
                        ("id", .num releaseId),
                        ("version", .num release.version),
                        ("manifest_sha256", .str release.manifestSha256)]),
                      ("manifest", manifest),
                      ("resolved", resolved)])
                else .error (.unavailable "agent_definition_unavailable")
          | _ => .error (.unavailable "agent_release_validation_mismatch")

end NexusHelpdesk.Agents
