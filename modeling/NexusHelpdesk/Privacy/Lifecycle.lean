import NexusHelpdesk.Desk.Basic
import NexusHelpdesk.Lib.Except
import NexusHelpdesk.Lib.Run
import NexusHelpdesk.Lib.Table

/-!
# Data lifecycle (`data_lifecycle_service.py`, `retention_execution_guard.py`)

Legal holds, retention policies with their dry runs and applications, and the deletion of a data
subject (`data_subject_deletion_preflight.py`, `data_lifecycle_attachment_cleanup.py`).

* `anonymizeSubjectGraph`: `_anonymize_subject_graph`;
* `deleteSubject`: the deletion of the API, from the preflight to the receipt;
* `planExecution`, `preflightExecution`, `applyExecution`: retention;
* `LifecycleWorld`, `lifecycleStep`: these operations in any order, each in a transaction of its own.

The rows of the other tables are a parameter `ρ`, and so is their redaction.
-/

namespace NexusHelpdesk.Privacy

open Lib

/-! ## rows -/

structure Customer where
  tenantId : Option ℕ
  name : String
  email : Option String
  phone : Option String
  externalRef : Option String
  updatedAt : Instant
deriving DecidableEq, Repr

/-- `Ticket`, without its texts. -/
structure SubjectTicket where
  tenantId : Option ℕ
  customerId : Option ℕ
  status : TicketStatus
  updatedAt : Instant
deriving DecidableEq, Repr

structure LegalHold where
  tenantId : ℕ
  customerId : Option ℕ
  ticketId : Option ℕ
  active : Bool
deriving DecidableEq, Repr

inductive PolicyStatus where
  | draft | approved | retired
deriving DecidableEq, Repr

structure RetentionPolicy where
  tenantId : Option ℕ
  resourceType : String
  version : ℕ
  retentionDays : ℕ
  status : PolicyStatus
deriving DecidableEq, Repr

structure DryRunReceipt where
  policyId : ℕ
  resourceType : String
  cutoffAt : Instant
  candidateIds : List ℕ
  scannedCount : ℕ
  eligibleCount : ℕ
  heldCount : ℕ
  blockedActiveCount : ℕ
  blockedAttachmentCount : ℕ
deriving DecidableEq, Repr

structure AppliedReceipt where
  dryRunSha : String
  affectedCount : ℕ
  heldCount : ℕ
  subjectReceipts : List String
  appliedAt : Instant
deriving DecidableEq, Repr

/-- `receipt_json`, by its schema. -/
inductive Receipt where
  | dryRun (r : DryRunReceipt)
  | applied (r : AppliedReceipt)
deriving DecidableEq, Repr

inductive ExecutionStatus where
  | dryRun | applied
deriving DecidableEq, Repr

structure LifecycleExecution where
  tenantId : ℕ
  policyVersionId : ℕ
  executionKey : String
  status : ExecutionStatus
  cutoffAt : Instant
  affectedCount : ℕ
  heldCount : ℕ
  receipt : Receipt
  receiptSha : String
deriving DecidableEq, Repr

inductive RequestKind where
  | access | exportData | delete | restrict | correct
deriving DecidableEq, Repr

inductive RequestStatus where
  | received | identityPending | qualified | processing | blockedLegalHold | completed | rejected
  | cancelled
deriving DecidableEq, Repr

structure AnonymizationReceipt where
  ticketCount : ℕ
  conversationCount : ℕ
  messageCount : ℕ
  relatedRowCount : ℕ
  sha : String
deriving DecidableEq, Repr

/-- the manifest of a deletion; `attachments` once the cleanup is bound to it. -/
structure DeletionManifest where
  receipt : AnonymizationReceipt
  attachments : Option ℕ
deriving DecidableEq, Repr

structure DataSubjectRequest where
  tenantId : ℕ
  customerId : ℕ
  kind : RequestKind
  status : RequestStatus
  blockedReason : Option String
  manifest : Option DeletionManifest
deriving DecidableEq, Repr

structure LifecycleDb (ρ : Type) where
  customers : Table Customer
  tickets : Table SubjectTicket
  attachments : Table ℕ
  holds : Table LegalHold
  policies : Table RetentionPolicy
  executions : Table LifecycleExecution
  requests : Table DataSubjectRequest
  related : ρ

/-! ## errors -/

structure LifecycleError where
  code : String
  statusCode : ℕ := 409
deriving DecidableEq, Repr

inductive Failure where
  | lifecycle (e : LifecycleError)
  /-- an exception of a listener or of the database. -/
  | other
deriving DecidableEq, Repr

/-- why the redaction of the other tables fails. -/
inductive RelatedFailure where
  | identityScope | blobDelete | blobVerify | refused
deriving DecidableEq, Repr

def RelatedFailure.toFailure : RelatedFailure → Failure
  | .identityScope => .lifecycle { code := "privacy_customer_identity_scope_conflict" }
  | .blobDelete => .lifecycle { code := "privacy_whatsapp_media_blob_delete_failed" }
  | .blobVerify => .lifecycle { code := "privacy_whatsapp_media_blob_delete_not_verified" }
  | .refused => .other

def legalHoldBlocks : String := "privacy_legal_hold_blocks_deletion"

/-- `raise DataLifecycleError(code)`. -/
def refuse {α : Type} (code : String) : Except Failure α := .error (.lifecycle { code := code })

def guardThat (b : Bool) (code : String) : Except Failure Unit :=
  if b then .ok () else refuse code

/-! ## the subject -/

structure Redacted (ρ : Type) where
  related : ρ
  conversationCount : ℕ
  messageCount : ℕ
  relatedRowCount : ℕ

/-- the digests, and the redaction of the other tables for a customer and its tickets. -/
structure LifecycleEnv (ρ : Type) where
  receiptSha : Receipt → String
  subjectSha : ℕ → List ℕ → Instant → String
  anonymized : String → String → ℕ → String
  redactRelated : Instant → ℕ → ℕ → List ℕ → ρ → Except RelatedFailure (Redacted ρ)

def activeTicket (s : TicketStatus) : Bool :=
  s ∈ [.new, .pendingAssignment, .inProgress, .waitingCustomer, .waitingInternal, .escalated]

section Subject
variable {ρ : Type} (env : LifecycleEnv ρ) (db : LifecycleDb ρ)

def subjectTickets (tenantId customerId : ℕ) : List (ℕ × SubjectTicket) :=
  db.tickets.select fun _ t => t.tenantId = some tenantId && t.customerId = some customerId

def ticketIds (tenantId customerId : ℕ) : List ℕ := (subjectTickets db tenantId customerId).map (·.1)

def attachmentIds (tenantId customerId : ℕ) : List ℕ :=
  (db.attachments.select fun _ t => t ∈ ticketIds db tenantId customerId).map (·.1)

def hasActiveTicket (tenantId customerId : ℕ) : Bool :=
  (subjectTickets db tenantId customerId).any fun r => activeTicket r.2.status

def activeHold (tenantId customerId : ℕ) : Bool :=
  !(db.holds.select fun _ h => h.tenantId = tenantId && h.active &&
    (h.customerId = some customerId ||
      h.ticketId.any (· ∈ ticketIds db tenantId customerId))).isEmpty

def erased (now : Instant) (id : ℕ) (c : Customer) : Customer :=
  { c with
    name := env.anonymized c.name "customer" id
    email := none
    phone := none
    externalRef := none
    updatedAt := now }

def anonymizeSubjectGraph (now : Instant) (tenantId customerId : ℕ) :
    Except Failure (AnonymizationReceipt × LifecycleDb ρ) := do
  guardThat (attachmentIds db tenantId customerId).isEmpty "privacy_attachment_blob_receipt_required"
  guardThat (!hasActiveTicket db tenantId customerId) "privacy_active_case_blocks_deletion"
  guardThat (!activeHold db tenantId customerId) legalHoldBlocks
  let ids := ticketIds db tenantId customerId
  let r ← (env.redactRelated now tenantId customerId ids db.related).mapError
    RelatedFailure.toFailure
  let receipt : AnonymizationReceipt :=
    ⟨ids.length, r.conversationCount, r.messageCount, r.relatedRowCount,
      env.subjectSha customerId ids now⟩
  return (receipt, { db with
    customers := db.customers.modify customerId (erased env now customerId)
    tickets := db.tickets.mapRows fun i t => if i ∈ ids then { t with updatedAt := now } else t
    related := r.related })

/-! ## deletion -/

/-- `resolve_actor_tenant_id`, refused without a tenant. -/
def actorTenant (actor : Option ℕ) : Except Failure ℕ :=
  match actor with
  | some tenantId => .ok tenantId
  | none => .error (.lifecycle ⟨"privacy_requires_tenant_authority", 403⟩)

def deleteRequest (tenantId requestId : ℕ) : Except Failure DataSubjectRequest :=
  match db.requests.get? requestId with
  | none => .error (.lifecycle ⟨"dsar_not_found", 404⟩)
  | some r =>
    if r.tenantId ≠ tenantId then .error (.lifecycle ⟨"dsar_not_found", 404⟩)
    else if r.kind ≠ .delete then .error (.lifecycle ⟨"dsar_not_delete_request", 400⟩)
    else .ok r

def requestCustomer (tenantId customerId : ℕ) : Except Failure Unit :=
  guardThat ((db.customers.get? customerId).any (·.tenantId = some tenantId))
    "dsar_customer_authority_conflict"

def setRequest (requestId : ℕ) (f : DataSubjectRequest → DataSubjectRequest) : LifecycleDb ρ :=
  { db with requests := db.requests.modify requestId f }

def subjectDeletionPreflight (tenantId requestId : ℕ) : Except Failure (ℕ × LifecycleDb ρ) := do
  let r ← deleteRequest db tenantId requestId
  if r.status = .completed ∧ r.manifest.isSome then return (r.customerId, db)
  guardThat (r.status = .qualified || r.status = .processing || r.status = .blockedLegalHold)
    "dsar_not_qualified"
  requestCustomer db tenantId r.customerId
  guardThat (!hasActiveTicket db tenantId r.customerId) "privacy_active_case_blocks_deletion"
  guardThat (!activeHold db tenantId r.customerId) legalHoldBlocks
  let status := if r.status = .blockedLegalHold then .qualified else r.status
  return (r.customerId,
    setRequest db requestId fun r => { r with status := status, blockedReason := none })

def activeDeleteRequestId (tenantId customerId attachmentCount : ℕ) : Except Failure (Option ℕ) :=
  let mine := fun (r : DataSubjectRequest) =>
    r.tenantId = tenantId && r.customerId = customerId && r.kind = .delete
  let active := db.requests.select fun _ r => mine r &&
    (r.status = .qualified || r.status = .processing || r.status = .blockedLegalHold)
  match active with
  | [r] => .ok (some r.1)
  | _ :: _ => refuse "dsar_delete_request_ambiguous"
  | [] =>
    if attachmentCount ≠ 0 then refuse "dsar_not_qualified"
    else .ok ((db.requests.select fun _ r =>
      mine r && r.status = .completed && r.manifest.isSome).getLast?.map (·.1))

/-- `delete_subject_attachment_blobs`; `storage` says which attachments the storage deletes. -/
def deleteAttachmentBlobs (storage : ℕ → Bool) (tenantId customerId : ℕ) :
    Except Failure (ℕ × LifecycleDb ρ) := do
  let ids := attachmentIds db tenantId customerId
  match ← activeDeleteRequestId db tenantId customerId ids.length with
  | none => refuse "dsar_not_qualified"
  | some requestId =>
    let (_, db) ← subjectDeletionPreflight db tenantId requestId
    guardThat (ids.all storage) "privacy_attachment_delete_not_verified"
    return (ids.length,
      { db with attachments := db.attachments.filter fun i _ => i ∉ ids })

inductive ErasedBy where
  | request (id : ℕ)
  | execution (id : ℕ)
deriving DecidableEq, Repr

/-- a customer is anonymised, in the state `db`. -/
structure Erasure (ρ : Type) where
  customerId : ℕ
  by' : ErasedBy
  db : LifecycleDb ρ

/-- what an operation leaves: the tables, and the customers it has anonymised, the last one first. -/
structure Outcome (ρ : Type) where
  db : LifecycleDb ρ
  erasures : List (Erasure ρ)

def executeDeletion (now : Instant) (tenantId requestId : ℕ) : Except Failure (Outcome ρ) := do
  let r ← deleteRequest db tenantId requestId
  if r.status = .completed ∧ r.manifest.isSome then return ⟨db, []⟩
  guardThat (r.status = .qualified || r.status = .processing) "dsar_not_qualified"
  requestCustomer db tenantId r.customerId
  let (receipt, new) ← anonymizeSubjectGraph env db now tenantId r.customerId
  return ⟨setRequest new requestId fun r =>
      { r with status := .completed, blockedReason := none, manifest := some ⟨receipt, none⟩ },
    [⟨r.customerId, .request requestId, db⟩]⟩

def bindCleanup (requestId attachmentCount : ℕ) : LifecycleDb ρ :=
  setRequest db requestId fun r =>
    { r with manifest := r.manifest.map fun m =>
        if m.attachments.isSome then m else { m with attachments := some attachmentCount } }

/-- `delete_dsar_subject` of the API. -/
def deleteSubject (storage : ℕ → Bool) (now : Instant) (actor : Option ℕ) (requestId : ℕ) :
    Except Failure (Outcome ρ) := do
  let tenantId ← actorTenant actor
  let (customerId, db) ← subjectDeletionPreflight db tenantId requestId
  let (count, db) ← deleteAttachmentBlobs db storage tenantId customerId
  let o ← executeDeletion env db now tenantId requestId
  return ⟨bindCleanup o.db requestId count, o.erasures⟩

def placeHold (actor : Option ℕ) (customerId ticketId : Option ℕ) :
    Except Failure (LifecycleDb ρ) := do
  let tenantId ← actorTenant actor
  guardThat (customerId.isSome || ticketId.isSome) "legal_hold_subject_required"
  if let some c := customerId then
    guardThat ((db.customers.get? c).any (·.tenantId = some tenantId)) "legal_hold_subject_not_found"
  if let some t := ticketId then
    guardThat ((db.tickets.get? t).any (·.tenantId = some tenantId)) "legal_hold_subject_not_found"
    if let some c := customerId then
      guardThat ((db.tickets.get? t).any (·.customerId = some c)) "legal_hold_subject_conflict"
  return { db with holds := db.holds.insert ⟨tenantId, customerId, ticketId, true⟩ }

def releaseHold (actor : Option ℕ) (holdId : ℕ) : Except Failure (LifecycleDb ρ) := do
  let tenantId ← actorTenant actor
  guardThat ((db.holds.get? holdId).any (·.tenantId = tenantId)) "legal_hold_not_found"
  return { db with holds := db.holds.modify holdId fun h => { h with active := false } }

/-- `retention_resources` of the field authority. -/
def retentionResources : List String :=
  ["customer_profile", "ticket_case", "conversation_message", "attachment_blob",
    "runtime_diagnostic"]

def createPolicy (actor : Option ℕ) (resource : String) (days : ℕ) :
    Except Failure (LifecycleDb ρ) := do
  let tenantId ← actorTenant actor
  guardThat (resource ∈ retentionResources) "retention_resource_invalid"
  let versions := db.policies.select fun _ p =>
    p.tenantId = some tenantId && p.resourceType = resource
  let version := (versions.map (·.2.version)).foldl max 0
  let policies := db.policies.mapRows fun _ p =>
    if p.tenantId = some tenantId ∧ p.resourceType = resource ∧ p.version = version ∧
        p.status = .approved then { p with status := .retired } else p
  return { db with
    policies := policies.insert ⟨some tenantId, resource, version + 1, days, .approved⟩ }

/-! ## retention -/

/-- `timedelta(days=n)`. -/
def days (n : ℕ) : ℤ := seconds (86400 * n)

/-- what the dry run says of a candidate. -/
inductive Verdict where
  | held | blockedActive | blockedAttachments | eligible
deriving DecidableEq, Repr

def verdict (tenantId customerId : ℕ) : Verdict :=
  if activeHold db tenantId customerId then .held
  else if hasActiveTicket db tenantId customerId then .blockedActive
  else if !(attachmentIds db tenantId customerId).isEmpty then .blockedAttachments
  else .eligible

def candidates (tenantId : ℕ) (cutoff : Instant) : List ℕ :=
  (db.customers.select fun _ c => c.tenantId = some tenantId && c.updatedAt ≤ cutoff).map (·.1)

def dryRunReceipt (tenantId policyId : ℕ) (resource : String) (cutoff : Instant) :
    DryRunReceipt :=
  let ids := candidates db tenantId cutoff
  let with' (v : Verdict) := ids.filter fun c => verdict db tenantId c = v
  { policyId := policyId
    resourceType := resource
    cutoffAt := cutoff
    candidateIds := with' .eligible
    scannedCount := ids.length
    eligibleCount := (with' .eligible).length
    heldCount := (with' .held).length
    blockedActiveCount := (with' .blockedActive).length
    blockedAttachmentCount := (with' .blockedAttachments).length }

def dryRunExecution (tenantId policyId : ℕ) (key : String) (cutoff : Instant) (r : DryRunReceipt) :
    LifecycleExecution where
  tenantId := tenantId
  policyVersionId := policyId
  executionKey := key
  status := .dryRun
  cutoffAt := cutoff
  affectedCount := 0
  heldCount := r.heldCount
  receipt := .dryRun r
  receiptSha := env.receiptSha (.dryRun r)

def planExecution (now : Instant) (actor : Option ℕ) (policyId : ℕ) (key : String) :
    Except Failure (LifecycleDb ρ) := do
  let tenantId ← actorTenant actor
  match db.policies.get? policyId with
  | none => .error (.lifecycle ⟨"retention_policy_not_found", 404⟩)
  | some p =>
    if p.tenantId ≠ some tenantId ∨ p.status ≠ .approved then
      .error (.lifecycle ⟨"retention_policy_not_found", 404⟩)
    else
      guardThat (p.resourceType = "customer_profile") "retention_resource_apply_not_implemented"
      guardThat (key ≠ "") "retention_execution_key_required"
      match (db.executions.select fun _ e =>
          e.tenantId = tenantId && e.executionKey = key).head? with
      | some e =>
        guardThat (e.2.policyVersionId = policyId) "retention_execution_idempotency_conflict"
        return db
      | none =>
        let cutoff := now - days p.retentionDays
        let e := dryRunExecution env tenantId policyId key cutoff
          (dryRunReceipt db tenantId policyId p.resourceType cutoff)
        return { db with executions := db.executions.insert e }

def candidateIdsOf (r : DryRunReceipt) : Except Failure (List ℕ) := do
  guardThat (r.candidateIds.all (0 < ·)) "retention_dry_run_candidates_invalid"
  guardThat (decide r.candidateIds.Nodup) "retention_dry_run_candidates_duplicate"
  guardThat (r.candidateIds.length ≤ 10000) "retention_dry_run_candidates_unbounded"
  guardThat (r.eligibleCount = r.candidateIds.length) "retention_dry_run_candidate_count_mismatch"
  return r.candidateIds

def candidateUndrifted (tenantId : ℕ) (cutoff : Instant) (customerId : ℕ) : Except Failure Unit := do
  guardThat ((db.customers.get? customerId).all (·.updatedAt ≤ cutoff))
    "retention_candidate_data_drift"
  guardThat (!hasActiveTicket db tenantId customerId) "retention_candidate_active_case_drift"
  guardThat (attachmentIds db tenantId customerId).isEmpty "retention_candidate_attachment_drift"

/-- `preflight_retention_execution`: the candidates of a dry run, or `none` once it is applied. -/
def preflightExecution (tenantId executionId : ℕ) :
    Except Failure (Option (LifecycleExecution × List ℕ)) :=
  match db.executions.get? executionId with
  | none => .error (.lifecycle ⟨"retention_execution_not_found", 404⟩)
  | some e =>
    if e.tenantId ≠ tenantId then .error (.lifecycle ⟨"retention_execution_not_found", 404⟩)
    else if e.status = .applied then .ok none
    else
      match e.receipt with
      | .applied _ => refuse "retention_dry_run_schema_invalid"
      | .dryRun r => do
        guardThat (env.receiptSha e.receipt = e.receiptSha) "retention_dry_run_receipt_hash_mismatch"
        guardThat ((db.policies.get? e.policyVersionId).any fun p =>
            p.tenantId = some tenantId && p.status = .approved &&
              p.resourceType = "customer_profile") "retention_policy_changed_since_dry_run"
        guardThat (r.policyId = e.policyVersionId) "retention_dry_run_policy_mismatch"
        guardThat ((db.policies.get? e.policyVersionId).any (·.resourceType = r.resourceType))
          "retention_dry_run_resource_mismatch"
        guardThat (e.cutoffAt = r.cutoffAt) "retention_dry_run_cutoff_mismatch"
        let ids ← candidateIdsOf r
        guardThat (ids.all fun c => (db.customers.get? c).any (·.tenantId = some tenantId))
          "retention_candidate_identity_drift"
        ids.forM (candidateUndrifted db tenantId r.cutoffAt)
        return some (e, ids)

structure Applying (ρ : Type) where
  db : LifecycleDb ρ
  affected : ℕ
  held : ℕ
  receipts : List String
  erasures : List (Erasure ρ)

/-- one candidate of an application: a hold skips it, and any other failure ends the application. -/
def applyCandidate (now : Instant) (tenantId executionId : ℕ) (s : Applying ρ) (customerId : ℕ) :
    Except Failure (Applying ρ) :=
  if (s.db.customers.get? customerId).any (·.tenantId = some tenantId) then
    match anonymizeSubjectGraph env s.db now tenantId customerId with
    | .ok (receipt, new) => .ok
      { db := new
        affected := s.affected + 1
        held := s.held
        receipts := s.receipts ++ [receipt.sha]
        erasures := ⟨customerId, .execution executionId, s.db⟩ :: s.erasures }
    | .error (.lifecycle e) =>
      if e.code = legalHoldBlocks then .ok { s with held := s.held + 1 }
      else .error (.lifecycle e)
    | .error .other => .error .other
  else .ok s

def appliedExecution (r : AppliedReceipt) (e : LifecycleExecution) : LifecycleExecution :=
  { e with
    status := .applied
    affectedCount := r.affectedCount
    heldCount := r.heldCount
    receipt := .applied r
    receiptSha := env.receiptSha (.applied r) }

/-- `apply_retention_execution` behind its guard. -/
def applyExecution (now : Instant) (actor : Option ℕ) (executionId : ℕ) :
    Except Failure (Outcome ρ) := do
  let tenantId ← actorTenant actor
  match ← preflightExecution env db tenantId executionId with
  | none => return ⟨db, []⟩
  | some (e, ids) =>
    let s ← ids.foldlM (applyCandidate env now tenantId executionId) ⟨db, 0, e.heldCount, [], []⟩
    let receipt : AppliedReceipt := ⟨e.receiptSha, s.affected, s.held, s.receipts, now⟩
    let executions := s.db.executions.modify executionId (appliedExecution env receipt)
    return ⟨{ s.db with executions := executions }, s.erasures⟩

end Subject

/-! ## runs -/

structure LifecycleWorld (ρ : Type) where
  db : LifecycleDb ρ
  erasures : List (Erasure ρ)

inductive LifecycleStep (ρ : Type) where
  | createCustomer (c : Customer)
  /-- an update of the customer's data. -/
  | touchCustomer (id : ℕ) (name : String) (email phone externalRef : Option String) (now : Instant)
  /-- a ticket of a customer, stamped with its tenant. -/
  | openTicket (customerId : ℕ) (status : TicketStatus) (now : Instant)
  /-- a ticket is closed or opened again. -/
  | setStatus (ticketId : ℕ) (status : TicketStatus) (now : Instant)
  | attach (ticketId : ℕ)
  | receiveRequest (r : DataSubjectRequest)
  | qualifyRequest (id : ℕ)
  | delete (actor : Option ℕ) (requestId : ℕ) (storage : ℕ → Bool) (now : Instant)
  | placeHold (actor : Option ℕ) (customerId ticketId : Option ℕ)
  | releaseHold (actor : Option ℕ) (holdId : ℕ)
  | createPolicy (actor : Option ℕ) (resource : String) (days : ℕ)
  | plan (actor : Option ℕ) (policyId : ℕ) (key : String) (now : Instant)
  | apply (actor : Option ℕ) (executionId : ℕ) (now : Instant)
  /-- the other tables change. -/
  | relate (r : ρ)

section Steps
variable {ρ : Type} (env : LifecycleEnv ρ)

/-- a transaction: a failure is rolled back. -/
def LifecycleWorld.attempt (w : LifecycleWorld ρ) (r : Except Failure (Outcome ρ)) :
    LifecycleWorld ρ :=
  match r with
  | .ok o => ⟨o.db, o.erasures ++ w.erasures⟩
  | .error _ => w

/-- an operation that anonymises nobody. -/
def LifecycleWorld.write (w : LifecycleWorld ρ) (r : Except Failure (LifecycleDb ρ)) :
    LifecycleWorld ρ := w.attempt (r.map fun db => ⟨db, []⟩)

def lifecycleStep : LifecycleStep ρ → LifecycleWorld ρ → LifecycleWorld ρ
  | .createCustomer c, w => { w with db := { w.db with customers := w.db.customers.insert c } }
  | .touchCustomer id name email phone externalRef now, w =>
    let touched (c : Customer) : Customer := ⟨c.tenantId, name, email, phone, externalRef, now⟩
    { w with db := { w.db with customers := w.db.customers.modify id touched } }
  | .openTicket customerId status now, w =>
    match w.db.customers.get? customerId with
    | none => w
    | some c =>
      let t : SubjectTicket := ⟨c.tenantId, some customerId, status, now⟩
      { w with db := { w.db with tickets := w.db.tickets.insert t } }
  | .setStatus ticketId status now, w =>
    let moved (t : SubjectTicket) : SubjectTicket := { t with status := status, updatedAt := now }
    { w with db := { w.db with tickets := w.db.tickets.modify ticketId moved } }
  | .attach ticketId, w =>
    { w with db := { w.db with attachments := w.db.attachments.insert ticketId } }
  | .receiveRequest r, w =>
    let r := { r with status := .identityPending, blockedReason := none, manifest := none }
    { w with db := { w.db with requests := w.db.requests.insert r } }
  | .qualifyRequest id, w =>
    let qualified (r : DataSubjectRequest) := { r with status := .qualified, blockedReason := none }
    { w with db := setRequest w.db id qualified }
  | .delete actor requestId storage now, w =>
    w.attempt (deleteSubject env w.db storage now actor requestId)
  | .placeHold actor customerId ticketId, w => w.write (placeHold w.db actor customerId ticketId)
  | .releaseHold actor holdId, w => w.write (releaseHold w.db actor holdId)
  | .createPolicy actor resource days, w => w.write (createPolicy w.db actor resource days)
  | .plan actor policyId key now, w => w.write (planExecution env w.db now actor policyId key)
  | .apply actor executionId now, w => w.attempt (applyExecution env w.db now actor executionId)
  | .relate r, w => { w with db := { w.db with related := r } }

def LifecycleWorld.start (r : ρ) : LifecycleWorld ρ :=
  ⟨⟨Table.empty, Table.empty, Table.empty, Table.empty, Table.empty, Table.empty, Table.empty, r⟩, []⟩

end Steps

end NexusHelpdesk.Privacy
