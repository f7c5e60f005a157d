import NexusHelpdesk.Desk.Basic
import NexusHelpdesk.Lib.Run
import NexusHelpdesk.Lib.WriteBack

/-!
# Media workers (`whatsapp_media_worker.py`, `whatsapp_media_service.py`)

One media asset of the Meta transport, the workers that download it and the erasure of its customer
(`whatsapp_privacy_lifecycle.py`).

* `claimable`, `claimed`: the lease;
* `completed`: the row of a download that succeeded;
* `recorded`: `_record_media_failure`;
* `redacted`: the row of an erased customer;
* `commitAsset`: a flush writes the columns that changed in memory;
* `MediaWorld`, `mediaStep`: workers and erasures that read and commit in any order.

A blob is stored outside the transaction, under a key of its own.
-/

namespace NexusHelpdesk.Media

open Lib

/-! ## the row -/

inductive StorageStatus where
  | pending | downloading | scanning | available | quarantined | rejected | failed | deleted
deriving DecidableEq, Repr

inductive ScanStatus where
  | pending | clean | infected | unavailable | failed
deriving DecidableEq, Repr

structure MediaAsset where
  storageStatus : StorageStatus
  scanStatus : ScanStatus
  storageKey : Option ℕ
  ticketAttachmentId : Option ℕ
  lockedAt : Option Instant
  lockedBy : Option ℕ
  attemptCount : ℕ
  maxAttempts : ℕ
  nextRetryAt : Option Instant
  lastErrorCode : Option String
deriving DecidableEq, Repr

def mediaLock : ℤ := seconds 300

def claimable (a : MediaAsset) (now : Instant) : Bool :=
  a.attemptCount < a.maxAttempts &&
    ((a.storageStatus = .pending && a.nextRetryAt.all (· ≤ now) && a.lockedAt.isNone) ||
      (a.storageStatus = .downloading && a.lockedAt.any (· < now - mediaLock)))

def claimed (a : MediaAsset) (worker : ℕ) (now : Instant) : MediaAsset :=
  { a with storageStatus := .downloading, lockedAt := some now, lockedBy := some worker }

def holdsLease (a : MediaAsset) (worker : ℕ) : Bool :=
  a.storageStatus = .downloading && a.lockedBy = some worker

/-- the row in memory of a download that succeeded. -/
def completed (a : MediaAsset) (key : ℕ) (attachmentId : Option ℕ) : MediaAsset :=
  { a with
    storageStatus := .available
    scanStatus := .clean
    storageKey := some key
    ticketAttachmentId := attachmentId
    lockedAt := none
    lockedBy := none
    nextRetryAt := none
    lastErrorCode := none }

structure MediaFailure where
  code : String
  retryable : Bool
deriving DecidableEq, Repr

def MediaFailure.malware (f : MediaFailure) : Bool := f.code = "whatsapp_media_malware_detected"

def leaseLost : MediaFailure := ⟨"whatsapp_media_lease_lost", true⟩

/-- `quarantined`, `rejected` and `deleted` stay. -/
def settled (s : StorageStatus) : Bool := s = .quarantined || s = .rejected || s = .deleted

def retryDelay (attemptCount : ℕ) : ℤ := seconds (min (30 * 2 ^ (attemptCount - 1)) 1800)

def recorded (a : MediaAsset) (f : MediaFailure) (now : Instant) : MediaAsset :=
  let status := if f.malware then .quarantined else a.storageStatus
  let terminal := f.malware || !f.retryable || a.maxAttempts ≤ a.attemptCount + 1 || settled status
  { a with
    storageStatus :=
      if terminal then (if settled status then status else .failed) else .pending
    scanStatus := if f.malware then .infected else a.scanStatus
    lockedAt := none
    lockedBy := none
    attemptCount := a.attemptCount + 1
    nextRetryAt := if terminal then none else some (now + retryDelay (a.attemptCount + 1))
    lastErrorCode := some f.code }

/-- the row in memory of an erased customer. -/
def redacted (a : MediaAsset) : MediaAsset :=
  { a with
    storageStatus := .deleted
    storageKey := none
    ticketAttachmentId := none
    lastErrorCode := none }

/-- the update of the stored row: a column that did not change in memory is not written. -/
def commitAsset (read new stored : MediaAsset) : MediaAsset where
  storageStatus := changed read.storageStatus new.storageStatus stored.storageStatus
  scanStatus := changed read.scanStatus new.scanStatus stored.scanStatus
  storageKey := changed read.storageKey new.storageKey stored.storageKey
  ticketAttachmentId :=
    changed read.ticketAttachmentId new.ticketAttachmentId stored.ticketAttachmentId
  lockedAt := changed read.lockedAt new.lockedAt stored.lockedAt
  lockedBy := changed read.lockedBy new.lockedBy stored.lockedBy
  attemptCount := changed read.attemptCount new.attemptCount stored.attemptCount
  maxAttempts := changed read.maxAttempts new.maxAttempts stored.maxAttempts
  nextRetryAt := changed read.nextRetryAt new.nextRetryAt stored.nextRetryAt
  lastErrorCode := changed read.lastErrorCode new.lastErrorCode stored.lastErrorCode

/-! ## runs -/

inductive Phase where
  /-- the claim is committed, and the asset is not loaded yet. -/
  | claimed
  | working (read : MediaAsset)
  /-- the blob is stored, and the row is not committed yet. -/
  | stored (read : MediaAsset) (key : ℕ)
  /-- rolled back, with a failure to record. -/
  | failing (f : MediaFailure)
  | recording (read : MediaAsset) (f : MediaFailure)
deriving DecidableEq, Repr

/-- a worker's commit: the status before and after, and whether the worker held the lease. -/
structure StatusChange where
  before : StorageStatus
  after : StorageStatus
  held : Bool
deriving DecidableEq, Repr

structure MediaWorld where
  asset : MediaAsset
  /-- the keys of the blobs in the storage. -/
  blobs : List ℕ
  /-- the ids of the ticket attachments. -/
  attachments : List ℕ
  workers : InHand ℕ Phase
  /-- the row that an erasure has read. -/
  erasing : Option MediaAsset
  erased : Bool
  changes : List StatusChange

def newAsset (maxAttempts : ℕ) : MediaAsset where
  storageStatus := .pending
  scanStatus := .pending
  storageKey := none
  ticketAttachmentId := none
  lockedAt := none
  lockedBy := none
  attemptCount := 0
  maxAttempts := maxAttempts
  nextRetryAt := none
  lastErrorCode := none

def MediaWorld.start (maxAttempts : ℕ) : MediaWorld :=
  ⟨newAsset maxAttempts, [], [], InHand.empty, none, false, []⟩

inductive MediaStep where
  | claim (worker : ℕ) (now : Instant)
  | load (worker : ℕ)
  /-- the bytes are scanned and stored. -/
  | store (worker key : ℕ)
  /-- the commit of a download; `ticket` when the message has one, with the id of its attachment. -/
  | complete (worker : ℕ) (ticket : Option ℕ)
  | fail (worker : ℕ) (f : MediaFailure)
  | recordRead (worker : ℕ)
  | recordCommit (worker : ℕ) (now : Instant)
  | crash (worker : ℕ)
  /-- the erasure reads the row and deletes its blob. -/
  | eraseRead
  | eraseCommit
  | eraseAbort
deriving DecidableEq, Repr

def MediaWorld.workerCommit (w : MediaWorld) (worker : ℕ) (read new : MediaAsset) : MediaWorld :=
  { w with
    asset := commitAsset read new w.asset
    workers := w.workers.release worker
    changes := ⟨w.asset.storageStatus, (commitAsset read new w.asset).storageStatus,
      w.asset.lockedBy = some worker⟩ :: w.changes }

/-- `_project_ticket_attachment`: the id in the row, and the new attachment. -/
def projectAttachment (read : MediaAsset) (ticket : Option ℕ) : Option ℕ × List ℕ :=
  match ticket with
  | none => (none, [])
  | some id =>
    match read.ticketAttachmentId with
    | some old => (some old, [])
    | none => (some id, [id])

def mediaStep : MediaStep → MediaWorld → MediaWorld
  | .claim worker now, w =>
    if claimable w.asset now && (w.workers worker).isNone then
      { w with asset := claimed w.asset worker now, workers := w.workers.take worker .claimed }
    else w
  | .load worker, w =>
    match w.workers worker with
    | some .claimed =>
      if holdsLease w.asset worker then
        { w with workers := w.workers.take worker (.working w.asset) }
      else { w with workers := w.workers.take worker (.failing leaseLost) }
    | _ => w
  | .store worker key, w =>
    match w.workers worker with
    | some (.working read) =>
      { w with blobs := key :: w.blobs, workers := w.workers.take worker (.stored read key) }
    | _ => w
  | .complete worker ticket, w =>
    match w.workers worker with
    | some (.stored read key) =>
      let attachment := projectAttachment read ticket
      { w.workerCommit worker read (completed read key attachment.1) with
        attachments := attachment.2 ++ w.attachments }
    | _ => w
  | .fail worker f, w =>
    match w.workers worker with
    | some .claimed => { w with workers := w.workers.take worker (.failing f) }
    | some (.working _) => { w with workers := w.workers.take worker (.failing f) }
    | some (.stored _ _) => { w with workers := w.workers.take worker (.failing f) }
    | _ => w
  | .recordRead worker, w =>
    match w.workers worker with
    | some (.failing f) =>
      if w.asset.lockedBy = none ∨ w.asset.lockedBy = some worker then
        { w with workers := w.workers.take worker (.recording w.asset f) }
      else { w with workers := w.workers.release worker }
    | _ => w
  | .recordCommit worker now, w =>
    match w.workers worker with
    | some (.recording read f) => w.workerCommit worker read (recorded read f now)
    | _ => w
  | .crash worker, w => { w with workers := w.workers.release worker }
  | .eraseRead, w =>
    { w with
      erasing := some w.asset
      blobs := w.blobs.filter fun key => w.asset.storageKey ≠ some key }
  | .eraseCommit, w =>
    match w.erasing with
    | some read =>
      { w with asset := commitAsset read (redacted read) w.asset, erasing := none, erased := true }
    | none => w
  | .eraseAbort, w => { w with erasing := none }

end NexusHelpdesk.Media
