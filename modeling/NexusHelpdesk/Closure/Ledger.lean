import NexusHelpdesk.Lib.Once
import NexusHelpdesk.Desk.Case

/-!
# The closure ledger (`case_outcome_service.py`, `ticket_closure_readiness.py`)

The `closure_assessment` records of one ticket.  A close appends a `closed` record under the digest
of its receipt; a reopening appends a `reopened` record under the latest `closed` record and the
digest of its reason.

* `appendCaseOutcome`: an append under an idempotency key, which the same record passes;
* `appendClosureReceipt`, `invalidateLatestClosureReceipt`: the two writers;
* `Ledger.Sound`: **an invalidation lies behind the record it invalidates, which its key names**.

The records of a ticket are numbered in the order of their ids; SHA-256 is the parameter `sha256`.
-/

namespace NexusHelpdesk.Closure

open Lib

abbrev Text := List Char

inductive CaseError where
  | http (e : HTTPException)
  | sla (e : Sla.SLAConfigurationError)
  | value (code : String)
deriving DecidableEq, Repr

inductive AssessmentState where
  | closed | reopened
deriving DecidableEq, Repr

/-- the governed receipt of a close, with what the ledger keeps of it. -/
structure ClosureReceipt where
  receiptSha256 : Text
  scenarioKey : Option Text
  scenarioAssignmentId : Option ℕ
  closureReady : Bool
deriving DecidableEq, Repr

inductive AssessmentPayload where
  | receipt (r : ClosureReceipt)
  | invalidation (invalidatedRecordId : ℕ) (receiptSha256 reasonSha256 : Text) (reasonLength : ℕ)
deriving DecidableEq, Repr

def AssessmentPayload.receiptSha256 : AssessmentPayload → Text
  | .receipt r => r.receiptSha256
  | .invalidation _ digest _ _ => digest

structure CaseOutcomeRecord where
  state : AssessmentState
  idempotencyKey : Text
  parentRecordId : Option ℕ
  sourceId : Text
  payload : AssessmentPayload
  occurredAt : Instant
  createdBy : Option ℕ
deriving DecidableEq, Repr

abbrev Ledger := Table CaseOutcomeRecord

/-! ## the code -/

/-- what `append_case_outcome` compares with a stored record. -/
def CaseOutcomeRecord.same (r a : CaseOutcomeRecord) : Bool :=
  r.state = a.state && r.payload = a.payload && r.parentRecordId = a.parentRecordId &&
    r.sourceId = a.sourceId && r.occurredAt = a.occurredAt

/-- `append_case_outcome` for a closure assessment. -/
def appendCaseOutcome (l : Ledger) (a : CaseOutcomeRecord) : Except CaseError Ledger :=
  match l.appendOnce (·.idempotencyKey) CaseOutcomeRecord.same a with
  | some l => .ok l
  | none => .error (.value "case_outcome_idempotency_conflict")

def receiptKey (digest : Text) : Text := "closure-receipt:".toList ++ digest

def invalidationKey (priorId : ℕ) (reasonSha : Text) : Text :=
  "closure-invalidation:".toList ++ (Nat.toDigits 10 priorId ++ ':' :: reasonSha.take 24)

def receiptRecord (receipt : ClosureReceipt) (actorId : Option ℕ) (now : Instant) :
    CaseOutcomeRecord where
  state := .closed
  idempotencyKey := receiptKey receipt.receiptSha256
  parentRecordId := none
  sourceId := receipt.receiptSha256
  payload := .receipt receipt
  occurredAt := now
  createdBy := actorId

def appendClosureReceipt (l : Ledger) (receipt : ClosureReceipt) (actorId : Option ℕ)
    (now : Instant) : Except CaseError Ledger :=
  appendCaseOutcome l (receiptRecord receipt actorId now)

def latestClosed (l : Ledger) : Option (ℕ × CaseOutcomeRecord) :=
  l.latest fun _ r => r.state = .closed

def latestAssessment (l : Ledger) : Option (ℕ × CaseOutcomeRecord) := l.latest fun _ _ => true

/-- the digest of the invalidated record; its id stands in for a missing one. -/
def priorDigest (i : ℕ) (r : CaseOutcomeRecord) : Text :=
  if r.payload.receiptSha256 ≠ [] then r.payload.receiptSha256
  else if r.sourceId ≠ [] then r.sourceId
  else Nat.toDigits 10 i

/-- `" ".join(reason.strip().split())[:500]`. -/
def reasonText (reason : Text) : Text := (PyStr.collapse (PyStr.stripChars reason)).take 500

section Sha
variable (sha256 : Text → Text)

/-- the record of a reopening that invalidates the record `r` under `i`. -/
def invalidationRecord (i : ℕ) (r : CaseOutcomeRecord) (reason : Text) (actorId : Option ℕ)
    (now : Instant) : CaseOutcomeRecord where
  state := .reopened
  idempotencyKey := invalidationKey i (sha256 (reasonText reason))
  parentRecordId := some i
  sourceId := priorDigest i r
  payload :=
    .invalidation i (priorDigest i r) (sha256 (reasonText reason)) (reasonText reason).length
  occurredAt := now
  createdBy := actorId

/-- `invalidate_latest_closure_receipt`; the answer tells whether there was a record. -/
def invalidateLatestClosureReceipt (l : Ledger) (reason : Text) (actorId : Option ℕ)
    (now : Instant) : Except CaseError (Bool × Ledger) :=
  match latestClosed l with
  | none => .ok (false, l)
  | some (i, r) =>
    match appendCaseOutcome l (invalidationRecord sha256 i r reason actorId now) with
    | .ok l => .ok (true, l)
    | .error e => .error e

end Sha

lemma takeWhile_toDigits (i : ℕ) (rest : Text) :
    (Nat.toDigits 10 i ++ ':' :: rest).takeWhile Char.isDigit = Nat.toDigits 10 i := by
  rw [List.takeWhile_append_of_pos]
  · rw [List.takeWhile_cons_of_neg (by decide), List.append_nil]
  · intro c hc
    exact Nat.isDigit_of_mem_toDigits (by decide) (by decide) hc

lemma invalidationKey_inj {i j : ℕ} {s t : Text} (h : invalidationKey i s = invalidationKey j t) :
    i = j := by
  have hrest := List.append_cancel_left h
  have hdigits := congrArg (List.takeWhile Char.isDigit) hrest
  rw [takeWhile_toDigits, takeWhile_toDigits] at hdigits
  have hvalue := congrArg (Nat.ofDigitChars 10 · 0) hdigits
  simpa only [Nat.ofDigitChars_toDigits (b := 10) (by decide) (by decide)] using hvalue

lemma receiptKey_ne_invalidationKey (digest : Text) (i : ℕ) (s : Text) :
    receiptKey digest ≠ invalidationKey i s := by
  intro h
  have hchar := congrArg (fun l : Text => l[8]?) h
  have hleft : (receiptKey digest)[8]? = some 'r' := rfl
  have hright : (invalidationKey i s)[8]? = some 'i' := rfl
  rw [show (receiptKey digest)[8]? = (invalidationKey i s)[8]? from hchar, hright] at hleft
  cases hleft

/-! ## sound ledgers -/

section Sound
variable (sha256 : Text → Text)

/-- every record is one of the two writers', and an invalidation lies behind the `closed` record
it invalidates. -/
structure Ledger.Sound (l : Ledger) : Prop where
  keysDistinct : Table.KeysDistinct (·.idempotencyKey) l
  closed : ∀ j q, l.get? j = some q → q.state = .closed →
    ∃ receipt actorId now, q = receiptRecord receipt actorId now
  reopened : ∀ j q, l.get? j = some q → q.state = .reopened →
    ∃ i r reason actorId now, i < j ∧ l.get? i = some r ∧ r.state = .closed ∧
      q = invalidationRecord sha256 i r reason actorId now

/-- no `closed` record is invalidated twice. -/
def Ledger.AtMostOnce (l : Ledger) : Prop :=
  ∀ i j k q q', l.get? j = some q → l.get? k = some q' → q.state = .reopened →
    q'.state = .reopened → q.parentRecordId = some i → q'.parentRecordId = some i → j = k

inductive Invalidation (l : Ledger) (reason : Text) (actorId : Option ℕ) (now : Instant) :
    Except CaseError (Bool × Ledger) → Prop
  | noReceipt (h : latestClosed l = none) : Invalidation l reason actorId now (.ok (false, l))
  | appended (i : ℕ) (r : CaseOutcomeRecord) (h : latestClosed l = some (i, r))
      (hnew : ∀ j q, l.get? j = some q →
        q.idempotencyKey ≠ invalidationKey i (sha256 (reasonText reason))) :
      Invalidation l reason actorId now
        (.ok (true, l.insert (invalidationRecord sha256 i r reason actorId now)))
  | found (i j : ℕ) (r q : CaseOutcomeRecord) (h : latestClosed l = some (i, r))
      (hq : l.get? j = some q)
      (hkey : q.idempotencyKey = invalidationKey i (sha256 (reasonText reason)))
      (hsame : q.same (invalidationRecord sha256 i r reason actorId now) = true) :
      Invalidation l reason actorId now (.ok (true, l))
  | conflict (i j : ℕ) (r q : CaseOutcomeRecord) (h : latestClosed l = some (i, r))
      (hq : l.get? j = some q)
      (hkey : q.idempotencyKey = invalidationKey i (sha256 (reasonText reason)))
      (hdiff : q.same (invalidationRecord sha256 i r reason actorId now) = false) :
      Invalidation l reason actorId now (.error (.value "case_outcome_idempotency_conflict"))

lemma invalidation_spec (l : Ledger) (reason : Text) (actorId : Option ℕ) (now : Instant) :
    Invalidation sha256 l reason actorId now
      (invalidateLatestClosureReceipt sha256 l reason actorId now) := by
  unfold invalidateLatestClosureReceipt
  cases h : latestClosed l with
  | none => exact .noReceipt h
  | some x =>
    obtain ⟨i, r⟩ := x
    dsimp only
    unfold appendCaseOutcome
    have hspec := Table.appendOnce_spec (·.idempotencyKey) CaseOutcomeRecord.same l
      (invalidationRecord sha256 i r reason actorId now)
    generalize l.appendOnce (·.idempotencyKey) CaseOutcomeRecord.same
      (invalidationRecord sha256 i r reason actorId now) = result at hspec ⊢
    cases hspec with
    | inserted hnew => exact .appended i r h hnew
    | found j q hq hkey hsame => exact .found i j r q h hq hkey hsame
    | conflict j q hq hkey hdiff => exact .conflict i j r q h hq hkey hdiff

inductive ReceiptAppend (l : Ledger) (receipt : ClosureReceipt) (actorId : Option ℕ)
    (now : Instant) : Except CaseError Ledger → Prop
  | appended (hnew : ∀ j q, l.get? j = some q →
      q.idempotencyKey ≠ receiptKey receipt.receiptSha256) :
      ReceiptAppend l receipt actorId now (.ok (l.insert (receiptRecord receipt actorId now)))
  | found (j : ℕ) (q : CaseOutcomeRecord) (hq : l.get? j = some q)
      (hkey : q.idempotencyKey = receiptKey receipt.receiptSha256)
      (hsame : q.same (receiptRecord receipt actorId now) = true) :
      ReceiptAppend l receipt actorId now (.ok l)
  | conflict (e : CaseError) : ReceiptAppend l receipt actorId now (.error e)

lemma receiptAppend_spec (l : Ledger) (receipt : ClosureReceipt) (actorId : Option ℕ)
    (now : Instant) :
    ReceiptAppend l receipt actorId now (appendClosureReceipt l receipt actorId now) := by
  unfold appendClosureReceipt appendCaseOutcome
  have hspec := Table.appendOnce_spec (·.idempotencyKey) CaseOutcomeRecord.same l
    (receiptRecord receipt actorId now)
  generalize l.appendOnce (·.idempotencyKey) CaseOutcomeRecord.same
    (receiptRecord receipt actorId now) = result at hspec ⊢
  cases hspec with
  | inserted hnew => exact .appended hnew
  | found j q hq hkey hsame => exact .found j q hq hkey hsame
  | conflict j q hq hkey hdiff => exact .conflict _

variable {sha256} {l : Ledger}

namespace Ledger.Sound

lemma empty : Ledger.Sound sha256 (Table.empty : Ledger) where
  keysDistinct := Table.keysDistinct_empty
  closed := fun j q hq => by cases hq
  reopened := fun j q hq => by cases hq

variable {actorId : Option ℕ} {now : Instant}

lemma insert_receipt {receipt : ClosureReceipt} (h : Sound sha256 l)
    (hnew : ∀ j q, l.get? j = some q → q.idempotencyKey ≠ receiptKey receipt.receiptSha256) :
    Sound sha256 (l.insert (receiptRecord receipt actorId now)) where
  keysDistinct := h.keysDistinct.insert hnew
  closed := by
    intro j q hq hstate
    rw [Table.get?_insert] at hq
    split at hq
    · cases hq
      exact ⟨receipt, actorId, now, rfl⟩
    · exact h.closed j q hq hstate
  reopened := by
    intro j q hq hstate
    rw [Table.get?_insert] at hq
    split at hq
    · cases hq
      cases hstate
    · obtain ⟨i, r, reason, a, n, hij, hr, hclosed, heq⟩ := h.reopened j q hq hstate
      exact ⟨i, r, reason, a, n, hij, Table.get?_insert_of_some l hr, hclosed, heq⟩

lemma insert_invalidation {i : ℕ} {r : CaseOutcomeRecord} {reason : Text} (h : Sound sha256 l)
    (hlatest : latestClosed l = some (i, r))
    (hnew : ∀ j q, l.get? j = some q →
      q.idempotencyKey ≠ invalidationKey i (sha256 (reasonText reason))) :
    Sound sha256 (l.insert (invalidationRecord sha256 i r reason actorId now)) where
  keysDistinct := h.keysDistinct.insert hnew
  closed := by
    intro j q hq hstate
    rw [Table.get?_insert] at hq
    split at hq
    · cases hq
      cases hstate
    · exact h.closed j q hq hstate
  reopened := by
    obtain ⟨hr, hclosed⟩ := Table.get?_of_latest hlatest
    intro j q hq hstate
    rw [Table.get?_insert] at hq
    split at hq
    · rename_i hj
      cases hq
      refine ⟨i, r, reason, actorId, now, ?_, Table.get?_insert_of_some l hr,
        of_decide_eq_true hclosed, rfl⟩
      rw [hj]
      exact Table.lt_next hr
    · obtain ⟨i', r', reason', a, n, hij, hr', hclosed', heq⟩ := h.reopened j q hq hstate
      exact ⟨i', r', reason', a, n, hij, Table.get?_insert_of_some l hr', hclosed', heq⟩

lemma reopened_of_key (h : Sound sha256 l) {i j : ℕ} {q : CaseOutcomeRecord} {s : Text}
    (hq : l.get? j = some q) (hkey : q.idempotencyKey = invalidationKey i s) :
    q.state = .reopened ∧ q.parentRecordId = some i := by
  cases hstate : q.state with
  | closed =>
    obtain ⟨receipt, a, n, rfl⟩ := h.closed j q hq hstate
    exact absurd hkey (receiptKey_ne_invalidationKey _ _ _)
  | reopened =>
    obtain ⟨i', r, reason, a, n, -, -, -, rfl⟩ := h.reopened j q hq hstate
    obtain rfl : i' = i := invalidationKey_inj hkey
    exact ⟨rfl, rfl⟩

end Ledger.Sound
end Sound

end NexusHelpdesk.Closure
