import NexusHelpdesk.Lib.Run
import NexusHelpdesk.WhatsApp.Parts

/-!
# Delivery receipts (`whatsapp_delivery.py`)

A receipt names a part by its id, by the provider's message id, or only by the message; if no part
matches it falls through to the message itself.

* `resolveOutboundPart`: the part a receipt is about;
* `staleReason`: receipts that come too late;
* `applyPartDelivery` with `aggregateParent`: the part, then the message as the sum of its parts;
* `applyLegacyParentDelivery`: the message without its parts;
* `applyWhatsappDelivery`: the two together;
* `receipt_cases`, `PartReceipt.apply_eq`, `LegacyReceipt.apply_eq`: all that a receipt can do;
* `DeliveryStep`: receipts, claims and attempts.
-/

namespace NexusHelpdesk.WhatsApp

open Lib Outbound

structure Receipt where
  connection : WhatsAppConnection
  providerMessageId : Option String
  status : String
  occurredAt : Option Instant
  provider : String
  receiptId : Option String
  outboundMessageId : Option ℕ
  outboundPartId : Option ℕ
  errorCode : Option String
  errorMessage : Option String
  detail : Option String
deriving DecidableEq, Repr

structure DeliveryResult where
  updated : Bool
  reason : String
  outboundMessageId : Option ℕ
  deliveryStatus : Option String
  outboundPartId : Option ℕ := none
deriving DecidableEq, Repr

def Receipt.normalizedStatus (r : Receipt) : String := PyStr.lower (PyStr.strip r.status)

/-! ## which part -/

def ofConnection (c : WhatsAppConnection) (p : OutboundPart) : Bool :=
  p.connectionId == c.id && p.tenantId == c.tenantId

def resolveOutboundPart (r : Receipt) (parts : Table OutboundPart) : Option (ℕ × OutboundPart) :=
  match r.outboundPartId with
  | some id => (parts.select fun i p => ofConnection r.connection p && i == id).head?
  | none =>
    let byProvider :=
      if PyStr.truthy r.providerMessageId then
        (parts.select fun _ p =>
          ofConnection r.connection p && p.providerMessageId == r.providerMessageId).head?
      else none
    match byProvider, r.outboundMessageId with
    | some found, _ => some found
    | none, none => none
    | none, some m =>
      (parts.ordered inSequence fun _ p =>
        ofConnection r.connection p && p.outboundMessageId == m && p.providerMessageId.isNone &&
          (p.status == .queued || p.status == .failed)).head?

/-- the rank of a state, `d` for failures and unknown states. -/
def rankOr (d : ℤ) (s : Option DeliveryStatus) : ℤ := ((s.bind DeliveryStatus.rank).map (↑·)).getD d

/-- `_stale_reason`; the current state of a message is a text, `none` if it names no state. -/
def staleReason (current : Option DeliveryStatus) (next : DeliveryStatus) : Option String :=
  if !next.isFailure then
    if current.any (·.isFailure) then some "stale_delivery_event"
    else if rankOr 0 (some next) < rankOr (-1) current then some "stale_delivery_event"
    else none
  else if 30 ≤ rankOr (-1) current then some "stale_failure_after_delivery"
  else none

/-! ## the path through a part -/

def providerMismatch (r : Receipt) (known : Option String) : Bool :=
  PyStr.truthy r.providerMessageId && PyStr.truthy known && known != r.providerMessageId

def updatePart (at' : Instant) (r : Receipt) (next : DeliveryStatus) (p : OutboundPart) :
    OutboundPart :=
  { p with
    providerMessageId :=
      if PyStr.truthy r.providerMessageId then r.providerMessageId else p.providerMessageId
    status := next
    receiptAt := some at'
    sentAt :=
      if next = .sent ∨ next = .delivered ∨ next = .read then some (p.sentAt.getD at')
      else p.sentAt
    deliveredAt :=
      if next = .delivered then some at'
      else if next = .read then some (p.deliveredAt.getD at')
      else p.deliveredAt
    readAt := if next = .read then some at' else p.readAt
    failureCode :=
      if next.isFailure then some (clip 120 ((PyStr.orElse r.errorCode none).getD next.value))
      else none
    failureReason :=
      if next.isFailure then
        some (clip 1000 ((PyStr.orElse (PyStr.orElse r.errorMessage r.detail) none).getD next.value))
      else none }

def lowest : DeliveryStatus → List DeliveryStatus → DeliveryStatus
  | s, [] => s
  | s, s' :: rest => if rankOr 0 (some s') < rankOr 0 (some s) then lowest s' rest else lowest s rest

/-- the state of the message as the sum of its parts: the first failure, or the lowest state. -/
def aggregateStatus (first : OutboundPart) (rest : List OutboundPart) : DeliveryStatus :=
  match (first :: rest).find? (·.status.isFailure) with
  | some p => p.status
  | none => lowest first.status (rest.map (·.status))

def failParent (p : OutboundPart) (m : OutboundMessage) : OutboundMessage :=
  let reason := (PyStr.orElse p.failureReason none).getD p.status.value
  { m with
    status := .failed
    failureCode := some ((PyStr.orElse p.failureCode none).getD p.status.value)
    failureReason := some reason
    errorMessage := some reason }

def settleParent (now : Instant) (aggregate : DeliveryStatus) (sents : List Instant)
    (m : OutboundMessage) : OutboundMessage :=
  let m := { m with failureCode := none, failureReason := none, errorMessage := none }
  if aggregate.isOut then
    { m with status := .sent, sentAt := some (m.sentAt.getD (sents.min?.getD now)) }
  else if m.status = .pending ∨ m.status = .processing then m
  else { m with status := .processing }

def noteAggregate (provider : String) (aggregate : DeliveryStatus) (parts : List OutboundPart)
    (m : OutboundMessage) : OutboundMessage :=
  let known := parts.find? fun p => PyStr.truthy p.providerMessageId
  { m with
    deliveryStatus := some aggregate.value
    deliveryEventType := some aggregate.value
    providerStatus := some ("whatsapp_" ++ provider ++ "_" ++ aggregate.value)
    providerMessageId := (known.bind (·.providerMessageId)).or m.providerMessageId }

def aggregateParent (now : Instant) (provider : String) (parts : List OutboundPart)
    (m : OutboundMessage) : String × OutboundMessage :=
  match parts with
  | [] => ((PyStr.orElse m.deliveryStatus none).getD "queued", m)
  | first :: rest =>
    let aggregate := aggregateStatus first rest
    let m :=
      match parts.find? (·.status.isFailure) with
      | some p => failParent p m
      | none => settleParent now aggregate (parts.filterMap (·.sentAt)) m
    (aggregate.value, noteAggregate provider aggregate parts m)

def noteReceipt (at' : Instant) (r : Receipt) (m : OutboundMessage) : OutboundMessage :=
  { m with
    deliveryReceiptProvider := some ("whatsapp_" ++ r.provider)
    deliveryReceiptId := PyStr.orElse r.receiptId r.providerMessageId
    deliveryReceiptAt := some at'
    lastAttemptAt := some at' }

/-- the checks of `_apply_part_delivery`; the reason of the refusal. -/
def partRefusal (ctx : Context) (r : Receipt) (next : DeliveryStatus) (p : OutboundPart)
    (parent : Option OutboundMessage) : Option String :=
  match parent with
  | none => some "delivery_scope_mismatch"
  | some m =>
    if !inScope ctx r.connection m || !ofConnection r.connection p ||
        r.outboundMessageId.any (· != p.outboundMessageId) then some "delivery_scope_mismatch"
    else
      match staleReason (some p.status) next with
      | some reason => some reason
      | none =>
        if providerMismatch r p.providerMessageId then some "provider_message_id_mismatch"
        else none

def applyPartDelivery (ctx : Context) (now : Instant) (r : Receipt) (next : DeliveryStatus)
    (id : ℕ) (p : OutboundPart) (s : Store) : DeliveryResult × Store :=
  let parent := s.messages.get? p.outboundMessageId
  match partRefusal ctx r next p parent, parent with
  | none, some m =>
    let at' := r.occurredAt.getD now
    let parts := s.parts.set id (updatePart at' r next p)
    let (aggregate, m') :=
      aggregateParent now r.provider ((partsOf parts p.outboundMessageId).map (·.2)) m
    (⟨true, "delivery_updated", some p.outboundMessageId, some aggregate, some id⟩,
      { messages := s.messages.set p.outboundMessageId (noteReceipt at' r m'), parts := parts })
  | refusal, _ =>
    (⟨false, refusal.getD "", some p.outboundMessageId, some p.status.value, some id⟩, s)

/-! ## the path past the parts -/

def legacyRow (r : Receipt) (messages : Table OutboundMessage) : Option (ℕ × OutboundMessage) :=
  match r.outboundMessageId with
  | some id => (messages.select fun i m => m.channel == .whatsapp && i == id).head?
  | none =>
    if PyStr.truthy r.providerMessageId then
      (messages.select fun _ m =>
        m.channel == .whatsapp && m.providerMessageId == r.providerMessageId).head?
    else none

def currentDelivery (m : OutboundMessage) : Option DeliveryStatus :=
  DeliveryStatus.ofValue
    (PyStr.lower (PyStr.strip ((PyStr.orElse m.deliveryStatus none).getD "queued")))

/-- the checks of `_apply_legacy_parent_delivery` that come before its first assignment. -/
def legacyRefusal (ctx : Context) (r : Receipt) (next : DeliveryStatus) (m : OutboundMessage) :
    Option String :=
  if !inScope ctx r.connection m then some "delivery_scope_mismatch"
  else staleReason (currentDelivery m) next

/-- the first assignments, which a later refusal does not take back. -/
def legacyVerdict (at' : Instant) (r : Receipt) (next : DeliveryStatus) (m : OutboundMessage) :
    OutboundMessage :=
  if next.isFailure then
    let reason :=
      clip 1000 ((PyStr.orElse (PyStr.orElse r.errorMessage r.detail) none).getD next.value)
    { m with
      status := .failed
      failureCode := some (clip 120 ((PyStr.orElse r.errorCode none).getD next.value))
      failureReason := some reason
      errorMessage := some reason }
  else
    { m with
      status := .sent, failureCode := none, failureReason := none, errorMessage := none
      sentAt := if next = .sent then some (m.sentAt.getD at') else m.sentAt }

def applyLegacyParentDelivery (ctx : Context) (now : Instant) (r : Receipt)
    (next : DeliveryStatus) (s : Store) : DeliveryResult × Store :=
  match legacyRow r s.messages with
  | none =>
    let reason :=
      if r.outboundMessageId.isNone && !PyStr.truthy r.providerMessageId
      then "delivery_identity_missing" else "outbound_message_not_found"
    (⟨false, reason, none, some next.value, none⟩, s)
  | some (id, m) =>
    match legacyRefusal ctx r next m with
    | some reason => (⟨false, reason, some id, m.deliveryStatus, none⟩, s)
    | none =>
      let at' := r.occurredAt.getD now
      let m' := legacyVerdict at' r next m
      if providerMismatch r m.providerMessageId then
        (⟨false, "provider_message_id_mismatch", some id, m.deliveryStatus, none⟩,
          { s with messages := s.messages.set id m' })
      else
        let m' := { noteReceipt at' r m' with
          providerMessageId :=
            if PyStr.truthy r.providerMessageId then r.providerMessageId
            else m.providerMessageId
          deliveryStatus := some next.value
          deliveryEventType := some next.value
          providerStatus := some ("whatsapp_" ++ r.provider ++ "_" ++ next.value) }
        (⟨true, "delivery_updated", some id, some next.value, none⟩,
          { s with messages := s.messages.set id m' })

def applyWhatsappDelivery (ctx : Context) (now : Instant) (r : Receipt) (s : Store) :
    DeliveryResult × Store :=
  match DeliveryStatus.ofValue r.normalizedStatus with
  | none =>
    (⟨false, "unsupported_delivery_status", none,
      if r.normalizedStatus = "" then none else some r.normalizedStatus, none⟩, s)
  | some next =>
    match resolveOutboundPart r s.parts with
    | some (id, p) => applyPartDelivery ctx now r next id p s
    | none =>
      match r.outboundPartId with
      | some part =>
        (⟨false, "outbound_part_not_found", r.outboundMessageId, some next.value, some part⟩, s)
      | none => applyLegacyParentDelivery ctx now r next s

/-! ## what a receipt does -/

/-- the receipt is applied to the part `p` of the message `m`. -/
structure PartReceipt (ctx : Context) (s : Store) (r : Receipt) (next : DeliveryStatus) (id : ℕ)
    (p : OutboundPart) (m : OutboundMessage) : Prop where
  status : DeliveryStatus.ofValue r.normalizedStatus = some next
  part : resolveOutboundPart r s.parts = some (id, p)
  row : s.messages.get? p.outboundMessageId = some m
  accepted : partRefusal ctx r next p (some m) = none

/-- the receipt is applied to the message `m` past its parts. -/
structure LegacyReceipt (ctx : Context) (s : Store) (r : Receipt) (next : DeliveryStatus) (id : ℕ)
    (m : OutboundMessage) : Prop where
  status : DeliveryStatus.ofValue r.normalizedStatus = some next
  noPart : resolveOutboundPart r s.parts = none
  unnamed : r.outboundPartId = none
  row : legacyRow r s.messages = some (id, m)
  accepted : legacyRefusal ctx r next m = none

def receivedParts (now : Instant) (r : Receipt) (next : DeliveryStatus) (id : ℕ) (p : OutboundPart)
    (parts : Table OutboundPart) : Table OutboundPart :=
  parts.set id (updatePart (r.occurredAt.getD now) r next p)

def receivedParent (now : Instant) (r : Receipt) (next : DeliveryStatus) (id : ℕ)
    (p : OutboundPart) (parts : Table OutboundPart) (m : OutboundMessage) : OutboundMessage :=
  noteReceipt (r.occurredAt.getD now) r
    (aggregateParent now r.provider
      ((partsOf (receivedParts now r next id p parts) p.outboundMessageId).map (·.2)) m).2

variable {r : Receipt} {id : ℕ} {m : OutboundMessage} {ctx : Context} {s : Store}
  {next : DeliveryStatus} {p : OutboundPart}

lemma PartReceipt.apply_eq (h : PartReceipt ctx s r next id p m) (now : Instant) :
    (applyWhatsappDelivery ctx now r s).2 =
      { messages := s.messages.set p.outboundMessageId (receivedParent now r next id p s.parts m)
        parts := receivedParts now r next id p s.parts } := by
  unfold applyWhatsappDelivery
  rw [h.status]
  dsimp only
  rw [h.part]
  dsimp only
  unfold applyPartDelivery
  dsimp only
  rw [h.row, h.accepted]
  rfl

lemma LegacyReceipt.apply_eq (h : LegacyReceipt ctx s r next id m) (now : Instant) :
    ∃ new, new.status = (if next.isFailure then .failed else .sent) ∧
      (applyWhatsappDelivery ctx now r s).2 = { s with messages := s.messages.set id new } := by
  have hstatus : ∀ at', (legacyVerdict at' r next m).status =
      if next.isFailure then .failed else .sent := by
    intro at'
    unfold legacyVerdict
    split <;> rfl
  unfold applyWhatsappDelivery
  rw [h.status]
  dsimp only
  rw [h.noPart]
  dsimp only
  rw [h.unnamed]
  dsimp only
  unfold applyLegacyParentDelivery
  rw [h.row]
  dsimp only
  rw [h.accepted]
  dsimp only
  by_cases hmismatch : providerMismatch r m.providerMessageId = true
  · rw [if_pos hmismatch]
    exact ⟨_, hstatus _, rfl⟩
  · rw [if_neg hmismatch]
    refine ⟨_, ?_, rfl⟩
    exact hstatus _

lemma receipt_cases (ctx : Context) (now : Instant) (r : Receipt) (s : Store) :
    (applyWhatsappDelivery ctx now r s).2 = s ∨
      (∃ next id p m, PartReceipt ctx s r next id p m) ∨
      ∃ next id m, LegacyReceipt ctx s r next id m := by
  cases hstatus : DeliveryStatus.ofValue r.normalizedStatus with
  | none =>
    left
    unfold applyWhatsappDelivery
    rw [hstatus]
  | some next =>
    cases hpart : resolveOutboundPart r s.parts with
    | some found =>
      obtain ⟨id, p⟩ := found
      cases hrow : s.messages.get? p.outboundMessageId with
      | none =>
        left
        unfold applyWhatsappDelivery
        simp only [hstatus, hpart, applyPartDelivery, hrow, partRefusal]
      | some m =>
        cases href : partRefusal ctx r next p (some m) with
        | none => exact Or.inr (Or.inl ⟨next, id, p, m, hstatus, hpart, hrow, href⟩)
        | some reason =>
          left
          unfold applyWhatsappDelivery
          simp only [hstatus, hpart, applyPartDelivery, hrow, href]
    | none =>
      cases hnamed : r.outboundPartId with
      | some part =>
        left
        unfold applyWhatsappDelivery
        simp only [hstatus, hpart, hnamed]
      | none =>
        cases hrow : legacyRow r s.messages with
        | none =>
          left
          unfold applyWhatsappDelivery
          simp only [hstatus, hpart, hnamed, applyLegacyParentDelivery, hrow]
        | some found =>
          obtain ⟨id, m⟩ := found
          cases href : legacyRefusal ctx r next m with
          | none => exact Or.inr (Or.inr ⟨next, id, m, hstatus, hpart, hnamed, hrow, href⟩)
          | some reason =>
            left
            unfold applyWhatsappDelivery
            simp only [hstatus, hpart, hnamed, applyLegacyParentDelivery, hrow, href]

lemma resolveOutboundPart_row {parts : Table OutboundPart}
    (h : resolveOutboundPart r parts = some (id, p)) :
    parts.get? id = some p := by
  have hsel : ∀ q : ℕ → OutboundPart → Bool, (parts.select q).head? = some (id, p) →
      parts.get? id = some p := by
    intro q hq
    exact ((Table.mem_select parts).1 (List.mem_of_mem_head? hq)).1
  have hord : ∀ q : ℕ → OutboundPart → Bool, (parts.ordered inSequence q).head? = some (id, p) →
      parts.get? id = some p := by
    intro q hq
    exact (Table.mem_ordered.1 (List.mem_of_mem_head? hq)).1
  unfold resolveOutboundPart at h
  split at h
  · exact hsel _ h
  · dsimp only at h
    split at h
    · rename_i found hfound
      split at hfound
      · rw [h] at hfound
        exact hsel _ hfound
      · cases hfound
    · cases h
    · exact hord _ h

lemma legacyRow_row {messages : Table OutboundMessage} (h : legacyRow r messages = some (id, m)) :
    messages.get? id = some m := by
  have hsel : ∀ q : ℕ → OutboundMessage → Bool, (messages.select q).head? = some (id, m) →
      messages.get? id = some m := by
    intro q hq
    exact ((Table.mem_select messages).1 (List.mem_of_mem_head? hq)).1
  unfold legacyRow at h
  split at h
  · exact hsel _ h
  · split at h
    · exact hsel _ h
    · cases h

/-! ## runs -/

def pendingDue (lockSeconds : ℤ) (now : Instant) (m : OutboundMessage) : Bool :=
  isExternalOutboundMessage m && m.status == .pending && m.nextRetryAt.all (· ≤ now) &&
    m.lockedAt.all (· < now - seconds lockSeconds)

inductive DeliveryStep where
  | queue (m : OutboundMessage)
  | claim (now : Instant) (id : ℕ) (worker : String)
  | attempt (now : Instant) (id : ℕ) (a : Attempt)
  | receipt (now : Instant) (r : Receipt)

/-- the tickets and attachments, and `outbox_lock_seconds`. -/
structure Env where
  ctx : Context
  lockSeconds : ℤ

def DeliveryStep.apply (env : Env) : DeliveryStep → Store → Store
  | .queue m, s => { s with messages := s.messages.insert { m with status := .pending } }
  | .claim now id worker, s =>
    { s with
      messages := s.messages.modify id fun m =>
        if pendingDue env.lockSeconds now m then
          { m with status := .processing, lockedAt := some now, lockedBy := some worker }
        else m }
  | .attempt now id a, s => WhatsApp.attempt env.ctx now id a s
  | .receipt now r, s => (applyWhatsappDelivery env.ctx now r s).2

def Store.empty : Store := ⟨.empty, .empty⟩

end NexusHelpdesk.WhatsApp
