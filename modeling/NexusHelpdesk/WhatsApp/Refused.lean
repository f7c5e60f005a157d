import NexusHelpdesk.WhatsApp.Sent

/-!
# What a refused receipt leaves behind

A receipt that is refused reports `updated = false` and should leave every row as it was.

* `Rows`: the messages and parts with the columns that only an accepted receipt writes, and the
  connections;
* `Rows.receive`: `apply_whatsapp_delivery` on all of them;
* `apply_refused`: past the parts the verdict is written before the last check, that the receipt
  names the provider's message;
* `HasVerdict`: the message already says what the receipt would write.

`refused_changes_nothing_iff`: **a refused receipt changes nothing, except one for another provider
message past the parts, which leaves its verdict on a message that did not have it.**
-/

namespace NexusHelpdesk.WhatsApp

open Lib Outbound

/-! ## all rows -/

/-- the columns of a message that a receipt writes and does not read. -/
structure MessageNotes where
  deliveryDetail : Option String
  deliveryPayloadJson : Option String
  updatedAt : Instant
deriving DecidableEq, Repr

structure ConnectionStamps where
  lastOutboundAt : Option Instant
  updatedAt : Instant
deriving DecidableEq, Repr

/-- the rows of the three tables; `partsUpdatedAt` is a column of the parts. -/
structure Rows where
  store : Store
  notes : ℕ → MessageNotes
  partsUpdatedAt : ℕ → Instant
  connections : ℕ → ConnectionStamps

/-- what both paths write in the end, after their last check. -/
def Rows.note (now : Instant) (r : Receipt) (payloadJson : String) (result : DeliveryResult)
    (rows : Rows) : Rows where
  store := rows.store
  notes := fun i =>
    if result.outboundMessageId = some i then
      { deliveryDetail :=
          if PyStr.truthy r.detail then r.detail.map (clip 1000) else none
        deliveryPayloadJson := some (clip 12000 payloadJson)
        updatedAt := now }
    else rows.notes i
  partsUpdatedAt := fun i => if result.outboundPartId = some i then now else rows.partsUpdatedAt i
  connections := fun i =>
    if r.connection.id = i then ⟨some (r.occurredAt.getD now), now⟩ else rows.connections i

/-- `apply_whatsapp_delivery` on all rows; `payloadJson` is the payload as `json.dumps` has it. -/
def Rows.receive (ctx : Context) (now : Instant) (r : Receipt) (payloadJson : String)
    (rows : Rows) : DeliveryResult × Rows :=
  let outcome := applyWhatsappDelivery ctx now r rows.store
  let rows' := { rows with store := outcome.2 }
  (outcome.1, if outcome.1.updated then rows'.note now r payloadJson outcome.1 else rows')

/-! ## refusals -/

variable {ctx : Context} {s : Store} {r : Receipt} {next : DeliveryStatus} {id : ℕ}
  {m : OutboundMessage}

lemma PartReceipt.updated {p : OutboundPart} (h : PartReceipt ctx s r next id p m)
    (now : Instant) : (applyWhatsappDelivery ctx now r s).1.updated = true := by
  unfold applyWhatsappDelivery
  rw [h.status]
  dsimp only
  rw [h.part]
  dsimp only
  unfold applyPartDelivery
  dsimp only
  rw [h.row, h.accepted]

/-- the message that a refused receipt has left its verdict on. -/
def judged (now : Instant) (r : Receipt) (next : DeliveryStatus) (id : ℕ) (m : OutboundMessage)
    (s : Store) : Store :=
  { s with messages := s.messages.set id (legacyVerdict (r.occurredAt.getD now) r next m) }

lemma LegacyReceipt.outcome (h : LegacyReceipt ctx s r next id m) (now : Instant) :
    (applyWhatsappDelivery ctx now r s).1.updated = !providerMismatch r m.providerMessageId ∧
      (providerMismatch r m.providerMessageId = true →
        (applyWhatsappDelivery ctx now r s).2 = judged now r next id m s) := by
  unfold applyWhatsappDelivery
  rw [h.status]
  dsimp only
  rw [h.noPart]
  dsimp only
  rw [h.unnamed]
  dsimp only
  unfold applyLegacyParentDelivery
  rw [h.row]
  dsimp only
  rw [h.accepted]
  dsimp only
  cases hm : providerMismatch r m.providerMessageId with
  | true => exact ⟨rfl, fun _ => rfl⟩
  | false => exact ⟨rfl, fun hno => by cases hno⟩

lemma apply_refused {now : Instant} (h : (applyWhatsappDelivery ctx now r s).1.updated = false) :
    (applyWhatsappDelivery ctx now r s).2 = s ∨
      ∃ next id m, LegacyReceipt ctx s r next id m ∧
        providerMismatch r m.providerMessageId = true := by
  rcases receipt_cases ctx now r s with hsame | ⟨next, id, p, m, hpart⟩ | ⟨next, id, m, hlegacy⟩
  · exact Or.inl hsame
  · rw [hpart.updated now] at h
    cases h
  · have hout := (hlegacy.outcome now).1
    rw [h] at hout
    exact Or.inr ⟨next, id, m, hlegacy, by simpa using hout⟩

/-- the message says what the receipt would write: its verdict, with the time it was sent. -/
def HasVerdict (r : Receipt) (next : DeliveryStatus) (m : OutboundMessage) : Prop :=
  if next.isFailure then
    m.status = .failed ∧
      m.failureCode = some (clip 120 ((PyStr.orElse r.errorCode none).getD next.value)) ∧
      m.failureReason = some (clip 1000
        ((PyStr.orElse (PyStr.orElse r.errorMessage r.detail) none).getD next.value)) ∧
      m.errorMessage = m.failureReason
  else
    m.status = .sent ∧ m.failureCode = none ∧ m.failureReason = none ∧ m.errorMessage = none ∧
      (next = .sent → m.sentAt.isSome)

lemma legacyVerdict_eq_iff (at' : Instant) (r : Receipt) (next : DeliveryStatus)
    (m : OutboundMessage) : legacyVerdict at' r next m = m ↔ HasVerdict r next m := by
  obtain ⟨⟩ := m
  unfold legacyVerdict HasVerdict
  by_cases hfail : next.isFailure = true
  · rw [if_pos hfail, if_pos hfail]
    simp only [OutboundMessage.mk.injEq, true_and, and_true]
    constructor
    · rintro ⟨rfl, rfl, rfl, rfl⟩
      exact ⟨rfl, rfl, rfl, rfl⟩
    · rintro ⟨rfl, rfl, rfl, rfl⟩
      exact ⟨rfl, rfl, rfl, rfl⟩
  · rw [if_neg hfail, if_neg hfail]
    simp only [OutboundMessage.mk.injEq, true_and, and_true]
    constructor
    · rintro ⟨hst, herr, hat, hcode, hreason⟩
      refine ⟨hst.symm, hcode.symm, hreason.symm, herr.symm, fun hsent => ?_⟩
      rw [if_pos hsent] at hat
      rw [← hat]
      rfl
    · rintro ⟨rfl, rfl, rfl, rfl, hat⟩
      refine ⟨rfl, rfl, ?_, rfl, rfl⟩
      split
      · rename_i hsent
        obtain ⟨a, rfl⟩ := Option.isSome_iff_exists.1 (hat hsent)
        rfl
      · rfl

lemma judged_eq_iff {now : Instant} (hrow : s.messages.get? id = some m) :
    judged now r next id m s = s ↔ HasVerdict r next m := by
  rw [← legacyVerdict_eq_iff (r.occurredAt.getD now)]
  constructor
  · intro h
    have hget := congrArg (fun s : Store => s.messages.get? id) h
    simp only [judged, Table.get?_set, hrow, if_true, Option.map_some] at hget
    exact Option.some.inj hget
  · intro h
    have hset : s.messages.set id m = s.messages := by
      refine Table.ext_get? rfl fun i => ?_
      rw [Table.get?_set]
      split
      · rename_i hi
        rw [hi, hrow]
        rfl
      · rfl
    unfold judged
    rw [h, hset]

theorem refused_changes_nothing_iff (ctx : Context) (now : Instant) (r : Receipt)
    (payloadJson : String) (rows : Rows) :
    ((rows.receive ctx now r payloadJson).1.updated = false →
        (rows.receive ctx now r payloadJson).2 = rows) ↔
      ∀ next id m, LegacyReceipt ctx rows.store r next id m →
        providerMismatch r m.providerMessageId = true → HasVerdict r next m := by
  have hresult : (rows.receive ctx now r payloadJson).1 =
      (applyWhatsappDelivery ctx now r rows.store).1 := by
    unfold Rows.receive
    generalize applyWhatsappDelivery ctx now r rows.store = outcome
    rfl
  rw [hresult]
  have hrefused : (applyWhatsappDelivery ctx now r rows.store).1.updated = false →
      ((rows.receive ctx now r payloadJson).2 = rows ↔
        (applyWhatsappDelivery ctx now r rows.store).2 = rows.store) := by
    unfold Rows.receive
    generalize applyWhatsappDelivery ctx now r rows.store = outcome
    intro h
    dsimp only
    rw [h, if_neg Bool.false_ne_true]
    constructor
    · exact fun heq => congrArg Rows.store heq
    · intro heq
      rw [heq]
  constructor
  · intro h next id m hlegacy hmismatch
    have hout := hlegacy.outcome now
    have hno : (applyWhatsappDelivery ctx now r rows.store).1.updated = false := by
      rw [hout.1, hmismatch]
      rfl
    have hsame := (hrefused hno).1 (h hno)
    rw [hout.2 hmismatch] at hsame
    exact (judged_eq_iff (legacyRow_row hlegacy.row)).1 hsame
  · intro h hno
    refine (hrefused hno).2 ?_
    rcases apply_refused hno with hsame | ⟨next, id, m, hlegacy, hmismatch⟩
    · exact hsame
    · rw [(hlegacy.outcome now).2 hmismatch]
      exact (judged_eq_iff (legacyRow_row hlegacy.row)).2 (h next id m hlegacy hmismatch)

/-- a message that went out as `wamid.1`, without parts. -/
def sentRows : Rows where
  store := ⟨Table.empty.insert { sampleReply with
    status := .sent, providerMessageId := some "wamid.1", deliveryStatus := some "sent"
    sentAt := some 0 }, .empty⟩
  notes := fun _ => ⟨none, none, 0⟩
  partsUpdatedAt := fun _ => 0
  connections := fun _ => ⟨none, 0⟩

def strayReceipt : Receipt := { sampleReceipt "failed" with providerMessageId := some "wamid.2" }

/-- the receipt is refused, and the message that went out has failed. -/
theorem strayReceipt_fails_message :
    (sentRows.receive sampleEnv.ctx 1 strayReceipt "\x7b\x7d").1 =
        ⟨false, "provider_message_id_mismatch", some 1, some "sent", none⟩ ∧
      (sentRows.receive sampleEnv.ctx 1 strayReceipt "\x7b\x7d").2.store.statusOf 1 =
        some .failed ∧
      ¬ ((sentRows.receive sampleEnv.ctx 1 strayReceipt "\x7b\x7d").1.updated = false →
        (sentRows.receive sampleEnv.ctx 1 strayReceipt "\x7b\x7d").2 = sentRows) := by
  have hresult : (sentRows.receive sampleEnv.ctx 1 strayReceipt "\x7b\x7d").1 =
      ⟨false, "provider_message_id_mismatch", some 1, some "sent", none⟩ := by decide +kernel
  have hstatus : (sentRows.receive sampleEnv.ctx 1 strayReceipt "\x7b\x7d").2.store.statusOf 1 =
      some .failed := by decide +kernel
  refine ⟨hresult, hstatus, fun h => ?_⟩
  rw [h (by rw [hresult])] at hstatus
  exact absurd hstatus (by decide +kernel)

end NexusHelpdesk.WhatsApp
