import NexusHelpdesk.Lib.Batch
import NexusHelpdesk.Outbound.Message

/-!
# WhatsApp messages in parts (`whatsapp_outbound_parts.py`)

One outbound message goes out as an ordered list of provider messages: its text, then each of its
attachments.

* `DeliveryStatus`: the states of a part, with the rank of the successful ones;
* `ensureParts`: the rows of the parts, made at the first attempt;
* `sendParts`: the loop of `dispatch_whatsapp_parts`.  Parts that are out are skipped; the first
  failure ends the attempt;
* `attempt`: one dispatch attempt with `_handle_dispatch_result`;
* `get?_sendParts`, `sendParts_result`: what the loop does to the parts and what it returns;
* `attempt_cases`, `Sending.attempt_eq`: what an attempt does.
-/

namespace NexusHelpdesk.WhatsApp

open Lib Outbound

/-! ## delivery states -/

inductive DeliveryStatus where
  | queued | accepted | sent | delivered | read | failed | expired | revoked
deriving DecidableEq, Repr

namespace DeliveryStatus

def value : DeliveryStatus → String
  | .queued => "queued"
  | .accepted => "accepted"
  | .sent => "sent"
  | .delivered => "delivered"
  | .read => "read"
  | .failed => "failed"
  | .expired => "expired"
  | .revoked => "revoked"

def all : List DeliveryStatus :=
  [.queued, .accepted, .sent, .delivered, .read, .failed, .expired, .revoked]

def ofValue (s : String) : Option DeliveryStatus := all.find? fun d => d.value = s

def rank : DeliveryStatus → Option ℕ
  | .queued => some 0
  | .accepted => some 10
  | .sent => some 20
  | .delivered => some 30
  | .read => some 40
  | .failed | .expired | .revoked => none

def isFailure (s : DeliveryStatus) : Bool := s.rank.isNone

def isOut (s : DeliveryStatus) : Bool := s.rank.any (20 ≤ ·)

end DeliveryStatus

/-! ## rows -/

structure WhatsAppConnection where
  id : ℕ
  tenantId : ℕ
  channelAccountId : ℕ
  transport : String
deriving DecidableEq, Repr

structure OutboundPart where
  tenantId : ℕ
  connectionId : ℕ
  outboundMessageId : ℕ
  attachmentId : Option ℕ
  sequence : ℕ
  status : DeliveryStatus
  providerMessageId : Option String
  sentAt : Option Instant
  deliveredAt : Option Instant
  readAt : Option Instant
  receiptAt : Option Instant
  failureCode : Option String
  failureReason : Option String
deriving DecidableEq, Repr

structure TicketScope where
  tenantId : Option ℕ
  channelAccountId : Option ℕ
deriving DecidableEq, Repr

/-- what the two tables do not hold: the tickets, and the attachments of each message in the order in
which they are sent. -/
structure Context where
  ticket : ℕ → Option TicketScope
  attachments : ℕ → List ℕ

structure Store where
  messages : Table OutboundMessage
  parts : Table OutboundPart

def inScope (ctx : Context) (c : WhatsAppConnection) (m : OutboundMessage) : Bool :=
  (ctx.ticket m.ticketId).any fun t =>
    t.channelAccountId == some c.channelAccountId && t.tenantId == some c.tenantId

abbrev inSequence : ℕ × OutboundPart → ℕ × OutboundPart → Prop :=
  Table.earlier fun p => (p.sequence : ℤ)

def partsOf (parts : Table OutboundPart) (m : ℕ) : List (ℕ × OutboundPart) :=
  parts.ordered inSequence fun _ p => p.outboundMessageId = m

def newPart (c : WhatsAppConnection) (m sequence : ℕ) (attachment : Option ℕ) : OutboundPart where
  tenantId := c.tenantId
  connectionId := c.id
  outboundMessageId := m
  attachmentId := attachment
  sequence := sequence
  status := .queued
  providerMessageId := none
  sentAt := none
  deliveredAt := none
  readAt := none
  receiptAt := none
  failureCode := none
  failureReason := none

/-- insertion of the given parts, numbered from `sequence` on. -/
def insertParts (c : WhatsAppConnection) (m : ℕ) :
    ℕ → List (Option ℕ) → Table OutboundPart → Table OutboundPart
  | _, [], t => t
  | sequence, a :: rest, t =>
    insertParts c m (sequence + 1) rest (t.insert (newPart c m sequence a))

/-- what there is to send: the text, if any, and the attachments. -/
def contents (ctx : Context) (m : ℕ) (body : String) : List (Option ℕ) :=
  (if PyStr.strip body ≠ "" then [none] else []) ++ (ctx.attachments m).map some

def ensureParts (ctx : Context) (c : WhatsAppConnection) (m : ℕ) (body : String)
    (parts : Table OutboundPart) : Except String (Table OutboundPart) :=
  if !(partsOf parts m).isEmpty then
    if (partsOf parts m).any fun p => p.2.connectionId != c.id then
      .error "whatsapp_outbound_part_connection_mismatch"
    else .ok parts
  else if (contents ctx m body).isEmpty then .error "whatsapp_outbound_content_missing"
  else .ok (insertParts c m 0 (contents ctx m body) parts)

/-! ## sending -/

/-- the exceptions the loop catches. -/
inductive SendError where
  | transport (code message : String) (retryable : Bool)
  | attachment (code : String)
  | invalid (code : String)

/-- failure code, reason and whether to retry. -/
def SendError.report : SendError → String × String × Bool
  | .transport code message retryable => (code, message, retryable)
  | .attachment code => (code, code, "storage_read_failed".toList.isSuffixOf code.toList)
  | .invalid code => (code, code, false)

/-- what a transport reports for a part that is out; it raises when the provider gave no message
id. -/
structure Sent where
  providerMessageId : String
  sentAt : Option Instant
  reported : providerMessageId ≠ ""

abbrev SendResult := Except SendError Sent

/-- the part is out and will not be sent again. -/
def OutboundPart.done (p : OutboundPart) : Bool :=
  p.status.isOut && PyStr.truthy p.providerMessageId

def markPartSent (now : Instant) (providerMessageId : String) (sentAt : Option Instant)
    (p : OutboundPart) : OutboundPart :=
  { p with
    status := .sent
    providerMessageId := some providerMessageId
    sentAt := some (sentAt.getD now)
    receiptAt := some (sentAt.getD now)
    failureCode := none
    failureReason := none }

def clip (n : ℕ) (s : String) : String := String.ofList (s.toList.take n)

def markPartFailed (now : Instant) (code reason : String) (p : OutboundPart) : OutboundPart :=
  { p with
    status := .failed
    failureCode := some (clip 120 code)
    failureReason := some (clip 1000 reason)
    receiptAt := some now }

structure PartsDispatchResult where
  ok : Bool
  providerMessageIds : List String
  sentAt : Option Instant
  failureCode : Option String := none
  failureReason : Option String := none
  retryable : Bool := false
deriving DecidableEq, Repr

def latest : List Instant → Option Instant
  | [] => none
  | a :: rest => some (rest.foldl max a)

/-- the loop of `dispatch_whatsapp_parts`. -/
def sendParts (now : Instant) (sends : ℕ → SendResult) :
    List (ℕ × OutboundPart) → List String → List Instant → Table OutboundPart →
      PartsDispatchResult × Table OutboundPart
  | [], ids, ats, t =>
    ({ ok := true, providerMessageIds := ids, sentAt := some ((latest ats).getD now) }, t)
  | (id, p) :: rest, ids, ats, t =>
    if p.done then
      sendParts now sends rest (ids ++ p.providerMessageId.toList) (ats ++ p.sentAt.toList) t
    else
      match sends id with
      | .ok sent =>
        sendParts now sends rest (ids ++ [sent.providerMessageId])
          (ats ++ [sent.sentAt.getD now])
          (t.modify id (markPartSent now sent.providerMessageId sent.sentAt))
      | .error e =>
        ({ ok := false
           providerMessageIds := ids
           sentAt := latest ats
           failureCode := some (clip 120 e.report.1)
           failureReason := some (clip 1000 e.report.2.1)
           retryable := e.report.2.2 },
          t.modify id (markPartFailed now e.report.1 e.report.2.1))

def scopeMismatch : PartsDispatchResult where
  ok := false
  providerMessageIds := []
  sentAt := none
  failureCode := some "whatsapp_outbound_part_scope_mismatch"
  failureReason := some "WhatsApp outbound message does not belong to the selected connection"

/-- `dispatch_whatsapp_parts`; an error is an exception it raises. -/
def dispatchWhatsappParts (ctx : Context) (now : Instant) (c : WhatsAppConnection)
    (sends : ℕ → SendResult) (id : ℕ) (m : OutboundMessage) (parts : Table OutboundPart) :
    Except String (PartsDispatchResult × Table OutboundPart) :=
  if !inScope ctx c m then .ok (scopeMismatch, parts)
  else
    match ensureParts ctx c id m.body parts with
    | .error e => .error e
    | .ok parts => .ok (sendParts now sends (partsOf parts id) [] [] parts)

/-- how an attempt goes: the adapter refuses before it sends anything (disabled, no route, no
connection), or it dispatches the parts over a connection. -/
inductive Attempt where
  | refused (failureCode reason : String) (retryable : Bool)
  | parts (c : WhatsAppConnection) (sends : ℕ → SendResult)

/-- `_failed` of the adapter with `_handle_dispatch_result`. -/
def handleFailure (now : Instant) (code reason : String) (retryable : Bool)
    (m : OutboundMessage) : OutboundMessage :=
  if retryable then markRetry now reason (some code) m else markDead now reason code m

/-- `dispatch_whatsapp_outbound` with `_handle_dispatch_result`, on the result of the parts. -/
def handleParts (now : Instant) (transport : String) (r : PartsDispatchResult)
    (m : OutboundMessage) : OutboundMessage :=
  if r.ok then
    let receipt :=
      if PyStr.strip transport ≠ "" then "whatsapp_" ++ PyStr.strip transport else "whatsapp"
    markSent now (some ("whatsapp_" ++ transport ++ "_parts_sent")) r.sentAt
      (r.providerMessageIds.head?) (some receipt) m
  else
    handleFailure now
      ((PyStr.orElse r.failureCode none).getD "whatsapp_part_dispatch_failed")
      ((PyStr.orElse r.failureReason none).getD "WhatsApp provider part dispatch failed")
      r.retryable m

/-- one attempt at a message that a worker has claimed; an exception is recovered by a retry and
leaves the parts as they were. -/
def attempt (ctx : Context) (now : Instant) (id : ℕ) (a : Attempt) (s : Store) : Store :=
  match s.messages.get? id with
  | none => s
  | some m =>
    if m.status ≠ .processing then s
    else
      match a with
      | .refused code reason retryable =>
        { s with messages := s.messages.set id (handleFailure now code reason retryable m) }
      | .parts c sends =>
        match dispatchWhatsappParts ctx now c sends id m s.parts with
        | .error _ =>
          let retried := markRetry now "Unhandled dispatch exception: ValueError" none m
          { s with messages := s.messages.set id retried }
        | .ok (result, parts) =>
          { messages := s.messages.set id (handleParts now c.transport result m)
            parts := parts }

/-! ## what the loop does to the parts -/

def sendFails (sends : ℕ → SendResult) (x : ℕ × OutboundPart) : Bool :=
  !x.2.done && !(sends x.1).isOk

def failingPart (sends : ℕ → SendResult) (l : List (ℕ × OutboundPart)) : Option ℕ :=
  (l.find? (sendFails sends)).map (·.1)

def reached (sends : ℕ → SendResult) : List (ℕ × OutboundPart) → List (ℕ × OutboundPart)
  | [] => []
  | x :: rest => if sendFails sends x then [x] else x :: reached sends rest

def sendRow (now : Instant) (r : SendResult) (p : OutboundPart) : OutboundPart :=
  if p.done then p
  else
    match r with
    | .ok sent => markPartSent now sent.providerMessageId sent.sentAt p
    | .error e => markPartFailed now e.report.1 e.report.2.1 p

lemma sendRow_keeps (now : Instant) (r : SendResult) (p : OutboundPart) :
    (sendRow now r p).outboundMessageId = p.outboundMessageId ∧
      (sendRow now r p).sequence = p.sequence := by
  unfold sendRow
  split
  · exact ⟨rfl, rfl⟩
  · cases r <;> exact ⟨rfl, rfl⟩

variable {sends : ℕ → SendResult} {l : List (ℕ × OutboundPart)} {j m : ℕ} {p : OutboundPart}
  {parts : Table OutboundPart} {now : Instant} {x : ℕ × OutboundPart} {i : ℕ} {ctx : Context}
  {c : WhatsAppConnection}

lemma sendRow_done (h : sendFails sends x = false) : (sendRow now (sends x.1) x.2).done = true := by
  unfold sendRow
  by_cases hdone : x.2.done = true
  · rw [if_pos hdone]
    exact hdone
  · rw [if_neg hdone]
    cases hs : sends x.1 with
    | ok sent =>
      simp [OutboundPart.done, markPartSent, DeliveryStatus.isOut, DeliveryStatus.rank,
        PyStr.truthy, sent.reported]
    | error e => simp [sendFails, hdone, hs, Except.isOk, Except.toBool] at h

lemma sendRow_failed (now : Instant) (h : sendFails sends x = true) :
    (sendRow now (sends x.1) x.2).status = .failed := by
  unfold sendRow
  simp only [sendFails, Bool.and_eq_true] at h
  rw [if_neg (by simpa using h.1)]
  cases hs : sends x.1 with
  | ok sent => simp [hs, Except.isOk, Except.toBool] at h
  | error e => rfl

lemma reached_subset (sends : ℕ → SendResult) (l : List (ℕ × OutboundPart)) :
    reached sends l ⊆ l := by
  induction l with
  | nil => exact List.Subset.refl _
  | cons x rest ih =>
    unfold reached
    split
    · intro y hy
      rw [List.mem_singleton] at hy
      subst hy
      exact List.mem_cons_self ..
    · exact List.cons_subset_cons x ih

lemma reached_eq_of_none (h : failingPart sends l = none) : reached sends l = l := by
  induction l with
  | nil => rfl
  | cons x rest ih =>
    unfold failingPart at h ih
    rw [List.find?_cons] at h
    unfold reached
    split at h
    · cases h
    · rename_i hx
      rw [if_neg (by simp [hx]), ih h]

lemma reached_split (h : failingPart sends l = some i) :
    ∃ p pre post, l = pre ++ (i, p) :: post ∧ reached sends l = pre ++ [(i, p)] ∧
      sendFails sends (i, p) = true ∧ ∀ x ∈ pre, sendFails sends x = false := by
  induction l with
  | nil => cases h
  | cons x rest ih =>
    unfold failingPart at h ih
    rw [List.find?_cons] at h
    unfold reached
    split at h
    · rename_i hx
      simp only [Option.map_some, Option.some.injEq] at h
      subst h
      refine ⟨x.2, [], rest, rfl, ?_, hx, ?_⟩
      · rw [if_pos hx]
        rfl
      · intro y hy
        cases hy
    · rename_i hx
      obtain ⟨p, pre, post, hl, hr, hp, hpre⟩ := ih h
      refine ⟨p, x :: pre, post, by rw [hl]; rfl, ?_, hp, ?_⟩
      · rw [if_neg (by simp [hx]), hr]
        rfl
      · intro y hy
        rcases List.mem_cons.1 hy with rfl | hy
        · exact hx
        · exact hpre y hy

lemma get?_sendParts (now : Instant) (sends : ℕ → SendResult) (l : List (ℕ × OutboundPart))
    (ids : List String) (ats : List Instant) (t : Table OutboundPart)
    (hnodup : (l.map (·.1)).Nodup) (hrows : ∀ x ∈ l, t.get? x.1 = some x.2) (j : ℕ) :
    (sendParts now sends l ids ats t).2.get? j =
      if j ∈ (reached sends l).map (·.1) then (t.get? j).map (sendRow now (sends j))
      else t.get? j := by
  induction l generalizing ids ats t with
  | nil => simp [sendParts, reached]
  | cons x rest ih =>
    obtain ⟨id, p⟩ := x
    obtain ⟨hid, hrest⟩ := List.nodup_cons.1 hnodup
    have hget : t.get? id = some p := hrows (id, p) (List.mem_cons_self ..)
    have hid' : id ∉ (reached sends rest).map (·.1) := by
      intro hmem
      obtain ⟨y, hy, hyid⟩ := List.mem_map.1 hmem
      exact hid (List.mem_map.2 ⟨y, reached_subset sends rest hy, hyid⟩)
    have htail : ∀ f : OutboundPart → OutboundPart, ∀ y ∈ rest, (t.modify id f).get? y.1 = some y.2 := by
      intro f y hy
      have hne : y.1 ≠ id := by
        intro heq
        exact hid (List.mem_map.2 ⟨y, hy, heq⟩)
      rw [Table.get?_modify_of_ne _ _ hne]
      exact hrows y (List.mem_cons_of_mem _ hy)
    -- the head is sent now (or skipped), then the loop goes on
    have hgo : ∀ f : OutboundPart → OutboundPart, f p = sendRow now (sends id) p →
        sendFails sends (id, p) = false → ∀ ids ats,
        (sendParts now sends rest ids ats (t.modify id f)).2.get? j =
          if j ∈ (reached sends ((id, p) :: rest)).map (·.1)
          then (t.get? j).map (sendRow now (sends j)) else t.get? j := by
      intro f hf hok ids ats
      rw [ih ids ats (t.modify id f) hrest (htail f)]
      have hreach : reached sends ((id, p) :: rest) = (id, p) :: reached sends rest := by
        rw [reached, if_neg (by simp [hok])]
      rw [hreach, List.map_cons]
      by_cases hj : j = id
      · subst hj
        rw [if_neg hid', if_pos (List.mem_cons_self ..), Table.get?_modify_self, hget]
        exact congrArg some hf
      · rw [Table.get?_modify_of_ne _ _ hj]
        simp only [List.mem_cons, hj, false_or]
    unfold sendParts
    by_cases hdone : p.done = true
    · rw [if_pos hdone]
      have hself : t.modify id (fun q => q) = t := by
        apply Table.ext_get?
        · rfl
        · intro k
          rw [Table.get?_modify]
          split <;> simp
      have hskip := hgo (fun q => q) (by simp [sendRow, hdone]) (by simp [sendFails, hdone])
        (ids ++ p.providerMessageId.toList) (ats ++ p.sentAt.toList)
      rw [hself] at hskip
      exact hskip
    · rw [if_neg hdone]
      cases hs : sends id with
      | ok sent =>
        exact hgo _ (by simp [sendRow, hdone, hs])
          (by simp [sendFails, hs, Except.isOk, Except.toBool]) _ _
      | error e =>
        have hfail : sendFails sends (id, p) = true := by
          simp [sendFails, hdone, hs, Except.isOk, Except.toBool]
        dsimp only
        rw [reached, if_pos hfail, Table.get?_modify]
        by_cases hj : j = id
        · subst hj
          simp [hget, sendRow, hdone, hs]
        · simp [hj]

/-- the result of the loop: it succeeds if no send fails, and else reports the error of the part at
which it stopped. -/
lemma sendParts_result (now : Instant) (sends : ℕ → SendResult) (l : List (ℕ × OutboundPart))
    (ids : List String) (ats : List Instant) (t : Table OutboundPart) :
    (sendParts now sends l ids ats t).1.ok = (failingPart sends l).isNone := by
  induction l generalizing ids ats t with
  | nil => rfl
  | cons x rest ih =>
    obtain ⟨id, p⟩ := x
    unfold sendParts failingPart
    rw [List.find?_cons]
    by_cases hdone : p.done = true
    · have hok : sendFails sends (id, p) = false := by simp [sendFails, hdone]
      rw [if_pos hdone, hok]
      exact ih _ _ _
    · rw [if_neg hdone]
      cases hs : sends id with
      | ok sent =>
        have hok : sendFails sends (id, p) = false := by
          simp [sendFails, hs, Except.isOk, Except.toBool]
        rw [hok]
        exact ih _ _ _
      | error e =>
        have hfail : sendFails sends (id, p) = true := by
          simp [sendFails, hdone, hs, Except.isOk, Except.toBool]
        rw [hfail]
        rfl

lemma sendParts_retryable (now : Instant) {e : SendError} (hfail : failingPart sends l = some i)
    (he : sends i = .error e) (ids : List String) (ats : List Instant) (t : Table OutboundPart) :
    (sendParts now sends l ids ats t).1.retryable = e.report.2.2 := by
  induction l generalizing ids ats t with
  | nil => cases hfail
  | cons x rest ih =>
    obtain ⟨id, p⟩ := x
    unfold sendParts
    unfold failingPart at hfail ih
    rw [List.find?_cons] at hfail
    by_cases hdone : p.done = true
    · have hok : sendFails sends (id, p) = false := by simp [sendFails, hdone]
      rw [hok] at hfail
      rw [if_pos hdone]
      exact ih hfail _ _ _
    · rw [if_neg hdone]
      cases hs : sends id with
      | ok sent =>
        have hok : sendFails sends (id, p) = false := by
          simp [sendFails, hs, Except.isOk, Except.toBool]
        rw [hok] at hfail
        exact ih hfail _ _ _
      | error e' =>
        have hfails : sendFails sends (id, p) = true := by
          simp [sendFails, hdone, hs, Except.isOk, Except.toBool]
        rw [hfails] at hfail
        simp only [Option.map_some, Option.some.injEq] at hfail
        subst hfail
        rw [he] at hs
        cases hs
        rfl

/-! ## the rows an attempt makes -/

lemma get?_insertParts_old (c : WhatsAppConnection) (m : ℕ) (contents : List (Option ℕ))
    (sequence : ℕ) (t : Table OutboundPart) (h : t.get? j = some p) :
    (insertParts c m sequence contents t).get? j = some p := by
  induction contents generalizing sequence t with
  | nil => exact h
  | cons a rest ih => exact ih _ _ (Table.get?_insert_of_some _ h)

lemma get?_insertParts_new (c : WhatsAppConnection) (m : ℕ) (contents : List (Option ℕ))
    (sequence : ℕ) (t : Table OutboundPart)
    (h : (insertParts c m sequence contents t).get? j = some p) :
    t.get? j = some p ∨ p.outboundMessageId = m := by
  induction contents generalizing sequence t with
  | nil => exact Or.inl h
  | cons a rest ih =>
    rcases ih _ _ h with hold | hnew
    · rw [Table.get?_insert] at hold
      split at hold
      · cases hold
        exact Or.inr rfl
      · exact Or.inl hold
    · exact Or.inr hnew

lemma ensureParts_frame {body : String} {parts' : Table OutboundPart}
    (h : ensureParts ctx c m body parts = .ok parts') (j : ℕ) (p : OutboundPart)
    (hp : p.outboundMessageId ≠ m) :
    parts'.get? j = some p ↔ parts.get? j = some p := by
  unfold ensureParts at h
  split at h
  · split at h
    · cases h
    · cases h
      exact Iff.rfl
  · split at h
    · cases h
    · cases h
      constructor
      · intro hj
        rcases get?_insertParts_new c m _ 0 parts hj with hold | hnew
        · exact hold
        · exact absurd hnew hp
      · exact get?_insertParts_old c m _ 0 parts

lemma mem_partsOf :
    (j, p) ∈ partsOf parts m ↔ parts.get? j = some p ∧ p.outboundMessageId = m := by
  unfold partsOf
  rw [Table.mem_ordered, decide_eq_true_eq]

lemma get?_sendParts_partsOf (now : Instant) (sends : ℕ → SendResult)
    (parts : Table OutboundPart) (m j : ℕ) :
    (sendParts now sends (partsOf parts m) [] [] parts).2.get? j =
      if j ∈ (reached sends (partsOf parts m)).map (·.1)
      then (parts.get? j).map (sendRow now (sends j)) else parts.get? j := by
  apply get?_sendParts
  · exact Table.nodup_keys_ordered
  · intro x hx
    exact (mem_partsOf.1 hx).1

lemma sendParts_row {p' : OutboundPart}
    (h : (sendParts now sends (partsOf parts m) [] [] parts).2.get? j = some p') :
    ∃ p, parts.get? j = some p ∧ p'.outboundMessageId = p.outboundMessageId ∧
      p'.sequence = p.sequence ∧
      ((j, p) ∈ reached sends (partsOf parts m) ∧ p' = sendRow now (sends j) p ∨
        (j, p) ∉ reached sends (partsOf parts m) ∧ p' = p) := by
  rw [get?_sendParts_partsOf] at h
  split at h
  · rename_i hmem
    obtain ⟨p, hp, rfl⟩ := Option.map_eq_some_iff.1 h
    have hkeep := sendRow_keeps now (sends j) p
    refine ⟨p, hp, hkeep.1, hkeep.2, Or.inl ⟨?_, rfl⟩⟩
    obtain ⟨x, hx, rfl⟩ := List.mem_map.1 hmem
    have hrow := (mem_partsOf.1 (reached_subset sends _ hx)).1
    rw [hp] at hrow
    cases hrow
    exact hx
  · rename_i hmem
    refine ⟨p', h, rfl, rfl, Or.inr ⟨?_, rfl⟩⟩
    intro hin
    exact hmem (List.mem_map.2 ⟨(j, p'), hin, rfl⟩)

lemma sendParts_frame (now : Instant) (sends : ℕ → SendResult) (parts : Table OutboundPart)
    (m j : ℕ) (p : OutboundPart) (hp : p.outboundMessageId ≠ m) :
    (sendParts now sends (partsOf parts m) [] [] parts).2.get? j = some p ↔
      parts.get? j = some p := by
  constructor
  · intro h
    obtain ⟨q, hq, hmsg, -, ⟨hmem, -⟩ | ⟨-, rfl⟩⟩ := sendParts_row h
    · have hin := (mem_partsOf.1 (reached_subset sends _ hmem)).2
      rw [hin] at hmsg
      exact absurd hmsg hp
    · exact hq
  · intro h
    rw [get?_sendParts_partsOf, if_neg]
    · exact h
    · intro hmem
      obtain ⟨x, hx, rfl⟩ := List.mem_map.1 hmem
      obtain ⟨hrow, hmsg⟩ := mem_partsOf.1 (reached_subset sends _ hx)
      rw [h] at hrow
      cases hrow
      exact hp hmsg

/-! ## what an attempt does -/

/-- the attempt comes to its sends: the message is claimed and in scope, and its parts are `parts₀`. -/
structure Sending (ctx : Context) (s : Store) (id : ℕ) (c : WhatsAppConnection)
    (m : OutboundMessage) (parts₀ : Table OutboundPart) : Prop where
  row : s.messages.get? id = some m
  claimed : m.status = .processing
  scope : inScope ctx c m = true
  parts : ensureParts ctx c id m.body s.parts = .ok parts₀

lemma Sending.attempt_eq {s : Store} {id : ℕ} {m : OutboundMessage} {parts₀ : Table OutboundPart}
    (h : Sending ctx s id c m parts₀) (now : Instant) (sends : ℕ → SendResult) :
    attempt ctx now id (.parts c sends) s =
      { messages := s.messages.set id (handleParts now c.transport
          (sendParts now sends (partsOf parts₀ id) [] [] parts₀).1 m)
        parts := (sendParts now sends (partsOf parts₀ id) [] [] parts₀).2 } := by
  simp [attempt, h.row, h.claimed, dispatchWhatsappParts, h.scope, h.parts]

lemma markRetry_not_sent (now : Instant) (reason : String) (code : Option String)
    (m : OutboundMessage) : (markRetry now reason code m).status ≠ .sent := by
  unfold markRetry
  dsimp only
  split <;> simp

lemma handleFailure_not_sent (now : Instant) (code reason : String) (retryable : Bool)
    (m : OutboundMessage) : (handleFailure now code reason retryable m).status ≠ .sent := by
  unfold handleFailure
  split
  · exact markRetry_not_sent now reason (some code) m
  · simp [markDead]

lemma handleParts_not_sent (now : Instant) (transport : String) {r : PartsDispatchResult}
    (h : r.ok = false) (m : OutboundMessage) : (handleParts now transport r m).status ≠ .sent := by
  unfold handleParts
  rw [h, if_neg Bool.false_ne_true]
  exact handleFailure_not_sent now _ _ _ m

/-- an attempt does nothing, or writes a message that is not sent, or comes to its sends. -/
lemma attempt_cases (ctx : Context) (now : Instant) (id : ℕ) (a : Attempt) (s : Store) :
    attempt ctx now id a s = s ∨
      (∃ new, new.status ≠ .sent ∧
        attempt ctx now id a s = { s with messages := s.messages.set id new }) ∨
      ∃ c sends m parts₀, a = .parts c sends ∧ Sending ctx s id c m parts₀ := by
  cases hrow : s.messages.get? id with
  | none =>
    left
    simp [attempt, hrow]
  | some m =>
    by_cases hst : m.status = .processing
    · cases a with
      | refused code reason retryable =>
        right; left
        refine ⟨_, handleFailure_not_sent now code reason retryable m, ?_⟩
        simp [attempt, hrow, hst]
      | parts c sends =>
        by_cases hscope : inScope ctx c m = true
        · cases hparts : ensureParts ctx c id m.body s.parts with
          | error e =>
            right; left
            refine ⟨_, markRetry_not_sent now "Unhandled dispatch exception: ValueError" none m, ?_⟩
            simp [attempt, hrow, hst, dispatchWhatsappParts, hscope, hparts]
          | ok parts₀ =>
            right; right
            exact ⟨c, sends, m, parts₀, rfl, hrow, hst, hscope, hparts⟩
        · right; left
          have hout : dispatchWhatsappParts ctx now c sends id m s.parts =
              .ok (scopeMismatch, s.parts) := by
            unfold dispatchWhatsappParts
            rw [if_pos (by simpa using hscope)]
          refine ⟨handleParts now c.transport scopeMismatch m, ?_, ?_⟩
          · exact handleParts_not_sent now c.transport rfl m
          · simp only [attempt, hrow, hst, ne_eq, not_true_eq_false, if_false, hout]
    · left
      simp [attempt, hrow, hst]

lemma attempt_frame (ctx : Context) (now : Instant) (id : ℕ) (a : Attempt) (s : Store)
    (hm : m ≠ id) :
    (attempt ctx now id a s).messages.get? m = s.messages.get? m ∧
      ∀ j p, p.outboundMessageId = m →
        ((attempt ctx now id a s).parts.get? j = some p ↔ s.parts.get? j = some p) := by
  rcases attempt_cases ctx now id a s with hnone | ⟨new, -, heq⟩ |
    ⟨c, sends, row, parts₀, rfl, hsend⟩
  · rw [hnone]
    exact ⟨rfl, fun j p _ => Iff.rfl⟩
  · rw [heq]
    exact ⟨Table.get?_modify_of_ne _ _ hm, fun j p _ => Iff.rfl⟩
  · rw [hsend.attempt_eq]
    refine ⟨Table.get?_modify_of_ne _ _ hm, ?_⟩
    intro j p hp
    have hother : p.outboundMessageId ≠ id := by
      rw [hp]
      exact hm
    exact (sendParts_frame now sends parts₀ id j p hother).trans
      (ensureParts_frame hsend.parts j p hother)

end NexusHelpdesk.WhatsApp
