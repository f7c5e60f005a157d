import NexusHelpdesk.Desk.Basic

/-!
# Delivery receipts of e-mails (`email_delivery_receipt_service.py`)

A receipt overwrites the delivery columns of its message and the status that the outbox owns.  The
checks of the ticket, the actor and the channel come first and write nothing.

* `Receipt`: the fields of `EmailDeliveryReceiptRequest`, stripped and bounded by its validators;
* `record`: the rest of `record_email_delivery_receipt`, with the answer `created`;
* `recordAll_last`: the receipt recorded last, or the message before, decides on the outcome;
* `Settles`: the latest receipt decides, a repetition changes nothing, a waiting message waits on;
* `settles_iff`: **exactly if the last receipt says what the latest says, receipts are repeated at
  once only, and a waiting message gets none**.
-/

namespace NexusHelpdesk.Email

/-! ## the code -/

inductive DeliveryStatus where
  | accepted | delivered | opened | deferred | bounced | failed | rejected | complained
deriving DecidableEq, Repr

def DeliveryStatus.value : DeliveryStatus → String
  | .accepted => "accepted"
  | .delivered => "delivered"
  | .opened => "opened"
  | .deferred => "deferred"
  | .bounced => "bounced"
  | .failed => "failed"
  | .rejected => "rejected"
  | .complained => "complained"

/-- in `SUCCESS_STATUSES`; the others but `deferred` are `FINAL_FAILURE_STATUSES`. -/
def DeliveryStatus.isSuccess : DeliveryStatus → Bool
  | .accepted | .delivered | .opened => true
  | _ => false

def messageStatusForReceipt (s : DeliveryStatus) : MessageStatus :=
  if s.isSuccess then .sent else if s = .deferred then .failed else .dead

def clip (value : Option String) (limit : ℕ) : Option String :=
  let text := PyStr.strip (value.getD "")
  if text = "" then none else some (String.ofList (text.toList.take limit))

structure Receipt where
  deliveryStatus : DeliveryStatus
  provider : String := "manual"
  providerEventType : Option String := none
  providerEventId : Option String := none
  providerStatus : Option String := none
  providerMessageId : Option String := none
  detail : Option String := none
  failureCode : Option String := none
  failureReason : Option String := none
  occurredAt : Option Instant := none
  valid : ∀ id ∈ providerEventId, PyStr.strip id = id ∧ id.length ≤ 255

/-- the columns of `TicketOutboundMessage` that a receipt writes. -/
structure EmailMessage where
  status : MessageStatus
  providerStatus : Option String := none
  providerMessageId : Option String := none
  deliveryStatus : Option DeliveryStatus := none
  deliveryEventType : Option String := none
  deliveryReceiptProvider : Option String := none
  deliveryReceiptId : Option String := none
  deliveryReceiptAt : Option Instant := none
  deliveryDetail : Option String := none
  failureCode : Option String := none
  failureReason : Option String := none
  sentAt : Option Instant := none
  updatedAt : Instant := 0
deriving DecidableEq

/-- `_clip(payload.provider, 80) or "manual"`. -/
def Receipt.providerName (p : Receipt) : String := (clip (some p.provider) 80).getD "manual"

def existingReceipt (m : EmailMessage) (p : Receipt) : Bool :=
  match clip p.providerEventId 255 with
  | none => false
  | some receiptId => m.deliveryReceiptId = some receiptId &&
      m.deliveryReceiptProvider = some p.providerName && m.deliveryStatus = some p.deliveryStatus

def Receipt.failureCodeText (p : Receipt) : Option String :=
  if p.deliveryStatus.isSuccess then none
  else some ((clip p.failureCode 120).getD p.deliveryStatus.value)

def Receipt.failureReasonText (p : Receipt) : Option String :=
  if p.deliveryStatus.isSuccess then none
  else some ((clip (PyStr.orElse p.failureReason p.detail) 2000).getD
    ("Email delivery receipt marked " ++ p.deliveryStatus.value))

def record (now : Instant) (m : EmailMessage) (p : Receipt) : EmailMessage × Bool :=
  if existingReceipt m p then (m, false)
  else
    let occurredAt := p.occurredAt.getD now
    ({ status := messageStatusForReceipt p.deliveryStatus
       providerStatus := some ((clip p.providerStatus 120).getD
         ("receipt:" ++ p.deliveryStatus.value))
       providerMessageId := if PyStr.truthy p.providerMessageId then clip p.providerMessageId 255
         else m.providerMessageId
       deliveryStatus := some p.deliveryStatus
       deliveryEventType := some ((clip p.providerEventType 80).getD p.deliveryStatus.value)
       deliveryReceiptProvider := some p.providerName
       deliveryReceiptId := clip p.providerEventId 255
       deliveryReceiptAt := some occurredAt
       deliveryDetail := clip (PyStr.orElse p.detail p.failureReason) 2000
       failureCode := p.failureCodeText
       failureReason := p.failureReasonText
       sentAt := if p.deliveryStatus.isSuccess then some (m.sentAt.getD occurredAt) else m.sentAt
       updatedAt := now }, true)

/-! ## the property -/

/-- receipts with the times at which they are recorded, in this order. -/
def recordAll (m : EmailMessage) (l : List (Instant × Receipt)) : EmailMessage :=
  l.foldl (fun m x => (record x.1 m x.2).1) m

/-- in the dispatch queue: `claim_pending_messages` has it before it, or has it in hand. -/
def EmailMessage.queued (m : EmailMessage) : Bool := m.status = .pending || m.status = .processing

def EmailMessage.handedOver (m : EmailMessage) : Bool :=
  m.status = .sent || m.status = .failed || m.status = .dead

abbrev Outcome := MessageStatus × Option DeliveryStatus × Option String × Option String

def EmailMessage.outcome (m : EmailMessage) : Outcome :=
  (m.status, m.deliveryStatus, m.failureCode, m.failureReason)

def Receipt.outcome (p : Receipt) : Outcome :=
  (messageStatusForReceipt p.deliveryStatus, some p.deliveryStatus, p.failureCodeText,
    p.failureReasonText)

structure Distinct (l : List (Instant × Receipt)) : Prop where
  named : ∀ x ∈ l, ∃ id, x.2.providerEventId = some id ∧ id ≠ ""
  ids : ∀ x ∈ l, ∀ y ∈ l, x.2.providerEventId = y.2.providerEventId → x.2 = y.2
  timed : ∀ x ∈ l, x.2.occurredAt.isSome = true
  times : ∀ x ∈ l, ∀ y ∈ l, x.2.occurredAt = y.2.occurredAt → x.2 = y.2

def IsLatest (p : Receipt) (l : List (Instant × Receipt)) : Prop :=
  (∃ x ∈ l, x.2 = p) ∧ ∀ x ∈ l, ∀ s ∈ x.2.occurredAt, ∀ t ∈ p.occurredAt, s ≤ t

structure Settles (m : EmailMessage) (l : List (Instant × Receipt)) : Prop where
  latest : m.handedOver = true → ∀ p, IsLatest p l → (recordAll m l).outcome = p.outcome
  repeated : m.handedOver = true → ∀ xs t q ys t' zs, l = xs ++ (t, q) :: ys ++ (t', q) :: zs →
    record t' (recordAll m (xs ++ (t, q) :: ys)) q = (recordAll m (xs ++ (t, q) :: ys), false)
  waits : ∀ xs x zs, l = xs ++ x :: zs → (recordAll m xs).queued = true →
    (recordAll m (xs ++ [x])).queued = true

/-- what the receipt recorded last says, or the message if it shows all of them already. -/
def lastSaid (m : EmailMessage) (l : List (Instant × Receipt)) : Outcome :=
  match l.getLast? with
  | some x => if l.all (existingReceipt m ·.2) then m.outcome else x.2.outcome
  | none => m.outcome

structure Undisturbed (m : EmailMessage) (l : List (Instant × Receipt)) : Prop where
  inOrder : m.handedOver = true → ∀ p, IsLatest p l → lastSaid m l = p.outcome
  adjacent : m.handedOver = true → ∀ xs t q ys t' zs, l = xs ++ (t, q) :: ys ++ (t', q) :: zs →
    ∀ y ∈ ys, y.2 = q
  spared : m.queued = true → ∀ x ∈ l, existingReceipt m x.2 = true

/-! ## one receipt -/

section Receipts
variable {m : EmailMessage} {p : Receipt} {l xs : List (Instant × Receipt)}
  {x y : Instant × Receipt} {id : String} {now : Instant} {q : Receipt} {t : Instant}

lemma clip_eventId (hid : p.providerEventId = some id) (hne : id ≠ "") :
    clip p.providerEventId 255 = some id := by
  obtain ⟨hstrip, hlength⟩ := p.valid id hid
  have htake : id.toList.take 255 = id.toList :=
    List.take_of_length_le (String.length_toList.trans_le hlength)
  unfold clip
  rw [hid, Option.getD_some, hstrip]
  dsimp only
  rw [if_neg hne, htake, String.ofList_toList]

lemma existing_iff (hid : p.providerEventId = some id) (hne : id ≠ "") :
    existingReceipt m p = true ↔ m.deliveryReceiptId = some id ∧
      m.deliveryReceiptProvider = some p.providerName ∧
      m.deliveryStatus = some p.deliveryStatus := by
  unfold existingReceipt
  rw [clip_eventId hid hne]
  simp [and_assoc]

lemma record_existing (h : existingReceipt m p = true) :
    record now m p = (m, false) := by
  unfold record
  rw [if_pos h]

lemma existing_of_record (h : record now m p = (m, false)) :
    existingReceipt m p = true := by
  by_contra hnew
  have hcreated := congrArg Prod.snd h
  unfold record at hcreated
  rw [if_neg hnew] at hcreated
  cases hcreated

lemma existing_record (now : Instant) (hid : p.providerEventId = some id) (hne : id ≠ "") :
    existingReceipt (record now m p).1 p = true := by
  by_cases h : existingReceipt m p = true
  · rw [record_existing h]
    exact h
  · rw [existing_iff hid hne]
    unfold record
    rw [if_neg h]
    exact ⟨clip_eventId hid hne, rfl, rfl⟩

lemma outcome_record (h : ¬existingReceipt m p = true) :
    (record now m p).1.outcome = p.outcome := by
  unfold record
  rw [if_neg h]
  rfl

lemma messageStatusForReceipt_ne (s : DeliveryStatus) :
    messageStatusForReceipt s ≠ .pending ∧ messageStatusForReceipt s ≠ .processing := by
  cases s <;> decide

lemma queued_record (h : (record now m p).1.queued = true) :
    existingReceipt m p = true := by
  by_contra hnew
  obtain ⟨hpending, hprocessing⟩ := messageStatusForReceipt_ne p.deliveryStatus
  unfold record at h
  rw [if_neg hnew] at h
  simp [EmailMessage.queued, hpending, hprocessing] at h

/-! ## runs -/

lemma recordAll_append : recordAll m (xs ++ [x]) = (record x.1 (recordAll m xs) x.2).1 := by
  unfold recordAll
  rw [List.foldl_append]
  rfl

lemma recordAll_existing (h : ∀ x ∈ l, existingReceipt m x.2 = true) : recordAll m l = m := by
  induction l with
  | nil => rfl
  | cons x l ih =>
    show recordAll (record x.1 m x.2).1 l = m
    rw [record_existing (h x (List.mem_cons_self ..))]
    exact ih fun y hy => h y (List.mem_cons_of_mem _ hy)

lemma queued_recordAll (h : (recordAll m l).queued = true) : m.queued = true := by
  induction l using List.reverseRecOn with
  | nil => exact h
  | append_singleton xs x ih =>
    rw [recordAll_append] at h
    rw [record_existing (queued_record h)] at h
    exact ih h

lemma Distinct.same (hl : Distinct l) (hx : x ∈ l) (hy : y ∈ l)
    (hex : existingReceipt m x.2 = true) (hey : existingReceipt m y.2 = true) : x.2 = y.2 := by
  obtain ⟨id, hid, hne⟩ := hl.named x hx
  obtain ⟨id', hid', hne'⟩ := hl.named y hy
  have hsame : some id = some id' := by
    rw [← ((existing_iff hid hne).1 hex).1, ((existing_iff hid' hne').1 hey).1]
  exact hl.ids x hx y hy (by rw [hid, hid', hsame])

lemma Distinct.existing_last (hl : Distinct l) (hx : x ∈ l) :
    existingReceipt (recordAll m (xs ++ [x])) x.2 = true := by
  obtain ⟨id, hid, hne⟩ := hl.named x hx
  rw [recordAll_append]
  exact existing_record x.1 hid hne

lemma recordAll_last (hl : Distinct l) (hsub : xs ++ [x] ⊆ l) :
    (∀ y ∈ xs ++ [x], existingReceipt m y.2 = true) ∨
      (recordAll m (xs ++ [x])).outcome = x.2.outcome := by
  induction xs using List.reverseRecOn generalizing x with
  | nil =>
    by_cases hex : existingReceipt m x.2 = true
    · left
      intro y hy
      rw [List.mem_singleton.1 hy]
      exact hex
    · exact .inr (outcome_record hex)
  | append_singleton xs w ih =>
    have hx : x ∈ l := hsub (List.mem_append_right _ (List.mem_singleton_self _))
    have hw : w ∈ l := hsub (List.mem_append_left _ (List.mem_append_right _
      (List.mem_singleton_self _)))
    have hlast := ih (List.append_subset.1 hsub).1
    by_cases hex : existingReceipt (recordAll m (xs ++ [w])) x.2 = true
    · have hsame := hl.same hx hw hex (hl.existing_last hw)
      rcases hlast with hall | hout
      · left
        intro y hy
        rcases List.mem_append.1 hy with hy | hy
        · exact hall y hy
        · rw [List.mem_singleton.1 hy, hsame]
          exact hall w (List.mem_append_right _ (List.mem_singleton_self _))
      · right
        rw [recordAll_append, record_existing hex, hsame]
        exact hout
    · right
      rw [recordAll_append]
      exact outcome_record hex

theorem outcome_recordAll (hl : Distinct l) : (recordAll m l).outcome = lastSaid m l := by
  unfold lastSaid
  rcases List.eq_nil_or_concat l with rfl | ⟨xs, x, rfl⟩
  · rfl
  · rw [List.concat_eq_append] at hl ⊢
    rw [List.getLast?_concat]
    dsimp only
    by_cases hall : ∀ y ∈ xs ++ [x], existingReceipt m y.2 = true
    · rw [if_pos (List.all_eq_true.2 hall), recordAll_existing hall]
    · rw [if_neg fun h => hall (List.all_eq_true.1 h)]
      exact (recordAll_last hl (List.Subset.refl _)).resolve_left hall

lemma record_repeated {ys : List (Instant × Receipt)} (t' : Instant) (hl : Distinct l)
    (hq : (t, q) ∈ l) (hadjacent : ∀ y ∈ ys, y.2 = q) :
    record t' (recordAll m (xs ++ (t, q) :: ys)) q =
      (recordAll m (xs ++ (t, q) :: ys), false) := by
  refine record_existing ?_
  obtain ⟨id, hid, hne⟩ := hl.named _ hq
  rcases List.eq_nil_or_concat ys with rfl | ⟨ys, w, rfl⟩
  · rw [recordAll_append]
    exact existing_record t hid hne
  · rw [List.concat_eq_append] at hadjacent ⊢
    obtain rfl : w.2 = q := hadjacent w (List.mem_append_right _ (List.mem_singleton_self _))
    rw [← List.cons_append, ← List.append_assoc, recordAll_append]
    exact existing_record w.1 hid hne

lemma adjacent_of_repeated (hl : Distinct l)
    (hrepeated : ∀ ys t' zs, l = xs ++ (t, q) :: ys ++ (t', q) :: zs →
      record t' (recordAll m (xs ++ (t, q) :: ys)) q =
        (recordAll m (xs ++ (t, q) :: ys), false)) (ys : List (Instant × Receipt)) :
    ∀ t' zs, l = xs ++ (t, q) :: ys ++ (t', q) :: zs →
      ∀ y ∈ ys, y.2 = q := by
  induction ys using List.reverseRecOn with
  | nil =>
    intro t' zs _ y hy
    cases hy
  | append_singleton ys w ih =>
    intro t' zs hsplit
    have hw : w ∈ l := by
      rw [hsplit]
      simp
    have hq : (t', q) ∈ l := by
      rw [hsplit]
      simp
    have hknown := existing_of_record (hrepeated _ t' zs hsplit)
    have hlast : existingReceipt (recordAll m (xs ++ (t, q) :: (ys ++ [w]))) w.2 = true := by
      rw [← List.cons_append, ← List.append_assoc]
      exact hl.existing_last hw
    have hsame : w.2 = q := hl.same hw hq hlast hknown
    obtain ⟨s, r⟩ := w
    obtain rfl : r = q := hsame
    have hbefore := ih s ((t', r) :: zs) (by rw [hsplit]; simp)
    intro y hy
    rcases List.mem_append.1 hy with hy | hy
    · exact hbefore y hy
    · rw [List.mem_singleton.1 hy]

lemma spared_of_waits (hwaits : ∀ xs x zs, l = xs ++ x :: zs → (recordAll m xs).queued = true →
    (recordAll m (xs ++ [x])).queued = true) (hm : m.queued = true) :
    ∀ x ∈ l, existingReceipt m x.2 = true := by
  have hprefix : ∀ xs zs, l = xs ++ zs → ∀ x ∈ xs, existingReceipt m x.2 = true := by
    intro xs
    induction xs using List.reverseRecOn with
    | nil =>
      intro zs _ x hx
      cases hx
    | append_singleton xs w ih =>
      intro zs hsplit
      rw [List.append_assoc] at hsplit
      have hall := ih _ hsplit
      have hthere : recordAll m xs = m := recordAll_existing hall
      have hqueued := hwaits xs w zs hsplit (by rw [hthere]; exact hm)
      rw [recordAll_append, hthere] at hqueued
      intro x hx
      rcases List.mem_append.1 hx with hx | hx
      · exact hall x hx
      · rw [List.mem_singleton.1 hx]
        exact queued_record hqueued
  exact hprefix l [] (List.append_nil l).symm

end Receipts

theorem settles_iff (m : EmailMessage) (l : List (Instant × Receipt)) (hl : Distinct l) :
    Settles m l ↔ Undisturbed m l := by
  constructor
  · intro h
    refine ⟨fun hm p hp => ?_, fun hm xs t q => ?_, spared_of_waits h.waits⟩
    · rw [← outcome_recordAll hl]
      exact h.latest hm p hp
    · exact adjacent_of_repeated hl (h.repeated hm xs t q)
  · intro h
    refine ⟨fun hm p hp => ?_, fun hm xs t q ys t' zs hsplit => ?_, ?_⟩
    · rw [outcome_recordAll hl]
      exact h.inOrder hm p hp
    · refine record_repeated t' hl ?_ (h.adjacent hm xs t q ys t' zs hsplit)
      rw [hsplit]
      simp
    · intro xs x zs hsplit hqueued
      have hall : ∀ y ∈ xs ++ [x], existingReceipt m y.2 = true := by
        intro y hy
        refine h.spared (queued_recordAll hqueued) y ?_
        rw [hsplit]
        rcases List.mem_append.1 hy with hy | hy
        · exact List.mem_append_left _ hy
        · exact List.mem_append_right _ (List.mem_cons.2 (.inl (List.mem_singleton.1 hy)))
      rw [recordAll_existing hall]
      exact queued_recordAll hqueued

/-! ## a late receipt -/

def sentMessage : EmailMessage where
  status := .sent

def deliveredReceipt : Receipt where
  deliveryStatus := .delivered
  providerEventId := some "event-2"
  occurredAt := some (minutes 10)
  valid := by decide

def deferredReceipt : Receipt where
  deliveryStatus := .deferred
  providerEventId := some "event-1"
  occurredAt := some (minutes 5)
  valid := by decide

/-- the provider deferred the e-mail, delivered it, and its first event comes last. -/
def lateDeferred : List (Instant × Receipt) :=
  [(minutes 10, deliveredReceipt), (minutes 11, deferredReceipt)]

lemma lateDeferred_distinct : Distinct lateDeferred := by
  refine ⟨?_, ?_, ?_, ?_⟩
  · simp [lateDeferred, deliveredReceipt, deferredReceipt]
  · simp [lateDeferred, deliveredReceipt, deferredReceipt]
  · simp [lateDeferred, deliveredReceipt, deferredReceipt]
  · simp [lateDeferred, deliveredReceipt, deferredReceipt, minutes, seconds]

/-- the delivered e-mail counts as failed. -/
theorem lateDeferred_unsettled : Distinct lateDeferred ∧ ¬Settles sentMessage lateDeferred := by
  refine ⟨lateDeferred_distinct, fun h => ?_⟩
  have hlatest : IsLatest deliveredReceipt lateDeferred := by
    refine ⟨⟨_, List.mem_cons_self .., rfl⟩, ?_⟩
    simp [lateDeferred, deliveredReceipt, deferredReceipt, minutes, seconds]
  have hstatus := congrArg Prod.fst (h.latest rfl deliveredReceipt hlatest)
  exact absurd hstatus (by decide)

theorem lateDeferred_settles_iff :
    Settles sentMessage lateDeferred ↔ Undisturbed sentMessage lateDeferred :=
  settles_iff sentMessage lateDeferred lateDeferred_distinct

end NexusHelpdesk.Email
