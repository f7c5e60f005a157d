import NexusHelpdesk.WhatsApp.Receipts

/-!
# When a message becomes sent

A message should count as sent only when all of its parts are out, or, while it has no part rows,
on a receipt that reports at least `sent`.

* `SentMeansSent`: the law, for one step;
* `Misleading`: receipts past the parts that break it.  The path of `_apply_legacy_parent_delivery`
  takes every successful status for a sent message, `queued` and `accepted` included, and does not
  look at the parts;
* `sent_means_sent_iff`: **a run keeps the law at each of its steps if and only if none of its
  receipts is misleading**.
-/

namespace NexusHelpdesk.WhatsApp

open Lib Outbound

/-! ## the law -/

def Store.statusOf (s : Store) (m : ℕ) : Option MessageStatus :=
  (s.messages.get? m).map (·.status)

/-- every part of the message has delivery rank at least `sent`. -/
def Store.AllOut (s : Store) (m : ℕ) : Prop :=
  ∀ x ∈ partsOf s.parts m, x.2.status.isOut = true

instance (s : Store) (m : ℕ) : Decidable (s.AllOut m) :=
  inferInstanceAs (Decidable (∀ x ∈ partsOf s.parts m, _))

def DeliveryStep.reportsSent : DeliveryStep → Bool
  | .receipt _ r => (DeliveryStatus.ofValue r.normalizedStatus).any (·.isOut)
  | _ => false

/-- the message may count as sent: its parts are out, or it has none and the receipt says so. -/
def Store.MayBeSent (s : Store) (m : ℕ) (reported : Bool) : Prop :=
  (partsOf s.parts m ≠ [] ∧ s.AllOut m) ∨ (partsOf s.parts m = [] ∧ reported = true)

def SentMeansSent (env : Env) (s : Store) (i : DeliveryStep) : Prop :=
  ∀ m, (i.apply env s).statusOf m = some .sent →
    s.statusOf m = some .sent ∨ (i.apply env s).MayBeSent m i.reportsSent

/-- a successful receipt for a message that is not sent and may not be, applied past the parts. -/
def Misleading (env : Env) (s : Store) : DeliveryStep → Prop
  | .receipt _ r => ∃ next id m, LegacyReceipt env.ctx s r next id m ∧ next.isFailure = false ∧
      m.status ≠ .sent ∧ ¬ s.MayBeSent id next.isOut
  | _ => False

lemma isOut_iff (d : DeliveryStatus) : d.isOut = true ↔ 20 ≤ rankOr 0 (some d) := by
  cases d <;> decide

lemma lowest_le (d : DeliveryStatus) (l : List DeliveryStatus) :
    ∀ x ∈ d :: l, rankOr 0 (some (lowest d l)) ≤ rankOr 0 (some x) := by
  induction l generalizing d with
  | nil =>
    intro x hx
    rw [List.mem_singleton] at hx
    subst hx
    exact le_refl _
  | cons d' l ih =>
    intro x hx
    unfold lowest
    by_cases hlt : rankOr 0 (some d') < rankOr 0 (some d)
    · rw [if_pos hlt]
      have hd' := ih d' d' (List.mem_cons_self ..)
      rcases List.mem_cons.1 hx with rfl | hx
      · omega
      · exact ih d' x hx
    · rw [if_neg hlt]
      have hd := ih d d (List.mem_cons_self ..)
      rcases List.mem_cons.1 hx with rfl | hx
      · exact hd
      · rcases List.mem_cons.1 hx with rfl | hx
        · omega
        · exact ih d x (List.mem_cons_of_mem _ hx)

variable {m : OutboundMessage} {parts : Table OutboundPart} {now : Instant} {env : Env} {s : Store}
  {r : Receipt} {next : DeliveryStatus} {id : ℕ}

lemma aggregateParent_sent {provider : String} {parts : List OutboundPart} (hne : parts ≠ [])
    (h : (aggregateParent now provider parts m).2.status = .sent) :
    ∀ p ∈ parts, p.status.isOut = true := by
  cases parts with
  | nil => exact absurd rfl hne
  | cons first rest =>
    cases hfail : (first :: rest).find? (·.status.isFailure) with
    | some p =>
      simp only [aggregateParent, hfail, noteAggregate, failParent] at h
      cases h
    | none =>
      simp only [aggregateParent, hfail, noteAggregate, aggregateStatus, settleParent] at h
      by_cases hout : (lowest first.status (rest.map (·.status))).isOut = true
      · intro p hp
        have hle := lowest_le first.status (rest.map (·.status)) p.status (by
          rw [← List.map_cons (f := OutboundPart.status)]
          exact List.mem_map_of_mem hp)
        rw [isOut_iff] at hout ⊢
        omega
      · rw [if_neg hout] at h
        split at h
        · rename_i hst
          simp only at h hst
          rw [h] at hst
          rcases hst with hst | hst <;> cases hst
        · cases h

lemma get?_receivedParts (now : Instant) (r : Receipt) (next : DeliveryStatus) (id : ℕ)
    (p : OutboundPart) (h : parts.get? id = some p) (j : ℕ) :
    (receivedParts now r next id p parts).get? j =
      if j = id then some (updatePart (r.occurredAt.getD now) r next p) else parts.get? j := by
  unfold receivedParts
  rw [Table.get?_set]
  by_cases hj : j = id
  · subst hj
    rw [if_pos rfl, if_pos rfl, h]
    rfl
  · rw [if_neg hj, if_neg hj]

lemma partReceipt_sent {p : OutboundPart} (h : PartReceipt env.ctx s r next id p m)
    (now : Instant) : SentMeansSent env s (.receipt now r) := by
  intro k hk
  simp only [DeliveryStep.apply, h.apply_eq now, Store.statusOf, Store.MayBeSent, Store.AllOut,
    Table.get?_set] at hk ⊢
  by_cases hkm : k = p.outboundMessageId
  · subst hkm
    right; left
    have hpart := resolveOutboundPart_row h.part
    have hself : (id, updatePart (r.occurredAt.getD now) r next p) ∈
        partsOf (receivedParts now r next id p s.parts) p.outboundMessageId := by
      rw [mem_partsOf, get?_receivedParts now r next id p hpart, if_pos rfl]
      exact ⟨rfl, rfl⟩
    have hne : partsOf (receivedParts now r next id p s.parts) p.outboundMessageId ≠ [] :=
      List.ne_nil_of_mem hself
    refine ⟨hne, ?_⟩
    rw [if_pos rfl, h.row] at hk
    simp only [Option.map_some, Option.some.injEq] at hk
    intro x hx
    exact aggregateParent_sent (by simpa using hne) hk x.2 (List.mem_map.2 ⟨x, hx, rfl⟩)
  · left
    rw [if_neg hkm] at hk
    exact hk

lemma legacyReceipt_sent_iff (h : LegacyReceipt env.ctx s r next id m) (now : Instant) :
    SentMeansSent env s (.receipt now r) ↔ ¬ Misleading env s (.receipt now r) := by
  obtain ⟨new, hnew, heq⟩ := h.apply_eq now
  have hrow := legacyRow_row h.row
  have hreport : (DeliveryStep.receipt now r).reportsSent = next.isOut := by
    simp only [DeliveryStep.reportsSent, h.status, Option.any_some]
  have hstatus : ∀ k, ((DeliveryStep.receipt now r).apply env s).statusOf k =
      if k = id then some new.status else s.statusOf k := by
    intro k
    simp only [DeliveryStep.apply, heq, Store.statusOf, Table.get?_set]
    by_cases hk : k = id
    · subst hk
      rw [if_pos rfl, if_pos rfl, hrow]
      rfl
    · rw [if_neg hk, if_neg hk]
  have hmay : ∀ k b, ((DeliveryStep.receipt now r).apply env s).MayBeSent k b ↔
      s.MayBeSent k b := by
    intro k b
    simp only [DeliveryStep.apply, heq, Store.MayBeSent, Store.AllOut]
  constructor
  · intro hlaw hmis
    obtain ⟨next', id', m', h', hsucc, hst, hnot⟩ := hmis
    have hsame := h.row.symm.trans h'.row
    have hnext := h.status.symm.trans h'.status
    cases hsame
    cases hnext
    have hsent := hlaw id (by rw [hstatus, if_pos rfl, hnew, hsucc]; rfl)
    rcases hsent with hold | hok
    · simp only [Store.statusOf, hrow, Option.map_some, Option.some.injEq] at hold
      exact hst hold
    · rw [hmay, hreport] at hok
      exact hnot hok
  · intro hmis k hk
    rw [hstatus] at hk
    by_cases hkid : k = id
    · subst hkid
      rw [if_pos rfl, hnew] at hk
      by_cases hst : m.status = .sent
      · left
        simp only [Store.statusOf, hrow, Option.map_some, hst]
      · right
        rw [hmay, hreport]
        by_contra hnot
        have hsucc : next.isFailure = false := by
          cases hf : next.isFailure with
          | false => rfl
          | true =>
            rw [hf] at hk
            cases hk
        exact hmis ⟨next, k, m, h, hsucc, hst, hnot⟩
    · rw [if_neg hkid] at hk
      exact Or.inl hk

lemma receipt_sent_iff (env : Env) (s : Store) (now : Instant) (r : Receipt) :
    SentMeansSent env s (.receipt now r) ↔ ¬ Misleading env s (.receipt now r) := by
  rcases receipt_cases env.ctx now r s with hnone | ⟨next, id, p, m, h⟩ | ⟨next, id, m, h⟩
  · -- nothing is written, so no path past the parts was taken either
    constructor
    · intro _ hmis
      obtain ⟨next, id, m, h, hsucc, hst, -⟩ := hmis
      obtain ⟨new, hnew, heq⟩ := h.apply_eq now
      have hrow := legacyRow_row h.row
      rw [hnone] at heq
      have hget := congrArg (fun t : Store => t.messages.get? id) heq
      simp only [Table.get?_set, if_true, hrow, Option.map_some, Option.some.injEq] at hget
      rw [hget, hnew, hsucc] at hst
      exact hst rfl
    · intro _ k hk
      left
      simp only [DeliveryStep.apply, hnone] at hk
      exact hk
  · constructor
    · intro _ hmis
      obtain ⟨_, _, _, h', -⟩ := hmis
      have hcontra := h.part.symm.trans h'.noPart
      cases hcontra
    · intro _
      exact partReceipt_sent h now
  · exact legacyReceipt_sent_iff h now

lemma ensureParts_ne_nil {ctx : Context} {c : WhatsAppConnection} {m : ℕ} {body : String}
    {parts' : Table OutboundPart} (h : ensureParts ctx c m body parts = .ok parts') :
    partsOf parts' m ≠ [] := by
  unfold ensureParts at h
  by_cases hold : (partsOf parts m).isEmpty = true
  · rw [if_neg (by simp [hold])] at h
    split at h
    · cases h
    · rename_i hcontent
      cases h
      cases hc : contents ctx m body with
      | nil => exact absurd (by rw [hc]; rfl) hcontent
      | cons a rest =>
        have hfirst : (parts.insert (newPart c m 0 a)).get? parts.next = some (newPart c m 0 a) :=
          Table.get?_insert_self ..
        have hkept := get?_insertParts_old c m rest 1 _ hfirst
        exact List.ne_nil_of_mem (mem_partsOf.2 ⟨hkept, rfl⟩)
  · rw [if_pos (by simp [hold])] at h
    split at h
    · cases h
    · cases h
      intro hnil
      exact hold (by rw [hnil]; rfl)

lemma sendParts_allOut {sends : ℕ → SendResult} {m : ℕ}
    (h : failingPart sends (partsOf parts m) = none) :
    ∀ x ∈ partsOf (sendParts now sends (partsOf parts m) [] [] parts).2 m,
      x.2.done = true := by
  rintro ⟨j, p'⟩ hx
  obtain ⟨hget, hmsg⟩ := mem_partsOf.1 hx
  obtain ⟨p, hp, hmsg', -, hcase⟩ := sendParts_row hget
  rw [hmsg] at hmsg'
  have hin : (j, p) ∈ partsOf parts m := mem_partsOf.2 ⟨hp, hmsg'.symm⟩
  have hsucceeds : sendFails sends (j, p) = false := by
    unfold failingPart at h
    rw [Option.map_eq_none_iff, List.find?_eq_none] at h
    simpa using h (j, p) hin
  rcases hcase with ⟨-, rfl⟩ | ⟨hout, -⟩
  · exact sendRow_done hsucceeds
  · rw [reached_eq_of_none h] at hout
    exact absurd hin hout

lemma partsOf_sendParts_ne_nil (now : Instant) (sends : ℕ → SendResult)
    {m : ℕ} (h : partsOf parts m ≠ []) :
    partsOf (sendParts now sends (partsOf parts m) [] [] parts).2 m ≠ [] := by
  obtain ⟨⟨j, p⟩, hx⟩ := List.exists_mem_of_ne_nil _ h
  obtain ⟨hget, hmsg⟩ := mem_partsOf.1 hx
  have hafter := get?_sendParts_partsOf now sends parts m j
  rw [hget] at hafter
  have hrow : ∃ p', (sendParts now sends (partsOf parts m) [] [] parts).2.get? j = some p' ∧
      p'.outboundMessageId = m := by
    split at hafter
    · refine ⟨_, hafter, ?_⟩
      rw [(sendRow_keeps now (sends j) p).1, hmsg]
    · exact ⟨p, hafter, hmsg⟩
  obtain ⟨p', hp', hmsg'⟩ := hrow
  exact List.ne_nil_of_mem (mem_partsOf.2 ⟨hp', hmsg'⟩)

lemma attempt_sent (env : Env) (s : Store) (now : Instant) (id : ℕ) (a : Attempt) :
    SentMeansSent env s (.attempt now id a) := by
  intro k hk
  simp only [DeliveryStep.apply, DeliveryStep.reportsSent] at hk ⊢
  rcases attempt_cases env.ctx now id a s with hnone | ⟨new, hnew, heq⟩ |
    ⟨c, sends, m, parts₀, rfl, hsend⟩
  · rw [hnone] at hk
    exact Or.inl hk
  · left
    simp only [heq, Store.statusOf, Table.get?_set] at hk ⊢
    split at hk
    · rw [Option.map_map, Option.map_eq_some_iff] at hk
      obtain ⟨_, _, hst⟩ := hk
      exact absurd hst hnew
    · exact hk
  · rw [hsend.attempt_eq] at hk ⊢
    simp only [Store.statusOf, Table.get?_set, Store.MayBeSent, Store.AllOut] at hk ⊢
    by_cases hkid : k = id
    · subst hkid
      right; left
      rw [if_pos rfl, hsend.row] at hk
      simp only [Option.map_some, Option.some.injEq] at hk
      -- a message marked sent means that the loop ran to its end
      have hok : failingPart sends (partsOf parts₀ k) = none := by
        have hresult := sendParts_result now sends (partsOf parts₀ k) [] [] parts₀
        cases hf : failingPart sends (partsOf parts₀ k) with
        | none => rfl
        | some i =>
          rw [hf] at hresult
          exact absurd hk (handleParts_not_sent now c.transport hresult m)
      constructor
      · exact partsOf_sendParts_ne_nil now sends (ensureParts_ne_nil hsend.parts)
      · intro x hx
        have hdone := sendParts_allOut hok x hx
        unfold OutboundPart.done at hdone
        exact ((Bool.and_eq_true _ _).mp hdone).1
    · rw [if_neg hkid] at hk
      exact Or.inl hk

/-! ## runs -/

lemma sentMeansSent_iff (env : Env) (s : Store) (i : DeliveryStep) :
    SentMeansSent env s i ↔ ¬ Misleading env s i := by
  cases i with
  | queue m =>
    refine iff_of_true ?_ fun h => h
    intro k hk
    left
    simp only [DeliveryStep.apply, Store.statusOf, Table.get?_insert] at hk ⊢
    split at hk
    · cases hk
    · exact hk
  | claim now id worker =>
    refine iff_of_true ?_ fun h => h
    intro k hk
    left
    simp only [DeliveryStep.apply, Store.statusOf, Table.get?_modify] at hk ⊢
    split at hk
    · rw [Option.map_map, Option.map_eq_some_iff] at hk
      obtain ⟨m, hm, hst⟩ := hk
      simp only [Function.comp_apply] at hst
      split at hst
      · cases hst
      · rw [hm, Option.map_some, hst]
    · exact hk
  | attempt now id a => exact iff_of_true (attempt_sent env s now id a) fun h => h
  | receipt now r => exact receipt_sent_iff env s now r

theorem sent_means_sent_iff (env : Env) (l : List DeliveryStep) (s : Store) :
    Along (DeliveryStep.apply env) (SentMeansSent env) s l ↔
      Along (DeliveryStep.apply env) (fun s i => ¬ Misleading env s i) s l :=
  along_congr (sentMeansSent_iff env) s l

def sampleConnection : WhatsAppConnection := ⟨1, 1, 1, "baileys"⟩

/-- one ticket, one attachment a message. -/
def sampleEnv : Env where
  ctx := ⟨fun _ => some ⟨some 1, some 1⟩, fun _ => [1]⟩
  lockSeconds := 300

def sampleReply : OutboundMessage where
  ticketId := 1
  channel := .whatsapp
  status := .pending
  body := "Hello"
  origin := some "human_agent"
  runtimeTraceId := none
  runtimeContractVersion := none
  runtimeSignature := none
  runtimeContractPayloadJson := none
  runtimeContractPayloadSha256 := none
  runtimeReplyType := none
  safetyStatus := none
  providerStatus := some "queued"
  errorMessage := none
  createdBy := none
  sentAt := none
  retryCount := 0
  maxRetries := 3
  lastAttemptAt := none
  nextRetryAt := none
  lockedAt := none
  lockedBy := none
  providerMessageId := none
  mailboxThreadId := none
  mailboxMessageId := none
  mailboxReferences := none
  failureCode := none
  failureReason := none
  deliveryStatus := none
  deliveryEventType := none
  deliveryReceiptProvider := none
  deliveryReceiptId := none
  deliveryReceiptAt := none
  createdAt := 0

/-- a receipt for message 1 by its id, and for nothing more precise. -/
def sampleReceipt (status : String) : Receipt where
  connection := sampleConnection
  providerMessageId := none
  status := status
  occurredAt := none
  provider := "baileys"
  receiptId := none
  outboundMessageId := some 1
  outboundPartId := none
  errorCode := none
  errorMessage := none
  detail := none

/-- the provider confirms that it queued the message before the first attempt. -/
def earlyReceiptRun : List DeliveryStep :=
  [.queue sampleReply, .receipt 1 (sampleReceipt "queued")]

/-- the message counts as sent, with no part and nothing sent. -/
theorem earlyReceiptRun_marks_sent :
    (run (DeliveryStep.apply sampleEnv) Store.empty earlyReceiptRun).statusOf 1 = some .sent ∧
      ¬ Along (DeliveryStep.apply sampleEnv) (SentMeansSent sampleEnv) Store.empty
        earlyReceiptRun := by
  have hsent : (run (DeliveryStep.apply sampleEnv) Store.empty earlyReceiptRun).statusOf 1 =
      some .sent := by decide +kernel
  refine ⟨hsent, ?_⟩
  intro h
  rcases h.2.1 1 hsent with hold | ⟨hparts, -⟩ | ⟨-, hreport⟩
  · exact absurd hold (by decide +kernel)
  · exact hparts (by decide +kernel)
  · exact absurd hreport (by decide +kernel)

end NexusHelpdesk.WhatsApp
