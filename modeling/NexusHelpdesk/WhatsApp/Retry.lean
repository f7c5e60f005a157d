import NexusHelpdesk.WhatsApp.Sent

/-!
# Retries and receipts

The send of part `i` of message `m` failed and the message waits for its next attempt.  Part `i`
stays in a failed state until then, so the aggregate over the parts is a failure, and any receipt
that is applied to a part of `m` fails the message.

* `LeftForRetry`: an attempt stopped at part `i` with a retryable error;
* `Waiting`: what holds from then on until the next attempt;
* `KeepsRetry`: a receipt for another part leaves the message pending or processing;
* `Cancels`: receipts that do not;
* `retry_kept_iff`: **between the attempts every receipt for another part keeps the retry if and
  only if none is applied to a part of the same message; the next attempt comes to part `i`**.
-/

namespace NexusHelpdesk.WhatsApp

open Lib Outbound

/-! ## a message that waits for its next attempt -/

def Store.IsOpen (s : Store) (m : ℕ) : Prop :=
  s.statusOf m = some .pending ∨ s.statusOf m = some .processing

instance (s : Store) (m : ℕ) : Decidable (s.IsOpen m) := inferInstanceAs (Decidable (_ ∨ _))

/-- the attempt stopped at part `i` with a retryable error and left the message pending. -/
structure LeftForRetry (ctx : Context) (now : Instant) (s : Store) (m : ℕ) (c : WhatsAppConnection)
    (sends : ℕ → SendResult) (i : ℕ) : Prop where
  sending : ∃ row parts₀, Sending ctx s m c row parts₀ ∧
    failingPart sends (partsOf parts₀ m) = some i
  retryable : ∃ e, sends i = .error e ∧ e.report.2.2 = true
  pending : (attempt ctx now m (.parts c sends) s).statusOf m = some .pending

/-- part `i` is in a failed state; while the message is open, the parts before it are done. -/
structure Waiting (s : Store) (m i : ℕ) : Prop where
  row : (s.messages.get? m).isSome = true
  part : ∃ p, s.parts.get? i = some p ∧ p.outboundMessageId = m ∧ p.status.isFailure = true ∧
    (s.IsOpen m → ∀ j q, s.parts.get? j = some q → q.outboundMessageId = m → j ≠ i →
      inSequence (j, q) (i, p) → q.done = true)

/-- a receipt for a part other than `i` leaves the message pending or processing. -/
def KeepsRetry (env : Env) (m i : ℕ) (s : Store) : DeliveryStep → Prop
  | .receipt now r => ∀ j p, resolveOutboundPart r s.parts = some (j, p) → j ≠ i →
      s.IsOpen m → ((DeliveryStep.receipt now r).apply env s).IsOpen m
  | _ => True

/-- a receipt that is applied to another part of the open message. -/
def Cancels (env : Env) (m i : ℕ) (s : Store) : DeliveryStep → Prop
  | .receipt now r => s.IsOpen m ∧ ∃ next j p row, PartReceipt env.ctx s r next j p row ∧ j ≠ i ∧
      p.outboundMessageId = m
  | _ => False

def DeliveryStep.attempts (m : ℕ) : DeliveryStep → Bool
  | .attempt _ id _ => id == m
  | _ => false

lemma aggregateParent_failed {now : Instant} {provider : String} {parts : List OutboundPart}
    {m : OutboundMessage} (h : ∃ p ∈ parts, p.status.isFailure = true) :
    (aggregateParent now provider parts m).2.status = .failed := by
  obtain ⟨p, hp, hf⟩ := h
  cases parts with
  | nil => cases hp
  | cons first rest =>
    cases hfind : (first :: rest).find? (·.status.isFailure) with
    | none =>
      have hnone := List.find?_eq_none.1 hfind p hp
      exact absurd hf hnone
    | some q => simp only [aggregateParent, hfind, noteAggregate, failParent]

variable {ctx : Context} {env : Env} {s : Store} {m i : ℕ} {row : OutboundMessage}
  {c : WhatsAppConnection} {r : Receipt} {next : DeliveryStatus} {p : OutboundPart}
  {sends : ℕ → SendResult} {parts₀ : Table OutboundPart}

lemma partRefusal_failed {m : OutboundMessage} (h : partRefusal ctx r next p (some m) = none)
    (hp : p.status.isFailure = true) : next.isFailure = true := by
  by_contra hnext
  rw [Bool.not_eq_true] at hnext
  have hstale : staleReason (some p.status) next = some "stale_delivery_event" := by
    simp [staleReason, hnext, hp]
  simp only [partRefusal, hstale] at h
  split at h <;> cases h

/-- a receipt applied to a part of `m` fails the message, and part `i` stays failed. -/
lemma Waiting.partReceipt (h : Waiting s m i) {j : ℕ} (hr : PartReceipt env.ctx s r next j p row)
    (hm : p.outboundMessageId = m) (now : Instant) :
    ((DeliveryStep.receipt now r).apply env s).statusOf m = some .failed ∧
      ∃ q, ((DeliveryStep.receipt now r).apply env s).parts.get? i = some q ∧
        q.outboundMessageId = m ∧ q.status.isFailure = true := by
  obtain ⟨pᵢ, hget, hmsg, hfail, -⟩ := h.part
  have hj := resolveOutboundPart_row hr.part
  have hafter : ∃ q, (receivedParts now r next j p s.parts).get? i = some q ∧
      q.outboundMessageId = m ∧ q.status.isFailure = true := by
    rw [get?_receivedParts now r next j p hj]
    by_cases hij : i = j
    · subst hij
      rw [hj] at hget
      cases hget
      rw [if_pos rfl]
      exact ⟨_, rfl, hmsg, partRefusal_failed hr.accepted hfail⟩
    · rw [if_neg hij]
      exact ⟨pᵢ, hget, hmsg, hfail⟩
  obtain ⟨q, hq, hqm, hqf⟩ := hafter
  have hparent : (receivedParent now r next j p s.parts row).status = .failed := by
    apply aggregateParent_failed
    refine ⟨q, List.mem_map.2 ⟨(i, q), mem_partsOf.2 ⟨hq, ?_⟩, rfl⟩, hqf⟩
    rw [hqm, hm]
  simp only [DeliveryStep.apply, hr.apply_eq now]
  constructor
  · rw [hm]
    have hrow := hr.row
    rw [hm] at hrow
    simp only [Store.statusOf, Table.get?_set, if_true, hrow, Option.map_some, hparent]
  · exact ⟨q, hq, hqm, hqf⟩

/-! ## between the attempts -/

lemma not_isOpen_of_failed (h : s.statusOf m = some .failed) :
    ¬ s.IsOpen m := by
  unfold Store.IsOpen
  rw [h]
  rintro (h | h) <;> cases h

lemma isSome_get?_of_statusOf {st : MessageStatus}
    (h : s.statusOf m = some st) : (s.messages.get? m).isSome = true := by
  unfold Store.statusOf at h
  obtain ⟨row, hrow, -⟩ := Option.map_eq_some_iff.1 h
  rw [hrow]
  rfl

/-- a step that leaves the parts of `m` alone and does not open the message. -/
lemma Waiting.of_frame {s' : Store} (h : Waiting s m i)
    (hrow : (s'.messages.get? m).isSome = true) (hopen : s'.IsOpen m → s.IsOpen m)
    (hparts : ∀ j p, p.outboundMessageId = m → (s'.parts.get? j = some p ↔ s.parts.get? j = some p)) :
    Waiting s' m i := by
  obtain ⟨p, hget, hmsg, hfail, hbefore⟩ := h.part
  refine ⟨hrow, p, (hparts i p hmsg).2 hget, hmsg, hfail, ?_⟩
  intro ho j q hq hqm
  exact hbefore (hopen ho) j q ((hparts j q hqm).1 hq) hqm

lemma Waiting.receipt (h : Waiting s m i) (now : Instant)
    (r : Receipt) : Waiting ((DeliveryStep.receipt now r).apply env s) m i := by
  rcases receipt_cases env.ctx now r s with hnone | ⟨next, j, p, row, hr⟩ | ⟨next, id, row, hr⟩
  · simp only [DeliveryStep.apply, hnone]
    exact h
  · by_cases hm : p.outboundMessageId = m
    · obtain ⟨hst, q, hq, hqm, hqf⟩ := h.partReceipt hr hm now
      refine ⟨isSome_get?_of_statusOf hst, q, hq, hqm, hqf, ?_⟩
      intro ho
      exact absurd ho (not_isOpen_of_failed hst)
    · have hj := resolveOutboundPart_row hr.part
      have hmsg : ((DeliveryStep.receipt now r).apply env s).messages.get? m =
          s.messages.get? m := by
        simp only [DeliveryStep.apply, hr.apply_eq now]
        exact Table.get?_modify_of_ne _ _ (Ne.symm hm)
      apply h.of_frame
      · rw [hmsg]
        exact h.row
      · intro ho
        unfold Store.IsOpen Store.statusOf at *
        rw [hmsg] at ho
        exact ho
      · intro k q hq
        simp only [DeliveryStep.apply, hr.apply_eq now]
        rw [get?_receivedParts now r next j p hj]
        by_cases hk : k = j
        · subst hk
          rw [if_pos rfl, hj]
          constructor
          · intro heq
            cases heq
            exact absurd hq hm
          · intro heq
            cases heq
            exact absurd hq hm
        · rw [if_neg hk]
  · obtain ⟨new, hnew, heq⟩ := hr.apply_eq now
    have hrow := legacyRow_row hr.row
    apply h.of_frame
    · simp only [DeliveryStep.apply, heq, Table.get?_set]
      split
      · rw [Option.isSome_map]
        exact h.row
      · exact h.row
    · intro ho
      simp only [DeliveryStep.apply, heq, Store.IsOpen, Store.statusOf, Table.get?_set] at ho ⊢
      by_cases hid : m = id
      · subst hid
        rw [if_pos rfl, hrow] at ho
        simp only [Option.map_some, Option.some.injEq, hnew] at ho
        split at ho <;> rcases ho with ho | ho <;> cases ho
      · rw [if_neg hid] at ho
        exact ho
    · intro j q hq
      simp only [DeliveryStep.apply, heq]

lemma Waiting.step (h : Waiting s m i) {st : DeliveryStep}
    (hst : st.attempts m = false) : Waiting (st.apply env s) m i := by
  cases st with
  | queue new =>
    have hold := h.row
    have hkept : ((DeliveryStep.queue new).apply env s).messages.get? m = s.messages.get? m := by
      obtain ⟨row, hrow⟩ := Option.isSome_iff_exists.1 hold
      rw [hrow]
      exact Table.get?_insert_of_some _ hrow
    apply h.of_frame
    · rw [hkept]
      exact hold
    · intro ho
      unfold Store.IsOpen Store.statusOf at *
      rw [hkept] at ho
      exact ho
    · intro j p hp
      exact Iff.rfl
  | claim now id worker =>
    apply h.of_frame
    · simp only [DeliveryStep.apply, Table.get?_modify]
      split
      · rw [Option.isSome_map]
        exact h.row
      · exact h.row
    · intro ho
      simp only [DeliveryStep.apply, Store.IsOpen, Store.statusOf, Table.get?_modify] at ho ⊢
      split at ho
      · obtain ⟨row, hrow⟩ := Option.isSome_iff_exists.1 h.row
        rw [hrow] at ho ⊢
        simp only [Option.map_some, Option.some.injEq] at ho ⊢
        split at ho
        · rename_i hdue
          left
          simp only [pendingDue, Bool.and_eq_true, beq_iff_eq] at hdue
          exact hdue.1.1.2
        · exact ho
      · exact ho
    · intro j p hp
      exact Iff.rfl
  | attempt now id a =>
    have hne : m ≠ id := by
      intro heq
      simp [DeliveryStep.attempts, heq] at hst
    obtain ⟨hmsg, hparts⟩ := attempt_frame env.ctx now id a s hne
    refine h.of_frame ?_ ?_ hparts
    · simp only [DeliveryStep.apply]
      rw [hmsg]
      exact h.row
    · intro ho
      simp only [DeliveryStep.apply, Store.IsOpen, Store.statusOf] at ho ⊢
      rw [hmsg] at ho
      exact ho
  | receipt now r => exact h.receipt now r

lemma Waiting.keepsRetry_iff (h : Waiting s m i)
    (st : DeliveryStep) : KeepsRetry env m i s st ↔ ¬ Cancels env m i s st := by
  cases st with
  | queue new => exact iff_of_true trivial fun h => h
  | claim now id worker => exact iff_of_true trivial fun h => h
  | attempt now id a => exact iff_of_true trivial fun h => h
  | receipt now r =>
    constructor
    · rintro hkeep ⟨ho, next, j, p, row, hr, hj, hm⟩
      have hst := (h.partReceipt hr hm now).1
      exact not_isOpen_of_failed hst (hkeep j p hr.part hj ho)
    · intro hno j p hpart hj ho
      rcases receipt_cases env.ctx now r s with hnone | ⟨next, j', p', row, hr⟩ | ⟨next, id, row, hr⟩
      · simp only [DeliveryStep.apply, hnone]
        exact ho
      · have hsame := hr.part.symm.trans hpart
        cases hsame
        have hm : p.outboundMessageId ≠ m := fun hm => hno ⟨ho, next, j, p, row, hr, hj, hm⟩
        simp only [DeliveryStep.apply, hr.apply_eq now, Store.IsOpen, Store.statusOf,
          Table.get?_set]
        rw [if_neg (Ne.symm hm)]
        exact ho
      · have hcontra := hr.noPart.symm.trans hpart
        cases hcontra

/-! ## the attempts -/

lemma inSequence_antisymm {x y : ℕ × OutboundPart} (hxy : inSequence x y) (hyx : inSequence y x) :
    x.1 = y.1 := by
  unfold inSequence Table.earlier at *
  omega

lemma pairwise_partsOf (parts : Table OutboundPart) (m : ℕ) :
    (partsOf parts m).Pairwise inSequence := List.pairwise_insertionSort _ _

/-- from the attempt that stopped at part `i` on, the message waits. -/
lemma LeftForRetry.waiting {now : Instant} (h : LeftForRetry ctx now s m c sends i) :
    Waiting (attempt ctx now m (.parts c sends) s) m i := by
  obtain ⟨row, parts₀, hsend, hfail⟩ := h.sending
  refine ⟨isSome_get?_of_statusOf h.pending, ?_⟩
  rw [hsend.attempt_eq]
  obtain ⟨p, pre, post, hl, hreach, hfails, hpre⟩ := reached_split hfail
  have hmem : (i, p) ∈ partsOf parts₀ m := by
    rw [hl]
    exact List.mem_append_right _ (List.mem_cons_self ..)
  obtain ⟨hget, hmsg⟩ := mem_partsOf.1 hmem
  have hafter : (sendParts now sends (partsOf parts₀ m) [] [] parts₀).2.get? i =
      some (sendRow now (sends i) p) := by
    rw [get?_sendParts_partsOf, if_pos, hget]
    · rfl
    · rw [hreach]
      exact List.mem_map.2 ⟨(i, p), List.mem_append_right _ (List.mem_singleton.2 rfl), rfl⟩
  have hkeep := sendRow_keeps now (sends i) p
  refine ⟨_, hafter, hkeep.1.trans hmsg, ?_, ?_⟩
  · have hst := sendRow_failed now hfails
    rw [hst]
    rfl
  · intro _ j q' hq' hqm hne hseq
    obtain ⟨q, hq, hmsg', hseq', hcase⟩ := sendParts_row hq'
    have hin : (j, q) ∈ partsOf parts₀ m := mem_partsOf.2 ⟨hq, hmsg'.symm.trans hqm⟩
    have hbefore : inSequence (j, q) (i, p) := by
      unfold inSequence Table.earlier at *
      dsimp only at *
      rw [← hseq', ← hkeep.2]
      exact hseq
    have hsorted := pairwise_partsOf parts₀ m
    rw [hl] at hin hsorted
    -- a part before `i` was sent or skipped, a part after it comes later in the sequence
    rcases List.mem_append.1 hin with hfirst | hlater
    · have hr : (j, q) ∈ reached sends (partsOf parts₀ m) := by
        rw [hreach]
        exact List.mem_append_left _ hfirst
      rcases hcase with ⟨-, rfl⟩ | ⟨hnot, -⟩
      · exact sendRow_done (hpre (j, q) hfirst)
      · exact absurd hr hnot
    · rcases List.mem_cons.1 hlater with heq | hpost
      · cases heq
        exact absurd rfl hne
      · have hafter' := List.rel_of_pairwise_cons (List.pairwise_append.1 hsorted).2.1 hpost
        exact absurd (inSequence_antisymm hbefore hafter') hne

/-- the next attempt that comes to its sends comes to part `i`, which is not done. -/
lemma Waiting.reached (h : Waiting s m i) (hsend : Sending ctx s m c row parts₀)
    (sends : ℕ → SendResult) :
    ∃ p, p.done = false ∧ (i, p) ∈ WhatsApp.reached sends (partsOf parts₀ m) := by
  obtain ⟨p, hget, hmsg, hfail, hbefore⟩ := h.part
  have ho : s.IsOpen m := by
    right
    simp only [Store.statusOf, hsend.row, Option.map_some, hsend.claimed]
  have hmem : (i, p) ∈ partsOf s.parts m := mem_partsOf.2 ⟨hget, hmsg⟩
  have hsame : parts₀ = s.parts := by
    have hparts := hsend.parts
    unfold ensureParts at hparts
    rw [if_pos] at hparts
    · split at hparts <;> cases hparts
      rfl
    · simpa using List.ne_nil_of_mem hmem
  subst hsame
  have hdone : p.done = false := by
    have hout : p.status.isOut = false := by
      revert hfail
      cases p.status <;> decide
    unfold OutboundPart.done
    rw [hout]
    rfl
  refine ⟨p, hdone, ?_⟩
  cases hf : failingPart sends (partsOf s.parts m) with
  | none =>
    rw [reached_eq_of_none hf]
    exact hmem
  | some k =>
    obtain ⟨q, pre, post, hl, hreach, hfails, hpre⟩ := reached_split hf
    rw [hreach]
    have hsorted := pairwise_partsOf s.parts m
    have hnodup : ((partsOf s.parts m).map (·.1)).Nodup := Table.nodup_keys_ordered
    have hq := mem_partsOf.1 (show (k, q) ∈ partsOf s.parts m by rw [hl]; simp)
    rw [hl] at hmem hsorted hnodup
    rcases List.mem_append.1 hmem with hfirst | hlater
    · exact List.mem_append_left _ hfirst
    · rcases List.mem_cons.1 hlater with heq | hpost
      · cases heq
        exact List.mem_append_right _ (List.mem_singleton.2 rfl)
      · -- the loop cannot stop before `i`: the parts before it are done
        have hseq := List.rel_of_pairwise_cons (List.pairwise_append.1 hsorted).2.1 hpost
        have hne : k ≠ i := by
          intro heq
          subst heq
          rw [List.map_append, List.map_cons] at hnodup
          have hk := (List.nodup_cons.1 (List.nodup_append.1 hnodup).2.1).1
          exact hk (List.mem_map.2 ⟨(k, p), hpost, rfl⟩)
        have hqdone := hbefore ho k q hq.1 hq.2 hne hseq
        simp [sendFails, hqdone] at hfails

lemma failingPart_of_reached {l : List (ℕ × OutboundPart)} {x : ℕ × OutboundPart}
    (hx : x ∈ WhatsApp.reached sends l) (hfails : sendFails sends x = true) :
    failingPart sends l = some x.1 := by
  cases hf : failingPart sends l with
  | none =>
    unfold failingPart at hf
    rw [Option.map_eq_none_iff, List.find?_eq_none] at hf
    exact absurd hfails (hf x (reached_subset sends l hx))
  | some k =>
    obtain ⟨q, pre, post, -, hreach, -, hpre⟩ := reached_split hf
    rw [hreach] at hx
    rcases List.mem_append.1 hx with hfirst | hlast
    · rw [hpre x hfirst] at hfails
      cases hfails
    · rw [List.mem_singleton] at hlast
      subst hlast
      rfl

lemma handleParts_retry (now : Instant) (transport : String) {r : PartsDispatchResult}
    (hok : r.ok = false) (hretry : r.retryable = true) (m : OutboundMessage) :
    (handleParts now transport r m).status =
      if m.maxRetries ≤ m.retryCount + 1 then .dead else .pending := by
  unfold handleParts handleFailure
  rw [hok, hretry, if_neg Bool.false_ne_true, if_pos rfl]
  unfold markRetry
  dsimp only
  split <;> rfl

lemma Waiting.attempted (h : Waiting s m i) (hsend : Sending ctx s m c row parts₀)
    (sends : ℕ → SendResult) (now : Instant) :
    (∀ sent, sends i = .ok sent →
      ∃ p, (attempt ctx now m (.parts c sends) s).parts.get? i = some p ∧ p.done = true) ∧
    (∀ e, sends i = .error e → failingPart sends (partsOf parts₀ m) = some i ∧
      (e.report.2.2 = true → (attempt ctx now m (.parts c sends) s).statusOf m =
        some (if row.maxRetries ≤ row.retryCount + 1 then .dead else .pending))) := by
  obtain ⟨p, hdone, hreach⟩ := h.reached hsend sends
  rw [hsend.attempt_eq]
  constructor
  · intro sent hs
    refine ⟨sendRow now (sends i) p, ?_, ?_⟩
    · show (sendParts now sends (partsOf parts₀ m) [] [] parts₀).2.get? i = _
      rw [get?_sendParts_partsOf, if_pos (List.mem_map.2 ⟨(i, p), hreach, rfl⟩),
        (mem_partsOf.1 (reached_subset sends _ hreach)).1]
      rfl
    · refine sendRow_done (x := (i, p)) ?_
      simp [sendFails, hs, Except.isOk, Except.toBool]
  · intro e hs
    have hfails : sendFails sends (i, p) = true := by
      simp [sendFails, hdone, hs, Except.isOk, Except.toBool]
    have hf := failingPart_of_reached hreach hfails
    refine ⟨hf, ?_⟩
    intro hretry
    have hok := sendParts_result now sends (partsOf parts₀ m) [] [] parts₀
    rw [hf] at hok
    have hr := sendParts_retryable now hf hs [] [] parts₀
    rw [hretry] at hr
    simp only [Store.statusOf, Table.get?_set, if_true, hsend.row, Option.map_some,
      handleParts_retry now c.transport hok hr]

/-! ## runs -/

theorem retry_kept_iff (env : Env) (now : Instant) (s : Store) (m : ℕ) (c : WhatsAppConnection)
    (sends : ℕ → SendResult) (i : ℕ) (h : LeftForRetry env.ctx now s m c sends i)
    (l : List DeliveryStep) (hl : ∀ st ∈ l, st.attempts m = false) :
    let s₁ := (DeliveryStep.attempt now m (.parts c sends)).apply env s
    let s₂ := run (DeliveryStep.apply env) s₁ l
    (Along (DeliveryStep.apply env) (KeepsRetry env m i) s₁ l ↔
      Along (DeliveryStep.apply env) (fun s st => ¬ Cancels env m i s st) s₁ l) ∧
    ∀ now' c' sends' row parts₀, Sending env.ctx s₂ m c' row parts₀ →
      (∀ sent, sends' i = .ok sent →
        ∃ p, ((DeliveryStep.attempt now' m (.parts c' sends')).apply env s₂).parts.get? i = some p ∧
          p.done = true) ∧
      (∀ e, sends' i = .error e → failingPart sends' (partsOf parts₀ m) = some i ∧
        (e.report.2.2 = true →
          ((DeliveryStep.attempt now' m (.parts c' sends')).apply env s₂).statusOf m =
            some (if row.maxRetries ≤ row.retryCount + 1 then .dead else .pending))) := by
  intro s₁ s₂
  have hwait : Waiting s₁ m i := h.waiting
  have halong : Along (DeliveryStep.apply env) (fun _ st => st.attempts m = false) s₁ l :=
    along_of_forall hl s₁
  constructor
  · apply Along.congr (I := fun s => Waiting s m i) (A := fun _ st => st.attempts m = false)
    · intro s st hw _
      exact hw.keepsRetry_iff st
    · intro s st hw hst _
      exact hw.step hst
    · exact hwait
    · exact halong
  · intro now' c' sends' row parts₀ hsend
    have hend : Waiting s₂ m i :=
      halong.invariant (I := fun s => Waiting s m i) (fun s st hw hst => hw.step hst) hwait
    exact hend.attempted hsend sends' now'

lemma wamid_ne : "wamid.1" ≠ "" := by decide

/-- the text goes out, the attachment does not. -/
def sampleSends : ℕ → SendResult
  | 1 => .ok ⟨"wamid.1", none, wamid_ne⟩
  | _ => .error (.transport "timeout" "provider timeout" true)

def claimedStore : Store :=
  run (DeliveryStep.apply sampleEnv) Store.empty [.queue sampleReply, .claim 0 1 "w:1"]

lemma claimedStore_leftForRetry :
    LeftForRetry sampleEnv.ctx 1 claimedStore 1 sampleConnection sampleSends 2 where
  sending := by
    refine ⟨_, _, ⟨rfl, rfl, rfl, rfl⟩, ?_⟩
    decide +kernel
  retryable := ⟨_, rfl, rfl⟩
  pending := by decide +kernel

/-- nothing but a new claim happens before the next attempt. -/
theorem retry_kept_claimed :
    Along (DeliveryStep.apply sampleEnv) (KeepsRetry sampleEnv 1 2)
      ((DeliveryStep.attempt 1 1 (.parts sampleConnection sampleSends)).apply sampleEnv claimedStore)
      [.claim (minutes 5) 1 "w:1"] := by
  have h := retry_kept_iff sampleEnv 1 claimedStore 1 sampleConnection sampleSends 2
    claimedStore_leftForRetry [.claim (minutes 5) 1 "w:1"] (by decide)
  exact h.1.2 ⟨fun hc => hc, trivial⟩

/-- the receipt of the text arrives before the attachment is tried again: the message is failed. -/
theorem deliveredText_cancels_retry :
    LeftForRetry sampleEnv.ctx 1 claimedStore 1 sampleConnection sampleSends 2 ∧
      ¬ Along (DeliveryStep.apply sampleEnv) (KeepsRetry sampleEnv 1 2)
        ((DeliveryStep.attempt 1 1 (.parts sampleConnection sampleSends)).apply sampleEnv
          claimedStore)
        [.receipt 2 { sampleReceipt "delivered" with providerMessageId := some "wamid.1" }] := by
  refine ⟨claimedStore_leftForRetry, ?_⟩
  intro h
  obtain ⟨p, hp⟩ : ∃ p, resolveOutboundPart
      { sampleReceipt "delivered" with providerMessageId := some "wamid.1" }
      ((DeliveryStep.attempt 1 1 (.parts sampleConnection sampleSends)).apply sampleEnv
        claimedStore).parts = some (1, p) := ⟨_, rfl⟩
  have hopen := h.1 1 p hp (by decide) (by decide +kernel)
  exact absurd hopen (by decide +kernel)

end NexusHelpdesk.WhatsApp
