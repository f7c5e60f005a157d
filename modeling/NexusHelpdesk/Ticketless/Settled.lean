import NexusHelpdesk.Ticketless.Delivery

/-!
# A reply without a ticket is settled, once, under one purpose

* `Delivered`: a job that is over has settled its reply, every attempt computes the stored purpose,
  and every call of the sidecar is the same;
* `Sound`: the attempts that keep to it, by the state before them;
* `DeliveryInv`: the invariant, with what a worker under its lease is about to commit;
* `delivered_once`: **a run of such steps keeps a queued reply delivered**;
* `attached_reply_stays_queued`: a reply whose conversation gets a ticket of another customer stays
  queued for ever.
-/

namespace NexusHelpdesk.Ticketless

open Lib Jobs

/-! ## the property -/

structure Delivered (purpose : String) (w : DeliveryWorld) : Prop where
  settled : w.job.status = .done ∨ w.job.status = .dead →
    w.message.deliveryStatus = .sent ∨ w.message.deliveryStatus = .failed
  onePurpose : ∀ p ∈ w.purposes, p = .ok purpose
  oneSend : ∀ a ∈ w.sends, ∀ b ∈ w.sends, a = b

/-! ## the condition -/

def lastAttempt (job : BackgroundJob) : Prop := job.maxAttempts ≤ job.attemptCount + 1

def ReplyMessage.retried (m : ReplyMessage) : ReplyMessage :=
  { m with metadata := { m.metadata with providerStatus := "whatsapp_retry_scheduled" } }

/-- the purpose does not rest on the provider status alone. -/
def ReplyMessage.KeepsPurpose (m : ReplyMessage) : Prop :=
  processingPurpose m.retried = processingPurpose m

instance (m : ReplyMessage) : Decidable m.KeepsPurpose := inferInstanceAs (Decidable (_ = _))

/-- an exception other than the service's own leaves the `try`. -/
def endsPlain (checks : Except Stop Sending) (outcome : ProviderOutcome) : Bool :=
  match checks, outcome with
  | .error (.plain _), _ => true
  | .ok _, .raised _ => true
  | _, _ => false

/-- the connection is not ready, or the provider asks to try again. -/
def meetsRetry (checks : Except Stop Sending) (outcome : ProviderOutcome) : Bool :=
  match checks, outcome with
  | .error (.delivery _ _ retryable), _ => retryable
  | .ok _, .failed _ _ retryable => retryable
  | _, _ => false

namespace DeliveryWorld
variable (w : DeliveryWorld)

/-- the worker behind `token` is about to attempt the job under its lease. -/
def Attempting (token : String) : Prop :=
  w.workers token = some .claimed ∧ ownsJobLease token w.job = true

/-- the checks inside the `try`, where an attempt comes to them. -/
def checks : Option (Except Stop Sending) :=
  match w.preflight with
  | .ok (.go accountId account purpose) => some (w.prepared accountId account purpose)
  | _ => none

/-- what goes out over the sidecar goes where the attempts before sent it. -/
def SameRoute : Prop :=
  ∀ checks ∈ w.checks, ∀ sending ∈ checks.toOption,
    sending.connection.transport = "baileys_sidecar" →
      ∀ a ∈ w.sends, a.target = sending.route.chatJid

/-- the condition on an attempt: the scope of the job stands, the last attempt meets no exception but
the service's own, a reply that is tried again keeps its purpose, and the route is the same. -/
structure SoundAttempt (outcome : ProviderOutcome) : Prop where
  scope : w.inScope = true
  last : lastAttempt w.job → w.preflight.isOk = true ∧
    ∀ checks ∈ w.checks, endsPlain checks outcome = false
  retry : ¬ lastAttempt w.job → w.checks.any (meetsRetry · outcome) = true →
    w.message.KeepsPurpose
  route : w.SameRoute

end DeliveryWorld

def Sound (w : DeliveryWorld) : DeliveryStep → Prop
  | .attempt _ token outcome => w.Attempting token → w.SoundAttempt outcome
  | .fail _ token _ => ownsJobLease token w.job = true → ¬ lastAttempt w.job
  | _ => True

instance (job : BackgroundJob) : Decidable (lastAttempt job) := inferInstanceAs (Decidable (_ ≤ _))

instance (w : DeliveryWorld) (token : String) : Decidable (w.Attempting token) :=
  inferInstanceAs (Decidable (_ ∧ _))

instance (w : DeliveryWorld) : Decidable w.SameRoute :=
  inferInstanceAs (Decidable (∀ _ ∈ _, ∀ _ ∈ _, _ → ∀ _ ∈ _, _))

instance (w : DeliveryWorld) (outcome : ProviderOutcome) : Decidable (w.SoundAttempt outcome) :=
  decidable_of_iff (w.inScope = true ∧
    (lastAttempt w.job → w.preflight.isOk = true ∧
      ∀ checks ∈ w.checks, endsPlain checks outcome = false) ∧
    (¬ lastAttempt w.job → w.checks.any (meetsRetry · outcome) = true → w.message.KeepsPurpose) ∧
    w.SameRoute)
    ⟨fun ⟨h1, h2, h3, h4⟩ => ⟨h1, h2, h3, h4⟩, fun ⟨h1, h2, h3, h4⟩ => ⟨h1, h2, h3, h4⟩⟩

instance (w : DeliveryWorld) : ∀ i : DeliveryStep, Decidable (Sound w i)
  | .attempt _ _ _ => inferInstanceAs (Decidable (_ → _))
  | .fail _ _ _ => inferInstanceAs (Decidable (_ → _))
  | .visitorMessage _ | .attachConversation _ | .attachMessage _ | .environment _ | .claim _ _ |
    .heartbeat _ _ | .finish _ _ | .crash _ => inferInstanceAs (Decidable True)

/-- the rows of an attempt: whether the job then is over or goes on. -/
structure Ends (purpose : String) (job : BackgroundJob) (m : ReplyMessage) (writes : Writes) :
    Prop where
  done : writes.result = .done → writes.deliveryStatus ≠ .queued
  retry : ∀ reason, writes.result = .retry reason →
    processingPurpose { m with metadata := writes.metadata } = .ok purpose ∧
      (lastAttempt job → writes.deliveryStatus ≠ .queued)
  notRejected : ∀ errorType, writes.result ≠ .rejected errorType

def Open (job : BackgroundJob) : Prop := job.status = .pending ∨ job.status = .processing

structure DeliveryInv (purpose : String) (w : DeliveryWorld) : Prop where
  delivered : Delivered purpose w
  ofOpen : Open w.job → processingPurpose w.message = .ok purpose
  sent : ∀ a ∈ w.sends, a.idempotencyKey = w.message.idempotencyKey ∧
    a.body = w.message.visibleBody
  attempts : ∀ token job message payload writes,
    w.workers token = some (.attempted job message payload writes) →
    ownsJobLease token w.job = true →
    job.status = w.job.status ∧ job.attemptCount = w.job.attemptCount ∧
      job.maxAttempts = w.job.maxAttempts ∧ message.deliveryStatus = w.message.deliveryStatus ∧
      message.metadata = w.message.metadata ∧ Ends purpose w.job w.message writes

/-! ## the rows of an attempt -/

variable {w : DeliveryWorld} {purpose : String} {job : BackgroundJob} {m : ReplyMessage}
  {payload : JobPayload} {now : Instant} {token : String} {outcome : ProviderOutcome}

lemma attemptsRemaining_iff : attemptsRemaining job ↔ ¬ lastAttempt job := by
  unfold attemptsRemaining lastAttempt
  split
  · omega
  · omega

lemma changed_read {α : Type} [DecidableEq α] (read new : α) : changed read new read = new := by
  by_cases h : new = read
  · rw [changed_of_eq h, h]
  · exact changed_of_ne h

lemma settled_of_ne {s : DeliveryStatus} (h : s ≠ .queued) : s = .sent ∨ s = .failed := by
  cases s with
  | queued => exact absurd rfl h
  | sent => exact Or.inl rfl
  | failed => exact Or.inr rfl

lemma ends_raised {text : String} (hp : processingPurpose m = .ok purpose)
    (hlast : ¬ lastAttempt job) : Ends purpose job m (raised m payload text) where
  done := fun h => by cases h
  retry := fun reason _ => ⟨hp, fun h => absurd h hlast⟩
  notRejected := fun errorType h => by cases h

lemma ends_handleFailure {code reason : String} {retryable : Bool}
    (hkeeps : ¬ lastAttempt job → retryable = true → processingPurpose m.retried = .ok purpose) :
    Ends purpose job m (handleFailure job m payload code reason retryable) := by
  unfold handleFailure
  split
  · rename_i h
    have hlast : ¬ lastAttempt job := attemptsRemaining_iff.1 h.2
    have hp : processingPurpose { m with metadata := retryMetadata code reason m.metadata } =
        processingPurpose m.retried := rfl
    exact {
      done := fun h' => by cases h'
      retry := fun r _ => ⟨hp.trans (hkeeps hlast h.1), fun h' => absurd h' hlast⟩
      notRejected := fun e h' => by cases h' }
  · exact {
      done := fun _ h' => by cases h'
      retry := fun r h' => by cases h'
      notRejected := fun e h' => by cases h' }

lemma ends_done {writes : Writes} (hr : writes.result = .done)
    (hs : writes.deliveryStatus ≠ .queued) : Ends purpose job m writes where
  done := fun _ => hs
  retry := fun reason h => by
    rw [hr] at h
    cases h
  notRejected := fun e h => by
    rw [hr] at h
    cases h

lemma preflight_alreadySent (h : w.preflight = .ok .alreadySent) : w.message.isSent := by
  unfold DeliveryWorld.preflight Ticketless.preflight at h
  obtain ⟨⟨accountId, account⟩, -, h⟩ := bind_eq_ok.1 h
  by_cases hsent : w.message.isSent
  · exact hsent
  · simp only [if_neg hsent] at h
    obtain ⟨p, -, h⟩ := bind_eq_ok.1 h
    split at h <;> cases h

lemma process_ends (hp : processingPurpose w.message = .ok purpose)
    (hsound : w.SoundAttempt outcome) :
    Ends purpose w.job w.message (w.process outcome).1 := by
  have hlast := hsound.last
  have hretry := hsound.retry
  unfold DeliveryWorld.checks at hlast hretry
  unfold DeliveryWorld.process
  cases hpre : w.preflight with
  | error text =>
    have hnot : ¬ lastAttempt w.job := by
      intro h
      have hok := (hlast h).1
      rw [hpre] at hok
      cases hok
    exact ends_raised hp hnot
  | ok pre =>
    cases pre with
    | alreadySent =>
      have hsent : w.message.deliveryStatus = .sent := (preflight_alreadySent hpre).1
      refine ends_done rfl ?_
      show w.message.deliveryStatus ≠ .queued
      rw [hsent]
      exact fun h => by cases h
    | go accountId account p =>
      simp only [hpre] at hlast hretry
      show Ends purpose w.job w.message (deliverWrites _ _ _ p (w.prepared _ _ _) outcome)
      cases hprep : w.prepared accountId account p with
      | error stop =>
        simp only [hprep] at hlast hretry
        cases stop with
        | plain text =>
          have hnot : ¬ lastAttempt w.job := fun h => by cases (hlast h).2 _ rfl
          exact ends_raised hp hnot
        | delivery code reason retryable =>
          exact ends_handleFailure fun h hr => (hretry h hr).trans hp
      | ok sending =>
        simp only [hprep] at hlast hretry
        cases outcome with
        | sent providerMessageId sentAt => exact ends_done rfl (fun h => by cases h)
        | failed code message retryable =>
          exact ends_handleFailure fun h hr => (hretry h hr).trans hp
        | raised text =>
          have hnot : ¬ lastAttempt w.job := fun h => by cases (hlast h).2 _ rfl
          exact ends_raised hp hnot

lemma computed_purpose (hp : processingPurpose w.message = .ok purpose) :
    ∀ p ∈ w.computed, p = .ok purpose := by
  intro p hmem
  unfold DeliveryWorld.computed at hmem
  cases hauth : authorized w.env w.conversation w.message w.payload with
  | error text =>
    simp [hauth] at hmem
  | ok found =>
    simp only [hauth] at hmem
    split at hmem
    · cases hmem
    · rw [List.mem_singleton.1 hmem]
      exact hp

lemma prepared_body {env : Environment} {c : WebchatConversation} {visitor : List VisitorMessage}
    {accountId : ℕ} {account : ChannelAccount} {sending : Sending}
    (h : prepared env c m visitor accountId account purpose = .ok sending) :
    sending.body = m.visibleBody := by
  unfold prepared at h
  obtain ⟨connection, -, h⟩ := bind_eq_ok.1 h
  obtain ⟨route, -, h⟩ := bind_eq_ok.1 h
  -- the six refusals, then the three transports
  split at h
  · cases h
  split at h
  · cases h
  split at h
  · cases h
  split at h
  · cases h
  split at h
  · cases h
  split at h
  · cases h
  split at h
  · cases h
    rfl
  split at h
  · split at h
    · cases h
      rfl
    · cases h
  · cases h

lemma process_sends {a : SidecarSend} (ha : a ∈ (w.process outcome).2) :
    ∃ sending, w.checks = some (.ok sending) ∧
      sending.connection.transport = "baileys_sidecar" ∧ (w.process outcome).2 = [a] ∧
      a = ⟨w.message.idempotencyKey, sending.route.chatJid, w.message.visibleBody⟩ := by
  unfold DeliveryWorld.process at ha ⊢
  unfold DeliveryWorld.checks
  cases hpre : w.preflight with
  | error text => simp [hpre] at ha
  | ok pre =>
    cases pre with
    | alreadySent => simp [hpre] at ha
    | go accountId account p =>
      cases hprep : w.prepared accountId account p with
      | error stop => simp [hpre, hprep] at ha
      | ok sending =>
        simp only [hpre, hprep, DeliveryWorld.sidecarSend] at ha ⊢
        split at ha
        · rename_i ht
          rw [if_pos ht]
          have hbody : sending.body = w.message.visibleBody := prepared_body hprep
          rw [hbody] at ha ⊢
          have hone := List.mem_singleton.1 ha
          exact ⟨sending, rfl, ht, by rw [hone], hone⟩
        · cases ha

/-! ## one step -/

section Step
variable {w' : DeliveryWorld} {c : Settings} {i : DeliveryStep} {job' : BackgroundJob}
  {t : Option ℕ}

lemma owns_processing (h : ownsJobLease token job = true) : job.status = .processing := by
  simp only [ownsJobLease, Bool.and_eq_true, beq_iff_eq] at h
  exact h.2

lemma not_owns (h : job.status ≠ .processing) : ¬ ownsJobLease token job = true :=
  fun hown => h (owns_processing hown)

lemma renewLease_same (now : Instant) (token : String) (job : BackgroundJob) :
    (renewLease now token job).status = job.status ∧
      (renewLease now token job).attemptCount = job.attemptCount ∧
      (renewLease now token job).maxAttempts = job.maxAttempts ∧
      (renewLease now token job).lockedBy = job.lockedBy := by
  unfold renewLease
  split <;> exact ⟨rfl, rfl, rfl, rfl⟩

lemma owns_renewLease {t : String} (h : ownsJobLease t (renewLease now token job) = true) :
    ownsJobLease t job = true := by
  obtain ⟨hst, -, -, hby⟩ := renewLease_same now token job
  unfold ownsJobLease at h ⊢
  rwa [hst, hby] at h

lemma lastAttempt_congr (h : job'.attemptCount = job.attemptCount)
    (h' : job'.maxAttempts = job.maxAttempts) : lastAttempt job' ↔ lastAttempt job := by
  unfold lastAttempt
  rw [h, h']

lemma Ends.congr {m' : ReplyMessage} {writes : Writes} (h : Ends purpose job m writes)
    (hm : m' = { m with ticketId := t }) (hn : job'.attemptCount = job.attemptCount)
    (hx : job'.maxAttempts = job.maxAttempts) :
    Ends purpose job' m' writes := by
  subst hm
  exact {
    done := h.done
    retry := fun r hr =>
      ⟨(h.retry r hr).1, fun hl => (h.retry r hr).2 ((lastAttempt_congr hn hx).1 hl)⟩
    notRejected := h.notRejected }

lemma DeliveryInv.keep (h : DeliveryInv purpose w)
    (hm : w'.message = { w.message with ticketId := t }) (hp : w'.purposes = w.purposes)
    (hs : w'.sends = w.sends) (hopen : Open w'.job → Open w.job)
    (hover : w'.job.status = .done ∨ w'.job.status = .dead →
      w.job.status = .done ∨ w.job.status = .dead)
    (hw : ∀ token job m payload writes, w'.workers token = some (.attempted job m payload writes) →
      ownsJobLease token w'.job = true →
      w.workers token = some (.attempted job m payload writes) ∧
        ownsJobLease token w.job = true ∧ w'.job.status = w.job.status ∧
        w'.job.attemptCount = w.job.attemptCount ∧ w'.job.maxAttempts = w.job.maxAttempts) :
    DeliveryInv purpose w' := by
  have hstatus : w'.message.deliveryStatus = w.message.deliveryStatus := by rw [hm]
  have hmeta : w'.message.metadata = w.message.metadata := by rw [hm]
  exact {
    delivered := {
      settled := by
        intro hover'
        rw [hstatus]
        exact h.delivered.settled (hover hover')
      onePurpose := by
        rw [hp]
        exact h.delivered.onePurpose
      oneSend := by
        rw [hs]
        exact h.delivered.oneSend }
    ofOpen := by
      intro hopen'
      rw [hm]
      exact h.ofOpen (hopen hopen')
    sent := by
      rw [hs, hm]
      exact h.sent
    attempts := by
      intro token job m payload writes hin hown
      obtain ⟨hin', hown', hst, hn, hx⟩ := hw token job m payload writes hin hown
      obtain ⟨hst', hn', hx', hds, hmd, hends⟩ := h.attempts token job m payload writes hin' hown'
      exact ⟨hst'.trans hst.symm, hn'.trans hn.symm, hx'.trans hx.symm, hds.trans hstatus.symm,
        hmd.trans hmeta.symm, hends.congr hm hn hx⟩ }

lemma DeliveryInv.write (h : DeliveryInv purpose w) (hid : w'.message.id = w.message.id)
    (hbody : w'.message.visibleBody = w.message.visibleBody) (hp : w'.purposes = w.purposes)
    (hs : w'.sends = w.sends) (hst : w'.job.status ≠ .processing)
    (hopen : w'.job.status = .pending → processingPurpose w'.message = .ok purpose)
    (hover : w'.job.status = .done ∨ w'.job.status = .dead →
      w'.message.deliveryStatus ≠ .queued) : DeliveryInv purpose w' where
  delivered := {
    settled := fun h' => settled_of_ne (hover h')
    onePurpose := by
      rw [hp]
      exact h.delivered.onePurpose
    oneSend := by
      rw [hs]
      exact h.delivered.oneSend }
  ofOpen := by
    intro hopen'
    rcases hopen' with hpending | hprocessing
    · exact hopen hpending
    · exact absurd hprocessing hst
  sent := by
    rw [hs, hbody]
    have hkey : w'.message.idempotencyKey = w.message.idempotencyKey := by
      unfold ReplyMessage.idempotencyKey
      rw [hid]
    rw [hkey]
    exact h.sent
  attempts := fun token job m payload writes _ hown => absurd hown (not_owns hst)

lemma markRetry_status (now : Instant) (reason : String) (job : BackgroundJob) :
    (lastAttempt job ∧ (markRetry now reason job).status = .dead) ∨
      (¬ lastAttempt job ∧ (markRetry now reason job).status = .pending) := by
  unfold markRetry lastAttempt
  by_cases h : job.maxAttempts ≤ job.attemptCount + 1
  · left
    exact ⟨h, by simp [h]⟩
  · right
    exact ⟨h, by simp [h]⟩

section
variable (h : DeliveryInv purpose w)
include h

lemma DeliveryInv.release (token : String) :
    DeliveryInv purpose { w with workers := w.workers.release token } :=
  h.keep (t := w.message.ticketId) rfl rfl rfl id id fun t job m payload writes hin hown =>
    ⟨(InHand.of_release hin).2, hown, rfl, rfl, rfl⟩

lemma DeliveryInv.renew (now : Instant) (token : String) :
    DeliveryInv purpose { w with job := renewLease now token w.job } := by
  obtain ⟨hst, hn, hx, hby⟩ := renewLease_same now token w.job
  refine h.keep (t := w.message.ticketId) rfl rfl rfl ?_ ?_ ?_
  · intro hopen
    unfold Open at hopen ⊢
    rwa [hst] at hopen
  · intro hover
    rwa [hst] at hover
  · intro t job m payload writes hin hown
    exact ⟨hin, owns_renewLease hown, hst, hn, hx⟩

lemma DeliveryInv.claim (c : Settings) (now : Instant) (token : String) :
    DeliveryInv purpose (w.applyClaim c now token) := by
  unfold DeliveryWorld.applyClaim
  split
  · rename_i hclaim
    obtain ⟨-, -, hdue, -⟩ := hclaim
    have hopen : Open w.job := by
      rcases (Bool.or_eq_true ..).mp hdue with hp | hs
      · simp only [pendingDue, Bool.and_eq_true, beq_iff_eq] at hp
        exact Or.inl hp.1
      · simp only [staleProcessing, Bool.and_eq_true, beq_iff_eq] at hs
        exact Or.inr hs.1
    refine h.keep (t := w.message.ticketId) rfl rfl rfl (fun _ => hopen) ?_ ?_
    · intro hover
      rcases hover with hdone | hdead
      · cases hdone
      · cases hdead
    · intro t job m payload writes hin hown
      -- the new lease is that of a worker that has not begun its attempt
      have ht : t = token := by
        simp only [ownsJobLease, takeLease, Bool.and_eq_true, beq_iff_eq, Option.some.injEq] at hown
        exact hown.1.symm
      rcases InHand.of_take hin with ⟨-, heq⟩ | ⟨hne, -⟩
      · cases heq
      · exact absurd ht hne
  · exact h

lemma DeliveryInv.attempt {outcome : ProviderOutcome} (hown : ownsJobLease token w.job = true)
    (hsound : w.SoundAttempt outcome) : DeliveryInv purpose (w.attempt token outcome) := by
  have hp : processingPurpose w.message = .ok purpose := h.ofOpen (Or.inr (owns_processing hown))
  have hends : Ends purpose w.job w.message (w.process outcome).1 := process_ends hp hsound
  have hnew : ∀ a ∈ (w.process outcome).2, a.idempotencyKey = w.message.idempotencyKey ∧
      a.body = w.message.visibleBody ∧ (∀ b ∈ w.sends, b = a) ∧ (w.process outcome).2 = [a] := by
    intro a ha
    obtain ⟨sending, hchecks, ht, hone, rfl⟩ := process_sends ha
    refine ⟨rfl, rfl, ?_, hone⟩
    intro b hb
    obtain ⟨hkey, hbody⟩ := h.sent b hb
    have htarget : b.target = sending.route.chatJid :=
      hsound.route _ hchecks sending rfl ht b hb
    calc b = ⟨b.idempotencyKey, b.target, b.body⟩ := rfl
      _ = ⟨w.message.idempotencyKey, sending.route.chatJid, w.message.visibleBody⟩ := by
        rw [hkey, htarget, hbody]
  exact {
    delivered := {
      settled := h.delivered.settled
      onePurpose := by
        intro q hq
        rcases List.mem_append.1 hq with hq | hq
        · exact computed_purpose hp q hq
        · exact h.delivered.onePurpose q hq
      oneSend := by
        intro a ha b hb
        rcases List.mem_append.1 ha with ha | ha
        · obtain ⟨-, -, hold, hone⟩ := hnew a ha
          rcases List.mem_append.1 hb with hb | hb
          · rw [hone] at hb
            exact (List.mem_singleton.1 hb).symm
          · exact (hold b hb).symm
        · rcases List.mem_append.1 hb with hb | hb
          · exact (hnew b hb).2.2.1 a ha
          · exact h.delivered.oneSend a ha b hb }
    ofOpen := fun _ => hp
    sent := by
      intro a ha
      rcases List.mem_append.1 ha with ha | ha
      · exact ⟨(hnew a ha).1, (hnew a ha).2.1⟩
      · exact h.sent a ha
    attempts := by
      intro t job m payload writes hin hown'
      rcases InHand.of_take hin with ⟨-, heq⟩ | ⟨-, hin⟩
      · cases heq
        exact ⟨rfl, rfl, rfl, rfl, rfl, hends⟩
      · exact h.attempts t job m payload writes hin hown' }

lemma DeliveryInv.finish (now : Instant) (token : String) :
    DeliveryInv purpose (w.applyFinish now token) := by
  unfold DeliveryWorld.applyFinish
  cases hin : w.workers token with
  | none => exact h
  | some phase =>
    cases phase with
    | claimed => exact h
    | attempted job m payload writes =>
      by_cases hown : ownsJobLease token w.job = true
      · obtain ⟨hst, hn, hx, hds, hmd, hends⟩ := h.attempts token job m payload writes hin hown
        simp only [if_pos hown]
        have hstatus : (flushJob job (writes.result.mark now job) w.job).status =
            (writes.result.mark now job).status := by
          show changed job.status _ w.job.status = _
          rw [hst, changed_read]
        rw [hds, hmd, changed_read, changed_read]
        cases hr : writes.result with
        | done =>
          rw [hr] at hstatus
          have hdone : (Result.mark now job .done).status = .done := rfl
          rw [hdone] at hstatus
          refine h.write rfl rfl rfl rfl ?_ ?_ (fun _ => hends.done hr)
          · exact fun h' => by cases hstatus.symm.trans h'
          · exact fun h' => by cases hstatus.symm.trans h'
        | retry reason =>
          rw [hr] at hstatus
          obtain ⟨hpurpose, hqueued⟩ := hends.retry reason hr
          have hmark : (Result.mark now job (.retry reason)).status =
              (markRetry now reason job).status := rfl
          have hlast : lastAttempt job ↔ lastAttempt w.job := lastAttempt_congr hn hx
          rw [hmark] at hstatus
          rcases markRetry_status now reason job with ⟨hl, hdead⟩ | ⟨-, hpending⟩
          · rw [hdead] at hstatus
            refine h.write rfl rfl rfl rfl ?_ ?_ (fun _ => hqueued (hlast.1 hl))
            · exact fun h' => by cases hstatus.symm.trans h'
            · exact fun h' => by cases hstatus.symm.trans h'
          · rw [hpending] at hstatus
            refine h.write rfl rfl rfl rfl ?_ (fun _ => hpurpose) ?_
            · exact fun h' => by cases hstatus.symm.trans h'
            · rintro (h' | h')
              · cases hstatus.symm.trans h'
              · cases hstatus.symm.trans h'
        | rejected errorType => exact absurd hr (hends.notRejected errorType)
      · simp only [if_neg hown]
        exact h.release token

lemma DeliveryInv.fail (now : Instant) (token errorType : String)
    (hlast : ownsJobLease token w.job = true → ¬ lastAttempt w.job) :
    DeliveryInv purpose (w.applyFail now token errorType) := by
  unfold DeliveryWorld.applyFail
  cases hin : w.workers token with
  | none => exact h
  | some phase =>
    cases phase with
    | claimed => exact h
    | attempted job m payload writes =>
      by_cases hown : ownsJobLease token w.job = true
      · simp only [if_pos hown]
        have hp : processingPurpose w.message = .ok purpose :=
          h.ofOpen (Or.inr (owns_processing hown))
        rcases markRetry_status now ("Unhandled background job exception: " ++ errorType) w.job with
          ⟨hl, -⟩ | ⟨-, hpending⟩
        · exact absurd hl (hlast hown)
        · refine h.write rfl rfl rfl rfl ?_ (fun _ => hp) ?_
          · exact fun h' => by cases hpending.symm.trans h'
          · rintro (h' | h')
            · cases hpending.symm.trans h'
            · cases hpending.symm.trans h'
      · simp only [if_neg hown]
        exact h.release token

lemma deliveryInv_step (hi : Sound w i) :
    DeliveryInv purpose (deliveryStep c i w) := by
  have hkeep : ∀ (t : Option ℕ) (conversation : WebchatConversation) (env : Environment)
      (visitor : List VisitorMessage), DeliveryInv purpose { w with
        message := { w.message with ticketId := t }
        conversation := conversation
        env := env
        visitorMessages := visitor } := by
    intro t conversation env visitor
    exact h.keep rfl rfl rfl id id fun _ _ _ _ _ hin hown => ⟨hin, hown, rfl, rfl, rfl⟩
  cases i with
  | visitorMessage v => exact hkeep _ _ _ _
  | attachConversation ticketId => exact hkeep _ _ _ _
  | attachMessage ticketId => exact hkeep _ _ _ _
  | environment env => exact hkeep _ _ _ _
  | claim now token => exact h.claim c now token
  | heartbeat now token => exact h.renew now token
  | attempt now token outcome =>
    show DeliveryInv purpose (w.applyAttempt now token outcome)
    unfold DeliveryWorld.applyAttempt
    cases hin : w.workers token with
    | none => exact h
    | some phase =>
      cases phase with
      | attempted job m payload writes => exact h
      | claimed =>
        by_cases hown : ownsJobLease token w.job = true
        · obtain ⟨hst, hn, hx, hby⟩ := renewLease_same now token w.job
          have hsound : w.SoundAttempt outcome := hi ⟨hin, hown⟩
          have hlast := lastAttempt_congr hn hx
          have hown' : ownsJobLease token (renewLease now token w.job) = true := by
            unfold ownsJobLease at hown ⊢
            rwa [hst, hby]
          simp only [if_pos hown]
          split
          · exact (h.renew now token).attempt hown' {
              scope := hsound.scope
              last := fun hl => hsound.last (hlast.1 hl)
              retry := fun hl => hsound.retry fun hl' => hl (hlast.2 hl')
              route := hsound.route }
          · rename_i hscope
            exact absurd hsound.scope hscope
        · simp only [if_neg hown]
          exact h.release token
  | finish now token => exact h.finish now token
  | fail now token errorType => exact h.fail now token errorType hi
  | crash token => exact h.release token

end

end Step

section Queue
variable {maxAttempts : ℕ} {env : Environment} {conversation : WebchatConversation}
  {message : ReplyMessage} {visitor : List VisitorMessage}

lemma deliveryInv_queued (h : queueTicketlessWhatsappDelivery now maxAttempts env conversation
    message visitor = .ok w) :
    ∃ purpose, w.message.metadata.processingPurpose = some purpose ∧ DeliveryInv purpose w := by
  unfold queueTicketlessWhatsappDelivery at h
  split_ifs at h
  obtain ⟨purpose, hp, h⟩ := bind_eq_ok.1 h
  obtain ⟨route, -, h⟩ := bind_eq_ok.1 h
  cases h
  refine ⟨purpose, rfl, ?_⟩
  exact {
    delivered := {
      settled := by
        rintro (h | h)
        · cases h
        · cases h
      onePurpose := fun p h => by cases h
      oneSend := fun a h => by cases h }
    ofOpen := fun _ => hp
    sent := fun a h => by cases h
    attempts := fun token job m payload writes h => by cases h }

theorem delivered_once (c : Settings) {l : List DeliveryStep}
    (hq : queueTicketlessWhatsappDelivery now maxAttempts env conversation message visitor = .ok w)
    (hl : Along (deliveryStep c) Sound w l) :
    ∃ purpose, w.message.metadata.processingPurpose = some purpose ∧
      ∀ p, p <+: l → Delivered purpose (run (deliveryStep c) w p) := by
  obtain ⟨purpose, hstored, hinv⟩ := deliveryInv_queued hq
  refine ⟨purpose, hstored, ?_⟩
  have hstep : ∀ w i, DeliveryInv purpose w → Sound w i →
      DeliveryInv purpose (deliveryStep c i w) := fun w i h hi => deliveryInv_step h hi
  have hall : Along (deliveryStep c) (fun w i => Delivered purpose (deliveryStep c i w)) w l :=
    hl.imp hstep (fun w i h hi => (hstep w i h hi).delivered) hinv
  exact (forall_prefix_iff w l).2 ⟨hinv.delivered, hall⟩

end Queue

/-! ## two replies -/

def sampleSettings : Settings := ⟨300, 20⟩

def sampleConnection : WhatsAppConnection :=
  ⟨1, "baileys_sidecar", "active", "connected", "linked", "active", "verified", 2, 2, none⟩

def sampleEnv (connection : WhatsAppConnection) : Environment where
  accounts := fun id => if id = 3 then some ⟨"whatsapp", true, some 1⟩ else none
  connections := fun id => if id = 3 then some connection else none
  tenants := fun key => if key = "acme" then some 1 else none
  tickets := fun id => if id = 9 then some (some 1, some 6) else none
  customers := fun id => if id = 5 ∨ id = 6 then some (some 1) else none
  control := some (some 5)
  restriction := fun _ => none
  whatsappEnabled := true
  dispatchBlocked := none
  shadowMode := false

def sampleConversation : WebchatConversation := ⟨4, "acme", "whatsapp", none⟩

def sampleMessage : ReplyMessage :=
  ⟨11, none, "agent", "Your parcel is on its way.", none, none, some 7, some "Ana", .queued,
    ⟨"whatsapp_agent_reply_queued", "human_agent", none, none, none, none, none, none⟩⟩

def sampleVisitor : VisitorMessage := ⟨some 3, "41790000000@s.whatsapp.net", "+41790000000"⟩

def sampleWorld (maxAttempts : ℕ) : DeliveryWorld where
  conversation := sampleConversation
  message := { sampleMessage with
    metadata := { sampleMessage.metadata with processingPurpose := some humanSupport } }
  visitorMessages := [sampleVisitor]
  env := sampleEnv sampleConnection
  job := enqueueDeliveryJob 0 maxAttempts
  payload := .delivery 3
  scope := deriveJobScopeValues (sampleEnv sampleConnection) sampleConversation (.delivery 3)
  workers := .empty
  purposes := []
  sends := []

lemma sample_queued (maxAttempts : ℕ) :
    queueTicketlessWhatsappDelivery 0 maxAttempts (sampleEnv sampleConnection) sampleConversation
      sampleMessage [sampleVisitor] = .ok (sampleWorld maxAttempts) := by
  have hover : sampleConversation.overWhatsapp := by decide +kernel
  have hpurpose : processingPurpose sampleMessage = .ok humanSupport := by decide +kernel
  have hroute : latestRoute [sampleVisitor] =
      .ok ⟨3, "41790000000@s.whatsapp.net", some "+41790000000"⟩ := by decide +kernel
  have hdirection : ¬ sampleMessage.direction ≠ "agent" := by decide
  unfold queueTicketlessWhatsappDelivery
  rw [if_neg (by decide), if_neg (not_not.2 hover), if_neg hdirection, hpurpose, hroute]
  rfl

/-- the connection is down at the first attempt; the second one sends. -/
def retriedRun : List DeliveryStep :=
  [.environment (sampleEnv { sampleConnection with observedState := "disconnected" }),
    .claim 0 "a", .attempt 0 "a" (.raised "not reached"), .finish 0 "a",
    .environment (sampleEnv sampleConnection), .visitorMessage sampleVisitor,
    .claim (minutes 1) "b", .attempt (minutes 1) "b" (.sent "wamid.1" (minutes 1)),
    .finish (minutes 1) "b"]

theorem retried_reply_delivered :
    ∃ purpose, (sampleWorld 2).message.metadata.processingPurpose = some purpose ∧
      ∀ p, p <+: retriedRun →
        Delivered purpose (run (deliveryStep sampleSettings) (sampleWorld 2) p) :=
  delivered_once sampleSettings (sample_queued 2) (by decide +kernel)

/-- the conversation gets a ticket of another customer; a worker then takes the job up. -/
def attachedRun : List DeliveryStep :=
  [.attachConversation 9, .claim 0 "a", .attempt 0 "a" (.sent "wamid.1" 0)]

theorem attached_reply_stays_queued :
    ¬ ∀ (w : DeliveryWorld) (l : List DeliveryStep),
      queueTicketlessWhatsappDelivery 0 3 (sampleEnv sampleConnection) sampleConversation
        sampleMessage [sampleVisitor] = .ok w →
      Delivered humanSupport (run (deliveryStep sampleSettings) w l) := by
  intro h
  have hend := (h (sampleWorld 3) attachedRun (sample_queued 3)).settled
  have hdead : (run (deliveryStep sampleSettings) (sampleWorld 3) attachedRun).job.status = .dead ∧
      (run (deliveryStep sampleSettings) (sampleWorld 3) attachedRun).message.deliveryStatus =
        .queued := by
    decide +kernel
  rcases hend (Or.inr hdead.1) with hs | hs
  · cases hdead.2.symm.trans hs
  · cases hdead.2.symm.trans hs

end NexusHelpdesk.Ticketless
