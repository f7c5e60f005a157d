import NexusHelpdesk.Desk.Basic
import NexusHelpdesk.Lib.Batch
import NexusHelpdesk.Lib.Run
import NexusHelpdesk.Lib.WriteBack

/-!
# The telephony event inbox (`telephony_event_service.py`)

Provider events are stored once per `(provider, provider_event_id)` and projected by the delivering
webhook; what could not be projected is claimed again by the background worker.

* `startProcessing`, `complete`, `retry`: the three writers of an inbox row;
* `projectLivekitRow`, `projectControllerRow`: they decide between the three, from what the lookups
  and the projection answered;
* `deliver`: one webhook call (`process_livekit_webhook_event`, `process_controller_event`), whose
  transaction holds the row lock from its first read to its commit;
* `claimDueEvents`, `load`, `finish`: the worker (`_claim_due_events`, then `_reprocess_one`).  A
  replay reads its row at `load` and writes it back by primary key at `finish`: other
  transactions may commit in between, and `flush` then writes only the columns that changed.

`inbox_settles`: **as long as no claim takes a row for its fifth attempt and no replay writes a row
that settled meanwhile, every row is terminal or claimed at all late times, and terminal rows stay
as they are.**
-/

namespace NexusHelpdesk.Telephony

open Lib

inductive InboxStatus where
  | received | processing | processed | ignored | retryable | failed | deadLetter
deriving DecidableEq, Repr

def InboxStatus.terminal : InboxStatus → Bool
  | .processed | .ignored | .deadLetter => true
  | _ => false

structure TelephonyEventInbox where
  provider : String
  providerEventId : String
  eventType : String
  payloadSha256 : String
  safePayloadJson : String
  status : InboxStatus
  tenantId : Option ℕ
  channelAccountId : Option ℕ
  voiceSessionId : Option ℕ
  attemptCount : ℕ
  lastErrorCode : Option String
  nextAttemptAt : Option Instant
  processingStartedAt : Option Instant
  receivedAt : Instant
  processedAt : Option Instant
  deadLetteredAt : Option Instant
deriving DecidableEq, Repr

def maxAttempts : ℕ := 5
def processingLeaseSeconds : ℤ := 90

/-! ## the writers of a row -/

namespace TelephonyEventInbox

def startProcessing (now : Instant) (row : TelephonyEventInbox) : TelephonyEventInbox :=
  { row with
    status := .processing
    attemptCount := row.attemptCount + 1
    processingStartedAt := some now
    nextAttemptAt := none
    lastErrorCode := none }

def complete (now : Instant) (status : InboxStatus) (voiceSessionId : Option ℕ)
    (errorCode : Option String) (row : TelephonyEventInbox) : TelephonyEventInbox :=
  { row with
    status := status
    voiceSessionId := voiceSessionId
    lastErrorCode := errorCode
    processedAt := some now
    processingStartedAt := none
    nextAttemptAt := none
    deadLetteredAt := if status = .deadLetter then some now else row.deadLetteredAt }

/-- `min(5 * 2 ** max(attempt_count - 1, 0), 300)` seconds. -/
def backoff (attemptCount : ℕ) : ℤ := seconds (min (5 * 2 ^ (attemptCount - 1)) 300 : ℕ)

def retry (now : Instant) (errorCode : String) (row : TelephonyEventInbox) :
    TelephonyEventInbox :=
  let code := String.ofList (errorCode.toList.take 120)
  if maxAttempts ≤ row.attemptCount then
    row.complete now .deadLetter row.voiceSessionId (some code)
  else
    { row with
      status := .retryable
      lastErrorCode := some code
      processingStartedAt := none
      nextAttemptAt := some (now + backoff row.attemptCount) }

end TelephonyEventInbox

open TelephonyEventInbox

/-! ## projection -/

/-- the account an event was routed to, and what its projection did: the name of the exception it
raised, or the voice session it projected to, if any. -/
structure Routed where
  tenantId : Option ℕ
  channelAccountId : ℕ
  result : Except String (Option ℕ)

/-- the tail of both row projections: the route is noted, then the projection runs in a savepoint. -/
def projectRouted (now : Instant) (failed notProjected : String) (r : Routed)
    (row : TelephonyEventInbox) : TelephonyEventInbox :=
  let row := { row with tenantId := r.tenantId, channelAccountId := some r.channelAccountId }
  match r.result with
  | .error exc => row.retry now (failed ++ exc)
  | .ok (some session) => row.complete now .processed (some session) none
  | .ok none => row.complete now .ignored none (some notProjected)

/-- `_project_livekit_row`; the route is `None` when it is unknown or ambiguous. -/
def projectLivekitRow (now : Instant) (route : Option Routed) (row : TelephonyEventInbox) :
    TelephonyEventInbox :=
  match route with
  | none => row.complete now .ignored none (some "unknown_or_ambiguous_voice_route")
  | some r => projectRouted now "projection:" "event_not_projected" r row

inductive ControllerRoute where
  | unknownRoom
  | channelMissing
  | found (r : Routed)

def projectControllerRow (now : Instant) (route : ControllerRoute) (row : TelephonyEventInbox) :
    TelephonyEventInbox :=
  match route with
  | .unknownRoom => row.complete now .ignored none (some "unknown_controller_room")
  | .channelMissing => row.retry now "controller_channel_missing"
  | .found r => projectRouted now "controller_projection:" "controller_event_not_projected" r row

/-! ## webhooks -/

/-- the two webhooks, each with what its projection will find. -/
inductive Webhook where
  | livekit (route : Option Routed)
  | controller (route : ControllerRoute)

def Webhook.provider : Webhook → String
  | .livekit _ => "livekit"
  | .controller _ => "livekit_agent"

def Webhook.project (now : Instant) (row : TelephonyEventInbox) : Webhook → TelephonyEventInbox
  | .livekit route => projectLivekitRow now route row
  | .controller route => projectControllerRow now route row

structure Delivery where
  providerEventId : String
  eventType : String
  payloadSha256 : String
  safePayloadJson : String

def newRow (now : Instant) (provider : String) (d : Delivery) : TelephonyEventInbox where
  provider := provider
  providerEventId := d.providerEventId
  eventType := d.eventType
  payloadSha256 := d.payloadSha256
  safePayloadJson := d.safePayloadJson
  status := .received
  tenantId := none
  channelAccountId := none
  voiceSessionId := none
  attemptCount := 0
  lastErrorCode := none
  nextAttemptAt := none
  processingStartedAt := none
  receivedAt := now
  processedAt := none
  deadLetteredAt := none

def loadExisting (inbox : Table TelephonyEventInbox) (provider providerEventId : String) :
    Option (ℕ × TelephonyEventInbox) :=
  (inbox.select fun _ row =>
    row.provider = provider ∧ row.providerEventId = providerEventId).head?

/-- `row.next_attempt_at and row.next_attempt_at > utc_now()` on a retryable row. -/
def backingOff (now : Instant) (row : TelephonyEventInbox) : Bool :=
  row.status == .retryable && row.nextAttemptAt.any (now < ·)

def deliver (now : Instant) (hook : Webhook) (d : Delivery) (inbox : Table TelephonyEventInbox) :
    Table TelephonyEventInbox :=
  match loadExisting inbox hook.provider d.providerEventId with
  | some (id, row) =>
    if row.payloadSha256 ≠ d.payloadSha256 then inbox
    else if row.status.terminal then inbox
    else if backingOff now row then inbox
    else inbox.set id (hook.project now (row.startProcessing now))
  | none => inbox.insert (hook.project now ((newRow now hook.provider d).startProcessing now))

/-! ## the worker -/

def dueRetry (now : Instant) (row : TelephonyEventInbox) : Bool :=
  row.status == .retryable && decide (row.attemptCount < maxAttempts) &&
    row.nextAttemptAt.all (· ≤ now)

def staleProcessing (now : Instant) (row : TelephonyEventInbox) : Bool :=
  row.status == .processing && decide (row.attemptCount < maxAttempts) &&
    row.processingStartedAt.any (· ≤ now - seconds processingLeaseSeconds)

def due (now : Instant) (row : TelephonyEventInbox) : Bool :=
  dueRetry now row || staleProcessing now row

/-- `max(1, min(int(limit or 20), 100))`. -/
def claimLimit (limit : ℤ) : ℕ := (max 1 (min (if limit = 0 then 20 else limit) 100)).toNat

def claimedEvents (now : Instant) (limit : ℤ) (inbox : Table TelephonyEventInbox) : List ℕ :=
  inbox.batch (Table.earlier receivedAt) (fun _ row => due now row) (claimLimit limit)

def claimDueEvents (now : Instant) (limit : ℤ) (inbox : Table TelephonyEventInbox) :
    Table TelephonyEventInbox :=
  inbox.modifyAll (claimedEvents now limit inbox) (startProcessing now)

/-- what `_reprocess_one` meets: an envelope that does not open, a projection, or an exception that
reaches `reprocess_due_telephony_events` (which rolls back and reads the row anew). -/
inductive Replay where
  | envelopeInvalid
  | projection (livekit : Option Routed) (controller : ControllerRoute)
  | internalError

def reprocess (now : Instant) (replay : Replay) (row : TelephonyEventInbox) :
    TelephonyEventInbox :=
  match replay with
  | .envelopeInvalid =>
    row.complete now .deadLetter row.voiceSessionId (some "telephony_event_envelope_invalid")
  | .projection livekit controller =>
    if row.provider = "livekit" then projectLivekitRow now livekit row
    else if row.provider = "livekit_agent" then projectControllerRow now controller row
    else row.complete now .deadLetter row.voiceSessionId
      (some "unsupported_telephony_event_provider")
  | .internalError => row.retry now "telephony_event_replay_internal_error"

/-- the update by primary key that a flush emits: only the columns that changed in memory. -/
def flush (read new stored : TelephonyEventInbox) : TelephonyEventInbox :=
  { stored with
    status := changed read.status new.status stored.status
    tenantId := changed read.tenantId new.tenantId stored.tenantId
    channelAccountId := changed read.channelAccountId new.channelAccountId stored.channelAccountId
    voiceSessionId := changed read.voiceSessionId new.voiceSessionId stored.voiceSessionId
    attemptCount := changed read.attemptCount new.attemptCount stored.attemptCount
    lastErrorCode := changed read.lastErrorCode new.lastErrorCode stored.lastErrorCode
    nextAttemptAt := changed read.nextAttemptAt new.nextAttemptAt stored.nextAttemptAt
    processingStartedAt :=
      changed read.processingStartedAt new.processingStartedAt stored.processingStartedAt
    processedAt := changed read.processedAt new.processedAt stored.processedAt
    deadLetteredAt := changed read.deadLetteredAt new.deadLetteredAt stored.deadLetteredAt }

/-! ## runs -/

/-- the committed inbox, and the row each worker has read and not yet written back. -/
structure Service where
  inbox : Table TelephonyEventInbox
  replays : InHand ℕ (ℕ × TelephonyEventInbox)

def Service.empty : Service := ⟨.empty, .empty⟩

/-- `db.get(TelephonyEventInbox, inbox_id)` with the status test, at worker `w`. -/
def load (w id : ℕ) (s : Service) : Service :=
  match s.inbox.get? id with
  | some row =>
    if row.status = .processing then { s with replays := s.replays.take w (id, row) }
    else { s with replays := s.replays.release w }
  | none => { s with replays := s.replays.release w }

def finish (now : Instant) (w : ℕ) (replay : Replay) (s : Service) : Service :=
  match s.replays w with
  | some (id, row) =>
    { inbox := s.inbox.modify id (flush row (reprocess now replay row))
      replays := s.replays.release w }
  | none => s

inductive InboxStep where
  | deliver (now : Instant) (hook : Webhook) (d : Delivery)
  | claim (now : Instant) (limit : ℤ)
  | load (w id : ℕ)
  | finish (now : Instant) (w : ℕ) (replay : Replay)
  | crash (w : ℕ)

def InboxStep.apply : InboxStep → Service → Service
  | .deliver now hook d, s => { s with inbox := Telephony.deliver now hook d s.inbox }
  | .claim now limit, s => { s with inbox := claimDueEvents now limit s.inbox }
  | .load w id, s => Telephony.load w id s
  | .finish now w replay, s => Telephony.finish now w replay s
  | .crash w, s => { s with replays := s.replays.release w }

/-! ## what a projection leaves behind -/

/-- the row is terminal, or to be retried with attempts left; its attempt count is `n`. -/
def Settled (n : ℕ) (row : TelephonyEventInbox) : Prop :=
  row.attemptCount = n ∧
    (row.status.terminal = true ∨ (row.status = .retryable ∧ n < maxAttempts))

lemma settled_complete (now : Instant) {status : InboxStatus} (h : status.terminal = true)
    (session : Option ℕ) (code : Option String) (row : TelephonyEventInbox) :
    Settled row.attemptCount (row.complete now status session code) := ⟨rfl, Or.inl h⟩

lemma settled_retry (now : Instant) (code : String) (row : TelephonyEventInbox) :
    Settled row.attemptCount (row.retry now code) := by
  unfold retry
  by_cases h : maxAttempts ≤ row.attemptCount
  · simp only [if_pos h]
    exact settled_complete now rfl _ _ row
  · simp only [if_neg h]
    exact ⟨rfl, Or.inr ⟨rfl, by omega⟩⟩

lemma settled_projectRouted (now : Instant) (failed notProjected : String) (r : Routed)
    (row : TelephonyEventInbox) :
    Settled row.attemptCount (projectRouted now failed notProjected r row) := by
  unfold projectRouted
  cases hres : r.result with
  | error exc => exact settled_retry now _ { row with tenantId := _, channelAccountId := _ }
  | ok session =>
    cases session with
    | none => exact ⟨rfl, Or.inl rfl⟩
    | some i => exact ⟨rfl, Or.inl rfl⟩

lemma settled_projectLivekitRow (now : Instant) (route : Option Routed)
    (row : TelephonyEventInbox) :
    Settled row.attemptCount (projectLivekitRow now route row) := by
  unfold projectLivekitRow
  cases route with
  | none => exact settled_complete now rfl _ _ row
  | some r => exact settled_projectRouted now _ _ r row

lemma settled_projectControllerRow (now : Instant) (route : ControllerRoute)
    (row : TelephonyEventInbox) :
    Settled row.attemptCount (projectControllerRow now route row) := by
  unfold projectControllerRow
  cases route with
  | unknownRoom => exact settled_complete now rfl _ _ row
  | channelMissing => exact settled_retry now _ row
  | found r => exact settled_projectRouted now _ _ r row

lemma settled_webhook (now : Instant) (hook : Webhook) (row : TelephonyEventInbox) :
    Settled row.attemptCount (hook.project now row) := by
  cases hook with
  | livekit route => exact settled_projectLivekitRow now route row
  | controller route => exact settled_projectControllerRow now route row

lemma settled_reprocess (now : Instant) (replay : Replay) (row : TelephonyEventInbox) :
    Settled row.attemptCount (reprocess now replay row) := by
  unfold reprocess
  cases replay with
  | envelopeInvalid => exact settled_complete now rfl _ _ row
  | internalError => exact settled_retry now _ row
  | projection livekit controller =>
    dsimp only
    split
    · exact settled_projectLivekitRow now livekit row
    · split
      · exact settled_projectControllerRow now controller row
      · exact settled_complete now rfl _ _ row

/-! ## one step -/

def RowOk (row : TelephonyEventInbox) : Prop :=
  row.status.terminal = true ∨
    (row.attemptCount < maxAttempts ∧
      (row.status = .retryable ∨
        (row.status = .processing ∧ row.processingStartedAt.isSome = true)))

variable {row : TelephonyEventInbox} {s : Service} {i : InboxStep}
  {inbox : Table TelephonyEventInbox} {id : ℕ}

lemma Settled.rowOk {n : ℕ} (h : Settled n row) : RowOk row := by
  obtain ⟨hn, hterm | ⟨hretry, hlt⟩⟩ := h
  · exact Or.inl hterm
  · exact Or.inr ⟨by omega, Or.inl hretry⟩

lemma deliver_cases (now : Instant) (hook : Webhook) (d : Delivery)
    (inbox : Table TelephonyEventInbox) :
    deliver now hook d inbox = inbox ∨
      (∃ id row new, inbox.get? id = some row ∧ row.status.terminal = false ∧ RowOk new ∧
        deliver now hook d inbox = inbox.set id new) ∨
      ∃ new, RowOk new ∧ deliver now hook d inbox = inbox.insert new := by
  unfold deliver
  cases hload : loadExisting inbox hook.provider d.providerEventId with
  | none =>
    right; right
    exact ⟨_, (settled_webhook now hook _).rowOk, rfl⟩
  | some found =>
    obtain ⟨id, row⟩ := found
    have hget : inbox.get? id = some row := by
      have hmem := List.mem_of_head? hload
      exact ((inbox.mem_select).1 hmem).1
    dsimp only
    split
    · left; rfl
    · split
      · left; rfl
      · rename_i hterm
        split
        · left; rfl
        · right; left
          have hfalse : row.status.terminal = false := by simpa using hterm
          exact ⟨id, row, _, hget, hfalse, (settled_webhook now hook _).rowOk, rfl⟩

/-- the condition on a step: a claim takes no row for its fifth attempt, and a replay finds its row
not yet terminal when it commits. -/
def InboxStep.Safe (s : Service) : InboxStep → Prop
  | .claim now limit =>
    ∀ id ∈ claimedEvents now limit s.inbox, ∀ row ∈ s.inbox.get? id,
      row.attemptCount + 1 ≠ maxAttempts
  | .finish _ w _ =>
    ∀ read ∈ s.replays w, ∀ stored ∈ s.inbox.get? read.1, stored.status.terminal = false
  | _ => True

instance instDecidableInboxSafe (s : Service) : ∀ i : InboxStep, Decidable (i.Safe s)
  | .claim _ _ => inferInstanceAs (Decidable (∀ id ∈ _, ∀ row ∈ _, _ ≠ _))
  | .finish _ _ _ => inferInstanceAs (Decidable (∀ read ∈ _, ∀ stored ∈ _, _ = _))
  | .deliver _ _ _ | .load _ _ | .crash _ => inferInstanceAs (Decidable True)

structure Service.Ok (s : Service) : Prop where
  rows : ∀ id row, s.inbox.get? id = some row → RowOk row
  replays : ∀ w id row, s.replays w = some (id, row) → row.status = .processing

lemma flush_rowOk {read new stored : TelephonyEventInbox} (hread : read.status = .processing)
    (hnew : Settled read.attemptCount new) (hstored : RowOk stored)
    (hlive : stored.status.terminal = false) : RowOk (flush read new stored) := by
  obtain ⟨hn, hstatus⟩ := hnew
  have hcount : (flush read new stored).attemptCount = stored.attemptCount := changed_of_eq hn
  have hne : new.status ≠ read.status := by
    rw [hread]
    rcases hstatus with h | ⟨h, -⟩
    · intro hc
      rw [hc] at h
      cases h
    · rw [h]
      simp
  have hst : (flush read new stored).status = new.status := changed_of_ne hne
  have hlt : stored.attemptCount < maxAttempts := by
    rcases hstored with h | ⟨h, -⟩
    · rw [hlive] at h
      cases h
    · exact h
  rcases hstatus with h | ⟨h, -⟩
  · left
    rw [hst, h]
  · right
    exact ⟨by omega, Or.inl (by rw [hst, h])⟩

/-- what one safe step does to one row: it is left alone, or it is written while not terminal (or
inserted) and is in order afterwards. -/
lemma apply_row (hs : s.Ok) (hi : i.Safe s) (id : ℕ) :
    (i.apply s).inbox.get? id = s.inbox.get? id ∨
      (∀ row, s.inbox.get? id = some row → row.status.terminal = false) ∧
        ∃ new, (i.apply s).inbox.get? id = some new ∧ RowOk new := by
  cases i with
  | load w id' =>
    left
    show (load w id' s).inbox.get? id = _
    unfold load
    split
    · split <;> rfl
    · rfl
  | crash w =>
    left
    rfl
  | deliver now hook d =>
    show (deliver now hook d s.inbox).get? id = _ ∨ _ ∧ ∃ new, (deliver now hook d s.inbox).get? id = _ ∧ _
    rcases deliver_cases now hook d s.inbox with h | ⟨id', row, new, hget, hlive, hok, h⟩ | ⟨new, hok, h⟩
    · left
      rw [h]
    · rw [h, Table.get?_set]
      by_cases hid : id = id'
      · subst hid
        right
        rw [if_pos rfl, hget]
        refine ⟨?_, new, rfl, hok⟩
        intro row' hrow'
        cases hrow'
        exact hlive
      · left
        rw [if_neg hid]
    · rw [h, Table.get?_insert]
      by_cases hid : id = s.inbox.next
      · right
        rw [if_pos hid]
        refine ⟨?_, new, rfl, hok⟩
        intro row hrow
        have := Table.lt_next hrow
        omega
      · left
        rw [if_neg hid]
  | claim now limit =>
    show (claimDueEvents now limit s.inbox).get? id = _ ∨
      _ ∧ ∃ new, (claimDueEvents now limit s.inbox).get? id = _ ∧ _
    have hget : (claimDueEvents now limit s.inbox).get? id =
        if id ∈ claimedEvents now limit s.inbox then (s.inbox.get? id).map (startProcessing now)
        else s.inbox.get? id := Table.get?_modifyAll_batch _ _
    rw [hget]
    by_cases hid : id ∈ claimedEvents now limit s.inbox
    · right
      obtain ⟨row, hrow, hdue⟩ := Table.mem_batch hid
      have hfifth : row.attemptCount + 1 ≠ maxAttempts := hi id hid row hrow
      have hlt : row.attemptCount < maxAttempts := by
        unfold due dueRetry staleProcessing at hdue
        simp only [Bool.or_eq_true, Bool.and_eq_true, decide_eq_true_eq] at hdue
        tauto
      rw [if_pos hid, hrow]
      refine ⟨?_, _, rfl, Or.inr ⟨?_, Or.inr ⟨rfl, rfl⟩⟩⟩
      · intro row' hrow'
        cases hrow'
        unfold due dueRetry staleProcessing at hdue
        simp only [Bool.or_eq_true, Bool.and_eq_true, beq_iff_eq] at hdue
        rcases hdue with h | h
        · rw [h.1.1]; rfl
        · rw [h.1.1]; rfl
      · show row.attemptCount + 1 < maxAttempts
        omega
    · left
      rw [if_neg hid]
  | finish now w replay =>
    show (finish now w replay s).inbox.get? id = _ ∨
      _ ∧ ∃ new, (finish now w replay s).inbox.get? id = _ ∧ _
    unfold finish
    cases hrep : s.replays w with
    | none =>
      left
      rfl
    | some found =>
      obtain ⟨id', read⟩ := found
      dsimp only
      rw [Table.get?_modify]
      by_cases hid : id = id'
      · subst hid
        rw [if_pos rfl]
        cases hstored : s.inbox.get? id with
        | none =>
          left
          rfl
        | some stored =>
          right
          have hlive := hi (id, read) hrep stored hstored
          refine ⟨?_, _, rfl, ?_⟩
          · intro row hrow
            cases hrow
            exact hlive
          · exact flush_rowOk (hs.replays w id read hrep) (settled_reprocess now replay read)
              (hs.rows id stored hstored) hlive
      · left
        rw [if_neg hid]

lemma apply_ok (hs : s.Ok) (hi : i.Safe s) : (i.apply s).Ok := by
  constructor
  · intro id row hrow
    rcases apply_row hs hi id with h | ⟨-, new, hnew, hok⟩
    · rw [h] at hrow
      exact hs.rows id row hrow
    · rw [hrow] at hnew
      cases hnew
      exact hok
  · intro w id row hrow
    cases i with
    | deliver now hook d => exact hs.replays w id row hrow
    | claim now limit => exact hs.replays w id row hrow
    | crash w' => exact hs.replays w id row (InHand.of_release hrow).2
    | finish now w' replay =>
      change (finish now w' replay s).replays w = _ at hrow
      unfold finish at hrow
      split at hrow
      · exact hs.replays w id row (InHand.of_release hrow).2
      · exact hs.replays w id row hrow
    | load w' id' =>
      change (load w' id' s).replays w = _ at hrow
      unfold load at hrow
      split at hrow
      · split at hrow
        · rename_i hproc
          rcases InHand.of_take hrow with ⟨-, h⟩ | ⟨-, h⟩
          · cases h
            exact hproc
          · exact hs.replays w id row h
        · exact hs.replays w id row (InHand.of_release hrow).2
      · exact hs.replays w id row (InHand.of_release hrow).2

def KeepsTerminal (s s' : Service) : Prop :=
  ∀ id row, s.inbox.get? id = some row → row.status.terminal = true →
    s'.inbox.get? id = some row

lemma apply_keepsTerminal (hs : s.Ok) (hi : i.Safe s) :
    KeepsTerminal s (i.apply s) := by
  intro id row hrow hterm
  rcases apply_row hs hi id with h | ⟨hlive, -⟩
  · rw [h, hrow]
  · rw [hlive row hrow] at hterm
    cases hterm

/-! ## whole runs -/

/-- the order of `_claim_due_events`. -/
abbrev receivedFirst : ℕ × TelephonyEventInbox → ℕ × TelephonyEventInbox → Prop :=
  Table.earlier receivedAt

/-- from some instant on, every claim selects the row, or is filled by due rows received before. -/
def ClaimedWhenLate (inbox : Table TelephonyEventInbox) (id : ℕ) (row : TelephonyEventInbox) :
    Prop :=
  ∃ late : Instant, ∀ now, late ≤ now → due now row = true ∧
    ∀ limit, id ∈ claimedEvents now limit inbox ∨
      ((claimedEvents now limit inbox).length = claimLimit limit ∧
        ∀ first ∈ (inbox.ordered receivedFirst fun _ row => due now row).take (claimLimit limit),
          receivedFirst first (id, row))

lemma due_when_late (hok : RowOk row) (hlive : row.status.terminal = false) :
    ∃ late : Instant, ∀ now, late ≤ now → due now row = true := by
  rcases hok with hterm | ⟨hlt, hretry | ⟨hproc, hstarted⟩⟩
  · rw [hlive] at hterm
    cases hterm
  · refine ⟨row.nextAttemptAt.getD 0, ?_⟩
    intro now hnow
    have hnext : row.nextAttemptAt.all (· ≤ now) = true := by
      cases hn : row.nextAttemptAt with
      | none => rfl
      | some next => simpa [hn] using hnow
    simp [due, dueRetry, hretry, hlt, hnext]
  · obtain ⟨started, hs⟩ := Option.isSome_iff_exists.1 hstarted
    refine ⟨started + seconds processingLeaseSeconds, ?_⟩
    intro now hnow
    have hstale : started ≤ now - seconds processingLeaseSeconds := le_sub_iff_add_le.2 hnow
    simp [due, staleProcessing, hproc, hlt, hs, hstale]

lemma claimedWhenLate (hget : inbox.get? id = some row) (hok : RowOk row)
    (hlive : row.status.terminal = false) :
    ClaimedWhenLate inbox id row := by
  obtain ⟨late, hlate⟩ := due_when_late hok hlive
  refine ⟨late, ?_⟩
  intro now hnow
  refine ⟨hlate now hnow, ?_⟩
  intro limit
  exact Table.mem_batch_or_full hget (hlate now hnow)

lemma empty_ok : Service.empty.Ok := by
  constructor
  · intro id row h
    cases h
  · intro w id row h
    cases h

theorem inbox_settles (l : List InboxStep)
    (h : Along InboxStep.apply InboxStep.Safe Service.empty l) :
    (∀ id row, (run InboxStep.apply Service.empty l).inbox.get? id = some row →
      row.status.terminal = true ∨
        ((row.status = .retryable ∨ row.status = .processing) ∧ row.attemptCount ≤ maxAttempts ∧
          ClaimedWhenLate (run InboxStep.apply Service.empty l).inbox id row)) ∧
      ∀ l₁ l₂, l = l₁ ++ l₂ →
        KeepsTerminal (run InboxStep.apply Service.empty l₁)
          (run InboxStep.apply Service.empty l) := by
  constructor
  · intro id row hrow
    have hok : RowOk row :=
      (h.invariant (I := Service.Ok) (fun s i hs hi => apply_ok hs hi) empty_ok).rows id row hrow
    cases hterm : row.status.terminal with
    | true => exact Or.inl rfl
    | false =>
      right
      have hclaimed := claimedWhenLate hrow hok hterm
      rcases hok with ht | ⟨hlt, hretry | ⟨hproc, -⟩⟩
      · rw [hterm] at ht
        cases ht
      · exact ⟨Or.inl hretry, hlt.le, hclaimed⟩
      · exact ⟨Or.inr hproc, hlt.le, hclaimed⟩
  · rintro l₁ l₂ rfl
    obtain ⟨hfirst, hrest⟩ := (along_append _ l₁ l₂).1 h
    have hok : (run InboxStep.apply Service.empty l₁).Ok :=
      hfirst.invariant (I := Service.Ok) (fun s i hs hi => apply_ok hs hi) empty_ok
    rw [run_append]
    refine hrest.relation (I := Service.Ok) ?_ ?_ (fun s i hs hi => apply_ok hs hi)
      (fun s i hs hi => apply_keepsTerminal hs hi) hok
    · intro s id row hrow _
      exact hrow
    · intro s t u hst htu id row hrow hterm
      exact htu id row (hst id row hrow hterm) hterm

/-- an event delivered once, whose projection raises. -/
def sampleDelivery : Delivery := ⟨"EV_1", "room_started", "sha-1", "sealed"⟩

def sampleFailure : Option Routed := some ⟨some 1, 1, .error "OperationalError"⟩

/-- the worker claims the event and its projection raises again. -/
def failedReplay (now : Instant) : List InboxStep :=
  [.claim now 20, .load 0 1, .finish now 0 (.projection sampleFailure .unknownRoom)]

/-- the event is projected at its second attempt. -/
def recoveredRun : List InboxStep :=
  [.deliver 0 (.livekit sampleFailure) sampleDelivery, .claim (seconds 10) 20, .load 0 1,
    .finish (seconds 11) 0 (.projection (some ⟨some 1, 1, .ok (some 7)⟩) .unknownRoom)]

theorem inbox_settles_recovered :
    KeepsTerminal (run InboxStep.apply Service.empty recoveredRun)
      (run InboxStep.apply Service.empty
        (recoveredRun ++ [.deliver (seconds 20) (.livekit sampleFailure) sampleDelivery])) :=
  (inbox_settles _ (by decide +kernel)).2 recoveredRun _ rfl

lemma not_claimed_of_exhausted (h : ∀ row ∈ inbox.get? id, maxAttempts ≤ row.attemptCount)
    (now : Instant) (limit : ℤ) :
    id ∉ claimedEvents now limit inbox := by
  intro hid
  obtain ⟨row, hrow, hdue⟩ := Table.mem_batch hid
  have hcount := h row hrow
  simp only [due, dueRetry, staleProcessing, Bool.or_eq_true, Bool.and_eq_true,
    decide_eq_true_eq] at hdue
  omega

/-- four attempts fail; the worker crashes in the fifth. -/
def crashedRun : List InboxStep :=
  [.deliver 0 (.livekit sampleFailure) sampleDelivery] ++ failedReplay (seconds 100) ++
    failedReplay (seconds 200) ++ failedReplay (seconds 300) ++
    [.claim (seconds 400) 20, .load 0 1, .crash 0]

/-- the second delivery projects the event while a replay of the first is under way. -/
def overtakenRun : List InboxStep :=
  [.deliver 0 (.livekit sampleFailure) sampleDelivery, .claim (seconds 10) 20, .load 0 1,
    .deliver (seconds 11) (.livekit (some ⟨some 1, 1, .ok (some 7)⟩)) sampleDelivery]

/-- the crash leaves a row that no claim ever selects again, and the late replay makes a processed
row retryable. -/
theorem crashedRun_sticks :
    ((run InboxStep.apply Service.empty crashedRun).inbox.get? 1).map (·.status) =
        some .processing ∧
      (∀ now limit, 1 ∉ claimedEvents now limit
        (run InboxStep.apply Service.empty crashedRun).inbox) ∧
      ¬ KeepsTerminal (run InboxStep.apply Service.empty overtakenRun)
        (run InboxStep.apply Service.empty (overtakenRun ++
          [.finish (seconds 12) 0 (.projection sampleFailure .unknownRoom)])) := by
  refine ⟨by decide +kernel, ?_, ?_⟩
  · intro now limit
    exact not_claimed_of_exhausted (by decide +kernel) now limit
  · intro hkeeps
    have hbefore : ((run InboxStep.apply Service.empty overtakenRun).inbox.get? 1).map (·.status) =
        some .processed := by decide +kernel
    obtain ⟨row, hrow, hstatus⟩ := Option.map_eq_some_iff.1 hbefore
    have hafter := hkeeps 1 row hrow (by rw [hstatus]; rfl)
    have hlate : ((run InboxStep.apply Service.empty (overtakenRun ++
        [.finish (seconds 12) 0 (.projection sampleFailure .unknownRoom)])).inbox.get? 1).map
          (·.status) = some .retryable := by decide +kernel
    rw [hafter] at hlate
    simp [hstatus] at hlate

end NexusHelpdesk.Telephony
