import NexusHelpdesk.Handoff.Desk
import NexusHelpdesk.Lib.Batch
import NexusHelpdesk.Lib.Run
import NexusHelpdesk.Lib.WriteBack

/-!
# The voice command outbox (`voice_command_service.py`, `voice_command_dispatcher.py`)

A command is stored by `enqueueVoiceCommand`, claimed by a worker under a lease, executed at the
voice provider and completed, by the worker or by a later event of the provider.

* `finishCommand`, `awaitProviderEvent`, `retryCommand`: the writers of a completion;
* `expireUnconfirmedCommands`, `claimDueCommands`: the two transactions of `_claim_due_commands`;
* `dispatchOne`: what `_dispatch_one` makes of its copy of the row.  The row is read at `load` and
  written back by primary key at `complete`, with the provider call in between;
* `resolveCommand`: `resolve_voice_command_from_provider_event`, under a row lock.

`commands_settle`: **as long as no claim takes a command for its fifth attempt and no completion
changes the status of a finished command, every command is finished or claimed at all late times, and
finished commands keep their status.**
-/

namespace NexusHelpdesk.Telephony

open Lib

inductive CommandStatus where
  | requested | dispatching | succeeded | failed | retryable | cancelled
deriving DecidableEq, Repr

def CommandStatus.finished : CommandStatus → Bool
  | .succeeded | .failed | .cancelled => true
  | _ => false

structure VoiceCommand where
  publicId : String
  voiceSessionId : ℕ
  actorUserId : Option ℕ
  actionType : String
  idempotencyKey : String
  status : CommandStatus
  providerStatus : String
  providerReason : Option String
  providerReference : Option String
  attemptCount : ℕ
  lastAttemptAt : Option Instant
  nextAttemptAt : Option Instant
  leaseOwner : Option String
  leaseExpiresAt : Option Instant
  completedAt : Option Instant
  createdAt : Instant
  updatedAt : Instant
deriving DecidableEq, Repr

def commandMaxAttempts : ℕ := 5
def commandLeaseSeconds : ℤ := 60
def commandAckTimeoutSeconds : ℤ := 90

/-! ## requests -/

def supportedCommands : List String :=
  ["ai_suspend", "hangup", "hold", "resume", "mute", "unmute", "keypad", "add_participant",
    "remove_participant", "cold_transfer", "warm_transfer", "warm_transfer_complete",
    "warm_transfer_cancel", "recording_start", "recording_stop"]

def validateCommand (actionType : String) (target digits : Option String) :
    Except HTTPException String :=
  let requested := PyStr.lower (PyStr.strip actionType)
  if requested ∉ supportedCommands then .error ⟨422, "unsupported webcall voice action"⟩
  else if requested = "keypad" ∧ !PyStr.truthy digits then
    .error ⟨422, "keypad digits are required"⟩
  else if requested ∈ ["add_participant", "remove_participant", "cold_transfer", "warm_transfer"] ∧
      !PyStr.truthy target then .error ⟨422, "action target is required"⟩
  else .ok requested

/-- a call of `enqueue_voice_command`, with the random tokens it draws. -/
structure CommandRequest where
  sessionId : ℕ
  actorId : Option ℕ
  actionType : String
  target : Option String
  digits : Option String
  idempotencyKey : Option String
  keyToken : String
  publicToken : String

/-- `(idempotency_key or "").strip()[:160]`, or a key of its own. -/
def CommandRequest.key (q : CommandRequest) : String :=
  let provided := String.ofList ((PyStr.strip (q.idempotencyKey.getD "")).toList.take 160)
  if provided ≠ "" then provided
  else String.ofList
    (("voice-command:" ++ toString q.sessionId ++ ":" ++ q.keyToken).toList.take 160)

def newCommand (now : Instant) (q : CommandRequest) (requested : String) : VoiceCommand where
  publicId := "vc_" ++ q.publicToken
  voiceSessionId := q.sessionId
  actorUserId := q.actorId
  actionType := requested
  idempotencyKey := q.key
  status := .requested
  providerStatus := "pending"
  providerReason := none
  providerReference := none
  attemptCount := 0
  lastAttemptAt := none
  nextAttemptAt := some now
  leaseOwner := none
  leaseExpiresAt := none
  completedAt := none
  createdAt := now
  updatedAt := now

/-- `enqueue_voice_command`: the command, old or new, and the table.  A public id drawn twice makes
the insertion fail. -/
def enqueueVoiceCommand (now : Instant) (q : CommandRequest) (commands : Table VoiceCommand) :
    Except HTTPException (ℕ × Table VoiceCommand) :=
  match validateCommand q.actionType q.target q.digits with
  | .error e => .error e
  | .ok requested =>
    match (commands.select fun _ c => c.idempotencyKey = q.key).head? with
    | some (id, existing) =>
      if existing.voiceSessionId ≠ q.sessionId ∨ existing.actorUserId ≠ q.actorId then
        .error ⟨409, "voice action idempotency conflict"⟩
      else .ok (id, commands)
    | none =>
      if (commands.select fun _ c => c.publicId = "vc_" ++ q.publicToken).isEmpty then
        .ok (commands.next, commands.insert (newCommand now q requested))
      else .error ⟨500, "IntegrityError"⟩

/-- `_finish`; an empty reference keeps the old one. -/
def finishCommand (now : Instant) (status : CommandStatus) (providerStatus : String)
    (reason reference : Option String) (c : VoiceCommand) : VoiceCommand :=
  { c with
    status := status
    providerStatus := providerStatus
    providerReason := reason
    providerReference := PyStr.orElse reference c.providerReference
    completedAt := if status.finished then some now else none
    nextAttemptAt := none
    leaseOwner := none
    leaseExpiresAt := none
    updatedAt := now }

def awaitProviderEvent (now : Instant) (providerStatus : String) (reference : Option String)
    (c : VoiceCommand) : VoiceCommand :=
  { c with
    status := .dispatching
    providerStatus := providerStatus
    providerReason := some "awaiting_provider_event"
    providerReference := PyStr.orElse reference c.providerReference
    completedAt := none
    nextAttemptAt := none
    leaseOwner := none
    leaseExpiresAt := some (now + seconds commandAckTimeoutSeconds)
    updatedAt := now }

/-- `_retry`, which does not look at the number of attempts. -/
def retryCommand (now : Instant) (reason : String) (c : VoiceCommand) : VoiceCommand :=
  { c with
    status := .retryable
    providerStatus := "failed"
    providerReason := some reason
    nextAttemptAt := some (now + seconds (min (5 * 2 ^ (c.attemptCount - 1)) 300 : ℕ))
    leaseOwner := none
    leaseExpiresAt := none
    updatedAt := now }

/-! ## expiry and claim -/

def unconfirmed (now : Instant) (c : VoiceCommand) : Bool :=
  c.status == .dispatching && c.providerStatus == "command_delivered" &&
    c.leaseExpiresAt.any (· ≤ now) && decide (commandMaxAttempts ≤ c.attemptCount)

def expireUnconfirmedCommands (now : Instant) (commands : Table VoiceCommand) :
    Table VoiceCommand :=
  commands.modifyAll (((commands.select fun _ c => unconfirmed now c).take 100).map (·.1))
    fun c => finishCommand now .failed "failed" (some "provider_event_timeout")
      c.providerReference c

def commandDue (now : Instant) (c : VoiceCommand) : Bool :=
  (c.status == .requested || c.status == .retryable) &&
    decide (c.attemptCount < commandMaxAttempts) && c.nextAttemptAt.all (· ≤ now)

def commandStale (now : Instant) (c : VoiceCommand) : Bool :=
  c.status == .dispatching && decide (c.attemptCount < commandMaxAttempts) &&
    c.leaseExpiresAt.any (· ≤ now)

def claimable (now : Instant) (c : VoiceCommand) : Bool := commandDue now c || commandStale now c

/-- `max(1, min(int(limit or 20), 100))`. -/
def commandLimit (limit : ℤ) : ℕ := (max 1 (min (if limit = 0 then 20 else limit) 100)).toNat

/-- the order of the claim, equal instants in the order of their keys. -/
abbrev createdFirst : ℕ × VoiceCommand → ℕ × VoiceCommand → Prop :=
  Table.earlier VoiceCommand.createdAt

/-- the ids `_claim_due_commands` returns. -/
def claimedCommands (now : Instant) (limit : ℤ) (commands : Table VoiceCommand) : List ℕ :=
  commands.batch createdFirst (fun _ c => claimable now c) (commandLimit limit)

def claimCommand (now : Instant) (workerId : String) (c : VoiceCommand) : VoiceCommand :=
  { c with
    status := .dispatching
    providerStatus := "dispatching"
    providerReason := none
    attemptCount := c.attemptCount + 1
    lastAttemptAt := some now
    leaseOwner := some (String.ofList (workerId.toList.take 120))
    leaseExpiresAt := some (now + seconds commandLeaseSeconds)
    updatedAt := now }

def claimDueCommands (now : Instant) (workerId : String) (limit : ℤ)
    (commands : Table VoiceCommand) : Table VoiceCommand :=
  commands.modifyAll (claimedCommands now limit commands) (claimCommand now workerId)

/-! ## dispatch -/

def providerErrorRetryable (text : String) : Bool :=
  let lower := PyStr.lower text
  let holds := fun marker : String => decide (marker.toList <:+: lower.toList)
  if ["active telephony controller identity is required",
      "active human participant identity is required",
      "participant has no published media track", "participant identity is required",
      "participant not found", "room not found"].any holds then true
  else !(["unsupported", "invalid", "missing required configuration", "not configured"].any holds)

inductive ProviderReply where
  | result (status providerStatus : String) (reason reference : Option String)
  | providerError (text : String)

/-- what `_dispatch_one` meets: the status of the session (if the session exists) and the reply of
the provider; or any other exception, after which the row is read anew. -/
inductive Dispatch where
  | ran (session : Option Handoff.SessionStatus) (reply : ProviderReply)
  | raised

def sessionClosed : Handoff.SessionStatus → Bool
  | .ended | .missed | .failed | .cancelled => true
  | _ => false

/-- the row in memory when `_dispatch_one`, or the handler of its exception, commits. -/
def dispatchOne (now : Instant) (d : Dispatch) (c : VoiceCommand) : VoiceCommand :=
  match d with
  | .raised => retryCommand now "dispatcher_internal_error" c
  | .ran none _ => finishCommand now .failed "failed" (some "voice_session_missing") none c
  | .ran (some session) reply =>
    if sessionClosed session && c.actionType != "hangup" then
      finishCommand now .cancelled "cancelled" (some "voice_session_closed") none c
    else
      match reply with
      | .providerError text =>
        if providerErrorRetryable text && decide (c.attemptCount < commandMaxAttempts) then
          retryCommand now "provider_command_retryable" c
        else finishCommand now .failed "failed" (some "provider_command_failed") none c
      | .result status providerStatus reason reference =>
        if status = "awaiting_event" then awaitProviderEvent now providerStatus reference c
        else finishCommand now .succeeded providerStatus reason reference c

/-- the update by primary key that the commit emits. -/
def flushCommand (read new stored : VoiceCommand) : VoiceCommand :=
  { stored with
    status := changed read.status new.status stored.status
    providerStatus := changed read.providerStatus new.providerStatus stored.providerStatus
    providerReason := changed read.providerReason new.providerReason stored.providerReason
    providerReference :=
      changed read.providerReference new.providerReference stored.providerReference
    attemptCount := changed read.attemptCount new.attemptCount stored.attemptCount
    lastAttemptAt := changed read.lastAttemptAt new.lastAttemptAt stored.lastAttemptAt
    nextAttemptAt := changed read.nextAttemptAt new.nextAttemptAt stored.nextAttemptAt
    leaseOwner := changed read.leaseOwner new.leaseOwner stored.leaseOwner
    leaseExpiresAt := changed read.leaseExpiresAt new.leaseExpiresAt stored.leaseExpiresAt
    completedAt := changed read.completedAt new.completedAt stored.completedAt
    updatedAt := changed read.updatedAt new.updatedAt stored.updatedAt }

structure ProviderEvent where
  commandReference : String
  succeeded : Bool
  providerStatus : String
  providerReason : Option String

/-- the command an event refers to: the newest that has the reference as one of its names. -/
def referredCommand (reference : String) (commands : Table VoiceCommand) :
    Option (ℕ × VoiceCommand) :=
  (commands.select fun _ c => c.publicId = reference ∨ c.idempotencyKey = reference ∨
    c.providerReference = some reference).getLast?

def resolveCommand (now : Instant) (e : ProviderEvent) (commands : Table VoiceCommand) :
    Table VoiceCommand :=
  let reference := PyStr.strip e.commandReference
  if reference = "" then commands
  else
    match referredCommand reference commands with
    | none => commands
    | some (id, c) =>
      if c.status.finished then commands
      else
        let word := if e.succeeded then "succeeded" else "failed"
        let providerStatus := if e.providerStatus ≠ "" then e.providerStatus else word
        let reason := if PyStr.truthy e.providerReason then e.providerReason else none
        commands.set id
          (finishCommand now (if e.succeeded then .succeeded else .failed)
            (String.ofList (providerStatus.toList.take 40)) reason (some reference) c)

/-! ## runs -/

/-- the committed commands, and the row each worker has read and not yet written back. -/
structure Outbox where
  commands : Table VoiceCommand
  dispatches : InHand ℕ (ℕ × VoiceCommand)

def Outbox.empty : Outbox := ⟨.empty, .empty⟩

/-- `db.get` with the status test, at worker `w`. -/
def loadCommand (w id : ℕ) (s : Outbox) : Outbox :=
  match s.commands.get? id with
  | some c =>
    if c.status = .dispatching then { s with dispatches := s.dispatches.take w (id, c) }
    else { s with dispatches := s.dispatches.release w }
  | none => { s with dispatches := s.dispatches.release w }

def completeCommand (now : Instant) (w : ℕ) (d : Dispatch) (s : Outbox) : Outbox :=
  match s.dispatches w with
  | some (id, c) =>
    { commands := s.commands.modify id (flushCommand c (dispatchOne now d c))
      dispatches := s.dispatches.release w }
  | none => s

inductive CommandStep where
  | enqueue (now : Instant) (q : CommandRequest)
  | expire (now : Instant)
  | claim (now : Instant) (workerId : String) (limit : ℤ)
  | load (w id : ℕ)
  | complete (now : Instant) (w : ℕ) (d : Dispatch)
  | event (now : Instant) (e : ProviderEvent)
  | crash (w : ℕ)

def CommandStep.apply : CommandStep → Outbox → Outbox
  | .enqueue now q, s =>
    match enqueueVoiceCommand now q s.commands with
    | .ok (_, commands) => { s with commands := commands }
    | .error _ => s
  | .expire now, s => { s with commands := expireUnconfirmedCommands now s.commands }
  | .claim now workerId limit, s =>
    { s with commands := claimDueCommands now workerId limit s.commands }
  | .load w id, s => loadCommand w id s
  | .complete now w d, s => completeCommand now w d s
  | .event now e, s => { s with commands := resolveCommand now e s.commands }
  | .crash w, s => { s with dispatches := s.dispatches.release w }

/-! ## one step -/

def Dispatch.verdict (c : VoiceCommand) : Dispatch → CommandStatus
  | .raised => .retryable
  | .ran none _ => .failed
  | .ran (some session) reply =>
    if sessionClosed session && c.actionType != "hangup" then .cancelled
    else
      match reply with
      | .providerError text =>
        if providerErrorRetryable text && decide (c.attemptCount < commandMaxAttempts)
        then .retryable else .failed
      | .result status _ _ _ => if status = "awaiting_event" then .dispatching else .succeeded

/-- a dispatch leaves the attempt count alone, decides on its verdict, and sets a lease if it goes on
waiting. -/
lemma dispatchOne_spec (now : Instant) (d : Dispatch) (c : VoiceCommand) :
    (dispatchOne now d c).attemptCount = c.attemptCount ∧
      (dispatchOne now d c).status = d.verdict c ∧
      (d.verdict c = .dispatching → (dispatchOne now d c).leaseExpiresAt.isSome = true) := by
  unfold dispatchOne Dispatch.verdict
  cases d with
  | raised => simp [retryCommand]
  | ran session reply =>
    cases session with
    | none => simp [finishCommand]
    | some session =>
      dsimp only
      split
      · simp [finishCommand]
      · cases reply with
        | providerError text =>
          dsimp only
          split
          · simp [retryCommand]
          · simp [finishCommand]
        | result status providerStatus reason reference =>
          dsimp only
          split
          · simp [awaitProviderEvent]
          · simp [finishCommand]

def CommandOk (c : VoiceCommand) : Prop :=
  c.status.finished = true ∨
    (c.attemptCount < commandMaxAttempts ∧
      (c.status = .requested ∨ c.status = .retryable ∨
        (c.status = .dispatching ∧ c.leaseExpiresAt.isSome = true)))

/-- the condition on a step: a claim takes no command for its fifth attempt, and a completion does
not change the status of a finished command. -/
def CommandStep.Safe (s : Outbox) : CommandStep → Prop
  | .claim now _ limit =>
    ∀ id ∈ claimedCommands now limit s.commands, ∀ c ∈ s.commands.get? id,
      c.attemptCount + 1 ≠ commandMaxAttempts
  | .complete _ w d =>
    ∀ read ∈ s.dispatches w, ∀ stored ∈ s.commands.get? read.1, stored.status.finished = true →
      d.verdict read.2 = .dispatching ∨ d.verdict read.2 = stored.status
  | _ => True

instance instDecidableCommandSafe (s : Outbox) : ∀ i : CommandStep, Decidable (i.Safe s)
  | .claim _ _ _ => inferInstanceAs (Decidable (∀ id ∈ _, ∀ c ∈ _, _ ≠ _))
  | .complete _ _ _ =>
    inferInstanceAs (Decidable (∀ read ∈ _, ∀ stored ∈ _, _ = _ → _ = _ ∨ _ = _))
  | .enqueue _ _ | .expire _ | .load _ _ | .event _ _ | .crash _ =>
    inferInstanceAs (Decidable True)

structure Outbox.Ok (s : Outbox) : Prop where
  commands : ∀ id c, s.commands.get? id = some c → CommandOk c
  dispatches : ∀ w id c, s.dispatches w = some (id, c) → c.status = .dispatching

def KeepsFinished (s s' : Outbox) : Prop :=
  ∀ id c, s.commands.get? id = some c → c.status.finished = true →
    ∃ c', s'.commands.get? id = some c' ∧ c'.status = c.status

/-- the row `id` is left alone, or is in order afterwards and was not finished with another
status. -/
def RowStep (before after : Option VoiceCommand) : Prop :=
  after = before ∨
    ∃ new, after = some new ∧ CommandOk new ∧
      ∀ c, before = some c → c.status.finished = true → new.status = c.status

lemma RowStep.of_unfinished {before : Option VoiceCommand} {new : VoiceCommand}
    (hok : CommandOk new) (h : ∀ c, before = some c → c.status.finished = false) :
    RowStep before (some new) := by
  right
  refine ⟨new, rfl, hok, ?_⟩
  intro c hc hfin
  rw [h c hc] at hfin
  cases hfin

variable {commands : Table VoiceCommand}

lemma rowStep_insert {new : VoiceCommand} (hok : CommandOk new) (id : ℕ) :
    RowStep (commands.get? id) ((commands.insert new).get? id) := by
  rw [Table.get?_insert]
  by_cases hid : id = commands.next
  · rw [if_pos hid]
    apply RowStep.of_unfinished hok
    intro c hc
    have hlt := Table.lt_next hc
    omega
  · rw [if_neg hid]
    exact Or.inl rfl

lemma enqueue_rowStep (now : Instant) (q : CommandRequest) (s : Outbox) (id : ℕ) :
    RowStep (s.commands.get? id) (((CommandStep.enqueue now q).apply s).commands.get? id) := by
  have hnew : ∀ requested, CommandOk (newCommand now q requested) := by
    intro requested
    exact Or.inr ⟨show 0 < 5 by decide, Or.inl rfl⟩
  unfold CommandStep.apply enqueueVoiceCommand
  dsimp only
  split
  · rename_i commands henq
    split at henq
    · cases henq
    · split at henq
      · split at henq
        · cases henq
        · cases henq
          exact Or.inl rfl
      · split at henq
        · cases henq
          exact rowStep_insert (hnew _) id
        · cases henq
  · exact Or.inl rfl

lemma expire_rowStep (now : Instant) (s : Outbox) (id : ℕ) :
    RowStep (s.commands.get? id) (((CommandStep.expire now).apply s).commands.get? id) := by
  show RowStep _ ((expireUnconfirmedCommands now s.commands).get? id)
  have hnodup : (((s.commands.select fun _ c => unconfirmed now c).take 100).map (·.1)).Nodup :=
    (s.commands.nodup_keys_select _).sublist ((List.take_sublist 100 _).map _)
  unfold expireUnconfirmedCommands
  rw [Table.get?_modifyAll _ hnodup]
  split
  · rename_i hid
    obtain ⟨⟨i, c⟩, hmem, rfl⟩ := List.mem_map.1 hid
    obtain ⟨hget, hfilter⟩ := (s.commands.mem_select).1 (List.mem_of_mem_take hmem)
    rw [hget]
    apply RowStep.of_unfinished (Or.inl rfl)
    intro c' hc'
    cases hc'
    simp only [unconfirmed, Bool.and_eq_true, beq_iff_eq] at hfilter
    rw [hfilter.1.1.1]
    rfl
  · exact Or.inl rfl

lemma claim_rowStep {now : Instant} {workerId : String} {limit : ℤ} {s : Outbox}
    (hi : (CommandStep.claim now workerId limit).Safe s) (id : ℕ) :
    RowStep (s.commands.get? id)
      (((CommandStep.claim now workerId limit).apply s).commands.get? id) := by
  show RowStep _ ((claimDueCommands now workerId limit s.commands).get? id)
  have hget : (claimDueCommands now workerId limit s.commands).get? id =
      if id ∈ claimedCommands now limit s.commands
      then (s.commands.get? id).map (claimCommand now workerId) else s.commands.get? id :=
    Table.get?_modifyAll_batch _ _
  rw [hget]
  split
  · rename_i hid
    obtain ⟨c, hc, hclaim⟩ := Table.mem_batch hid
    have hfifth : c.attemptCount + 1 ≠ commandMaxAttempts := hi id hid c hc
    simp only [claimable, commandDue, commandStale, Bool.or_eq_true, Bool.and_eq_true,
      decide_eq_true_eq, beq_iff_eq] at hclaim
    have hlt : c.attemptCount < commandMaxAttempts := by tauto
    rw [hc]
    apply RowStep.of_unfinished
    · refine Or.inr ⟨?_, Or.inr (Or.inr ⟨rfl, rfl⟩)⟩
      show c.attemptCount + 1 < commandMaxAttempts
      omega
    · intro c' hc'
      cases hc'
      rcases hclaim with ⟨⟨h | h, -⟩, -⟩ | ⟨⟨h, -⟩, -⟩ <;> rw [h] <;> rfl
  · exact Or.inl rfl

lemma event_rowStep (now : Instant) (e : ProviderEvent) (s : Outbox) (id : ℕ) :
    RowStep (s.commands.get? id) (((CommandStep.event now e).apply s).commands.get? id) := by
  show RowStep _ ((resolveCommand now e s.commands).get? id)
  unfold resolveCommand
  dsimp only
  split
  · exact Or.inl rfl
  · split
    · exact Or.inl rfl
    · rename_i i c hfound
      split
      · exact Or.inl rfl
      · rename_i hfin
        have hget : s.commands.get? i = some c :=
          ((s.commands.mem_select).1 (List.mem_of_getLast? hfound)).1
        rw [Table.get?_set]
        by_cases hid : id = i
        · subst hid
          rw [if_pos rfl, hget]
          apply RowStep.of_unfinished
          · left
            cases e.succeeded <;> rfl
          · intro c' hc'
            cases hc'
            simpa using hfin
        · rw [if_neg hid]
          exact Or.inl rfl

section Flush
variable {read new stored : VoiceCommand}

lemma flushCommand_waiting (hread : read.status = .dispatching) (hnew : new.status = .dispatching) :
    (flushCommand read new stored).status = stored.status :=
  changed_of_eq (hnew.trans hread.symm)

lemma flushCommand_decided (hread : read.status = .dispatching) (hnew : new.status ≠ .dispatching) :
    (flushCommand read new stored).status = new.status := by
  have hne : new.status ≠ read.status := by
    rw [hread]
    exact hnew
  exact changed_of_ne hne

lemma flushCommand_finished (hread : read.status = .dispatching)
    (h : new.status = .dispatching ∨ new.status = stored.status) :
    (flushCommand read new stored).status = stored.status := by
  by_cases hnew : new.status = .dispatching
  · exact flushCommand_waiting hread hnew
  · rcases h with h | h
    · exact absurd h hnew
    · rw [flushCommand_decided hread hnew, h]

lemma flushCommand_lease (hnew : new.leaseExpiresAt.isSome = true)
    (hstored : stored.leaseExpiresAt.isSome = true) :
    (flushCommand read new stored).leaseExpiresAt.isSome = true := by
  show (changed read.leaseExpiresAt new.leaseExpiresAt stored.leaseExpiresAt).isSome = true
  by_cases h : new.leaseExpiresAt = read.leaseExpiresAt
  · rw [changed_of_eq h]
    exact hstored
  · rw [changed_of_ne h]
    exact hnew

lemma flushCommand_ok (hread : read.status = .dispatching)
    (hcount : new.attemptCount = read.attemptCount)
    (hlease : new.status = .dispatching → new.leaseExpiresAt.isSome = true)
    (hok : CommandOk stored)
    (hsafe : stored.status.finished = true →
      new.status = .dispatching ∨ new.status = stored.status) :
    CommandOk (flushCommand read new stored) := by
  have hkept : (flushCommand read new stored).attemptCount = stored.attemptCount :=
    changed_of_eq hcount
  rcases hok with hfin | ⟨hlt, hlive⟩
  · left
    rw [flushCommand_finished hread (hsafe hfin)]
    exact hfin
  · by_cases hnew : new.status = .dispatching
    · right
      rw [hkept, flushCommand_waiting hread hnew]
      refine ⟨hlt, ?_⟩
      rcases hlive with h | h | ⟨h, hsome⟩
      · exact Or.inl h
      · exact Or.inr (Or.inl h)
      · exact Or.inr (Or.inr ⟨h, flushCommand_lease (hlease hnew) hsome⟩)
    · unfold CommandOk
      rw [hkept, flushCommand_decided hread hnew]
      cases hst : new.status with
      | dispatching => exact absurd hst hnew
      | requested => exact Or.inr ⟨hlt, Or.inl rfl⟩
      | retryable => exact Or.inr ⟨hlt, Or.inr (Or.inl rfl)⟩
      | succeeded => exact Or.inl rfl
      | failed => exact Or.inl rfl
      | cancelled => exact Or.inl rfl

end Flush

variable {s : Outbox} {i : CommandStep} {c : VoiceCommand} {id : ℕ}

lemma complete_rowStep {now : Instant} {w : ℕ} {d : Dispatch} (hs : s.Ok)
    (hi : (CommandStep.complete now w d).Safe s) (id : ℕ) :
    RowStep (s.commands.get? id) (((CommandStep.complete now w d).apply s).commands.get? id) := by
  show RowStep _ ((completeCommand now w d s).commands.get? id)
  unfold completeCommand
  cases hread : s.dispatches w with
  | none => exact Or.inl rfl
  | some found =>
    obtain ⟨i, read⟩ := found
    dsimp only
    rw [Table.get?_modify]
    by_cases hid : id = i
    · subst hid
      rw [if_pos rfl]
      cases hstored : s.commands.get? id with
      | none => exact Or.inl rfl
      | some stored =>
        right
        have hsafe := hi (id, read) hread stored hstored
        have hok := hs.commands id stored hstored
        have hstatus : read.status = .dispatching := hs.dispatches w id read hread
        obtain ⟨hcount, hverdict, hlease⟩ := dispatchOne_spec now d read
        rw [← hverdict] at hsafe hlease
        refine ⟨_, rfl, flushCommand_ok hstatus hcount hlease hok hsafe, ?_⟩
        intro c hc hfin
        cases hc
        exact flushCommand_finished hstatus (hsafe hfin)
    · rw [if_neg hid]
      exact Or.inl rfl

lemma apply_rowStep (hs : s.Ok) (hi : i.Safe s) (id : ℕ) :
    RowStep (s.commands.get? id) ((i.apply s).commands.get? id) := by
  cases i with
  | enqueue now q => exact enqueue_rowStep now q s id
  | expire now => exact expire_rowStep now s id
  | claim now workerId limit => exact claim_rowStep hi id
  | complete now w d => exact complete_rowStep hs hi id
  | event now e => exact event_rowStep now e s id
  | crash w => exact Or.inl rfl
  | load w id' =>
    left
    show (loadCommand w id' s).commands.get? id = _
    unfold loadCommand
    split
    · split <;> rfl
    · rfl

lemma apply_dispatches (hs : s.Ok) (i : CommandStep) (w id : ℕ) (c : VoiceCommand)
    (h : (i.apply s).dispatches w = some (id, c)) : c.status = .dispatching := by
  cases i with
  | enqueue now q =>
    unfold CommandStep.apply at h
    dsimp only at h
    split at h
    · exact hs.dispatches w id c h
    · exact hs.dispatches w id c h
  | expire now => exact hs.dispatches w id c h
  | claim now workerId limit => exact hs.dispatches w id c h
  | event now e => exact hs.dispatches w id c h
  | crash w' => exact hs.dispatches w id c (InHand.of_release h).2
  | complete now w' d =>
    change (completeCommand now w' d s).dispatches w = _ at h
    unfold completeCommand at h
    split at h
    · exact hs.dispatches w id c (InHand.of_release h).2
    · exact hs.dispatches w id c h
  | load w' id' =>
    change (loadCommand w' id' s).dispatches w = _ at h
    unfold loadCommand at h
    split at h
    · split at h
      · rename_i hdisp
        rcases InHand.of_take h with ⟨-, hnew⟩ | ⟨-, hold⟩
        · cases hnew
          exact hdisp
        · exact hs.dispatches w id c hold
      · exact hs.dispatches w id c (InHand.of_release h).2
    · exact hs.dispatches w id c (InHand.of_release h).2

lemma Outbox.Ok.step (hs : s.Ok) (hi : i.Safe s) :
    (i.apply s).Ok := by
  constructor
  · intro id c hc
    rcases apply_rowStep hs hi id with h | ⟨new, hnew, hok, -⟩
    · rw [h] at hc
      exact hs.commands id c hc
    · rw [hc] at hnew
      cases hnew
      exact hok
  · intro w id c h
    exact apply_dispatches hs i w id c h

lemma Outbox.Ok.keepsFinished (hs : s.Ok) (hi : i.Safe s) :
    KeepsFinished s (i.apply s) := by
  intro id c hc hfin
  rcases apply_rowStep hs hi id with h | ⟨new, hnew, -, hkeep⟩
  · exact ⟨c, by rw [h, hc], rfl⟩
  · exact ⟨new, hnew, hkeep c hc hfin⟩

/-! ## whole runs -/

/-- from some instant on, every claim takes the command, or is filled by claimable commands created
no later. -/
def CommandClaimedWhenLate (commands : Table VoiceCommand) (id : ℕ) (c : VoiceCommand) : Prop :=
  ∃ late : Instant, ∀ now, late ≤ now → claimable now c = true ∧
    ∀ limit, id ∈ claimedCommands now limit commands ∨
      ((claimedCommands now limit commands).length = commandLimit limit ∧
        ∀ first ∈ (commands.ordered createdFirst fun _ c => claimable now c).take
          (commandLimit limit), createdFirst first (id, c))

lemma claimable_when_late (hok : CommandOk c) (hlive : c.status.finished = false) :
    ∃ late : Instant, ∀ now, late ≤ now → claimable now c = true := by
  have hdue : ∀ now, c.nextAttemptAt.getD 0 ≤ now → c.nextAttemptAt.all (· ≤ now) = true := by
    intro now hnow
    cases hn : c.nextAttemptAt with
    | none => rfl
    | some next => simpa [hn] using hnow
  rcases hok with hfin | ⟨hlt, hreq | hretry | ⟨hdisp, hlease⟩⟩
  · rw [hlive] at hfin
    cases hfin
  · refine ⟨c.nextAttemptAt.getD 0, ?_⟩
    intro now hnow
    simp [claimable, commandDue, hreq, hlt, hdue now hnow]
  · refine ⟨c.nextAttemptAt.getD 0, ?_⟩
    intro now hnow
    simp [claimable, commandDue, hretry, hlt, hdue now hnow]
  · obtain ⟨expires, hexp⟩ := Option.isSome_iff_exists.1 hlease
    refine ⟨expires, ?_⟩
    intro now hnow
    simp [claimable, commandStale, hdisp, hlt, hexp, hnow]

lemma commandClaimedWhenLate (hget : commands.get? id = some c) (hok : CommandOk c)
    (hlive : c.status.finished = false) :
    CommandClaimedWhenLate commands id c := by
  obtain ⟨late, hlate⟩ := claimable_when_late hok hlive
  refine ⟨late, ?_⟩
  intro now hnow
  refine ⟨hlate now hnow, ?_⟩
  intro limit
  exact Table.mem_batch_or_full hget (hlate now hnow)

lemma Outbox.ok_empty : Outbox.empty.Ok := by
  constructor
  · intro id c h
    cases h
  · intro w id c h
    cases h

theorem commands_settle (l : List CommandStep)
    (h : Along CommandStep.apply CommandStep.Safe Outbox.empty l) :
    (∀ id c, (run CommandStep.apply Outbox.empty l).commands.get? id = some c →
      c.status.finished = true ∨
        CommandClaimedWhenLate (run CommandStep.apply Outbox.empty l).commands id c) ∧
      ∀ l₁ l₂, l = l₁ ++ l₂ →
        KeepsFinished (run CommandStep.apply Outbox.empty l₁)
          (run CommandStep.apply Outbox.empty l) := by
  constructor
  · intro id c hc
    have hok : CommandOk c :=
      (h.invariant (I := Outbox.Ok) (fun s i hs hi => hs.step hi) Outbox.ok_empty).commands id c hc
    cases hfin : c.status.finished with
    | true => exact Or.inl rfl
    | false => exact Or.inr (commandClaimedWhenLate hc hok hfin)
  · rintro l₁ l₂ rfl
    obtain ⟨hfirst, hrest⟩ := (along_append _ l₁ l₂).1 h
    have hok : (run CommandStep.apply Outbox.empty l₁).Ok :=
      hfirst.invariant (I := Outbox.Ok) (fun s i hs hi => hs.step hi) Outbox.ok_empty
    rw [run_append]
    refine hrest.relation (I := Outbox.Ok) ?_ ?_ (fun s i hs hi => hs.step hi)
      (fun s i hs hi => hs.keepsFinished hi) hok
    · intro s id c hc _
      exact ⟨c, hc, rfl⟩
    · intro s t u hst htu id c hc hfin
      obtain ⟨c', hc', hstatus⟩ := hst id c hc hfin
      obtain ⟨c'', hc'', hstatus'⟩ := htu id c' hc' (by rw [hstatus]; exact hfin)
      exact ⟨c'', hc'', hstatus'.trans hstatus⟩

/-- an operator puts the call of session 1 on hold. -/
def sampleRequest : CommandRequest where
  sessionId := 1
  actorId := some 1
  actionType := "hold"
  target := none
  digits := none
  idempotencyKey := some "hold-1"
  keyToken := "k"
  publicToken := "p"

def transientError : Dispatch := .ran (some .active) (.providerError "room not found")

def succeededReply : Dispatch := .ran (some .active) (.result "succeeded" "succeeded" none none)

def failedDispatch (now : Instant) : List CommandStep :=
  [.claim now "a" 20, .load 0 1, .complete now 0 transientError]

def heldRun : List CommandStep :=
  [.enqueue 0 sampleRequest] ++ failedDispatch (seconds 1) ++
    [.claim (seconds 10) "a" 20, .load 0 1, .complete (seconds 11) 0 succeededReply]

theorem commands_settle_held :
    KeepsFinished (run CommandStep.apply Outbox.empty heldRun)
      (run CommandStep.apply Outbox.empty
        (heldRun ++ [.event (seconds 20) ⟨"hold-1", false, "failed", none⟩])) :=
  (commands_settle _ (by decide +kernel)).2 heldRun _ rfl

lemma not_claimed_of_last_attempt (h : ∀ c ∈ commands.get? id, commandMaxAttempts ≤ c.attemptCount)
    (now : Instant) (limit : ℤ) : id ∉ claimedCommands now limit commands := by
  intro hid
  obtain ⟨c, hc, hclaim⟩ := Table.mem_batch hid
  have hcount := h c hc
  simp only [claimable, commandDue, commandStale, Bool.or_eq_true, Bool.and_eq_true,
    decide_eq_true_eq] at hclaim
  omega

/-- four attempts fail; the worker crashes in the fifth. -/
def abandonedRun : List CommandStep :=
  [.enqueue 0 sampleRequest] ++ failedDispatch (seconds 100) ++ failedDispatch (seconds 200) ++
    failedDispatch (seconds 300) ++ failedDispatch (seconds 400) ++
    [.claim (seconds 500) "a" 20, .load 0 1, .crash 0]

/-- worker 0 outlives its lease; worker 1 takes the command over and finishes it. -/
def overtakenDispatch : List CommandStep :=
  [.enqueue 0 sampleRequest, .claim (seconds 1) "a" 20, .load 0 1, .claim (seconds 61) "b" 20,
    .load 1 1, .complete (seconds 62) 1 succeededReply]

/-- the crash leaves a command that is neither claimed nor expired at any time, and the late worker
makes a succeeded command retryable. -/
theorem abandonedRun_sticks :
    (∃ c, (run CommandStep.apply Outbox.empty abandonedRun).commands.get? 1 = some c ∧
      c.status = .dispatching ∧ ∀ now, unconfirmed now c = false) ∧
      (∀ now limit, 1 ∉ claimedCommands now limit
        (run CommandStep.apply Outbox.empty abandonedRun).commands) ∧
      ¬ KeepsFinished (run CommandStep.apply Outbox.empty overtakenDispatch)
        (run CommandStep.apply Outbox.empty
          (overtakenDispatch ++ [.complete (seconds 63) 0 transientError])) := by
  refine ⟨?_, ?_, ?_⟩
  · have hrow : ((run CommandStep.apply Outbox.empty abandonedRun).commands.get? 1).map
        (fun c => (c.status, c.providerStatus)) = some (.dispatching, "dispatching") := by
      decide +kernel
    obtain ⟨c, hc, hstatus⟩ := Option.map_eq_some_iff.1 hrow
    obtain ⟨hst, hps⟩ := Prod.mk.inj hstatus
    refine ⟨c, hc, hst, ?_⟩
    intro now
    simp [unconfirmed, hps]
  · intro now limit
    exact not_claimed_of_last_attempt (by decide +kernel) now limit
  · intro hkeeps
    have hbefore : ((run CommandStep.apply Outbox.empty overtakenDispatch).commands.get? 1).map
        (·.status) = some .succeeded := by decide +kernel
    obtain ⟨c, hc, hstatus⟩ := Option.map_eq_some_iff.1 hbefore
    obtain ⟨c', hc', hsame⟩ := hkeeps 1 c hc (by rw [hstatus]; rfl)
    have hafter : ((run CommandStep.apply Outbox.empty (overtakenDispatch ++
        [.complete (seconds 63) 0 transientError])).commands.get? 1).map (·.status) =
          some .retryable := by decide +kernel
    rw [hc', Option.map_some, hsame, hstatus] at hafter
    cases hafter

end NexusHelpdesk.Telephony
