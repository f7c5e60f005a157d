import NexusHelpdesk.Outbound.Process

/-!
# The outbound dispatch loop

`outbound_dispatch_transaction_boundary.py`: one worker reclaims expired leases, claims a batch,
and attempts every claimed message in a transaction of its own that it publishes only while it
still holds the lease.

* `reclaimStaleProcessingMessages`, `claimPendingMessages`: the two transactions before the loop;
* `refreshMessageLease`, `ownsMessageLease`: the lease of one message;
* `dispatchMessage`: one turn of the loop;  `dispatchPendingMessages`: the whole call.

An `Outcome` also keeps, for each attempt that returned, the row as `process_outbound_message`
left it (`assigned`), so that what was assigned can be compared with what was published.

`dispatchMessage_assigned`: **the lease check reads the worker's own flushed outcome, so it
refuses every attempt that returned**: the published row is still the leased one.
-/

namespace NexusHelpdesk.Outbound
open Lib

/-! ## the two transactions before the loop -/

/-- `_claim_token`; `hex` is the fresh `uuid4().hex`. -/
def claimToken (workerId : Option String) (hex : String) : String :=
  let name := PyStr.strip ((PyStr.orElse workerId none).getD "outbound-worker")
  let name := if name = "" then "outbound-worker" else name
  String.ofList (name.toList.take 80) ++ ":" ++ hex

/-- `limit or settings.outbox_batch_size`. -/
def batchLimit (c : Settings) : Option ℕ → ℕ
  | some (n + 1) => n + 1
  | _ => c.outboxBatchSize

def orderByCreatedAt (rows : List (ℕ × OutboundMessage)) : List (ℕ × OutboundMessage) :=
  rows.insertionSort fun a b => a.2.createdAt ≤ b.2.createdAt

/-- the lease timestamp is missing or older than the lock time. -/
def leaseExpired (c : Settings) (now : Instant) (m : OutboundMessage) : Bool :=
  match m.lockedAt with
  | none => true
  | some t => t < now - seconds c.outboxLockSeconds

def isStaleProcessing (c : Settings) (now : Instant) (m : OutboundMessage) : Bool :=
  isExternalOutboundMessage m && m.status == .processing && leaseExpired c now m

/-- one expired attempt goes back to the retry/dead state machine. -/
def reclaimMessage (env : Env) (now : Instant) (s : Session) (r : ℕ × OutboundMessage) :
    Except PyException Session :=
  let mark := markRetry now "Previous outbound worker lease expired before a terminal result"
    (some "worker_lease_expired")
  markAndLog env s r.1 r.2 mark (retryEventType (mark r.2))
    "Expired outbound processing attempt was recovered" true

def reclaimStaleProcessingMessages (env : Env) (now : Instant) (limit : Option ℕ) (s : Session) :
    Except PyException Session := do
  let stale := s.work.flushed.messages.select fun _ m => isStaleProcessing env.settings now m
  let rows := (orderByCreatedAt stale).take (batchLimit env.settings limit)
  if rows = [] then return s
  let s ← rows.foldlM (reclaimMessage env now) s
  s.commit env

/-- `pending_filters`. -/
def isClaimable (c : Settings) (now : Instant) (m : OutboundMessage) : Bool :=
  isExternalOutboundMessage m && m.status == .pending &&
    (match m.nextRetryAt with
      | none => true
      | some t => t ≤ now) &&
    leaseExpired c now m

/-- the claimed ids in the order they will be attempted, and the session after the claim. -/
def claimPendingMessages (env : Env) (now : Instant) (limit : Option ℕ) (token : String)
    (s : Session) : Except PyException (List ℕ × Session) := do
  let claimable := s.work.flushed.messages.select fun _ m => isClaimable env.settings now m
  let ids := ((orderByCreatedAt claimable).take (batchLimit env.settings limit)).map (·.1)
  if ids = [] then return ([], s.rollback)
  let lease (i : ℕ) (m : OutboundMessage) : OutboundMessage :=
    if i ∈ ids then
      { m with status := .processing, lockedAt := some now, lockedBy := some token }
    else m
  let s := { s with work := s.work.execute fun db =>
    { db with messages := db.messages.mapRows lease } }
  return (ids, ← s.commit env)

/-! ## the lease of one message -/

def holdsLease (token : String) (m : OutboundMessage) : Bool :=
  m.lockedBy == some token && m.status == .processing

def touchLease (now : Instant) (id : ℕ) (db : OutboxDb) : OutboxDb :=
  { db with messages := db.messages.modify id fun m => { m with lockedAt := some now } }

/-- `_refresh_message_lease`: whether the lease was still held, and the session after. -/
def refreshMessageLease (env : Env) (now : Instant) (token : String) (id : ℕ) (s : Session) :
    Except PyException (Bool × Session) := do
  if (s.work.flushed.messages.get? id).any (holdsLease token) then
    let s ← Session.commit env { s with work := s.work.execute (touchLease now id) }
    return (true, s)
  else return (false, s.rollback)

/-- `_owns_message_lease`: a column query, answered from the worker's own transaction. -/
def ownsMessageLease (s : Session) (id : ℕ) (token : String) : Bool :=
  (s.work.flushed.messages.get? id).any (holdsLease token)

/-- `_recover_unhandled_dispatch_exception`, with the commit its caller makes. -/
def recoverUnhandledDispatchException (env : Env) (now : Instant) (token : String) (id : ℕ)
    (exc : PyException) (s : Session) : Except PyException (Option Session) := do
  if !ownsMessageLease s id token then return none
  match s.work.pending.messages.get? id with
  | none => return none
  | some m =>
    let mark := markRetry now ("Unhandled dispatch exception: " ++ exc.typeName) none
    let s ← markAndLog env s id m mark (retryEventType (mark m))
      "Queued outbound message failed dispatch with unhandled exception" true
    return some (← s.commit env)

/-! ## the loop -/

def runtimeDispatchBlockReason (c : Settings) : Option (String × String) :=
  match externalDispatchBlockReason c with
  | some b => some b
  | none =>
    if c.outboundProvider ∈ ["email", "smtp"] ∧ !c.outboundEmailProductionPilotEnabled then
      some ("outbound_email_pilot_disabled",
        "OUTBOUND_EMAIL_PRODUCTION_PILOT_ENABLED=false blocks SMTP dispatch")
    else none

def messageDispatchBlockReason (c : Settings) (m : OutboundMessage) : Option (String × String) :=
  if m.channel ≠ .email then none
  else if c.outboundProvider ∉ ["email", "smtp"] then
    some ("outbound_email_provider_not_authorized",
      "Email dispatch requires OUTBOUND_PROVIDER=email or smtp")
  else if !c.outboundEmailProductionPilotEnabled then
    some ("outbound_email_pilot_disabled",
      "OUTBOUND_EMAIL_PRODUCTION_PILOT_ENABLED=false blocks SMTP dispatch")
  else none

/-- what one turn of the loop leaves. -/
structure Iteration where
  session : Session
  raised : Option PyException := none
  processed : Bool := false
  /-- the row as `process_outbound_message` left it, when it returned. -/
  assigned : Option OutboundMessage := none

/-- an exception inside a turn ends the call; nothing of the turn's open transaction survives. -/
def Iteration.ofExcept (s : Session) (assigned : Option OutboundMessage) :
    Except PyException Session → Iteration
  | .error e => { session := s, raised := some e, assigned := assigned }
  | .ok s' => { session := s', processed := true, assigned := assigned }

/-- `_mark_runtime_blocked_message`, with the commit its caller makes. -/
def markRuntimeBlockedMessage (env : Env) (now : Instant) (id : ℕ) (m : OutboundMessage)
    (failureCode reason : String) (s : Session) : Except PyException Session := do
  let s ← markAndLog env s id m (markDead now reason failureCode) .outboundDead
    "External outbound message blocked by runtime capability authority" true
  s.commit env

/-- the attempt and its publication, once the lease is refreshed. -/
def attemptMessage (env : Env) (now : Instant) (token : String) (id : ℕ) (m : OutboundMessage)
    (s : Session) : Iteration :=
  match processOutboundMessage env now s id m with
  | .ok s' =>
    let assigned := s'.work.pending.messages.get? id
    if ownsMessageLease s' id token then Iteration.ofExcept s assigned (s'.commit env)
    else { session := s'.rollback, assigned := assigned }
  | .error e =>
    match recoverUnhandledDispatchException env now token id e s.rollback with
    | .ok none => { session := s.rollback }
    | .ok (some s') => { session := s', processed := true }
    | .error e' => { session := s.rollback, raised := some e' }

def dispatchMessage (env : Env) (now : Instant) (token : String) (id : ℕ) (s : Session) :
    Iteration :=
  match refreshMessageLease env now token id s with
  | .error e => { session := s, raised := some e }
  | .ok (false, s') => { session := s' }
  | .ok (true, s') =>
    match s'.work.pending.messages.get? id with
    | none => { session := s' }
    | some m =>
      match messageDispatchBlockReason env.settings m with
      | some (failureCode, reason) =>
        Iteration.ofExcept s' none (markRuntimeBlockedMessage env now id m failureCode reason s')
      | none => attemptMessage env now token id m s'

/-- what a call of `dispatch_pending_messages` leaves. -/
structure Outcome where
  committed : OutboxDb
  raised : Option PyException := none
  processed : List ℕ := []
  assigned : List (ℕ × OutboundMessage) := []

def dispatchLoop (env : Env) (now : Instant) (token : String) : List ℕ → Session → Outcome
  | [], s => { committed := s.work.committed }
  | id :: rest, s =>
    let it := dispatchMessage env now token id s
    let here := (it.assigned.map fun m => (id, m)).toList
    match it.raised with
    | some e => { committed := it.session.work.committed, raised := some e, assigned := here }
    | none =>
      let o := dispatchLoop env now token rest it.session
      { o with
        processed := (if it.processed then [id] else []) ++ o.processed
        assigned := here ++ o.assigned }

/-- `dispatch_pending_messages` of the worker whose fresh lease token is `token`. -/
def dispatchPendingMessages (env : Env) (now : Instant) (limit : Option ℕ) (token : String)
    (db : OutboxDb) : Outcome :=
  match runtimeDispatchBlockReason env.settings with
  | some _ => { committed := db }
  | none =>
    match reclaimStaleProcessingMessages env now limit (Session.start db) with
    | .error e => { committed := db, raised := some e }
    | .ok s =>
      match claimPendingMessages env now limit token s with
      | .error e => { committed := s.work.committed, raised := some e }
      | .ok (ids, s') => dispatchLoop env now token ids s'

/-! ## publication -/

variable {env : Env} {s s' : Session} {db : OutboxDb} {id : ℕ} {m : OutboundMessage} {now : Instant}
  {token : String} {j : ℕ} {limit : Option ℕ}

lemma writeViolation_of_sent
    (h : s.work.pending.messages = s.work.flushed.messages) : s.writeViolation env = none := by
  unfold Session.writeViolation
  rw [List.findSome?_eq_none_iff]
  intro r hr
  rw [h] at hr
  exact if_pos ((Table.mem_rows _).1 hr)

lemma commit_ok (h : s.commit env = .ok s') :
    s' = Session.start s.work.pending := by
  obtain ⟨s₁, hs₁, he⟩ := bind_eq_ok.1 h
  cases he
  unfold Session.flush at hs₁
  split at hs₁
  · cases hs₁
  · rename_i hb
    split at hs₁
    · cases hs₁
    · cases hs₁
      simp only [Session.start, UnitOfWork.commit_eq, UnitOfWork.pending_flush, Session.mk.injEq,
        true_and]
      exact Bool.eq_false_iff.2 hb

lemma commit_execute_start (env : Env) (db : OutboxDb) (f : OutboxDb → OutboxDb) :
    Session.commit env ⟨(UnitOfWork.start db).execute f, false⟩ = .ok (Session.start (f db)) := by
  have hw : Session.writeViolation env ⟨(UnitOfWork.start db).execute f, false⟩ = none :=
    writeViolation_of_sent rfl
  unfold Session.commit Session.flush
  rw [hw]
  rfl

lemma refreshMessageLease_start (env : Env) (now : Instant) (token : String) (id : ℕ)
    (db : OutboxDb) :
    refreshMessageLease env now token id (Session.start db) =
      if (db.messages.get? id).any (holdsLease token) then
        .ok (true, Session.start (touchLease now id db))
      else .ok (false, Session.start db) := by
  unfold refreshMessageLease
  change (if (db.messages.get? id).any (holdsLease token) then
    (do
      let s ← Session.commit env ⟨(UnitOfWork.start db).execute (touchLease now id), false⟩
      return (true, s)) else _) = _
  rw [commit_execute_start]
  rfl

/-- marking the row under `id` and publishing it leaves the other rows as they were. -/
lemma markAndLog_commit_frame {s'' : Session} {mark : OutboundMessage → OutboundMessage}
    {et : EventType} {note : String} {ok : Bool}
    (h : markAndLog env (Session.start db) id m mark et note ok = .ok s')
    (hc : s'.commit env = .ok s'') (hj : j ≠ id) :
    s''.work.committed.messages.get? j = db.messages.get? j := by
  rw [commit_ok hc]
  change s'.work.pending.messages.get? j = _
  rw [(logEvent_ok h).2.2]
  exact Table.get?_modify_of_ne _ _ hj

/-! ## one turn of the loop -/

def StillLeased (token : String) (db : OutboxDb) (id : ℕ) : Prop :=
  ∃ r, db.messages.get? id = some r ∧ holdsLease token r = true

/-- what a turn for `id` from the published database `db` does. -/
structure TurnSpec (token : String) (id : ℕ) (db : OutboxDb) (it : Iteration) : Prop where
  frame : ∀ j, j ≠ id → it.session.work.committed.messages.get? j = db.messages.get? j
  clean : it.raised = none → it.session = Session.start it.session.work.committed
  assigned : ∀ m, it.assigned = some m → Settled m ∧ StillLeased token it.session.work.committed id

lemma frame_touchLease (db : OutboxDb) (hj : j ≠ id) :
    (touchLease now id db).messages.get? j = db.messages.get? j :=
  Table.get?_modify_of_ne _ _ hj

lemma TurnSpec.of_touchLease {it : Iteration} (h : TurnSpec token id (touchLease now id db) it) :
    TurnSpec token id db it :=
  ⟨fun j hj => (h.frame j hj).trans (frame_touchLease db hj), h.clean, h.assigned⟩

lemma turnSpec_idle (token : String) (id : ℕ) (db : OutboxDb) (raised : Option PyException) :
    TurnSpec token id db { session := Session.start db, raised := raised } :=
  ⟨fun _ _ => rfl, fun _ => rfl, fun m hm => by cases hm⟩

lemma turnSpec_blocked (env : Env) (now : Instant) (token : String) (id : ℕ) (db : OutboxDb)
    (m : OutboundMessage) (code reason : String) :
    TurnSpec token id db (Iteration.ofExcept (Session.start db) none
      (markRuntimeBlockedMessage env now id m code reason (Session.start db))) := by
  cases h : markRuntimeBlockedMessage env now id m code reason (Session.start db) with
  | error e => exact turnSpec_idle token id db (some e)
  | ok s'' =>
    obtain ⟨s', hs', hc⟩ := bind_eq_ok.1 h
    refine ⟨fun j hj => markAndLog_commit_frame hs' hc hj, fun _ => ?_, fun m hm => by cases hm⟩
    change s'' = _
    rw [commit_ok hc]
    rfl

lemma turnSpec_recover {exc : PyException}
    (h : recoverUnhandledDispatchException env now token id exc (Session.start db) =
      .ok (some s')) :
    TurnSpec token id db { session := s', processed := true } := by
  unfold recoverUnhandledDispatchException at h
  split at h
  · cases h
  · split at h
    · cases h
    · obtain ⟨s₁, hs₁, h⟩ := bind_eq_ok.1 h
      obtain ⟨s₂, hs₂, h⟩ := bind_eq_ok.1 h
      cases h
      refine ⟨fun j hj => markAndLog_commit_frame hs₁ hs₂ hj, fun _ => ?_,
        fun m hm => by cases hm⟩
      change s' = _
      rw [commit_ok hs₂]
      rfl

lemma ownsMessageLease_of_settles (token : String)
    (h : SettlesRow id s s') : ownsMessageLease s' id token = false := by
  obtain ⟨-, -, m, hm, hlock, -⟩ := h
  unfold ownsMessageLease holdsLease
  rw [hm]
  simp [hlock]

/-- **The lease check reads the worker's own flushed outcome, so it refuses every attempt that
returned.** -/
lemma turnSpec_attemptMessage (env : Env) (now : Instant) (hm : db.messages.get? id = some m)
    (hl : holdsLease token m = true) :
    TurnSpec token id db (attemptMessage env now token id m (Session.start db)) := by
  unfold attemptMessage
  cases hp : processOutboundMessage env now (Session.start db) id m with
  | ok s' =>
    have hstatus : m.status ≠ .sent := by
      intro hs
      simp [holdsLease, hs] at hl
    have hset := processOutboundMessage_settles (s := Session.start db) hm hstatus hp
    simp only [ownsMessageLease_of_settles token hset, Bool.false_eq_true, if_false]
    obtain ⟨hc, hf, r, hr, hrs⟩ := hset
    have hroll : s'.rollback.work.committed = db := hc
    refine ⟨fun j _ => by rw [hroll], fun _ => rfl, fun m' hm' => ?_⟩
    refine ⟨?_, m, by rw [hroll]; exact hm, hl⟩
    rw [← hf, hr] at hm'
    cases hm'
    exact hrs
  | error e =>
    simp only
    cases hr : recoverUnhandledDispatchException env now token id e (Session.start db).rollback with
    | error e' => exact turnSpec_idle token id db (some e')
    | ok o =>
      cases o with
      | none => exact turnSpec_idle token id db none
      | some s' => exact turnSpec_recover hr

lemma turnSpec_dispatchMessage (env : Env) (now : Instant) (token : String) (id : ℕ)
    (db : OutboxDb) :
    TurnSpec token id db (dispatchMessage env now token id (Session.start db)) := by
  unfold dispatchMessage
  rw [refreshMessageLease_start]
  by_cases h : (db.messages.get? id).any (holdsLease token)
  · obtain ⟨m, hm, hl⟩ := (Option.any_eq_true _ _).1 h
    have hrow : (touchLease now id db).messages.get? id = some { m with lockedAt := some now } := by
      change (db.messages.modify id _).get? id = _
      rw [Table.get?_modify_self, hm]
      rfl
    rw [if_pos h]
    apply TurnSpec.of_touchLease
    simp only [Session.start, UnitOfWork.pending_start, hrow]
    cases messageDispatchBlockReason env.settings { m with lockedAt := some now } with
    | some b => exact turnSpec_blocked env now token id _ _ b.1 b.2
    | none => exact turnSpec_attemptMessage env now hrow hl
  · rw [if_neg h]
    exact turnSpec_idle token id db none

/-! ## the whole call -/

/-- **A returned attempt is never published**: whatever the loop assigned, the row is still
leased to the worker when the loop ends, and the rows it was not given are untouched. -/
lemma dispatchLoop_spec (env : Env) (now : Instant) (token : String) (ids : List ℕ)
    (hn : ids.Nodup) (db : OutboxDb) :
    (∀ j, j ∉ ids → (dispatchLoop env now token ids (Session.start db)).committed.messages.get? j =
      db.messages.get? j) ∧
    ∀ a ∈ (dispatchLoop env now token ids (Session.start db)).assigned,
      a.1 ∈ ids ∧ Settled a.2 ∧
        StillLeased token (dispatchLoop env now token ids (Session.start db)).committed a.1 := by
  induction ids generalizing db with
  | nil => exact ⟨fun _ _ => rfl, fun a ha => by cases ha⟩
  | cons id rest ih =>
    obtain ⟨hid, hrest⟩ := List.nodup_cons.1 hn
    have hturn := turnSpec_dispatchMessage env now token id db
    unfold dispatchLoop
    simp only
    set it := dispatchMessage env now token id (Session.start db) with hit
    have hhere : ∀ a ∈ (it.assigned.map fun m => (id, m)).toList,
        a.1 = id ∧ Settled a.2 ∧ StillLeased token it.session.work.committed id := by
      intro a ha
      obtain ⟨m, hm, rfl⟩ := Option.map_eq_some_iff.1 (Option.mem_toList.1 ha)
      exact ⟨rfl, hturn.assigned m hm⟩
    cases hr : it.raised with
    | some e =>
      refine ⟨fun j hj => hturn.frame j (List.ne_of_not_mem_cons hj), fun a ha => ?_⟩
      obtain ⟨h1, h2, h3⟩ := hhere a ha
      exact ⟨by rw [h1]; exact List.mem_cons_self, h2, by rw [h1]; exact h3⟩
    | none =>
      obtain ⟨ihf, iha⟩ := ih hrest it.session.work.committed
      rw [← hturn.clean hr] at ihf iha
      refine ⟨fun j hj => ?_, fun a ha => ?_⟩
      · rw [ihf j (List.not_mem_of_not_mem_cons hj)]
        exact hturn.frame j (List.ne_of_not_mem_cons hj)
      · rcases List.mem_append.1 ha with ha | ha
        · obtain ⟨h1, h2, r, hr', hl⟩ := hhere a ha
          refine ⟨by rw [h1]; exact List.mem_cons_self, h2, r, ?_, hl⟩
          rw [h1]
          exact (ihf id hid).trans hr'
        · obtain ⟨h1, h2, h3⟩ := iha a ha
          exact ⟨List.mem_cons_of_mem _ h1, h2, h3⟩

lemma reclaimStaleProcessingMessages_clean
    (h : reclaimStaleProcessingMessages env now limit (Session.start db) = .ok s) :
    ∃ db', s = Session.start db' := by
  unfold reclaimStaleProcessingMessages at h
  simp only at h
  split at h
  · cases h
    exact ⟨db, rfl⟩
  · obtain ⟨s₁, -, hc⟩ := bind_eq_ok.1 h
    exact ⟨_, commit_ok hc⟩

lemma claimPendingMessages_clean {ids : List ℕ}
    (h : claimPendingMessages env now limit token s = .ok (ids, s')) :
    ids.Nodup ∧ ∃ db', s' = Session.start db' := by
  unfold claimPendingMessages at h
  simp only at h
  split at h
  · cases h
    exact ⟨List.nodup_nil, _, rfl⟩
  · obtain ⟨s₁, hc, he⟩ := bind_eq_ok.1 h
    cases he
    refine ⟨?_, _, commit_ok hc⟩
    have hperm := List.perm_insertionSort (fun a b => a.2.createdAt ≤ b.2.createdAt)
      (s.work.flushed.messages.select fun _ m => isClaimable env.settings now m)
    have hnodup := (hperm.map Prod.fst).nodup_iff.2 (Table.nodup_keys_select _ _)
    exact hnodup.sublist ((List.take_sublist _ _).map _)

/-- the outcome an attempt assigned to the row under `id` is the published one: the same status,
and for a sent message no lease and the provider's message id. -/
def CompletionKept (o : Outcome) (id : ℕ) (assigned : OutboundMessage) : Prop :=
  ∃ r, o.committed.messages.get? id = some r ∧ r.status = assigned.status ∧
    (assigned.status = .sent →
      r.lockedBy = none ∧ r.providerMessageId = assigned.providerMessageId)

lemma StillLeased.not_completionKept {o : Outcome}
    (h : StillLeased token o.committed id) (hm : Settled m) :
    ¬ CompletionKept o id m := by
  rintro ⟨r, hr, hs, -⟩
  obtain ⟨r', hr', hl⟩ := h
  rw [hr] at hr'
  cases hr'
  have hproc : r.status = .processing := by
    simp only [holdsLease, Bool.and_eq_true, beq_iff_eq] at hl
    exact hl.2
  rw [hproc] at hs
  rcases hm.2 with h | h | h <;> rw [h] at hs <;> cases hs

/-- **No completion is kept**: for every database, batch, adapter and policy, whatever outcome
`process_outbound_message` assigned to a claimed message, the published row is left in
`processing` under the worker's lease. -/
theorem dispatchPendingMessages_drops_completions (env : Env) (now : Instant) (limit : Option ℕ)
    (token : String) (db : OutboxDb) :
    ∀ a ∈ (dispatchPendingMessages env now limit token db).assigned,
      ¬ CompletionKept (dispatchPendingMessages env now limit token db) a.1 a.2 ∧
        StillLeased token (dispatchPendingMessages env now limit token db).committed a.1 := by
  intro a ha
  have key : Settled a.2 ∧
      StillLeased token (dispatchPendingMessages env now limit token db).committed a.1 := by
    unfold dispatchPendingMessages at ha ⊢
    split at ha
    · cases ha
    · split at ha
      · cases ha
      · rename_i s hs
        obtain ⟨db₁, rfl⟩ := reclaimStaleProcessingMessages_clean hs
        split at ha
        · cases ha
        · rename_i ids s' hs'
          obtain ⟨hn, db₂, rfl⟩ := claimPendingMessages_clean hs'
          exact ((dispatchLoop_spec env now token ids hn db₂).2 a ha).2
  exact ⟨key.2.not_completionKept key.1, key.2⟩

/-! ## a sent message that is not recorded -/

/-- a pending message of a human agent on WhatsApp. -/
def sampleMessage : OutboundMessage where
  ticketId := 1
  channel := .whatsapp
  status := .pending
  body := "Your parcel is on its way."
  origin := none
  runtimeTraceId := none
  runtimeContractVersion := none
  runtimeSignature := none
  runtimeContractPayloadJson := none
  runtimeContractPayloadSha256 := none
  runtimeReplyType := none
  safetyStatus := none
  providerStatus := some "queued"
  errorMessage := none
  createdBy := some 7
  sentAt := none
  retryCount := 0
  maxRetries := 3
  lastAttemptAt := none
  nextRetryAt := none
  lockedAt := none
  lockedBy := none
  providerMessageId := none
  mailboxThreadId := none
  mailboxMessageId := none
  mailboxReferences := none
  failureCode := none
  failureReason := none
  deliveryStatus := none
  deliveryEventType := none
  deliveryReceiptProvider := none
  deliveryReceiptId := none
  deliveryReceiptAt := none
  createdAt := 0

def sampleDb : OutboxDb where
  messages := Table.empty.insert sampleMessage
  tickets := Table.empty.insert ⟨some .humanOwned, none, none, none⟩
  events := Table.empty

/-- WhatsApp accepts the message as `wamid.1`; the policy passes every body. -/
def sampleEnv : Env where
  settings := ⟨true, "native", false, false, 300, 50⟩
  whatsapp := fun _ _ =>
    ⟨.ok ⟨.sent, some "accepted", some 5, { providerMessageId := some "wamid.1" }⟩, false⟩
  email := fun _ _ => ⟨.error (.other "SMTPException"), false⟩
  policy := fun body => ⟨true, "allow", [], body⟩
  payloadHashViolation := fun _ => none
  payloadReplyType := fun _ => none
  contractViolation := fun _ => .ok none
  bindingViolation := fun _ => none

/-- the adapter reports the message sent, and the published row says it is still being
processed. -/
theorem sampleMessage_sent_not_recorded :
    (∃ m, (dispatchPendingMessages sampleEnv 10 none "w:1" sampleDb).assigned = [(1, m)] ∧
      m.status = .sent ∧ m.providerMessageId = some "wamid.1" ∧
      ¬ CompletionKept (dispatchPendingMessages sampleEnv 10 none "w:1" sampleDb) 1 m) ∧
    ((dispatchPendingMessages sampleEnv 10 none "w:1" sampleDb).committed.messages.get? 1).map
      (fun r => (r.status, r.lockedBy, r.providerMessageId)) =
      some (.processing, some "w:1", none) := by
  refine ⟨⟨_, rfl, rfl, rfl, ?_⟩, rfl⟩
  rintro ⟨r, hr, hs, -⟩
  cases hr
  cases hs

theorem sampleMessage_still_leased :
    ∃ m, (1, m) ∈ (dispatchPendingMessages sampleEnv 10 none "w:1" sampleDb).assigned ∧
      StillLeased "w:1" (dispatchPendingMessages sampleEnv 10 none "w:1" sampleDb).committed 1 :=
  ⟨_, List.mem_singleton.2 rfl,
    (dispatchPendingMessages_drops_completions sampleEnv 10 none "w:1" sampleDb _
      (List.mem_singleton.2 rfl)).2⟩

end NexusHelpdesk.Outbound
