import NexusHelpdesk.Lib.Tickets
import NexusHelpdesk.Operations.Outbox

/-!
# Safety and progress of the operations dispatch outbox

The attempt counter of a row is a ticket dispenser (`Lib.Tickets`): a claim issues the next ticket of
the row, the adapter call uses it.

* `World.tickets`, `apply_tickets`: every step of the outbox is a move of the dispenser, or none;
* `World.Good`: the invariant, kept by every step;
* `apply_dispatched`: what it takes for a row to become dispatched;
* `apply_keepsTerminal`: dispatched and dead-lettered rows keep their status in a step that is not
  a late cancellation;
* `late_claim`: what a late claim does to a row that waits.

`outbox_safe`: **in every run without a late cancellation all of these hold together.**
-/

namespace NexusHelpdesk.Operations

open Lib

/-! ## rows under the sweeps -/

def sweepRecord (now : Instant) (r : OutboxRecord) : OutboxRecord :=
  deadLetterExhausted now (recoverLease now r)

lemma get?_sweep (now : Instant) (records : Table OutboxRecord) (id : ℕ) :
    (sweep now records).get? id = (records.get? id).map (sweepRecord now) := by
  unfold sweep deadLetterExhaustedDueRows recoverExpiredLeases
  rw [Table.get?_mapRows, Table.get?_mapRows, Option.map_map]
  rfl

/-- what the sweeps leave of a row: the row itself, or a dead-lettered or retryable one without a
lease, and then the row was not terminal. -/
lemma sweepRecord_cases (now : Instant) (r : OutboxRecord) :
    sweepRecord now r = r ∨
      (r.status.terminal = false ∧ (sweepRecord now r).attemptCount = r.attemptCount ∧
        (sweepRecord now r).maxAttempts = r.maxAttempts ∧
        (sweepRecord now r).leaseOwner = none ∧ (sweepRecord now r).leaseExpiresAt = none ∧
        (sweepRecord now r).createdAt = r.createdAt ∧
        ((sweepRecord now r).status = .deadLetter ∨
          ((sweepRecord now r).status = .retryable ∧ (sweepRecord now r).nextRetryAt = some now ∧
            r.attemptCount < r.maxAttempts))) := by
  unfold sweepRecord recoverLease
  by_cases hexp : leaseExpired now r = true
  · have hlive : r.status.terminal = false := by
      simp only [leaseExpired, Bool.and_eq_true, beq_iff_eq] at hexp
      rw [hexp.1]
      rfl
    right
    rw [if_pos hexp]
    by_cases hex : exhausted r = true
    · rw [if_pos hex]
      have hself : deadLetterExhausted now (deadLetter now "lease_expired_attempts_exhausted" r) =
          deadLetter now "lease_expired_attempts_exhausted" r := by
        simp [deadLetterExhausted, deadLetter]
      rw [hself]
      exact ⟨hlive, rfl, rfl, rfl, rfl, rfl, Or.inl rfl⟩
    · rw [if_neg hex]
      have hlt : r.attemptCount < r.maxAttempts := by simpa [exhausted] using hex
      unfold deadLetterExhausted
      rw [if_neg (by simpa [exhausted] using hlt)]
      exact ⟨hlive, rfl, rfl, rfl, rfl, rfl, Or.inr ⟨rfl, rfl, hlt⟩⟩
  · rw [if_neg hexp]
    unfold deadLetterExhausted
    split
    · rename_i h
      right
      simp only [Bool.and_eq_true, Bool.or_eq_true, beq_iff_eq] at h
      refine ⟨?_, rfl, rfl, rfl, rfl, rfl, Or.inl rfl⟩
      rcases h.1 with h | h <;> rw [h] <;> rfl
    · exact Or.inl rfl

lemma sweepRecord_attempts (now : Instant) (r : OutboxRecord) :
    (sweepRecord now r).attemptCount = r.attemptCount ∧
      (sweepRecord now r).maxAttempts = r.maxAttempts := by
  rcases sweepRecord_cases now r with h | ⟨-, ha, hm, -⟩
  · rw [h]
    exact ⟨rfl, rfl⟩
  · exact ⟨ha, hm⟩

lemma sweepRecord_createdAt (now : Instant) (r : OutboxRecord) :
    (sweepRecord now r).createdAt = r.createdAt := by
  rcases sweepRecord_cases now r with h | ⟨-, -, -, -, -, hc, -⟩
  · rw [h]
  · exact hc

variable {now : Instant} {r : OutboxRecord} {s : World} {id : ℕ} {i : DispatchStep} {owner : String}
  {w : String}

lemma sweepRecord_terminal (h : r.status.terminal = true) :
    sweepRecord now r = r := by
  rcases sweepRecord_cases now r with hsame | ⟨hlive, -⟩
  · exact hsame
  · rw [h] at hlive
    cases hlive

lemma sweepRecord_constraints (h : r.constraints = true) :
    (sweepRecord now r).constraints = true := by
  rcases sweepRecord_cases now r with hsame | ⟨-, ha, hm, ho, he, -, hstatus⟩
  · rw [hsame]
    exact h
  · simp only [OutboxRecord.constraints, Bool.and_eq_true, decide_eq_true_eq] at h ⊢
    rw [ha, hm, ho, he]
    rcases hstatus with hst | ⟨hst, hnext, -⟩
    · rw [hst]
      simp [h.1.1.1.1.1, h.1.1.1.1.2]
    · rw [hst, hnext]
      simp [h.1.1.1.1.1, h.1.1.1.1.2]

/-! ## what a claim does -/

lemma claim_cases (now : Instant) (owner : String) (leaseSeconds : ℤ)
    (records : Table OutboxRecord) :
    claimNextOperationsDispatch now owner leaseSeconds records = (none, sweep now records) ∨
      ∃ id r, (sweep now records).get? id = some r ∧ dispatchDue now r = true ∧
        claimCandidate now records = some (id, r) ∧
        claimNextOperationsDispatch now owner leaseSeconds records =
          (some (id, claimRecord now owner leaseSeconds r),
            (sweep now records).set id (claimRecord now owner leaseSeconds r)) := by
  unfold claimNextOperationsDispatch
  cases hc : claimCandidate now records with
  | none => exact Or.inl rfl
  | some found =>
    obtain ⟨id, r⟩ := found
    right
    have hmem := Table.mem_ordered.1 (List.mem_of_head? hc)
    exact ⟨id, r, hmem.1, hmem.2, rfl, rfl⟩

lemma claimRecord_constraints {leaseSeconds : ℤ} (h : r.constraints = true)
    (hdue : dispatchDue now r = true) :
    (claimRecord now owner leaseSeconds r).constraints = true := by
  simp only [dispatchDue, Bool.and_eq_true, decide_eq_true_eq] at hdue
  simp only [OutboxRecord.constraints, Bool.and_eq_true, decide_eq_true_eq] at h
  simp [OutboxRecord.constraints, claimRecord, h.1.1.1.1.1, hdue.2]

lemma due_not_terminal (hdue : dispatchDue now r = true) :
    r.status.terminal = false := by
  simp only [dispatchDue, Bool.and_eq_true, Bool.or_eq_true, beq_iff_eq] at hdue
  rcases hdue.1 with h | ⟨h, -⟩ <;> rw [h] <;> rfl

lemma finalizeRecord_cases {result : AdapterResult} {new : OutboxRecord}
    (h : finalizeRecord now owner result r = some new) :
    ownedProcessing now owner r = true ∧ new.attemptCount = r.attemptCount ∧
      new.leaseOwner = none ∧ (r.constraints = true → new.constraints = true) ∧
      (new.status = .dispatched → result.success = true) := by
  unfold finalizeRecord at h
  split at h
  · rename_i hown
    refine ⟨hown, ?_⟩
    split at h
    · rename_i hsuccess
      cases h
      refine ⟨rfl, rfl, ?_, fun _ => hsuccess⟩
      intro hc
      simp only [OutboxRecord.constraints, Bool.and_eq_true, decide_eq_true_eq] at hc
      simp [OutboxRecord.constraints, markOperationsDispatchSuccess, hc.1.1.1.1.1, hc.1.1.1.1.2]
    · cases h
      refine ⟨rfl, rfl, ?_, ?_⟩
      · intro hc
        simp only [OutboxRecord.constraints, Bool.and_eq_true, decide_eq_true_eq] at hc
        unfold OutboxRecord.constraints markOperationsDispatchFailure
        dsimp only
        cases exhausted r <;> cases result.retryable <;> simp [hc.1.1.1.1.1, hc.1.1.1.1.2]
      · intro hst
        unfold markOperationsDispatchFailure at hst
        dsimp only at hst
        cases hx : exhausted r <;> cases hr : result.retryable <;> simp [hx, hr] at hst
  · cases h

lemma writeCancelled_cases (now : Instant) (read stored : OutboxRecord) :
    writeCancelled now read stored = stored ∨
      ((writeCancelled now read stored).constraints = true ∧
        (writeCancelled now read stored).attemptCount = stored.attemptCount ∧
        ((writeCancelled now read stored).leaseOwner = none ∨
          (writeCancelled now read stored).leaseOwner = stored.leaseOwner) ∧
        ((writeCancelled now read stored).status = .cancelled ∨
          (writeCancelled now read stored).status = stored.status)) := by
  unfold writeCancelled
  dsimp only
  split
  · rename_i hc
    right
    refine ⟨hc, changed_of_eq rfl, ?_, ?_⟩
    · show changed read.leaseOwner none stored.leaseOwner = none ∨ _ = stored.leaseOwner
      by_cases h : none = read.leaseOwner
      · exact Or.inr (changed_of_eq h)
      · exact Or.inl (changed_of_ne h)
    · show changed read.status .cancelled stored.status = .cancelled ∨ _ = stored.status
      by_cases h : DispatchStatus.cancelled = read.status
      · exact Or.inr (changed_of_eq h)
      · exact Or.inl (changed_of_ne h)
  · exact Or.inl rfl

/-! ## everything a step can do to a row -/

inductive RowMove (s : World) (id : ℕ) :
    DispatchStep → Option OutboxRecord → Option OutboxRecord → Prop
  | same (i : DispatchStep) (before : Option OutboxRecord) : RowMove s id i before before
  | inserted {now : Instant} {q : EnqueueRequest} (key : String) (scope : Scope) :
    RowMove s id (.enqueue now q) none (some (newRecord now key scope q.maxAttempts))
  | swept {now : Instant} {w : String} {lease : ℤ} (r : OutboxRecord) :
    RowMove s id (.claim now w lease) (some r) (some (sweepRecord now r))
  | claimed {now : Instant} {w : String} {lease : ℤ} (r : OutboxRecord)
    (due : dispatchDue now (sweepRecord now r) = true)
    (hand : ((DispatchStep.claim now w lease).apply s).held =
      s.held.take w (.claimed (envelope id (claimRecord now w lease (sweepRecord now r))))) :
    RowMove s id (.claim now w lease) (some r)
      (some (claimRecord now w lease (sweepRecord now r)))
  | finalized {now : Instant} {w : String} (e : Envelope) (result : AdapterResult)
    (r new : OutboxRecord) (hand : s.held w = some (.answered e result)) (row : e.outboxId = id)
    (wrote : finalizeRecord now w result r = some new) :
    RowMove s id (.finalize now w) (some r) (some new)
  | cancelled {now : Instant} {op : ℕ} (read r : OutboxRecord)
    (hand : s.cancels op = some (id, read)) :
    RowMove s id (.writeCancel now op) (some r) (some (writeCancelled now read r))

lemma enqueue_rowMove (s : World) (now : Instant) (q : EnqueueRequest) (id : ℕ) :
    RowMove s id (.enqueue now q) (s.records.get? id)
      (((DispatchStep.enqueue now q).apply s).records.get? id) := by
  unfold DispatchStep.apply
  dsimp only
  cases henq : enqueueOperationsDispatch now q s.records with
  | error e => exact .same _ _
  | ok res =>
    obtain ⟨i, created, records⟩ := res
    dsimp only
    unfold enqueueOperationsDispatch at henq
    cases hkey : scopeText "dispatch_key" 80 q.dispatchKey with
    | error e =>
      rw [hkey] at henq
      cases henq
    | ok key =>
      rw [hkey] at henq
      cases hscope : validScope q.scope with
      | error e =>
        rw [hscope] at henq
        cases henq
      | ok scope =>
        rw [hscope] at henq
        dsimp only [bind, Except.bind] at henq
        split at henq
        · split at henq
          · cases henq
            exact .same _ _
          · cases henq
        · cases henq
          rw [Table.get?_insert]
          by_cases hid : id = s.records.next
          · rw [if_pos hid, s.records.get?_eq_none_of_le hid.ge]
            exact .inserted key scope
          · rw [if_neg hid]
            exact .same _ _

lemma claim_rowMove (s : World) (now : Instant) (w : String) (lease : ℤ) (id : ℕ) :
    RowMove s id (.claim now w lease) (s.records.get? id)
      (((DispatchStep.claim now w lease).apply s).records.get? id) := by
  have hswept : RowMove s id (.claim now w lease) (s.records.get? id)
      ((sweep now s.records).get? id) := by
    rw [get?_sweep]
    cases s.records.get? id with
    | none => exact .same _ _
    | some r => exact .swept r
  cases hheld : s.held w with
  | some work =>
    have hsame : (DispatchStep.claim now w lease).apply s = s := by
      simp [DispatchStep.apply, DispatchStep.applyClaim, hheld]
    rw [hsame]
    exact .same _ _
  | none =>
    rcases claim_cases now w lease s.records with h | ⟨i, r', hget, hdue, -, h⟩
    · have hrec : ((DispatchStep.claim now w lease).apply s).records = sweep now s.records := by
        simp [DispatchStep.apply, DispatchStep.applyClaim, hheld, h]
      rw [hrec]
      exact hswept
    · have hworld : (DispatchStep.claim now w lease).apply s =
          { s with
            records := (sweep now s.records).set i (claimRecord now w lease r')
            held := s.held.take w (.claimed (envelope i (claimRecord now w lease r'))) } := by
        simp [DispatchStep.apply, DispatchStep.applyClaim, hheld, h]
      by_cases hid : id = i
      · subst hid
        have hrec : ((DispatchStep.claim now w lease).apply s).records.get? id =
            some (claimRecord now w lease r') := by
          rw [hworld, Table.get?_set, if_pos rfl, hget]
          rfl
        rw [hrec]
        rw [get?_sweep] at hget
        obtain ⟨r, hr, rfl⟩ := Option.map_eq_some_iff.1 hget
        rw [hr]
        exact .claimed r hdue (by rw [hworld])
      · have hrec : ((DispatchStep.claim now w lease).apply s).records.get? id =
            (sweep now s.records).get? id := by
          rw [hworld, Table.get?_set, if_neg hid]
        rw [hrec]
        exact hswept

lemma finalize_rowMove (s : World) (now : Instant) (w : String) (id : ℕ) :
    RowMove s id (.finalize now w) (s.records.get? id)
      (((DispatchStep.finalize now w).apply s).records.get? id) := by
  show RowMove s id _ _ ((DispatchStep.applyFinalize now w s).records.get? id)
  unfold DispatchStep.applyFinalize
  cases hheld : s.held w with
  | none => exact .same _ _
  | some work =>
    cases work with
    | claimed e => exact .same _ _
    | answered e result =>
      dsimp only
      rw [Table.get?_modify]
      by_cases hid : id = e.outboxId
      · rw [if_pos hid]
        cases hget : s.records.get? id with
        | none => exact .same _ _
        | some r =>
          cases hfin : finalizeRecord now w result r with
          | none =>
            simp only [Option.map_some, hfin, Option.getD_none]
            exact .same _ _
          | some new =>
            simp only [Option.map_some, hfin, Option.getD_some]
            exact .finalized e result r new hheld hid.symm hfin
      · rw [if_neg hid]
        exact .same _ _

lemma writeCancel_rowMove (s : World) (now : Instant) (op id : ℕ) :
    RowMove s id (.writeCancel now op) (s.records.get? id)
      (((DispatchStep.writeCancel now op).apply s).records.get? id) := by
  show RowMove s id _ _ ((DispatchStep.applyWriteCancel now op s).records.get? id)
  unfold DispatchStep.applyWriteCancel
  cases hread : s.cancels op with
  | none => exact .same _ _
  | some found =>
    obtain ⟨i, read⟩ := found
    dsimp only
    rw [Table.get?_modify]
    by_cases hid : id = i
    · subst hid
      rw [if_pos rfl]
      cases s.records.get? id with
      | none => exact .same _ _
      | some r => exact .cancelled read r hread
    · rw [if_neg hid]
      exact .same _ _

lemma apply_rowMove (s : World) (i : DispatchStep) (id : ℕ) :
    RowMove s id i (s.records.get? id) ((i.apply s).records.get? id) := by
  cases i with
  | enqueue now q => exact enqueue_rowMove s now q id
  | claim now w lease => exact claim_rowMove s now w lease id
  | finalize now w => exact finalize_rowMove s now w id
  | writeCancel now op => exact writeCancel_rowMove s now op id
  | crash w => exact .same _ _
  | call w result =>
    have hrec : ((DispatchStep.call w result).apply s).records = s.records := by
      show (DispatchStep.applyCall w result s).records = _
      unfold DispatchStep.applyCall
      split <;> rfl
    rw [hrec]
    exact .same _ _
  | readCancel op id' =>
    have hrec : ((DispatchStep.readCancel op id').apply s).records = s.records := by
      show (DispatchStep.applyReadCancel op id' s).records = _
      unfold DispatchStep.applyReadCancel
      split
      · split <;> rfl
      · rfl
    rw [hrec]
    exact .same _ _

/-! ## attempts are tickets -/

def Envelope.ticket (e : Envelope) : ℕ × ℕ := (e.outboxId, e.attemptCount)

/-- the ticket of a claim whose adapter call is still to come. -/
def Work.ticket : Work → Option (ℕ × ℕ)
  | .claimed e => some e.ticket
  | .answered _ _ => none

def attempts (row : Option OutboxRecord) : ℕ := row.elim 0 OutboxRecord.attemptCount

def World.tickets (s : World) : Tickets ℕ String where
  issued id := attempts (s.records.get? id)
  held w := (s.held w).bind Work.ticket
  used := s.calls.map Envelope.ticket

lemma RowMove.attempts_eq {before after : Option OutboxRecord} (h : RowMove s id i before after)
    (hi : ∀ now w lease, i ≠ .claim now w lease) : attempts after = attempts before := by
  cases h with
  | same => rfl
  | inserted key scope => rfl
  | swept r => exact absurd rfl (hi _ _ _)
  | claimed r due hand => exact absurd rfl (hi _ _ _)
  | finalized e result r new hand row wrote => exact (finalizeRecord_cases wrote).2.1
  | cancelled read r hand =>
    rcases writeCancelled_cases _ read r with h | ⟨-, h, -⟩
    · show (writeCancelled _ read r).attemptCount = _
      rw [h]
      rfl
    · exact h

lemma tickets_held_take (s : World) (w : String) (work : Work) :
    (fun v => (s.held.take w work v).bind Work.ticket) =
      Function.update s.tickets.held w work.ticket := by
  funext v
  by_cases hv : v = w
  · subst hv
    simp [InHand.take]
  · simp [InHand.take, Function.update_of_ne hv, World.tickets]

lemma tickets_held_release (s : World) (w : String) :
    (fun v => (s.held.release w v).bind Work.ticket) = s.tickets.held.release w := by
  funext v
  by_cases hv : v = w
  · subst hv
    simp
  · simp [InHand.release_of_ne _ hv, World.tickets]

lemma issued_eq (hi : ∀ now w lease, i ≠ .claim now w lease) :
    (i.apply s).tickets.issued = s.tickets.issued := by
  funext id
  exact (apply_rowMove s i id).attempts_eq hi

lemma claim_tickets_ok (h : s.tickets.Ok) (now : Instant) (w : String) (lease : ℤ) :
    ((DispatchStep.claim now w lease).apply s).tickets.Ok := by
  cases hheld : s.held w with
  | some work =>
    have hsame : (DispatchStep.claim now w lease).apply s = s := by
      simp [DispatchStep.apply, DispatchStep.applyClaim, hheld]
    rw [hsame]
    exact h
  | none =>
    have hswept : ∀ id, attempts ((sweep now s.records).get? id) = s.tickets.issued id := by
      intro id
      rw [get?_sweep]
      show attempts ((s.records.get? id).map _) = attempts (s.records.get? id)
      cases s.records.get? id with
      | none => rfl
      | some r => exact (sweepRecord_attempts now r).1
    rcases claim_cases now w lease s.records with hc | ⟨id, r, hget, hdue, -, hc⟩
    · have hsame : ((DispatchStep.claim now w lease).apply s).tickets = s.tickets := by
        have hworld : (DispatchStep.claim now w lease).apply s =
            { s with records := sweep now s.records } := by
          simp [DispatchStep.apply, DispatchStep.applyClaim, hheld, hc]
        rw [hworld]
        exact Tickets.ext (funext hswept) rfl rfl
      rw [hsame]
      exact h
    · have hnumber : r.attemptCount = s.tickets.issued id := by
        rw [← hswept id, hget]
        rfl
      have hissue : ((DispatchStep.claim now w lease).apply s).tickets = s.tickets.issue w id := by
        have hworld : (DispatchStep.claim now w lease).apply s =
            { s with
              records := (sweep now s.records).set id (claimRecord now w lease r)
              held := s.held.take w (.claimed (envelope id (claimRecord now w lease r))) } := by
          simp [DispatchStep.apply, DispatchStep.applyClaim, hheld, hc]
        rw [hworld]
        apply Tickets.ext
        · funext j
          show attempts (((sweep now s.records).set id _).get? j) =
            Function.update s.tickets.issued id (s.tickets.issued id + 1) j
          rw [Table.get?_set]
          by_cases hj : j = id
          · subst hj
            rw [if_pos rfl, hget, Function.update_self, ← hnumber]
            rfl
          · rw [if_neg hj, Function.update_of_ne hj]
            exact hswept j
        · show (fun v => (s.held.take w _ v).bind Work.ticket) = _
          rw [tickets_held_take, Tickets.issue, ← hnumber]
          rfl
        · rfl
      rw [hissue]
      exact h.issue w id

lemma call_tickets_ok (h : s.tickets.Ok) (w : String) (result : AdapterResult) :
    ((DispatchStep.call w result).apply s).tickets.Ok := by
  show (DispatchStep.applyCall w result s).tickets.Ok
  unfold DispatchStep.applyCall
  cases hheld : s.held w with
  | none => exact h
  | some work =>
    cases work with
    | answered e r => exact h
    | claimed e =>
      have hmine : s.tickets.held w = some e.ticket := by
        simp [World.tickets, hheld, Work.ticket]
      have huse : World.tickets { s with
          held := s.held.take w (.answered e result), calls := e :: s.calls } =
          s.tickets.use w := by
        unfold Tickets.use
        rw [hmine]
        exact Tickets.ext rfl (tickets_held_take s w _) rfl
      dsimp only
      rw [huse]
      exact h.use w

lemma apply_tickets (h : s.tickets.Ok) (i : DispatchStep) :
    (i.apply s).tickets.Ok := by
  cases i with
  | claim now w lease => exact claim_tickets_ok h now w lease
  | call w result => exact call_tickets_ok h w result
  | crash w =>
    have hlose : ((DispatchStep.crash w).apply s).tickets = s.tickets.lose w :=
      Tickets.ext rfl (tickets_held_release s w) rfl
    rw [hlose]
    exact h.lose w
  | finalize now w =>
    have hsame : ((DispatchStep.finalize now w).apply s).tickets = s.tickets ∨
        ((DispatchStep.finalize now w).apply s).tickets = s.tickets.lose w := by
      have hissued := issued_eq (s := s) (i := .finalize now w) (by simp)
      change (DispatchStep.applyFinalize now w s).tickets.issued = _ at hissued
      show (DispatchStep.applyFinalize now w s).tickets = _ ∨
        (DispatchStep.applyFinalize now w s).tickets = _
      unfold DispatchStep.applyFinalize at hissued ⊢
      split
      · rename_i e result hheld
        rw [hheld] at hissued
        right
        exact Tickets.ext hissued (tickets_held_release s w) rfl
      · exact Or.inl rfl
    rcases hsame with heq | heq
    · rw [heq]
      exact h
    · rw [heq]
      exact h.lose w
  | enqueue now q =>
    have hsame : ((DispatchStep.enqueue now q).apply s).tickets = s.tickets := by
      refine Tickets.ext (issued_eq (by simp)) ?_ ?_
      · unfold DispatchStep.apply
        dsimp only
        split <;> rfl
      · unfold DispatchStep.apply
        dsimp only
        split <;> rfl
    rw [hsame]
    exact h
  | readCancel op id =>
    have hsame : ((DispatchStep.readCancel op id).apply s).tickets = s.tickets := by
      show (DispatchStep.applyReadCancel op id s).tickets = _
      unfold DispatchStep.applyReadCancel
      split
      · split <;> rfl
      · rfl
    rw [hsame]
    exact h
  | writeCancel now op =>
    have hsame : ((DispatchStep.writeCancel now op).apply s).tickets = s.tickets := by
      refine Tickets.ext (issued_eq (by simp)) ?_ ?_
      · show (DispatchStep.applyWriteCancel now op s).tickets.held = _
        unfold DispatchStep.applyWriteCancel
        split <;> rfl
      · show (DispatchStep.applyWriteCancel now op s).tickets.used = _
        unfold DispatchStep.applyWriteCancel
        split <;> rfl
    rw [hsame]
    exact h

/-! ## the invariant -/

structure World.Good (s : World) : Prop where
  constraints : ∀ id r, s.records.get? id = some r → r.constraints = true
  tickets : s.tickets.Ok
  lease : ∀ w work r, s.held w = some work → s.records.get? work.envelope.outboxId = some r →
    r.leaseOwner = some w → r.attemptCount = work.envelope.attemptCount
  called : ∀ w e result, s.held w = some (.answered e result) → e ∈ s.calls

lemma newRecord_constraints (now : Instant) (key : String) (scope : Scope) (n : ℤ) :
    (newRecord now key scope n).constraints = true := by
  simp [OutboxRecord.constraints, newRecord]

lemma apply_constraints (hs : s.Good) (i : DispatchStep) (id : ℕ) (r : OutboxRecord)
    (hr : (i.apply s).records.get? id = some r) : r.constraints = true := by
  have hmove := apply_rowMove s i id
  rw [hr] at hmove
  have hold := hs.constraints id
  generalize s.records.get? id = before at hmove hold
  cases hmove with
  | same => exact hold r rfl
  | inserted key scope => exact newRecord_constraints _ key scope _
  | swept r => exact sweepRecord_constraints (hold r rfl)
  | claimed r due hand => exact claimRecord_constraints (sweepRecord_constraints (hold r rfl)) due
  | finalized e result r new hand row wrote =>
    exact (finalizeRecord_cases wrote).2.2.2.1 (hold r rfl)
  | cancelled read r hand =>
    rcases writeCancelled_cases _ read r with h | ⟨h, -⟩
    · rw [h]
      exact hold r rfl
    · exact h

/-- what a worker has in hand after a step: what it had, the envelope of its claim, or the answer to
the call it has just made. -/
lemma apply_held {work : Work} (h : (i.apply s).held w = some work) :
    s.held w = some work ∨
      (∃ now lease id r, i = .claim now w lease ∧
        (i.apply s).records.get? id = some (claimRecord now w lease r) ∧
        work = .claimed (envelope id (claimRecord now w lease r))) ∨
      ∃ e result, i = .call w result ∧ s.held w = some (.claimed e) ∧
        work = .answered e result ∧ (i.apply s).calls = e :: s.calls := by
  cases i with
  | crash v => exact Or.inl (InHand.of_release h).2
  | enqueue now q =>
    left
    unfold DispatchStep.apply at h
    dsimp only at h
    split at h <;> exact h
  | readCancel op id =>
    left
    change (DispatchStep.applyReadCancel op id s).held w = _ at h
    unfold DispatchStep.applyReadCancel at h
    split at h
    · split at h <;> exact h
    · exact h
  | writeCancel now op =>
    left
    change (DispatchStep.applyWriteCancel now op s).held w = _ at h
    unfold DispatchStep.applyWriteCancel at h
    split at h <;> exact h
  | finalize now v =>
    left
    change (DispatchStep.applyFinalize now v s).held w = _ at h
    unfold DispatchStep.applyFinalize at h
    split at h
    · exact (InHand.of_release h).2
    · exact h
  | call v result =>
    change (DispatchStep.applyCall v result s).held w = _ at h
    show _ ∨ _ ∨ ∃ e result', _ ∧ _ ∧ _ ∧ (DispatchStep.applyCall v result s).calls = _
    unfold DispatchStep.applyCall at h ⊢
    split at h
    · rename_i e hheld
      rcases InHand.of_take h with ⟨rfl, rfl⟩ | ⟨-, hold⟩
      · right; right
        exact ⟨e, result, rfl, hheld, rfl, rfl⟩
      · exact Or.inl hold
    · exact Or.inl h
  | claim now v lease =>
    cases hheld : s.held v with
    | some work' =>
      have hsame : (DispatchStep.claim now v lease).apply s = s := by
        simp [DispatchStep.apply, DispatchStep.applyClaim, hheld]
      rw [hsame] at h
      exact Or.inl h
    | none =>
      rcases claim_cases now v lease s.records with hc | ⟨id, r, hget, -, -, hc⟩
      · have hsame : ((DispatchStep.claim now v lease).apply s).held = s.held := by
          simp [DispatchStep.apply, DispatchStep.applyClaim, hheld, hc]
        rw [hsame] at h
        exact Or.inl h
      · have hworld : (DispatchStep.claim now v lease).apply s =
            { s with
              records := (sweep now s.records).set id (claimRecord now v lease r)
              held := s.held.take v (.claimed (envelope id (claimRecord now v lease r))) } := by
          simp [DispatchStep.apply, DispatchStep.applyClaim, hheld, hc]
        rw [hworld] at h ⊢
        rcases InHand.of_take h with ⟨rfl, rfl⟩ | ⟨-, hold⟩
        · right; left
          refine ⟨now, lease, id, r, rfl, ?_, rfl⟩
          rw [Table.get?_set, if_pos rfl, hget]
          rfl
        · exact Or.inl hold

/-- a step that leaves the owner of a row in place leaves its attempt counter in place, unless the
owner has just claimed it. -/
lemma RowMove.lease_eq {before : Option OutboxRecord} (h : RowMove s id i before (some r))
    (hw : r.leaseOwner = some w) :
    (∃ r', before = some r' ∧ r'.leaseOwner = some w ∧ r'.attemptCount = r.attemptCount) ∨
      ∃ now lease, i = .claim now w lease := by
  cases h with
  | same => exact Or.inl ⟨r, rfl, hw, rfl⟩
  | inserted key scope => cases hw
  | swept r' =>
    left
    rcases sweepRecord_cases _ r' with hsame | ⟨-, -, -, hnone, -⟩
    · rw [hsame] at hw ⊢
      exact ⟨r', rfl, hw, rfl⟩
    · rw [hnone] at hw
      cases hw
  | claimed r' due hand =>
    right
    cases hw
    exact ⟨_, _, rfl⟩
  | finalized e result r' new hand row wrote =>
    rw [(finalizeRecord_cases wrote).2.2.1] at hw
    cases hw
  | cancelled read r' hand =>
    left
    rcases writeCancelled_cases _ read r' with hsame | ⟨-, hcount, hnone | hsame, -⟩
    · rw [hsame] at hw ⊢
      exact ⟨r', rfl, hw, rfl⟩
    · rw [hnone] at hw
      cases hw
    · rw [hsame] at hw
      exact ⟨r', rfl, hw, hcount.symm⟩

lemma apply_lease (hs : s.Good) (i : DispatchStep) (w : String) (work : Work)
    (r : OutboxRecord) (hw : (i.apply s).held w = some work)
    (hr : (i.apply s).records.get? work.envelope.outboxId = some r)
    (hown : r.leaseOwner = some w) : r.attemptCount = work.envelope.attemptCount := by
  rcases apply_held hw with hold | ⟨now, lease, id, r', rfl, hget, rfl⟩ |
    ⟨e, result, rfl, hclaimed, rfl, -⟩
  · have hmove := apply_rowMove s i work.envelope.outboxId
    rw [hr] at hmove
    rcases hmove.lease_eq hown with ⟨r', hr', hown', hcount⟩ | ⟨now, lease, rfl⟩
    · rw [← hcount]
      exact hs.lease w work r' hold hr' hown'
    · have hsame : (DispatchStep.claim now w lease).apply s = s := by
        simp [DispatchStep.apply, DispatchStep.applyClaim, hold]
      rw [hsame] at hr
      exact hs.lease w work r hold hr hown
  · change ((DispatchStep.claim now w lease).apply s).records.get? id = some r at hr
    rw [hget] at hr
    cases hr
    rfl
  · have hmove := apply_rowMove s (.call w result) e.outboxId
    change ((DispatchStep.call w result).apply s).records.get? e.outboxId = some r at hr
    rw [hr] at hmove
    rcases hmove.lease_eq hown with ⟨r', hr', hown', hcount⟩ | ⟨now, lease, hcontra⟩
    · rw [← hcount]
      exact hs.lease w (.claimed e) r' hclaimed hr' hown'
    · cases hcontra

lemma apply_calls (s : World) (i : DispatchStep) : ∀ e ∈ s.calls, e ∈ (i.apply s).calls := by
  intro e he
  cases i with
  | call w result =>
    show e ∈ (DispatchStep.applyCall w result s).calls
    unfold DispatchStep.applyCall
    split
    · exact List.mem_cons_of_mem _ he
    · exact he
  | enqueue now q =>
    unfold DispatchStep.apply
    dsimp only
    split <;> exact he
  | claim now w lease =>
    show e ∈ (DispatchStep.applyClaim now w lease s).calls
    unfold DispatchStep.applyClaim
    split
    · exact he
    · split <;> exact he
  | finalize now w =>
    show e ∈ (DispatchStep.applyFinalize now w s).calls
    unfold DispatchStep.applyFinalize
    split <;> exact he
  | crash w => exact he
  | readCancel op id =>
    show e ∈ (DispatchStep.applyReadCancel op id s).calls
    unfold DispatchStep.applyReadCancel
    split
    · split <;> exact he
    · exact he
  | writeCancel now op =>
    show e ∈ (DispatchStep.applyWriteCancel now op s).calls
    unfold DispatchStep.applyWriteCancel
    split <;> exact he

lemma World.Good.step (hs : s.Good) (i : DispatchStep) : (i.apply s).Good := by
  constructor
  · intro id r hr
    exact apply_constraints hs i id r hr
  · exact apply_tickets hs.tickets i
  · intro w work r hw hr hown
    exact apply_lease hs i w work r hw hr hown
  · intro w e result hw
    rcases apply_held hw with hold | ⟨now, lease, id, r', -, -, hcontra⟩ |
      ⟨e', result', -, -, hwork, hcalls⟩
    · exact apply_calls s i e (hs.called w e result hold)
    · cases hcontra
    · cases hwork
      rw [hcalls]
      exact List.mem_cons_self ..

lemma good_empty : World.empty.Good := by
  constructor
  · intro id r h
    cases h
  · exact Tickets.Ok.empty
  · intro w work r h
    cases h
  · intro w e result h
    cases h

lemma good_run (l : List DispatchStep) : (run DispatchStep.apply World.empty l).Good := by
  have h : Along DispatchStep.apply (fun _ _ => True) World.empty l := along_true _ l
  exact h.invariant (I := World.Good) (fun s i hs _ => hs.step i) good_empty

lemma World.Good.calls_le (hs : s.Good) (hr : s.records.get? id = some r) :
    (s.calls.filter fun e => e.outboxId = id).length ≤ r.maxAttempts := by
  have hused : (s.calls.filter fun e => e.outboxId = id).length =
      (s.tickets.used.filter fun x => x.1 = id).length := by
    show _ = ((s.calls.map Envelope.ticket).filter fun x => x.1 = id).length
    rw [List.filter_map, List.length_map]
    rfl
  have hissued : s.tickets.issued id = r.attemptCount := by
    show attempts (s.records.get? id) = _
    rw [hr]
    rfl
  have hmax : r.attemptCount ≤ r.maxAttempts := by
    have hc := hs.constraints id r hr
    simp only [OutboxRecord.constraints, Bool.and_eq_true, decide_eq_true_eq] at hc
    exact hc.1.1.1.1.2
  calc (s.calls.filter fun e => e.outboxId = id).length
      = (s.tickets.used.filter fun x => x.1 = id).length := hused
    _ ≤ s.tickets.issued id := hs.tickets.count_used id
    _ = r.attemptCount := hissued
    _ ≤ r.maxAttempts := hmax

/-- the step is the finalisation, by the owner of an unexpired lease, of the very attempt whose adapter
call it made and which succeeded. -/
def OwnSuccess (s : World) (i : DispatchStep) (id : ℕ) : Prop :=
  ∃ now w e result r expires, i = .finalize now w ∧ s.held w = some (.answered e result) ∧
    result.success = true ∧ e ∈ s.calls ∧ e.outboxId = id ∧ s.records.get? id = some r ∧
    r.status = .processing ∧ r.leaseOwner = some w ∧ r.attemptCount = e.attemptCount ∧
    r.leaseExpiresAt = some expires ∧ now < expires

lemma apply_dispatched (hs : s.Good)
    (hr : (i.apply s).records.get? id = some r) (hdone : r.status = .dispatched) :
    (∃ r', s.records.get? id = some r' ∧ r'.status = .dispatched) ∨ OwnSuccess s i id := by
  have hmove := apply_rowMove s i id
  rw [hr] at hmove
  generalize hbefore : s.records.get? id = before at hmove
  cases hmove with
  | same => exact Or.inl ⟨r, rfl, hdone⟩
  | inserted key scope => cases hdone
  | swept r' =>
    rcases sweepRecord_cases _ r' with hsame | ⟨-, -, -, -, -, -, hst | ⟨hst, -⟩⟩
    · rw [hsame] at hdone
      exact Or.inl ⟨r', rfl, hdone⟩
    · rw [hst] at hdone
      cases hdone
    · rw [hst] at hdone
      cases hdone
  | claimed r' due hand => cases hdone
  | finalized e result r' new hand row wrote =>
    right
    obtain ⟨hown, -, -, -, hsuccess⟩ := finalizeRecord_cases wrote
    simp only [ownedProcessing, Bool.and_eq_true, beq_iff_eq] at hown
    obtain ⟨⟨hproc, howner⟩, hlease⟩ := hown
    obtain ⟨expires, hexp, hlt⟩ := (Option.any_eq_true _ _).1 hlease
    subst row
    exact ⟨_, _, e, result, r', expires, rfl, hand, hsuccess hdone, hs.called _ e result hand, rfl,
      hbefore, hproc, howner, hs.lease _ _ r' hand hbefore howner, hexp, of_decide_eq_true hlt⟩
  | cancelled read r' hand =>
    rcases writeCancelled_cases _ read r' with hsame | ⟨-, -, -, hst | hst⟩
    · rw [hsame] at hdone
      exact Or.inl ⟨r', rfl, hdone⟩
    · rw [hst] at hdone
      cases hdone
    · rw [hst] at hdone
      exact Or.inl ⟨r', rfl, hdone⟩

/-! ## terminal rows -/

/-- the condition on a step: a cancellation is not written to a row that was dispatched or
dead-lettered since it was read. -/
def DispatchStep.Safe (s : World) : DispatchStep → Prop
  | .writeCancel _ op =>
    ∀ read ∈ s.cancels op, ∀ r ∈ s.records.get? read.1, r.status.terminal = false
  | _ => True

instance (s : World) : ∀ i : DispatchStep, Decidable (i.Safe s)
  | .writeCancel _ _ => inferInstanceAs (Decidable (∀ read ∈ _, ∀ r ∈ _, _ = _))
  | .enqueue _ _ | .claim _ _ _ | .call _ _ | .finalize _ _ | .crash _ | .readCancel _ _ =>
    inferInstanceAs (Decidable True)

/-- dispatched and dead-lettered rows keep their status. -/
def KeepsTerminal (s s' : World) : Prop :=
  ∀ id r, s.records.get? id = some r → r.status.terminal = true →
    ∃ r', s'.records.get? id = some r' ∧ r'.status = r.status

lemma apply_keepsTerminal (hi : i.Safe s) :
    KeepsTerminal s (i.apply s) := by
  intro id r hr hterm
  have hmove := apply_rowMove s i id
  generalize hafter : (i.apply s).records.get? id = after at hmove
  generalize hbefore : s.records.get? id = before at hmove
  rw [hr] at hbefore
  cases hmove with
  | same => exact ⟨r, hbefore.symm, rfl⟩
  | inserted key scope => cases hbefore
  | swept r' =>
    cases hbefore
    exact ⟨_, rfl, by rw [sweepRecord_terminal hterm]⟩
  | claimed r' due hand =>
    cases hbefore
    rw [sweepRecord_terminal hterm] at due
    rw [due_not_terminal due] at hterm
    cases hterm
  | finalized e result r' new hand row wrote =>
    cases hbefore
    have hown := (finalizeRecord_cases wrote).1
    simp only [ownedProcessing, Bool.and_eq_true, beq_iff_eq] at hown
    rw [hown.1.1] at hterm
    cases hterm
  | cancelled read r' hand =>
    cases hbefore
    rw [hi (id, read) hand r hr] at hterm
    cases hterm

/-- a claim at `now` dead-letters or takes the row, or takes a due row that is older. -/
def ServedBy (s : World) (now : Instant) (w : String) (lease : ℤ) (id : ℕ) (r : OutboxRecord) :
    Prop :=
  (∃ r', (claimNextOperationsDispatch now w lease s.records).2.get? id = some r' ∧
      r'.status = .deadLetter) ∨
    ∃ first r', (claimNextOperationsDispatch now w lease s.records).1 = some (first, r') ∧
      (first = id ∨ oldestFirst (first, r') (id, r))

lemma waiting_swept (hc : r.constraints = true)
    (hwait : r.status = .pending ∨ r.status = .retryable ∨ r.status = .processing) :
    ∃ late : Instant, ∀ now, late ≤ now →
      (sweepRecord now r).status = .deadLetter ∨ dispatchDue now (sweepRecord now r) = true := by
  simp only [OutboxRecord.constraints, Bool.and_eq_true, decide_eq_true_eq, Bool.or_eq_true,
    bne_iff_ne, ne_eq] at hc
  obtain ⟨⟨⟨⟨⟨-, hmax⟩, hlease⟩, hretry⟩, -⟩, -⟩ := hc
  have hsettle : ∀ now : Instant, leaseExpired now r = false →
      (r.status = .pending ∨ (r.status = .retryable ∧ r.nextRetryAt.any (· ≤ now) = true)) →
      (sweepRecord now r).status = .deadLetter ∨ dispatchDue now (sweepRecord now r) = true := by
    intro now hnot hdue
    unfold sweepRecord recoverLease
    rw [if_neg (by rw [hnot]; simp)]
    unfold deadLetterExhausted
    split
    · exact Or.inl rfl
    · rename_i hex
      right
      have hlt : r.attemptCount < r.maxAttempts := by
        simp only [Bool.and_eq_true, Bool.or_eq_true, beq_iff_eq, exhausted,
          decide_eq_true_eq] at hex
        by_contra hge
        exact hex ⟨by tauto, by omega⟩
      simp only [dispatchDue, Bool.and_eq_true, Bool.or_eq_true, beq_iff_eq, decide_eq_true_eq]
      exact ⟨hdue, hlt⟩
  rcases hwait with h | h | h
  · refine ⟨0, fun now _ => hsettle now ?_ (Or.inl h)⟩
    simp [leaseExpired, h]
  · obtain ⟨next, hnext⟩ : ∃ next, r.nextRetryAt = some next := by
      rw [← Option.isSome_iff_exists]
      tauto
    refine ⟨next, fun now hnow => hsettle now ?_ (Or.inr ⟨h, ?_⟩)⟩
    · simp [leaseExpired, h]
    · simp [hnext, hnow]
  · rw [if_pos h, Bool.and_eq_true] at hlease
    obtain ⟨expires, hexp⟩ := Option.isSome_iff_exists.1 hlease.2
    refine ⟨expires, fun now hnow => ?_⟩
    have hexpired : leaseExpired now r = true := by simp [leaseExpired, h, hexp, hnow]
    rcases sweepRecord_cases now r with hsame | ⟨-, ha, hm, -, -, -, hst | ⟨hst, hnext, hlt⟩⟩
    · unfold sweepRecord recoverLease at hsame ⊢
      rw [if_pos hexpired] at hsame ⊢
      by_cases hex : exhausted r = true
      · left
        rw [if_pos hex]
        simp [deadLetterExhausted, deadLetter]
      · rw [if_neg hex] at hsame
        have hbad := congrArg OutboxRecord.status hsame
        rw [h] at hbad
        unfold deadLetterExhausted at hbad
        split at hbad <;> cases hbad
    · exact Or.inl hst
    · right
      simp only [dispatchDue, Bool.and_eq_true, Bool.or_eq_true, beq_iff_eq, decide_eq_true_eq]
      refine ⟨Or.inr ⟨hst, ?_⟩, ?_⟩
      · simp [hnext]
      · rw [ha, hm]
        exact hlt

lemma late_claim (hs : s.Good) (hr : s.records.get? id = some r)
    (hwait : r.status = .pending ∨ r.status = .retryable ∨ r.status = .processing) :
    ∃ late : Instant, ∀ now, late ≤ now → ∀ w lease, ServedBy s now w lease id r := by
  obtain ⟨late, hlate⟩ := waiting_swept (hs.constraints id r hr) hwait
  refine ⟨late, ?_⟩
  intro now hnow w lease
  have hswept : (sweep now s.records).get? id = some (sweepRecord now r) := by
    rw [get?_sweep, hr]
    rfl
  rcases hlate now hnow with hdead | hdue
  · left
    rcases claim_cases now w lease s.records with hc | ⟨first, r', hget, hdue', -, hc⟩
    · rw [hc]
      exact ⟨_, hswept, hdead⟩
    · rw [hc]
      refine ⟨sweepRecord now r, ?_, hdead⟩
      have hne : id ≠ first := by
        intro heq
        subst heq
        rw [hswept] at hget
        cases hget
        have hlive := due_not_terminal hdue'
        rw [hdead] at hlive
        cases hlive
      rw [Table.get?_set, if_neg hne]
      exact hswept
  · right
    have hmem : (id, sweepRecord now r) ∈
        (sweep now s.records).ordered oldestFirst fun _ r => dispatchDue now r :=
      Table.mem_ordered.2 ⟨hswept, hdue⟩
    have hsorted : ((sweep now s.records).ordered oldestFirst
        fun _ r => dispatchDue now r).Pairwise oldestFirst := List.pairwise_insertionSort _ _
    unfold claimNextOperationsDispatch claimCandidate
    generalize (sweep now s.records).ordered oldestFirst
      (fun _ r => dispatchDue now r) = due at hmem hsorted
    cases due with
    | nil => cases hmem
    | cons first rest =>
      obtain ⟨i, r'⟩ := first
      refine ⟨i, claimRecord now w lease r', rfl, ?_⟩
      rcases List.mem_cons.1 hmem with heq | hrest
      · left
        exact (Prod.mk.inj heq).1.symm
      · right
        have hold : oldestFirst (i, r') (id, sweepRecord now r) :=
          (List.pairwise_cons.1 hsorted).1 _ hrest
        unfold oldestFirst Table.earlier at hold ⊢
        simp only [sweepRecord_createdAt] at hold
        exact hold

/-! ## whole runs -/

theorem outbox_safe (l : List DispatchStep)
    (h : Along DispatchStep.apply DispatchStep.Safe World.empty l) :
    (∀ id r, (run DispatchStep.apply World.empty l).records.get? id = some r →
      ((run DispatchStep.apply World.empty l).calls.filter fun e => e.outboxId = id).length ≤
        r.maxAttempts) ∧
      (∀ l₁ i l₂, l = l₁ ++ i :: l₂ → ∀ id r,
        (i.apply (run DispatchStep.apply World.empty l₁)).records.get? id = some r →
        r.status = .dispatched →
        (∃ r', (run DispatchStep.apply World.empty l₁).records.get? id = some r' ∧
            r'.status = .dispatched) ∨
          OwnSuccess (run DispatchStep.apply World.empty l₁) i id) ∧
      (∀ l₁ l₂, l = l₁ ++ l₂ →
        KeepsTerminal (run DispatchStep.apply World.empty l₁)
          (run DispatchStep.apply World.empty l)) ∧
      ∀ id r, (run DispatchStep.apply World.empty l).records.get? id = some r →
        r.status = .pending ∨ r.status = .retryable ∨ r.status = .processing →
        ∃ late : Instant, ∀ now, late ≤ now → ∀ w lease,
          ServedBy (run DispatchStep.apply World.empty l) now w lease id r := by
  refine ⟨?_, ?_, ?_, ?_⟩
  · intro id r hr
    exact (good_run l).calls_le hr
  · intro l₁ i l₂ _ id r hr hdone
    exact apply_dispatched (good_run l₁) hr hdone
  · rintro l₁ l₂ rfl
    rw [run_append]
    have hrest := ((along_append _ l₁ l₂).1 h).2
    refine hrest.relation (I := fun _ => True) ?_ ?_ (fun _ _ _ _ => trivial)
      (fun s i _ hi => apply_keepsTerminal hi) trivial
    · intro s id r hr _
      exact ⟨r, hr, rfl⟩
    · intro s t u hst htu id r hr hterm
      obtain ⟨r', hr', hstatus⟩ := hst id r hr hterm
      obtain ⟨r'', hr'', hstatus'⟩ := htu id r' hr' (by rw [hstatus]; exact hterm)
      exact ⟨r'', hr'', hstatus'.trans hstatus⟩
  · intro id r hr hwait
    exact late_claim (good_run l) hr hwait

def sampleEnqueue : EnqueueRequest where
  dispatchKey := "ops-dispatch:1"
  scope :=
    { tenantKey := "default"
      countryCode := "ch"
      channelKey := "whatsapp"
      routingRuleId := 1
      destinationGroupKey := "ops"
      destinationGroupHash :=
        "sha256:0000000000000000000000000000000000000000000000000000000000000000"
      ticketId := none }
  maxAttempts := 5

def deliveredRun : List DispatchStep :=
  [.enqueue 0 sampleEnqueue, .claim (seconds 1) "a" 120, .call "a" ⟨true, false, none⟩,
    .finalize (seconds 2) "a"]

theorem outbox_safe_delivered :
    KeepsTerminal (run DispatchStep.apply World.empty deliveredRun)
      (run DispatchStep.apply World.empty
        (deliveredRun ++ [.readCancel 0 1, .writeCancel (seconds 3) 0])) :=
  (outbox_safe _ (by decide +kernel)).2.2.1 deliveredRun _ rfl

/-- the operator reads the row while the adapter is being called. -/
def cancelledMeanwhile : List DispatchStep :=
  [.enqueue 0 sampleEnqueue, .claim (seconds 1) "a" 120, .call "a" ⟨true, false, none⟩,
    .readCancel 0 1, .finalize (seconds 2) "a"]

/-- the cancellation written after the finalisation turns the dispatched row into a cancelled
one. -/
theorem cancelledMeanwhile_overwrites :
    ¬ KeepsTerminal (run DispatchStep.apply World.empty cancelledMeanwhile)
      (run DispatchStep.apply World.empty
        (cancelledMeanwhile ++ [.writeCancel (seconds 3) 0])) := by
  intro hkeeps
  have hbefore : ((run DispatchStep.apply World.empty cancelledMeanwhile).records.get? 1).map
      (·.status) = some .dispatched := by decide +kernel
  obtain ⟨r, hr, hstatus⟩ := Option.map_eq_some_iff.1 hbefore
  obtain ⟨r', hr', hsame⟩ := hkeeps 1 r hr (by rw [hstatus]; rfl)
  have hafter : ((run DispatchStep.apply World.empty
      (cancelledMeanwhile ++ [.writeCancel (seconds 3) 0])).records.get? 1).map (·.status) =
        some .cancelled := by decide +kernel
  rw [hr', Option.map_some, hsame, hstatus] at hafter
  cases hafter

end NexusHelpdesk.Operations
