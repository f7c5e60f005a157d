import NexusHelpdesk.Osr.OneTicket

/-!
# The contexts behind a session

* `saveRows`, `closeRows`, `transitionRows`: the contexts after `save_case_context`,
  `close_case_context` and a ticket's transition;
* `Sees`: a session that has sent all changes of contexts;
* `saveCaseContext_sees`, `createOrReuseTicket_sees`: **the services leave these contexts, or raise**.
-/

namespace NexusHelpdesk.Osr

open Lib
open Txn (Yields)

/-! ## contexts -/

section Rows
variable (now : Instant) (tenantId : Text)

def saveRows (c : CaseContext) (rows : Table CaseContextRecord) : Table CaseContextRecord :=
  let rows := deactivate rows now tenantId c.conversationId c.ticketId
  match activeExactRow rows now tenantId c.conversationId c.ticketId with
  | some (id, _) => rows.modify id (.applyValues c c.incomingActive none)
  | none => rows.insert ⟨c, tenantId, c.incomingActive, none⟩

def closeRows (conversationId ticketId : Option ℤ) (rows : Table CaseContextRecord) :
    Table CaseContextRecord :=
  match activeExactRow rows now tenantId conversationId ticketId with
  | some (id, _) => rows.modify id fun r =>
      { r with status := .closed, closedAt := some now, isActive := false }
  | none => rows

def CaseContext.onTicket (c : CaseContext) (conversationId ticketId : ℕ) : CaseContext :=
  ({ c with conversationId := some (conversationId : ℤ) } : CaseContext).markTicketCreated ticketId

def CaseContext.moves (c : CaseContext) (conversationId ticketId : ℕ) : Bool :=
  (c.conversationId, c.ticketId) ≠ (some (conversationId : ℤ), some (ticketId : ℤ)) &&
    (c.conversationId.isSome || c.ticketId.isSome)

def transitionRows (c : CaseContext) (conversationId ticketId : ℕ)
    (rows : Table CaseContextRecord) : Table CaseContextRecord :=
  saveRows now tenantId (c.onTicket conversationId ticketId)
    (if c.moves conversationId ticketId = true then closeRows now tenantId c.conversationId c.ticketId rows
    else rows)

end Rows

section Sees
variable {rows : Table CaseContextRecord} {key : Option Text} {now : Instant} {tenant : Text}
  {c : CaseContext} {α : Type}

structure Sees (rows : Table CaseContextRecord) (key : Option Text) (s : Session) : Prop where
  active : s.active = true
  synced : s.dirty = false → s.flushed = s.pending
  flushed : s.flushed.contexts = rows ∧ s.flushed.conversation.tenantKey = key
  pending : s.pending.contexts = rows ∧ s.pending.conversation.tenantKey = key

/-- what a savepoint leaves that has raised. -/
def SeesAfter (rows : Table CaseContextRecord) (key : Option Text) (s : Session) : Prop :=
  s.active = true → Sees rows key s

lemma SeesAfter.of_inactive {s : Session} (h : s.active = false) : SeesAfter rows key s := by
  intro hactive
  rw [h] at hactive
  cases hactive

variable {E : Session → Prop} {f : Store → α} {tenantId : Text}

lemma assign_sees {f : Store → Store} (hcontexts : ∀ d, (f d).contexts = d.contexts)
    (hkey : ∀ d, (f d).conversation.tenantKey = d.conversation.tenantKey) :
    Yields (Sees rows key) (assign f) (fun _ => Sees rows key) E :=
  Yields.write fun s hs => ⟨hs.active, nofun, hs.flushed, (hcontexts _).trans hs.pending.1,
    (hkey _).trans hs.pending.2⟩

lemma flush_sees : Yields (Sees rows key) flush (fun _ => Sees rows key)
    fun s => s.active = false := by
  rintro s hs
  unfold flush
  by_cases hdirty : s.dirty = false
  · rw [if_pos hdirty]
    exact hs
  · rw [if_neg hdirty, if_neg (by rw [hs.active]; nofun)]
    cases s.answers with
    | nil => exact ⟨hs.active, fun _ => rfl, hs.pending, hs.pending⟩
    | cons answer rest =>
      cases answer with
      | none => exact ⟨hs.active, fun _ => rfl, hs.pending, hs.pending⟩
      | some e => rfl

lemma query_sees :
    Yields (Sees rows key) (query f)
      (fun a s => Sees rows key s ∧ ∃ d : Store, d.contexts = rows ∧ a = f d)
      fun s => s.active = false :=
  Yields.bind requireActive_yields fun _ =>
    Yields.read fun s hs => ⟨hs.1, s.flushed, hs.1.flushed.1, rfl⟩

lemma loaded_sees :
    Yields (Sees rows key) (loaded f) (fun _ => Sees rows key) E :=
  Yields.read fun _ hs => hs

lemma contexts_sees (f : Table CaseContextRecord → Table CaseContextRecord) :
    Yields (Sees rows key) (do assign (Store.setContexts f); flush)
      (fun _ => Sees (f rows) key) fun s => s.active = false := by
  intro s hs
  rw [Txn.run_bind_ok s (m := assign (Store.setContexts f)) rfl]
  unfold flush
  rw [if_neg (by nofun), if_neg (by rw [hs.active]; nofun)]
  have hpending : (Store.setContexts f s.pending).contexts = f rows ∧
      (Store.setContexts f s.pending).conversation.tenantKey = key :=
    ⟨congrArg f hs.pending.1, hs.pending.2⟩
  dsimp only
  cases s.answers with
  | nil => exact ⟨hs.active, fun _ => rfl, hpending, hpending⟩
  | cons answer rest =>
    cases answer with
    | none => exact ⟨hs.active, fun _ => rfl, hpending, hpending⟩
    | some e => rfl

lemma savepoint_sees {m : Work α} {rows' : α → Table CaseContextRecord} {R : α → Prop}
    (hm : Yields (Sees rows key) m (fun a s => Sees (rows' a) key s ∧ R a) fun _ => True) :
    Yields (Sees rows key) (savepoint m) (fun a s => Sees (rows' a) key s ∧ R a)
      (SeesAfter rows key) := by
  unfold savepoint
  refine Yields.bind ((requireActive_yields (I := Sees rows key)).conseq (fun _ h => h)
    (fun _ _ h => h.1) fun _ => SeesAfter.of_inactive) fun _ => ?_
  refine Yields.bind (flush_sees.error fun _ => SeesAfter.of_inactive) fun _ => ?_
  intro s hs
  have hquery : (query id : Work Store) s = (.ok s.flushed, s) := by
    unfold query
    rw [Txn.run_bind, requireActive_run, if_pos hs.active]
    rfl
  rw [Txn.run_bind_ok _ hquery]
  have hbody : Yields (Sees rows key) (do
      let a ← m
      requireActive
      flush
      pure a) (fun a s => Sees (rows' a) key s ∧ R a) fun _ => True := by
    refine Yields.bind hm fun a => Yields.assume fun ha => ?_
    refine Yields.bind ((requireActive_yields (I := Sees (rows' a) key)).conseq
      (fun _ h => h) (fun _ _ h => h.1) fun _ _ => trivial) fun _ => ?_
    refine Yields.bind (flush_sees.error fun _ _ => trivial) fun _ => ?_
    exact Yields.pure fun _ h => ⟨h, ha⟩
  refine Yields.attempt_bind hbody ?_ ?_ s hs
  · intro a
    exact Yields.pure fun _ h => h
  · intro e
    refine Yields.bind (R := fun _ => SeesAfter rows key) ?_ fun _ =>
      Yields.raise fun _ h => h
    exact Yields.write fun t _ _ => ⟨rfl, fun _ => rfl, hs.flushed, hs.flushed⟩

lemma expireAll_sees :
    Yields (SeesAfter rows key) expireAll (fun _ => SeesAfter rows key) E := by
  refine Yields.write ?_
  intro s hs hactive
  have hthis := hs hactive
  exact ⟨hactive, fun _ => rfl, hthis.flushed, hthis.flushed⟩

lemma query_seesAfter :
    Yields (SeesAfter rows key) (query f)
      (fun a s => Sees rows key s ∧ ∃ d : Store, d.contexts = rows ∧ a = f d)
      fun s => s.active = false := by
  refine Yields.bind requireActive_yields fun _ => Yields.read ?_
  rintro s ⟨hs, hactive⟩
  exact ⟨hs hactive, s.flushed, (hs hactive).flushed.1, rfl⟩

/-! ## saving -/

lemma deactivate_of_not {conversationId ticketId : Option ℤ}
    (h : deactivates rows now tenantId conversationId ticketId = false) :
    deactivate rows now tenantId conversationId ticketId = rows := by
  have hcount : rows.count (fun _ r => r.isFor tenantId conversationId ticketId && r.isActive &&
      !r.readable now) = 0 := by simpa [deactivates] using h
  refine Table.ext_get? rfl fun i => ?_
  unfold deactivate
  rw [Table.get?_mapRows]
  cases hrow : rows.get? i with
  | none => rfl
  | some r =>
    refine congrArg some (if_neg fun hr => ?_)
    have hmem : (i, r) ∈ rows.select fun _ r => r.isFor tenantId conversationId ticketId &&
        r.isActive && !r.readable now := rows.mem_select.2 ⟨hrow, hr⟩
    unfold Table.count at hcount
    rw [List.length_eq_zero_iff.1 hcount] at hmem
    cases hmem

lemma rowForSave_sees (hc : c.conversationId ≠ none) :
    Yields (Sees rows key) (rowForSave now tenantId c)
      (fun row s => Sees (deactivate rows now tenantId c.conversationId c.ticketId) key s ∧
        row = (activeExactRow (deactivate rows now tenantId c.conversationId c.ticketId) now tenantId
          c.conversationId c.ticketId).map Prod.fst) fun _ => True := by
  unfold rowForSave
  rw [if_neg fun h => hc h.1]
  have hstale : Yields (Sees rows key)
      (query fun d => deactivates d.contexts now tenantId c.conversationId c.ticketId)
      (fun stale s => Sees rows key s ∧
        stale = deactivates rows now tenantId c.conversationId c.ticketId) fun _ => True := by
    refine query_sees.conseq (fun _ h => h) ?_ fun _ _ => trivial
    rintro stale s ⟨hs, d, rfl, rfl⟩
    exact ⟨hs, rfl⟩
  refine Yields.bind hstale fun stale => ?_
  refine Yields.bind (R := fun _ =>
    Sees (deactivate rows now tenantId c.conversationId c.ticketId) key) ?_ fun _ => ?_
  · refine Yields.when (fun _ => ?_) fun hfalse s hs => ?_
    · exact (contexts_sees _).conseq (fun _ h => h.1) (fun _ _ h => h) fun _ _ => trivial
    · rw [deactivate_of_not (hs.2.symm.trans hfalse)]
      exact hs.1
  · refine query_sees.conseq (fun _ h => h) ?_ fun _ _ => trivial
    rintro row s ⟨hs, d, hd, rfl⟩
    rw [hd]
    exact ⟨hs, rfl⟩

lemma saveOverWinner_sees (e : OsrError)
    (hnone : activeExactRow rows now tenantId c.conversationId c.ticketId = none)
    {Q : Unit → Session → Prop} :
    Yields (SeesAfter rows key) (saveOverWinner now tenantId c e) Q fun _ => True := by
  unfold saveOverWinner
  refine Yields.bind expireAll_sees fun _ => ?_
  refine Yields.bind (query_seesAfter.error fun _ _ => trivial) fun winner => ?_
  rintro s ⟨hs, d, rfl, rfl⟩
  rw [hnone]
  trivial

lemma saveCaseContext_sees (hc : c.conversationId ≠ none) :
    Yields (Sees rows key) (saveCaseContext now c tenant)
      (fun _ => Sees (saveRows now (normalizeTenant tenant) c rows) key) fun _ => True := by
  unfold saveCaseContext saveRows
  dsimp only
  refine Yields.bind (rowForSave_sees hc) fun row => ?_
  rintro s ⟨hs, rfl⟩
  cases hfound : activeExactRow (deactivate rows now (normalizeTenant tenant) c.conversationId
      c.ticketId) now (normalizeTenant tenant) c.conversationId c.ticketId with
  | some found => exact ((contexts_sees _).error fun _ _ => trivial) s hs
  | none =>
    refine Yields.ite (P := Sees (deactivate rows now (normalizeTenant tenant) c.conversationId
      c.ticketId) key) (fun _ => (contexts_sees _).error fun _ _ => trivial) (fun _ => ?_) s hs
    have hinsert : Yields (Sees (deactivate rows now (normalizeTenant tenant) c.conversationId
        c.ticketId) key) (savepoint do
          assign (Store.setContexts fun rows =>
            rows.insert ⟨c, normalizeTenant tenant, c.incomingActive, none⟩)
          flush) (fun _ s => Sees ((deactivate rows now (normalizeTenant tenant) c.conversationId
            c.ticketId).insert ⟨c, normalizeTenant tenant, c.incomingActive, none⟩) key s ∧ True)
        (SeesAfter (deactivate rows now (normalizeTenant tenant) c.conversationId c.ticketId) key) :=
      savepoint_sees (R := fun _ => True)
        (((contexts_sees _).post fun _ _ h => ⟨h, trivial⟩).error fun _ _ => trivial)
    refine Yields.attempt_bind hinsert ?_ ?_
    · intro _
      exact Yields.pure fun _ h => h.1
    · intro e
      cases e with
      | integrity ticketNo => exact saveOverWinner_sees _ hfound
      | _ => exact Yields.raise fun _ _ => trivial

lemma closeCaseContext_sees (conversationId ticketId : Option ℤ) :
    Yields (Sees rows key) (closeCaseContext now conversationId ticketId tenant)
      (fun _ => Sees (closeRows now (normalizeTenant tenant) conversationId ticketId rows) key)
      fun _ => True := by
  unfold closeCaseContext closeRows
  refine Yields.bind (query_sees.error fun _ _ => trivial) fun row => ?_
  rintro s ⟨hs, d, rfl, rfl⟩
  cases hfound : activeExactRow d.contexts now (normalizeTenant tenant) conversationId ticketId with
  | some found => exact ((contexts_sees _).error fun _ _ => trivial) s hs
  | none => exact hs

/-! ## tickets -/

lemma optionalIdentity_eq_ok {value : Option ℤ} {field : String} {id : Option ℕ}
    (h : optionalIdentity value field = .ok id) : value = id.map Int.ofNat := by
  cases value with
  | none =>
    cases h
    rfl
  | some n =>
    unfold optionalIdentity at h
    dsimp only at h
    split_ifs at h with hn
    cases h
    exact congrArg some (Int.toNat_of_nonneg (le_of_lt (not_le.1 hn))).symm

variable {env : TicketEnv} {conversationId : ℕ} {a : AutoTicketCall}

structure TicketContext (a : AutoTicketCall) (conversationId : ℕ) (target : CaseContext)
    (ticketId : ℕ) : Prop where
  target : target = a.caseContext.onTicket conversationId ticketId
  conversation : ∀ n, a.caseContext.conversationId = some n → n = conversationId
  ticket : ∀ n, a.caseContext.ticketId = some n → n = ticketId

lemma checked_sees {β : Type} {f : Except OsrError β} :
    Yields (Sees rows key) (Txn.check fun _ => f) (fun b s => Sees rows key s ∧ f = .ok b)
      fun _ => True :=
  Yields.check (fun _ _ hs hb => ⟨hs, hb⟩) fun _ _ => trivial

lemma persist_sees (ticketId : ℕ) :
    Yields (Sees rows key)
      (persistTicketContextTransition env conversationId a ticketId tenant)
      (fun target s => Sees (transitionRows env.now (normalizeTenant tenant) a.caseContext
          conversationId ticketId rows) key s ∧ TicketContext a conversationId target ticketId)
      fun _ => True := by
  unfold persistTicketContextTransition
  refine Yields.bind checked_sees fun originalConversation => Yields.assume fun hc => ?_
  refine Yields.bind checked_sees fun originalTicket => Yields.assume fun ht => ?_
  have hconversation := optionalIdentity_eq_ok hc
  have hticket := optionalIdentity_eq_ok ht
  refine Yields.ite (fun _ => Yields.raise fun _ _ => trivial) fun hsame => ?_
  refine Yields.ite (fun _ => Yields.raise fun _ _ => trivial) fun hsame' => ?_
  have hcontext : TicketContext a conversationId
      (a.caseContext.onTicket conversationId ticketId) ticketId := by
    refine ⟨rfl, fun n hn => ?_, fun n hn => ?_⟩
    · rw [hconversation] at hn
      cases originalConversation with
      | none => cases hn
      | some m =>
        cases hn
        simpa using hsame
    · rw [hticket] at hn
      cases originalTicket with
      | none => cases hn
      | some m =>
        cases hn
        simpa using hsame'
  have hmoves : (((originalConversation, originalTicket) ≠ (some conversationId, some ticketId)) &&
      (originalConversation.isSome || originalTicket.isSome)) =
        a.caseContext.moves conversationId ticketId := by
    unfold CaseContext.moves
    rw [hconversation, hticket]
    cases originalConversation with
    | none => cases originalTicket <;> simp
    | some m => cases originalTicket <;> simp
  refine Yields.bind (R := fun _ => Sees (if a.caseContext.moves conversationId ticketId = true
    then closeRows env.now (normalizeTenant tenant) a.caseContext.conversationId
      a.caseContext.ticketId rows else rows) key) ?_ fun _ => ?_
  · rw [hmoves]
    refine Yields.when (fun hthis => ?_) fun hthis t ht => ?_
    · rw [if_pos hthis, ← hconversation, ← hticket]
      exact closeCaseContext_sees _ _
    · rw [hthis, if_neg (by nofun)]
      exact ht
  · refine Yields.bind (saveCaseContext_sees (by nofun)) fun _ => ?_
    exact Yields.pure fun t ht => ⟨ht, hcontext⟩

lemma insertTicket_sees (ticket : Ticket) :
    Yields (Sees rows key) (insertTicket ticket) (fun _ => Sees rows key)
      (SeesAfter rows key) := by
  unfold insertTicket
  refine (savepoint_sees (R := fun _ => True) ?_).post fun _ _ h => h.1
  refine Yields.bind loaded_sees fun id => ?_
  refine Yields.bind (assign_sees (fun _ => rfl) fun _ => rfl) fun _ => ?_
  refine Yields.bind (flush_sees.error fun _ _ => trivial) fun _ => ?_
  exact Yields.pure fun _ h => ⟨h, trivial⟩

lemma createTicketWithRetry_sees (customerId left : ℕ) (lastError : Option OsrError) :
    Yields (Sees rows key) (createTicketWithRetry env a customerId left lastError)
      (fun _ => Sees rows key) fun _ => True := by
  induction left generalizing lastError with
  | zero =>
    cases lastError with
    | none => exact Yields.raise fun _ _ => trivial
    | some e => exact Yields.raise fun _ _ => trivial
  | succ left ih =>
    unfold createTicketWithRetry
    refine Yields.bind (checked_sees.post fun _ _ h => h.1) fun ticketNo => ?_
    refine Yields.attempt_bind (insertTicket_sees _) ?_ ?_
    · intro id
      exact Yields.pure fun _ h => h
    · intro e
      have hretry : Yields (SeesAfter rows key) (do
          expireAll
          let _ ← query fun d => d.tickets.count fun _ t => t.ticketNo = ticketNo
          createTicketWithRetry env a customerId left (some (.integrity true)))
          (fun _ => Sees rows key) fun _ => True := by
        refine Yields.bind expireAll_sees fun _ => ?_
        refine Yields.bind (query_seesAfter.error fun _ _ => trivial) fun _ => ?_
        exact (ih _).pre fun _ h => h.1
      cases e with
      | integrity ticketNo =>
        cases ticketNo with
        | true => exact hretry
        | false => exact Yields.raise fun _ _ => trivial
      | _ => exact Yields.raise fun _ _ => trivial

lemma resolveCustomer_sees :
    Yields (Sees rows key) (resolveCustomer a) (fun _ => Sees rows key) fun _ => True := by
  have hadd : ∀ row : Customer, Yields (Sees rows key) (resolveCustomer.addCustomer row)
      (fun _ => Sees rows key) fun _ => True := by
    intro row
    unfold resolveCustomer.addCustomer
    refine Yields.bind loaded_sees fun id => ?_
    refine Yields.bind (assign_sees (fun _ => rfl) fun _ => rfl) fun _ => ?_
    refine Yields.bind (flush_sees.error fun _ _ => trivial) fun _ => ?_
    exact Yields.pure fun _ h => h
  unfold resolveCustomer
  split
  · exact Yields.pure fun _ h => h
  · exact hadd _
  · exact Yields.bind loaded_sees fun publicId => hadd _

def SeesTicket (env : TicketEnv) (tenant : Text) (a : AutoTicketCall) (conversationId : ℕ)
    (rows : Table CaseContextRecord) (key : Option Text) (r : AutoTicketResult) (s : Session) :
    Prop :=
  Sees (transitionRows env.now (normalizeTenant tenant) a.caseContext conversationId r.ticketId rows)
    key s ∧ TicketContext a conversationId r.caseContext r.ticketId

lemma pointConversation_sees (ticketId : ℕ) {E : Session → Prop} :
    Yields (Sees rows key) (pointConversation env ticketId) (fun _ => Sees rows key) E :=
  assign_sees (fun _ => rfl) fun _ => rfl

lemma reuseTicket_sees (ticketId : ℕ) (ticket : Ticket) :
    Yields (Sees rows key) (reuseTicket env conversationId a ticketId ticket tenant)
      (SeesTicket env tenant a conversationId rows key) fun _ => True := by
  unfold reuseTicket
  dsimp only
  refine Yields.bind (assign_sees (fun _ => rfl) fun _ => rfl) fun _ => ?_
  refine Yields.bind loaded_sees fun pointed => ?_
  refine Yields.bind (pointConversation_sees ticketId) fun _ => ?_
  refine Yields.bind (persist_sees ticketId) fun target => Yields.assume fun ht => ?_
  refine Yields.bind (Yields.when (fun _ => assign_sees (fun _ => rfl) fun _ => rfl)
    fun _ _ h => h) fun _ => ?_
  refine Yields.bind (flush_sees.error fun _ _ => trivial) fun _ => ?_
  exact Yields.pure fun _ h => ⟨h, ht⟩

lemma createTicket_sees :
    Yields (Sees rows key) (createTicket env conversationId a tenant)
      (SeesTicket env tenant a conversationId rows key) fun _ => True := by
  unfold createTicket
  refine Yields.bind resolveCustomer_sees fun customerId => ?_
  refine Yields.bind (createTicketWithRetry_sees _ _ _) fun ticketId => ?_
  refine Yields.bind (pointConversation_sees ticketId) fun _ => ?_
  refine Yields.bind (persist_sees ticketId) fun target => Yields.assume fun ht => ?_
  unfold writeTicketEvent
  refine Yields.bind (assign_sees (fun _ => rfl) fun _ => rfl) fun _ => ?_
  refine Yields.bind (flush_sees.error fun _ _ => trivial) fun _ => ?_
  refine Yields.bind loaded_sees fun ticketNo => ?_
  exact Yields.pure fun _ h => ⟨h, ht⟩

lemma lockConversation_sees :
    Yields (Sees rows key) (lockConversation conversationId a) (fun _ => Sees rows key)
      fun _ => True := by
  unfold lockConversation
  refine Yields.bind (checked_sees.post fun _ _ h => h.1) fun contextConversation => ?_
  refine Yields.ite (fun _ => Yields.raise fun _ _ => trivial) fun _ => ?_
  refine Yields.write fun s hs => ⟨hs.active, fun hdirty => ?_, hs.flushed, hs.pending.1,
    hs.flushed.2⟩
  show s.flushed = { s.pending with conversation := s.flushed.conversation }
  rw [hs.synced hdirty]

lemma findExistingTicket_sees :
    Yields (Sees rows key) (findExistingTicket a) (fun _ => Sees rows key) fun _ => True := by
  unfold findExistingTicket
  refine Yields.bind (checked_sees.post fun _ _ h => h.1) fun contextTicket => ?_
  refine Yields.bind loaded_sees fun conversationTicket => ?_
  refine Yields.ite (fun _ => Yields.raise fun _ _ => trivial) fun _ => ?_
  cases contextTicket.or conversationTicket with
  | none => exact Yields.pure fun _ h => h
  | some ticketId =>
    refine Yields.bind loaded_sees fun row => ?_
    cases row with
    | none => exact Yields.raise fun _ _ => trivial
    | some ticket => exact Yields.pure fun _ h => h

lemma createOrReuseTicket_sees :
    Yields (Sees rows key) (createOrReuseTicket env conversationId a)
      (SeesTicket env (normalizeTenant (key.getD [])) a conversationId rows key) fun _ => True := by
  unfold createOrReuseTicket
  refine Yields.ite (fun _ => Yields.raise fun _ _ => trivial) fun _ => ?_
  refine (savepoint_sees ?_).error fun _ _ => trivial
  refine Yields.bind lockConversation_sees fun _ => ?_
  have htenant : Yields (Sees rows key) (loaded fun d => tenantOfConversation d.conversation)
      (fun tenant s => Sees rows key s ∧ tenant = normalizeTenant (key.getD [])) fun _ => True :=
    Yields.read fun s hs => ⟨hs, congrArg (fun k : Option Text => normalizeTenant (k.getD []))
      hs.pending.2⟩
  refine Yields.bind htenant fun tenant => Yields.assume fun ht => ?_
  refine Yields.bind findExistingTicket_sees fun existing => ?_
  rw [← ht]
  cases existing with
  | some x => exact reuseTicket_sees x.1 x.2
  | none => exact createTicket_sees

end Sees

/-! ## one context -/

section Placed
variable {conversationId : ℕ} {tenantId : Text} {rows : Table CaseContextRecord} {now : Instant}
  {c : CaseContext}

def CaseContextRecord.activeOf (conversationId : ℕ) (r : CaseContextRecord) : Bool :=
  r.conversationId = some (conversationId : ℤ) && r.isActive

structure Placed (conversationId : ℕ) (tenantId : Text) (rows : Table CaseContextRecord) : Prop where
  tenant : ∀ i r, rows.get? i = some r → r.conversationId = some (conversationId : ℤ) →
    r.tenantId = tenantId
  wanted : ∀ i r, rows.get? i = some r → r.activeOf conversationId = true →
    r.closedAt = none ∧ r.status.terminal = false ∧ r.expiresAt = none
  unique : ∀ i j a b, rows.get? i = some a → rows.get? j = some b →
    a.activeOf conversationId = true → b.activeOf conversationId = true → i = j

variable {r : CaseContextRecord} {ticketId : Option ℤ} {i : ℕ} {conversation : Option ℤ}

lemma activeOf_iff : r.activeOf conversationId = true ↔
    r.conversationId = some (conversationId : ℤ) ∧ r.isActive = true := by
  unfold CaseContextRecord.activeOf
  rw [Bool.and_eq_true, decide_eq_true_iff]

lemma Placed.readable (h : Placed conversationId tenantId rows) (hrow : rows.get? i = some r)
    (hr : r.activeOf conversationId = true) :
    r.readable now = true := by
  obtain ⟨hclosed, hstatus, hexpires⟩ := h.wanted i r hrow hr
  unfold CaseContextRecord.readable
  rw [(activeOf_iff.1 hr).2, hclosed, hstatus, hexpires]
  rfl

lemma isFor_iff :
    r.isFor tenantId conversation ticketId = true ↔
      r.tenantId = tenantId ∧ r.conversationId = conversation ∧ r.ticketId = ticketId := by
  unfold CaseContextRecord.isFor
  simp [and_assoc]

lemma isActive_of_readable (h : r.readable now = true) :
    r.isActive = true := by
  unfold CaseContextRecord.readable at h
  simp only [Bool.and_eq_true] at h
  exact h.1.1.1

lemma activeExactRow_eq_some {x : ℕ × CaseContextRecord}
    (h : activeExactRow rows now tenantId conversation ticketId = some x) :
    rows.get? x.1 = some x.2 ∧ x.2.isActive = true ∧ x.2.conversationId = conversation ∧
      x.2.ticketId = ticketId := by
  unfold activeExactRow lastRow at h
  split_ifs at h
  obtain ⟨hrow, hfits⟩ := rows.mem_select.1 (List.mem_of_mem_getLast? h)
  obtain ⟨hfor, hreadable⟩ := Bool.and_eq_true_iff.1 hfits
  obtain ⟨-, hconversation, hticket⟩ := isFor_iff.1 hfor
  exact ⟨hrow, isActive_of_readable hreadable, hconversation, hticket⟩

lemma activeExactRow_eq_none (h : Placed conversationId tenantId rows)
    (hnone : activeExactRow rows now tenantId (some conversationId) ticketId = none)
    (hrow : rows.get? i = some r) (hr : r.activeOf conversationId = true) :
    r.ticketId ≠ ticketId := by
  intro hticket
  have hfor : r.isFor tenantId (some conversationId) ticketId = true :=
    isFor_iff.2 ⟨h.tenant i r hrow (activeOf_iff.1 hr).1, (activeOf_iff.1 hr).1, hticket⟩
  have hmem : (i, r) ∈ rows.select fun _ r =>
      r.isFor tenantId (some conversationId) ticketId && r.readable now :=
    rows.mem_select.2 ⟨hrow, Bool.and_eq_true_iff.2 ⟨hfor, h.readable hrow hr⟩⟩
  unfold activeExactRow lastRow at hnone
  rw [if_neg (by nofun), List.getLast?_eq_none_iff] at hnone
  rw [hnone] at hmem
  cases hmem

lemma deactivate_of_placed (h : Placed conversationId tenantId rows) :
    deactivate rows now tenantId (some conversationId) ticketId = rows := by
  refine Table.ext_get? rfl fun i => ?_
  unfold deactivate
  rw [Table.get?_mapRows]
  cases hrow : rows.get? i with
  | none => rfl
  | some r =>
    refine congrArg some (if_neg fun hr => ?_)
    obtain ⟨⟨hfor, hactive⟩, hreadable⟩ : (r.isFor tenantId (some (conversationId : ℤ)) ticketId =
        true ∧ r.isActive = true) ∧ (!r.readable now) = true := by
      simpa [Bool.and_eq_true] using hr
    rw [h.readable hrow (activeOf_iff.2 ⟨(isFor_iff.1 hfor).2.1, hactive⟩)] at hreadable
    cases hreadable

structure Holds (conversationId : ℕ) (tenantId : Text) (c : CaseContext)
    (rows : Table CaseContextRecord) : Prop where
  placed : Placed conversationId tenantId rows
  found : ∃ i r, rows.get? i = some r ∧ r.activeOf conversationId = true
  is : ∀ i r, rows.get? i = some r → r.activeOf conversationId = true → r.toCaseContext = c

lemma holds_of_alone {id : ℕ} {row : CaseContextRecord} (hrow : rows.get? id = some row)
    (halone : ∀ i r, rows.get? i = some r → i ≠ id → r.activeOf conversationId = false)
    (htenant : ∀ i r, rows.get? i = some r → r.conversationId = some (conversationId : ℤ) →
      r.tenantId = tenantId)
    (hc : row.toCaseContext = c) (hconversation : c.conversationId = some (conversationId : ℤ))
    (hactive : c.incomingActive = true) (hisActive : row.isActive = true)
    (hexpires : row.expiresAt = none) : Holds conversationId tenantId c rows := by
  have honly : ∀ i r, rows.get? i = some r → r.activeOf conversationId = true → i = id ∧ r = row := by
    intro i r hget hr
    by_cases hi : i = id
    · subst hi
      exact ⟨rfl, Option.some.inj (hget.symm.trans hrow)⟩
    · rw [halone i r hget hi] at hr
      cases hr
  have hwanted : c.closedAt = none ∧ c.status.terminal = false := by
    unfold CaseContext.incomingActive at hactive
    simp only [Bool.and_eq_true, Bool.not_eq_true', decide_eq_true_eq] at hactive
    exact ⟨hactive.2, hactive.1.2⟩
  subst hc
  refine ⟨⟨htenant, ?_, ?_⟩, ⟨id, row, hrow, activeOf_iff.2 ⟨hconversation, hisActive⟩⟩, ?_⟩
  · intro i r hget hr
    obtain ⟨-, rfl⟩ := honly i r hget hr
    exact ⟨hwanted.1, hwanted.2, hexpires⟩
  · intro i j a b ha hb hia hjb
    rw [(honly i a ha hia).1, (honly j b hb hjb).1]
  · intro i r hget hr
    rw [(honly i r hget hr).2]

variable (now) in
lemma saveRows_holds (h : Placed conversationId tenantId rows)
    (hconversation : c.conversationId = some (conversationId : ℤ))
    (hactive : c.incomingActive = true)
    (hplace : ∀ i r, rows.get? i = some r → r.activeOf conversationId = true →
      r.ticketId = c.ticketId) :
    Holds conversationId tenantId c (saveRows now tenantId c rows) := by
  unfold saveRows
  rw [hconversation, deactivate_of_placed h]
  dsimp only
  cases hfound : activeExactRow rows now tenantId (some conversationId) c.ticketId with
  | some x =>
    obtain ⟨hrow, hxactive, hxconversation, -⟩ := activeExactRow_eq_some hfound
    have hx : x.2.activeOf conversationId = true := activeOf_iff.2 ⟨hxconversation, hxactive⟩
    dsimp only
    have hget : ∀ i, i ≠ x.1 → (rows.modify x.1 (.applyValues c c.incomingActive none)).get? i =
        rows.get? i := by
      intro i hi
      exact Table.get?_modify_of_ne _ _ hi
    have hself : (rows.modify x.1 (.applyValues c c.incomingActive none)).get? x.1 =
        some (x.2.applyValues c c.incomingActive none) := by
      rw [Table.get?_modify_self, hrow]
      rfl
    refine holds_of_alone hself ?_ ?_ rfl hconversation hactive hactive rfl
    · intro i r hr hi
      rw [hget i hi] at hr
      by_contra hne
      exact hi (h.unique i x.1 r x.2 hr hrow (by simpa using hne) hx)
    · intro i r hr hrconversation
      by_cases hi : i = x.1
      · subst hi
        cases hself.symm.trans hr
        exact h.tenant x.1 x.2 hrow hxconversation
      · rw [hget i hi] at hr
        exact h.tenant i r hr hrconversation
  | none =>
    dsimp only
    refine holds_of_alone (Table.get?_insert_self _ _) ?_ ?_ rfl hconversation hactive hactive rfl
    · intro i r hr hi
      rw [Table.get?_insert_of_ne _ _ hi] at hr
      by_contra hne
      have hr' : r.activeOf conversationId = true := by simpa using hne
      exact activeExactRow_eq_none h hfound hr hr' (hplace i r hr hr')
    · intro i r hr hrconversation
      by_cases hi : i = rows.next
      · subst hi
        rw [Table.get?_insert_self] at hr
        cases hr
        rfl
      · rw [Table.get?_insert_of_ne _ _ hi] at hr
        exact h.tenant i r hr hrconversation

variable (now) in
lemma closeRows_placed (h : Placed conversationId tenantId rows) (conversation ticketId : Option ℤ) :
    Placed conversationId tenantId (closeRows now tenantId conversation ticketId rows) ∧
      ∀ i r, (closeRows now tenantId conversation ticketId rows).get? i = some r →
        r.activeOf conversationId = true → rows.get? i = some r ∧
          (conversation = some (conversationId : ℤ) → r.ticketId ≠ ticketId) := by
  unfold closeRows
  cases hfound : activeExactRow rows now tenantId conversation ticketId with
  | none =>
    refine ⟨h, fun i r hr hractive => ⟨hr, ?_⟩⟩
    rintro rfl
    exact activeExactRow_eq_none h hfound hr hractive
  | some x =>
    obtain ⟨hrow, hxactive, hxconversation, -⟩ := activeExactRow_eq_some hfound
    dsimp only
    have hget : ∀ i r, (rows.modify x.1 fun r : CaseContextRecord =>
        { r with status := .closed, closedAt := some now, isActive := false }).get? i = some r →
        (i ≠ x.1 ∧ rows.get? i = some r) ∨ (r.activeOf conversationId = false ∧
          r.tenantId = x.2.tenantId ∧ r.conversationId = x.2.conversationId) := by
      intro i r hr
      by_cases hi : i = x.1
      · subst hi
        rw [Table.get?_modify_self, hrow] at hr
        cases hr
        exact Or.inr ⟨Bool.and_false _, rfl, rfl⟩
      · rw [Table.get?_modify_of_ne _ _ hi] at hr
        exact Or.inl ⟨hi, hr⟩
    have hold : ∀ i r, (rows.modify x.1 fun r : CaseContextRecord =>
        { r with status := .closed, closedAt := some now, isActive := false }).get? i = some r →
        r.activeOf conversationId = true → i ≠ x.1 ∧ rows.get? i = some r := by
      intro i r hr hractive
      rcases hget i r hr with hsame | ⟨hinactive, -⟩
      · exact hsame
      · rw [hinactive] at hractive
        cases hractive
    refine ⟨⟨?_, ?_, ?_⟩, ?_⟩
    · intro i r hr hconversation
      rcases hget i r hr with ⟨-, hsame⟩ | ⟨-, htenant, hsame⟩
      · exact h.tenant i r hsame hconversation
      · rw [htenant]
        exact h.tenant x.1 x.2 hrow (hsame.symm.trans hconversation)
    · intro i r hr hractive
      exact h.wanted i r (hold i r hr hractive).2 hractive
    · intro i j a b ha hb hia hjb
      exact h.unique i j a b (hold i a ha hia).2 (hold j b hb hjb).2 hia hjb
    · intro i r hr hractive
      obtain ⟨hi, hsame⟩ := hold i r hr hractive
      refine ⟨hsame, fun hconversation => absurd ?_ hi⟩
      exact h.unique i x.1 r x.2 hsame hrow hractive
        (activeOf_iff.2 ⟨hxconversation.trans hconversation, hxactive⟩)

variable (now) in
lemma transitionRows_holds (h : Placed conversationId tenantId rows) (ticketId : ℕ)
    (hclosed : c.closedAt = none)
    (hplace : ∀ i r, rows.get? i = some r → r.activeOf conversationId = true →
      (c.conversationId = some (conversationId : ℤ) ∧ r.ticketId = c.ticketId) ∨
        r.ticketId = some (ticketId : ℤ)) :
    Holds conversationId tenantId (c.onTicket conversationId ticketId)
      (transitionRows now tenantId c conversationId ticketId rows) := by
  have hactive : (c.onTicket conversationId ticketId).incomingActive = true := by
    unfold CaseContext.incomingActive CaseContext.onTicket CaseContext.markTicketCreated
    dsimp only
    rw [hclosed]
    rfl
  unfold transitionRows
  by_cases hmoves : c.moves conversationId ticketId = true
  · rw [if_pos hmoves]
    obtain ⟨hplaced, hleft⟩ := closeRows_placed now h c.conversationId c.ticketId
    refine saveRows_holds now hplaced rfl hactive fun i r hr hractive => ?_
    obtain ⟨hrow, hne⟩ := hleft i r hr hractive
    rcases hplace i r hrow hractive with ⟨hconversation, hticket⟩ | hticket
    · exact absurd hticket (hne hconversation)
    · exact hticket
  · rw [if_neg hmoves]
    refine saveRows_holds now h rfl hactive fun i r hr hractive => ?_
    rcases hplace i r hr hractive with ⟨hconversation, hticket⟩ | hticket
    · have hsame : (c.conversationId, c.ticketId) =
          (some (conversationId : ℤ), some (ticketId : ℤ)) := by
        unfold CaseContext.moves at hmoves
        rw [hconversation] at hmoves ⊢
        simpa using hmoves
      exact hticket.trans (Prod.mk.inj hsame).2
    · exact hticket

end Placed

end NexusHelpdesk.Osr
