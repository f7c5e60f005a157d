import NexusHelpdesk.Osr.AutoTicket
import NexusHelpdesk.Lib.Run

/-!
# One auto ticket for a conversation

Transactions that call `create_or_reuse_ticket_from_case_context` for one conversation.  The row lock
lets one of them at a time past the lock.

* `Kept`: an active session whose objects say something, with a rule for each operation;
* `createOrReuseTicket_spec`: what a call does to the conversation and the tickets;
* `createOrReuseTicket_raises`: **a call that raises leaves all rows as they were**;
* `TicketWorld`, `ticketStep`: the transactions, with all failures of flushes;
* `one_ticket`: **the conversation gets at most one ticket, which every call returns**.
-/

namespace NexusHelpdesk.Osr

open Lib
open Txn (Yields)

/-! ## session rules -/

structure Kept (P : Store → Prop) (s : Session) : Prop where
  active : s.active = true
  synced : s.dirty = false → s.flushed = s.pending
  holds : P s.pending

/-- what a savepoint leaves that has raised: it has been rolled back, or nothing goes any more. -/
def RolledBack (P : Store → Prop) (s : Session) : Prop :=
  s.active = true → s.flushed = s.pending ∧ P s.pending

section Rules
variable {α β : Type} {P Q : Store → Prop} {R : α → Store → Prop} {E : Session → Prop}
  {f : Store → α}

lemma kept_start {d : Store} {answers : List (Option OsrError)} (h : P d) :
    Kept P (Session.start d answers) := ⟨rfl, fun _ => rfl, h⟩

lemma RolledBack.of_inactive {s : Session} (h : s.active = false) : RolledBack P s := by
  intro hactive
  rw [h] at hactive
  cases hactive

lemma assign_yields {f : Store → Store} (h : ∀ d, P d → Q (f d)) :
    Yields (Kept P) (assign f) (fun _ => Kept Q) E :=
  Yields.write fun s hs => ⟨hs.active, nofun, h s.pending hs.holds⟩

lemma loaded_yields (h : ∀ d, P d → R (f d) d) :
    Yields (Kept P) (loaded f) (fun a => Kept (R a)) E :=
  Yields.read fun s hs => ⟨hs.active, hs.synced, h s.pending hs.holds⟩

lemma flush_yields : Yields (Kept P) flush
    (fun _ s => Kept P s ∧ s.flushed = s.pending) fun s => s.active = false := by
  rintro s ⟨hactive, hsynced, hP⟩
  unfold flush
  by_cases hdirty : s.dirty = false
  · rw [if_pos hdirty]
    exact ⟨⟨hactive, hsynced, hP⟩, hsynced hdirty⟩
  · rw [if_neg hdirty, if_neg (by rw [hactive]; nofun)]
    cases s.answers with
    | nil => exact ⟨⟨hactive, fun _ => rfl, hP⟩, rfl⟩
    | cons answer rest =>
      cases answer with
      | none => exact ⟨⟨hactive, fun _ => rfl, hP⟩, rfl⟩
      | some e => rfl

lemma requireActive_run (s : Session) : requireActive s =
    (if s.active = true then .ok () else .error .pendingRollback, s) := rfl

lemma requireActive_yields {I : Session → Prop} :
    Yields I requireActive (fun _ s => I s ∧ s.active = true) fun s => s.active = false := by
  intro s hs
  rw [requireActive_run]
  by_cases hactive : s.active = true
  · rw [if_pos hactive]
    exact ⟨hs, hactive⟩
  · rw [if_neg hactive]
    exact Bool.eq_false_iff.2 hactive

lemma query_yields :
    Yields (Kept P) (query f) (fun _ => Kept P) fun s => s.active = false :=
  Yields.bind requireActive_yields fun _ => Yields.read fun _ hs => hs.1

lemma query_rolledBack :
    Yields (RolledBack P) (query f) (fun _ => Kept P) fun s => s.active = false := by
  refine Yields.bind requireActive_yields fun _ => Yields.read ?_
  rintro s ⟨hs, hactive⟩
  obtain ⟨hflushed, hP⟩ := hs hactive
  exact ⟨hactive, fun _ => hflushed, hP⟩

lemma expireAll_yields : Yields (RolledBack P) expireAll (fun _ => RolledBack P) E := by
  refine Yields.write ?_
  intro s hs hactive
  obtain ⟨hflushed, hP⟩ := hs hactive
  refine ⟨rfl, ?_⟩
  show P s.flushed
  rw [hflushed]
  exact hP

lemma savepoint_yields {m : Work α}
    (hm : Yields (fun s => Kept P s ∧ s.flushed = s.pending) m (fun a => Kept (R a))
      fun _ => True) :
    Yields (Kept P) (savepoint m) (fun a s => Kept (R a) s ∧ s.flushed = s.pending)
      (RolledBack P) := by
  unfold savepoint
  refine Yields.bind ((requireActive_yields (I := Kept P)).conseq (fun _ h => h)
    (fun _ _ h => h.1) fun _ => RolledBack.of_inactive) fun _ => ?_
  refine Yields.bind (flush_yields.error fun _ => RolledBack.of_inactive) fun _ => ?_
  intro s hs
  obtain ⟨hkept, hflushed⟩ := hs
  have hP : P s.flushed := by
    rw [hflushed]
    exact hkept.holds
  have hquery : (query id : Work Store) s = (.ok s.flushed, s) := by
    unfold query
    rw [Txn.run_bind, requireActive_run, if_pos hkept.active]
    rfl
  rw [Txn.run_bind_ok _ hquery]
  have hbody : Yields (fun s => Kept P s ∧ s.flushed = s.pending) (do
      let a ← m
      requireActive
      flush
      pure a) (fun a s => Kept (R a) s ∧ s.flushed = s.pending) fun _ => True := by
    refine Yields.bind hm fun a => ?_
    refine Yields.bind (requireActive_yields.error fun _ _ => trivial) fun _ => ?_
    refine Yields.bind ((flush_yields (P := R a)).conseq (fun _ h => h.1) (fun _ _ h => h)
      fun _ _ => trivial) fun _ => ?_
    exact Yields.pure fun _ h => h
  refine Yields.attempt_bind hbody ?_ ?_ s ⟨hkept, hflushed⟩
  · intro a
    exact Yields.pure fun _ h => h
  · intro e
    refine Yields.bind (R := fun _ => RolledBack P) ?_ fun _ => Yields.raise fun _ h => h
    exact Yields.write fun t _ _ => ⟨rfl, hP⟩

end Rules

/-! ## contexts -/

section Contexts
variable {P : Store → Prop} {now : Instant} {tenant : Text} {c : CaseContext}

def ContextFree (P : Store → Prop) : Prop := ∀ d f, P d → P (Store.setContexts f d)

lemma contexts_yields (hP : ContextFree P) (f : Table CaseContextRecord → Table CaseContextRecord) :
    Yields (Kept P) (do assign (Store.setContexts f); flush) (fun _ => Kept P)
      fun _ => True := by
  refine Yields.bind (assign_yields (Q := P) fun d h => hP d f h) fun _ => ?_
  exact flush_yields.conseq (fun _ h => h) (fun _ _ h => h.1) fun _ _ => trivial

lemma rowForSave_yields (hP : ContextFree P) :
    Yields (Kept P) (rowForSave now tenant c) (fun _ => Kept P) fun _ => True := by
  unfold rowForSave
  refine Yields.ite (fun _ => Yields.pure fun _ h => h) fun _ => ?_
  refine Yields.bind (query_yields.error fun _ _ => trivial) fun stale => ?_
  refine Yields.bind (R := fun _ => Kept P) ?_ fun _ => query_yields.error fun _ _ => trivial
  exact Yields.when (fun _ => contexts_yields hP _) fun _ _ h => h

lemma saveOverWinner_yields (hP : ContextFree P) (e : OsrError) :
    Yields (RolledBack P) (saveOverWinner now tenant c e) (fun _ => Kept P)
      fun _ => True := by
  unfold saveOverWinner
  refine Yields.bind (expireAll_yields) fun _ => ?_
  refine Yields.bind (query_rolledBack.error fun _ _ => trivial) fun winner => ?_
  cases winner with
  | none => exact Yields.raise fun _ _ => trivial
  | some id => exact contexts_yields hP _

lemma saveCaseContext_yields (hP : ContextFree P) :
    Yields (Kept P) (saveCaseContext now c tenant) (fun _ => Kept P) fun _ => True := by
  unfold saveCaseContext
  dsimp only
  refine Yields.bind (rowForSave_yields hP) fun row => ?_
  cases row with
  | some id => exact contexts_yields hP _
  | none =>
    refine Yields.ite (fun _ => contexts_yields hP _) fun _ => ?_
    have hinsert := savepoint_yields (R := fun _ => P)
      ((contexts_yields hP fun rows => rows.insert ⟨c, normalizeTenant tenant, c.incomingActive,
        none⟩).pre fun _ h => h.1)
    refine Yields.attempt_bind hinsert ?_ ?_
    · intro _
      exact Yields.pure fun _ h => h.1
    · intro e
      cases e with
      | integrity ticketNo => exact saveOverWinner_yields hP _
      | _ => exact Yields.raise fun _ _ => trivial

lemma closeCaseContext_yields (hP : ContextFree P) (conversationId ticketId : Option ℤ) :
    Yields (Kept P) (closeCaseContext now conversationId ticketId tenant) (fun _ => Kept P)
      fun _ => True := by
  unfold closeCaseContext
  refine Yields.bind (query_yields.error fun _ _ => trivial) fun row => ?_
  cases row with
  | none => exact Yields.pure fun _ h => h
  | some id => exact contexts_yields hP _

end Contexts

/-! ## a call -/

def Names (ticketId : Option ℕ) (next : ℕ) (d : Store) : Prop :=
  d.conversation.ticketId = ticketId ∧ d.tickets.next = next

section Call
variable {env : TicketEnv} {conversationId : ℕ} {a : AutoTicketCall} {named : Option ℕ} {next : ℕ}
  {tenant : Text}

lemma names_contextFree : ContextFree (Names named next) := fun _ _ h => h

lemma persist_yields (named : Option ℕ) (next ticketId : ℕ) :
    Yields (Kept (Names named next))
      (persistTicketContextTransition env conversationId a ticketId tenant)
      (fun _ => Kept (Names named next)) fun _ => True := by
  unfold persistTicketContextTransition
  refine Yields.bind (R := fun _ => Kept (Names named next))
    (Yields.check (fun _ _ h _ => h) fun _ _ => trivial) fun originalConversation => ?_
  refine Yields.bind (R := fun _ => Kept (Names named next))
    (Yields.check (fun _ _ h _ => h) fun _ _ => trivial) fun originalTicket => ?_
  refine Yields.ite (fun _ => Yields.raise fun _ _ => trivial) fun _ => ?_
  refine Yields.ite (fun _ => Yields.raise fun _ _ => trivial) fun _ => ?_
  refine Yields.bind (R := fun _ => Kept (Names named next)) ?_ fun _ => ?_
  · exact Yields.when (fun _ => closeCaseContext_yields names_contextFree _ _)
      fun _ _ h => h
  · refine Yields.bind (saveCaseContext_yields names_contextFree) fun _ => ?_
    exact Yields.pure fun _ h => h

lemma insertTicket_yields (ticket : Ticket) :
    Yields (Kept (Names named next)) (insertTicket ticket)
      (fun id => Kept fun d => Names named (next + 1) d ∧ id = next)
      (RolledBack (Names named next)) := by
  unfold insertTicket
  refine (savepoint_yields (R := fun id d => Names named (next + 1) d ∧ id = next) ?_).post
    fun _ _ h => h.1
  have hid : Yields (Kept (Names named next)) (loaded fun d => d.tickets.next)
      (fun id => Kept fun d => Names named next d ∧ id = next) fun _ => True := by
    refine loaded_yields ?_
    rintro d ⟨hnamed, rfl⟩
    exact ⟨⟨hnamed, rfl⟩, rfl⟩
  refine Yields.bind (hid.pre fun _ h => h.1) fun id => ?_
  refine Yields.bind (assign_yields (Q := fun d => Names named (next + 1) d ∧ id = next) ?_)
    fun _ => ?_
  · rintro d ⟨⟨hnamed, rfl⟩, hid⟩
    exact ⟨⟨hnamed, rfl⟩, hid⟩
  refine Yields.bind (flush_yields.error fun _ _ => trivial) fun _ => ?_
  exact Yields.pure fun _ h => h.1

lemma createTicketWithRetry_yields (customerId left : ℕ) (lastError : Option OsrError) :
    Yields (Kept (Names named next)) (createTicketWithRetry env a customerId left lastError)
      (fun id => Kept fun d => Names named (next + 1) d ∧ id = next) fun _ => True := by
  induction left generalizing lastError with
  | zero =>
    cases lastError with
    | none => exact Yields.raise fun _ _ => trivial
    | some e => exact Yields.raise fun _ _ => trivial
  | succ left ih =>
    unfold createTicketWithRetry
    refine Yields.bind (R := fun _ => Kept (Names named next))
      (Yields.check (fun _ _ h _ => h) fun _ _ => trivial) fun ticketNo => ?_
    refine Yields.attempt_bind (insertTicket_yields _) ?_ ?_
    · intro id
      exact Yields.pure fun _ h => h
    · intro e
      have hretry : Yields (RolledBack (Names named next)) (do
          expireAll
          let _ ← query fun d => d.tickets.count fun _ t => t.ticketNo = ticketNo
          createTicketWithRetry env a customerId left (some (.integrity true)))
          (fun id => Kept fun d => Names named (next + 1) d ∧ id = next) fun _ => True := by
        refine Yields.bind expireAll_yields fun _ => ?_
        refine Yields.bind (query_rolledBack.error fun _ _ => trivial) fun _ => ?_
        exact ih _
      cases e with
      | integrity ticketNo =>
        cases ticketNo with
        | true => exact hretry
        | false => exact Yields.raise fun _ _ => trivial
      | _ => exact Yields.raise fun _ _ => trivial

lemma resolveCustomer_yields :
    Yields (Kept (Names named next)) (resolveCustomer a) (fun _ => Kept (Names named next))
      fun _ => True := by
  have hadd : ∀ row : Customer, Yields (Kept (Names named next))
      (resolveCustomer.addCustomer row) (fun _ => Kept (Names named next)) fun _ => True := by
    intro row
    unfold resolveCustomer.addCustomer
    refine Yields.bind (loaded_yields (R := fun _ => Names named next) fun _ h => h)
      fun id => ?_
    refine Yields.bind (assign_yields (Q := Names named next) fun _ h => h) fun _ => ?_
    refine Yields.bind (flush_yields.error fun _ _ => trivial) fun _ => ?_
    exact Yields.pure fun _ h => h.1
  unfold resolveCustomer
  split
  · exact Yields.pure fun _ h => h
  · exact hadd _
  · exact Yields.bind (loaded_yields (R := fun _ => Names named next) fun _ h => h)
      fun publicId => hadd _

lemma pointConversation_yields (ticketId : ℕ) :
    Yields (Kept (Names named next)) (pointConversation env ticketId)
      (fun _ => Kept (Names (some ticketId) next)) fun _ => True :=
  assign_yields fun d h => ⟨rfl, h.2⟩

def Returns (named : Option ℕ) (next : ℕ) (r : AutoTicketResult) (d : Store) : Prop :=
  d.conversation.ticketId = some r.ticketId ∧
    ((d.tickets.next = next ∧ (∀ t, named = some t → r.ticketId = t)) ∨
      (named = none ∧ d.tickets.next = next + 1 ∧ r.ticketId = next))

lemma reuseTicket_yields {ticketId : ℕ} (ticket : Ticket)
    (hnamed : ∀ t, named = some t → ticketId = t) :
    Yields (Kept (Names named next)) (reuseTicket env conversationId a ticketId ticket tenant)
      (fun r => Kept (Returns named next r)) fun _ => True := by
  unfold reuseTicket
  dsimp only
  refine Yields.bind (assign_yields (Q := Names named next) fun _ h => h) fun _ => ?_
  refine Yields.bind (loaded_yields (R := fun _ => Names named next) fun _ h => h)
    fun pointed => ?_
  refine Yields.bind (pointConversation_yields ticketId) fun _ => ?_
  refine Yields.bind (persist_yields _ _ ticketId) fun target => ?_
  refine Yields.bind (R := fun _ => Kept (Names (some ticketId) next)) ?_ fun _ => ?_
  · exact Yields.when (fun _ => assign_yields fun _ h => h) fun _ _ h => h
  refine Yields.bind (flush_yields.error fun _ _ => trivial) fun _ => ?_
  refine Yields.pure ?_
  rintro s ⟨⟨hactive, hsynced, hticket, hnext⟩, -⟩
  exact ⟨hactive, hsynced, hticket, .inl ⟨hnext, hnamed⟩⟩

lemma createTicket_yields :
    Yields (Kept (Names none next)) (createTicket env conversationId a tenant)
      (fun r => Kept (Returns none next r)) fun _ => True := by
  unfold createTicket
  refine Yields.bind resolveCustomer_yields fun customerId => ?_
  refine Yields.bind (createTicketWithRetry_yields _ _ _) fun ticketId => ?_
  refine Yields.bind (R := fun _ => Kept fun d =>
    Names (some ticketId) (next + 1) d ∧ ticketId = next) ?_ fun _ => ?_
  · exact assign_yields fun d h => ⟨⟨rfl, h.1.2⟩, h.2⟩
  intro s hs
  obtain ⟨hactive, hsynced, hnames, rfl⟩ := hs
  refine Yields.bind (persist_yields (some ticketId) (ticketId + 1) ticketId)
    (fun target => ?_) s ⟨hactive, hsynced, hnames⟩
  refine Yields.bind (assign_yields (Q := Names (some ticketId) (ticketId + 1)) fun _ h => h)
    fun _ => ?_
  refine Yields.bind (flush_yields.error fun _ _ => trivial) fun _ => ?_
  refine Yields.bind (R := fun _ => Kept (Names (some ticketId) (ticketId + 1))) ?_
    fun ticketNo => ?_
  · exact (loaded_yields (R := fun _ => Names (some ticketId) (ticketId + 1)) fun _ h => h).pre
      fun _ h => h.1
  refine Yields.pure ?_
  rintro t ⟨hactive, hsynced, hticket, hnext⟩
  exact ⟨hactive, hsynced, hticket, .inr ⟨rfl, hnext, rfl⟩⟩

lemma lockConversation_yields :
    Yields (fun s => Kept (Names named next) s ∧ s.flushed = s.pending)
      (lockConversation conversationId a) (fun _ => Kept (Names named next)) fun _ => True := by
  unfold lockConversation
  refine Yields.bind (R := fun _ s => Kept (Names named next) s ∧ s.flushed = s.pending)
    (Yields.check (fun _ _ h _ => h) fun _ _ => trivial) fun contextConversation => ?_
  refine Yields.ite (fun _ => Yields.raise fun _ _ => trivial) fun _ => ?_
  refine Yields.write ?_
  rintro s ⟨⟨hactive, hsynced, hticket, hnext⟩, hflushed⟩
  have hsame : ({ s.pending with conversation := s.flushed.conversation } : Store) = s.pending := by
    rw [hflushed]
  refine ⟨hactive, ?_, ?_⟩
  · intro _
    show s.flushed = { s.pending with conversation := s.flushed.conversation }
    rw [hsame, hflushed]
  · show Names named next { s.pending with conversation := s.flushed.conversation }
    rw [hsame]
    exact ⟨hticket, hnext⟩

lemma findExistingTicket_yields :
    Yields (Kept (Names named next)) (findExistingTicket a)
      (fun existing => Kept fun d => Names named next d ∧
        (∀ x, existing = some x → ∀ t, named = some t → x.1 = t) ∧ (existing = none → named = none))
      fun _ => True := by
  unfold findExistingTicket
  refine Yields.bind (R := fun _ => Kept (Names named next))
    (Yields.check (fun _ _ h _ => h) fun _ _ => trivial) fun contextTicket => ?_
  have hloaded : Yields (Kept (Names named next)) (loaded fun d => d.conversation.ticketId)
      (fun ticket => Kept fun d => Names named next d ∧ ticket = named) fun _ => True :=
    loaded_yields fun d h => ⟨h, h.1⟩
  refine Yields.bind hloaded fun conversationTicket => ?_
  by_cases hdiffers : contextTicket.isSome = true ∧ conversationTicket.isSome = true ∧
      contextTicket ≠ conversationTicket
  · rw [if_pos hdiffers]
    exact Yields.raise fun _ _ => trivial
  rw [if_neg hdiffers]
  cases hfound : contextTicket.or conversationTicket with
  | none =>
    refine Yields.pure ?_
    rintro s ⟨hactive, hsynced, hnames, rfl⟩
    refine ⟨hactive, hsynced, hnames, ?_, fun _ => (Option.or_eq_none_iff.1 hfound).2⟩
    intro x hx
    cases hx
  | some ticketId =>
    dsimp only
    have hrow : Yields (Kept fun d => Names named next d ∧ conversationTicket = named)
        (loaded fun d => d.tickets.get? ticketId)
        (fun _ => Kept fun d => Names named next d ∧ conversationTicket = named) fun _ => True :=
      loaded_yields fun _ h => h
    refine Yields.bind hrow fun row => ?_
    cases row with
    | none => exact Yields.raise fun _ _ => trivial
    | some ticket =>
      refine Yields.pure ?_
      rintro s ⟨hactive, hsynced, hnames, rfl⟩
      refine ⟨hactive, hsynced, hnames, ?_, fun h => by cases h⟩
      intro x hx t ht
      cases hx
      subst ht
      cases contextTicket with
      | none => exact (Option.some.inj hfound).symm
      | some x =>
        cases hfound
        by_contra hne
        exact hdiffers ⟨rfl, rfl, fun h => hne (Option.some.inj h)⟩

theorem createOrReuseTicket_spec :
    Yields (Kept (Names named next)) (createOrReuseTicket env conversationId a)
      (fun r s => Kept (Returns named next r) s ∧ s.flushed = s.pending) fun _ => True := by
  unfold createOrReuseTicket
  refine Yields.ite (fun _ => Yields.raise fun _ _ => trivial) fun _ => ?_
  refine (savepoint_yields ?_).error fun _ _ => trivial
  refine Yields.bind lockConversation_yields fun _ => ?_
  have htenant : Yields (Kept (Names named next))
      (loaded fun d => tenantOfConversation d.conversation)
      (fun _ => Kept (Names named next)) fun _ => True := loaded_yields fun _ h => h
  refine Yields.bind htenant fun tenant => ?_
  refine Yields.bind findExistingTicket_yields fun existing => ?_
  rintro s ⟨hactive, hsynced, hnames, hsame, hnone⟩
  cases existing with
  | some x =>
    obtain ⟨ticketId, ticket⟩ := x
    exact reuseTicket_yields ticket (hsame _ rfl) s ⟨hactive, hsynced, hnames⟩
  | none =>
    obtain rfl := hnone rfl
    exact createTicket_yields s ⟨hactive, hsynced, hnames⟩

lemma savepoint_raises {α : Type} (m : Work α) (d : Store) (answers : List (Option OsrError)) :
    Yields (· = Session.start d answers) (savepoint m) (fun _ _ => True)
      fun s => s.flushed = d := by
  rintro s rfl
  unfold savepoint
  rw [Txn.run_bind_ok _ (show requireActive (Session.start d answers) = (.ok (), _) from rfl),
    Txn.run_bind_ok _ (show flush (Session.start d answers) = (.ok (), _) from rfl),
    Txn.run_bind_ok _ (show query id (Session.start d answers) = (.ok d, _) from rfl)]
  refine Yields.attempt_bind (P := fun _ => True) (R := fun _ _ => True) (X := fun _ => True)
    ?_ ?_ ?_ _ trivial
  · intro s _
    split <;> trivial
  · intro a
    exact Yields.pure fun _ _ => trivial
  · intro e
    refine Yields.bind (R := fun _ s => s.flushed = d) ?_ fun _ => Yields.raise fun _ h => h
    exact Yields.write fun _ _ => rfl

theorem createOrReuseTicket_raises (d : Store) (answers : List (Option OsrError)) :
    Yields (· = Session.start d answers) (createOrReuseTicket env conversationId a)
      (fun _ _ => True) fun s => s.flushed = d := by
  unfold createOrReuseTicket
  refine Yields.ite (fun _ => Yields.raise ?_) fun _ => savepoint_raises _ d answers
  rintro s rfl
  rfl

end Call

/-! ## transactions -/

structure OpenTransaction where
  owner : ℕ
  rows : Store
  /-- the tickets that it has added. -/
  created : List ℕ
  /-- the tickets that its calls have returned. -/
  returned : List ℕ

structure TicketWorld where
  committed : Store
  lock : Option OpenTransaction
  /-- the tickets that committed transactions have added. -/
  created : List ℕ
  returned : List ℕ

def TicketWorld.start (d : Store) : TicketWorld := ⟨d, none, [], []⟩

inductive TicketStep where
  /-- the call gets the lock; `answers` are the answers to its flushes. -/
  | call (owner : ℕ) (env : TicketEnv) (a : AutoTicketCall) (answers : List (Option OsrError))
  | commit (owner : ℕ)
  | rollback (owner : ℕ)

def addedTickets (before after : Store) : List ℕ :=
  List.range' before.tickets.next (after.tickets.next - before.tickets.next)

def OpenTransaction.call (conversationId : ℕ) (env : TicketEnv) (a : AutoTicketCall)
    (answers : List (Option OsrError)) (tx : OpenTransaction) : OpenTransaction :=
  match createOrReuseTicket env conversationId a (Session.start tx.rows answers) with
  | (.ok r, u) =>
    { tx with
      rows := u.flushed
      created := addedTickets tx.rows u.flushed ++ tx.created
      returned := r.ticketId :: tx.returned }
  | (.error _, u) => { tx with rows := u.flushed }

def ticketStep (conversationId : ℕ) (e : TicketStep) (s : TicketWorld) : TicketWorld :=
  match e, s.lock with
  | .call owner env a answers, none =>
    { s with lock := some (OpenTransaction.call conversationId env a answers
        ⟨owner, s.committed, [], []⟩) }
  | .call owner env a answers, some tx =>
    -- any other transaction waits for the row
    if tx.owner = owner then { s with lock := some (tx.call conversationId env a answers) } else s
  | .commit owner, some tx =>
    if tx.owner = owner then
      ⟨tx.rows, none, tx.created ++ s.created, tx.returned ++ s.returned⟩
    else s
  | .rollback owner, some tx => if tx.owner = owner then { s with lock := none } else s
  | _, none => s

/-- at most one ticket was added, the conversation names it, and every call returned it. -/
structure Agrees (rows : Store) (created returned : List ℕ) : Prop where
  once : created.length ≤ 1
  named : ∀ t ∈ created, rows.conversation.ticketId = some t
  returned : ∀ t ∈ returned, rows.conversation.ticketId = some t

structure OneTicket (s : TicketWorld) : Prop where
  committed : Agrees s.committed s.created s.returned
  opened : ∀ tx, s.lock = some tx → Agrees tx.rows (tx.created ++ s.created)
    (tx.returned ++ s.returned)

section World
variable {conversationId : ℕ} {s : TicketWorld} {d d' : Store} {created returned : List ℕ}

lemma oneTicket_start (d : Store) : OneTicket (TicketWorld.start d) where
  committed := ⟨Nat.zero_le _, by nofun, by nofun⟩
  opened := by nofun

lemma Agrees.returns (h : Agrees d created returned) {r : AutoTicketResult}
    (hr : Returns d.conversation.ticketId d.tickets.next r d') :
    Agrees d' (addedTickets d d' ++ created) (r.ticketId :: returned) := by
  obtain ⟨hticket, ⟨hnext, hsame⟩ | ⟨hnone, hnext, hid⟩⟩ := hr
  · have hadded : addedTickets d d' = [] := by
      unfold addedTickets
      rw [hnext, Nat.sub_self]
      rfl
    have hstays : ∀ t, d.conversation.ticketId = some t → d'.conversation.ticketId = some t := by
      intro t ht
      rw [hticket, hsame t ht]
    rw [hadded]
    refine ⟨h.once, fun t ht => hstays t (h.named t ht), ?_⟩
    intro t ht
    rcases List.mem_cons.1 ht with rfl | ht
    · exact hticket
    · exact hstays t (h.returned t ht)
  · have hcreated : created = [] := by
      refine List.eq_nil_iff_forall_not_mem.2 fun t ht => ?_
      have hnamed := h.named t ht
      rw [hnone] at hnamed
      cases hnamed
    have hadded : addedTickets d d' = [r.ticketId] := by
      unfold addedTickets
      rw [hnext, Nat.add_sub_cancel_left, hid]
      rfl
    rw [hadded, hcreated]
    refine ⟨le_rfl, ?_, ?_⟩
    · intro t ht
      rw [List.mem_singleton.1 ht]
      exact hticket
    · intro t ht
      rcases List.mem_cons.1 ht with rfl | ht
      · exact hticket
      · have hold := h.returned t ht
        rw [hnone] at hold
        cases hold

lemma Agrees.call (tx : OpenTransaction)
    (h : Agrees tx.rows (tx.created ++ created) (tx.returned ++ returned)) (env : TicketEnv)
    (a : AutoTicketCall) (answers : List (Option OsrError)) :
    Agrees (tx.call conversationId env a answers).rows
      ((tx.call conversationId env a answers).created ++ created)
      ((tx.call conversationId env a answers).returned ++ returned) := by
  have hspec : Yields
      (Kept (Names tx.rows.conversation.ticketId tx.rows.tickets.next))
      (createOrReuseTicket env conversationId a)
      (fun r s => Kept (Returns tx.rows.conversation.ticketId tx.rows.tickets.next r) s ∧
        s.flushed = s.pending) (fun _ => True) :=
    createOrReuseTicket_spec
  have hspec := hspec (Session.start tx.rows answers) (kept_start ⟨rfl, rfl⟩)
  have hraises : Yields _ (createOrReuseTicket env conversationId a) _ _ :=
    createOrReuseTicket_raises tx.rows answers
  have hraises := hraises (Session.start tx.rows answers) rfl
  unfold OpenTransaction.call
  cases hcall : createOrReuseTicket env conversationId a (Session.start tx.rows answers) with
  | mk result u =>
    rw [hcall] at hspec hraises
    cases result with
    | error e =>
      dsimp only
      rw [show u.flushed = tx.rows from hraises]
      exact h
    | ok r =>
      obtain ⟨hkept, hflushed⟩ := hspec
      have hreturns := hkept.holds
      rw [← hflushed] at hreturns
      dsimp only
      rw [List.append_assoc]
      exact h.returns hreturns

lemma oneTicket_step (h : OneTicket s) (e : TicketStep) : OneTicket (ticketStep conversationId e s) := by
  cases hlock : s.lock with
  | none =>
    cases e with
    | call owner env a answers =>
      unfold ticketStep
      rw [hlock]
      refine ⟨h.committed, ?_⟩
      intro tx htx
      cases htx
      exact Agrees.call ⟨owner, s.committed, [], []⟩ h.committed env a answers
    | commit owner =>
      unfold ticketStep
      rw [hlock]
      exact h
    | rollback owner =>
      unfold ticketStep
      rw [hlock]
      exact h
  | some tx =>
    have hopened := h.opened tx hlock
    cases e with
    | call owner env a answers =>
      unfold ticketStep
      rw [hlock]
      dsimp only
      split
      · refine ⟨h.committed, ?_⟩
        intro tx' htx'
        cases htx'
        exact hopened.call tx env a answers
      · exact h
    | commit owner =>
      unfold ticketStep
      rw [hlock]
      dsimp only
      split
      · exact ⟨hopened, by nofun⟩
      · exact h
    | rollback owner =>
      unfold ticketStep
      rw [hlock]
      dsimp only
      split
      · exact ⟨h.committed, by nofun⟩
      · exact h

end World

theorem one_ticket (conversationId : ℕ) (d : Store) (l : List TicketStep) :
    OneTicket (run (ticketStep conversationId) (TicketWorld.start d) l) ∧
      ∀ env a rows answers e u,
        createOrReuseTicket env conversationId a (Session.start rows answers) = (.error e, u) →
          u.flushed = rows := by
  constructor
  · exact Along.invariant (I := OneTicket) (fun s e hs _ => oneTicket_step hs e)
      (oneTicket_start d) (along_true _ l)
  · intro env a rows answers e u h
    have hraises : Yields _ (createOrReuseTicket env conversationId a) _ _ :=
      createOrReuseTicket_raises rows answers
    have hraises := hraises (Session.start rows answers) rfl
    rw [h] at hraises
    exact hraises

end NexusHelpdesk.Osr
