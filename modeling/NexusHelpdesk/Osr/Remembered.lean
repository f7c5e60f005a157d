import NexusHelpdesk.Osr.Confirmed
import NexusHelpdesk.Osr.ContextRows

/-!
# What a conversation's context remembers

* `MemoryStep`, `memoryStep`: Agent runs, their rounds of calls and the ticket service on one
  conversation;
* `Remembered`: at most one context is active, and it has all that was stored;
* `SafeSave`, `SafeTicket`: the conditions on a call and on a use of the service;
* `remembered`: **they are enough in every run**.
-/

namespace NexusHelpdesk.Osr

open Lib Cases
open Txn (Yields)

/-! ## runs -/

structure RunEnv extends AgentEnv where
  restricted : AgentRows → Option ℕ → Bool
  trackingReference : Text → Option (Text × Text)
  /-- `redact_customer_text`. -/
  excerpt : Text → ℕ → Text

def RunEnv.runtime (env : RunEnv) (conversationId : ℕ) (tenantKey : Text) :
    AgentRuntime AgentRows where
  backend := agentBackend env.toAgentEnv conversationId
  conversationId := conversationId
  tenantKey := tenantKey
  agentHandlers := buildAgentToolHandlers env.toAgentEnv
  ticketCustomer := fun s id => (s.session.flushed.tickets.get? id).map (·.customerId)
  restricted := env.restricted
  trackingReference := env.trackingReference
  redact := env.excerpt

def AgentDb.session (s : AgentDb AgentRows) : Session := s.tools.rows.session

def AgentDb.withSession (s : AgentDb AgentRows) (session : Session) : AgentDb AgentRows :=
  { s with tools := { s.tools with rows := { s.tools.rows with session := session } } }

structure MemoryWorld where
  db : AgentDb AgentRows
  /-- the ticket ids that are known to the Agent's runs. -/
  runs : List (Option ℕ)
  /-- the contexts that the ticket service has stored. -/
  tickets : List CaseContext

def MemoryWorld.store (w : MemoryWorld) : Store := w.db.session.pending

def MemoryWorld.opened (w : MemoryWorld) (answers : List (Option OsrError)) : AgentDb AgentRows :=
  w.db.withSession (Session.start w.store answers)

/-- what others leave: the contexts, the tenant and what is known of the calls stay. -/
def MemoryWorld.changed (w : MemoryWorld) (t : AgentDb AgentRows) : AgentDb AgentRows :=
  let d := t.session.pending
  let session := Session.start { d with
    contexts := w.store.contexts
    conversation := { d.conversation with tenantKey := w.store.conversation.tenantKey } } []
  { t.withSession session with calls := w.db.calls }

inductive MemoryStep where
  /-- a run of the Agent begins. -/
  | begin
  | calls (env : RunEnv) (run : ℕ) (ctx : AgentExecutionContext) (calls : List AgentToolCall)
      (answers : List (Option OsrError)) (commits : Bool)
  /-- `create_or_reuse_ticket_from_case_context`. -/
  | ticket (env : TicketEnv) (a : AutoTicketCall) (answers : List (Option OsrError))
      (commits : Bool)
  | change (f : AgentDb AgentRows → AgentDb AgentRows)

section Steps
variable (conversationId : ℕ)

def MemoryWorld.runtime (w : MemoryWorld) (env : RunEnv) : AgentRuntime AgentRows :=
  env.runtime conversationId (w.store.conversation.tenantKey.getD [])

def memoryStep (e : MemoryStep) (w : MemoryWorld) : MemoryWorld :=
  match e with
  | .begin => { w with runs := w.runs ++ [w.store.conversation.ticketId] }
  | .calls env run ctx calls answers commits =>
    match w.runs[run]? with
    | none => w
    | some ticketId =>
      let db := callRound (w.runtime conversationId env) { ctx with ticketId := ticketId } calls
        commits (w.opened answers)
      { w with db := db }
  | .ticket env a answers commits =>
    match createOrReuseTicket env conversationId a (Session.start w.store answers) with
    | (.ok r, session) =>
      if commits = true then
        { w with db := w.db.withSession session, tickets := w.tickets ++ [r.caseContext] }
      else w
    | (.error _, _) => w
  | .change f => { w with db := w.changed (f w.db) }

end Steps

/-! ## the property -/

def AgentCallEntry.stored (e : AgentCallEntry) : Option CaseContext :=
  match e.answer with
  | some (.ran (some result)) =>
    if result.ok = true ∧ e.undone = false then result.caseContext else none
  | _ => none

def storedBy (calls : List AgentCallEntry) : List CaseContext := calls.filterMap (·.stored)

def MemoryWorld.stored (w : MemoryWorld) : List CaseContext := w.tickets ++ storedBy w.db.calls

/-- `d` has all that `c` says of a handoff, a ticket and a tracking reference. -/
structure Remembers (c d : CaseContext) : Prop where
  handoff : c.handoffRequested = true → d.handoffRequested = true
  ticket : c.ticketCreated = true → d.ticketCreated = true
  tracking : ∀ ref, c.safeTrackingReference = some ref → d.safeTrackingReference = some ref

def resolveTenant (d : Store) (conversationId : ℕ) : Except String (Option Text) :=
  match orText d.conversation.tenantKey none with
  | some tenantKey => .ok (some (normalizeTenant tenantKey))
  | none =>
    match ((d.contexts.select fun _ r => r.conversationId = some (conversationId : ℤ)).map
        fun r => r.2.tenantId).dedup with
    | [] => .ok none
    | [tenantId] => .ok (some (normalizeTenant tenantId))
    | _ => .error "case_context_tenant_ambiguous"

/-- `load_case_context` of a conversation. -/
def loadConversation (d : Store) (conversationId : ℕ) (now : Instant) :
    Except String (Option CaseContext) :=
  match resolveTenant d conversationId with
  | .error e => .error e
  | .ok none => .ok none
  | .ok (some tenantId) => loadCaseContext d.contexts now tenantId conversationId

structure Remembered (conversationId : ℕ) (w : MemoryWorld) : Prop where
  single : (w.store.contexts.count fun _ r => r.activeOf conversationId) ≤ 1
  loaded : ∀ c ∈ w.stored, ∀ now, ∃ d,
    loadConversation w.store conversationId now = .ok (some d) ∧ Remembers c d

section Conditions
variable (conversationId : ℕ)

/-- a call that comes to its handler starts from a context in the active one's place, and says again
what was stored. -/
structure SafeSave (rt : AgentRuntime AgentRows) (ctx : AgentExecutionContext)
    (past : List CaseContext) (call : AgentToolCall) (s : AgentDb AgentRows) : Prop where
  place : Fresh rt.backend rt.conversationId (callRequest rt ctx call s) (callAction rt call) s.tools →
    requestRefusal rt.backend (callRequest rt ctx call s) (callAction rt call) s.tools = none →
    ∀ i r, s.session.pending.contexts.get? i = some r → r.activeOf conversationId = true →
      r.ticketId = ctx.ticketId.map Int.ofNat ∨ (call.toolName = ticketTool ∧
        ∃ t, s.session.pending.conversation.ticketId = some t ∧ r.ticketId = some (t : ℤ))
  facts : Fresh rt.backend rt.conversationId (callRequest rt ctx call s) (callAction rt call) s.tools →
    requestRefusal rt.backend (callRequest rt ctx call s) (callAction rt call) s.tools = none →
    ∀ d ∈ past ++ storedBy s.calls,
      (d.handoffRequested = true → call.toolName = handoffTool) ∧
      (d.ticketCreated = true → call.toolName = ticketTool) ∧
      ∀ ref, d.safeTrackingReference = some ref →
        (startContext rt ctx).safeTrackingReference = some ref

structure SafeTicket (a : AutoTicketCall) (w : MemoryWorld) : Prop where
  wanted : a.caseContext.closedAt = none
  place : ∀ i r, w.store.contexts.get? i = some r → r.activeOf conversationId = true →
    (a.caseContext.conversationId = some (conversationId : ℤ) ∧ r.ticketId = a.caseContext.ticketId) ∨
      ∃ n, (a.caseContext.ticketId = some n ∨
        w.store.conversation.ticketId.map Int.ofNat = some n) ∧ r.ticketId = some n
  facts : ∀ d ∈ w.stored, (d.handoffRequested = true → a.caseContext.handoffRequested = true) ∧
    ∀ ref, d.safeTrackingReference = some ref → a.caseContext.safeTrackingReference = some ref

def SafeMemory (w : MemoryWorld) (e : MemoryStep) : Prop :=
  match e with
  | .calls env run ctx calls answers commits => ∀ ticketId, w.runs[run]? = some ticketId →
    CallsAlong (w.runtime conversationId env) { ctx with ticketId := ticketId }
      (SafeSave conversationId (w.runtime conversationId env) { ctx with ticketId := ticketId }
        w.tickets) calls (w.opened answers)
  | .ticket env a answers commits => SafeTicket conversationId a w
  | _ => True

end Conditions

/-! ## handlers -/

section Handlers
variable {rows : Table CaseContextRecord} {key : Option Text} {α : Type}

lemma onSession_yields {P E : Session → Prop} {Q : α → Session → Prop} {m : Work α}
    (h : Yields P m Q E) : Yields (fun s : AgentRows => P s.session) (onSession m)
      (fun a s => Q a s.session) fun s => E s.session := by
  intro s hs
  have hm := h s.session hs
  unfold onSession
  cases hr : m s.session with
  | mk r session =>
    rw [hr] at hm
    cases r with
    | ok a => exact hm
    | error e => exact hm

/-- the context that a handler returns, where it saves no ticket. -/
def Follows (toolName : Text) (c next : CaseContext) : Prop :=
  (toolName ≠ handoffTool ∧ next = c) ∨
    (toolName = handoffTool ∧ ∃ summary, next = c.markHandoffRequested summary)

def QuietHandler (toolName : Text) (handler : Handler AgentRows) : Prop :=
  ∀ rows key r, Yields (fun s : AgentRows => Sees rows key s.session) (handler r)
    (fun result s => Sees rows key s.session ∧
      ∀ next, result.caseContext = some next → Follows toolName r.caseContext next) fun _ => True

variable {env : AgentEnv} {conversationId : ℕ}
variable {toolName : Text} {scope : HandlerScope} {handler : Handler AgentRows}

lemma follows_self {c next : CaseContext} (hne : toolName ≠ handoffTool)
    (h : some c = some next) : Follows toolName c next := Or.inl ⟨hne, (Option.some.inj h).symm⟩

lemma handoffRequest_quiet : QuietHandler handoffTool (handoffRequest env) := by
  intro rows key r
  unfold handoffRequest
  dsimp only
  cases env.handoffError with
  | some e => exact Yields.raise fun _ _ => trivial
  | none =>
    refine Yields.pure fun s hs => ⟨hs, fun next hnext => ?_⟩
    exact Or.inr ⟨rfl, _, (Option.some.inj hnext).symm⟩

lemma otherHandler_quiet (hne : toolName ≠ handoffTool) :
    QuietHandler toolName (otherHandler env) := by
  intro rows key r
  unfold otherHandler
  cases env.outcome r with
  | error e => exact Yields.raise fun _ _ => trivial
  | ok outcome =>
    refine Yields.pure fun s hs => ⟨hs, fun next hnext => ?_⟩
    dsimp only at hnext
    split_ifs at hnext
    exact follows_self hne hnext

lemma timelineEventCreate_quiet (hne : toolName ≠ handoffTool) :
    QuietHandler toolName (timelineEventCreate env scope) := by
  intro rows key r
  unfold timelineEventCreate
  dsimp only
  refine Yields.bind (R := fun _ s => Sees rows key s.session) ?_ fun _ => ?_
  · refine Yields.when (fun _ => ?_) fun _ s hs => hs
    exact (onSession_yields flush_sees).error fun _ _ => trivial
  refine Yields.bind (R := fun _ s => Sees rows key s.session)
    (Yields.write fun s hs => hs) fun _ => ?_
  exact Yields.pure fun s hs => ⟨hs, fun next hnext => follows_self hne hnext⟩

lemma enqueueWorkOrder_sees (job : WorkOrderJob) :
    Yields (fun s : AgentRows => Sees rows key s.session) (enqueueWorkOrder job)
      (fun _ s => Sees rows key s.session) fun _ => True := by
  unfold enqueueWorkOrder
  refine Yields.bind (R := fun _ s => Sees rows key s.session)
    (Yields.read fun s hs => hs) fun jobs => ?_
  refine Yields.when (fun _ => ?_) fun _ s hs => hs
  refine Yields.bind ((onSession_yields flush_sees).error fun _ _ => trivial) fun _ => ?_
  exact Yields.write fun s hs => hs

lemma workOrderCreate_quiet (hne : toolName ≠ handoffTool) :
    QuietHandler toolName (workOrderCreate env scope) := by
  intro rows key r
  have hfailure : ∀ code, Yields (fun s : AgentRows => Sees rows key s.session)
      (pure (failure r code) : AgentWork HandlerResult)
      (fun result s => Sees rows key s.session ∧
        ∀ next, result.caseContext = some next → Follows toolName r.caseContext next)
      fun _ => True := fun code =>
    Yields.pure fun s hs => ⟨hs, fun next hnext => follows_self hne hnext⟩
  unfold workOrderCreate
  cases scope.ticket with
  | none => exact hfailure _
  | some ticketId =>
    dsimp only
    refine Yields.ite (fun _ => hfailure _) fun _ => ?_
    refine Yields.bind (R := fun _ s => Sees rows key s.session)
      (Yields.read fun s hs => hs) fun contact => ?_
    refine Yields.ite (fun _ => hfailure _) fun _ => ?_
    refine Yields.ite (fun _ => hfailure _) fun _ => ?_
    refine Yields.ite (fun _ => hfailure _) fun _ => ?_
    refine Yields.bind (enqueueWorkOrder_sees _) fun _ => ?_
    exact Yields.pure fun s hs => ⟨hs, fun next hnext => follows_self hne hnext⟩

lemma boundHandler_quiet (h : buildAgentToolHandlers env scope toolName = some handler) :
    QuietHandler toolName handler := by
  have hne : toolName ≠ handoffTool := by
    rintro rfl
    have hnone : buildAgentToolHandlers env scope handoffTool = none := by
      unfold buildAgentToolHandlers
      rw [if_neg (by decide), if_neg (by decide +kernel)]
    rw [hnone] at h
    cases h
  unfold buildAgentToolHandlers at h
  split_ifs at h
  · cases h
    exact workOrderCreate_quiet hne
  · cases h
    exact otherHandler_quiet hne

lemma coreHandler_quiet
    (hne : toolName ≠ ticketTool) (h : coreHandlers env conversationId scope toolName = some handler) :
    QuietHandler toolName handler := by
  unfold coreHandlers at h
  rw [if_neg hne] at h
  split_ifs at h with hhandoff
  · cases h
    rw [hhandoff]
    exact handoffRequest_quiet
  · cases h
    exact timelineEventCreate_quiet hhandoff
  · cases h
    exact otherHandler_quiet hhandoff

lemma handler_cases {scope' : HandlerScope} (h : (buildAgentToolHandlers env scope' toolName).or
      (coreHandlers env conversationId scope toolName) = some handler) :
    (toolName = ticketTool ∧ handler = ticketCreate env conversationId scope) ∨
      (toolName ≠ ticketTool ∧ QuietHandler toolName handler) := by
  by_cases hticket : toolName = ticketTool
  · subst hticket
    have hbound : buildAgentToolHandlers env scope' ticketTool = none := by
      unfold buildAgentToolHandlers
      rw [if_neg (by decide), if_neg (by decide +kernel)]
    rw [hbound] at h
    exact Or.inl ⟨rfl, (Option.some.inj h).symm⟩
  · refine Or.inr ⟨hticket, ?_⟩
    cases hbound : buildAgentToolHandlers env scope' toolName with
    | some handler' =>
      rw [hbound] at h
      cases h
      exact boundHandler_quiet hbound
    | none =>
      rw [hbound] at h
      exact coreHandler_quiet hticket h

end Handlers

/-! ## a call -/

section Call
variable {conversationId : ℕ} {key : Option Text} {past : List CaseContext}

def tenantOfKey (key : Option Text) : Text := normalizeTenant (key.getD [])

structure MemoryOk (conversationId : ℕ) (key : Option Text) (past : List CaseContext)
    (session : Session) (calls : List AgentCallEntry) : Prop where
  sees : Sees session.pending.contexts key session
  placed : Placed conversationId (tenantOfKey key) session.pending.contexts
  remembers : ∀ c ∈ past ++ storedBy calls, ∃ i r, session.pending.contexts.get? i = some r ∧
    r.activeOf conversationId = true ∧ Remembers c r.toCaseContext

lemma Remembers.refl (c : CaseContext) : Remembers c c := ⟨id, id, fun _ => id⟩

lemma storedBy_append (calls later : List AgentCallEntry) :
    storedBy (calls ++ later) = storedBy calls ++ storedBy later := List.filterMap_append

variable {calls : List AgentCallEntry} {e : AgentCallEntry} {rows : Table CaseContextRecord}
  {c : CaseContext} {named : Option ℕ}

lemma mem_storedBy_append (h : c ∈ past ++ storedBy (calls ++ [e])) :
    c ∈ past ++ storedBy calls ∨ e.stored = some c := by
  rw [storedBy_append, ← List.append_assoc] at h
  rcases List.mem_append.1 h with h | h
  · exact Or.inl h
  · obtain ⟨x, hx, hc⟩ := List.mem_filterMap.1 h
    rw [List.mem_singleton.1 hx] at hc
    exact Or.inr hc

lemma MemoryOk.idle {session session' : Session}
    (h : MemoryOk conversationId key past session calls)
    (hsees : Sees session.pending.contexts key session') (he : e.stored = none) :
    MemoryOk conversationId key past session' (calls ++ [e]) := by
  have hrows := hsees.pending.1
  refine ⟨?_, ?_, ?_⟩
  · rw [hrows]
    exact hsees
  · rw [hrows]
    exact h.placed
  · intro c hc
    rw [hrows]
    rcases mem_storedBy_append hc with hc | hc
    · exact h.remembers c hc
    · rw [he] at hc
      cases hc

lemma memoryOk_of_holds {session : Session} {next : CaseContext} (hsees : Sees rows key session)
    (hholds : Holds conversationId (tenantOfKey key) next rows)
    (hpast : ∀ c ∈ past ++ storedBy calls, Remembers c next)
    (he : ∀ c, e.stored = some c → c = next) :
    MemoryOk conversationId key past session (calls ++ [e]) := by
  have hrows := hsees.pending.1
  refine ⟨?_, ?_, ?_⟩
  · rw [hrows]
    exact hsees
  · rw [hrows]
    exact hholds.placed
  · intro c hc
    rw [hrows]
    obtain ⟨i, r, hrow, hactive⟩ := hholds.found
    refine ⟨i, r, hrow, hactive, ?_⟩
    rw [hholds.is i r hrow hactive]
    rcases mem_storedBy_append hc with hc | hc
    · exact hpast c hc
    · rw [he c hc]
      exact Remembers.refl next

lemma createOrReuseTicket_context {env : TicketEnv} {a : AutoTicketCall}
    (htenant : normalizeTenant (tenantOfKey key) = tenantOfKey key) :
    Yields (fun s => Sees rows key s ∧ s.pending.conversation.ticketId = named)
      (createOrReuseTicket env conversationId a)
      (fun r s => (Sees (transitionRows env.now (tenantOfKey key) a.caseContext conversationId
          r.ticketId rows) key s) ∧
        (TicketContext a conversationId r.caseContext r.ticketId ∧
          ∀ t, named = some t → r.ticketId = t)) fun _ => True := by
  rintro s ⟨hsees, hnamed⟩
  have hcontexts : Yields (Sees rows key) (createOrReuseTicket env conversationId a)
      (SeesTicket env (tenantOfKey key) a conversationId rows key) fun _ => True :=
    createOrReuseTicket_sees
  have hboth := (hcontexts.and createOrReuseTicket_spec) s
    ⟨hsees, hsees.active, hsees.synced, hnamed, rfl⟩
  cases hrun : createOrReuseTicket env conversationId a s with
  | mk r t =>
    rw [hrun] at hboth
    cases r with
    | error e => trivial
    | ok r =>
      obtain ⟨⟨hsees', hcontext⟩, ⟨-, -, -, hnext⟩, -⟩ := hboth
      change Sees (transitionRows env.now (normalizeTenant (tenantOfKey key)) a.caseContext
        conversationId r.ticketId rows) key t at hsees'
      rw [htenant] at hsees'
      refine ⟨hsees', hcontext, ?_⟩
      rintro ticketId rfl
      rcases hnext with ⟨-, hsame⟩ | ⟨hnone, -⟩
      · exact hsame ticketId rfl
      · cases hnone

lemma ticketCreate_sees {env : AgentEnv} {scope : HandlerScope} {r : ActionExecutionRequest}
    (htenant : normalizeTenant (tenantOfKey key) = tenantOfKey key) :
    Yields (fun s : AgentRows => Sees rows key s.session ∧
        s.session.pending.conversation.ticketId = named)
      (ticketCreate env conversationId scope r) (fun result s => ∃ ticketId,
        Sees (transitionRows env.tickets.now (tenantOfKey key) r.caseContext conversationId ticketId
          rows) key s.session ∧
        result.caseContext = some (r.caseContext.onTicket conversationId ticketId) ∧
        ∀ t, named = some t → ticketId = t) fun _ => True := by
  unfold ticketCreate
  dsimp only
  refine Yields.bind (onSession_yields (createOrReuseTicket_context htenant)) fun result => ?_
  refine Yields.assume fun ⟨hcontext, hnamed⟩ => ?_
  refine Yields.bind (onSession_yields (E := fun _ => True)
    (pointConversation_sees result.ticketId)) fun _ => ?_
  refine Yields.pure fun s hs => ⟨result.ticketId, hs, ?_, hnamed⟩
  exact congrArg some hcontext.target

variable {env : RunEnv} {ctx : AgentExecutionContext} {call : AgentToolCall}
  {s : AgentDb AgentRows}

variable {next : CaseContext} {e : AgentCallEntry} {rt : AgentRuntime AgentRows} {toolName : Text}
  {rows' : AgentRows}

lemma startContext_active (h : Follows toolName (startContext rt ctx) next) :
    next.conversationId = some (rt.conversationId : ℤ) ∧ next.incomingActive = true ∧
      next.ticketId = ctx.ticketId.map Int.ofNat := by
  rcases h with ⟨-, rfl⟩ | ⟨-, summary, rfl⟩
  · exact ⟨rfl, rfl, rfl⟩
  · exact ⟨rfl, rfl, rfl⟩

lemma remembers_of_facts {c d : CaseContext} (hnext : Follows toolName c next)
    (hne : toolName ≠ ticketTool)
    (hfacts : (d.handoffRequested = true → toolName = handoffTool) ∧
      (d.ticketCreated = true → toolName = ticketTool) ∧
      ∀ ref, d.safeTrackingReference = some ref → c.safeTrackingReference = some ref) :
    Remembers d next := by
  obtain ⟨hhandoff, hticket, htracking⟩ := hfacts
  refine ⟨fun h => ?_, fun h => absurd (hticket h) hne, fun ref h => ?_⟩
  · rcases hnext with ⟨hother, rfl⟩ | ⟨-, summary, rfl⟩
    · exact absurd (hhandoff h) hother
    · rfl
  · rcases hnext with ⟨-, rfl⟩ | ⟨-, summary, rfl⟩
    · exact htracking ref h
    · exact htracking ref h

lemma stored_of_answer {result : ActionExecutionResult}
    (hanswer : e.answer = some (.ran (some result))) (h : e.stored = some c) :
    result.caseContext = some c := by
  unfold AgentCallEntry.stored at h
  rw [hanswer] at h
  dsimp only at h
  split_ifs at h
  exact h

lemma stored_of_not_ran (h : e.handlerRan = false) : e.stored = none := by
  unfold AgentCallEntry.stored
  unfold AgentCallEntry.handlerRan at h
  cases hanswer : e.answer with
  | none => rfl
  | some answer =>
    cases answer with
    | ran r =>
      rw [hanswer] at h
      cases h
    | gate | registry | duplicate | executor => rfl

lemma saveCaseContext_run {t : AgentRows} {rows : Table CaseContextRecord}
    (hsees : Sees rows key rows'.session) (hc : next.conversationId ≠ none)
    (h : (agentBackend env.toAgentEnv conversationId).saveCaseContext next (key.getD []) rows' =
      (.ok (), t)) :
    Sees (saveRows env.tickets.now (tenantOfKey key) next rows) key t.session := by
  exact (onSession_yields (saveCaseContext_sees hc)).of_ok hsees h

lemma returned_memory (htenant : normalizeTenant (tenantOfKey key) = tenantOfKey key)
    (hs : MemoryOk conversationId key past s.session s.calls)
    (hrt : rt = env.runtime conversationId (key.getD []))
    (hsafe : SafeSave conversationId rt ctx past call s) {handler : Handler AgentRows}
    {result : HandlerResult} {t : ToolDb AgentRows}
    (hfresh : Fresh rt.backend rt.conversationId (callRequest rt ctx call s) (callAction rt call)
      s.tools)
    (hrefusal : requestRefusal rt.backend (callRequest rt ctx call s) (callAction rt call) s.tools =
      none)
    (hhandler : actionHandler rt.backend (callRequest rt ctx call s)
      (requestPlace rt.backend (callRequest rt ctx call s) s.tools) (callAction rt call) =
        some handler)
    (hrun : handlerRun rt.backend (callRequest rt ctx call s) (callAction rt call) s.tools handler =
      (.ok result, rows'))
    (hsaved : savedAfter rt.backend (callRequest rt ctx call s) result rows' = (.ok (), t.rows))
    (he : ∀ c, e.stored = some c → result.caseContext = some c) :
    MemoryOk conversationId key past t.rows.session (s.calls ++ [e]) := by
  subst hrt
  have hplace := hsafe.place hfresh hrefusal
  have hfacts := hsafe.facts hfresh hrefusal
  unfold savedAfter at hsaved
  unfold handlerRun at hrun
  rcases handler_cases hhandler with ⟨hname, rfl⟩ | ⟨hname, hquiet⟩
  · obtain ⟨ticketId, hsees, hnext, hnamed⟩ := (ticketCreate_sees htenant).of_ok
      (s := s.tools.rows) ⟨hs.sees, rfl⟩ hrun
    rw [hnext] at hsaved
    have hholds := transitionRows_holds env.tickets.now hs.placed ticketId
      (c := startContext (env.runtime conversationId (key.getD [])) ctx) rfl fun i r hrow hractive => by
        rcases hplace i r hrow hractive with hthis | ⟨-, t, ht, hthis⟩
        · exact Or.inl ⟨rfl, hthis⟩
        · rw [hnamed t ht]
          exact Or.inr hthis
    have hsees' := saveCaseContext_run hsees (by nofun) hsaved
    have hholds' := saveRows_holds env.tickets.now hholds.placed rfl rfl fun i r hrow hr => by
      rw [hholds.is i r hrow hr]
    refine memoryOk_of_holds hsees' hholds' ?_ ?_
    · intro d hd
      obtain ⟨hhandoff, -, htracking⟩ := hfacts d hd
      refine ⟨fun h => ?_, fun _ => rfl, htracking⟩
      exact absurd (hname.symm.trans (hhandoff h)) (by decide)
    · intro c hc
      exact Option.some.inj ((he c hc).symm.trans hnext)
  · obtain ⟨hsees, hfollows⟩ := (hquiet _ _ _).of_ok (s := s.tools.rows) hs.sees hrun
    cases hnext : result.caseContext with
    | none =>
      rw [hnext] at hsaved
      cases hsaved
      refine hs.idle hsees ?_
      cases hstored : e.stored with
      | none => rfl
      | some c =>
        rw [he c hstored] at hnext
        cases hnext
    | some next =>
      rw [hnext] at hsaved
      have hfollows := hfollows next hnext
      obtain ⟨hconversation, hactive, hticket⟩ := startContext_active hfollows
      have hsees' := saveCaseContext_run hsees (by rw [hconversation]; nofun) hsaved
      refine memoryOk_of_holds hsees' (saveRows_holds _ hs.placed hconversation hactive ?_) ?_ ?_
      · intro i r hrow hractive
        rw [hticket]
        rcases hplace i r hrow hractive with hthis | ⟨hthis, -⟩
        · exact hthis
        · exact absurd hthis hname
      · intro c hc
        exact remembers_of_facts hfollows hname (hfacts c hc)
      · intro c hc
        rw [he c hc] at hnext
        exact Option.some.inj hnext

lemma executeOne_memory (htenant : normalizeTenant (tenantOfKey key) = tenantOfKey key)
    (hs : MemoryOk conversationId key past s.session s.calls)
    (hsafe : SafeSave conversationId (env.runtime conversationId (key.getD [])) ctx past call s) :
    Yields (· = s) (executeOne (env.runtime conversationId (key.getD [])) ctx call)
      (fun _ t => MemoryOk conversationId key past t.session t.calls) fun _ => True := by
  rintro _ rfl
  rename_i s
  generalize hrt : env.runtime conversationId (key.getD []) = rt at hsafe
  rcases @executeOne_cases _ rt ctx s call with ⟨-, heq⟩ | ⟨-, r, t, houtcome, -, heq⟩
  · rw [heq]
    refine hs.idle hs.sees (stored_of_not_ran ?_)
    unfold AgentCallEntry.handlerRan callEntry
    rw [List.drop_length]
    rfl
  · rw [heq]
    unfold settledCall
    cases r with
    | error e => trivial
    | ok results =>
      dsimp only
      unfold AgentDb.session
      rw [settleResult_tools, settleResult_calls]
      unfold answeredState
      dsimp only
      cases houtcome with
      | refused answer code t hanswer hadds hrows =>
        rw [hrows]
        refine hs.idle hs.sees (stored_of_not_ran (not_handlerRan (callEntry_answer hadds) ?_))
        intro r h
        rcases hanswer with rfl | rfl <;> cases h
      | duplicate log t hlog hadds hrows | stopped status code t hfresh hstopped hadds hrows =>
        rw [hrows]
        refine hs.idle hs.sees (stored_of_not_ran (not_handlerRan (callEntry_answer hadds) ?_))
        intro r h
        cases h
      | returned handler result rows t hfresh hrefusal hhandler hrun hsaved hadds =>
        exact returned_memory htenant hs hrt.symm hsafe hfresh hrefusal hhandler hrun hsaved
          fun c hc => stored_of_answer (callEntry_answer hadds) hc

end Call

/-! ## whole runs -/

section Worlds
variable {conversationId : ℕ} {key : Option Text} {w : MemoryWorld}

structure MemoryWorldOk (conversationId : ℕ) (key : Option Text) (w : MemoryWorld) : Prop where
  memory : MemoryOk conversationId key w.tickets w.db.session w.db.calls

lemma MemoryWorldOk.tenantKey (h : MemoryWorldOk conversationId key w) :
    w.store.conversation.tenantKey = key := h.memory.sees.pending.2

variable {past : List CaseContext} {session : Session} {calls : List AgentCallEntry} {d : Store}
  {i : ℕ} {r : CaseContextRecord}

lemma MemoryOk.start (h : MemoryOk conversationId key past session calls)
    (hcontexts : d.contexts = session.pending.contexts) (hkey : d.conversation.tenantKey = key)
    (answers : List (Option OsrError)) :
    MemoryOk conversationId key past (Session.start d answers) calls := by
  refine ⟨⟨rfl, fun _ => rfl, ⟨rfl, hkey⟩, ⟨rfl, hkey⟩⟩, ?_, ?_⟩
  · show Placed _ _ d.contexts
    rw [hcontexts]
    exact h.placed
  · intro c hc
    show ∃ i r, d.contexts.get? i = some r ∧ _
    rw [hcontexts]
    exact h.remembers c hc

lemma storedBy_undo (calls : List AgentCallEntry) : storedBy (calls.map .undo) = [] := by
  unfold storedBy
  rw [List.filterMap_eq_nil_iff]
  intro e he
  obtain ⟨x, -, rfl⟩ := List.mem_map.1 he
  unfold AgentCallEntry.stored AgentCallEntry.undo
  dsimp only
  split
  · rw [if_neg (by simp)]
  · rfl

lemma MemoryOk.undo
    (h : MemoryOk conversationId key past session calls) (later : List AgentCallEntry) :
    MemoryOk conversationId key past session (calls ++ later.map .undo) := by
  refine ⟨h.sees, h.placed, ?_⟩
  rw [storedBy_append, storedBy_undo, List.append_nil]
  exact h.remembers

lemma MemoryOk.ticket {session' : Session}
    {env : TicketEnv} {a : AutoTicketCall} {r : AutoTicketResult}
    (h : MemoryOk conversationId key past session calls) (hclosed : a.caseContext.closedAt = none)
    (hplace : ∀ i r, session.pending.contexts.get? i = some r → r.activeOf conversationId = true →
      (a.caseContext.conversationId = some (conversationId : ℤ) ∧
        r.ticketId = a.caseContext.ticketId) ∨ ∃ n, (a.caseContext.ticketId = some n ∨
          session.pending.conversation.ticketId.map Int.ofNat = some n) ∧ r.ticketId = some n)
    (hfacts : ∀ d ∈ past ++ storedBy calls,
      (d.handoffRequested = true → a.caseContext.handoffRequested = true) ∧
      ∀ ref, d.safeTrackingReference = some ref → a.caseContext.safeTrackingReference = some ref)
    (hsees : Sees (transitionRows env.now (tenantOfKey key) a.caseContext conversationId r.ticketId
      session.pending.contexts) key session')
    (hcontext : TicketContext a conversationId r.caseContext r.ticketId)
    (hnamed : ∀ t, session.pending.conversation.ticketId = some t → r.ticketId = t) :
    MemoryOk conversationId key (past ++ [r.caseContext]) session' calls := by
  have hholds := transitionRows_holds env.now h.placed r.ticketId hclosed fun i row hrow hactive => by
      rcases hplace i row hrow hactive with hthis | ⟨n, hn, hthis⟩
      · exact Or.inl hthis
      · refine Or.inr (hthis.trans (congrArg some ?_))
        rcases hn with hn | hn
        · exact hcontext.ticket n hn
        · obtain ⟨t, ht, rfl⟩ := Option.map_eq_some_iff.1 hn
          exact congrArg Int.ofNat (hnamed t ht).symm
  rw [← hcontext.target] at hholds
  have hrows := hsees.pending.1
  refine ⟨?_, ?_, ?_⟩
  · rw [hrows]
    exact hsees
  · rw [hrows]
    exact hholds.placed
  · intro c hc
    rw [hrows]
    obtain ⟨i, row, hrow, hactive⟩ := hholds.found
    refine ⟨i, row, hrow, hactive, ?_⟩
    rw [hholds.is i row hrow hactive]
    have hold : c ∈ past ++ storedBy calls ∨ c = r.caseContext := by
      rcases List.mem_append.1 hc with hc | hc
      · rcases List.mem_append.1 hc with hc | hc
        · exact Or.inl (List.mem_append_left _ hc)
        · exact Or.inr (List.mem_singleton.1 hc)
      · exact Or.inl (List.mem_append_right _ hc)
    rcases hold with hold | rfl
    · obtain ⟨hhandoff, htracking⟩ := hfacts c hold
      rw [hcontext.target]
      exact ⟨hhandoff, fun _ => rfl, htracking⟩
    · exact Remembers.refl _

lemma memoryStep_ok (htenant : normalizeTenant (tenantOfKey key) = tenantOfKey key)
    (h : MemoryWorldOk conversationId key w) {e : MemoryStep}
    (hsafe : SafeMemory conversationId w e) :
    MemoryWorldOk conversationId key (memoryStep conversationId e w) := by
  have hstart : ∀ answers, MemoryOk conversationId key w.tickets
      (Session.start w.store answers) w.db.calls := fun answers =>
    h.memory.start rfl h.tenantKey answers
  cases e with
  | begin => exact ⟨h.memory⟩
  | change f =>
    constructor
    let d := (f w.db).session.pending
    exact h.memory.start (d := { d with
      contexts := w.store.contexts
      conversation := { d.conversation with tenantKey := w.store.conversation.tenantKey } })
      rfl h.tenantKey []
  | calls env run ctx calls answers commits =>
    unfold memoryStep
    dsimp only
    cases hrun : w.runs[run]? with
    | none => exact h
    | some ticketId =>
      have hcalls := hsafe ticketId hrun
      unfold MemoryWorld.runtime at hcalls ⊢
      rw [h.tenantKey] at hcalls ⊢
      constructor
      refine callRound_keeps (s := w.opened answers)
        (I := fun t => MemoryOk conversationId key w.tickets t.session t.calls)
        (E := fun _ => True) (fun call s hs hcall => executeOne_memory htenant hs hcall)
        (fun _ _ => trivial) (fun t later _ _ => ?_) (hstart answers) hcalls
      exact (hstart answers).undo later
  | ticket env a answers commits =>
    unfold memoryStep
    dsimp only
    cases hrun : createOrReuseTicket env conversationId a (Session.start w.store answers) with
    | mk r session =>
      cases r with
      | error e => exact h
      | ok r =>
        dsimp only
        split_ifs
        · obtain ⟨hsees, hcontext, hnamed⟩ := (createOrReuseTicket_context htenant).of_ok
            ⟨(hstart answers).sees, rfl⟩ hrun
          exact ⟨(hstart answers).ticket hsafe.wanted hsafe.place hsafe.facts hsees hcontext hnamed⟩
        · exact h

/-! ### what is loaded -/

lemma dedup_of_forall_eq {l : List Text} {x : Text} (h : ∀ y ∈ l, y = x) (hx : x ∈ l) :
    l.dedup = [x] := by
  rw [List.eq_replicate_of_mem h]
  refine List.replicate_dedup ?_
  rintro hzero
  rw [List.length_eq_zero_iff.1 hzero] at hx
  cases hx

lemma resolveTenant_eq (htenant : normalizeTenant (tenantOfKey key) = tenantOfKey key)
    (hkey : d.conversation.tenantKey = key)
    (hplaced : Placed conversationId (tenantOfKey key) d.contexts)
    (hrow : d.contexts.get? i = some r) (hr : r.activeOf conversationId = true) :
    resolveTenant d conversationId = .ok (some (tenantOfKey key)) := by
  have hconversation := (activeOf_iff.1 hr).1
  -- the tenants of the conversation's rows
  have hrows : ((d.contexts.select fun _ r => r.conversationId = some (conversationId : ℤ)).map
      fun r => r.2.tenantId).dedup = [tenantOfKey key] := by
    refine dedup_of_forall_eq ?_ ?_
    · intro tenant hmem
      obtain ⟨x, hx, rfl⟩ := List.mem_map.1 hmem
      obtain ⟨hxrow, hxconversation⟩ := d.contexts.mem_select.1 hx
      exact hplaced.tenant x.1 x.2 hxrow (of_decide_eq_true hxconversation)
    · refine List.mem_map.2 ⟨(i, r), d.contexts.mem_select.2 ⟨hrow, ?_⟩, ?_⟩
      · exact decide_eq_true hconversation
      · exact hplaced.tenant i r hrow hconversation
  unfold resolveTenant
  rw [hkey, hrows]
  cases key with
  | none => exact congrArg (fun t => Except.ok (some t)) htenant
  | some k =>
    cases k with
    | nil => exact congrArg (fun t => Except.ok (some t)) htenant
    | cons c k => rfl

lemma loadCaseContext_eq {rows : Table CaseContextRecord} {tenantId : Text} {now : Instant}
    (h : Placed conversationId tenantId rows) (hrow : rows.get? i = some r)
    (hr : r.activeOf conversationId = true) :
    loadCaseContext rows now tenantId conversationId = .ok (some r.toCaseContext) := by
  have honly : ∀ j a, rows.get? j = some a → a.activeOf conversationId = true → j = i :=
    fun j a ha hactive => h.unique j i a r ha hrow hactive hr
  have hconversation := (activeOf_iff.1 hr).1
  have htenant := h.tenant i r hrow hconversation
  unfold loadCaseContext
  cases hticket : r.ticketId with
  | none =>
    rw [Table.select_eq_singleton rows hrow]
    · rfl
    · exact Bool.and_eq_true_iff.2 ⟨isFor_iff.2 ⟨htenant, hconversation, hticket⟩,
        h.readable hrow hr⟩
    · intro j a ha hp
      obtain ⟨hfor, hreadable⟩ := Bool.and_eq_true_iff.1 hp
      exact honly j a ha (activeOf_iff.2 ⟨(isFor_iff.1 hfor).2.1, isActive_of_readable hreadable⟩)
  | some t =>
    have hnone : (rows.select fun _ r => r.isFor tenantId (some conversationId) none &&
        r.readable now) = [] := by
      rw [List.eq_nil_iff_forall_not_mem]
      rintro ⟨j, a⟩ hmem
      obtain ⟨ha, hp⟩ := rows.mem_select.1 hmem
      obtain ⟨hfor, hreadable⟩ := Bool.and_eq_true_iff.1 hp
      have hj := honly j a ha (activeOf_iff.2 ⟨(isFor_iff.1 hfor).2.1,
        isActive_of_readable hreadable⟩)
      subst hj
      cases hrow.symm.trans ha
      rw [(isFor_iff.1 hfor).2.2] at hticket
      cases hticket
    rw [hnone, Table.select_eq_singleton rows hrow]
    · rfl
    · simp [htenant, hconversation, hticket, h.readable hrow hr]
    · intro j a ha hp
      simp only [Bool.and_eq_true, decide_eq_true_eq] at hp
      exact honly j a ha (activeOf_iff.2 ⟨hp.1.1.2, isActive_of_readable hp.2⟩)

lemma MemoryWorldOk.allRemembered (htenant : normalizeTenant (tenantOfKey key) = tenantOfKey key)
    (h : MemoryWorldOk conversationId key w) : Remembered conversationId w := by
  have hplaced : Placed conversationId (tenantOfKey key) w.store.contexts := h.memory.placed
  constructor
  · have hcases := w.store.contexts.select_cases (p := fun _ r => r.activeOf conversationId)
      hplaced.unique
    unfold Table.count
    rcases hcases with hnil | ⟨r, hr⟩
    · rw [hnil]
      exact Nat.zero_le _
    · rw [hr]
      exact le_refl _
  · intro c hc now
    obtain ⟨i, r, hrow, hr, hremembers⟩ := h.memory.remembers c hc
    refine ⟨r.toCaseContext, ?_, hremembers⟩
    unfold loadConversation
    rw [resolveTenant_eq htenant h.tenantKey hplaced hrow hr]
    exact loadCaseContext_eq hplaced hrow hr

end Worlds

/-- a conversation without contexts yet; others have theirs. -/
def MemoryWorld.Blank (conversationId : ℕ) (w : MemoryWorld) : Prop :=
  (∀ i r, w.store.contexts.get? i = some r → r.conversationId ≠ some (conversationId : ℤ)) ∧
    w.stored = [] ∧ ∃ d answers, w.db.session = Session.start d answers

/-- in every run whose calls start from a context in the active one's place and say again what was
stored. -/
theorem remembered (conversationId : ℕ) (w : MemoryWorld) (l : List MemoryStep)
    (hblank : w.Blank conversationId)
    (htenant : normalizeTenant (tenantOfConversation w.store.conversation) =
      tenantOfConversation w.store.conversation)
    (hsafe : Along (memoryStep conversationId) (SafeMemory conversationId) w l) :
    Remembered conversationId (run (memoryStep conversationId) w l) := by
  obtain ⟨hnone, hstored, d, answers, hsession⟩ := hblank
  have hstart : MemoryWorldOk conversationId w.store.conversation.tenantKey w := by
    unfold MemoryWorld.store at hnone ⊢
    refine ⟨⟨?_, ⟨?_, ?_, ?_⟩, ?_⟩⟩
    · rw [hsession]
      exact ⟨rfl, fun _ => rfl, ⟨rfl, rfl⟩, ⟨rfl, rfl⟩⟩
    · intro i r hrow hconversation
      exact absurd hconversation (hnone i r hrow)
    · intro i r hrow hr
      exact absurd (activeOf_iff.1 hr).1 (hnone i r hrow)
    · intro i j a b ha hb hia
      exact absurd (activeOf_iff.1 hia).1 (hnone i a ha)
    · intro c hc
      change c ∈ w.stored at hc
      rw [hstored] at hc
      cases hc
  exact (Along.invariant (I := MemoryWorldOk conversationId w.store.conversation.tenantKey)
    (fun w e hw he => memoryStep_ok htenant hw he) hstart hsafe).allRemembered htenant

/-! ## samples -/

def sampleRunEnv : RunEnv where
  toAgentEnv := sampleToolEnv
  restricted := fun _ _ => false
  trackingReference := fun _ => none
  excerpt := fun s n => s.take n

def memoryContext : AgentExecutionContext :=
  { sampleContext with
    allowedTools := ["knowledge.search", "handoff.request.create"].map String.toList
    grantedPermissions := ["knowledge:read", "webchat:handoff:create"].map String.toList }

def handoffCall : AgentToolCall where
  contract :=
    { name := handoffTool, classification := .system
      requiredPermissions := ["webchat:handoff:create".toList]
      riskLevel := .medium, allowedAutoExecutionMode := .policyGated }
  registered := by decide +kernel
  arguments := [("reason".toList, .str "customer asks".toList)]

def searchCall : AgentToolCall where
  contract :=
    { name := "knowledge.search".toList, classification := .read
      requiredPermissions := ["knowledge:read".toList] }
  registered := by decide +kernel
  arguments := [("query".toList, .str "customs".toList)]

def memoryStart : MemoryWorld where
  db := sampleStart (["knowledge.search", "handoff.request.create"].map fun name =>
    { toolName := name.toList, aiAutoExecutable := true })
  runs := []
  tickets := []

def memoryCalls (calls : List AgentToolCall) : MemoryStep :=
  .calls sampleRunEnv 0 memoryContext calls [] true

def memoryTicket : MemoryStep :=
  .ticket sampleToolEnv.tickets
    { caseContext := { conversationId := some 1 }, customer := some (.stored 1) } [] true

def sampleMemory (l : List MemoryStep) : MemoryWorld := run (memoryStep 1) memoryStart l

lemma memoryRun_safe : Along (memoryStep 1) (SafeMemory 1) memoryStart
    [.begin, memoryCalls [handoffCall]] := by
  refine along_cons.2 ⟨trivial, along_cons.2 ⟨?_, trivial⟩⟩
  intro ticketId hrun
  refine ⟨⟨fun _ _ i r hrow => ?_, fun _ _ d hd => ?_⟩, ?_⟩
  · cases hrow
  · cases hd
  · cases executeOne _ _ handoffCall _ with
    | mk r t => cases r <;> trivial

theorem handoff_remembered :
    Remembered 1 (run (memoryStep 1) memoryStart [.begin, memoryCalls [handoffCall]]) ∧
      ∃ c ∈ (sampleMemory [.begin, memoryCalls [handoffCall]]).stored, c.handoffRequested = true := by
  constructor
  · refine remembered 1 memoryStart _ ⟨?_, rfl, _, _, rfl⟩ (by decide +kernel) memoryRun_safe
    intro i r hrow
    cases hrow
  · decide +kernel

/-- the next call forgets a handoff; and a run that began before the ticket opens a second context. -/
theorem contexts_forget :
    ¬ Remembered 1 (sampleMemory [.begin, memoryCalls [handoffCall, searchCall]]) ∧
    ¬ Remembered 1 (sampleMemory [.begin, memoryTicket, memoryCalls [searchCall]]) := by
  refine ⟨fun h => ?_, fun h => ?_⟩
  · have hloaded : ∀ c ∈ (sampleMemory [.begin, memoryCalls [handoffCall, searchCall]]).stored,
        c.handoffRequested = true →
        (loadConversation (sampleMemory [.begin, memoryCalls [handoffCall,
          searchCall]]).store 1 0).toOption.join.any (·.handoffRequested) = true := by
      intro c hc hhandoff
      obtain ⟨d, hd, hremembers⟩ := h.loaded c hc 0
      rw [hd]
      exact hremembers.handoff hhandoff
    exact absurd hloaded (by decide +kernel)
  · exact absurd h.single (by decide +kernel)

end NexusHelpdesk.Osr
