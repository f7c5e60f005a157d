import NexusHelpdesk.Handoff.Open
import NexusHelpdesk.Handoff.Snapshot
import NexusHelpdesk.Osr.Confirmed

/-!
# Acknowledged handoffs (`agent_runtime/runtime.py`, `webchat_ai_service.py`)

* `deskHandoffRequest`: the handler of `handoff.request.create` on the desk's own rows;
* `HandoffStep`, `handoffStep`: Agent runs, their rounds of calls and their reply jobs, between the
  services of the desk;
* `HandoffEvent.Holds`: an acknowledged handoff is an open request;
* `SafeHandoff`: the conditions on a step;
* `acknowledged_exists`: **they are enough in every run**.
-/

namespace NexusHelpdesk.Osr

open Lib Cases Handoff

/-! ## tools on the desk -/

/-- what is around the calls of an Agent; the other handlers write no handoff. -/
structure DeskEnv where
  py : PyText
  schemaOk : Text → List (Text × PyValue) → Bool
  redact : Json → ℕ → Text
  tenantKey : Text
  channelKey : Text
  ticketCountry : Desk → ℕ → Option (Option Text)
  ticketCustomer : Desk → ℕ → Option ℕ
  customerForContext : Desk → Option ℕ → Option ℕ
  restricted : Desk → Option ℕ → Bool
  trackingReference : Text → Option (Text × Text)
  excerpt : Text → ℕ → Text
  outcome : ActionExecutionRequest → Desk → Except OsrError HandlerOutcome
  /-- the tickets that a handler leaves, and the one that it gives the conversation. -/
  tickets : ActionExecutionRequest → Desk → Table NexusHelpdesk.Ticket × Option ℕ
  saveError : CaseContext → Text → Desk → Option OsrError

/-- the desk's error, as it leaves a handler. -/
def refusalError : Refusal → OsrError
  | .http _ detail => .runtime detail
  | .conflict code => .runtime code
  | .crash error => .runtime error

section Handlers
variable (env : DeskEnv) (cid : ℕ)

def deskHandoffRequest : Handler Desk := fun r d =>
  let reason := match r.argument "reason" with
    | none => []
    | some .null => []
    | some value => env.redact value 160
  let reason := textOr (some reason) "human_review_required"
  match requestHandoff cid d with
  | (.ok _, t) => (.ok (executed "executed"
      (r.caseContext.markHandoffRequested (some (env.redact (.str reason) 500))) executed_ne), t)
  | (.error e, t) => (.error (refusalError e), t)

def deskOtherHandler : Handler Desk := fun r d =>
  let left := env.tickets r d
  let t := ({ d with tickets := left.1 } : Desk).setConversation cid fun c =>
    { c with ticketId := left.2 }
  match env.outcome r d with
  | .error e => (.error e, t)
  | .ok outcome => (.ok ⟨outcome.ok, outcome.status,
      if outcome.keepsContext = true then some r.caseContext else none, outcome.errorCode,
      outcome.answers⟩, t)

def coreToolNames : List Text :=
  ["knowledge.search", "support.availability", "speedaf.order.query",
    "speedaf.express.track.query", "speedaf.order.waybillCode.query", "ticket.create",
    "timeline.event.create"].map String.toList

/-- the tools of `build_agent_tool_handlers`. -/
def extensionToolNames : List Text :=
  ["knowledge.search", "support.availability", "speedaf.workOrder.create", "integration.search",
    "integration.read", "integration.write", "specialist.delegate"].map String.toList

def deskHandlers (toolName : Text) : Option (Handler Desk) :=
  if toolName = handoffTool then some (deskHandoffRequest env cid)
  else if toolName ∈ coreToolNames then some (deskOtherHandler env cid)
  else none

def deskExtensions (toolName : Text) : Option (Handler Desk) :=
  if toolName ∈ extensionToolNames then some (deskOtherHandler env cid) else none

def DeskEnv.runtime : AgentRuntime Desk where
  backend :=
    { py := env.py
      schemaOk := env.schemaOk
      productionHandlers := fun _ => deskHandlers env cid
      ticketCountry := env.ticketCountry
      conversationTicket := fun d => (d.conversations.get? cid).bind (·.ticketId)
      conversationChannel := fun _ => env.channelKey
      customerForContext := env.customerForContext
      saveCaseContext := fun c tenantId d =>
        match env.saveError c tenantId d with
        | some e => (.error e, d)
        | none => (.ok (), d) }
  conversationId := cid
  tenantKey := env.tenantKey
  agentHandlers := fun _ => deskExtensions env cid
  ticketCustomer := env.ticketCustomer
  restricted := env.restricted
  trackingReference := env.trackingReference
  redact := env.excerpt

end Handlers

/-! ## runs -/

/-- an observation that `_committed_handoff_observed` looks for. -/
def AgentCallEntry.acknowledgesHandoff (e : AgentCallEntry) : Bool :=
  match e.result with
  | some r => !e.undone && r.toolName = handoffTool && r.ok &&
      (r.status = "executed" || r.status = "duplicate")
  | none => false

structure HandoffRun where
  /-- the job has picked a turn. -/
  turn : Bool
  committedHandoff : Bool
  /-- the requests that calls of the job's runs have added. -/
  created : List ℕ
  ended : Bool

/-- what a run or its job has told, with the desk at that time. -/
inductive HandoffEvent where
  /-- a tool transaction commits. -/
  | committed (acknowledged : Bool) (desk : Desk)
  /-- a run has a result. -/
  | finished (handoffRequired : Bool) (desk : Desk)
  /-- the job commits an AI reply. -/
  | replied (created : List ℕ) (desk : Desk)

structure HandoffWorld where
  db : AgentDb Desk
  runs : List HandoffRun
  history : List HandoffEvent

def HandoffWorld.desk (w : HandoffWorld) : Desk := w.db.tools.rows

def HandoffWorld.withDesk (w : HandoffWorld) (d : Desk) : HandoffWorld :=
  { w with db := { w.db with tools := { w.db.tools with rows := d } } }

structure FinalDecision where
  nextAction : String
  handoffRequired : Bool

inductive RunEnding where
  | decision (d : FinalDecision)
  | fallback
  /-- `run_agent_with_db` raises. -/
  | raised

def RunEnding.handoffRequired (committedHandoff : Bool) : RunEnding → Option Bool
  | .decision d =>
    -- `_terminal_decision`
    if (d.nextAction = "request_handoff" ∨ d.handoffRequired = true) ∧ committedHandoff = false then
      some false
    else some committedHandoff
  | .fallback => some false
  | .raised => none

/-- what follows a run in `process_webchat_ai_reply_job`: a reply is committed. `stale` says that a
newer message is there. -/
def commitsReply (cid : ℕ) (turn stale : Bool) (d : Desk) : Bool :=
  match d.conversations.get? cid with
  | none => false
  | some c =>
    -- `_committed_handoff_owns_conversation`
    if turn = true ∧ c.isAiSuspendedForHandoff = true then false
    -- `suppress_stale_reply_if_needed`
    else if turn = true ∧ stale = true then false
    else true

inductive HandoffStep where
  /-- a service of the desk, for an operator, a visitor or a call. -/
  | desk (s : Handoff.Step)
  /-- what others do to policies, logs and confirmations. -/
  | change (f : AgentDb Desk → AgentDb Desk)
  /-- a reply job starts a run; `earlier` is the run of its last attempt. -/
  | start (turn : Bool) (earlier : Option ℕ)
  | calls (env : DeskEnv) (number : ℕ) (ctx : AgentExecutionContext) (calls : List AgentToolCall)
      (commits : Bool)
  | finish (number : ℕ) (ending : RunEnding)
  | reply (number : ℕ) (stale : Bool)

section Steps
variable (cid : ℕ)

def addedRequests (d t : Desk) : List ℕ :=
  List.range' d.requests.next (t.requests.next - d.requests.next)

/-- what a round leaves; after an error the run ends in a fallback. -/
def HandoffWorld.round (w : HandoffWorld) (env : DeskEnv) (number : ℕ) (run : HandoffRun)
    (ctx : AgentExecutionContext) (calls : List AgentToolCall) (commits : Bool) : HandoffWorld :=
  let db := callRound (env.runtime cid) ctx calls commits w.db
  let acknowledged :=
    (db.calls.drop w.db.calls.length).any AgentCallEntry.acknowledgesHandoff
  let run := { run with
    committedHandoff := run.committedHandoff || acknowledged
    created := run.created ++ addedRequests w.desk db.tools.rows }
  match commits, (executeAgentToolCalls (env.runtime cid) ctx calls w.db).1 with
  | true, .ok _ =>
    { db := db
      runs := w.runs.set number run
      history := w.history ++ [.committed acknowledged db.tools.rows] }
  | _, _ =>
    { db := db
      runs := w.runs.set number { run with ended := true }
      history := w.history ++ [.finished false db.tools.rows] }

def handoffStep (e : HandoffStep) (w : HandoffWorld) : HandoffWorld :=
  match e with
  | .desk s => w.withDesk (s.run w.desk)
  | .change f =>
    let db := f w.db
    { w with db := { db with tools := { db.tools with rows := w.desk }, calls := w.db.calls } }
  | .start turn earlier =>
    if (w.desk.conversations.get? cid).any (fun c => !c.isAiSuspendedForHandoff) = true then
      let created := match earlier.bind fun number => w.runs[number]? with
        | some run => run.created
        | none => []
      { w with runs := w.runs ++ [⟨turn, false, created, false⟩] }
    else w
  | .calls env number ctx calls commits =>
    match w.runs[number]? with
    | none => w
    | some run => if run.ended = true then w else w.round cid env number run ctx calls commits
  | .finish number ending =>
    match w.runs[number]? with
    | none => w
    | some run =>
      if run.ended = true then w
      else
        { w with
          runs := w.runs.set number { run with ended := true }
          history := w.history ++
            ((ending.handoffRequired run.committedHandoff).map fun required =>
              HandoffEvent.finished required w.desk).toList }
  | .reply number stale =>
    match w.runs[number]? with
    | none => w
    | some run =>
      if run.ended = true ∧ commitsReply cid run.turn stale w.desk = true then
        { w with history := w.history ++ [.replied run.created w.desk] }
      else w

end Steps

/-! ## the property -/

def Desk.waits (d : Desk) (cid : ℕ) : Bool := (d.activeRequest cid).isSome

def Desk.isOpenRequest (d : Desk) (cid rid : ℕ) : Bool :=
  (d.requests.get? rid).any fun r => r.conversationId = cid && r.status.isOpen

def HandoffEvent.Holds (cid : ℕ) : HandoffEvent → Prop
  | .committed acknowledged d => acknowledged = true → Desk.waits d cid = true
  | .finished required d => required = true → Desk.waits d cid = true
  | .replied created d => ∀ rid ∈ created, Desk.isOpenRequest d cid rid = false

instance (cid : ℕ) : ∀ e : HandoffEvent, Decidable (e.Holds cid)
  | .committed acknowledged d =>
    inferInstanceAs (Decidable (acknowledged = true → Desk.waits d cid = true))
  | .finished required d =>
    inferInstanceAs (Decidable (required = true → Desk.waits d cid = true))
  | .replied created d =>
    inferInstanceAs (Decidable (∀ rid ∈ created, Desk.isOpenRequest d cid rid = false))

def Acknowledged (cid : ℕ) (w : HandoffWorld) : Prop := ∀ e ∈ w.history, e.Holds cid

instance (cid : ℕ) (w : HandoffWorld) : Decidable (Acknowledged cid w) :=
  inferInstanceAs (Decidable (∀ e ∈ w.history, e.Holds cid))

section Conditions
variable (cid : ℕ)

/-- a call for a human that an earlier run answers is made while a request is open. -/
def SafeHandoffCall (rt : AgentRuntime Desk) (ctx : AgentExecutionContext) (call : AgentToolCall)
    (s : AgentDb Desk) : Prop :=
  let request := callRequest rt ctx call s
  let action := callAction rt call
  call.toolName = handoffTool →
    rt.restricted s.tools.rows (subjectCustomer rt ctx s.tools.rows) = false →
    gateViolations rt.backend.schemaOk request.options request.toolCalls = [] →
    registryError request.options action = none →
    existingExecutedLog rt.conversationId s.tools.logs action
      (requestKey rt.backend request action s.tools) ≠ none →
    Desk.waits s.tools.rows cid = true

def SafeHandoff (w : HandoffWorld) (e : HandoffStep) : Prop :=
  match e with
  | .desk s => s.Faithful w.desk ∧
      -- an acknowledged handoff is not taken back before its run is over
      ((∃ run ∈ w.runs, run.ended = false ∧ run.committedHandoff = true) →
        Desk.waits w.desk cid = true → Desk.waits (s.run w.desk) cid = true)
  | .calls env number ctx calls commits =>
    CallsAlong (env.runtime cid) ctx (SafeHandoffCall cid (env.runtime cid) ctx) calls w.db
  | .reply number stale => ∀ run, w.runs[number]? = some run →
      run.turn = true ∨ ∀ rid ∈ run.created, Desk.isOpenRequest w.desk cid rid = false
  | _ => True

end Conditions

/-! ## the desk under tools -/

section Desk
variable {cid : ℕ} {d : Desk} {env : DeskEnv}

lemma waits_iff : Desk.waits d cid = true ↔ d.ledger.Waits cid := by
  unfold Desk.waits
  cases h : d.activeRequest cid with
  | none =>
    refine ⟨fun hnone => absurd hnone (by decide), ?_⟩
    rintro ⟨i, q, hq, hc, ho⟩
    rw [activeRequest_none h i q hq hc] at ho
    cases ho
  | some active => exact ⟨fun _ => waits_of_active h, fun _ => rfl⟩

lemma not_open_of_unshown (hs : d.ledger.Sound) {c : Conversation}
    (hc : d.conversations.get? cid = some c) (hshown : c.isAiSuspendedForHandoff = false)
    (rid : ℕ) : Desk.isOpenRequest d cid rid = false := by
  rw [Bool.eq_false_iff]
  intro hopen
  obtain ⟨r, hr, hopen⟩ := (Option.any_eq_true _ _).1 hopen
  rw [Bool.and_eq_true, decide_eq_true_iff] at hopen
  have hstatus := ((hs.desk_consistent cid).open_shown c hc rid r hr hopen.1 hopen.2).2
  unfold Conversation.isAiSuspendedForHandoff at hshown
  rw [hstatus, hopen.2, Bool.or_true, Bool.true_or] at hshown
  cases hshown

lemma deskOtherHandler_ledger (r : ActionExecutionRequest) :
    (deskOtherHandler env cid r d).2.ledger = d.ledger := by
  have hleft : ∀ tickets ticketId, (({ d with tickets := tickets } : Desk).setConversation cid
      fun c => { c with ticketId := ticketId }).ledger = d.ledger := fun _ _ =>
    ledger_setConversation_same _ cid fun _ => rfl
  unfold deskOtherHandler
  cases env.outcome r d with
  | error e => exact hleft _ _
  | ok outcome => exact hleft _ _

lemma deskHandoffRequest_ok {r : ActionExecutionRequest} {result : HandlerResult} {t : Desk}
    (hs : d.ledger.Sound) (h : deskHandoffRequest env cid r d = (.ok result, t)) :
    t.ledger.Sound ∧ t.ledger.Waits cid := by
  unfold deskHandoffRequest at h
  dsimp only at h
  cases hrun : requestHandoff cid d with
  | mk answer left =>
    rw [hrun] at h
    cases answer with
    | error e => cases h
    | ok rid =>
      cases h
      exact ⟨(requestHandoff_good d rid t (Good.start hs) hrun).1.1,
        requestHandoff_waits d rid t trivial hrun⟩

lemma deskHandler_cases {toolName : Text} {handler : Handler Desk}
    (h : (deskExtensions env cid toolName).or (deskHandlers env cid toolName) = some handler) :
    (toolName = handoffTool ∧ handler = deskHandoffRequest env cid) ∨
      (toolName ≠ handoffTool ∧ handler = deskOtherHandler env cid) := by
  unfold deskExtensions deskHandlers at h
  by_cases hhandoff : toolName = handoffTool
  · rw [hhandoff, if_neg (by decide +kernel), if_pos rfl] at h
    exact Or.inl ⟨hhandoff, (Option.some.inj h).symm⟩
  · refine Or.inr ⟨hhandoff, ?_⟩
    rw [if_neg hhandoff] at h
    split_ifs at h <;> cases h <;> rfl

end Desk

/-! ## a call -/

section Call
variable {cid : ℕ} {env : DeskEnv} {ctx : AgentExecutionContext} {call : AgentToolCall}
  {s : AgentDb Desk} {r : ActionExecutionResult} {e : AgentCallEntry}

/-- a call of a request that the gate or the registry refuses is not answered as a duplicate. -/
lemma controlled_not_duplicate {backend : ToolBackend Desk} {request : ToolCallsRequest Desk}
    {name : Text} {arguments : List (Text × PyValue)} {s t : ToolDb Desk}
    (hcalls : request.toolCalls = [⟨name, .dict arguments⟩])
    (hname : canonicalToolName name = name ∧ name ≠ [])
    (hrun : executeControlledToolCalls backend cid request s = (.ok [r], t)) (hok : r.ok = true) :
    gateViolations backend.schemaOk request.options request.toolCalls = [] ∧
      registryError request.options (runtimeToolAction backend.py (name, arguments)) = none := by
  have hnamed : namedCalls request.toolCalls = [(name, arguments)] := by
    rw [hcalls]
    unfold namedCalls
    rw [List.map_cons, hname.1]
    exact List.filter_cons_of_pos (decide_eq_true hname.2)
  have hactions : runtimeToolActions backend.py request.toolCalls =
      [runtimeToolAction backend.py (name, arguments)] := by
    unfold runtimeToolActions
    rw [hnamed]
    rfl
  unfold executeControlledToolCalls at hrun
  rw [hactions, Txn.run_bind, Txn.run_read] at hrun
  dsimp only at hrun
  cases hgate : gateViolations backend.schemaOk request.options request.toolCalls with
  | cons code codes =>
    rw [hgate] at hrun
    cases hrun
    cases hok
  | nil =>
    refine ⟨rfl, ?_⟩
    rw [hgate] at hrun
    dsimp only at hrun
    unfold executeActions executeAction at hrun
    cases hregistry : registryError request.options
        (runtimeToolAction backend.py (name, arguments)) with
    | some code =>
      rw [hregistry] at hrun
      cases hrun
      cases hok
    | none => rfl

structure CallWaits (cid : ℕ) (s t : AgentDb Desk) : Prop where
  sound : t.tools.rows.ledger.Sound
  keeps : s.tools.rows.ledger.Waits cid → t.tools.rows.ledger.Waits cid
  entry : ∃ e, t.calls = s.calls ++ [e] ∧
    (e.acknowledgesHandoff = true → t.tools.rows.ledger.Waits cid)

lemma CallWaits.same {t : AgentDb Desk} (hs : s.tools.rows.ledger.Sound)
    (hrows : t.tools.rows.ledger = s.tools.rows.ledger) (hcalls : t.calls = s.calls ++ [e])
    (he : e.acknowledgesHandoff = true → s.tools.rows.ledger.Waits cid) : CallWaits cid s t := by
  refine ⟨?_, ?_, e, hcalls, ?_⟩
  · rw [hrows]
    exact hs
  · rw [hrows]
    exact id
  · rw [hrows]
    exact he

lemma not_acknowledges (h : e.result = some r) (hr : r.toolName ≠ handoffTool ∨ r.ok = false) :
    e.acknowledgesHandoff = false := by
  unfold AgentCallEntry.acknowledgesHandoff
  rw [h]
  dsimp only
  rcases hr with hr | hr
  · rw [decide_eq_false hr, Bool.and_false, Bool.false_and, Bool.false_and]
  · rw [hr, Bool.and_false, Bool.false_and]

lemma executeOne_waits (hs : s.tools.rows.ledger.Sound)
    (hsafe : SafeHandoffCall cid (env.runtime cid) ctx call s) :
    Txn.Yields (· = s) (executeOne (env.runtime cid) ctx call) (fun _ t => CallWaits cid s t)
      fun _ => True := by
  rintro _ rfl
  rename_i s
  rcases @executeOne_cases _ (env.runtime cid) ctx s call with
    ⟨-, heq⟩ | ⟨hrestricted, r, t, houtcome, hrun, heq⟩
  · rw [heq]
    refine CallWaits.same hs rfl rfl fun h => ?_
    rw [not_acknowledges rfl (Or.inr rfl)] at h
    cases h
  · rw [heq]
    unfold settledCall
    cases r with
    | error e => trivial
    | ok results =>
      dsimp only
      -- the state after the call, up to its confirmations
      have hcalls : ∀ result, (settleResult (env.runtime cid) call (grantOf (env.runtime cid) call s)
          result (answeredState (env.runtime cid) call s t (some result))).calls = s.calls ++
            [callEntry call (grantOf (env.runtime cid) call s) s t (some result)] := fun result =>
        settleResult_calls
      have htools : ∀ result, (settleResult (env.runtime cid) call (grantOf (env.runtime cid) call s)
          result (answeredState (env.runtime cid) call s t (some result))).tools = t := fun result =>
        settleResult_tools
      have hsame : ∀ result : ActionExecutionResult, t.rows.ledger = s.tools.rows.ledger →
          (result.ok = true → result.toolName = handoffTool → s.tools.rows.ledger.Waits cid) →
          CallWaits cid s (settleResult (env.runtime cid) call (grantOf (env.runtime cid) call s)
            result (answeredState (env.runtime cid) call s t (some result))) := by
        intro result hrows hwaits
        refine CallWaits.same hs (by rw [htools]; exact hrows) (hcalls result) fun h => ?_
        by_cases hresult : result.toolName ≠ handoffTool ∨ result.ok = false
        · rw [not_acknowledges rfl hresult] at h
          cases h
        · rw [not_or, not_not, Bool.not_eq_false] at hresult
          exact hwaits hresult.2 hresult.1
      cases houtcome with
      | refused answer code t hanswer hadds hrows =>
        exact hsame _ (by rw [hrows]) fun h => by cases h
      | duplicate log t hlog hadds hrows =>
        refine hsame _ (by rw [hrows]) fun _ hname => ?_
        obtain ⟨hgate, hregistry⟩ := controlled_not_duplicate rfl
          (canonicalToolName_registered call.contract call.registered) hrun rfl
        refine waits_iff.1 (hsafe hname hrestricted hgate hregistry ?_)
        rw [hlog]
        nofun
      | stopped status code t hfresh hstopped hadds hrows =>
        exact hsame _ (by rw [hrows]) fun h => by cases h
      | returned handler result rows t hfresh hrefusal hhandler hrun' hsaved hadds =>
        have hrows : t.rows = rows := by
          unfold savedAfter at hsaved
          cases hcontext : result.caseContext with
          | none =>
            rw [hcontext] at hsaved
            exact (Prod.mk.inj hsaved).2.symm
          | some next =>
            rw [hcontext] at hsaved
            change (match env.saveError next _ rows with
              | some e => _
              | none => _) = _ at hsaved
            cases hsave : env.saveError next (callRequest (env.runtime cid) ctx call s).tenantId
                rows with
            | some e =>
              rw [hsave] at hsaved
              cases hsaved
            | none =>
              rw [hsave] at hsaved
              exact (Prod.mk.inj hsaved).2.symm
        unfold handlerRun at hrun'
        rcases deskHandler_cases hhandler with ⟨hname, rfl⟩ | ⟨hname, rfl⟩
        · obtain ⟨hsound, hwaits⟩ := deskHandoffRequest_ok hs hrun'
          refine ⟨?_, fun _ => ?_, _, hcalls _, fun _ => ?_⟩
          · rw [htools, hrows]
            exact hsound
          · rw [htools, hrows]
            exact hwaits
          · rw [htools, hrows]
            exact hwaits
        · refine hsame _ ?_ fun _ h => absurd h hname
          rw [hrows]
          have hledger := @deskOtherHandler_ledger cid s.tools.rows env
            (handlerRequest (env.runtime cid).backend (callRequest (env.runtime cid) ctx call s)
              (callAction (env.runtime cid) call) s.tools)
          rw [hrun'] at hledger
          exact hledger

end Call

/-! ## a round -/

section Round
variable {cid : ℕ} {env : DeskEnv} {ctx : AgentExecutionContext} {s t u : AgentDb Desk}

/-- what the calls of a round do to the handoffs of the conversation. -/
structure RoundWaits (cid : ℕ) (s t : AgentDb Desk) : Prop where
  sound : t.tools.rows.ledger.Sound
  keeps : s.tools.rows.ledger.Waits cid → t.tools.rows.ledger.Waits cid
  entries : ∃ later, t.calls = s.calls ++ later ∧
    ∀ e ∈ later, e.acknowledgesHandoff = true → t.tools.rows.ledger.Waits cid

lemma RoundWaits.refl (hs : s.tools.rows.ledger.Sound) : RoundWaits cid s s :=
  ⟨hs, id, [], (List.append_nil _).symm, fun e he => absurd he List.not_mem_nil⟩

lemma RoundWaits.call (h : RoundWaits cid s t) (hcall : CallWaits cid t u) :
    RoundWaits cid s u := by
  obtain ⟨later, hlater, hentries⟩ := h.entries
  obtain ⟨e, he, hthis⟩ := hcall.entry
  refine ⟨hcall.sound, fun hs => hcall.keeps (h.keeps hs), later ++ [e], ?_, ?_⟩
  · rw [he, hlater, List.append_assoc]
  · intro x hx hack
    rcases List.mem_append.1 hx with hx | hx
    · exact hcall.keeps (hentries x hx hack)
    · rw [List.mem_singleton.1 hx] at hack
      exact hthis hack

lemma undo_not_acknowledges (e : AgentCallEntry) : e.undo.acknowledgesHandoff = false := by
  unfold AgentCallEntry.acknowledgesHandoff AgentCallEntry.undo
  cases e.result <;> rfl

lemma callRound_waits {calls : List AgentToolCall} {commits : Bool}
    (hs : s.tools.rows.ledger.Sound)
    (hsafe : CallsAlong (env.runtime cid) ctx (SafeHandoffCall cid (env.runtime cid) ctx) calls s) :
    RoundWaits cid s (callRound (env.runtime cid) ctx calls commits s) := by
  refine callRound_keeps (E := fun _ => True) (G := SafeHandoffCall cid (env.runtime cid) ctx)
    ?_ (fun _ _ => trivial) ?_ (RoundWaits.refl hs) hsafe
  · intro call t ht hcall
    exact (executeOne_waits ht.sound hcall).post fun _ u hu => ht.call hu
  · intro t later _ _
    refine ⟨hs, id, later.map .undo, rfl, fun e he hack => ?_⟩
    obtain ⟨x, -, rfl⟩ := List.mem_map.1 he
    rw [undo_not_acknowledges] at hack
    cases hack

end Round

/-! ## whole runs -/

section Worlds
variable {cid : ℕ} {w : HandoffWorld}

structure HandoffWorldOk (cid : ℕ) (w : HandoffWorld) : Prop where
  sound : w.desk.ledger.Sound
  waiting : ∀ run ∈ w.runs, run.ended = false → run.committedHandoff = true →
    w.desk.ledger.Waits cid
  history : Acknowledged cid w

lemma holds_append {history later : List HandoffEvent} (h : ∀ e ∈ history, e.Holds cid)
    (hlater : ∀ e ∈ later, e.Holds cid) : ∀ e ∈ history ++ later, e.Holds cid := by
  intro e he
  rcases List.mem_append.1 he with he | he
  · exact h e he
  · exact hlater e he

lemma HandoffWorldOk.round (h : HandoffWorldOk cid w) {env : DeskEnv} {number : ℕ}
    {run : HandoffRun} {ctx : AgentExecutionContext} {calls : List AgentToolCall} {commits : Bool}
    (hrun : run ∈ w.runs) (hunder : run.ended = false)
    (hsafe : CallsAlong (env.runtime cid) ctx (SafeHandoffCall cid (env.runtime cid) ctx) calls
      w.db) : HandoffWorldOk cid (w.round cid env number run ctx calls commits) := by
  have hround : RoundWaits cid w.db (callRound (env.runtime cid) ctx calls commits w.db) :=
    callRound_waits h.sound hsafe
  unfold HandoffWorld.round
  generalize callRound (env.runtime cid) ctx calls commits w.db = db at hround ⊢
  obtain ⟨later, hlater, hentries⟩ := hround.entries
  -- what the new entries acknowledge is there
  have hack : (db.calls.drop w.db.calls.length).any AgentCallEntry.acknowledgesHandoff = true →
      db.tools.rows.ledger.Waits cid := by
    intro hany
    rw [hlater, List.drop_left] at hany
    obtain ⟨e, he, hthis⟩ := List.any_eq_true.1 hany
    exact hentries e he hthis
  have hrest : ∀ other ∈ w.runs, other.ended = false → other.committedHandoff = true →
      db.tools.rows.ledger.Waits cid := fun other hother hunder hcommitted =>
    hround.keeps (h.waiting other hother hunder hcommitted)
  have hfallback : HandoffWorldOk cid
      { db := db
        runs := w.runs.set number { run with
          committedHandoff := run.committedHandoff ||
            (db.calls.drop w.db.calls.length).any AgentCallEntry.acknowledgesHandoff
          created := run.created ++ addedRequests w.desk db.tools.rows
          ended := true }
        history := w.history ++ [.finished false db.tools.rows] } := by
    refine ⟨hround.sound, ?_, holds_append h.history fun e he => ?_⟩
    · intro other hother hother' hcommitted
      rcases List.mem_or_eq_of_mem_set hother with hmem | rfl
      · exact hrest other hmem hother' hcommitted
      · cases hother'
    · rw [List.mem_singleton.1 he]
      intro hfalse
      cases hfalse
  dsimp only
  cases commits with
  | false => exact hfallback
  | true =>
    cases (executeAgentToolCalls (env.runtime cid) ctx calls w.db).1 with
    | error e => exact hfallback
    | ok results =>
      refine ⟨hround.sound, ?_, holds_append h.history fun e he => ?_⟩
      · intro other hother hother' hcommitted
        rcases List.mem_or_eq_of_mem_set hother with hmem | rfl
        · exact hrest other hmem hother' hcommitted
        · rcases Bool.or_eq_true_iff.1 hcommitted with hbefore | hthis
          · exact hrest run hrun hunder hbefore
          · exact hack hthis
      · rw [List.mem_singleton.1 he]
        exact fun hthis => waits_iff.2 (hack hthis)

lemma commitsReply_turn {stale : Bool} {d : Desk} (h : commitsReply cid true stale d = true) :
    ∃ c, d.conversations.get? cid = some c ∧ c.isAiSuspendedForHandoff = false := by
  unfold commitsReply at h
  cases hc : d.conversations.get? cid with
  | none =>
    rw [hc] at h
    cases h
  | some c =>
    refine ⟨c, rfl, ?_⟩
    rw [hc] at h
    dsimp only at h
    cases hshown : c.isAiSuspendedForHandoff with
    | false => rfl
    | true =>
      rw [hshown, if_pos ⟨rfl, rfl⟩] at h
      cases h

lemma handoffRequired_committed {ending : RunEnding} {committed : Bool}
    (h : ending.handoffRequired committed = some true) : committed = true := by
  unfold RunEnding.handoffRequired at h
  cases ending with
  | decision d =>
    dsimp only at h
    split_ifs at h
    · cases h
    · exact Option.some.inj h
  | fallback => cases h
  | raised => cases h

lemma handoffStep_ok (h : HandoffWorldOk cid w) {e : HandoffStep} (hsafe : SafeHandoff cid w e) :
    HandoffWorldOk cid (handoffStep cid e w) := by
  unfold handoffStep
  cases e with
  | desk s =>
    obtain ⟨hfaithful, hkept⟩ := hsafe
    refine ⟨s.sound h.sound hfaithful, ?_, h.history⟩
    intro run hrun hunder hcommitted
    have hbefore := waits_iff.2 (h.waiting run hrun hunder hcommitted)
    exact waits_iff.1 (hkept ⟨run, hrun, hunder, hcommitted⟩ hbefore)
  | change f => exact ⟨h.sound, h.waiting, h.history⟩
  | start turn earlier =>
    dsimp only
    split_ifs
    · refine ⟨h.sound, ?_, h.history⟩
      intro run hrun hunder hcommitted
      rcases List.mem_append.1 hrun with hrun | hrun
      · exact h.waiting run hrun hunder hcommitted
      · rw [List.mem_singleton.1 hrun] at hcommitted
        cases hcommitted
    · exact h
  | calls env number ctx calls commits =>
    dsimp only
    cases hrun : w.runs[number]? with
    | none => exact h
    | some run =>
      dsimp only
      by_cases hended : run.ended = true
      · rw [if_pos hended]
        exact h
      · rw [if_neg hended]
        exact h.round (List.mem_of_getElem? hrun) (Bool.not_eq_true _ ▸ hended) hsafe
  | finish number ending =>
    dsimp only
    cases hrun : w.runs[number]? with
    | none => exact h
    | some run =>
      dsimp only
      by_cases hended : run.ended = true
      · rw [if_pos hended]
        exact h
      · rw [if_neg hended]
        rw [Bool.not_eq_true] at hended
        refine ⟨h.sound, ?_, holds_append h.history fun e he => ?_⟩
        · intro other hother hunder hcommitted
          rcases List.mem_or_eq_of_mem_set hother with hmem | rfl
          · exact h.waiting other hmem hunder hcommitted
          · cases hunder
        · obtain ⟨required, hrequired, rfl⟩ := Option.map_eq_some_iff.1 (Option.mem_toList.1 he)
          rintro rfl
          exact waits_iff.2 (h.waiting run (List.mem_of_getElem? hrun) hended
            (handoffRequired_committed hrequired))
  | reply number stale =>
    dsimp only
    cases hrun : w.runs[number]? with
    | none => exact h
    | some run =>
      dsimp only
      split_ifs with hreply
      · refine ⟨h.sound, h.waiting, holds_append h.history fun e he => ?_⟩
        rw [List.mem_singleton.1 he]
        intro rid hrid
        rcases hsafe run hrun with hturn | hnone
        · rw [hturn] at hreply
          obtain ⟨c, hc, hshown⟩ := commitsReply_turn hreply.2
          exact not_open_of_unshown h.sound hc hshown rid
        · exact hnone rid hrid
      · exact h

end Worlds

/-- in every run whose steps write no wrong snapshot, take no acknowledged handoff back before its
run is over, repeat no call for a human without an open request, and reply for a turn. -/
theorem acknowledged_exists (cid : ℕ) (w : HandoffWorld) (l : List HandoffStep)
    (hfresh : w.desk.Fresh) (hnew : w.runs = [] ∧ w.history = [])
    (hsafe : Along (handoffStep cid) (SafeHandoff cid) w l) :
    Acknowledged cid (run (handoffStep cid) w l) := by
  have hstart : HandoffWorldOk cid w := by
    refine ⟨hfresh.sound, fun run hrun => ?_, fun e he => ?_⟩
    · rw [hnew.1] at hrun
      cases hrun
    · rw [hnew.2] at he
      cases he
  exact (Along.invariant (I := HandoffWorldOk cid) (fun w e hw he => handoffStep_ok hw he) hstart
    hsafe).history

/-! ## samples -/

def sampleDeskEnv : DeskEnv where
  py := sampleToolEnv.py
  schemaOk := fun _ _ => true
  redact := sampleToolEnv.redact
  tenantKey := "t".toList
  channelKey := "web".toList
  ticketCountry := fun d id => (d.tickets.get? id).map fun _ => none
  ticketCustomer := fun _ _ => none
  customerForContext := fun _ _ => none
  restricted := fun _ _ => false
  trackingReference := fun _ => none
  excerpt := fun s n => s.take n
  outcome := fun _ _ => .ok { ok := true, status := "executed", answers := executed_ne }
  tickets := fun _ d => (d.tickets, none)
  saveError := fun _ _ _ => none

def humanContext : AgentExecutionContext :=
  { sampleContext with
    allowedTools := ["handoff.request.create".toList]
    grantedPermissions := ["webchat:handoff:create".toList] }

def humanCall : AgentToolCall where
  contract :=
    { name := handoffTool, classification := .system
      requiredPermissions := ["webchat:handoff:create".toList]
      riskLevel := .medium, allowedAutoExecutionMode := .policyGated }
  registered := List.getElem_mem (n := 5) (by decide)
  arguments := [("reason".toList, .str "customer asks".toList)]

/-- a conversation without a ticket, and an operator of its scope. -/
def ticketlessDesk : Desk where
  now := 0
  scopeCountry := some "DE"
  tenantAuthority := fun _ _ _ => true
  users := Table.empty.insert
    ⟨true, none, [capWebchatHandoffResumeAi], [⟨"t", "DE", "web", "q", true⟩], none⟩
  conversations := Table.empty.insert
    ⟨none, true, "t", "web", some ⟨"t", some "DE", "web", none⟩, none, .none, none, false, none,
      none⟩
  requests := Table.empty
  sessions := Table.empty
  offers := Table.empty
  messages := Table.empty
  tickets := Table.empty
  declined := []

def handoffStart : HandoffWorld where
  db := AgentDb.start
    ⟨[], [{ toolName := handoffTool, aiAutoExecutable := true }], ticketlessDesk, [], []⟩ [] 0
  runs := []
  history := []

def askHuman (number : ℕ) : HandoffStep :=
  .calls sampleDeskEnv number humanContext [humanCall] true

/-- the operator gives the conversation back to the AI. -/
def handBack : HandoffStep := .desk (.act (.resumeAiForHandoff 1 1))

def requestHuman : RunEnding := .decision ⟨"request_handoff", true⟩

def sampleHandoff (l : List HandoffStep) : HandoffWorld := run (handoffStep 1) handoffStart l

/-- a customer is handed over, and the job keeps quiet. -/
def handoverRun : List HandoffStep :=
  [.start true none, askHuman 0, .finish 0 requestHuman, .reply 0 false]

lemma ticketlessDesk_fresh : ticketlessDesk.Fresh := by
  refine ⟨fun _ => rfl, fun _ => rfl, ?_⟩
  intro cid c hc
  change (Table.empty.insert _).get? cid = some c at hc
  rw [Table.get?_insert] at hc
  split_ifs at hc
  · cases hc
    exact ⟨rfl, rfl, rfl⟩
  · cases hc

lemma handoverRun_safe :
    Along (handoffStep 1) (SafeHandoff 1) handoffStart handoverRun := by
  refine along_cons.2 ⟨trivial, along_cons.2 ⟨?_, along_cons.2 ⟨trivial, along_cons.2 ⟨?_, trivial⟩⟩⟩⟩
  · refine ⟨fun _ _ _ _ hlog => absurd ?_ hlog, ?_⟩
    · generalize requestKey _ _ _ _ = key
      cases key <;> rfl
    · cases executeOne _ _ humanCall _ with
      | mk r t => cases r <;> trivial
  · intro run hrun
    have hturn : ∀ run ∈ (sampleHandoff (handoverRun.take 3)).runs, run.turn = true := by
      decide +kernel
    exact Or.inl (hturn run (List.mem_of_getElem? hrun))

theorem handover_exists : Acknowledged 1 (sampleHandoff handoverRun) ∧
    (sampleHandoff handoverRun).runs.any (·.committedHandoff) = true :=
  ⟨acknowledged_exists 1 handoffStart handoverRun ticketlessDesk_fresh ⟨rfl, rfl⟩ handoverRun_safe,
    by decide +kernel⟩

/-- a customer who was handed back asks again; an operator hands back before the run is over; and a
reply job has no turn. -/
theorem handoffs_missing :
    ¬ Acknowledged 1 (sampleHandoff [.start true none, askHuman 0, .finish 0 requestHuman,
      handBack, .start true none, askHuman 1, .finish 1 requestHuman]) ∧
    ¬ Acknowledged 1 (sampleHandoff [.start true none, askHuman 0, handBack,
      .finish 0 requestHuman]) ∧
    ¬ Acknowledged 1 (sampleHandoff [.start false none, askHuman 0, .finish 0 requestHuman,
      .reply 0 false]) := by
  decide +kernel

end NexusHelpdesk.Osr
