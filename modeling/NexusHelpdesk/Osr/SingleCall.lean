import NexusHelpdesk.Osr.ToolAdapter

/-!
# One governed call

* `SingleOutcome`: what `executeControlledToolCalls` can do with one call;
* `executeControlledToolCalls_single`: **it does one of these things**.
-/

namespace NexusHelpdesk.Osr

open Lib Cases

/-! ## the registry -/

lemma canonicalToolName_registered :
    ∀ c ∈ toolContracts, canonicalToolName c.name = c.name ∧ c.name ≠ [] := by decide +kernel

section Single
variable {ρ : Type} (backend : ToolBackend ρ) (conversationId : ℕ) (request : ToolCallsRequest ρ)
  (action : RuntimeToolAction) (s : ToolDb ρ)

def requestPlace : ToolPlace := toolPlace backend request s.rows

def requestKey : Option Text :=
  keyOfAction backend request (requestPlace backend request s) request.caseContext action

def handlerRequest : ActionExecutionRequest :=
  actionRequest request (requestPlace backend request s) request.caseContext action
    (requestKey backend request action s)

/-- what the executor says before it looks for the handler. -/
def requestRefusal : Option (String × String) :=
  executorRefusal backend.py (actionPolicy s.policies (requestPlace backend request s) action)
    request.options.highRiskTools (handlerRequest backend request action s)

structure Adds (permitted : Bool) (answer : ToolAnswer) (t : ToolDb ρ) : Prop where
  entries : t.entries =
    s.entries ++ [⟨action, requestKey backend request action s, permitted, s.kept, answer⟩]
  policies : t.policies = s.policies

structure Fresh : Prop where
  gate : gateViolations backend.schemaOk request.options request.toolCalls = []
  registry : registryError request.options action = none
  log : existingExecutedLog conversationId s.logs action (requestKey backend request action s) = none

/-- what is saved after a handler that has returned `result` and left `rows`. -/
def savedAfter (result : HandlerResult) (rows : ρ) : Except OsrError Unit × ρ :=
  match result.caseContext with
  | some next => backend.saveCaseContext next request.tenantId rows
  | none => (.ok (), rows)

def handlerRun (handler : Handler ρ) : Except OsrError HandlerResult × ρ :=
  handler (handlerRequest backend request action s) s.rows

inductive SingleOutcome : Except OsrError (List ActionExecutionResult) → ToolDb ρ → Prop where
  /-- the gate or the registry refuses the call. -/
  | refused (answer : ToolAnswer) (code : String) (t : ToolDb ρ)
      (hanswer : answer = .gate ∨ answer = .registry) (hadds : Adds backend request action s false answer t)
      (hrows : t.rows = s.rows) :
      SingleOutcome (.ok [⟨false, action.toolName, "blocked", some request.caseContext, some code⟩]) t
  /-- an earlier run answers it. -/
  | duplicate (log : ToolCallLog) (t : ToolDb ρ)
      (hlog : existingExecutedLog conversationId s.logs action
        (requestKey backend request action s) = some log)
      (hadds : Adds backend request action s true .duplicate t) (hrows : t.rows = s.rows) :
      SingleOutcome (.ok [⟨true, action.toolName, "duplicate", some request.caseContext, none⟩]) t
  /-- the executor does not come to a handler. -/
  | stopped (status code : String) (t : ToolDb ρ)
      (hfresh : Fresh backend conversationId request action s)
      (hstopped : requestRefusal backend request action s = some (status, code) ∨
        status = "blocked")
      (hadds : Adds backend request action s true .executor t) (hrows : t.rows = s.rows) :
      SingleOutcome (.ok [⟨false, action.toolName, status, none, some code⟩]) t
  | returned (handler : Handler ρ) (result : HandlerResult) (rows : ρ) (t : ToolDb ρ)
      (hfresh : Fresh backend conversationId request action s)
      (hrefusal : requestRefusal backend request action s = none)
      (hhandler : actionHandler backend request (requestPlace backend request s) action =
        some handler)
      (hrun : handlerRun backend request action s handler = (.ok result, rows))
      (hsaved : savedAfter backend request result rows = (.ok (), t.rows))
      (hadds : Adds backend request action s true (.ran (some ⟨result.ok, action.toolName,
        result.status, result.caseContext, result.errorCode⟩)) t) :
      SingleOutcome (.ok [⟨result.ok, action.toolName, result.status, result.caseContext,
        result.errorCode⟩]) t
  /-- the handler or what follows it raises. -/
  | raised (e : OsrError) (answer : Option ActionExecutionResult) (t : ToolDb ρ)
      (hfresh : Fresh backend conversationId request action s)
      (hrefusal : requestRefusal backend request action s = none)
      (hadds : Adds backend request action s true (.ran answer) t) :
      SingleOutcome (.error e) t

end Single

section Inversion
variable {ρ : Type} {backend : ToolBackend ρ} {conversationId : ℕ} {request : ToolCallsRequest ρ}
  {action : RuntimeToolAction} {s : ToolDb ρ} {t : ToolDb ρ} {result : ActionExecutionResult}

def freshExecutor (backend : ToolBackend ρ) (request : ToolCallsRequest ρ)
    (action : RuntimeToolAction) (s : ToolDb ρ) : Except OsrError ActionExecutionResult × ToolDb ρ :=
  execute backend (actionPolicy s.policies (requestPlace backend request s) action)
    request.options.highRiskTools
    (actionHandler backend request (requestPlace backend request s) action)
    (handlerRequest backend request action s) s

lemma executeFresh_error {e : OsrError}
    (h : freshExecutor backend request action s = (.error e, t)) :
    executeFresh backend conversationId request (requestPlace backend request s)
      request.caseContext action (requestKey backend request action s) s = (.error e, t) := by
  unfold executeFresh
  rw [Txn.run_bind, Txn.run_read]
  exact Txn.run_bind_error _ h

lemma executeFresh_unsaved (h : freshExecutor backend request action s = (.ok result, t))
    (hcontext : result.caseContext = none) :
    executeFresh backend conversationId request (requestPlace backend request s)
        request.caseContext action (requestKey backend request action s) s =
      (writeToolCallLog conversationId (requestPlace backend request s) request.caseContext action
          (requestKey backend request action s) result >>= fun _ =>
        pure (result, request.caseContext)) t := by
  unfold executeFresh
  rw [Txn.run_bind, Txn.run_read]
  refine (Txn.run_bind_ok _ h).trans ?_
  rw [hcontext]

lemma executeFresh_saved {next : CaseContext}
    (h : freshExecutor backend request action s = (.ok result, t))
    (hcontext : result.caseContext = some next) :
    executeFresh backend conversationId request (requestPlace backend request s)
        request.caseContext action (requestKey backend request action s) s =
      (onRows (backend.saveCaseContext next request.tenantId) >>= fun _ =>
        writeToolCallLog conversationId (requestPlace backend request s) next action
          (requestKey backend request action s) result >>= fun _ =>
        pure (result, next)) t := by
  unfold executeFresh
  rw [Txn.run_bind, Txn.run_read]
  refine (Txn.run_bind_ok _ h).trans ?_
  rw [hcontext]

lemma executeFresh_returned {handler : Handler ρ} {result : HandlerResult} {rows : ρ}
    (hfresh : Fresh backend conversationId request action s)
    (hrefusal : requestRefusal backend request action s = none)
    (hhandler : actionHandler backend request (requestPlace backend request s) action =
      some handler) (hrun : handlerRun backend request action s handler = (.ok result, rows))
    (hexecute : freshExecutor backend request action s = (.ok ⟨result.ok, action.toolName,
      result.status, result.caseContext, result.errorCode⟩, t))
    (hadds : Adds backend request action s true (.ran (some ⟨result.ok, action.toolName,
      result.status, result.caseContext, result.errorCode⟩)) t) (hrows : t.rows = rows) :
    Txn.Yields (· = s)
      (executeFresh backend conversationId request (requestPlace backend request s)
        request.caseContext action (requestKey backend request action s))
      (fun r t => SingleOutcome backend conversationId request action s (.ok [r.1]) t)
      (fun t => ∀ e, SingleOutcome backend conversationId request action s (.error e) t) := by
  rintro _ rfl
  rename_i s
  cases hcontext : result.caseContext with
  | none =>
    rw [executeFresh_unsaved hexecute hcontext]
    refine .returned handler result rows _ hfresh hrefusal hhandler hrun ?_
      ⟨hadds.entries, hadds.policies⟩
    unfold savedAfter
    rw [hcontext, ← hrows]
  | some next =>
    rw [executeFresh_saved hexecute hcontext, Txn.run_bind]
    unfold onRows
    cases hsave : backend.saveCaseContext next request.tenantId t.rows with
    | mk saved rows' =>
      cases saved with
      | error e =>
        intro e
        exact .raised e (some _) _ hfresh hrefusal ⟨hadds.entries, hadds.policies⟩
      | ok u =>
        refine .returned handler result rows _ hfresh hrefusal hhandler hrun ?_
          ⟨hadds.entries, hadds.policies⟩
        unfold savedAfter
        rw [hcontext, ← hrows]
        exact hsave

lemma executeFresh_yields_outcome (hfresh : Fresh backend conversationId request action s) :
    Txn.Yields (· = s)
      (executeFresh backend conversationId request (requestPlace backend request s)
        request.caseContext action (requestKey backend request action s))
      (fun r t => SingleOutcome backend conversationId request action s (.ok [r.1]) t)
      (fun t => ∀ e, SingleOutcome backend conversationId request action s (.error e) t) := by
  rintro _ rfl
  rename_i s
  cases hrefusal : requestRefusal backend request action s with
  | some refusal =>
    have hexecute : freshExecutor backend request action s =
        (.ok ⟨false, action.toolName, refusal.1, none, some refusal.2⟩, { s with
          entries := s.entries ++
            [⟨action, requestKey backend request action s, true, s.kept, .executor⟩] }) := by
      unfold freshExecutor execute
      rw [show executorRefusal backend.py _ _ _ = some refusal from hrefusal]
      rfl
    rw [executeFresh_unsaved hexecute rfl]
    exact .stopped refusal.1 refusal.2 _ hfresh (Or.inl hrefusal) ⟨rfl, rfl⟩ rfl
  | none =>
    cases hhandler : actionHandler backend request (requestPlace backend request s) action with
    | none =>
      have hexecute : freshExecutor backend request action s =
          (.ok ⟨false, action.toolName, "blocked", none, some "tool_handler_missing"⟩, { s with
            entries := s.entries ++
              [⟨action, requestKey backend request action s, true, s.kept, .executor⟩] }) := by
        unfold freshExecutor execute
        rw [show executorRefusal backend.py _ _ _ = none from hrefusal, hhandler]
        rfl
      rw [executeFresh_unsaved hexecute rfl]
      exact .stopped "blocked" "tool_handler_missing" _ hfresh (Or.inr rfl) ⟨rfl, rfl⟩ rfl
    | some handler =>
      have hexecute : freshExecutor backend request action s =
          runHandler handler (handlerRequest backend request action s) s := by
        unfold freshExecutor execute
        rw [show executorRefusal backend.py _ _ _ = none from hrefusal, hhandler]
      cases hrun : handlerRun backend request action s handler with
      | mk result rows =>
        unfold runHandler at hexecute
        rw [show handler _ s.rows = (result, rows) from hrun] at hexecute
        cases result with
        | error e =>
          rw [executeFresh_error hexecute]
          exact fun e => .raised e none _ hfresh hrefusal ⟨rfl, rfl⟩
        | ok result =>
          exact executeFresh_returned hfresh hrefusal hhandler hrun hexecute ⟨rfl, rfl⟩ rfl s rfl

theorem executeControlledToolCalls_single {name : Text} {arguments : List (Text × PyValue)}
    (hcalls : request.toolCalls = [⟨name, .dict arguments⟩])
    (hname : canonicalToolName name = name ∧ name ≠ []) :
    let action := runtimeToolAction backend.py (name, arguments)
    SingleOutcome backend conversationId request action s
      (executeControlledToolCalls backend conversationId request s).1
      (executeControlledToolCalls backend conversationId request s).2 := by
  intro action
  have hnamed : namedCalls request.toolCalls = [(name, arguments)] := by
    rw [hcalls]
    unfold namedCalls
    rw [List.map_cons, hname.1]
    exact List.filter_cons_of_pos (decide_eq_true hname.2)
  have hactions : runtimeToolActions backend.py request.toolCalls = [action] := by
    unfold runtimeToolActions
    rw [hnamed]
    rfl
  unfold executeControlledToolCalls
  rw [hactions, Txn.run_bind, Txn.run_read]
  dsimp only
  cases hgate : gateViolations backend.schemaOk request.options request.toolCalls with
  | cons code codes => exact .refused .gate code _ (Or.inl rfl) ⟨rfl, rfl⟩ rfl
  | nil =>
    dsimp only
    unfold executeActions executeAction
    cases hregistry : registryError request.options action with
    | some code => exact .refused .registry code _ (Or.inr rfl) ⟨rfl, rfl⟩ rfl
    | none =>
      dsimp only
      rw [Txn.run_bind, Txn.run_bind, Txn.run_read]
      dsimp only
      have hplace : toolPlace backend request s.rows = requestPlace backend request s := rfl
      have hkey : keyOfAction backend request (requestPlace backend request s) request.caseContext
          action = requestKey backend request action s := rfl
      rw [hplace, hkey]
      cases hlog : existingExecutedLog conversationId s.logs action
          (requestKey backend request action s) with
      | some log =>
        exact .duplicate log _ hlog ⟨rfl, rfl⟩ rfl
      | none =>
        dsimp only
        have hfresh := executeFresh_yields_outcome ⟨hgate, hregistry, hlog⟩ s rfl
        cases hrun : executeFresh backend conversationId request (requestPlace backend request s)
            request.caseContext action (requestKey backend request action s) s with
        | mk r t =>
          rw [hrun] at hfresh
          cases r with
          | error e => exact hfresh e
          | ok r => exact hfresh

end Inversion

end NexusHelpdesk.Osr
