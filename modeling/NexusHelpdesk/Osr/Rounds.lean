import NexusHelpdesk.Osr.ToolAdapter

/-!
# Rounds of calls

* `callRound`: the transaction of one round, which a call or the commit can roll back;
* `CallsAlong`: a condition on every call of a round and the state before it;
* `executeAgentToolCalls_keeps`: **what every such call keeps, the round keeps**.
-/

namespace NexusHelpdesk.Osr

open Lib Cases

def AgentCallEntry.undo (e : AgentCallEntry) : AgentCallEntry := { e with undone := true }

section Rounds
variable {ρ : Type} (rt : AgentRuntime ρ) (ctx : AgentExecutionContext)

/-- all is rolled back, but for what is known of the calls. -/
def AgentDb.rollbackTo (s t : AgentDb ρ) : AgentDb ρ :=
  { s with calls := s.calls ++ (t.calls.drop s.calls.length).map .undo }

/-- `execute_agent_tool_calls`: a call or the commit can raise. -/
def callRound (calls : List AgentToolCall) (commits : Bool) (s : AgentDb ρ) : AgentDb ρ :=
  match executeAgentToolCalls rt ctx calls s with
  | (.ok _, t) => if commits = true then t else s.rollbackTo t
  | (.error _, t) => s.rollbackTo t

/-- `G` holds of every call of a round and the state before it. -/
def CallsAlong (G : AgentToolCall → AgentDb ρ → Prop) : List AgentToolCall → AgentDb ρ → Prop
  | [], _ => True
  | call :: rest, s => G call s ∧
    match executeOne rt ctx call s with
    | (.ok _, t) => CallsAlong G rest t
    | (.error _, _) => True

end Rounds

section Calls
variable {ρ : Type} {rt : AgentRuntime ρ} {ctx : AgentExecutionContext} {s : AgentDb ρ}
  {call : AgentToolCall} {grant : Option ℕ} {result : ActionExecutionResult}
  {G : AgentToolCall → AgentDb ρ → Prop}

lemma createOrReuseConfirmation_frame (py : PyText) (tenantKey : Text) :
    (createOrReuseConfirmation py tenantKey call s).calls = s.calls ∧
      (createOrReuseConfirmation py tenantKey call s).tools = s.tools := by
  unfold createOrReuseConfirmation
  cases reusableConfirmation py call s with
  | some id => exact ⟨rfl, rfl⟩
  | none =>
    unfold retireConfirmation
    cases activeConfirmation s.confirmations <;> exact ⟨rfl, rfl⟩

lemma settleResult_calls :
    (settleResult rt call grant result s).calls = s.calls := by
  unfold settleResult
  split_ifs
  · exact (createOrReuseConfirmation_frame _ _).1
  · cases grant <;> rfl
  · rfl

lemma settleResult_tools :
    (settleResult rt call grant result s).tools = s.tools := by
  unfold settleResult
  split_ifs
  · exact (createOrReuseConfirmation_frame _ _).2
  · cases grant <;> rfl
  · rfl

lemma executeOne_calls : ∃ e, (executeOne rt ctx call s).2.calls = s.calls ++ [e] := by
  unfold executeOne
  split_ifs
  · exact ⟨_, rfl⟩
  · dsimp only
    generalize executeControlledToolCalls rt.backend rt.conversationId
      (toolRequest rt ctx s.tools.rows call (takeConfirmation rt call s).1.isSome) s.tools = run
    obtain ⟨r, t⟩ := run
    cases r with
    | error e => exact ⟨_, rfl⟩
    | ok results => exact ⟨_, settleResult_calls⟩

lemma executeAgentToolCalls_calls (calls : List AgentToolCall) (s : AgentDb ρ) :
    s.calls <+: (executeAgentToolCalls rt ctx calls s).2.calls := by
  induction calls generalizing s with
  | nil => exact List.prefix_refl _
  | cons call rest ih =>
    obtain ⟨e, he⟩ := @executeOne_calls _ rt ctx s call
    have hone : s.calls <+: (executeOne rt ctx call s).2.calls := by
      rw [he]
      exact List.prefix_append _ _
    unfold executeAgentToolCalls
    rw [Txn.run_bind]
    cases hrun : executeOne rt ctx call s with
    | mk r t =>
      rw [hrun] at hone
      cases r with
      | error e => exact hone
      | ok result =>
        have hrest := ih t
        dsimp only
        rw [Txn.run_bind]
        cases hruns : executeAgentToolCalls rt ctx rest t with
        | mk r u =>
          rw [hruns] at hrest
          cases r with
          | error e => exact hone.trans hrest
          | ok results => exact hone.trans hrest

lemma executeAgentToolCalls_keeps {I E : AgentDb ρ → Prop}
    (hone : ∀ call s, I s → G call s →
      Txn.Yields (· = s) (executeOne rt ctx call) (fun _ => I) E) (calls : List AgentToolCall)
    {s : AgentDb ρ} (hs : I s) (hsafe : CallsAlong rt ctx G calls s) :
    match executeAgentToolCalls rt ctx calls s with
    | (.ok _, t) => I t
    | (.error _, t) => E t := by
  induction calls generalizing s with
  | nil => exact hs
  | cons call rest ih =>
    obtain ⟨hcall, hrest⟩ := hsafe
    have hspec := hone call s hs hcall s rfl
    unfold executeAgentToolCalls
    rw [Txn.run_bind]
    cases hrun : executeOne rt ctx call s with
    | mk r t =>
      rw [hrun] at hspec hrest
      cases r with
      | error e => exact hspec
      | ok result =>
        have hthis := ih hspec hrest
        dsimp only
        rw [Txn.run_bind]
        cases hruns : executeAgentToolCalls rt ctx rest t with
        | mk r u =>
          rw [hruns] at hthis
          cases r with
          | error e => exact hthis
          | ok results => exact hthis

/-- a round that commits keeps `I`; one that does not leaves the state before it, with what is known
of its calls. -/
lemma callRound_keeps {I E : AgentDb ρ → Prop}
    (hone : ∀ call s, I s → G call s →
      Txn.Yields (· = s) (executeOne rt ctx call) (fun _ => I) E) (hI : ∀ s, I s → E s)
    (hback : ∀ t later, E t → t.calls = s.calls ++ later →
      I { s with calls := s.calls ++ later.map .undo }) {calls : List AgentToolCall}
    {commits : Bool} (hs : I s) (hsafe : CallsAlong rt ctx G calls s) :
    I (callRound rt ctx calls commits s) := by
  have hspec := executeAgentToolCalls_keeps hone calls hs hsafe
  have hcalls := @executeAgentToolCalls_calls _ rt ctx calls s
  have hrollback : ∀ t, E t → s.calls <+: t.calls → I (s.rollbackTo t) := by
    rintro t ht ⟨later, hlater⟩
    unfold AgentDb.rollbackTo
    rw [← hlater, List.drop_left]
    exact hback t later ht hlater.symm
  unfold callRound
  cases hrun : executeAgentToolCalls rt ctx calls s with
  | mk r t =>
    rw [hrun] at hspec hcalls
    cases r with
    | error e => exact hrollback t hspec hcalls
    | ok results =>
      dsimp only
      split_ifs
      · exact hspec
      · exact hrollback t (hI t hspec) hcalls

end Calls

end NexusHelpdesk.Osr
