import NexusHelpdesk.Osr.AgentHandlers
import NexusHelpdesk.Lib.Run

/-!
# Write tools that have run

* `ToolWorld`, `toolStep`: the calls of one conversation with their commits and rollbacks;
* `NotRepeated`: an action of a write tool that has succeeded is a duplicate ever after;
* `ToolEntry.Known`: a run that is not rolled back was logged as executed under the action's key;
* `not_repeated_iff`: **no write tool is repeated exactly when such a run is known each time**.
-/

namespace NexusHelpdesk.Osr

open Lib Cases
open Txn (Yields)

/-! ## runs -/

structure ToolWorld (ρ : Type) where
  committed : ToolDb ρ
  current : ToolDb ρ

def ToolWorld.start {ρ : Type} (conversationId : ℕ) (others : List ToolCallLog)
    (policies : List ToolExecutionPolicyRecord) (rows : ρ) : ToolWorld ρ :=
  let db : ToolDb ρ := ⟨others.filter fun log => log.webchatConversationId ≠ some conversationId,
    policies, rows, [], []⟩
  ⟨db, db⟩

def ToolWorld.rollback {ρ : Type} (w : ToolWorld ρ) : ToolWorld ρ :=
  { w with current := { w.committed with entries := w.current.entries } }

inductive ToolStep (ρ : Type) where
  | calls (request : ToolCallsRequest ρ)
  | commit
  | rollback
  | change (rows : ρ → ρ) (policies : List ToolExecutionPolicyRecord)

def toolStep {ρ : Type} (backend : ToolBackend ρ) (conversationId : ℕ) (e : ToolStep ρ)
    (w : ToolWorld ρ) : ToolWorld ρ :=
  match e with
  | .calls request =>
    match executeControlledToolCalls backend conversationId request w.current with
    | (.ok _, db) => { w with current := db }
    | (.error _, db) => ToolWorld.rollback { w with current := db }
  | .commit => { w with committed := w.current }
  | .rollback => w.rollback
  | .change rows policies =>
    ⟨w.committed.change rows policies, w.current.change rows policies⟩

/-! ## repetitions -/

def RuntimeToolAction.writes (a : RuntimeToolAction) : Bool :=
  (getToolContract a.toolName).any ToolContract.isWriteTool

def ToolAnswer.succeeded : ToolAnswer → Bool
  | .ran (some result) => result.ok
  | _ => false

/-- `b` is the action of a write tool that has succeeded in `a`. -/
structure Repeats (a b : ToolEntry) : Prop where
  same : b.action = a.action
  writes : a.action.writes = true
  notHandoff : a.action.toolName ≠ handoffTool
  succeeded : a.answer.succeeded = true

instance (a b : ToolEntry) : Decidable (Repeats a b) :=
  decidable_of_iff (b.action = a.action ∧ a.action.writes = true ∧
      a.action.toolName ≠ handoffTool ∧ a.answer.succeeded = true)
    ⟨fun h => ⟨h.1, h.2.1, h.2.2.1, h.2.2.2⟩,
      fun h => ⟨h.same, h.writes, h.notHandoff, h.succeeded⟩⟩

/-- each action that has succeeded is answered as a duplicate ever after. -/
def NotRepeated (entries : List ToolEntry) : Prop :=
  entries.Pairwise fun a b => Repeats a b → b.answer = .duplicate

def ToolRun.Answers (action : RuntimeToolAction) (key : Option Text) (r : ToolRun) : Prop :=
  r.action.toolName = action.toolName ∧ r.status = "executed" ∧ r.key = key ∧ key ≠ none

/-- the action passes the gate and the registry, and a run before it answers it. -/
def ToolEntry.Known (e : ToolEntry) : Prop :=
  e.permitted = true ∧ ∃ r ∈ e.kept, r.Answers e.action e.key

instance (entries : List ToolEntry) : Decidable (NotRepeated entries) :=
  inferInstanceAs (Decidable (entries.Pairwise fun a b => Repeats a b → b.answer = .duplicate))

/-! ## what the entries say -/

section Invariant
variable {ρ : Type} {backend : ToolBackend ρ} {conversationId : ℕ} {request : ToolCallsRequest ρ}
  {db : ToolDb ρ} {place : ToolPlace} {c : CaseContext} {action : RuntimeToolAction}
  {key : Option Text}

def EntriesOk (db : ToolDb ρ) : Prop := ∀ e ∈ db.entries, e.answer = .duplicate ↔ e.Known

def ToolCallLog.Fits (conversationId : ℕ) (toolName : Text) (key : Text) (log : ToolCallLog) :
    Prop :=
  log.toolName = toolName ∧ log.requestId = some key ∧ log.status = "executed" ∧
    log.webchatConversationId = some (conversationId : ℤ)

def LogsOk (conversationId : ℕ) (db : ToolDb ρ) : Prop :=
  ∀ toolName key, (∃ log ∈ db.logs, log.Fits conversationId toolName key) ↔
    ∃ r ∈ db.kept, r.action.toolName = toolName ∧ r.status = "executed" ∧ r.key = some key

structure ToolDbOk (conversationId : ℕ) (db : ToolDb ρ) : Prop where
  entries : EntriesOk db
  logs : LogsOk conversationId db

lemma existingExecutedLog_isSome {logs : List ToolCallLog} {key : Text} :
    (existingExecutedLog conversationId logs action (some key)).isSome = true ↔
      ∃ log ∈ logs, log.Fits conversationId action.toolName key := by
  unfold existingExecutedLog
  dsimp only
  rw [List.getLast?_isSome, ne_eq, List.filter_eq_nil_iff]
  unfold ToolCallLog.Fits
  simp [and_assoc]

lemma existingExecutedLog_eq_none (hdb : LogsOk conversationId db)
    (h : existingExecutedLog conversationId db.logs action key = none) :
    ∀ r ∈ db.kept, ¬ r.Answers action key := by
  intro r hr hanswers
  obtain ⟨htool, hstatus, hkey, hsome⟩ := hanswers
  cases key with
  | none => exact hsome rfl
  | some key =>
    have hlog := existingExecutedLog_isSome.2 ((hdb action.toolName key).2 ⟨r, hr, htool, hstatus, hkey⟩)
    rw [h] at hlog
    cases hlog

lemma answers_of_existingExecutedLog (hdb : LogsOk conversationId db) {log : ToolCallLog}
    (h : existingExecutedLog conversationId db.logs action key = some log) :
    ∃ r ∈ db.kept, r.Answers action key := by
  cases key with
  | none => cases h
  | some key =>
    have hlog : (existingExecutedLog conversationId db.logs action (some key)).isSome = true := by
      rw [h]
      rfl
    obtain ⟨r, hr, htool, hstatus, hkey⟩ := (hdb _ _).1 (existingExecutedLog_isSome.1 hlog)
    exact ⟨r, hr, htool, hstatus, hkey, Option.some_ne_none key⟩

/-! ## what a call adds -/

lemma entriesOk_append {e : ToolEntry} (h : EntriesOk db) (he : e.answer = .duplicate ↔ e.Known)
    (logs : List ToolCallLog) (policies : List ToolExecutionPolicyRecord) (rows : ρ)
    (kept : List ToolRun) :
    EntriesOk (ρ := ρ) ⟨logs, policies, rows, kept, db.entries ++ [e]⟩ := by
  intro x hx
  rcases List.mem_append.1 hx with hx | hx
  · exact h x hx
  · rw [List.mem_singleton.1 hx]
    exact he

variable {answer : ToolAnswer} {E : ToolDb ρ → Prop} {r : ActionExecutionRequest} {code : String}
  {permitted : Bool} {P : ToolDb ρ → Prop} {kept : List ToolRun} {status : String}
  {policy : Option ToolExecutionPolicyRecord} {allowed : List Text}

lemma noteAnswer_yields (hP : ∀ db, P db → ToolDbOk conversationId db)
    (h : ∀ db, P db → (answer = .duplicate ↔
      (⟨action, key, permitted, db.kept, answer⟩ : ToolEntry).Known)) :
    Yields P (noteAnswer (ρ := ρ) action key permitted answer)
      (fun _ => ToolDbOk conversationId) E := by
  refine Yields.write fun db hdb => ?_
  exact ⟨entriesOk_append (hP db hdb).entries (h db hdb) _ _ _ _, (hP db hdb).logs⟩

lemma not_known_of_refused :
    ¬ (⟨action, key, false, kept, answer⟩ : ToolEntry).Known := by
  intro h
  cases h.1

lemma not_known_of_fresh (h : ∀ r ∈ kept, ¬ r.Answers action key) :
    ¬ (⟨action, key, permitted, kept, answer⟩ : ToolEntry).Known := by
  intro hknown
  obtain ⟨-, r, hr, hanswers⟩ := hknown
  exact h r hr hanswers

structure Owes (conversationId : ℕ) (action : RuntimeToolAction) (key : Option Text)
    (status : String) (db : ToolDb ρ) : Prop where
  entries : EntriesOk db
  logs : ∀ toolName k, ((∃ log ∈ db.logs, log.Fits conversationId toolName k) ∨
      (action.toolName = toolName ∧ key = some k ∧ status = "executed")) ↔
    ∃ r ∈ db.kept, r.action.toolName = toolName ∧ r.status = "executed" ∧ r.key = some k

lemma owes_of_ok (h : ToolDbOk conversationId db) (hs : status ≠ "executed") :
    Owes conversationId action key status db where
  entries := h.entries
  logs := by
    intro toolName k
    rw [← h.logs toolName k]
    constructor
    · rintro (hlog | ⟨-, -, hstatus⟩)
      · exact hlog
      · exact absurd hstatus hs
    · exact Or.inl

lemma writeToolCallLog_yields {result : ActionExecutionResult} :
    Yields (Owes conversationId action key result.status)
      (writeToolCallLog (ρ := ρ) conversationId place c action key result)
      (fun _ => ToolDbOk conversationId) E := by
  refine Yields.write fun db hdb => ⟨hdb.entries, ?_⟩
  intro toolName k
  rw [← hdb.logs toolName k]
  constructor
  · rintro ⟨log, hlog, hfits⟩
    rcases List.mem_append.1 hlog with hlog | hlog
    · exact Or.inl ⟨log, hlog, hfits⟩
    · rw [List.mem_singleton.1 hlog] at hfits
      exact Or.inr ⟨hfits.1, hfits.2.1, hfits.2.2.1⟩
  · rintro (⟨log, hlog, hfits⟩ | ⟨htool, hkey, hstatus⟩)
    · exact ⟨log, List.mem_append_left _ hlog, hfits⟩
    · exact ⟨_, List.mem_append_right _ (List.mem_singleton_self _), htool, hkey, hstatus, rfl⟩

lemma onRows_yields {α : Type} {m : Txn ρ OsrError α}
    (hP : ∀ db rows, P db → P { db with rows := rows }) (hE : ∀ db, P db → E db) :
    Yields P (onRows m) (fun _ => P) E := by
  intro db hdb
  unfold onRows
  cases m db.rows with
  | mk r rows =>
    cases r with
    | ok a => exact hP db rows hdb
    | error e => exact hE _ (hP db rows hdb)

lemma runHandler_yields {handler : Handler ρ} :
    Yields (fun db : ToolDb ρ => ToolDbOk conversationId db ∧
        ∀ x ∈ db.kept, ¬ x.Answers r.action r.idempotencyKey)
      (runHandler handler r)
      (fun result => Owes conversationId r.action r.idempotencyKey result.status) EntriesOk := by
  rintro db ⟨hdb, hfresh⟩
  have hnew : ∀ result, ToolAnswer.ran result = .duplicate ↔
      (⟨r.action, r.idempotencyKey, true, db.kept, .ran result⟩ : ToolEntry).Known := by
    intro result
    constructor
    · intro h
      cases h
    · intro h
      exact absurd h (not_known_of_fresh hfresh)
  unfold runHandler
  cases hrun : handler r db.rows with
  | mk result rows =>
    cases result with
    | error e => exact entriesOk_append hdb.entries (hnew none) _ _ _ _
    | ok result =>
      refine ⟨entriesOk_append hdb.entries (hnew _) _ _ _ _, ?_⟩
      intro toolName k
      show (∃ log ∈ db.logs, _) ∨ _ ↔ ∃ x ∈ db.kept ++ [_], _
      rw [hdb.logs toolName k]
      constructor
      · rintro (⟨x, hx, hfits⟩ | ⟨htool, hkey, hstatus⟩)
        · exact ⟨x, List.mem_append_left _ hx, hfits⟩
        · exact ⟨_, List.mem_append_right _ (List.mem_singleton_self _), htool, hstatus, hkey⟩
      · rintro ⟨x, hx, htool, hstatus, hkey⟩
        rcases List.mem_append.1 hx with hx | hx
        · exact Or.inl ⟨x, hx, htool, hstatus, hkey⟩
        · rw [List.mem_singleton.1 hx] at htool hstatus hkey
          exact Or.inr ⟨htool, hkey, hstatus⟩

lemma blocked_ne_executed : "blocked" ≠ "executed" := by decide

lemma executorRefusal_status {py : PyText}
    (h : executorRefusal py policy allowed r = some (status, code)) : status ≠ "executed" := by
  unfold executorRefusal at h
  cases policy with
  | none =>
    cases h
    decide
  | some policy =>
    dsimp only at h
    split_ifs at h <;> cases h <;> decide

lemma execute_yields {handler : Option (Handler ρ)} :
    Yields (fun db : ToolDb ρ => ToolDbOk conversationId db ∧
        ∀ x ∈ db.kept, ¬ x.Answers r.action r.idempotencyKey)
      (execute backend policy allowed handler r)
      (fun result => Owes conversationId r.action r.idempotencyKey result.status) EntriesOk := by
  have hnote : ∀ result : ActionExecutionResult, result.status ≠ "executed" →
      Yields (fun db : ToolDb ρ => ToolDbOk conversationId db ∧
          ∀ x ∈ db.kept, ¬ x.Answers r.action r.idempotencyKey)
        (noteAnswer r.action r.idempotencyKey true .executor >>= fun _ => pure result)
        (fun result => Owes conversationId r.action r.idempotencyKey result.status)
        EntriesOk := by
    intro result hstatus
    refine Yields.bind (noteAnswer_yields (fun db hdb => hdb.1) fun db hdb => ?_) fun _ => ?_
    · constructor
      · intro h
        cases h
      · intro h
        exact absurd h (not_known_of_fresh hdb.2)
    · exact Yields.pure fun db hdb => owes_of_ok hdb hstatus
  unfold execute
  cases hrefusal : executorRefusal backend.py policy allowed r with
  | some refusal =>
    obtain ⟨status, code⟩ := refusal
    exact hnote ⟨false, r.action.toolName, status, none, some code⟩
      (executorRefusal_status hrefusal)
  | none =>
    cases handler with
    | none => exact hnote ⟨false, r.action.toolName, "blocked", none, _⟩ blocked_ne_executed
    | some handler => exact runHandler_yields

lemma executeFresh_yields :
    Yields (fun db : ToolDb ρ => ToolDbOk conversationId db ∧
        ∀ x ∈ db.kept, ¬ x.Answers action key)
      (executeFresh backend conversationId request place c action key)
      (fun _ => ToolDbOk conversationId) EntriesOk := by
  unfold executeFresh
  refine Yields.bind (R := fun _ db => ToolDbOk conversationId db ∧
    ∀ x ∈ db.kept, ¬ x.Answers action key) (Yields.read fun db hdb => hdb) fun policies => ?_
  refine Yields.bind (execute_yields (r := actionRequest request place c action key)) fun result => ?_
  cases result.caseContext with
  | none => exact Yields.bind writeToolCallLog_yields fun _ => Yields.pure fun _ h => h
  | some next =>
    refine Yields.bind
      (onRows_yields (fun db rows h => ⟨h.entries, h.logs⟩) fun db h => h.entries) fun _ => ?_
    exact Yields.bind writeToolCallLog_yields fun _ => Yields.pure fun _ h => h

lemma refuseAction_yields (hanswer : answer ≠ .duplicate) :
    Yields (ToolDbOk (ρ := ρ) conversationId)
      (refuseAction conversationId place c action key answer code)
      (fun _ => ToolDbOk conversationId) EntriesOk := by
  unfold refuseAction
  refine Yields.bind (noteAnswer_yields (fun db hdb => hdb) fun db hdb => ?_) fun _ => ?_
  · constructor
    · intro h
      exact absurd h hanswer
    · intro h
      exact absurd h not_known_of_refused
  · refine Yields.bind ?_ fun _ => Yields.pure fun db hdb => hdb
    exact writeToolCallLog_yields.pre fun db hdb => owes_of_ok hdb blocked_ne_executed

lemma executeAction_yields :
    Yields (ToolDbOk (ρ := ρ) conversationId)
      (executeAction backend conversationId request place c action)
      (fun _ => ToolDbOk conversationId) EntriesOk := by
  unfold executeAction
  cases registryError request.options action with
  | some code =>
    exact Yields.bind (refuseAction_yields (by nofun)) fun r => Yields.pure fun db hdb => hdb
  | none =>
    refine Yields.bind (R := fun logs db => ToolDbOk conversationId db ∧ logs = db.logs)
      (Yields.read fun db hdb => ⟨hdb, rfl⟩) fun logs => ?_
    cases hlog : existingExecutedLog conversationId logs action
        (keyOfAction backend request place c action) with
    | none =>
      refine executeFresh_yields.pre fun db hdb => ⟨hdb.1, ?_⟩
      rw [hdb.2] at hlog
      exact existingExecutedLog_eq_none hdb.1.logs hlog
    | some log =>
      refine Yields.bind (noteAnswer_yields (fun db hdb => hdb.1) fun db hdb => ?_) fun _ =>
        Yields.pure fun db hdb => hdb
      rw [hdb.2] at hlog
      have hanswers := answers_of_existingExecutedLog hdb.1.logs hlog
      exact ⟨fun _ => ⟨rfl, hanswers⟩, fun _ => rfl⟩

lemma executeActions_yields (actions : List RuntimeToolAction) :
    Yields (ToolDbOk (ρ := ρ) conversationId)
      (executeActions backend conversationId request place c actions)
      (fun _ => ToolDbOk conversationId) EntriesOk := by
  induction actions generalizing c with
  | nil => exact Yields.pure fun db hdb => hdb
  | cons action actions ih =>
    unfold executeActions
    refine Yields.bind executeAction_yields fun r => ?_
    exact Yields.bind ih fun results => Yields.pure fun db hdb => hdb

lemma blockActions_yields (actions : List RuntimeToolAction) :
    Yields (ToolDbOk (ρ := ρ) conversationId)
      (blockActions backend conversationId request place code actions)
      (fun _ => ToolDbOk conversationId) EntriesOk := by
  induction actions with
  | nil => exact Yields.pure fun db hdb => hdb
  | cons action actions ih =>
    unfold blockActions
    refine Yields.bind (refuseAction_yields (by nofun)) fun r => ?_
    exact Yields.bind ih fun results => Yields.pure fun db hdb => hdb

variable (backend request) in
lemma executeControlledToolCalls_yields :
    Yields (ToolDbOk (ρ := ρ) conversationId)
      (executeControlledToolCalls backend conversationId request)
      (fun _ => ToolDbOk conversationId) EntriesOk := by
  unfold executeControlledToolCalls
  refine Yields.bind (R := fun _ => ToolDbOk conversationId)
    (Yields.read fun db hdb => hdb) fun place => ?_
  cases gateViolations backend.schemaOk request.options request.toolCalls with
  | nil => exact executeActions_yields _
  | cons code codes => exact blockActions_yields _

end Invariant

/-! ## whole runs -/

section Worlds
variable {ρ : Type} {backend : ToolBackend ρ} {conversationId : ℕ} {w : ToolWorld ρ}

structure ToolWorldOk (conversationId : ℕ) (w : ToolWorld ρ) : Prop where
  committed : LogsOk conversationId w.committed
  current : ToolDbOk conversationId w.current

lemma toolWorldOk_start (others : List ToolCallLog) (policies : List ToolExecutionPolicyRecord)
    (rows : ρ) : ToolWorldOk conversationId (ToolWorld.start conversationId others policies rows) := by
  have hlogs : LogsOk conversationId (⟨others.filter fun log =>
      log.webchatConversationId ≠ some conversationId, policies, rows, [], []⟩ : ToolDb ρ) := by
    intro toolName k
    constructor
    · intro h
      obtain ⟨log, hlog, hfits⟩ := h
      have hother := (List.mem_filter.1 hlog).2
      rw [hfits.2.2.2] at hother
      simp at hother
    · intro h
      obtain ⟨r, hr, -⟩ := h
      cases hr
  have hentries : EntriesOk (⟨others.filter fun log =>
      log.webchatConversationId ≠ some conversationId, policies, rows, [], []⟩ : ToolDb ρ) := by
    intro e he
    cases he
  exact ⟨hlogs, ⟨hentries, hlogs⟩⟩

lemma toolWorldOk_rollback (hcommitted : LogsOk conversationId w.committed)
    (hentries : EntriesOk w.current) : ToolWorldOk conversationId w.rollback :=
  ⟨hcommitted, ⟨hentries, hcommitted⟩⟩

lemma toolWorldOk_step (h : ToolWorldOk conversationId w) (e : ToolStep ρ) :
    ToolWorldOk conversationId (toolStep backend conversationId e w) := by
  cases e with
  | calls request =>
    have hspec := executeControlledToolCalls_yields (ρ := ρ) backend request
      w.current h.current
    unfold toolStep
    dsimp only
    cases hrun : executeControlledToolCalls backend conversationId request w.current with
    | mk r db =>
      rw [hrun] at hspec
      cases r with
      | ok results => exact ⟨h.committed, hspec⟩
      | error e => exact toolWorldOk_rollback (w := { w with current := db }) h.committed hspec
  | commit => exact ⟨h.current.logs, h.current⟩
  | rollback => exact toolWorldOk_rollback h.committed h.current.entries
  | change rows policies => exact ⟨h.committed, ⟨h.current.entries, h.current.logs⟩⟩

end Worlds

theorem not_repeated_iff {ρ : Type} (backend : ToolBackend ρ) (conversationId : ℕ)
    (others : List ToolCallLog) (policies : List ToolExecutionPolicyRecord) (rows : ρ)
    (l : List (ToolStep ρ)) :
    let entries := (run (toolStep backend conversationId)
      (ToolWorld.start conversationId others policies rows) l).current.entries
    NotRepeated entries ↔ entries.Pairwise fun a b => Repeats a b → b.Known := by
  intro entries
  have hok : ToolWorldOk conversationId (run (toolStep backend conversationId)
      (ToolWorld.start conversationId others policies rows) l) :=
    Along.invariant (I := ToolWorldOk conversationId) (fun w e hw _ => toolWorldOk_step hw e)
      (toolWorldOk_start others policies rows) (along_true _ l)
  have hentries : ∀ b ∈ entries, b.answer = .duplicate ↔ b.Known := hok.current.entries
  unfold NotRepeated
  constructor
  · intro h
    refine h.imp_of_mem fun {a b} _ hb hab hrepeats => (hentries b hb).1 (hab hrepeats)
  · intro h
    refine h.imp_of_mem fun {a b} _ hb hab hrepeats => (hentries b hb).2 (hab hrepeats)

/-- the digest is the text itself. -/
def sampleToolEnv : AgentEnv where
  tickets := ⟨0, id, fun _ => "20260101".toList, fun _ => "A1".toList⟩
  py := { sha256 := id, lower := List.map Char.toLower, str := fun _ => [] }
  upper := List.map Char.toUpper
  schemaOk := fun _ _ => true
  redact := fun value limit =>
    match value with
    | .str s => s.take limit
    | _ => []
  channelKey := "webchat".toList
  controlCustomer := none
  phone := fun _ => some "+48600100200".toList
  workOrdersEnabled := true
  outcome := fun _ => .ok { ok := true, status := "executed", answers := executed_ne }
  handoffError := none

def sampleTicket (country : Option Text) : Ticket where
  ticketNo := "T-1".toList
  title := []
  description := []
  customerId := 1
  sourceChannel := .webChat
  priority := .medium
  status := .new
  conversationState := .aiActive
  assigneeId := none
  preferredReplyContact := none
  countryCode := country
  caseType := none
  customerRequest := none
  requiredAction := none
  missingFields := none
  reopenCount := 0
  resolvedAt := none
  closedAt := none
  updatedAt := 0

def sampleToolRows (ticket : Option Ticket) : AgentRows where
  session := Session.start
    { conversation := ⟨"wc".toList, none, ticket.map fun _ => 1, 0⟩
      customers := (Table.empty).insert ⟨"Ada".toList, none⟩
      tickets := ticket.elim Table.empty Table.empty.insert
      events := Table.empty
      contexts := Table.empty } []
  jobs := []
  notes := []

def sampleToolPolicies : List ToolExecutionPolicyRecord :=
  ["speedaf.workOrder.create", "timeline.event.create"].map fun name =>
    { toolName := name.toList, aiAutoExecutable := true }

def sampleToolOptions : GovernedToolExecutionOptions where
  allowHighRiskWriteExecution := true
  allowedHighRiskWriteTools := ["speedaf.workOrder.create".toList]

def sampleToolRequest (ticket : Option ℕ) (call : AIDecisionToolCall) :
    ToolCallsRequest AgentRows where
  toolCalls := [call]
  caseContext := { conversationId := some 1 }
  ticket := ticket
  options := sampleToolOptions
  bound := buildAgentToolHandlers sampleToolEnv ⟨ticket, some 1⟩

def workOrderCall : AIDecisionToolCall :=
  ⟨"speedaf.workOrder.create".toList, .dict [("tracking_number".toList, .str "PL12345678".toList),
    ("work_order_type".toList, .str "WT0103-05".toList)]⟩

def noteCall : AIDecisionToolCall :=
  ⟨"timeline.event.create".toList, .dict [("summary".toList, .str "called".toList)]⟩

def sampleToolRun (rows : AgentRows) (l : List (ToolStep AgentRows)) : ToolWorld AgentRows :=
  run (toolStep (agentBackend sampleToolEnv 1) 1) (ToolWorld.start 1 [] sampleToolPolicies rows) l

/-- a work order is logged as queued, so the same call queues it again; and once the conversation
has a ticket with a country, the key of a note is another one. -/
theorem write_tools_repeat :
    ¬ NotRepeated (sampleToolRun (sampleToolRows (some (sampleTicket none)))
      [.calls (sampleToolRequest (some 1) workOrderCall), .commit,
        .calls (sampleToolRequest (some 1) workOrderCall)]).current.entries ∧
    ¬ NotRepeated (sampleToolRun (sampleToolRows none)
      [.calls (sampleToolRequest none noteCall), .commit,
        .change (fun _ => sampleToolRows (some (sampleTicket (some "PL".toList))))
          sampleToolPolicies,
        .calls (sampleToolRequest none noteCall)]).current.entries := by
  constructor
  · decide +kernel
  · decide +kernel

end NexusHelpdesk.Osr
