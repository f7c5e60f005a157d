import NexusHelpdesk.Osr.Rounds
import NexusHelpdesk.Osr.SingleCall
import NexusHelpdesk.Osr.NotRepeated

/-!
# Confirmed tools

* `AgentStep`, `agentStep`: the visitor's messages, the reply jobs and the Agent's calls of one
  conversation;
* `ConfirmedExactly`: a tool that needs a confirmation runs under one, once, and is not asked
  for again while it stands;
* `SafeCall`, `SafeStep`: the conditions on a call and on a step;
* `confirmed_exactly`: **they are enough in every run**.
-/

namespace NexusHelpdesk.Osr

open Lib Cases

/-! ## runs -/

inductive AgentStep (ρ : Type) where
  | message (body : Text)
  | wait (d : ℕ)
  | change (rows : ρ → ρ) (policies : List ToolExecutionPolicyRecord)
  /-- `_resolve_customer_confirmation` of a reply job of the visitor message. -/
  | resolve (messageId : ℕ)
  /-- `_execute_confirmed_action` of a reply job that has this confirmation in hand. -/
  | confirmed (id : ℕ) (ctx : AgentExecutionContext) (commits : Bool)
  /-- the calls of one round of an Agent's run. -/
  | calls (ctx : AgentExecutionContext) (calls : List AgentToolCall) (commits : Bool)

section Steps
variable {ρ : Type} (rt : AgentRuntime ρ)

/-- the calls of a confirmed action: its own, unless the tool is not available any more. -/
def confirmedCalls (id : ℕ) (ctx : AgentExecutionContext) (s : AgentDb ρ) : List AgentToolCall :=
  match s.confirmations.get? id with
  | none => []
  | some row =>
    if row.status = .confirmed ∧ row.toolName ∈ ctx.allowedTools then [row.call] else []

/-- `_execute_confirmed_action` allows no high-risk writes. -/
def AgentExecutionContext.ofJob (ctx : AgentExecutionContext) : AgentExecutionContext :=
  { ctx with allowHighRiskWrites := false, humanConfirmationGranted := false }

def agentStep (e : AgentStep ρ) (s : AgentDb ρ) : AgentDb ρ :=
  match e with
  | .message body => { s with messages := s.messages ++ [body] }
  | .wait d => { s with now := s.now + d }
  | .change rows policies => { s with tools := s.tools.change rows policies }
  | .resolve messageId =>
    match s.messages[messageId - 1]? with
    | some body => if 0 < messageId then resolveConfirmation messageId body s else s
    | none => s
  | .confirmed id ctx commits => callRound rt ctx.ofJob (confirmedCalls id ctx s) commits s
  | .calls ctx calls commits => callRound rt ctx calls commits s

end Steps

/-! ## the property -/

/-- it was confirmed by a message newer than the one that it was asked after. -/
def AgentToolConfirmation.Answered (row : AgentToolConfirmation) : Prop :=
  ∃ m ∈ row.responseMessageId, ∀ q ∈ row.requestedMessageId, q < m

instance (row : AgentToolConfirmation) : Decidable row.Answered :=
  inferInstanceAs (Decidable (∃ m ∈ row.responseMessageId, ∀ q ∈ row.requestedMessageId, q < m))

def AgentCallEntry.handlerRan (e : AgentCallEntry) : Bool :=
  match e.answer with
  | some (.ran _) => true
  | _ => false

def AgentCallEntry.succeeded (e : AgentCallEntry) : Bool :=
  match e.answer with
  | some (.ran (some result)) => result.ok
  | _ => false

def AgentCallEntry.asked (e : AgentCallEntry) : Bool :=
  match e.result with
  | some result => result.status = "confirmation_required"
  | none => false

section Property
variable (py : PyText)

structure AgentToolConfirmation.Allows (call : AgentToolCall) (now : Instant)
    (row : AgentToolConfirmation) : Prop where
  about : row.isAbout py call = true
  confirmed : row.status = .confirmed
  unexpired : now < row.expiresAt
  answered : row.Answered

/-- the customer has confirmed the call; this is neither expired nor consumed. -/
structure AgentToolConfirmation.Stands (call : AgentToolCall) (now : Instant)
    (row : AgentToolConfirmation) : Prop where
  about : row.isAbout py call = true
  answered : row.Answered
  unexpired : now < row.expiresAt
  granted : row.status ≠ .denied
  unused : row.status ≠ .consumed

instance (call : AgentToolCall) (now : Instant) (row : AgentToolConfirmation) :
    Decidable (row.Stands py call now) :=
  decidable_of_iff (row.isAbout py call = true ∧ row.Answered ∧ now < row.expiresAt ∧
    row.status ≠ .denied ∧ row.status ≠ .consumed)
    ⟨fun ⟨h₁, h₂, h₃, h₄, h₅⟩ => ⟨h₁, h₂, h₃, h₄, h₅⟩,
      fun h => ⟨h.about, h.answered, h.unexpired, h.granted, h.unused⟩⟩

structure ConfirmedExactly (calls : List AgentCallEntry) : Prop where
  /-- a handler that needs a confirmation runs under one that allows the call. -/
  confirmed : ∀ e ∈ calls, e.call.contract.confirmationRequired = true → e.handlerRan = true →
    ∃ id row, e.grant = some id ∧ e.confirmations.get? id = some row ∧ row.Allows py e.call e.now
  /-- a confirmation lets the handler succeed once, unless this is rolled back. -/
  once : calls.Pairwise fun a b => a.succeeded = true → a.undone = false → b.succeeded = true →
    ∀ id, a.grant = some id → b.grant ≠ some id
  /-- the customer is not asked again while a confirmation stands. -/
  quiet : ∀ e ∈ calls, e.asked = true → ∀ id row, e.confirmations.get? id = some row →
    ¬ row.Stands py e.call e.now

end Property

/-! ## the conditions -/

section Conditions
variable {ρ : Type} (rt : AgentRuntime ρ) (ctx : AgentExecutionContext)

def grantOf (call : AgentToolCall) (s : AgentDb ρ) : Option ℕ := (takeConfirmation rt call s).1

def callRequest (call : AgentToolCall) (s : AgentDb ρ) : ToolCallsRequest ρ :=
  toolRequest rt ctx s.tools.rows call (grantOf rt call s).isSome

def callAction (call : AgentToolCall) : RuntimeToolAction :=
  runtimeToolAction rt.backend.py (call.toolName, call.arguments)

def callEvaluation (call : AgentToolCall) (s : AgentDb ρ) (policy : ToolExecutionPolicyRecord) :
    ToolPolicyDecision :=
  let r := actionRequest (callRequest rt ctx call s)
    (requestPlace rt.backend (callRequest rt ctx call s) s.tools) (startContext rt ctx)
    (callAction rt call) none
  policy.evaluate r.channel r.countryCode r.hasTrackingNumber r.hasContact

structure Allowed (call : AgentToolCall) (s : AgentDb ρ) (policy : ToolExecutionPolicyRecord) :
    Prop where
  fresh : Fresh rt.backend rt.conversationId (callRequest rt ctx call s) (callAction rt call) s.tools
  found : actionPolicy s.tools.policies (requestPlace rt.backend (callRequest rt ctx call s) s.tools)
    (callAction rt call) = some policy
  allowed : (callEvaluation rt ctx call s policy).allowed = true

/-- the policy asks for the customer's confirmation exactly where the contract needs it, for no
outstanding confirmation of a human; and no other confirmation stands when the customer is asked. -/
structure SafeCall (call : AgentToolCall) (s : AgentDb ρ) : Prop where
  agrees : ∀ policy, Allowed rt ctx call s policy →
    policy.requiresCustomerConfirmation = call.contract.confirmationRequired
  human : ∀ policy, Allowed rt ctx call s policy → policy.requiresHumanConfirmation = true →
    ctx.humanConfirmationGranted = true
  alone : ∀ policy, Allowed rt ctx call s policy → call.contract.confirmationRequired = true →
    grantOf rt call s = none → ∀ id row, s.confirmations.get? id = some row →
      row.status = .confirmed → row.expiresAt ≤ s.now

def SafeCalls : List AgentToolCall → AgentDb ρ → Prop := CallsAlong rt ctx (SafeCall rt ctx)

/-- a reply job confirms by a message that is newer than the question. -/
def SafeResolve (messageId : ℕ) (s : AgentDb ρ) : Prop :=
  ∀ id row body, activeConfirmation s.confirmations = some (id, row) → row.isDue s.now = false →
    row.status = .pending → s.messages[messageId - 1]? = some body →
    classifyResponse body = .confirmed → ∀ q, row.requestedMessageId = some q → q < messageId

def SafeStep (s : AgentDb ρ) (e : AgentStep ρ) : Prop :=
  match e with
  | .resolve messageId => SafeResolve messageId s
  | .confirmed id ctx commits => SafeCalls rt ctx.ofJob (confirmedCalls id ctx s) s
  | .calls ctx calls commits => SafeCalls rt ctx calls s
  | _ => True

end Conditions

/-! ## confirmations -/

def NeedsConfirmation (toolName : Text) : Prop :=
  ∀ c ∈ toolContracts, c.name = toolName → c.confirmationRequired = true

lemma needsConfirmation_of_registered :
    ∀ c ∈ toolContracts, c.confirmationRequired = true → NeedsConfirmation c.name := by
  unfold NeedsConfirmation
  decide +kernel

structure RowOk (tenantKey : Text) (now : Instant) (row : AgentToolConfirmation) : Prop where
  tenant : row.tenantKey = tenantKey
  needs : NeedsConfirmation row.toolName
  pending : row.status = .pending → row.responseMessageId = none
  confirmed : row.status = .confirmed → row.Answered
  expired : row.status = .expired → row.expiresAt ≤ now
  cancelled : row.status = .cancelled → row.responseMessageId = none ∨ row.expiresAt ≤ now

structure RowsOk (tenantKey : Text) (now : Instant) (rows : Table AgentToolConfirmation) : Prop where
  row : ∀ id row, rows.get? id = some row → RowOk tenantKey now row
  unique : ∀ i j a b, rows.get? i = some a → rows.get? j = some b → a.status.isActive = true →
    b.status.isActive = true → i = j

section Rows
variable {tenantKey : Text} {now : Instant} {rows : Table AgentToolConfirmation} {id : ℕ}
  {row : AgentToolConfirmation}

lemma activeConfirmation_eq_some (h : activeConfirmation rows = some (id, row)) :
    rows.get? id = some row ∧ row.status.isActive = true :=
  (rows.mem_select).1 (List.mem_of_mem_head? h)

lemma activeConfirmation_eq_none (h : activeConfirmation rows = none) (hrow : rows.get? id = some row) :
    row.status.isActive = false := by
  by_contra hactive
  have hmem : (id, row) ∈ rows.select fun _ row => row.status.isActive :=
    (rows.mem_select).2 ⟨hrow, by simpa using hactive⟩
  rw [List.head?_eq_none_iff.1 h] at hmem
  cases hmem

lemma RowOk.later (h : RowOk tenantKey now row) {d : ℕ} : RowOk tenantKey (now + d) row where
  tenant := h.tenant
  needs := h.needs
  pending := h.pending
  confirmed := h.confirmed
  expired := fun hs => (h.expired hs).trans (le_add_of_nonneg_right (Int.natCast_nonneg d))
  cancelled := fun hs => (h.cancelled hs).imp_right fun hdue =>
    hdue.trans (le_add_of_nonneg_right (Int.natCast_nonneg d))

lemma RowsOk.modify (h : RowsOk tenantKey now rows) (hrow : rows.get? id = some row)
    {f : AgentToolConfirmation → AgentToolConfirmation} (hf : RowOk tenantKey now (f row))
    (hactive : (f row).status.isActive = true → row.status.isActive = true) :
    RowsOk tenantKey now (rows.modify id f) := by
  have hget : ∀ i a, (rows.modify id f).get? i = some a →
      (i = id ∧ a = f row) ∨ (i ≠ id ∧ rows.get? i = some a) := by
    intro i a ha
    rw [Table.get?_modify] at ha
    by_cases hi : i = id
    · subst hi
      rw [if_pos rfl, hrow] at ha
      exact Or.inl ⟨rfl, (Option.some.inj ha).symm⟩
    · rw [if_neg hi] at ha
      exact Or.inr ⟨hi, ha⟩
  -- the row before the change, as active as after it
  have hold : ∀ i a, (rows.modify id f).get? i = some a → a.status.isActive = true →
      ∃ b, rows.get? i = some b ∧ b.status.isActive = true := by
    intro i a ha hi
    rcases hget i a ha with ⟨rfl, rfl⟩ | ⟨-, ha⟩
    · exact ⟨row, hrow, hactive hi⟩
    · exact ⟨a, ha, hi⟩
  constructor
  · intro i a ha
    rcases hget i a ha with ⟨-, rfl⟩ | ⟨-, ha⟩
    · exact hf
    · exact h.row i a ha
  · intro i j a b ha hb hia hjb
    obtain ⟨a', ha', hia'⟩ := hold i a ha hia
    obtain ⟨b', hb', hjb'⟩ := hold j b hb hjb
    exact h.unique i j a' b' ha' hb' hia' hjb'

lemma RowsOk.insert (h : RowsOk tenantKey now rows)
    (hnone : ∀ i a, rows.get? i = some a → a.status.isActive = false)
    (hrow : RowOk tenantKey now row) : RowsOk tenantKey now (rows.insert row) := by
  have hget : ∀ i a, (rows.insert row).get? i = some a →
      (i = rows.next ∧ a = row) ∨ rows.get? i = some a := by
    intro i a ha
    rw [Table.get?_insert] at ha
    by_cases hi : i = rows.next
    · rw [if_pos hi] at ha
      exact Or.inl ⟨hi, (Option.some.inj ha).symm⟩
    · rw [if_neg hi] at ha
      exact Or.inr ha
  constructor
  · intro i a ha
    rcases hget i a ha with ⟨-, rfl⟩ | ha
    · exact hrow
    · exact h.row i a ha
  · intro i j a b ha hb hia hjb
    rcases hget i a ha with ⟨rfl, rfl⟩ | ha
    · rcases hget j b hb with ⟨rfl, rfl⟩ | hb
      · rfl
      · rw [hnone j b hb] at hjb
        cases hjb
    · rw [hnone i a ha] at hia
      cases hia

lemma isDue_iff : row.isDue now = true ↔ row.expiresAt ≤ now := decide_eq_true_iff

lemma RowOk.expire (h : RowOk tenantKey now row) (hdue : row.isDue now = true) :
    RowOk tenantKey now (withStatus .expired row) where
  tenant := h.tenant
  needs := h.needs
  pending := by nofun
  confirmed := by nofun
  expired := fun _ => isDue_iff.1 hdue
  cancelled := by nofun

lemma RowOk.consume (h : RowOk tenantKey now row) :
    RowOk tenantKey now (withStatus .consumed row) where
  tenant := h.tenant
  needs := h.needs
  pending := by nofun
  confirmed := by nofun
  expired := by nofun
  cancelled := by nofun

lemma RowOk.cancel (h : RowOk tenantKey now row) (hpending : row.status = .pending) :
    RowOk tenantKey now (withStatus .cancelled row) where
  tenant := h.tenant
  needs := h.needs
  pending := by nofun
  confirmed := by nofun
  expired := by nofun
  cancelled := fun _ => Or.inl (h.pending hpending)

end Rows

/-! ## the services on confirmations -/

section Services
variable {ρ : Type} {rt : AgentRuntime ρ} {s : AgentDb ρ} {call : AgentToolCall} {py : PyText}

def AgentDb.RowsOk (tenantKey : Text) (s : AgentDb ρ) : Prop :=
  Osr.RowsOk tenantKey s.now s.confirmations

variable {id m : ℕ} {row : AgentToolConfirmation} {tenantKey body : Text} {t : AgentDb ρ}
  {rows : Table AgentToolConfirmation} {f : AgentToolConfirmation → AgentToolConfirmation}

lemma exactConfirmation_eq_some (h : exactConfirmation py rows call = some (id, row)) :
    rows.get? id = some row ∧ row.status = .confirmed ∧ row.isAbout py call = true := by
  have hmem := (rows.mem_select).1 (List.mem_of_mem_getLast? h)
  simpa using hmem

lemma exactConfirmation_isSome (hrow : rows.get? id = some row)
    (hconfirmed : row.status = .confirmed) (habout : row.isAbout py call = true) :
    ∃ r, exactConfirmation py rows call = some r := by
  cases h : exactConfirmation py rows call with
  | some r => exact ⟨r, rfl⟩
  | none =>
    have hmem : (id, row) ∈ rows.select fun _ row => row.status = .confirmed && row.isAbout py call :=
      (rows.mem_select).2 ⟨hrow, by simp [hconfirmed, habout]⟩
    rw [List.getLast?_eq_none_iff.1 h] at hmem
    cases hmem

/-- what is known of the confirmation that a call is made under. -/
structure Taken (py : PyText) (call : AgentToolCall) (s : AgentDb ρ) (id : ℕ) : Prop where
  found : ∃ row, s.confirmations.get? id = some row ∧ row.status = .confirmed ∧
    row.isAbout py call = true ∧ s.now < row.expiresAt

lemma takeExactConfirmation_some
    (h : takeExactConfirmation py tenantKey call s = (some id, t)) : t = s ∧ Taken py call s id := by
  unfold takeExactConfirmation at h
  cases hexact : exactConfirmation py s.confirmations call with
  | none =>
    rw [hexact] at h
    cases h
  | some r =>
    rw [hexact] at h
    dsimp only at h
    split_ifs at h with hdue htenant
    · cases h
    · cases h
    · cases h
      obtain ⟨hrow, hconfirmed, habout⟩ := exactConfirmation_eq_some hexact
      have hlater : s.now < r.2.expiresAt := by
        rw [isDue_iff, not_le] at hdue
        exact hdue
      exact ⟨rfl, ⟨r.2, hrow, hconfirmed, habout, hlater⟩⟩

lemma takeExactConfirmation_none (hs : s.RowsOk tenantKey)
    (h : takeExactConfirmation py tenantKey call s = (none, t)) :
    ∀ id row, s.confirmations.get? id = some row → row.status = .confirmed →
      row.isAbout py call = true → row.expiresAt ≤ s.now := by
  intro id row hrow hconfirmed habout
  obtain ⟨r, hexact⟩ := exactConfirmation_isSome hrow hconfirmed habout
  obtain ⟨hrow', hconfirmed', -⟩ := exactConfirmation_eq_some hexact
  have hid : id = r.1 := hs.unique id r.1 row r.2 hrow hrow'
    (by rw [hconfirmed]; rfl) (by rw [hconfirmed']; rfl)
  rw [← hid, hrow] at hrow'
  cases hrow'
  unfold takeExactConfirmation at h
  rw [hexact] at h
  dsimp only at h
  split_ifs at h with hdue htenant
  · exact isDue_iff.1 hdue
  · exact absurd (hs.row id _ hrow).tenant htenant
  · cases h

/-- the rest of the state stays. -/
structure SameButRows (s t : AgentDb ρ) : Prop where
  tools : t.tools = s.tools
  messages : t.messages = s.messages
  now : t.now = s.now
  calls : t.calls = s.calls

lemma takeExactConfirmation_same (tenantKey : Text) :
    SameButRows s (takeExactConfirmation py tenantKey call s).2 := by
  unfold takeExactConfirmation
  cases exactConfirmation py s.confirmations call with
  | none => exact ⟨rfl, rfl, rfl, rfl⟩
  | some r =>
    dsimp only
    split_ifs <;> exact ⟨rfl, rfl, rfl, rfl⟩

lemma takeExactConfirmation_rowsOk (hs : s.RowsOk tenantKey) :
    (takeExactConfirmation py tenantKey call s).2.RowsOk tenantKey := by
  unfold takeExactConfirmation
  cases hexact : exactConfirmation py s.confirmations call with
  | none => exact hs
  | some r =>
    obtain ⟨hrow, hconfirmed, habout⟩ := exactConfirmation_eq_some hexact
    dsimp only
    split_ifs with hdue htenant
    · exact hs.modify hrow ((hs.row _ _ hrow).expire hdue) (by nofun)
    · exact hs
    · exact hs

/-! ### the question -/

lemma retireConfirmation_rowsOk {c : AgentToolCall} (hs : s.RowsOk tenantKey)
    (halone : ∀ id row, s.confirmations.get? id = some row → row.status = .confirmed →
      row.expiresAt ≤ s.now) :
    (retireConfirmation c s).RowsOk tenantKey ∧
      ∀ id row, (retireConfirmation c s).confirmations.get? id = some row →
        row.status.isActive = false := by
  unfold retireConfirmation
  cases hactive : activeConfirmation s.confirmations with
  | none => exact ⟨hs, fun id row hrow => activeConfirmation_eq_none hactive hrow⟩
  | some r =>
    obtain ⟨hrow, hisActive⟩ := activeConfirmation_eq_some hactive
    have hok := hs.row _ _ hrow
    dsimp only
    constructor
    · refine hs.modify hrow ?_ fun _ => hisActive
      by_cases hdue : r.2.isDue s.now = true
      · rw [if_pos hdue]
        exact hok.expire hdue
      · rw [if_neg hdue]
        refine hok.cancel ?_
        cases hstatus : r.2.status with
        | pending => rfl
        | confirmed => exact absurd (isDue_iff.2 (halone _ _ hrow hstatus)) hdue
        | denied | expired | consumed | cancelled =>
          rw [hstatus] at hisActive
          cases hisActive
    · intro id row hget
      by_contra hne
      have hthis : row.status.isActive = true := by simpa using hne
      rw [show (s.setConfirmation r.1 _).confirmations = s.confirmations.modify r.1 _ from rfl,
        Table.get?_modify] at hget
      by_cases hid : id = r.1
      · subst hid
        rw [if_pos rfl, hrow] at hget
        rw [← Option.some.inj hget] at hthis
        split_ifs at hthis <;> cases hthis
      · rw [if_neg hid] at hget
        exact hid (hs.unique id r.1 row r.2 hget hrow hthis hisActive)

lemma retireConfirmation_same : SameButRows s (retireConfirmation call s) := by
  unfold retireConfirmation
  cases activeConfirmation s.confirmations with
  | none => exact ⟨rfl, rfl, rfl, rfl⟩
  | some r => exact ⟨rfl, rfl, rfl, rfl⟩

lemma reusableConfirmation_eq_some (h : reusableConfirmation py call s = some id) :
    ∃ row, s.confirmations.get? id = some row ∧ row.status = .pending := by
  unfold reusableConfirmation at h
  cases hactive : activeConfirmation s.confirmations with
  | none =>
    rw [hactive] at h
    cases h
  | some r =>
    rw [hactive] at h
    dsimp only at h
    split_ifs at h with hsame
    cases h
    exact ⟨r.2, (activeConfirmation_eq_some hactive).1, hsame.2.1⟩

lemma createOrReuseConfirmation_rowsOk (hs : s.RowsOk tenantKey)
    (hneeds : NeedsConfirmation call.toolName)
    (halone : ∀ id row, s.confirmations.get? id = some row → row.status = .confirmed →
      row.expiresAt ≤ s.now) :
    (createOrReuseConfirmation py tenantKey call s).RowsOk tenantKey := by
  unfold createOrReuseConfirmation
  cases hreuse : reusableConfirmation py call s with
  | some id =>
    obtain ⟨row, hrow, hpending⟩ := reusableConfirmation_eq_some hreuse
    have hok := hs.row id row hrow
    refine hs.modify hrow ?_ fun hactive => hactive
    exact ⟨hok.tenant, hok.needs, hok.pending, fun h => absurd (hpending.symm.trans h) (by decide),
      fun h => absurd (hpending.symm.trans h) (by decide),
      fun h => absurd (hpending.symm.trans h) (by decide)⟩
  | none =>
    obtain ⟨hretired, hnone⟩ := retireConfirmation_rowsOk (c := call) hs halone
    refine RowsOk.insert hretired hnone ?_
    exact ⟨rfl, hneeds, fun _ => rfl, by nofun, by nofun, by nofun⟩

lemma createOrReuseConfirmation_same (tenantKey : Text) :
    SameButRows s (createOrReuseConfirmation py tenantKey call s) := by
  unfold createOrReuseConfirmation
  cases reusableConfirmation py call s with
  | some id => exact ⟨rfl, rfl, rfl, rfl⟩
  | none =>
    have h : SameButRows s (retireConfirmation call s) := retireConfirmation_same
    exact ⟨h.tools, h.messages, h.now, h.calls⟩

lemma consumeConfirmation_rowsOk (hs : s.RowsOk tenantKey) :
    (consumeConfirmation id s).RowsOk tenantKey := by
  cases hrow : s.confirmations.get? id with
  | some row => exact hs.modify hrow (hs.row id row hrow).consume (by nofun)
  | none =>
    have hsame : (consumeConfirmation id s).confirmations = s.confirmations := by
      refine Table.ext_get? rfl fun j => ?_
      show (s.confirmations.modify id _).get? j = _
      rw [Table.get?_modify]
      by_cases hj : j = id
      · rw [if_pos hj, hj, hrow]
        rfl
      · rw [if_neg hj]
    unfold AgentDb.RowsOk
    rw [hsame]
    exact hs

lemma resolveConfirmation_rowsOk (hs : s.RowsOk tenantKey)
    (hnew : ∀ id row, activeConfirmation s.confirmations = some (id, row) →
      row.isDue s.now = false → row.status = .pending → classifyResponse body = .confirmed →
      ∀ q, row.requestedMessageId = some q → q < m) :
    (resolveConfirmation m body s).RowsOk tenantKey := by
  unfold resolveConfirmation
  cases hactive : activeConfirmation s.confirmations with
  | none => exact hs
  | some r =>
    obtain ⟨hrow, hisActive⟩ := activeConfirmation_eq_some hactive
    have hok := hs.row _ _ hrow
    dsimp only
    by_cases hdue : r.2.isDue s.now = true
    · rw [if_pos hdue]
      exact hs.modify hrow (hok.expire hdue) (by nofun)
    rw [if_neg hdue]
    by_cases hpending : r.2.status = .pending
    · rw [if_neg (not_not.2 hpending)]
      cases hanswer : classifyResponse body with
      | confirmed =>
        refine hs.modify hrow ?_ fun _ => hisActive
        have hanswered := hnew r.1 r.2 hactive (by simpa using hdue) hpending hanswer
        exact ⟨hok.tenant, hok.needs, by nofun, fun _ => ⟨m, rfl, hanswered⟩, by nofun, by nofun⟩
      | denied =>
        refine hs.modify hrow ?_ fun _ => hisActive
        exact ⟨hok.tenant, hok.needs, by nofun, by nofun, by nofun, by nofun⟩
      | ambiguous => exact hs
    · rw [if_pos hpending]
      exact hs

lemma resolveConfirmation_same :
    SameButRows s (resolveConfirmation m body s) := by
  unfold resolveConfirmation
  cases activeConfirmation s.confirmations with
  | none => exact ⟨rfl, rfl, rfl, rfl⟩
  | some r =>
    dsimp only
    split_ifs
    · exact ⟨rfl, rfl, rfl, rfl⟩
    · exact ⟨rfl, rfl, rfl, rfl⟩
    · cases classifyResponse body <;> exact ⟨rfl, rfl, rfl, rfl⟩

/-! ### consumed confirmations -/

def KeepsConsumed (s t : AgentDb ρ) : Prop :=
  ∀ id row, s.confirmations.get? id = some row → row.status = .consumed →
    ∃ row, t.confirmations.get? id = some row ∧ row.status = .consumed

lemma KeepsConsumed.trans {u : AgentDb ρ} (h : KeepsConsumed s t) (h' : KeepsConsumed t u) :
    KeepsConsumed s u := by
  intro id row hrow hconsumed
  obtain ⟨row', hrow', hconsumed'⟩ := h id row hrow hconsumed
  exact h' id row' hrow' hconsumed'

lemma keepsConsumed_setConfirmation
    (h : ∀ row, s.confirmations.get? id = some row → row.status = .consumed →
      (f row).status = .consumed) : KeepsConsumed s (s.setConfirmation id f) := by
  intro i row hrow hconsumed
  show ∃ row, (s.confirmations.modify id f).get? i = some row ∧ _
  rw [Table.get?_modify]
  by_cases hi : i = id
  · subst hi
    rw [if_pos rfl, hrow]
    exact ⟨f row, rfl, h row hrow hconsumed⟩
  · rw [if_neg hi]
    exact ⟨row, hrow, hconsumed⟩

lemma keepsConsumed_of_status (hrow : s.confirmations.get? id = some row)
    (hstatus : row.status ≠ .consumed) :
    KeepsConsumed s (s.setConfirmation id f) := by
  refine keepsConsumed_setConfirmation fun row' hrow' hconsumed => ?_
  rw [hrow] at hrow'
  cases hrow'
  exact absurd hconsumed hstatus

lemma ne_consumed_of_isActive {status : ConfirmationStatus} (h : status.isActive = true) :
    status ≠ .consumed := by
  rintro rfl
  cases h

lemma takeConfirmation_keepsConsumed : KeepsConsumed s (takeConfirmation rt call s).2 := by
  unfold takeConfirmation
  by_cases hneeds : call.contract.confirmationRequired = true
  · rw [if_pos hneeds]
    unfold takeExactConfirmation
    cases hexact : exactConfirmation rt.backend.py s.confirmations call with
    | none => exact fun id row hrow h => ⟨row, hrow, h⟩
    | some r =>
      obtain ⟨hrow, hconfirmed, -⟩ := exactConfirmation_eq_some hexact
      dsimp only
      split_ifs
      · exact keepsConsumed_of_status hrow (by rw [hconfirmed]; decide)
      · exact fun id row hrow h => ⟨row, hrow, h⟩
      · exact fun id row hrow h => ⟨row, hrow, h⟩
  · rw [if_neg hneeds]
    exact fun id row hrow h => ⟨row, hrow, h⟩

lemma createOrReuseConfirmation_keepsConsumed (tenantKey : Text) :
    KeepsConsumed s (createOrReuseConfirmation py tenantKey call s) := by
  unfold createOrReuseConfirmation
  cases hreuse : reusableConfirmation py call s with
  | some id =>
    obtain ⟨row, hrow, hpending⟩ := reusableConfirmation_eq_some hreuse
    exact keepsConsumed_of_status hrow (by rw [hpending]; decide)
  | none =>
    have hretire : KeepsConsumed s (retireConfirmation call s) := by
      unfold retireConfirmation
      cases hactive : activeConfirmation s.confirmations with
      | none => exact fun id row hrow h => ⟨row, hrow, h⟩
      | some r =>
        obtain ⟨hrow, hisActive⟩ := activeConfirmation_eq_some hactive
        exact keepsConsumed_of_status hrow (ne_consumed_of_isActive hisActive)
    refine hretire.trans fun id row hrow h => ⟨row, ?_, h⟩
    exact Table.get?_insert_of_some _ hrow

lemma consumeConfirmation_keepsConsumed : KeepsConsumed s (consumeConfirmation id s) :=
  keepsConsumed_setConfirmation fun _ _ _ => rfl

lemma resolveConfirmation_keepsConsumed :
    KeepsConsumed s (resolveConfirmation m body s) := by
  unfold resolveConfirmation
  cases hactive : activeConfirmation s.confirmations with
  | none => exact fun id row hrow h => ⟨row, hrow, h⟩
  | some r =>
    obtain ⟨hrow, hisActive⟩ := activeConfirmation_eq_some hactive
    have hne := ne_consumed_of_isActive hisActive
    dsimp only
    split_ifs
    · exact keepsConsumed_of_status hrow hne
    · exact fun id row hrow h => ⟨row, hrow, h⟩
    · cases classifyResponse body with
      | confirmed => exact keepsConsumed_of_status hrow hne
      | denied => exact keepsConsumed_of_status hrow hne
      | ambiguous => exact fun id row hrow h => ⟨row, hrow, h⟩

end Services

/-! ## refusals -/

section Refusals
variable {py : PyText} {policy : Option ToolExecutionPolicyRecord} {allowedHighRisk : List Text}
  {r : ActionExecutionRequest}

def ActionExecutionRequest.evaluation (r : ActionExecutionRequest)
    (p : ToolExecutionPolicyRecord) : ToolPolicyDecision :=
  p.evaluate r.channel r.countryCode r.hasTrackingNumber r.hasContact

lemma evaluate_allowed {p : ToolExecutionPolicyRecord} (h : (r.evaluation p).allowed = true) :
    r.evaluation p = ⟨true, "allowed", p.requiresCustomerConfirmation,
      p.requiresHumanConfirmation⟩ := by
  unfold ActionExecutionRequest.evaluation ToolExecutionPolicyRecord.evaluate at h ⊢
  split_ifs at h ⊢
  rfl

lemma executorRefusal_none (h : executorRefusal py policy allowedHighRisk r = none) :
    ∃ p, policy = some p ∧ (r.evaluation p).allowed = true ∧
      (p.requiresCustomerConfirmation = true → r.customerConfirmationGranted = true) := by
  cases policy with
  | none => cases h
  | some p =>
    unfold executorRefusal at h
    change (if (r.evaluation p).allowed = false then _ else _) = none at h
    by_cases hallowed : (r.evaluation p).allowed = false
    · rw [if_pos hallowed] at h
      cases h
    · rw [if_neg hallowed] at h
      have hthis : (r.evaluation p).allowed = true := by simpa using hallowed
      refine ⟨p, rfl, hthis, fun hrequires => ?_⟩
      by_contra hgranted
      have hasks : (r.evaluation p).requiresCustomerConfirmation = true ∧
          r.customerConfirmationGranted = false := by
        rw [evaluate_allowed hthis]
        exact ⟨hrequires, by simpa using hgranted⟩
      change (if _ then _ else if (r.evaluation p).requiresCustomerConfirmation = true ∧
        r.customerConfirmationGranted = false then _ else _) = none at h
      rw [if_pos hasks] at h
      split_ifs at h

lemma blocked_ne_asks {code code' : String} :
    (some ("blocked", code') : Option (String × String)) ≠ some ("confirmation_required", code) := by
  intro h
  have hstatus : "blocked" = "confirmation_required" := congrArg Prod.fst (Option.some.inj h)
  exact absurd hstatus (by decide)

lemma executorRefusal_asks {code : String}
    (h : executorRefusal py policy allowedHighRisk r = some ("confirmation_required", code)) :
    ∃ p, policy = some p ∧ (r.evaluation p).allowed = true ∧
      ((p.requiresCustomerConfirmation = true ∧ r.customerConfirmationGranted = false) ∨
        (code ≠ "customer_confirmation_required" ∧ p.requiresHumanConfirmation = true ∧
          r.humanConfirmationGranted = false)) := by
  cases policy with
  | none => exact absurd h blocked_ne_asks
  | some p =>
    unfold executorRefusal at h
    change (if (r.evaluation p).allowed = false then _ else _) = some _ at h
    by_cases hallowed : (r.evaluation p).allowed = false
    · rw [if_pos hallowed] at h
      exact absurd h blocked_ne_asks
    · rw [if_neg hallowed] at h
      have hthis : (r.evaluation p).allowed = true := by simpa using hallowed
      refine ⟨p, rfl, hthis, ?_⟩
      change (if _ then _ else if (r.evaluation p).requiresCustomerConfirmation = true ∧
        r.customerConfirmationGranted = false then _ else if
          (r.evaluation p).requiresHumanConfirmation = true ∧
          r.humanConfirmationGranted = false then _ else _) = some _ at h
      rw [evaluate_allowed hthis] at h
      split_ifs at h with hhigh hcustomer hhuman
      · exact absurd h blocked_ne_asks
      · exact Or.inl hcustomer
      · cases h
        exact Or.inr ⟨by decide, hhuman⟩

end Refusals

/-! ## one call -/

section OneCall
variable {ρ : Type} {rt : AgentRuntime ρ} {ctx : AgentExecutionContext} {s : AgentDb ρ}
  {call : AgentToolCall}

/-- each confirmation under which a handler has succeeded is consumed. -/
def Spent (s : AgentDb ρ) (calls : List AgentCallEntry) : Prop :=
  ∀ e ∈ calls, e.succeeded = true → e.undone = false → ∀ id, e.grant = some id →
    ∃ row, s.confirmations.get? id = some row ∧ row.status = .consumed

structure AgentOk (rt : AgentRuntime ρ) (s : AgentDb ρ) : Prop where
  rows : s.RowsOk rt.tenantKey
  history : ConfirmedExactly rt.backend.py s.calls
  spent : Spent s s.calls

variable {calls : List AgentCallEntry} {py : PyText} {e : AgentCallEntry} {answer : ToolAnswer}
  {id : ℕ} {t : ToolDb ρ} {result : ActionExecutionResult} {row : AgentToolConfirmation}
  {permitted : Bool} {r : Option ActionExecutionResult}

lemma Spent.keep {t : AgentDb ρ} (h : Spent s calls)
    (hkeeps : KeepsConsumed s t) : Spent t calls := by
  intro e he hsucceeded hkept id hgrant
  obtain ⟨row, hrow, hconsumed⟩ := h e he hsucceeded hkept id hgrant
  exact hkeeps id row hrow hconsumed

structure EntryOk (py : PyText) (calls : List AgentCallEntry) (e : AgentCallEntry) : Prop where
  confirmed : e.call.contract.confirmationRequired = true → e.handlerRan = true →
    ∃ id row, e.grant = some id ∧ e.confirmations.get? id = some row ∧ row.Allows py e.call e.now
  once : e.succeeded = true → ∀ id, e.grant = some id → ∀ a ∈ calls, a.succeeded = true →
    a.undone = false → a.grant ≠ some id
  quiet : e.asked = true → ∀ id row, e.confirmations.get? id = some row →
    ¬ row.Stands py e.call e.now

lemma ConfirmedExactly.append
    (h : ConfirmedExactly py calls) (he : EntryOk py calls e) : ConfirmedExactly py (calls ++ [e]) where
  confirmed := by
    intro x hx
    rcases List.mem_append.1 hx with hx | hx
    · exact h.confirmed x hx
    · rw [List.mem_singleton.1 hx]
      exact he.confirmed
  once := by
    refine List.pairwise_append.2 ⟨h.once, List.pairwise_singleton _ _, ?_⟩
    intro a ha b hb hsucceeded hkept hlater id hgrant
    rw [List.mem_singleton.1 hb] at hlater ⊢
    exact fun hsame => he.once hlater id hsame a ha hsucceeded hkept hgrant
  quiet := by
    intro x hx
    rcases List.mem_append.1 hx with hx | hx
    · exact h.quiet x hx
    · rw [List.mem_singleton.1 hx]
      exact he.quiet

lemma handlerRan_of_succeeded (h : e.succeeded = true) :
    e.handlerRan = true := by
  unfold AgentCallEntry.succeeded at h
  unfold AgentCallEntry.handlerRan
  cases hanswer : e.answer with
  | none =>
    rw [hanswer] at h
    cases h
  | some answer =>
    cases answer with
    | ran r => rfl
    | gate | registry | duplicate | executor =>
      rw [hanswer] at h
      cases h

lemma not_handlerRan (h : e.answer = some answer)
    (hanswer : ∀ r, answer ≠ .ran r) : e.handlerRan = false := by
  unfold AgentCallEntry.handlerRan
  rw [h]
  cases answer with
  | ran r => exact absurd rfl (hanswer r)
  | gate | registry | duplicate | executor => rfl

lemma entryOk_of_not_ran (hran : e.handlerRan = false)
    (hquiet : e.asked = true → ∀ id row, e.confirmations.get? id = some row →
      ¬ row.Stands py e.call e.now) : EntryOk py calls e where
  confirmed := by
    intro _ hthis
    rw [hran] at hthis
    cases hthis
  once := fun hsucceeded => absurd (handlerRan_of_succeeded hsucceeded) (by rw [hran]; decide)
  quiet := hquiet

lemma grantOf_some (h : grantOf rt call s = some id) :
    Taken rt.backend.py call s id := by
  unfold grantOf takeConfirmation at h
  by_cases hneeds : call.contract.confirmationRequired = true
  · rw [if_pos hneeds] at h
    exact (takeExactConfirmation_some (t := (takeExactConfirmation rt.backend.py rt.tenantKey call
      s).2) (Prod.ext h rfl)).2
  · rw [if_neg hneeds] at h
    cases h

lemma grantOf_none (hs : s.RowsOk rt.tenantKey) (h : grantOf rt call s = none)
    (hneeds : call.contract.confirmationRequired = true) :
    ∀ id row, s.confirmations.get? id = some row → row.status = .confirmed →
      row.isAbout rt.backend.py call = true → row.expiresAt ≤ s.now := by
  unfold grantOf takeConfirmation at h
  rw [if_pos hneeds] at h
  exact takeExactConfirmation_none (t := (takeExactConfirmation rt.backend.py rt.tenantKey call
    s).2) hs (Prod.ext h rfl)

lemma not_stands_of_grantOf_none (hs : s.RowsOk rt.tenantKey) (h : grantOf rt call s = none)
    (hrow : s.confirmations.get? id = some row) :
    ¬ row.Stands rt.backend.py call s.now := by
  intro hstands
  have hok := hs.row id row hrow
  obtain ⟨m, hresponse, -⟩ := hstands.answered
  have hlater := hstands.unexpired
  have habout := hstands.about
  unfold AgentToolConfirmation.isAbout at habout
  have hname : row.toolName = call.toolName := of_decide_eq_true (Bool.and_eq_true_iff.1 habout).1
  have hneeds : call.contract.confirmationRequired = true :=
    hok.needs call.contract call.registered hname.symm
  cases hstatus : row.status with
  | pending =>
    rw [hok.pending hstatus] at hresponse
    cases hresponse
  | confirmed => exact absurd (grantOf_none hs h hneeds id row hrow hstatus hstands.about) (not_le.2 hlater)
  | denied => exact hstands.granted hstatus
  | expired => exact absurd (hok.expired hstatus) (not_le.2 hlater)
  | consumed => exact hstands.unused hstatus
  | cancelled =>
    rcases hok.cancelled hstatus with hnone | hdue
    · rw [hnone] at hresponse
      cases hresponse
    · exact absurd hdue (not_le.2 hlater)

lemma Taken.allows (h : Taken rt.backend.py call s id) (hs : s.RowsOk rt.tenantKey) :
    ∃ row, s.confirmations.get? id = some row ∧ row.Allows rt.backend.py call s.now := by
  obtain ⟨row, hrow, hconfirmed, habout, hlater⟩ := h.found
  exact ⟨row, hrow, habout, hconfirmed, hlater, (hs.row id row hrow).confirmed hconfirmed⟩

lemma not_spent (h : Taken rt.backend.py call s id) (hs : Spent s s.calls) :
    ∀ a ∈ s.calls, a.succeeded = true → a.undone = false → a.grant ≠ some id := by
  intro a ha hsucceeded hkept hgrant
  obtain ⟨row, hrow, hconfirmed, -⟩ := h.found
  obtain ⟨row', hrow', hconsumed⟩ := hs a ha hsucceeded hkept id hgrant
  rw [hrow] at hrow'
  cases hrow'
  rw [hconfirmed] at hconsumed
  cases hconsumed

lemma callOutcome :
    SingleOutcome rt.backend rt.conversationId (callRequest rt ctx call s) (callAction rt call)
      s.tools
      (executeControlledToolCalls rt.backend rt.conversationId (callRequest rt ctx call s) s.tools).1
      (executeControlledToolCalls rt.backend rt.conversationId (callRequest rt ctx call s) s.tools).2 :=
  executeControlledToolCalls_single rfl (canonicalToolName_registered call.contract call.registered)

lemma callEntry_answer {g : Option ℕ}

    (h : Adds rt.backend (callRequest rt ctx call s) (callAction rt call) s.tools permitted answer t) :
    
    (callEntry call g s t r).answer = some answer := by
  unfold callEntry
  dsimp only
  rw [h.entries, List.drop_left]
  rfl

/-! ### what is settled after it -/

lemma takeConfirmation_rowsOk (hs : s.RowsOk rt.tenantKey) :
    (takeConfirmation rt call s).2.RowsOk rt.tenantKey := by
  unfold takeConfirmation
  split_ifs
  · exact takeExactConfirmation_rowsOk hs
  · exact hs

lemma takeConfirmation_same : SameButRows s (takeConfirmation rt call s).2 := by
  unfold takeConfirmation
  split_ifs
  · exact takeExactConfirmation_same rt.tenantKey
  · exact ⟨rfl, rfl, rfl, rfl⟩

lemma takeConfirmation_confirmed
    (hrow : (takeConfirmation rt call s).2.confirmations.get? id = some row)
    (hconfirmed : row.status = .confirmed) : s.confirmations.get? id = some row := by
  unfold takeConfirmation at hrow
  split_ifs at hrow
  · unfold takeExactConfirmation at hrow
    cases hexact : exactConfirmation rt.backend.py s.confirmations call with
    | none =>
      rw [hexact] at hrow
      exact hrow
    | some r =>
      rw [hexact] at hrow
      dsimp only at hrow
      split_ifs at hrow
      · change (s.confirmations.modify r.1 _).get? id = some row at hrow
        rw [Table.get?_modify] at hrow
        by_cases hid : id = r.1
        · rw [if_pos hid, hid, (exactConfirmation_eq_some hexact).1] at hrow
          rw [← Option.some.inj hrow] at hconfirmed
          cases hconfirmed
        · rw [if_neg hid] at hrow
          exact hrow
      · exact hrow
      · exact hrow
  · exact hrow

def answeredState (rt : AgentRuntime ρ) (call : AgentToolCall) (s : AgentDb ρ) (t : ToolDb ρ)
    (result : Option ActionExecutionResult) : AgentDb ρ :=
  { (takeConfirmation rt call s).2 with
    tools := t
    calls := s.calls ++ [callEntry call (grantOf rt call s) s t result] }

def settledCall (rt : AgentRuntime ρ) (call : AgentToolCall) (s : AgentDb ρ)
    (r : Except OsrError (List ActionExecutionResult)) (t : ToolDb ρ) :
    Except OsrError ActionExecutionResult × AgentDb ρ :=
  match r with
  | .error e => (.error e, answeredState rt call s t none)
  | .ok results =>
    let result := results.head?.getD (missingResult call)
    (.ok result, settleResult rt call (grantOf rt call s) result
      (answeredState rt call s t (some result)))

lemma executeOne_cases :
    (rt.restricted s.tools.rows (subjectCustomer rt ctx s.tools.rows) = true ∧
      executeOne rt ctx call s = (.ok (restrictedResult rt ctx call), { s with
        calls := s.calls ++
          [callEntry call none s s.tools (some (restrictedResult rt ctx call))] })) ∨
    (rt.restricted s.tools.rows (subjectCustomer rt ctx s.tools.rows) = false ∧
      ∃ r t, SingleOutcome rt.backend rt.conversationId (callRequest rt ctx call s)
          (callAction rt call) s.tools r t ∧
        executeControlledToolCalls rt.backend rt.conversationId (callRequest rt ctx call s)
          s.tools = (r, t) ∧
        executeOne rt ctx call s = settledCall rt call s r t) := by
  unfold executeOne
  cases hrestricted : rt.restricted s.tools.rows (subjectCustomer rt ctx s.tools.rows) with
  | true => exact Or.inl ⟨rfl, if_pos rfl⟩
  | false =>
    refine Or.inr ⟨rfl, _, _, callOutcome, rfl, (if_neg (by decide)).trans ?_⟩
    dsimp only
    unfold settledCall callRequest grantOf
    cases executeControlledToolCalls rt.backend rt.conversationId
      (toolRequest rt ctx s.tools.rows call (takeConfirmation rt call s).1.isSome) s.tools with
    | mk r t => cases r <;> rfl

lemma answeredState_rowsOk {c : AgentToolCall} (hs : s.RowsOk rt.tenantKey) :
    (answeredState rt c s t r).RowsOk rt.tenantKey :=
  takeConfirmation_rowsOk hs

lemma takeConfirmation_found (h : grantOf rt call s = some id) :
    ∃ row, (takeConfirmation rt call s).2.confirmations.get? id = some row := by
  obtain ⟨row, hrow, -⟩ := (grantOf_some h).found
  refine ⟨row, ?_⟩
  unfold grantOf at h
  unfold takeConfirmation at h ⊢
  split_ifs at h ⊢
  · rw [(takeExactConfirmation_some (t := (takeExactConfirmation rt.backend.py rt.tenantKey call
      s).2) (Prod.ext h rfl)).1]
    exact hrow

lemma asksCustomer_eq_false {r : ActionExecutionResult} (h : r.status ≠ "confirmation_required") :
    r.asksCustomer = false := by
  unfold ActionExecutionResult.asksCustomer
  rw [decide_eq_false h]
  rfl

lemma settled_ok (hs : AgentOk rt s)
    (hentry : EntryOk rt.backend.py s.calls (callEntry call (grantOf rt call s) s t (some result)))
    (hsucceeded : (callEntry call (grantOf rt call s) s t (some result)).succeeded = true →
      result.ok = true)
    (hquiet : result.asksCustomer = false) :
    AgentOk rt (settleResult rt call (grantOf rt call s) result
      (answeredState rt call s t (some result))) := by
  have hrows := answeredState_rowsOk (t := t) (r := some result) (c := call) hs.rows
  have hkeeps : KeepsConsumed s (answeredState rt call s t (some result)) :=
    takeConfirmation_keepsConsumed
  have hhistory := hs.history.append hentry
  unfold settleResult
  rw [hquiet, if_neg (by decide)]
  by_cases hok : result.ok = true
  · rw [if_pos hok]
    cases hgrant : grantOf rt call s with
    | none =>
      refine ⟨hrows, hhistory, ?_⟩
      intro e he hesucceeded hkept id hegrant
      rcases List.mem_append.1 he with he | he
      · exact hs.spent.keep hkeeps e he hesucceeded hkept id hegrant
      · rw [List.mem_singleton.1 he] at hegrant
        exact absurd (hgrant.symm.trans hegrant) nofun
    | some id =>
      dsimp only
      refine ⟨consumeConfirmation_rowsOk hrows, hhistory, ?_⟩
      intro e he hesucceeded hkept i hegrant
      rcases List.mem_append.1 he with he | he
      · exact hs.spent.keep (hkeeps.trans consumeConfirmation_keepsConsumed) e he hesucceeded hkept i
          hegrant
      · rw [List.mem_singleton.1 he] at hegrant
        have hi : id = i := Option.some.inj (hgrant.symm.trans hegrant)
        subst hi
        obtain ⟨row, hrow⟩ := takeConfirmation_found hgrant
        refine ⟨withStatus .consumed row, ?_, rfl⟩
        show ((takeConfirmation rt call s).2.confirmations.modify id _).get? id = _
        rw [Table.get?_modify, if_pos rfl, hrow]
        rfl
  · rw [if_neg hok]
    refine ⟨hrows, hhistory, ?_⟩
    intro e he hesucceeded hkept id hegrant
    rcases List.mem_append.1 he with he | he
    · exact hs.spent.keep hkeeps e he hesucceeded hkept id hegrant
    · rw [List.mem_singleton.1 he] at hesucceeded
      exact absurd (hsucceeded hesucceeded) hok

lemma asked_ok (hs : AgentOk rt s)
    (hentry : EntryOk rt.backend.py s.calls (callEntry call (grantOf rt call s) s t (some result)))
    (hran : (callEntry call (grantOf rt call s) s t (some result)).handlerRan = false)
    (hasks : result.asksCustomer = true) (hneeds : call.contract.confirmationRequired = true)
    (halone : ∀ id row, s.confirmations.get? id = some row → row.status = .confirmed →
      row.expiresAt ≤ s.now) :
    AgentOk rt (settleResult rt call (grantOf rt call s) result
      (answeredState rt call s t (some result))) := by
  have hrows := answeredState_rowsOk (t := t) (r := some result) (c := call) hs.rows
  have hsame : SameButRows (answeredState rt call s t (some result))
      (createOrReuseConfirmation rt.backend.py rt.tenantKey call
        (answeredState rt call s t (some result))) := createOrReuseConfirmation_same rt.tenantKey
  have hkeeps : KeepsConsumed s (createOrReuseConfirmation rt.backend.py rt.tenantKey call
      (answeredState rt call s t (some result))) :=
    KeepsConsumed.trans (t := answeredState rt call s t (some result))
      takeConfirmation_keepsConsumed (createOrReuseConfirmation_keepsConsumed rt.tenantKey)
  have hhistory := hs.history.append hentry
  unfold settleResult
  rw [if_pos hasks]
  refine ⟨createOrReuseConfirmation_rowsOk hrows
    (needsConfirmation_of_registered _ call.registered hneeds) ?_, ?_, ?_⟩
  · intro id row hrow hconfirmed
    have hnow : (takeConfirmation rt call s).2.now = s.now := takeConfirmation_same.now
    change row.expiresAt ≤ (takeConfirmation rt call s).2.now
    rw [hnow]
    exact halone id row (takeConfirmation_confirmed hrow hconfirmed) hconfirmed
  · rw [hsame.calls]
    exact hhistory
  · rw [hsame.calls]
    intro e he hsucceeded hkept id hgrant
    rcases List.mem_append.1 he with he | he
    · exact hs.spent.keep hkeeps e he hsucceeded hkept id hgrant
    · rw [List.mem_singleton.1 he] at hsucceeded
      exact absurd (handlerRan_of_succeeded hsucceeded) (by rw [hran]; decide)

lemma unrun_ok (hs : AgentOk rt s)
    (hadds : Adds rt.backend (callRequest rt ctx call s) (callAction rt call) s.tools permitted
      answer t) (hanswer : ∀ r, answer ≠ .ran r)
    (hstatus : result.status ≠ "confirmation_required") :
    AgentOk rt (settleResult rt call (grantOf rt call s) result
      (answeredState rt call s t (some result))) := by
  have hran := not_handlerRan (callEntry_answer (g := grantOf rt call s)
    (r := some result) hadds) hanswer
  refine settled_ok hs (entryOk_of_not_ran hran fun hasked => ?_) (fun hsucceeded => ?_) ?_
  · exact absurd (of_decide_eq_true hasked) hstatus
  · exact absurd (handlerRan_of_succeeded hsucceeded) (by rw [hran]; decide)
  · exact asksCustomer_eq_false hstatus

lemma allowed_of_evaluation {p : ToolExecutionPolicyRecord}
    (hfresh : Fresh rt.backend rt.conversationId (callRequest rt ctx call s) (callAction rt call)
      s.tools)
    (hpolicy : actionPolicy s.tools.policies
      (requestPlace rt.backend (callRequest rt ctx call s) s.tools) (callAction rt call) = some p)
    (hallowed : ((actionRequest (callRequest rt ctx call s)
      (requestPlace rt.backend (callRequest rt ctx call s) s.tools)
      (callRequest rt ctx call s).caseContext (callAction rt call)
      (requestKey rt.backend (callRequest rt ctx call s) (callAction rt call)
        s.tools)).evaluation p).allowed = true) : Allowed rt ctx call s p :=
  ⟨hfresh, hpolicy, hallowed⟩

section
variable (hs : AgentOk rt s) (hsafe : SafeCall rt ctx call s)
include hs hsafe

lemma stopped_ok {status code : String}
    (hfresh : Fresh rt.backend rt.conversationId (callRequest rt ctx call s) (callAction rt call)
      s.tools)
    (hstopped : requestRefusal rt.backend (callRequest rt ctx call s) (callAction rt call) s.tools =
      some (status, code) ∨ status = "blocked")
    (hadds : Adds rt.backend (callRequest rt ctx call s) (callAction rt call) s.tools true
      .executor t) :
    let result : ActionExecutionResult :=
      ⟨false, (callAction rt call).toolName, status, none, some code⟩
    AgentOk rt (settleResult rt call (grantOf rt call s) result
      (answeredState rt call s t (some result))) := by
  intro result
  by_cases hstatus : status = "confirmation_required"
  · subst hstatus
    have hran := not_handlerRan (callEntry_answer (g := grantOf rt call s)
      (r := some result) hadds) fun r h => by cases h
    rcases hstopped with hrefusal | hblocked
    · obtain ⟨p, hpolicy, hallowed, hasks⟩ := executorRefusal_asks hrefusal
      have hthis := allowed_of_evaluation hfresh hpolicy hallowed
      rcases hasks with ⟨hrequires, hgranted⟩ | ⟨-, hhuman, hgranted⟩
      · have hgrant : grantOf rt call s = none := by
          cases h : grantOf rt call s with
          | none => rfl
          | some id =>
            change (grantOf rt call s).isSome = false at hgranted
            rw [h] at hgranted
            cases hgranted
        have hneeds : call.contract.confirmationRequired = true :=
          (hsafe.agrees p hthis).symm.trans hrequires
        have hentry : EntryOk rt.backend.py s.calls
            (callEntry call (grantOf rt call s) s t (some result)) :=
          entryOk_of_not_ran hran fun _ id row hrow => not_stands_of_grantOf_none hs.rows hgrant hrow
        by_cases hcustomer : result.asksCustomer = true
        · exact asked_ok hs hentry hran hcustomer hneeds (hsafe.alone p hthis hneeds hgrant)
        · refine settled_ok hs hentry (fun hsucceeded => ?_) (by simpa using hcustomer)
          exact absurd (handlerRan_of_succeeded hsucceeded) (by rw [hran]; decide)
      · have hconfirmed := hsafe.human p hthis hhuman
        change ctx.humanConfirmationGranted = false at hgranted
        rw [hconfirmed] at hgranted
        cases hgranted
    · exact absurd hblocked (by decide)
  · exact unrun_ok hs hadds (fun r h => by cases h) hstatus

lemma allows_of_run
    (hfresh : Fresh rt.backend rt.conversationId (callRequest rt ctx call s) (callAction rt call)
      s.tools)
    (hrefusal : requestRefusal rt.backend (callRequest rt ctx call s) (callAction rt call) s.tools =
      none) (hneeds : call.contract.confirmationRequired = true) :
    ∃ id row, grantOf rt call s = some id ∧ s.confirmations.get? id = some row ∧
      row.Allows rt.backend.py call s.now := by
  obtain ⟨p, hpolicy, hallowed, hrequires⟩ := executorRefusal_none hrefusal
  have hthis := allowed_of_evaluation hfresh hpolicy hallowed
  have hgranted : (grantOf rt call s).isSome = true :=
    hrequires ((hsafe.agrees p hthis).trans hneeds)
  obtain ⟨id, hgrant⟩ := Option.isSome_iff_exists.1 hgranted
  obtain ⟨row, hrow, hallows⟩ := (grantOf_some hgrant).allows hs.rows
  exact ⟨id, row, hgrant, hrow, hallows⟩

lemma entryOk_of_run {result : Option ActionExecutionResult}
    (hfresh : Fresh rt.backend rt.conversationId (callRequest rt ctx call s) (callAction rt call)
      s.tools)
    (hrefusal : requestRefusal rt.backend (callRequest rt ctx call s) (callAction rt call) s.tools =
      none) (hasked : ∀ r, result = some r → r.status ≠ "confirmation_required") :
    EntryOk rt.backend.py s.calls (callEntry call (grantOf rt call s) s t result) where
  confirmed := fun hneeds _ => allows_of_run hs hsafe hfresh hrefusal hneeds
  once := fun _ id hgrant => not_spent (grantOf_some hgrant) hs.spent
  quiet := by
    intro hasks
    cases result with
    | none => cases hasks
    | some r => exact absurd (of_decide_eq_true hasks) (hasked r rfl)

lemma executeOne_ok :
    Txn.Yields (· = s) (executeOne rt ctx call) (fun _ t => AgentOk rt t)
      (fun t => ConfirmedExactly rt.backend.py t.calls) := by
  rintro _ rfl
  rename_i s
  rcases @executeOne_cases _ rt ctx s call with ⟨-, heq⟩ | ⟨-, r, t, houtcome, -, heq⟩
  · rw [heq]
    have hanswer : (callEntry call none s s.tools (some (restrictedResult rt ctx call))).answer =
        none := by
      unfold callEntry
      dsimp only
      rw [List.drop_length]
      rfl
    have hran : (callEntry call none s s.tools (some (restrictedResult rt ctx call))).handlerRan =
        false := by
      unfold AgentCallEntry.handlerRan
      rw [hanswer]
    refine ⟨hs.rows, hs.history.append (entryOk_of_not_ran hran fun hasked => ?_), ?_⟩
    · exact absurd (of_decide_eq_true (p := "blocked" = "confirmation_required") hasked) (by decide)
    · intro e he hsucceeded hkept id hgrant
      rcases List.mem_append.1 he with he | he
      · exact hs.spent e he hsucceeded hkept id hgrant
      · rw [List.mem_singleton.1 he] at hgrant
        cases hgrant
  · rw [heq]
    unfold settledCall
    cases houtcome with
    | refused answer code t hanswer hadds hrows =>
      refine unrun_ok hs hadds ?_ (show "blocked" ≠ "confirmation_required" by decide)
      intro r h
      rcases hanswer with rfl | rfl <;> cases h
    | duplicate log t hlog hadds hrows =>
      refine unrun_ok hs hadds (fun r h => ?_) (show "duplicate" ≠ "confirmation_required" by decide)
      cases h
    | stopped status code t hfresh hstopped hadds hrows =>
      exact stopped_ok hs hsafe hfresh hstopped hadds
    | returned handler result rows t hfresh hrefusal hhandler hrun hsaved hadds =>
      refine settled_ok hs (entryOk_of_run hs hsafe hfresh hrefusal ?_) ?_ ?_
      · intro r hr
        cases hr
        exact result.answers
      · intro hsucceeded
        unfold AgentCallEntry.succeeded at hsucceeded
        rw [callEntry_answer hadds] at hsucceeded
        exact hsucceeded
      · exact asksCustomer_eq_false result.answers
    | raised e answer t hfresh hrefusal hadds =>
      exact hs.history.append (entryOk_of_run hs hsafe hfresh hrefusal fun r h => by cases h)

end

/-! ## rounds -/

lemma ConfirmedExactly.undo {later : List AgentCallEntry}
    (h : ConfirmedExactly py (calls ++ later)) :
    ConfirmedExactly py (calls ++ later.map .undo) where
  confirmed := by
    intro e he
    rcases List.mem_append.1 he with he | he
    · exact h.confirmed e (List.mem_append_left _ he)
    · obtain ⟨x, hx, rfl⟩ := List.mem_map.1 he
      exact h.confirmed x (List.mem_append_right _ hx)
  once := by
    obtain ⟨hcalls, hlater, hacross⟩ := List.pairwise_append.1 h.once
    refine List.pairwise_append.2 ⟨hcalls, ?_, ?_⟩
    · refine List.pairwise_map.2 (hlater.imp fun {a b} _ _ hkept => ?_)
      cases hkept
    · intro a ha b hb
      obtain ⟨x, hx, rfl⟩ := List.mem_map.1 hb
      exact hacross a ha x hx
  quiet := by
    intro e he
    rcases List.mem_append.1 he with he | he
    · exact h.quiet e (List.mem_append_left _ he)
    · obtain ⟨x, hx, rfl⟩ := List.mem_map.1 he
      exact h.quiet x (List.mem_append_right _ hx)

lemma callRound_ok {calls : List AgentToolCall} {commits : Bool} (hs : AgentOk rt s)
    (hsafe : SafeCalls rt ctx calls s) : AgentOk rt (callRound rt ctx calls commits s) := by
  refine callRound_keeps (fun call s hs hcall => executeOne_ok hs hcall) (fun t ht => ht.history) ?_
    hs hsafe
  intro t later ht hlater
  rw [hlater] at ht
  refine ⟨hs.rows, ht.undo, ?_⟩
  intro e he hsucceeded hkept id hgrant
  rcases List.mem_append.1 he with he | he
  · exact hs.spent e he hsucceeded hkept id hgrant
  · obtain ⟨x, hx, rfl⟩ := List.mem_map.1 he
    cases hkept

lemma agentStep_ok {e : AgentStep ρ} (hs : AgentOk rt s) (hsafe : SafeStep rt s e) :
    AgentOk rt (agentStep rt e s) := by
  cases e with
  | message body => exact ⟨hs.rows, hs.history, hs.spent⟩
  | wait d =>
    exact ⟨⟨fun id row hrow => (hs.rows.row id row hrow).later, hs.rows.unique⟩, hs.history,
      hs.spent⟩
  | change rows policies => exact ⟨hs.rows, hs.history, hs.spent⟩
  | resolve messageId =>
    unfold agentStep
    dsimp only
    cases hbody : s.messages[messageId - 1]? with
    | none => exact hs
    | some body =>
      dsimp only
      split_ifs with hpos
      · have hsame : SameButRows s (resolveConfirmation messageId body s) :=
          resolveConfirmation_same
        refine ⟨resolveConfirmation_rowsOk hs.rows fun id row hactive hdue hpending hconfirmed q hq =>
          hsafe id row body hactive hdue hpending hbody hconfirmed q hq, ?_, ?_⟩
        · rw [hsame.calls]
          exact hs.history
        · rw [hsame.calls]
          exact hs.spent.keep resolveConfirmation_keepsConsumed
      · exact hs
  | confirmed id ctx commits => exact callRound_ok hs hsafe
  | calls ctx calls commits => exact callRound_ok hs hsafe

/-- a conversation whose customer was not asked yet. -/
def AgentDb.start (tools : ToolDb ρ) (messages : List Text) (now : Instant) : AgentDb ρ :=
  ⟨tools, Table.empty, messages, now, []⟩

lemma agentOk_start (tools : ToolDb ρ) (messages : List Text) (now : Instant) :
    AgentOk rt (AgentDb.start tools messages now) where
  rows := by
    constructor
    · intro id row hrow
      cases hrow
    · intro i j a b ha
      cases ha
  history := by
    constructor
    · intro e he
      cases he
    · exact List.Pairwise.nil
    · intro e he
      cases he
  spent := by
    intro e he
    cases he

end OneCall

/-- in every run whose calls meet policies that ask exactly where the contracts do, whose jobs
confirm by later messages, and in which nothing is asked while a confirmation stands. -/
theorem confirmed_exactly {ρ : Type} (rt : AgentRuntime ρ) (tools : ToolDb ρ) (messages : List Text)
    (now : Instant) (l : List (AgentStep ρ))
    (hsafe : Along (agentStep rt) (SafeStep rt) (AgentDb.start tools messages now) l) :
    ConfirmedExactly rt.backend.py (run (agentStep rt) (AgentDb.start tools messages now) l).calls :=
  (Along.invariant (I := AgentOk rt) (fun s e hs he => agentStep_ok hs he)
    (agentOk_start tools messages now) hsafe).history

/-! ## samples -/

def sampleRuntime : AgentRuntime AgentRows where
  backend := agentBackend sampleToolEnv 1
  conversationId := 1
  tenantKey := "default".toList
  agentHandlers := buildAgentToolHandlers sampleToolEnv
  ticketCustomer := fun s id => (s.session.flushed.tickets.get? id).map (·.customerId)
  restricted := fun _ _ => false
  trackingReference := fun _ => none
  redact := fun s n => s.take n

def sampleContext : AgentExecutionContext where
  channelKey := "webchat".toList
  customerMessage := "my parcel is late".toList
  ticketId := none
  customerId := some 1
  countryCode := none
  allowedTools := ["ticket.create", "timeline.event.create"].map String.toList
  grantedPermissions := ["ticket:create", "timeline:event:create"].map String.toList
  humanConfirmationGranted := false
  allowHighRiskWrites := false

def ticketCall : AgentToolCall where
  contract :=
    { name := ticketTool, classification := .write
      requiredPermissions := ["ticket:create".toList], riskLevel := .medium
      confirmationRequired := true, allowedAutoExecutionMode := .confirmationRequired }
  registered := by decide +kernel
  arguments := [("title".toList, .str "late".toList)]

def timelineCall : AgentToolCall where
  contract :=
    { name := "timeline.event.create".toList, classification := .system
      requiredPermissions := ["timeline:event:create".toList]
      allowedAutoExecutionMode := .policyGated }
  registered := by decide +kernel
  arguments := [("summary".toList, .str "late".toList)]

def askingPolicy (toolName : Text) : ToolExecutionPolicyRecord :=
  { toolName := toolName, requiresCustomerConfirmation := true }

def sampleStart (policies : List ToolExecutionPolicyRecord) : AgentDb AgentRows :=
  AgentDb.start ⟨[], policies, sampleToolRows none, [], []⟩ [] 0

/-- the customer is asked, says yes, and the call is made again. -/
def confirmedRun (call : AgentToolCall) : List (AgentStep AgentRows) :=
  [.message "my parcel is late".toList, .calls sampleContext [call] true, .message "yes".toList,
    .resolve 2, .calls sampleContext [call] true]

def sampleCalls (policies : List ToolExecutionPolicyRecord) (l : List (AgentStep AgentRows)) :
    List AgentCallEntry := (run (agentStep sampleRuntime) (sampleStart policies) l).calls

variable {ρ : Type} {ctx : AgentExecutionContext}

lemma safeCalls_singleton {rt : AgentRuntime ρ} {call : AgentToolCall} {s : AgentDb ρ}
    {p : ToolExecutionPolicyRecord}
    (hfound : actionPolicy s.tools.policies
      (requestPlace rt.backend (callRequest rt ctx call s) s.tools) (callAction rt call) = some p)
    (hagrees : p.requiresCustomerConfirmation = call.contract.confirmationRequired)
    (hhuman : p.requiresHumanConfirmation = false)
    (halone : grantOf rt call s = none → ∀ r ∈ s.confirmations.rows, r.2.status ≠ .confirmed) :
    SafeCalls rt ctx [call] s := by
  have hpolicy : ∀ q, Allowed rt ctx call s q → q = p := by
    intro q hq
    exact Option.some.inj (hq.found.symm.trans hfound)
  refine ⟨⟨?_, ?_, ?_⟩, ?_⟩
  · intro q hq
    rw [hpolicy q hq]
    exact hagrees
  · intro q hq hrequires
    rw [hpolicy q hq, hhuman] at hrequires
    cases hrequires
  · intro q hq hneeds hgrant id row hrow hconfirmed
    exact absurd hconfirmed (halone hgrant (id, row) (s.confirmations.mem_rows.2 hrow))
  · cases executeOne rt ctx call s with
    | mk r t => cases r <;> trivial

lemma safeResolve_of_requested {s : AgentDb ρ} {messageId q : ℕ}
    (h : ∀ r ∈ activeConfirmation s.confirmations, r.2.requestedMessageId = some q)
    (hq : q < messageId) : SafeResolve messageId s := by
  intro id row body hactive _ _ _ _ q' hrequested
  cases (h (id, row) hactive).symm.trans hrequested
  exact hq

lemma safeStep_calls {rt : AgentRuntime ρ} {calls : List AgentToolCall} {commits : Bool}
    {s : AgentDb ρ} (h : SafeCalls rt ctx calls s) :
    SafeStep rt s (.calls ctx calls commits) := h

lemma safeStep_resolve {rt : AgentRuntime ρ} {s : AgentDb ρ} {m : ℕ} (h : SafeResolve m s) :
    SafeStep rt s (.resolve m) := h

lemma confirmedRun_safe : Along (agentStep sampleRuntime) (SafeStep sampleRuntime)
    (sampleStart [askingPolicy ticketTool]) (confirmedRun ticketCall) := by
  unfold confirmedRun
  refine along_cons.2 ⟨trivial, along_cons.2 ⟨safeStep_calls ?_, along_cons.2 ⟨trivial,
    along_cons.2 ⟨safeStep_resolve ?_, along_cons.2 ⟨safeStep_calls ?_, trivial⟩⟩⟩⟩⟩
  · refine safeCalls_singleton (p := askingPolicy ticketTool) ?_ rfl rfl ?_
    · decide +kernel
    · decide +kernel
  · exact safeResolve_of_requested (q := 1) (by decide +kernel) (by decide)
  · refine safeCalls_singleton (p := askingPolicy ticketTool) ?_ rfl rfl ?_
    · decide +kernel
    · decide +kernel

/-- a ticket is created under the customer's confirmation. -/
theorem ticket_confirmed_exactly :
    ConfirmedExactly sampleRuntime.backend.py
      (run (agentStep sampleRuntime) (sampleStart [askingPolicy ticketTool])
        (confirmedRun ticketCall)).calls ∧
    ∃ e ∈ sampleCalls [askingPolicy ticketTool] (confirmedRun ticketCall), e.succeeded = true :=
  ⟨confirmed_exactly sampleRuntime _ _ _ _ confirmedRun_safe, by decide +kernel⟩

/-- a policy that does not ask lets the ticket be created without a confirmation; one that asks
where the contract does not asks again; an earlier message of the customer confirms. -/
theorem confirmed_otherwise :
    ¬ ConfirmedExactly sampleRuntime.backend.py (sampleCalls
      [{ toolName := ticketTool, aiAutoExecutable := true }]
      [.message "my parcel is late".toList, .calls sampleContext [ticketCall] true]) ∧
    ¬ ConfirmedExactly sampleRuntime.backend.py (sampleCalls
      [askingPolicy "timeline.event.create".toList] (confirmedRun timelineCall)) ∧
    ¬ ConfirmedExactly sampleRuntime.backend.py (sampleCalls [askingPolicy ticketTool]
      [.message "yes".toList, .message "my parcel is late".toList,
        .calls sampleContext [ticketCall] true, .resolve 1,
        .calls sampleContext [ticketCall] true]) := by
  refine ⟨fun h => ?_, fun h => ?_, fun h => ?_⟩
  · have hgrant : ∀ e ∈ sampleCalls [{ toolName := ticketTool, aiAutoExecutable := true }]
        [.message "my parcel is late".toList, .calls sampleContext [ticketCall] true],
        e.call.contract.confirmationRequired = true → e.handlerRan = true → e.grant ≠ none := by
      intro e he hneeds hran
      obtain ⟨id, row, hgrant, -⟩ := h.confirmed e he hneeds hran
      rw [hgrant]
      exact Option.some_ne_none id
    exact absurd hgrant (by decide +kernel)
  · have hquiet : ∀ e ∈ sampleCalls [askingPolicy "timeline.event.create".toList]
        (confirmedRun timelineCall), e.asked = true → ∀ row ∈ e.confirmations.get? 1,
        ¬ row.Stands sampleRuntime.backend.py e.call e.now :=
      fun e he hasked row hrow => h.quiet e he hasked 1 row hrow
    exact absurd hquiet (by decide +kernel)
  · have hanswered : ∀ e ∈ sampleCalls [askingPolicy ticketTool]
        [.message "yes".toList, .message "my parcel is late".toList,
          .calls sampleContext [ticketCall] true, .resolve 1,
          .calls sampleContext [ticketCall] true],
        e.call.contract.confirmationRequired = true → e.handlerRan = true →
          ∀ id ∈ e.grant, ∀ row ∈ e.confirmations.get? id, row.Answered := by
      intro e he hneeds hran id hid row hrow
      obtain ⟨id', row', hgrant, hrow', hallows⟩ := h.confirmed e he hneeds hran
      cases hgrant.symm.trans hid
      cases hrow'.symm.trans hrow
      exact hallows.answered
    exact absurd hanswered (by decide +kernel)

end NexusHelpdesk.Osr
