import NexusHelpdesk.Customers.Identity
import NexusHelpdesk.Lib.Run

/-!
# Customer identity as a function

Calls of `resolve_or_create_customer` and `bind_customer_identity`, each in its steps, in any order.

* `IdentityRun`, `identityStep`: the tables, the calls that wait, and what was returned;
* `IdentityFunction`: an identity of a tenant has one customer, which was created for it or to which
  it was bound, and never another one;
* `Unadopted`: no call takes a customer from the profiles;
* `IdentityInv`: the invariant;
* `identity_function_iff`: **identity is a function in all states of a run if and only if no step
  adopts a customer**;
* `long_reference_adopts`: **a reference that is the cut copy of a longer one gets its customer**.
-/

namespace NexusHelpdesk.Customers

open Lib

/-- a call of `resolve_or_create_customer` that returned. -/
structure Resolved where
  tenantId : Option ℕ
  identity : CustomerIdentity
  customerId : ℕ
deriving DecidableEq, Repr

structure IdentityRun where
  db : IdentityDb
  waiting : List IdentityTask
  answers : List Resolved
  created : List (ℕ × CustomerIdentity)
  /-- the accepted binds. -/
  joined : List (ℕ × CustomerIdentity)

def IdentityRun.empty : IdentityRun := ⟨IdentityDb.empty, [], [], [], []⟩

inductive IdentityEvent where
  | resolve (tenantId : Option ℕ) (identityType identityValue : Text)
  | bind (customerId : ℕ) (identityType identityValue : Text)
  | proceed (i : ℕ)
deriving DecidableEq, Repr

section Code
variable (env : IdentityEnv)

/-- a call of `resolve_or_create_customer` goes on. -/
def IdentityRun.resolved (s : IdentityRun) (tenantId : Option ℕ) (identity : CustomerIdentity)
    (r : CallResult IdentityTask) : IdentityRun :=
  match r with
  | .returned customerId db =>
    { s with db := db, answers := ⟨tenantId, identity, customerId⟩ :: s.answers }
  | .waiting task => { s with waiting := s.waiting ++ [task] }
  | .raised _ => s

def IdentityRun.bound (s : IdentityRun) (identity : CustomerIdentity)
    (r : CallResult IdentityTask) : IdentityRun :=
  match r with
  | .returned customerId db => { s with db := db, joined := (customerId, identity) :: s.joined }
  | .waiting task => { s with waiting := s.waiting ++ [task] }
  | .raised _ => s

/-- the next step of a call. -/
def proceedTask (task : IdentityTask) (s : IdentityRun) : IdentityRun :=
  match task with
  | .legacy tenantId identity => s.resolved tenantId identity (legacyLookup s.db tenantId identity)
  | .save tenantId identity candidate =>
    let next := s.resolved tenantId identity (resolveSave s.db tenantId identity candidate)
    -- a new customer
    if candidate = none ∧ findBinding s.db tenantId identity = none then
      { next with created := (s.db.customers.next, identity) :: s.created }
    else next
  | .bindSave customerId tenantId identity =>
    s.bound identity (bindSave s.db tenantId identity customerId)

def identityStep (e : IdentityEvent) (s : IdentityRun) : IdentityRun :=
  match e with
  | .resolve tenantId identityType identityValue =>
    match normalizeCustomerIdentity env identityType identityValue with
    | .error _ => s
    | .ok identity =>
      s.resolved tenantId identity (resolveStart s.db tenantId env identityType identityValue)
  | .bind customerId identityType identityValue =>
    match normalizeCustomerIdentity env identityType identityValue with
    | .error _ => s
    | .ok identity => s.bound identity (bindStart s.db env customerId identityType identityValue)
  | .proceed i =>
    match s.waiting[i]? with
    | none => s
    | some task => proceedTask task { s with waiting := s.waiting.eraseIdx i }

end Code

/-! ## identity as a function -/

def boundCustomer (db : IdentityDb) (tenantId : Option ℕ) (identity : CustomerIdentity) : Option ℕ :=
  (findBinding db tenantId identity).map (·.customerId)

def tenantOf (db : IdentityDb) (customerId : ℕ) : Option (Option ℕ) :=
  (db.customers.get? customerId).map (·.tenantId)

structure IdentityFunction (s : IdentityRun) : Prop where
  /-- without binds, one customer for one identity. -/
  function : s.joined = [] → ∀ a ∈ s.answers, ∀ b ∈ s.answers,
    (a.customerId = b.customerId ↔ a.tenantId = b.tenantId ∧ a.identity = b.identity)
  /-- the customer was created for the identity, or the identity was bound to it. -/
  own : ∀ a ∈ s.answers,
    (a.customerId, a.identity) ∈ s.created ∨ (a.customerId, a.identity) ∈ s.joined
  /-- a resolved identity stays with its customer. -/
  kept : ∀ a ∈ s.answers, boundCustomer s.db a.tenantId a.identity = some a.customerId
  /-- an accepted bind joins its identity to its customer. -/
  joins : ∀ x ∈ s.joined, ∃ t, tenantOf s.db x.1 = some t ∧ boundCustomer s.db t x.2 = some x.1
  tenants : ∀ j b, s.db.bindings.get? j = some b → tenantOf s.db b.customerId = some b.tenantId

/-- a savepoint that was given a customer of the profiles finds its identity bound. -/
def Unadopted (s : IdentityRun) (e : IdentityEvent) : Prop :=
  match e with
  | .proceed i =>
    match s.waiting[i]? with
    | some (.save tenantId identity (some _)) => findBinding s.db tenantId identity ≠ none
    | _ => True
  | _ => True

/-! ## the invariant -/

def TaskKnows (db : IdentityDb) : IdentityTask → Prop
  | .legacy _ _ => True
  | .save _ _ none => True
  | .save t _ (some customerId) => tenantOf db customerId = some t
  | .bindSave customerId t _ => tenantOf db customerId = some t

structure IdentityInv (s : IdentityRun) : Prop where
  own : ∀ a ∈ s.answers,
    (a.customerId, a.identity) ∈ s.created ∨ (a.customerId, a.identity) ∈ s.joined
  kept : ∀ a ∈ s.answers, boundCustomer s.db a.tenantId a.identity = some a.customerId
  joins : ∀ x ∈ s.joined, ∃ t, tenantOf s.db x.1 = some t ∧ boundCustomer s.db t x.2 = some x.1
  tenants : ∀ j b, s.db.bindings.get? j = some b → tenantOf s.db b.customerId = some b.tenantId
  sources : ∀ j b, s.db.bindings.get? j = some b →
    (b.customerId, b.identity) ∈ s.created ∨ (b.customerId, b.identity) ∈ s.joined
  /-- a customer was created for one identity, which is bound to it. -/
  createdOnce : ∀ c i j, (c, i) ∈ s.created → (c, j) ∈ s.created → i = j
  createdBound : ∀ x ∈ s.created, ∃ t, tenantOf s.db x.1 = some t ∧
    boundCustomer s.db t x.2 = some x.1
  tasks : ∀ task ∈ s.waiting, TaskKnows s.db task

structure Grows (db db' : IdentityDb) : Prop where
  tenants : ∀ c t, tenantOf db c = some t → tenantOf db' c = some t
  bound : ∀ t i c, boundCustomer db t i = some c → boundCustomer db' t i = some c

section Invariant
variable {env : IdentityEnv} {s : IdentityRun} {db db' db'' : IdentityDb} {t : Option ℕ}
  {i : CustomerIdentity} {c : ℕ} {b : IdentityBinding}

lemma identityInv_empty : IdentityInv IdentityRun.empty where
  own := by
    intro a ha
    cases ha
  kept := by
    intro a ha
    cases ha
  joins := by
    intro x hx
    cases hx
  tenants := by
    intro j b hb
    cases hb
  sources := by
    intro j b hb
    cases hb
  createdOnce := by
    intro c i j h
    cases h
  createdBound := by
    intro x hx
    cases hx
  tasks := by
    intro task h
    cases h

lemma binding_of_bound (h : boundCustomer db t i = some c) :
    ∃ j, db.bindings.get? j = some ⟨t, i, c⟩ := by
  obtain ⟨b, hb, rfl⟩ := Option.map_eq_some_iff.1 h
  obtain ⟨rfl, rfl, j, hget⟩ := get?_of_findBinding hb
  exact ⟨j, hget⟩

lemma IdentityInv.tenant_of_bound (h : IdentityInv s) (hb : boundCustomer s.db t i = some c) :
    tenantOf s.db c = some t := by
  obtain ⟨j, hj⟩ := binding_of_bound hb
  exact h.tenants j _ hj

lemma IdentityInv.isFunction (h : IdentityInv s) : IdentityFunction s where
  function := by
    intro hnone a ha b hb
    constructor
    · intro hsame
      have hta := h.tenant_of_bound (h.kept a ha)
      have htb := h.tenant_of_bound (h.kept b hb)
      rw [hsame, htb] at hta
      refine ⟨(Option.some.inj hta).symm, ?_⟩
      have hown : ∀ x ∈ s.answers, (x.customerId, x.identity) ∈ s.created := by
        intro x hx
        refine (h.own x hx).resolve_right ?_
        rw [hnone]
        exact List.not_mem_nil
      have hca := hown a ha
      rw [hsame] at hca
      exact h.createdOnce _ _ _ hca (hown b hb)
    · rintro ⟨htenant, hidentity⟩
      have hka := h.kept a ha
      rw [htenant, hidentity, h.kept b hb] at hka
      exact (Option.some.inj hka).symm
  own := h.own
  kept := h.kept
  joins := h.joins
  tenants := h.tenants

/-! ## tables that grow -/

lemma Grows.trans (h : Grows db db') (h' : Grows db' db'') : Grows db db'' where
  tenants := fun c t hc => h'.tenants c t (h.tenants c t hc)
  bound := fun t i c hc => h'.bound t i c (h.bound t i c hc)

lemma Grows.task (h : Grows db db') {task : IdentityTask} (ht : TaskKnows db task) :
    TaskKnows db' task := by
  cases task with
  | legacy t i => trivial
  | save t i candidate =>
    cases candidate with
    | none => trivial
    | some c => exact h.tenants _ _ ht
  | bindSave c t i => exact h.tenants _ _ ht

lemma tenantOf_applyProfile (c d : ℕ) : tenantOf (db.applyProfile i c) d = tenantOf db d := by
  show ((db.customers.modify c _).get? d).map _ = (db.customers.get? d).map _
  rw [Table.get?_modify]
  split
  · rename_i hd
    rw [hd, Option.map_map]
    refine congrArg (Option.map · _) ?_
    funext x
    exact tenantId_applyProfile
  · rfl

lemma grows_applyProfile (c : ℕ) : Grows db (db.applyProfile i c) where
  tenants := by
    intro d t hd
    rw [tenantOf_applyProfile]
    exact hd
  bound := fun _ _ _ h => h

lemma grows_createCustomer : Grows db (db.createCustomer t).2 where
  tenants := by
    intro d t' hd
    obtain ⟨x, hx, rfl⟩ := Option.map_eq_some_iff.1 hd
    show ((db.customers.insert _).get? d).map _ = _
    rw [Table.get?_insert_of_some _ hx]
    rfl
  bound := fun _ _ _ h => h

lemma grows_bind (c : ℕ) : Grows db (db.bind t i c) where
  tenants := fun _ _ h => h
  bound := by
    intro t' i' d hd
    obtain ⟨b, hb, rfl⟩ := Option.map_eq_some_iff.1 hd
    unfold boundCustomer
    rw [findBinding_bind_of_some hb]
    rfl

lemma bound_bind_self (h : findBinding db t i = none) (c : ℕ) :
    boundCustomer (db.bind t i c) t i = some c := by
  unfold boundCustomer
  rw [findBinding_bind_self h]
  rfl

lemma row_of_bind {j : ℕ} (h : (db.bind t i c).bindings.get? j = some b) :
    b = ⟨t, i, c⟩ ∨ db.bindings.get? j = some b := by
  have hinsert : (db.bindings.insert ⟨t, i, c⟩).get? j = some b := h
  rw [Table.get?_insert] at hinsert
  split at hinsert
  · exact .inl (Option.some.inj hinsert).symm
  · exact .inr hinsert

/-! ## steps that keep the invariant -/

section
variable (h : IdentityInv s)
include h

lemma IdentityInv.wait {w : List IdentityTask} (hw : ∀ task ∈ w, TaskKnows s.db task) :
    IdentityInv { s with waiting := w } :=
  { h with tasks := hw }

lemma IdentityInv.grown (hg : Grows s.db db') (hrows : db'.bindings = s.db.bindings) :
    IdentityInv { s with db := db' } where
  own := h.own
  kept := fun a ha => hg.bound _ _ _ (h.kept a ha)
  joins := by
    intro x hx
    obtain ⟨t, ht, hb⟩ := h.joins x hx
    exact ⟨t, hg.tenants _ _ ht, hg.bound _ _ _ hb⟩
  tenants := by
    intro j b hb
    have hold : s.db.bindings.get? j = some b := by
      rw [← hrows]
      exact hb
    exact hg.tenants _ _ (h.tenants j b hold)
  sources := by
    intro j b hb
    have hold : s.db.bindings.get? j = some b := by
      rw [← hrows]
      exact hb
    exact h.sources j b hold
  createdOnce := h.createdOnce
  createdBound := by
    intro x hx
    obtain ⟨t, ht, hb⟩ := h.createdBound x hx
    exact ⟨t, hg.tenants _ _ ht, hg.bound _ _ _ hb⟩
  tasks := fun task htask => hg.task (h.tasks task htask)

lemma IdentityInv.answer (hb : boundCustomer s.db t i = some c)
    (hown : (c, i) ∈ s.created ∨ (c, i) ∈ s.joined) :
    IdentityInv { s with answers := ⟨t, i, c⟩ :: s.answers } :=
  { h with
    own := by
      intro a ha
      rcases List.mem_cons.1 ha with rfl | ha
      · exact hown
      · exact h.own a ha
    kept := by
      intro a ha
      rcases List.mem_cons.1 ha with rfl | ha
      · exact hb
      · exact h.kept a ha }

lemma IdentityInv.join (hb : boundCustomer s.db t i = some c) :
    IdentityInv { s with joined := (c, i) :: s.joined } :=
  { h with
    own := by
      intro a ha
      rcases h.own a ha with hc | hj
      · exact .inl hc
      · exact .inr (List.mem_cons_of_mem _ hj)
    joins := by
      intro x hx
      rcases List.mem_cons.1 hx with rfl | hx
      · exact ⟨t, h.tenant_of_bound hb, hb⟩
      · exact h.joins x hx
    sources := by
      intro j b hj
      rcases h.sources j b hj with hc | hjoined
      · exact .inl hc
      · exact .inr (List.mem_cons_of_mem _ hjoined) }

lemma IdentityInv.bindJoined (hnone : findBinding s.db t i = none) (ht : tenantOf s.db c = some t) :
    IdentityInv { s with db := s.db.bind t i c, joined := (c, i) :: s.joined } where
  own := by
    intro a ha
    rcases h.own a ha with hc | hj
    · exact .inl hc
    · exact .inr (List.mem_cons_of_mem _ hj)
  kept := fun a ha => (grows_bind c).bound _ _ _ (h.kept a ha)
  joins := by
    intro x hx
    rcases List.mem_cons.1 hx with rfl | hx
    · exact ⟨t, ht, bound_bind_self hnone c⟩
    · obtain ⟨t', ht', hb⟩ := h.joins x hx
      exact ⟨t', ht', (grows_bind c).bound _ _ _ hb⟩
  tenants := by
    intro j b hb
    rcases row_of_bind hb with rfl | hold
    · exact ht
    · exact h.tenants j b hold
  sources := by
    intro j b hb
    rcases row_of_bind hb with rfl | hold
    · exact .inr (List.mem_cons_self ..)
    · rcases h.sources j b hold with hc | hj
      · exact .inl hc
      · exact .inr (List.mem_cons_of_mem _ hj)
  createdOnce := h.createdOnce
  createdBound := by
    intro x hx
    obtain ⟨t', ht', hb⟩ := h.createdBound x hx
    exact ⟨t', ht', (grows_bind c).bound _ _ _ hb⟩
  tasks := fun task htask => (grows_bind c).task (h.tasks task htask)

lemma IdentityInv.bindCreated (hnone : findBinding s.db t i = none) (ht : tenantOf s.db c = some t)
    (hfresh : ∀ j, (c, j) ∉ s.created) :
    IdentityInv { s with db := s.db.bind t i c, created := (c, i) :: s.created } where
  own := by
    intro a ha
    rcases h.own a ha with hc | hj
    · exact .inl (List.mem_cons_of_mem _ hc)
    · exact .inr hj
  kept := fun a ha => (grows_bind c).bound _ _ _ (h.kept a ha)
  joins := by
    intro x hx
    obtain ⟨t', ht', hb⟩ := h.joins x hx
    exact ⟨t', ht', (grows_bind c).bound _ _ _ hb⟩
  tenants := by
    intro j b hb
    rcases row_of_bind hb with rfl | hold
    · exact ht
    · exact h.tenants j b hold
  sources := by
    intro j b hb
    rcases row_of_bind hb with rfl | hold
    · exact .inl (List.mem_cons_self ..)
    · rcases h.sources j b hold with hc | hj
      · exact .inl (List.mem_cons_of_mem _ hc)
      · exact .inr hj
  createdOnce := by
    intro d j k hj hk
    rcases List.mem_cons.1 hj with hj | hj <;> rcases List.mem_cons.1 hk with hk | hk
    · cases hj
      cases hk
      rfl
    · cases hj
      exact absurd hk (hfresh k)
    · cases hk
      exact absurd hj (hfresh j)
    · exact h.createdOnce d j k hj hk
  createdBound := by
    intro x hx
    rcases List.mem_cons.1 hx with rfl | hx
    · exact ⟨t, ht, bound_bind_self hnone c⟩
    · obtain ⟨t', ht', hb⟩ := h.createdBound x hx
      exact ⟨t', ht', (grows_bind c).bound _ _ _ hb⟩
  tasks := fun task htask => (grows_bind c).task (h.tasks task htask)

end

/-! ## calls -/

lemma IdentityInv.returnBound_eq (h : IdentityInv s) (hb : findBinding s.db t i = some b) :
    returnBound s.db i b = .returned b.customerId (s.db.applyProfile i b.customerId) := by
  obtain ⟨-, -, j, hj⟩ := get?_of_findBinding hb
  obtain ⟨x, hx, htenant⟩ := Option.map_eq_some_iff.1 (h.tenants j b hj)
  unfold returnBound
  rw [hx]
  exact if_pos htenant

lemma bound_of_findBinding (hb : findBinding db t i = some b) :
    boundCustomer db t i = some b.customerId := by
  unfold boundCustomer
  rw [hb]
  rfl

section
variable (h : IdentityInv s)
include h

lemma IdentityInv.source (hb : boundCustomer s.db t i = some c) :
    (c, i) ∈ s.created ∨ (c, i) ∈ s.joined := by
  obtain ⟨j, hj⟩ := binding_of_bound hb
  exact h.sources j _ hj

lemma IdentityInv.resolved_of_binding (hb : findBinding s.db t i = some b) :
    IdentityInv (s.resolved t i (returnBound s.db i b)) := by
  rw [h.returnBound_eq hb]
  have hprofile := h.grown (grows_applyProfile (i := i) b.customerId) rfl
  have hbound : boundCustomer (s.db.applyProfile i b.customerId) t i = some b.customerId :=
    bound_of_findBinding hb
  exact hprofile.answer hbound (hprofile.source hbound)

lemma IdentityInv.resolved_of_waiting {task : IdentityTask} (htask : TaskKnows s.db task) :
    IdentityInv (s.resolved t i (.waiting task)) := by
  refine h.wait ?_
  intro x hx
  rcases List.mem_append.1 hx with hx | hx
  · exact h.tasks x hx
  · rw [List.mem_singleton.1 hx]
    exact htask

lemma IdentityInv.created_of_save (hnone : findBinding s.db t i = none) :
    IdentityInv { s.resolved t i (resolveSave s.db t i none) with
      created := (s.db.customers.next, i) :: s.created } := by
  have hnew := h.grown (grows_createCustomer (t := t)) rfl
  have hprofile := hnew.grown (grows_applyProfile (i := i) s.db.customers.next) rfl
  have htenant : tenantOf ((s.db.createCustomer t).2.applyProfile i s.db.customers.next)
      s.db.customers.next = some t := by
    rw [tenantOf_applyProfile]
    show ((s.db.customers.insert _).get? s.db.customers.next).map _ = _
    rw [Table.get?_insert_self]
    rfl
  have hfresh : ∀ j, (s.db.customers.next, j) ∉ s.created := by
    intro j hj
    obtain ⟨t', ht', -⟩ := h.createdBound _ hj
    obtain ⟨x, hx, -⟩ := Option.map_eq_some_iff.1 ht'
    exact absurd (Table.lt_next hx) (lt_irrefl _)
  have hbind := hprofile.bindCreated (i := i) hnone htenant hfresh
  have hanswer := hbind.answer (bound_bind_self hnone _) (.inl (List.mem_cons_self ..))
  unfold resolveSave
  rw [hnone]
  exact hanswer

lemma IdentityInv.resolveStart {identityType identityValue : Text}
    (hi : normalizeCustomerIdentity env identityType identityValue = .ok i) :
    IdentityInv (s.resolved t i (resolveStart s.db t env identityType identityValue)) := by
  unfold Customers.resolveStart
  split
  · exact h
  · rw [hi]
    dsimp only
    split
    · rename_i b hb
      exact h.resolved_of_binding hb
    · exact h.resolved_of_waiting trivial

lemma IdentityInv.bindStart {identityType identityValue : Text}
    (hi : normalizeCustomerIdentity env identityType identityValue = .ok i) :
    IdentityInv (s.bound i (bindStart s.db env c identityType identityValue)) := by
  unfold Customers.bindStart
  split
  · exact h
  · rename_i x hx
    have htenant : tenantOf s.db c = some x.tenantId := by
      unfold tenantOf
      rw [hx]
      rfl
    split
    · exact h
    · rw [hi]
      dsimp only
      split
      · rename_i b hb
        split
        · rename_i hsame
          have hprofile := h.grown (grows_applyProfile (i := i) c) rfl
          have hbound := bound_of_findBinding hb
          rw [hsame] at hbound
          exact hprofile.join hbound
        · exact h
      · exact h.resolved_of_waiting (t := x.tenantId) (i := i) htenant

lemma IdentityInv.bindSave (htenant : tenantOf s.db c = some t) :
    IdentityInv (s.bound i (bindSave s.db t i c)) := by
  unfold Customers.bindSave
  split
  · rename_i b hb
    split
    · rename_i hsame
      have hbound := bound_of_findBinding hb
      rw [hsame] at hbound
      exact h.join hbound
    · exact h
  · rename_i hnone
    have hprofile := h.grown (grows_applyProfile (i := i) c) rfl
    refine hprofile.bindJoined hnone ?_
    rw [tenantOf_applyProfile]
    exact htenant

end

/-! ## the steps of a run -/

lemma IdentityInv.erase (h : IdentityInv s) (k : ℕ) :
    IdentityInv { s with waiting := s.waiting.eraseIdx k } :=
  h.wait fun task htask => h.tasks task (List.mem_of_mem_eraseIdx htask)

lemma tenantOf_of_mem_legacyCandidates (h : c ∈ legacyCandidates db t i) :
    tenantOf db c = some t := by
  obtain ⟨x, hx, htenant, -⟩ := mem_legacyCandidates h
  unfold tenantOf
  rw [hx]
  exact congrArg some htenant

lemma IdentityInv.legacy (h : IdentityInv s) : IdentityInv (proceedTask (.legacy t i) s) := by
  unfold proceedTask legacyLookup
  dsimp only
  have hmem : ∀ c ∈ legacyCandidates s.db t i, tenantOf s.db c = some t :=
    fun c hc => tenantOf_of_mem_legacyCandidates hc
  generalize legacyCandidates s.db t i = candidates at hmem ⊢
  cases candidates with
  | nil => exact h.resolved_of_waiting trivial
  | cons c rest =>
    cases rest with
    | nil => exact h.resolved_of_waiting (hmem c (List.mem_cons_self ..))
    | cons d rest => exact h

lemma IdentityInv.save (h : IdentityInv s) (candidate : Option ℕ)
    (hbound : candidate ≠ none → findBinding s.db t i ≠ none) :
    IdentityInv (proceedTask (.save t i candidate) s) := by
  unfold proceedTask
  dsimp only
  cases hb : findBinding s.db t i with
  | some b =>
    rw [if_neg (fun hand => nomatch hand.2)]
    unfold resolveSave
    rw [hb]
    exact h.resolved_of_binding hb
  | none =>
    cases candidate with
    | some c => exact absurd hb (hbound (by nofun))
    | none =>
      rw [if_pos ⟨rfl, rfl⟩]
      exact h.created_of_save hb

lemma identityInv_step (h : IdentityInv s) (e : IdentityEvent) (hg : Unadopted s e) :
    IdentityInv (identityStep env e s) := by
  cases e with
  | resolve t identityType identityValue =>
    unfold identityStep
    dsimp only
    split
    · exact h
    · rename_i i hi
      exact h.resolveStart hi
  | bind c identityType identityValue =>
    unfold identityStep
    dsimp only
    split
    · exact h
    · rename_i i hi
      exact h.bindStart hi
  | proceed k =>
    unfold identityStep
    dsimp only
    unfold Unadopted at hg
    dsimp only at hg
    split
    · exact h
    · rename_i task htask
      rw [htask] at hg
      have hknows := h.tasks task (List.mem_of_getElem? htask)
      have herase := h.erase k
      cases task with
      | legacy t i => exact herase.legacy
      | save t i candidate =>
        refine herase.save candidate ?_
        intro hsome
        cases candidate with
        | none => exact absurd rfl hsome
        | some c => exact hg
      | bindSave c t i => exact herase.bindSave hknows

lemma IdentityInv.not_adopted (h : IdentityInv s) (hnone : findBinding s.db t i = none)
    (htenant : tenantOf s.db c = some t) : (c, i) ∉ s.created ∧ (c, i) ∉ s.joined := by
  have hno : ∀ t', tenantOf s.db c = some t' → boundCustomer s.db t' i ≠ some c := by
    intro t' ht' hb
    rw [htenant] at ht'
    cases ht'
    unfold boundCustomer at hb
    rw [hnone] at hb
    cases hb
  constructor
  · intro hc
    obtain ⟨t', ht', hb⟩ := h.createdBound _ hc
    exact hno t' ht' hb
  · intro hj
    obtain ⟨t', ht', hb⟩ := h.joins _ hj
    exact hno t' ht' hb

lemma adopted_not_function (h : IdentityInv s) (hnone : findBinding s.db t i = none)
    (htenant : tenantOf s.db c = some t) :
    ¬IdentityFunction (proceedTask (.save t i (some c)) s) := by
  intro hf
  unfold proceedTask resolveSave at hf
  dsimp only at hf
  rw [hnone, if_neg (fun hand => nomatch hand.1)] at hf
  have hown := hf.own ⟨t, i, c⟩ (List.mem_cons_self ..)
  have hnot := h.not_adopted hnone htenant
  rcases hown with hc | hj
  · exact hnot.1 hc
  · exact hnot.2 hj

lemma identityFunction_step_iff (h : IdentityInv s) (e : IdentityEvent) :
    IdentityFunction (identityStep env e s) ↔ Unadopted s e := by
  constructor
  · intro hf
    by_contra hg
    cases e with
    | resolve t identityType identityValue => exact hg trivial
    | bind c identityType identityValue => exact hg trivial
    | proceed k =>
      unfold identityStep at hf
      dsimp only at hf
      unfold Unadopted at hg
      dsimp only at hg
      cases htask : s.waiting[k]? with
      | none =>
        rw [htask] at hg
        exact hg trivial
      | some task =>
        rw [htask] at hf hg
        have hknows := h.tasks task (List.mem_of_getElem? htask)
        cases task with
        | legacy t i => exact hg trivial
        | save t i candidate =>
          cases candidate with
          | none => exact hg trivial
          | some c => exact adopted_not_function (h.erase k) (not_not.1 hg) hknows hf
        | bindSave c t i => exact hg trivial
  · intro hg
    exact (identityInv_step h e hg).isFunction

end Invariant

theorem identity_function_iff (env : IdentityEnv) (l : List IdentityEvent) :
    (∀ p, p <+: l → IdentityFunction (run (identityStep env) IdentityRun.empty p)) ↔
      Along (identityStep env) Unadopted IdentityRun.empty l := by
  rw [forall_prefix_iff, and_iff_right identityInv_empty.isFunction]
  refine Along.congr (I := IdentityInv) (A := fun _ _ => True) ?_ ?_ identityInv_empty
    (along_true _ _)
  · intro s e h _
    exact identityFunction_step_iff h e
  · intro s e h _ hg
    exact identityInv_step h e hg

def isAsciiDigit (c : Char) : Bool := decide ('0' ≤ c) && decide (c ≤ '9')

def plainEnv : IdentityEnv where
  lower := id
  casefold := id
  digit := isAsciiDigit
  scopeValid := fun _ => true

def longReferences : List IdentityEvent :=
  [.resolve (some 1) "external_ref".toList (List.replicate 121 'a'), .proceed 0, .proceed 0,
   .resolve (some 1) "external_ref".toList (List.replicate 120 'a'), .proceed 0, .proceed 0]

theorem long_reference_adopts :
    ¬IdentityFunction (run (identityStep plainEnv) IdentityRun.empty longReferences) := by
  intro h
  have hjoined : (run (identityStep plainEnv) IdentityRun.empty longReferences).joined = [] := by
    decide +kernel
  have hanswers : (run (identityStep plainEnv) IdentityRun.empty longReferences).answers =
      [⟨some 1, ⟨.externalRef, List.replicate 120 'a'⟩, 1⟩,
       ⟨some 1, ⟨.externalRef, List.replicate 121 'a'⟩, 1⟩] := by
    decide +kernel
  have hone := h.function hjoined
  rw [hanswers] at hone
  have hsame := (hone ⟨some 1, ⟨.externalRef, List.replicate 120 'a'⟩, 1⟩ (by simp)
    ⟨some 1, ⟨.externalRef, List.replicate 121 'a'⟩, 1⟩ (by simp)).1 rfl
  exact absurd hsame.2 (by decide)

end NexusHelpdesk.Customers
