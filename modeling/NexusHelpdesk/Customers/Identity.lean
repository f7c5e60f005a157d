import NexusHelpdesk.Desk.Basic
import NexusHelpdesk.Lib.Table

/-!
# Customer identities (`customer_identity_service.py`)

A binding names the customer of an identity in a tenant.  An identity without a binding is looked
up in the profiles of the customers, which keep a cut copy of one identity of each kind.

* `normalizeCustomerIdentity`: the kind and the normalised value of an identity;
* `resolveStart`, `legacyLookup`, `resolveSave`: `resolve_or_create_customer` up to its two
  look-ups, and its savepoint;
* `bindStart`, `bindSave`: `bind_customer_identity` up to its look-up, and its savepoint.

`str.lower`, `str.casefold` and the Unicode digits are parameters.
-/

namespace NexusHelpdesk.Customers

open Lib

abbrev Text := List Char

/-! ## identities -/

inductive IdentityKind where
  | email | phone | externalRef
deriving DecidableEq, Repr

structure CustomerIdentity where
  kind : IdentityKind
  value : Text
deriving DecidableEq, Repr

structure IdentityEnv where
  lower : Text → Text
  casefold : Text → Text
  /-- what `\d` matches. -/
  digit : Char → Bool
  /-- `_validate_scope`: the tenant is there and active, or the shadow domain is in use. -/
  scopeValid : Option ℕ → Bool

section Normalize
variable (env : IdentityEnv)

def normalizeEmail (value : Text) : Option Text :=
  let cleaned := env.lower (PyStr.stripChars value)
  if cleaned = [] then none else some cleaned

def normalizePhone (value : Text) : Option Text :=
  let digits := match PyStr.stripChars value with
    | '+' :: rest => '+' :: rest.filter env.digit
    | raw => raw.filter env.digit
  if digits = [] then none else some digits

def identityKind (identityType : Text) : Option IdentityKind :=
  let kind := env.lower (PyStr.stripChars identityType)
  if kind = "email".toList then some .email
  else if kind = "phone".toList then some .phone
  else if kind = "external_ref".toList then some .externalRef
  else none

def normalizeCustomerIdentity (identityType identityValue : Text) :
    Except String CustomerIdentity :=
  match identityKind env identityType with
  | none => .error "unsupported_customer_identity_type"
  | some kind =>
    let raw := PyStr.stripChars identityValue
    let normalized := match kind with
      | .email => (normalizeEmail env raw).getD []
      | .phone => (normalizePhone env raw).getD []
      | .externalRef => env.casefold raw
    if normalized = [] then .error "customer_identity_value_required"
    else .ok ⟨kind, normalized.take 320⟩

end Normalize

/-! ## tables -/

structure Customer where
  tenantId : Option ℕ
  emailNormalized : Option Text
  phoneNormalized : Option Text
  externalRef : Option Text
deriving DecidableEq, Repr

structure IdentityBinding where
  tenantId : Option ℕ
  identity : CustomerIdentity
  customerId : ℕ
deriving DecidableEq, Repr

structure IdentityDb where
  customers : Table Customer
  bindings : Table IdentityBinding

def IdentityDb.empty : IdentityDb := ⟨Table.empty, Table.empty⟩

def Customer.profile (c : Customer) : IdentityKind → Option Text
  | .email => c.emailNormalized
  | .phone => c.phoneNormalized
  | .externalRef => c.externalRef

def profileWidth : IdentityKind → ℕ
  | .email => 200
  | .phone => 60
  | .externalRef => 120

def Customer.setProfile (c : Customer) (kind : IdentityKind) (value : Text) : Customer :=
  match kind with
  | .email => { c with emailNormalized := some value }
  | .phone => { c with phoneNormalized := some value }
  | .externalRef => { c with externalRef := some value }

/-- `_apply_profile`: an empty column takes the identity. -/
def Customer.applyProfile (identity : CustomerIdentity) (c : Customer) : Customer :=
  if (c.profile identity.kind).all (· = []) then
    c.setProfile identity.kind (identity.value.take (profileWidth identity.kind))
  else c

section Services
variable (db : IdentityDb) (tenantId : Option ℕ) (identity : CustomerIdentity)

def findBinding : Option IdentityBinding :=
  ((db.bindings.select fun _ b => b.tenantId = tenantId && b.identity = identity).head?).map
    Prod.snd

def legacyCandidates : List ℕ :=
  ((db.customers.select fun _ c =>
    c.tenantId = tenantId && c.profile identity.kind = some identity.value).take 2).map Prod.fst

def IdentityDb.applyProfile (customerId : ℕ) : IdentityDb :=
  { db with customers := db.customers.modify customerId (Customer.applyProfile identity) }

def IdentityDb.bind (customerId : ℕ) : IdentityDb :=
  { db with bindings := db.bindings.insert ⟨tenantId, identity, customerId⟩ }

def IdentityDb.createCustomer : ℕ × IdentityDb :=
  (db.customers.next, { db with customers := db.customers.insert ⟨tenantId, none, none, none⟩ })

/-- what a call comes to: it returns a customer, waits between two steps, or raises. -/
inductive CallResult (Task : Type) where
  | returned (customerId : ℕ) (db : IdentityDb)
  | waiting (task : Task)
  | raised (code : String)

inductive IdentityTask where
  | legacy (tenantId : Option ℕ) (identity : CustomerIdentity)
  | save (tenantId : Option ℕ) (identity : CustomerIdentity) (candidate : Option ℕ)
  | bindSave (customerId : ℕ) (tenantId : Option ℕ) (identity : CustomerIdentity)
deriving DecidableEq, Repr

/-- `_load_bound_customer` and `_apply_profile`. -/
def returnBound (b : IdentityBinding) : CallResult IdentityTask :=
  match db.customers.get? b.customerId with
  | some c =>
    if c.tenantId = b.tenantId then .returned b.customerId (db.applyProfile identity b.customerId)
    else .raised "customer_identity_binding_conflict"
  | none => .raised "customer_identity_binding_conflict"

/-- `resolve_or_create_customer` up to the look-up of the binding. -/
def resolveStart (env : IdentityEnv) (identityType identityValue : Text) :
    CallResult IdentityTask :=
  if env.scopeValid tenantId = false then .raised "customer_identity_tenant_missing"
  else
    match normalizeCustomerIdentity env identityType identityValue with
    | .error code => .raised code
    | .ok identity =>
      match findBinding db tenantId identity with
      | some b => returnBound db identity b
      | none => .waiting (.legacy tenantId identity)

def legacyLookup : CallResult IdentityTask :=
  match legacyCandidates db tenantId identity with
  | [] => .waiting (.save tenantId identity none)
  | [candidate] => .waiting (.save tenantId identity (some candidate))
  | _ => .raised "customer_identity_legacy_collision"

/-- the savepoint; the unique index sends it back to a binding that came first. -/
def resolveSave (candidate : Option ℕ) : CallResult IdentityTask :=
  match findBinding db tenantId identity with
  | some winner => returnBound db identity winner
  | none =>
    match candidate with
    | some customerId =>
      .returned customerId ((db.applyProfile identity customerId).bind tenantId identity customerId)
    | none =>
      let (customerId, db) := db.createCustomer tenantId
      .returned customerId ((db.applyProfile identity customerId).bind tenantId identity customerId)

/-- `bind_customer_identity` up to the look-up of the binding. -/
def bindStart (env : IdentityEnv) (customerId : ℕ) (identityType identityValue : Text) :
    CallResult IdentityTask :=
  match db.customers.get? customerId with
  | none => .raised "customer_missing"
  | some customer =>
    if env.scopeValid customer.tenantId = false then .raised "customer_identity_tenant_missing"
    else
      match normalizeCustomerIdentity env identityType identityValue with
      | .error code => .raised code
      | .ok identity =>
        match findBinding db customer.tenantId identity with
        | some b =>
          if b.customerId = customerId then
            .returned customerId (db.applyProfile identity customerId)
          else .raised "customer_identity_already_bound"
        | none => .waiting (.bindSave customerId customer.tenantId identity)

def bindSave (customerId : ℕ) : CallResult IdentityTask :=
  match findBinding db tenantId identity with
  | some winner =>
    if winner.customerId = customerId then .returned customerId db
    else .raised "customer_identity_already_bound"
  | none =>
    .returned customerId ((db.applyProfile identity customerId).bind tenantId identity customerId)

end Services

/-! ## bindings -/

section Lemmas
variable {db : IdentityDb} {tenantId t : Option ℕ} {identity i : CustomerIdentity}
  {b : IdentityBinding} {customerId : ℕ} {c : Customer}

lemma get?_of_findBinding (h : findBinding db tenantId identity = some b) :
    b.tenantId = tenantId ∧ b.identity = identity ∧ ∃ i, db.bindings.get? i = some b := by
  obtain ⟨⟨i, b'⟩, hhead, rfl⟩ := Option.map_eq_some_iff.1 h
  obtain ⟨hget, hp⟩ := (db.bindings.mem_select).1 (List.mem_of_head? hhead)
  rw [Bool.and_eq_true, decide_eq_true_iff, decide_eq_true_iff] at hp
  exact ⟨hp.1, hp.2, i, hget⟩

@[simp] lemma findBinding_applyProfile (customerId : ℕ) :
    findBinding (db.applyProfile i customerId) tenantId identity =
      findBinding db tenantId identity := rfl

lemma findBinding_bind (customerId : ℕ) : findBinding (db.bind t i customerId) tenantId identity =
    (findBinding db tenantId identity).or
      (if t = tenantId ∧ i = identity then some ⟨t, i, customerId⟩ else none) := by
  unfold findBinding IdentityDb.bind
  dsimp only
  rw [Table.select_insert, List.head?_append]
  by_cases h : t = tenantId ∧ i = identity
  · rw [if_pos (by simpa using h), if_pos h]
    cases (db.bindings.select fun _ b => decide (b.tenantId = tenantId) &&
      decide (b.identity = identity)).head? with
    | none => rfl
    | some x => rfl
  · rw [if_neg (by simpa using h), if_neg h]
    cases (db.bindings.select fun _ b => decide (b.tenantId = tenantId) &&
      decide (b.identity = identity)).head? with
    | none => rfl
    | some x => rfl

lemma findBinding_bind_self (h : findBinding db t i = none) (customerId : ℕ) :
    findBinding (db.bind t i customerId) t i = some ⟨t, i, customerId⟩ := by
  rw [findBinding_bind, h, if_pos ⟨rfl, rfl⟩]
  rfl

lemma findBinding_bind_of_some (h : findBinding db tenantId identity = some b) (customerId : ℕ) :
    findBinding (db.bind t i customerId) tenantId identity = some b := by
  rw [findBinding_bind, h]
  rfl

@[simp] lemma tenantId_applyProfile : (c.applyProfile i).tenantId = c.tenantId := by
  unfold Customer.applyProfile
  split
  · cases i.kind <;> rfl
  · rfl

lemma mem_legacyCandidates (h : customerId ∈ legacyCandidates db tenantId identity) :
    ∃ c, db.customers.get? customerId = some c ∧ c.tenantId = tenantId ∧
      c.profile identity.kind = some identity.value := by
  obtain ⟨⟨j, c⟩, hmem, rfl⟩ := List.mem_map.1 h
  obtain ⟨hget, hp⟩ := (db.customers.mem_select).1 (List.mem_of_mem_take hmem)
  rw [Bool.and_eq_true, decide_eq_true_iff, decide_eq_true_iff] at hp
  exact ⟨c, hget, hp.1, hp.2⟩

end Lemmas

end NexusHelpdesk.Customers
