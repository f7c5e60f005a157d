import NexusHelpdesk.Snapshots.Payload

/-!
# The customer of a snapshot

A job of one worker runs the steps of `resolve_or_create_customer` and `bind_customer_identity` one
after the other.

* `resolveOrCreateCustomer`, `bindCustomerIdentity`: the two services, in one transaction;
* `customer`: `_customer`;
* `knownCustomer`: who an identity belongs to before the call;
* `customer_spec`: **the visitor is the known customer of its first identity, or a new one**.
-/

namespace NexusHelpdesk.Snapshots

open Lib Customers

def perform (db : IdentityDb) (task : IdentityTask) : CallResult IdentityTask :=
  match task with
  | .legacy tenantId identity => legacyLookup db tenantId identity
  | .save tenantId identity candidate => resolveSave db tenantId identity candidate
  | .bindSave customerId tenantId identity => bindSave db tenantId identity customerId

/-- a call goes on until it returns; no call takes more than `fuel` steps. -/
def finish (db : IdentityDb) : ℕ → CallResult IdentityTask → Except String (ℕ × IdentityDb)
  | _, .returned customerId db' => .ok (customerId, db')
  | _, .raised code => .error code
  | 0, .waiting _ => .error "unfinished"
  | fuel + 1, .waiting task => finish db fuel (perform db task)

section Code
variable (env : IdentityEnv)

def resolveOrCreateCustomer (db : IdentityDb) (tenantId : ℕ) (identityType identityValue : Text) :
    Except String (ℕ × IdentityDb) :=
  finish db 2 (resolveStart db (some tenantId) env identityType identityValue)

def bindCustomerIdentity (db : IdentityDb) (customerId : ℕ) (identityType identityValue : Text) :
    Except String IdentityDb :=
  (finish db 1 (bindStart db env customerId identityType identityValue)).map Prod.snd

def externalRef (tenantKey sessionId : Text) : Text :=
  (joinColon ["webchat-runtime".toList, tenantKey, sessionId]).take 160

/-- the identity that the visitor is looked up by: its kind and its value. -/
def visitorIdentity (tenantKey publicId : Text) (s : Snapshot) : Text × Text :=
  match clip s.visitor.email 200, clip s.visitor.phone 60 with
  | some email, _ => ("email".toList, email)
  | none, some phone => ("phone".toList, phone)
  | none, none =>
    ("external_ref".toList, externalRef tenantKey ((clip s.sessionId 120).getD publicId))

def customer (db : IdentityDb) (tenantId : ℕ) (tenantKey publicId : Text) (s : Snapshot) :
    Except String (ℕ × IdentityDb) := do
  let first := visitorIdentity tenantKey publicId s
  let (customerId, db) ← resolveOrCreateCustomer env db tenantId first.1 first.2
  let db ← bindCustomerIdentity env db customerId "external_ref".toList
    (externalRef tenantKey ((clip s.sessionId 120).getD publicId))
  -- an email is the first identity whenever there is one
  match clip s.visitor.phone 60 with
  | some phone =>
    if first.1 ≠ "phone".toList then
      let db ← bindCustomerIdentity env db customerId "phone".toList phone
      return (customerId, db)
    else return (customerId, db)
  | none => return (customerId, db)

end Code

/-! ## the known customer -/

/-- the customer of an identity: by its binding, else by the profiles. -/
def knownCustomer (db : IdentityDb) (tenantId : Option ℕ) (identity : CustomerIdentity) :
    Option ℕ :=
  match findBinding db tenantId identity with
  | some b => some b.customerId
  | none => (legacyCandidates db tenantId identity).head?

def visitorOf (env : IdentityEnv) (db : IdentityDb) (tenantId : ℕ) (tenantKey publicId : Text)
    (s : Snapshot) : Option ℕ :=
  let first := visitorIdentity tenantKey publicId s
  match normalizeCustomerIdentity env first.1 first.2 with
  | .ok identity => knownCustomer db (some tenantId) identity
  | .error _ => none

section Lemmas
variable {env : IdentityEnv} {db db' : IdentityDb} {t : Option ℕ} {i : CustomerIdentity}
  {b : IdentityBinding} {c tenantId : ℕ} {kind value tenantKey publicId : Text} {s : Snapshot}
  {fuel : ℕ}

lemma returnBound_eq (h : returnBound db i b = .returned c db') :
    c = b.customerId ∧ c < db.customers.next ∧ db'.customers.next = db.customers.next := by
  unfold returnBound at h
  split at h
  · rename_i row hrow
    split at h
    · cases h
      exact ⟨rfl, Table.lt_next hrow, rfl⟩
    · cases h
  · cases h

lemma finish_raised {code : String} :
    finish db fuel (.raised code) = .error code := by
  cases fuel <;> rfl

lemma finish_returned : finish db fuel (.returned c db') = .ok (c, db') := by
  cases fuel <;> rfl

lemma finish_returnBound (h : finish db fuel (returnBound db i b) = .ok (c, db')) :
    c = b.customerId ∧ c < db.customers.next ∧ db'.customers.next = db.customers.next := by
  cases hr : returnBound db i b with
  | returned c' d =>
    rw [hr, finish_returned] at h
    cases h
    exact returnBound_eq hr
  | waiting task =>
    unfold returnBound at hr
    split at hr
    · split at hr <;> cases hr
    · cases hr
  | raised code =>
    rw [hr, finish_raised] at h
    cases h

lemma resolveOrCreateCustomer_spec
    (h : resolveOrCreateCustomer env db tenantId kind value = .ok (c, db')) :
    ∃ i, normalizeCustomerIdentity env kind value = .ok i ∧
      ((knownCustomer db (some tenantId) i = some c ∧ c < db.customers.next ∧
          db'.customers.next = db.customers.next) ∨
        (knownCustomer db (some tenantId) i = none ∧ c = db.customers.next ∧
          db'.customers.next = db.customers.next + 1)) := by
  unfold resolveOrCreateCustomer resolveStart at h
  split at h
  · rw [finish_raised] at h
    cases h
  · cases hn : normalizeCustomerIdentity env kind value with
    | error code =>
      rw [hn, finish_raised] at h
      cases h
    | ok i =>
      rw [hn] at h
      refine ⟨i, rfl, ?_⟩
      dsimp only at h
      unfold knownCustomer
      cases hb : findBinding db (some tenantId) i with
      | some b =>
        rw [hb] at h
        obtain ⟨rfl, hlt, hnext⟩ := finish_returnBound h
        exact .inl ⟨rfl, hlt, hnext⟩
      | none =>
        rw [hb] at h
        change finish db 1 (legacyLookup db (some tenantId) i) = .ok (c, db') at h
        unfold legacyLookup at h
        cases hl : legacyCandidates db (some tenantId) i with
        | nil =>
          rw [hl] at h
          change finish db 0 (resolveSave db (some tenantId) i none) = .ok (c, db') at h
          unfold resolveSave at h
          rw [hb] at h
          cases h
          exact .inr ⟨rfl, rfl, rfl⟩
        | cons x rest =>
          have hx : x ∈ legacyCandidates db (some tenantId) i := by
            rw [hl]
            exact List.mem_cons_self ..
          obtain ⟨row, hrow, -⟩ := mem_legacyCandidates hx
          cases rest with
          | nil =>
            rw [hl] at h
            change finish db 0 (resolveSave db (some tenantId) i (some x)) = .ok (c, db') at h
            unfold resolveSave at h
            rw [hb] at h
            cases h
            exact .inl ⟨rfl, Table.lt_next hrow, rfl⟩
          | cons y rest =>
            rw [hl] at h
            cases h

lemma bindCustomerIdentity_spec (h : bindCustomerIdentity env db c kind value = .ok db') :
    db'.customers.next = db.customers.next := by
  unfold bindCustomerIdentity bindStart at h
  split at h
  · rw [finish_raised] at h
    cases h
  · split at h
    · rw [finish_raised] at h
      cases h
    · split at h
      · rw [finish_raised] at h
        cases h
      · split at h
        · split at h
          · rw [finish_returned] at h
            cases h
            rfl
          · rw [finish_raised] at h
            cases h
        · rename_i i _ hb
          unfold finish perform at h
          dsimp only at h
          unfold bindSave at h
          rw [hb] at h
          cases h
          rfl

lemma customer_spec (h : customer env db tenantId tenantKey publicId s = .ok (c, db')) :
    c < db'.customers.next ∧ db.customers.next ≤ db'.customers.next ∧
      ∀ x < db.customers.next, visitorOf env db tenantId tenantKey publicId s = some x ↔ x = c := by
  unfold customer at h
  obtain ⟨⟨c', db₁⟩, hresolve, h⟩ := bind_eq_ok.1 h
  obtain ⟨db₂, hbind, h⟩ := bind_eq_ok.1 h
  have hlast : c' = c ∧ db'.customers.next = db₂.customers.next := by
    split at h
    · split at h
      · obtain ⟨db₃, hphone, h⟩ := bind_eq_ok.1 h
        cases h
        exact ⟨rfl, bindCustomerIdentity_spec hphone⟩
      · cases h
        exact ⟨rfl, rfl⟩
    · cases h
      exact ⟨rfl, rfl⟩
  obtain ⟨rfl, hnext⟩ := hlast
  rw [bindCustomerIdentity_spec hbind] at hnext
  obtain ⟨i, hi, hcase⟩ := resolveOrCreateCustomer_spec hresolve
  unfold visitorOf
  dsimp only
  rw [hi]
  dsimp only
  obtain ⟨hknown, hlt, hsame⟩ | ⟨hknown, rfl, hmore⟩ := hcase
  · refine ⟨by omega, by omega, ?_⟩
    intro x _
    rw [hknown, Option.some.injEq]
    exact eq_comm
  · refine ⟨by omega, by omega, ?_⟩
    intro x hx
    rw [hknown]
    constructor
    · intro hx'
      cases hx'
    · intro hx'
      omega

end Lemmas

end NexusHelpdesk.Snapshots
