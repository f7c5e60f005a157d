import NexusHelpdesk.Customers.Function
import NexusHelpdesk.Lib.Json

/-!
# Customers of phone calls (`telephony_projection_service.py`, `telephony_outbound_service.py`)

The two `_customer` functions find and create customers by the number column, past the bindings.

* `cleanNumber`, `cleanPhone`: the number of an incoming call, and of an outgoing one;
* `findByNumber`: the first customer of the tenant with a number;
* `PhoneRun`, `phoneStep`: calls in both directions, and resolves and binds of phone identities, each
  in its steps, in any order;
* `OneNumber`: **a number has one customer on every channel**.
-/

namespace NexusHelpdesk.Customers

open Lib

/-! ## numbers -/

structure PhoneEnv extends IdentityEnv where
  sha256 : Text → Text

/-- `_clean` of a caller's number. -/
def cleanNumber (value : Option Text) : Option Text :=
  let cleaned := (PyStr.stripChars (value.getD [])).take 60
  if cleaned = [] then none else some cleaned

/-- `_clean_phone`: the blanks go. -/
def cleanPhone (value : Text) : Except String Text :=
  let normalized := value.filter fun c => !PyStr.isSpace c
  if normalized = [] ∨ 32 < normalized.length then .error "invalid outbound phone number"
  else if normalized.any fun c => !"+0123456789*#".toList.contains c then
    .error "invalid outbound phone number"
  else .ok normalized

def findByNumber (db : IdentityDb) (tenantId : Option ℕ) (number : Text) : Option ℕ :=
  ((db.customers.select fun _ c =>
    c.tenantId = tenantId && c.phoneNormalized = some number).head?).map Prod.fst

def IdentityDb.insertCustomer (db : IdentityDb) (c : Customer) : IdentityDb :=
  { db with customers := db.customers.insert c }

def inboundCustomer (tenantId : ℕ) (callId : Text) (number : Option Text) : Customer where
  tenantId := some tenantId
  emailNormalized := none
  phoneNormalized := cleanNumber number
  externalRef := some (("livekit-sip:".toList ++ Json.natText tenantId ++ ":".toList ++ callId).take 120)

def outboundCustomer (env : PhoneEnv) (tenantId : ℕ) (number : Text) : Customer where
  tenantId := some tenantId
  emailNormalized := none
  phoneNormalized := some number
  externalRef := some ("voice:".toList ++ Json.natText tenantId ++ ":".toList ++
    (env.sha256 number).take 24)

/-! ## runs -/

/-- a customer for a number: of a call, or returned by `resolve_or_create_customer`. -/
structure Contact where
  tenantId : Option ℕ
  number : Text
  customerId : ℕ
  /-- of a call: the customer that its number was bound to when the call was attached. -/
  bound : Option ℕ
deriving DecidableEq, Repr

inductive PhoneTask where
  | identity (number : Text) (task : IdentityTask)
  | inbound (tenantId : ℕ) (room callId : Text) (number : Option Text)
  | outbound (tenantId : ℕ) (number cleaned : Text)
deriving DecidableEq, Repr

structure PhoneRun where
  db : IdentityDb
  waiting : List PhoneTask
  /-- room and call id of the voice sessions. -/
  sessions : List (Text × Text)
  contacts : List Contact
  /-- the calls that raised `customer_identity_legacy_collision`. -/
  collisions : ℕ

def PhoneRun.empty : PhoneRun := ⟨IdentityDb.empty, [], [], [], 0⟩

inductive PhoneEvent where
  | resolve (tenantId : Option ℕ) (identityType number : Text)
  | bind (customerId : ℕ) (identityType number : Text)
  | inbound (tenantId : ℕ) (room callId : Text) (number : Option Text)
  | outbound (tenantId : ℕ) (number : Text)
  | proceed (k : ℕ)
deriving DecidableEq, Repr

section Code
variable (env : PhoneEnv)

def numberBound (db : IdentityDb) (tenantId : ℕ) (number : Text) : Option ℕ :=
  (normalizePhone env.toIdentityEnv number).bind fun value =>
    boundCustomer db (some tenantId) ⟨.phone, value.take 320⟩

def PhoneRun.resolved (s : PhoneRun) (tenantId : Option ℕ) (number : Text)
    (r : CallResult IdentityTask) : PhoneRun :=
  match r with
  | .returned customerId db =>
    { s with db := db, contacts := ⟨tenantId, number, customerId, none⟩ :: s.contacts }
  | .waiting task => { s with waiting := s.waiting ++ [.identity number task] }
  | .raised code =>
    if code = "customer_identity_legacy_collision" then { s with collisions := s.collisions + 1 }
    else s

def PhoneRun.joined (s : PhoneRun) (number : Text) (r : CallResult IdentityTask) : PhoneRun :=
  match r with
  | .returned _ db => { s with db := db }
  | .waiting task => { s with waiting := s.waiting ++ [.identity number task] }
  | .raised _ => s

def PhoneRun.attach (s : PhoneRun) (tenantId : ℕ) (number : Text) (customerId : ℕ) : PhoneRun :=
  { s with contacts :=
      ⟨some tenantId, number, customerId, numberBound env s.db tenantId number⟩ :: s.contacts }

/-- the session of the call or of its room is there, or another delivery of the call has the lock. -/
def PhoneRun.knows (s : PhoneRun) (room callId : Text) : Bool :=
  s.sessions.any (fun x => (callId ≠ [] && x.2 = callId) || (room ≠ [] && x.1 = room)) ||
    s.waiting.any fun
      | .inbound _ _ other _ => other = callId
      | _ => false

/-- `_customer` of an incoming call, up to its look-up. -/
def inboundLookup (tenantId : ℕ) (room callId : Text) (number : Option Text) (s : PhoneRun) :
    PhoneRun :=
  match (cleanNumber number).bind (findByNumber s.db (some tenantId)) with
  | some customerId =>
    { s.attach env tenantId (number.getD []) customerId with sessions := (room, callId) :: s.sessions }
  | none => { s with waiting := s.waiting ++ [.inbound tenantId room callId number] }

/-- `_customer` of an outgoing call, up to its look-up. -/
def outboundLookup (tenantId : ℕ) (number cleaned : Text) (s : PhoneRun) : PhoneRun :=
  match findByNumber s.db (some tenantId) cleaned with
  | some customerId => s.attach env tenantId number customerId
  | none => { s with waiting := s.waiting ++ [.outbound tenantId number cleaned] }

/-- the next step of a call. -/
def proceedPhone (task : PhoneTask) (s : PhoneRun) : PhoneRun :=
  match task with
  | .identity number (.legacy tenantId identity) =>
    s.resolved tenantId number (legacyLookup s.db tenantId identity)
  | .identity number (.save tenantId identity candidate) =>
    s.resolved tenantId number (resolveSave s.db tenantId identity candidate)
  | .identity number (.bindSave customerId tenantId identity) =>
    s.joined number (bindSave s.db tenantId identity customerId)
  | .inbound tenantId room callId number =>
    let next := { s with
      db := s.db.insertCustomer (inboundCustomer tenantId callId number)
      sessions := (room, callId) :: s.sessions }
    next.attach env tenantId (number.getD []) s.db.customers.next
  | .outbound tenantId number cleaned =>
    let next := { s with db := s.db.insertCustomer (outboundCustomer env tenantId cleaned) }
    next.attach env tenantId number s.db.customers.next

def phoneStep (e : PhoneEvent) (s : PhoneRun) : PhoneRun :=
  match e with
  | .resolve tenantId identityType number =>
    match normalizeCustomerIdentity env.toIdentityEnv identityType number with
    | .ok ⟨.phone, _⟩ =>
      s.resolved tenantId number
        (resolveStart s.db tenantId env.toIdentityEnv identityType number)
    | _ => s
  | .bind customerId identityType number =>
    match normalizeCustomerIdentity env.toIdentityEnv identityType number with
    | .ok ⟨.phone, _⟩ =>
      s.joined number (bindStart s.db env.toIdentityEnv customerId identityType number)
    | _ => s
  | .inbound tenantId room callId number =>
    if s.knows room callId = true ∨ env.scopeValid (some tenantId) = false then s
    else inboundLookup env tenantId room callId number s
  | .outbound tenantId number =>
    match cleanPhone number with
    | .error _ => s
    | .ok cleaned =>
      if env.scopeValid (some tenantId) = false then s
      else outboundLookup env tenantId number cleaned s
  | .proceed k =>
    match s.waiting[k]? with
    | none => s
    | some task => proceedPhone env task { s with waiting := s.waiting.eraseIdx k }

/-! ## one number, one customer -/

structure OneNumber (s : PhoneRun) : Prop where
  /-- numbers with one normal form have one customer in a tenant. -/
  same : ∀ a ∈ s.contacts, ∀ b ∈ s.contacts, a.tenantId = b.tenantId →
    normalizePhone env.toIdentityEnv a.number = normalizePhone env.toIdentityEnv b.number →
      normalizePhone env.toIdentityEnv a.number ≠ none → a.customerId = b.customerId
  /-- a call of a bound number gets the customer of the binding. -/
  attached : ∀ a ∈ s.contacts, ∀ c, a.bound = some c → a.customerId = c
  /-- no resolve is refused. -/
  total : s.collisions = 0

def OwnForm (number : Text) (cleaned : Option Text) : Prop :=
  ∀ value, normalizePhone env.toIdentityEnv number = some value → cleaned = some value

def FreeFor (db : IdentityDb) (customerId : ℕ) (number : Text) : Prop :=
  ∀ c, db.customers.get? customerId = some c → ∀ held, c.phoneNormalized = some held →
    held = [] ∨ held = number

def HeldOnlyBy (db : IdentityDb) (tenantId : Option ℕ) (number : Text) (customerId : ℕ) : Prop :=
  ∀ d, findByNumber db tenantId number = some d → d = customerId

/-- a savepoint under which a number keeps its customer. -/
def OrderlyTask (s : PhoneRun) (task : PhoneTask) : Prop :=
  match task with
  -- a new customer is the only one with its number
  | .inbound tenantId _ _ number =>
    ∀ value, normalizePhone env.toIdentityEnv (number.getD []) = some value →
      findByNumber s.db (some tenantId) value = none
  | .outbound tenantId number _ =>
    ∀ value, normalizePhone env.toIdentityEnv number = some value →
      findByNumber s.db (some tenantId) value = none
  | .identity _ (.save tenantId identity none) =>
    findBinding s.db tenantId identity = none →
      findByNumber s.db tenantId (identity.value.take 60) = none
  -- a number is bound to the customer that holds it, or to one without a number
  | .identity _ (.bindSave customerId tenantId identity) =>
    findBinding s.db tenantId identity = none →
      FreeFor s.db customerId (identity.value.take 60) ∧
        HeldOnlyBy s.db tenantId (identity.value.take 60) customerId
  | .identity _ (.save _ _ (some _)) => True
  | .identity _ (.legacy _ _) => True

/-- a step under which a number keeps its customer: a call spells it in its normal form. -/
def Orderly (s : PhoneRun) (e : PhoneEvent) : Prop :=
  match e with
  | .inbound _ room callId number =>
    s.knows room callId = false → OwnForm env (number.getD []) (cleanNumber number)
  | .outbound _ number =>
    ∀ cleaned, cleanPhone number = .ok cleaned → OwnForm env number (some cleaned)
  | .proceed k => ∀ task, s.waiting[k]? = some task → OrderlyTask env s task
  | .resolve _ _ _ => True
  | .bind _ _ _ => True

instance {number : Text} {cleaned : Option Text} : Decidable (OwnForm env number cleaned) :=
  inferInstanceAs (Decidable (∀ value ∈ normalizePhone env.toIdentityEnv number,
    cleaned = some value))

instance {db : IdentityDb} {customerId : ℕ} {number : Text} :
    Decidable (FreeFor db customerId number) :=
  inferInstanceAs (Decidable (∀ c ∈ db.customers.get? customerId, ∀ held ∈ c.phoneNormalized,
    held = [] ∨ held = number))

instance {db : IdentityDb} {tenantId : Option ℕ} {number : Text} {customerId : ℕ} :
    Decidable (HeldOnlyBy db tenantId number customerId) :=
  inferInstanceAs (Decidable (∀ d ∈ findByNumber db tenantId number, d = customerId))

instance (s : PhoneRun) : DecidablePred (OrderlyTask env s)
  | .inbound tenantId _ _ number =>
    inferInstanceAs (Decidable (∀ value ∈ normalizePhone env.toIdentityEnv (number.getD []),
      findByNumber s.db (some tenantId) value = none))
  | .outbound tenantId number _ =>
    inferInstanceAs (Decidable (∀ value ∈ normalizePhone env.toIdentityEnv number,
      findByNumber s.db (some tenantId) value = none))
  | .identity _ (.save tenantId identity none) =>
    inferInstanceAs (Decidable (findBinding s.db tenantId identity = none →
      findByNumber s.db tenantId (identity.value.take 60) = none))
  | .identity _ (.bindSave customerId tenantId identity) =>
    inferInstanceAs (Decidable (findBinding s.db tenantId identity = none →
      FreeFor s.db customerId (identity.value.take 60) ∧
        HeldOnlyBy s.db tenantId (identity.value.take 60) customerId))
  | .identity _ (.save _ _ (some _)) => isTrue trivial
  | .identity _ (.legacy _ _) => isTrue trivial

instance decidableForallOk {ε α : Type} {p : α → Prop} [DecidablePred p] :
    ∀ x : Except ε α, Decidable (∀ a, x = .ok a → p a)
  | .error _ => isTrue (by nofun)
  | .ok a => decidable_of_iff (p a) ⟨fun h b hb => by cases hb; exact h, fun h => h a rfl⟩

instance (s : PhoneRun) : DecidablePred (Orderly env s)
  | .inbound _ room callId number =>
    inferInstanceAs (Decidable (s.knows room callId = false →
      OwnForm env (number.getD []) (cleanNumber number)))
  | .outbound _ number =>
    inferInstanceAs (Decidable (∀ cleaned, cleanPhone number = .ok cleaned →
      OwnForm env number (some cleaned)))
  | .proceed k =>
    inferInstanceAs (Decidable (∀ task ∈ s.waiting[k]?, OrderlyTask env s task))
  | .resolve _ _ _ => isTrue trivial
  | .bind _ _ _ => isTrue trivial

end Code

end NexusHelpdesk.Customers
