import NexusHelpdesk.Desk.Basic
import NexusHelpdesk.Lib.Except
import NexusHelpdesk.Lib.Run
import NexusHelpdesk.Lib.WriteBack

/-!
# Embedded sign-up (`admin_whatsapp_embedded_signup.py`, `whatsapp_embedded_signup.py`)

One sign-up session, its exchange checkpoint and the WhatsApp connections.

* `requirePending`, `loadCheckpoint`, `recoverInterrupted`, `exchangeAndValidate`,
  `createConnection`: what a call of `complete_embedded_signup_session` decides;
* `SignupRow.over`: what a call writes.  Its ORM session keeps the row as it was first read, also
  where the row is locked later, and a flush sends the columns that the call changed;
* `SignupWorld`, `signupStep`: calls for the session in any order.

The texts of a request are stripped by its schema.  Encryption is left out, and starting the binding
does not touch the session.
-/

namespace NexusHelpdesk.Signup

open Lib

abbrev Text := List Char

structure AccountIntent where
  displayName : Text
  accountId : Text
  marketId : Option ℕ
  priority : ℕ
deriving DecidableEq, Repr

structure StatePayload where
  sessionId : Text
  tenantId : ℕ
  requestedBy : ℕ
  intent : AccountIntent
deriving DecidableEq, Repr

structure SignupEnv where
  sha256 : Text → Text
  decodeState : Text → Option StatePayload

inductive SignupStatus where
  | pending | exchanging | completed | expired | failed | cancelled
deriving DecidableEq, Repr

/-- the columns of `WhatsAppEmbeddedSignupSession` that never change. -/
structure SignupSession where
  id : Text
  tenantId : ℕ
  requestedBy : ℕ
  stateDigest : Text
  expiresAt : Instant
deriving DecidableEq, Repr

structure SignupRow where
  status : SignupStatus
  codeFingerprint : Option Text
  businessAccountId : Option Text
  wabaId : Option Text
  phoneNumberId : Option Text
  connectionId : Option ℕ
  lastErrorCode : Option String
  completedAt : Option Instant
  updatedAt : Instant
deriving DecidableEq, Repr

structure Checkpoint where
  accessToken : Text
  /-- the code that the token was exchanged for; it is not stored. -/
  code : Text
deriving DecidableEq, Repr

/-- the columns of `WhatsAppConnection` and its account that a sign-up uses. -/
structure Connection where
  id : ℕ
  tenantId : ℕ
  accountId : Text
  isMetaCloud : Bool
  businessAccountId : Option Text
  wabaId : Option Text
  phoneNumberId : Option Text
  createdBy : ℕ
  /-- it was created by a call of the session. -/
  bySession : Bool
deriving DecidableEq, Repr

structure CompleteRequest where
  state : Text
  code : Text
  businessAccountId : Option Text
  wabaId : Text
  phoneNumberId : Text
  intent : AccountIntent
deriving DecidableEq, Repr

structure EmbeddedSignupError where
  code : String
  retryable : Bool
  resumeAccessToken : Option Text
deriving DecidableEq, Repr

def signupError (code : String) : EmbeddedSignupError := ⟨code, false, none⟩

/-! ## claim -/

section Claim
variable (env : SignupEnv) (s : SignupSession)

/-- `require_pending_signup_session`; the expired status is rolled back with the error. -/
def requirePending (row : SignupRow) (p : CompleteRequest) (now : Instant) :
    Except EmbeddedSignupError Unit :=
  if row.status ≠ .pending then .error (signupError "embedded_signup_session_not_pending")
  else if s.expiresAt ≤ now then .error (signupError "embedded_signup_session_expired")
  else if env.sha256 p.state ≠ s.stateDigest then
    .error (signupError "embedded_signup_state_invalid")
  else
    match env.decodeState p.state with
    | none => .error (signupError "embedded_signup_state_invalid")
    | some payload =>
      if payload ≠ ⟨s.id, s.tenantId, s.requestedBy, p.intent⟩ then
        .error (signupError "embedded_signup_intent_mismatch")
      else .ok ()

def loadCheckpoint (row : SignupRow) (checkpoint : Option Checkpoint) (code : Text) :
    Except EmbeddedSignupError (Option Text) :=
  match checkpoint with
  | none => .ok none
  | some k =>
    if row.codeFingerprint ≠ some (env.sha256 code) then
      .error (signupError "embedded_signup_exchange_code_mismatch")
    else .ok (some k.accessToken)

def markExchanging (row : SignupRow) (p : CompleteRequest) (now : Instant) : SignupRow :=
  { row with
    status := .exchanging
    codeFingerprint := some (env.sha256 p.code)
    businessAccountId := p.businessAccountId
    wabaId := some p.wabaId
    phoneNumberId := some p.phoneNumberId
    lastErrorCode := none
    updatedAt := now }

def claimSession (row : SignupRow) (checkpoint : Option Checkpoint) (p : CompleteRequest)
    (now : Instant) : Except EmbeddedSignupError (SignupRow × Option Text) := do
  requirePending env s row p now
  let token ← loadCheckpoint env row checkpoint p.code
  .ok (markExchanging env row p now, token)

end Claim

def markCompleted (row : SignupRow) (connectionId : ℕ) (now : Instant) : SignupRow :=
  { row with
    status := .completed
    connectionId := some connectionId
    completedAt := some now
    lastErrorCode := none
    updatedAt := now }

def markFailed (row : SignupRow) (code : String) (now : Instant) : SignupRow :=
  { row with status := .failed, lastErrorCode := some code, updatedAt := now }

def restoreRetryable (row : SignupRow) (code : String) (now : Instant) : SignupRow :=
  { row with status := .pending, lastErrorCode := some code, updatedAt := now }

/-! ## recovery -/

inductive Recovery where
  /-- the session is not exchanging. -/
  | none
  | refused
  | completed (row : SignupRow)
  /-- the claim is stale and released. -/
  | released (row : SignupRow)
deriving DecidableEq, Repr

def Connection.isOf (s : SignupSession) (phoneNumberId accountId : Text) (c : Connection) : Bool :=
  c.tenantId == s.tenantId && c.isMetaCloud && c.phoneNumberId == some phoneNumberId &&
    c.createdBy == s.requestedBy && c.accountId == accountId

/-- `embedded_signup_recovery_waba_mismatch` or `.._business_account_mismatch`. -/
def Connection.mismatches (row : SignupRow) (c : Connection) : Bool :=
  (row.wabaId.isSome && c.wabaId != row.wabaId) ||
    (row.businessAccountId.isSome && c.businessAccountId.isSome &&
      c.businessAccountId != row.businessAccountId)

def recoverAfter : Instant := minutes 5

def recoverInterrupted (env : SignupEnv) (s : SignupSession) (row : SignupRow)
    (connections : List Connection) (p : CompleteRequest) (now : Instant) : Recovery :=
  if row.status ≠ .exchanging then .none
  else if env.sha256 p.state ≠ s.stateDigest then .refused
  else
    match row.phoneNumberId.bind fun phone =>
        connections.find? (Connection.isOf s phone p.intent.accountId) with
    | some c => if c.mismatches row then .refused else .completed (markCompleted row c.id now)
    | none =>
      if now - recoverAfter < row.updatedAt then .refused
      else
        .released (restoreRetryable row "embedded_signup_interrupted_before_connection" now)

/-! ## exchange and connection -/

structure MetaSignupAssets where
  accessToken : Text
  businessAccountId : Option Text
  wabaId : Text
  phoneNumberId : Text
deriving DecidableEq, Repr

def isMetaObjectId (t : Text) : Bool :=
  5 ≤ t.length && t.length ≤ 32 && t.all fun c => '0' ≤ c && c ≤ '9'

/-- what Meta answers: the token for the code, and the check of the token, the account and the phone
number with the business that owns them. -/
structure MetaAnswer where
  token : Except EmbeddedSignupError Text
  owner : Except EmbeddedSignupError (Option Text)

def resolveToken (resume : Option Text) (answer : MetaAnswer) : Except EmbeddedSignupError Text :=
  match resume with
  | some token => .ok token
  | none =>
    match answer.token with
    | .ok [] => .error (signupError "embedded_signup_access_token_missing")
    | .ok token => .ok token
    | .error e => .error { e with resumeAccessToken := none }

def exchangeAndValidate (p : CompleteRequest) (resume : Option Text) (answer : MetaAnswer) :
    Except EmbeddedSignupError MetaSignupAssets :=
  if isMetaObjectId p.wabaId = false then
    .error (signupError "embedded_signup_waba_id_invalid")
  else if isMetaObjectId p.phoneNumberId = false then
    .error (signupError "embedded_signup_phone_number_id_invalid")
  else if p.businessAccountId.any (! isMetaObjectId ·) then
    .error (signupError "embedded_signup_business_account_id_invalid")
  else
    match resolveToken resume answer with
    | .error e => .error e
    | .ok token =>
      match answer.owner with
      | .error e =>
        .error { e with resumeAccessToken := if e.retryable then some token else none }
      | .ok observed =>
        if p.businessAccountId.isSome ∧ observed.isSome ∧ p.businessAccountId ≠ observed then
          .error (signupError "embedded_signup_business_account_mismatch")
        else .ok ⟨token, p.businessAccountId <|> observed, p.wabaId, p.phoneNumberId⟩

inductive CreateFault where
  | refuses
  | crashes
deriving DecidableEq, Repr

/-- `create_whatsapp_connection`; account ids and phone numbers are unique. -/
def createConnection (s : SignupSession) (connections : List Connection) (p : CompleteRequest)
    (a : MetaSignupAssets) (fault : Option CreateFault) : Except CreateFault Connection :=
  if connections.any (·.accountId == p.intent.accountId) then .error .refuses
  else
    match fault with
    | some f => .error f
    | none =>
      if connections.any (·.phoneNumberId == some a.phoneNumberId) then .error .crashes
      else
        .ok ⟨connections.length, s.tenantId, p.intent.accountId, true, a.businessAccountId,
          some a.wabaId, some a.phoneNumberId, s.requestedBy, true⟩

/-! ## calls in any order -/

inductive Stage where
  /-- the row has been read. -/
  | begun
  /-- there is nothing to recover, or the stale claim is released. -/
  | ready
  | claimed (resume : Option Text)
  | exchanged (assets : MetaSignupAssets)
  | exchangeFailed (e : EmbeddedSignupError)
  | created (connectionId : ℕ)
  | createFailed
deriving DecidableEq, Repr

structure Call where
  payload : CompleteRequest
  copy : SignupRow
  /-- how often the row had been written when the call read or wrote it last. -/
  version : ℕ
  stage : Stage
deriving DecidableEq, Repr

structure SignupWorld where
  row : SignupRow
  /-- how often the row has been written. -/
  version : ℕ
  checkpoint : Option Checkpoint
  connections : List Connection
  /-- the codes that Meta accepts. -/
  accepts : Text → Bool
  calls : InHand ℕ Call

/-- what is stored after a call that had `copy` leaves `new`. -/
def SignupRow.over (new copy stored : SignupRow) : SignupRow where
  status := changed copy.status new.status stored.status
  codeFingerprint := changed copy.codeFingerprint new.codeFingerprint stored.codeFingerprint
  businessAccountId :=
    changed copy.businessAccountId new.businessAccountId stored.businessAccountId
  wabaId := changed copy.wabaId new.wabaId stored.wabaId
  phoneNumberId := changed copy.phoneNumberId new.phoneNumberId stored.phoneNumberId
  connectionId := changed copy.connectionId new.connectionId stored.connectionId
  lastErrorCode := changed copy.lastErrorCode new.lastErrorCode stored.lastErrorCode
  completedAt := changed copy.completedAt new.completedAt stored.completedAt
  updatedAt := changed copy.updatedAt new.updatedAt stored.updatedAt

/-- call `t` writes the row and has `next` in hand. -/
def SignupWorld.write (w : SignupWorld) (t : ℕ) (c : Call) (row : SignupRow)
    (checkpoint : Option Checkpoint) (next : Option Stage) : SignupWorld :=
  { w with
    row := row.over c.copy w.row
    version := w.version + 1
    checkpoint := checkpoint
    calls := Function.update w.calls t
      (next.map fun stage => ⟨c.payload, row, w.version + 1, stage⟩) }

def SignupWorld.goOn (w : SignupWorld) (t : ℕ) (c : Call) (stage : Stage) : SignupWorld :=
  { w with calls := w.calls.take t { c with stage := stage } }

def SignupWorld.leave (w : SignupWorld) (t : ℕ) : SignupWorld :=
  { w with calls := w.calls.release t }

inductive SignupStep where
  | begin (t : ℕ) (p : CompleteRequest)
  | recover (t : ℕ) (now : Instant)
  | claim (t : ℕ) (now : Instant)
  | exchange (t : ℕ) (answer : MetaAnswer)
  | recordFailure (t : ℕ) (now : Instant)
  | create (t : ℕ) (fault : Option CreateFault)
  | recordRefusal (t : ℕ) (now : Instant)
  | complete (t : ℕ) (now : Instant)
  | crash (t : ℕ)
  /-- a connection is created elsewhere. -/
  | other (c : Connection)
  | acceptCodes (accepts : Text → Bool)

def failureWrite (c : Call) (checkpoint : Option Checkpoint) (e : EmbeddedSignupError)
    (now : Instant) : SignupRow × Option Checkpoint :=
  if e.retryable then
    (restoreRetryable c.copy e.code now,
      match e.resumeAccessToken with
      | some token => some ⟨token, c.payload.code⟩
      | none => checkpoint)
  else (markFailed c.copy e.code now, none)

def callStep (env : SignupEnv) (s : SignupSession) (w : SignupWorld) (t : ℕ) (c : Call) :
    SignupStep → SignupWorld
  | .recover _ now =>
    match c.stage with
    | .begun =>
      match recoverInterrupted env s c.copy w.connections c.payload now with
      | .none => w.goOn t c .ready
      | .refused => w.leave t
      | .completed row => w.write t c row none none
      | .released row => w.write t c row w.checkpoint (some .ready)
    | _ => w
  | .claim _ now =>
    match c.stage with
    | .ready =>
      match claimSession env s c.copy w.checkpoint c.payload now with
      | .error _ => w.leave t
      | .ok (row, resume) => w.write t c row w.checkpoint (some (.claimed resume))
    | _ => w
  | .exchange _ answer =>
    match c.stage with
    | .claimed resume =>
      match exchangeAndValidate c.payload resume answer with
      | .ok assets => w.goOn t c (.exchanged assets)
      | .error e => w.goOn t c (.exchangeFailed e)
    | _ => w
  | .recordFailure _ now =>
    match c.stage with
    | .exchangeFailed e =>
      -- the status is tested in the copy of the call, which says exchanging
      let new := failureWrite c w.checkpoint e now
      w.write t c new.1 new.2 none
    | _ => w
  | .create _ fault =>
    match c.stage with
    | .exchanged assets =>
      match createConnection s w.connections c.payload assets fault with
      | .ok connection =>
        { w.goOn t c (.created connection.id) with
          connections := w.connections ++ [connection] }
      | .error .refuses => w.goOn t c .createFailed
      | .error .crashes => w.leave t
    | _ => w
  | .recordRefusal _ now =>
    match c.stage with
    | .createFailed =>
      w.write t c (markFailed c.copy "embedded_signup_connection_create_failed" now) none none
    | _ => w
  | .complete _ now =>
    match c.stage with
    | .created connectionId => w.write t c (markCompleted c.copy connectionId now) none none
    | _ => w
  | _ => w

def SignupStep.call : SignupStep → ℕ
  | .begin t _ | .recover t _ | .claim t _ | .exchange t _ | .recordFailure t _ | .create t _
  | .recordRefusal t _ | .complete t _ | .crash t => t
  | .other _ | .acceptCodes _ => 0

def signupStep (env : SignupEnv) (s : SignupSession) (i : SignupStep) (w : SignupWorld) :
    SignupWorld :=
  match i with
  | .begin t p => { w with calls := w.calls.take t ⟨p, w.row, w.version, .begun⟩ }
  | .crash t => w.leave t
  | .other c =>
    if w.connections.any fun d => d.accountId == c.accountId ||
        d.phoneNumberId.isSome && d.phoneNumberId == c.phoneNumberId then w
    else { w with connections := w.connections ++ [{ c with bySession := false }] }
  | .acceptCodes accepts => { w with accepts := accepts }
  | _ =>
    match w.calls i.call with
    | some c => callStep env s w i.call c i
    | none => w

/-- a session that was started at `now`, beside the connections of others. -/
def SignupWorld.start (now : Instant) (others : List Connection) (accepts : Text → Bool) :
    SignupWorld where
  row := ⟨.pending, none, none, none, none, none, none, none, now⟩
  version := 0
  checkpoint := none
  connections := others.map fun c => { c with bySession := false }
  accepts := accepts
  calls := InHand.empty

end NexusHelpdesk.Signup
