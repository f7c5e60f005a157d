import NexusHelpdesk.Desk.Basic
import NexusHelpdesk.Lib.Except
import NexusHelpdesk.Lib.Run
import NexusHelpdesk.Lib.WriteBack

/-!
# MFA credentials (`mfa_service.py`, `auth.py`)

The policy row of one user: its secret, its recovery codes and the last time step that was used.

* `verifyTotp`, `verifyMfaCredential`: `verify_totp` and `verify_mfa_credential`;
* `attempt`: what a request makes of the row that it reads;
* `commit`: what it writes;
* `MfaWorld`, `mfaStep`: requests of the user that read and commit in any order.

The one-time codes, the hashes of the recovery codes and the Unicode predicates of Python are
parameters.
-/

namespace NexusHelpdesk.Auth

open Lib

abbrev Text := List Char

structure MfaEnv where
  /-- `str.isdigit` of a character. -/
  isDigit : Char → Bool
  /-- `str.isalnum` of a character. -/
  isAlnum : Char → Bool
  upper : Text → Text
  totpCode : Text → ℤ → Text
  verifySecret : Text → Text → Bool

/-! ## the row -/

/-- the columns of `UserCredentialPolicy` for MFA, decrypted. -/
structure CredentialPolicy where
  mfaEnabled : Bool
  secret : Option Text
  pendingSecret : Option Text
  recoveryHashes : List Text
  lastUsedStep : Option ℤ
deriving DecidableEq, Repr

/-- the row of a user without MFA. -/
def CredentialPolicy.fresh : CredentialPolicy := ⟨false, none, none, [], none⟩

inductive MfaError where
  /-- `compare_digest` refuses texts that are not ASCII. -/
  | type
  | runtime (text : String)
  | value (text : String)
deriving DecidableEq, Repr

/-! ## verification -/

section Verify
variable (env : MfaEnv)

def isAscii (t : Text) : Bool := t.all fun c => c.toNat < 128

def firstMatch (secret code : Text) (lastUsedStep : Option ℤ) :
    List ℤ → Except MfaError (Option ℤ)
  | [] => .ok none
  | step :: rest =>
    if lastUsedStep.any (step ≤ ·) = true then firstMatch secret code lastUsedStep rest
    else if isAscii code = false then .error .type
    else if env.totpCode secret step = code then .ok (some step)
    else firstMatch secret code lastUsedStep rest

def codeDigits (code : Text) : Text := code.filter env.isDigit

def window (currentStep : ℤ) : List ℤ := [currentStep, currentStep - 1, currentStep + 1]

def verifyTotp (secret code : Text) (lastUsedStep : Option ℤ) (currentStep : ℤ) :
    Except MfaError (Option ℤ) :=
  if (codeDigits env code).length ≠ 6 then .ok none
  else firstMatch env secret (codeDigits env code) lastUsedStep (window currentStep)

def normalizeRecoveryCode (value : Text) : Text := (env.upper value).filter env.isAlnum

inductive Grant where
  | totp (secret : Text) (step : ℤ)
  /-- `code` opens a hash; the others are left. -/
  | recovery (code : Text) (left : List Text)
deriving DecidableEq, Repr

def popHash (code : Text) : List Text → Option (List Text)
  | [] => none
  | h :: rest =>
    if env.verifySecret code h then some rest else (popHash code rest).map (h :: ·)

/-- `verify_mfa_credential` on the row that was read. -/
def verifyMfaCredential (policy : CredentialPolicy) (credential : Text) (currentStep : ℤ) :
    Except MfaError (Option Grant) :=
  if policy.mfaEnabled = false then .ok none
  else
    match policy.secret with
    | none => .error (.runtime "MFA is enabled but no encrypted secret is available")
    | some secret => do
      match ← verifyTotp env secret credential policy.lastUsedStep currentStep with
      | some step => return some (.totp secret step)
      | none =>
        let code := normalizeRecoveryCode env credential
        return (popHash env code policy.recoveryHashes).map (.recovery code)

end Verify

/-! ## requests -/

/-- the requests that take a credential, with the hashes of the codes they generate. -/
inductive MfaRequest where
  | login (credential : Text)
  | regenerate (credential : Text) (hashes : List Text)
  | disable (credential : Text)
  | confirm (code : Text) (hashes : List Text)
deriving DecidableEq, Repr

/-- the row with what `verify_mfa_credential` writes. -/
def CredentialPolicy.grant (p : CredentialPolicy) : Grant → CredentialPolicy
  | .totp _ step => { p with lastUsedStep := some step }
  | .recovery _ left => { p with recoveryHashes := left }

/-- a request that accepted its credential: the row it read, and the row it has in memory. -/
structure Accepted where
  request : MfaRequest
  read : CredentialPolicy
  new : CredentialPolicy
  grant : Grant
deriving DecidableEq, Repr

/-- the row in memory behind the verification. -/
def MfaRequest.finish (r : MfaRequest) (p : CredentialPolicy) : CredentialPolicy :=
  match r with
  | .login _ => p
  | .regenerate _ hashes => { p with recoveryHashes := hashes }
  | .disable _ => .fresh
  | .confirm _ _ => p

def confirmMfaSetup (env : MfaEnv) (policy : CredentialPolicy) (code : Text) (hashes : List Text)
    (currentStep : ℤ) : Except MfaError Accepted :=
  match policy.pendingSecret with
  | none => .error (.value "MFA setup has not been started")
  | some secret => do
    match ← verifyTotp env secret code none currentStep with
    | none => .error (.value "Invalid authenticator code")
    | some step =>
      return ⟨.confirm code hashes, policy,
        { mfaEnabled := true
          secret := some secret
          pendingSecret := none
          recoveryHashes := hashes
          lastUsedStep := some step }, .totp secret step⟩

/-- a request up to its commit; a credential that is not accepted is rolled back. -/
def attempt (env : MfaEnv) (policy : CredentialPolicy) (currentStep : ℤ) (r : MfaRequest) :
    Except MfaError (Option Accepted) :=
  let verified := fun credential => do
    let grant ← verifyMfaCredential env policy credential currentStep
    return grant.map fun g => ⟨r, policy, r.finish (policy.grant g), g⟩
  match r with
  | .login credential => verified credential
  | .regenerate credential _ => verified credential
  | .disable credential => verified credential
  | .confirm code hashes => (confirmMfaSetup env policy code hashes currentStep).map some

/-- the update of the stored row: a column that did not change in memory is not written. -/
def commit (stored : CredentialPolicy) (a : Accepted) : CredentialPolicy where
  mfaEnabled := changed a.read.mfaEnabled a.new.mfaEnabled stored.mfaEnabled
  secret := changed a.read.secret a.new.secret stored.secret
  pendingSecret := changed a.read.pendingSecret a.new.pendingSecret stored.pendingSecret
  recoveryHashes := changed a.read.recoveryHashes a.new.recoveryHashes stored.recoveryHashes
  lastUsedStep := changed a.read.lastUsedStep a.new.lastUsedStep stored.lastUsedStep

/-! ## runs -/

structure MfaWorld where
  policy : CredentialPolicy
  /-- the requests that have read the row and not committed yet. -/
  open_ : InHand ℕ Accepted
  /-- what was accepted, the latest first. -/
  accepted : List Grant
  raised : List MfaError

def MfaWorld.start : MfaWorld := ⟨.fresh, InHand.empty, [], []⟩

inductive MfaStep where
  /-- request `t` reads the row at the time step of the clock. -/
  | read (t : ℕ) (currentStep : ℤ) (r : MfaRequest)
  | commit (t : ℕ)
  | abort (t : ℕ)
  /-- `begin_mfa_setup` with a drawn secret; only without MFA. -/
  | beginSetup (secret : Text)
  | cancelSetup
deriving DecidableEq, Repr

def MfaError.ofComparison (e : MfaError) : Bool := e = .type

def mfaStep (env : MfaEnv) : MfaStep → MfaWorld → MfaWorld
  | .read t currentStep r, w =>
    match attempt env w.policy currentStep r with
    | .ok (some a) => { w with open_ := w.open_.take t a }
    | .ok none => w
    | .error e => if e.ofComparison then { w with raised := e :: w.raised } else w
  | .commit t, w =>
    match w.open_ t with
    | some a =>
      { w with
        policy := commit w.policy a
        open_ := w.open_.release t
        accepted := a.grant :: w.accepted }
    | none => w
  | .abort t, w => { w with open_ := w.open_.release t }
  | .beginSetup secret, w =>
    if w.policy.mfaEnabled then w
    else { w with policy := { w.policy with pendingSecret := some secret } }
  | .cancelSetup, w => { w with policy := { w.policy with pendingSecret := none } }

end NexusHelpdesk.Auth
