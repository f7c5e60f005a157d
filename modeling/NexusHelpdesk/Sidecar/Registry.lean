import NexusHelpdesk.Lib.Except
import NexusHelpdesk.Lib.Table
import NexusHelpdesk.Lib.WriteBack
import NexusHelpdesk.Sidecar.Steady

/-!
# The desired accounts of the backend and of the sidecar

The rows of the backend say which accounts are to be started (`admin_whatsapp.py`,
`whatsapp_integration.py`); the `AccountRegistry` of the sidecar keeps a map of its own
(`accountRegistry.ts`), which direct calls and the cycles of `reconcileOnce` change.

* `create`, `update`, `startBinding`, `setDesiredState`, `logoutPart`: the database parts of the
  admin operations;
* `call`: a sidecar call, with what the registry does in it;
* `fetchDesiredAccounts`, `applyEntry`, `reconcile`: a cycle, an entry at a time.  A cycle awaits
  `connector.start` and `connector.stop`; here it goes on at any later time, and takes the keys of
  a map in any order;
* `SidecarStep`, `sidecarStep`: one step.

The fields `bound`, `fresh` and `cycles` are for the statements: no step reads them but to fill
them.
-/

namespace NexusHelpdesk.Sidecar

open Lib

deriving instance DecidableEq for AccountId

/-! ## connections -/

inductive DesiredState where
  | disabled | binding | active
deriving DecidableEq, Repr

/-- a sidecar `WhatsAppConnection` with the `is_active` of its `ChannelAccount`. -/
structure SidecarConnection where
  sidecarSessionKey : Text
  desiredState : DesiredState
  desiredGeneration : ℕ
  isActive : Bool
  /-- a binding was started and has not ended. -/
  bound : Bool
deriving DecidableEq, Repr

/-- `create_whatsapp_connection`; the schema has stripped the key. -/
def create (sessionKey : Text) (t : Table SidecarConnection) : Table SidecarConnection :=
  if sessionKey = [] then t
  else t.insert
    { sidecarSessionKey := sessionKey
      desiredState := .disabled
      desiredGeneration := 0
      isActive := false
      bound := false }

/-- `update_whatsapp_connection`; the key is in the payload or not, and may be null there. -/
def SidecarConnection.update (sessionKey : Option (Option Text)) (row : SidecarConnection) :
    SidecarConnection :=
  match sessionKey.getD (some row.sidecarSessionKey) with
  | none | some [] => row
  | some key =>
    { sidecarSessionKey := key
      desiredState := .disabled
      desiredGeneration := row.desiredGeneration + 1
      isActive := false
      bound := false }

/-- `update_whatsapp_desired_state`.  `assert_connection_can_activate` reads what no step here
writes, and `canActivate` is what it says. -/
def SidecarConnection.setDesiredState (active canActivate : Bool) (row : SidecarConnection) :
    SidecarConnection :=
  if active && !canActivate then row
  else
    let desired := if active then .active else .disabled
    { row with
      desiredState := desired
      desiredGeneration :=
        if row.desiredState ≠ desired then row.desiredGeneration + 1 else row.desiredGeneration
      isActive := active
      bound := false }

/-- the first transaction of `start_whatsapp_binding`. -/
def SidecarConnection.startBinding (row : SidecarConnection) : SidecarConnection :=
  { row with
    desiredState := .binding
    desiredGeneration := row.desiredGeneration + 1
    isActive := false
    bound := false }

/-- the transaction of `logout_whatsapp_connection`; `read` was loaded before the sidecar call. -/
def SidecarConnection.logoutPart (read row : SidecarConnection) : SidecarConnection :=
  { row with
    desiredState := changed read.desiredState .disabled row.desiredState
    desiredGeneration := read.desiredGeneration + 1
    isActive := changed read.isActive false row.isActive
    bound := false }

/-- the query of `baileys_whatsapp_desired_state`. -/
def SidecarConnection.isListed (row : SidecarConnection) : Bool :=
  decide (row.desiredState = .binding ∨ row.desiredState = .active) && row.isActive

def desiredAccountList (t : Table SidecarConnection) : List (Text × ℕ) :=
  ((t.select fun _ row => row.isListed && decide (row.sidecarSessionKey ≠ [])).map Prod.snd).map
    fun row => (row.sidecarSessionKey, row.desiredGeneration)

/-! ## the registry -/

def maxSafeInteger : ℕ := 2 ^ 53 - 1

def parseDesiredAccount (e : Text × ℕ) : Except String (AccountId × ℕ) := do
  let accountId ← assertSafeAccountId e.1
  if e.2 ≤ maxSafeInteger then .ok (accountId, e.2) else .error "invalid_desired_account_response"

def fetchDesiredAccounts (t : Table SidecarConnection) : Except String (List (AccountId × ℕ)) :=
  (desiredAccountList t).mapM parseDesiredAccount

inductive CyclePhase where
  | entries (todo : List (AccountId × ℕ))
  | stops (todo : List AccountId)
  /-- `connector.stop` is awaited. -/
  | stopping (a : AccountId) (todo : List AccountId)

structure ReconcileCycle where
  next : Dir AccountId ℕ
  phase : CyclePhase
  /-- no admin step since the list was fetched. -/
  fresh : Bool

/-- an admin request between two of its steps. -/
inductive InFlight where
  | start (sessionKey : Text) (generation : ℕ)
  | restart (sessionKey : Text) (generation : ℕ)
  | logout (read : SidecarConnection)
  | loggedOut (read : SidecarConnection)
deriving DecidableEq, Repr

structure SidecarWorld where
  connections : Table SidecarConnection
  /-- the connection and the state of the request of each worker. -/
  requests : InHand ℕ (ℕ × InFlight)
  desiredAccounts : Dir AccountId ℕ
  account : AccountId → Connector
  cycle : Option ReconcileCycle
  /-- the cycles that were fetched and ended since the last admin step. -/
  cycles : ℕ

/-- no connection yet; `files` is what the sidecar finds on its disk. -/
def SidecarWorld.initial
    (files : AccountId → Bool × Option OwnerLease × (Text → Option SendRecord)) :
    SidecarWorld where
  connections := Table.empty
  requests := InHand.empty
  desiredAccounts := Dir.empty
  account := fun a => Connector.initial (files a).1 (files a).2.1 (files a).2.2
  cycle := none
  cycles := 0

section Operations
variable (cfg : ConnectorConfig) (now : ℕ) (w : SidecarWorld)

def SidecarWorld.setAccount (a : AccountId) (c : Connector) : SidecarWorld :=
  { w with account := Function.update w.account a c }

def registryStart (a : AccountId) (generation : ℕ) : SidecarWorld :=
  { w with desiredAccounts := w.desiredAccounts.write a generation }.setAccount a
    (start cfg now (w.account a) (some generation) none)

def registryRestart (a : AccountId) (generation : ℕ) : SidecarWorld :=
  { w with desiredAccounts := w.desiredAccounts.write a generation }.setAccount a
    (restart (w.account a) (some generation))

def registryLogout (a : AccountId) : SidecarWorld :=
  { w with desiredAccounts := w.desiredAccounts.remove a }.setAccount a (logout (w.account a))

/-! ## sidecar calls -/

inductive CallOutcome where
  | answered | unanswered | unreached
deriving DecidableEq, Repr

/-- the account of the URL; the route rejects an id that is not safe. -/
def reached (sessionKey : Text) (outcome : CallOutcome) : Option AccountId :=
  if outcome = .unreached then none else (assertSafeAccountId sessionKey).toOption

/-- the start of the binding succeeded, and nothing has ended it. -/
def markBound (i : ℕ) (sessionKey : Text) (generation : ℕ) (t : Table SidecarConnection) :
    Table SidecarConnection :=
  t.modify i fun row =>
    { row with
      bound := row.bound || decide (row.desiredState = .binding ∧
        row.sidecarSessionKey = sessionKey ∧ row.desiredGeneration = generation) }

def callReached (worker i : ℕ) (request : InFlight) (outcome : CallOutcome) (a : AccountId) :
    SidecarWorld :=
  let done := { w with requests := w.requests.release worker }
  match request with
  | .start sessionKey generation =>
    let started := registryStart cfg now done a generation
    if outcome = .answered then
      { started with connections := markBound i sessionKey generation started.connections }
    else started
  | .restart _ generation => registryRestart done a generation
  | .logout read =>
    let loggedOut := registryLogout done a
    if outcome = .answered then
      { loggedOut with requests := w.requests.take worker (i, .loggedOut read) }
    else loggedOut
  | .loggedOut _ => w

def InFlight.sessionKey : InFlight → Text
  | .start sessionKey _ | .restart sessionKey _ => sessionKey
  | .logout read | .loggedOut read => read.sidecarSessionKey

/-- `call_baileys_account_action`; a request whose call fails ends. -/
def call (worker : ℕ) (outcome : CallOutcome) : SidecarWorld :=
  match w.requests worker with
  | none | some (_, .loggedOut _) => w
  | some (i, request) =>
    match reached request.sessionKey outcome with
    | none => { w with requests := w.requests.release worker }
    | some a => callReached cfg now w worker i request outcome a

/-! ## admin steps -/

inductive AdminStep where
  | create (sessionKey : Text)
  | update (i : ℕ) (sessionKey : Option (Option Text))
  | setDesiredState (i : ℕ) (active canActivate : Bool)
  | startBinding (worker i : ℕ)
  | restart (worker i : ℕ)
  | logout (worker i : ℕ)
  | call (worker now : ℕ) (outcome : CallOutcome)
  | logoutPart (worker : ℕ)
deriving DecidableEq, Repr

def beginRequest (worker i : ℕ) (f : SidecarConnection → InFlight) : SidecarWorld :=
  match w.connections.get? i with
  | none => w
  | some row => { w with requests := w.requests.take worker (i, f row) }

def adminPart : AdminStep → SidecarWorld
  | .create sessionKey => { w with connections := create sessionKey w.connections }
  | .update i sessionKey =>
    { w with connections := w.connections.modify i (·.update sessionKey) }
  | .setDesiredState i active canActivate =>
    { w with connections := w.connections.modify i (·.setDesiredState active canActivate) }
  | .startBinding worker i =>
    beginRequest { w with connections := w.connections.modify i (·.startBinding) } worker i
      fun row => .start row.sidecarSessionKey row.desiredGeneration
  | .restart worker i =>
    beginRequest w worker i fun row => .restart row.sidecarSessionKey row.desiredGeneration
  | .logout worker i => beginRequest w worker i .logout
  | .call worker now outcome => call cfg now w worker outcome
  | .logoutPart worker =>
    match w.requests worker with
    | some (i, .loggedOut read) =>
      { w with
        connections := w.connections.modify i read.logoutPart
        requests := w.requests.release worker }
    | _ => w

/-- a list fetched before is stale. -/
def SidecarWorld.outdate : SidecarWorld :=
  { w with cycle := w.cycle.map ({ · with fresh := false }), cycles := 0 }

def adminStep (s : AdminStep) : SidecarWorld := (adminPart cfg w s).outdate

/-! ## cycles -/

/-- `reconcileOnce` up to `registry.reconcile`; one cycle runs at a time. -/
def fetch : SidecarWorld :=
  match w.cycle, fetchDesiredAccounts w.connections with
  | none, .ok accounts =>
    let next := Dir.ofList accounts
    { w with cycle := some ⟨next, .entries next.entries, true⟩ }
  | _, _ => w

def keptStatuses : List AccountStatus := [.connected, .connecting, .qrPending, .reconnecting]

/-- an entry of the list; `status` with a QR code that has expired is an event before it. -/
def applyEntry (a : AccountId) (generation : ℕ) : SidecarWorld :=
  if w.desiredAccounts.get? a = some generation ∧ (w.account a).account.status.status ∈ keptStatuses
  then w
  else registryStart cfg now w a generation

def SidecarWorld.inPhase (c : ReconcileCycle) (phase : CyclePhase) : SidecarWorld :=
  { w with cycle := some { c with phase := phase } }

/-- the next step of the cycle `c`, with the `i`-th of what remains. -/
def reconcile (c : ReconcileCycle) (i : ℕ) : SidecarWorld :=
  match c.phase with
  | .entries [] =>
    w.inPhase c (.stops (w.desiredAccounts.names.filter fun a => c.next.get? a = none))
  | .entries todo =>
    match todo[i]? with
    | none => w
    | some (a, generation) =>
      (applyEntry cfg now w a generation).inPhase c (.entries (todo.eraseIdx i))
  | .stops [] =>
    { w with cycle := none, cycles := if c.fresh then w.cycles + 1 else w.cycles }
  | .stops todo =>
    match todo[i]? with
    | none => w
    | some a => (w.setAccount a (stop (w.account a))).inPhase c (.stopping a (todo.eraseIdx i))
  | .stopping a todo =>
    { w with desiredAccounts := w.desiredAccounts.remove a }.inPhase c (.stops todo)

end Operations

inductive SidecarStep where
  | admin (s : AdminStep)
  | fetch
  | reconcile (now i : ℕ)
  | event (a : AccountId) (now : ℕ) (e : ConnectorEvent)

def sidecarStep (cfg : ConnectorConfig) (s : SidecarStep) (w : SidecarWorld) : SidecarWorld :=
  match s with
  | .admin s => adminStep cfg w s
  | .fetch => fetch w
  | .reconcile now i =>
    match w.cycle with
    | none => w
    | some c => reconcile cfg now w c i
  | .event a now e =>
    if e.isCall then w else w.setAccount a (step cfg (now, e) (w.account a))

def registryConfig : ConnectorConfig := ⟨60000, 5, 86400000⟩

end NexusHelpdesk.Sidecar
