import NexusHelpdesk.Sidecar.Registry

/-!
# What the backend knows of one connection (`whatsapp_connection_service.py`, `admin_whatsapp.py`)

The row of a connection has the desired side, the observed side and the verification.  The observed
side is written from status callbacks and from answers of the transport to a request, and a request
writes its answer over the copy it has loaded before.

* `SidecarAccount`: the account in the sidecar, with the status callbacks that are under way;
* `Observed`, `Snapshot.observed`: `apply_observed_snapshot` for the snapshots of the two
  transports, which have all their fields;
* `WhatsAppConnection`: the row and the operations on it; `flush`: what is stored afterwards;
* `ReadinessStep`, `readinessStep`: one step.

The fields `version`, `inbound`, `outbound`, `activated`, `cycled` and `fresh` are for the
statements: no step reads them but to fill them.
-/

namespace NexusHelpdesk.Sidecar

open Lib

/-! ## the account in the sidecar -/

def emitted (callbacks : List Snapshot) (old new : Snapshot) (again : Bool) : List Snapshot :=
  if again = true ∨ new ≠ old then callbacks ++ [new] else callbacks

lemma getLast?_emitted {callbacks : List Snapshot} {old new : Snapshot} {again : Bool}
    (h : ∀ s ∈ callbacks.getLast?, s = old) :
    ∀ s ∈ (emitted callbacks old new again).getLast?, s = new := by
  unfold emitted
  split
  · intro s hs
    rw [List.getLast?_append, List.getLast?_singleton] at hs
    cases hs
    rfl
  · rename_i hsame
    rw [not_or, not_not] at hsame
    rw [hsame.2]
    exact h

/-- the account of the connection, its entry in `desiredAccounts` and its status callbacks. -/
structure SidecarAccount where
  connector : Connector
  tracked : Option ℕ
  callbacks : List Snapshot
  tidy : Tidy connector
  synced : Synced connector
  known : ∀ n, tracked = some n → connector.account.generation = n
  last : ∀ s ∈ callbacks.getLast?, s = connector.account.status

namespace SidecarAccount
variable (cfg : ConnectorConfig) (now : ℕ) (a : SidecarAccount)

def status : Snapshot := a.connector.account.status

/-- the connector goes on to `d`, and emits its status. -/
def become (d : Connector) (tracked : Option ℕ) (again : Bool) (htidy : Tidy d)
    (hsynced : Synced d) (hknown : ∀ n, tracked = some n → d.account.generation = n) :
    SidecarAccount where
  connector := d
  tracked := tracked
  callbacks := emitted a.callbacks a.status d.account.status again
  tidy := htidy
  synced := hsynced
  known := hknown
  last := getLast?_emitted a.last

def unused (credentials : Bool) (lease : Option OwnerLease)
    (records : Text → Option SendRecord) : SidecarAccount where
  connector := Connector.initial credentials lease records
  tracked := none
  callbacks := []
  tidy := ⟨(fun h => nomatch h), (fun f hf => nomatch hf)⟩
  synced := rfl
  known := nofun
  last := nofun

def start (n : ℕ) : SidecarAccount :=
  have h := startedUnder_start a.tidy n
  a.become (Sidecar.start cfg now a.connector (some n) none) (some n) false h.tidy h.synced
    fun m hm => h.generation.trans (Option.some.inj hm)

def restart (n : ℕ) : SidecarAccount :=
  have h := stoppedUnder_restart a.tidy n
  a.become (Sidecar.restart a.connector (some n)) (some n) false h.tidy (synced_restart n)
    fun m hm => h.generation.trans (Option.some.inj hm)

def logout : SidecarAccount :=
  have h := stoppedUnder_logout a.tidy
  a.become (Sidecar.logout a.connector) none false h.tidy (synced_logout a.synced) nofun

/-- `connector.stop` of a cycle. -/
def stop : SidecarAccount :=
  have h := stoppedUnder_stop a.tidy
  a.become (Sidecar.stop a.connector) a.tracked false h.tidy synced_stop
    fun n hn => h.generation.trans (a.known n hn)

/-- `desiredAccounts.delete`. -/
def forget : SidecarAccount := { a with tracked := none, known := nofun }

def applyEntry (n : ℕ) : SidecarAccount :=
  if a.tracked = some n ∧ a.status.status ∈ keptStatuses then a else a.start cfg now n

/-- an event of the account; it may emit a status that has not changed. -/
def event (e : ConnectorEvent) (again : Bool) : SidecarAccount :=
  if he : e.isCall = false then
    have h : Goes a.connector (step cfg (now, e) a.connector) (Restarts a.connector e) :=
      goes_step a.tidy he
    a.become (step cfg (now, e) a.connector) a.tracked again (h.tidy a.tidy) (h.synced a.synced)
      fun n hn => h.generation.trans (a.known n hn)
  else a

def delivered : SidecarAccount :=
  { a with
    callbacks := a.callbacks.tail
    last := by
      intro s hs
      refine a.last s ?_
      cases hc : a.callbacks with
      | nil =>
        rw [hc] at hs
        cases hs
      | cons t rest =>
        rw [hc] at hs
        cases rest with
        | nil => cases hs
        | cons u rest => exact hs }

end SidecarAccount

/-! ## the observed side -/

inductive WhatsAppTransport where
  | baileysSidecar | metaCloudApi
deriving DecidableEq, Repr

inductive ObservedState where
  | unconfigured | authRequired | qrPending | authPersisting | connecting | connected | degraded
  | loggedOut | error | disabled
deriving DecidableEq, Repr

/-- the four columns that `apply_observed_snapshot` fills and readiness looks at. -/
structure Observed where
  state : ObservedState
  authentication : AuthenticationState
  listener : ListenerState
  generation : ℕ
deriving DecidableEq, Repr

def AccountStatus.observed : AccountStatus → ObservedState
  | .idle => .authRequired
  | .qrPending => .qrPending
  | .authPersisting => .authPersisting
  | .connecting => .connecting
  | .connected => .connected
  | .reconnecting => .degraded
  | .disconnected => .loggedOut
  | .error => .error

def Snapshot.observed (s : Snapshot) : Observed :=
  ⟨s.status.observed, s.authenticationState, s.listenerState, s.generation⟩

def metaCloudProbe (codeActive : Bool) (desiredGeneration : ℕ) : Observed :=
  ⟨if codeActive then .connected else .degraded, .linked, .active, desiredGeneration⟩

/-! ## the row -/

inductive VerificationState where
  | pending | inboundVerified | outboundVerified | verified
deriving DecidableEq, Repr

/-- the columns that readiness looks at. -/
structure WhatsAppConnection where
  desiredState : DesiredState
  isActive : Bool
  desiredGeneration : ℕ
  observed : Observed
  verificationState : VerificationState
  inboundTestedAt : Option ℕ
  outboundTestedAt : Option ℕ
deriving DecidableEq, Repr

namespace WhatsAppConnection

def create (transport : WhatsAppTransport) : WhatsAppConnection where
  desiredState := .disabled
  isActive := false
  desiredGeneration := 0
  observed :=
    ⟨if transport = .baileysSidecar then .authRequired else .unconfigured, .unconfigured, .stopped,
      0⟩
  verificationState := .pending
  inboundTestedAt := none
  outboundTestedAt := none

structure Ready (row : WhatsAppConnection) : Prop where
  isActive : row.isActive = true
  desiredState : row.desiredState = .active
  state : row.observed.state = .connected
  authentication : row.observed.authentication = .linked
  listener : row.observed.listener = .active
  verified : row.verificationState = .verified
  generation : row.observed.generation = row.desiredGeneration

def resetVerification (row : WhatsAppConnection) : WhatsAppConnection :=
  { row with verificationState := .pending, inboundTestedAt := none, outboundTestedAt := none }

def verificationOf (inboundTestedAt outboundTestedAt : Option ℕ) : VerificationState :=
  match inboundTestedAt, outboundTestedAt with
  | some _, some _ => .verified
  | some _, none => .inboundVerified
  | none, some _ => .outboundVerified
  | none, none => .pending

/-- `record_verification_evidence(inbound=True)`. -/
def recordInbound (now : ℕ) (row : WhatsAppConnection) : WhatsAppConnection :=
  { row with
    inboundTestedAt := some now
    verificationState := verificationOf (some now) row.outboundTestedAt }

/-- `record_verification_evidence(outbound=True)`. -/
def recordOutbound (now : ℕ) (row : WhatsAppConnection) : WhatsAppConnection :=
  { row with
    outboundTestedAt := some now
    verificationState := verificationOf row.inboundTestedAt (some now) }

def update (row : WhatsAppConnection) : WhatsAppConnection :=
  { row with
    desiredGeneration := row.desiredGeneration + 1
    desiredState := .disabled
    isActive := false }.resetVerification

/-- the first transaction of `start_whatsapp_binding`. -/
def startBinding (row : WhatsAppConnection) : WhatsAppConnection :=
  { row with
    desiredState := .binding
    isActive := false
    desiredGeneration := row.desiredGeneration + 1 }.resetVerification

/-- `assert_connection_can_activate`, for a configuration that is valid. -/
def assertCanActivate (row : WhatsAppConnection) : Except String Unit :=
  if row.verificationState ≠ .verified then .error "verification_required"
  else if row.observed.authentication ≠ .linked then .error "authentication_not_linked"
  else if row.observed.listener ≠ .active then .error "listener_not_active"
  else if row.observed.state ≠ .connected then .error "transport_not_connected"
  else if row.observed.generation ≠ row.desiredGeneration then .error "observed_generation_stale"
  else .ok ()

def setDesiredState (active : Bool) (row : WhatsAppConnection) :
    Except String WhatsAppConnection := do
  if active then row.assertCanActivate
  let desired : DesiredState := if active then .active else .disabled
  .ok { row with
    desiredState := desired
    desiredGeneration :=
      if row.desiredState ≠ desired then row.desiredGeneration + 1 else row.desiredGeneration
    isActive := active }

/-- what is stored after the copy `read` has become `new` in memory and is flushed. -/
def flush (read new stored : WhatsAppConnection) : WhatsAppConnection where
  desiredState := changed read.desiredState new.desiredState stored.desiredState
  isActive := changed read.isActive new.isActive stored.isActive
  desiredGeneration :=
    changed read.desiredGeneration new.desiredGeneration stored.desiredGeneration
  observed :=
    ⟨changed read.observed.state new.observed.state stored.observed.state,
      changed read.observed.authentication new.observed.authentication
        stored.observed.authentication,
      changed read.observed.listener new.observed.listener stored.observed.listener,
      changed read.observed.generation new.observed.generation stored.observed.generation⟩
  verificationState :=
    changed read.verificationState new.verificationState stored.verificationState
  inboundTestedAt := changed read.inboundTestedAt new.inboundTestedAt stored.inboundTestedAt
  outboundTestedAt := changed read.outboundTestedAt new.outboundTestedAt stored.outboundTestedAt

end WhatsAppConnection

/-- a request that asks the transport; `probe` stands for the QR code too. -/
inductive RequestKind where
  | probe | binding | restart | logout
deriving DecidableEq, Repr

inductive RequestStage where
  | loaded
  | called
  | answered (seen : Observed)
deriving DecidableEq, Repr

structure TransportRequest where
  kind : RequestKind
  stage : RequestStage
  /-- the copy of the row. -/
  read : WhatsAppConnection
deriving DecidableEq, Repr

/-- what the request makes of its copy.  The logout of a Meta connection asks nothing. -/
def TransportRequest.outcome (transport : WhatsAppTransport) (r : TransportRequest)
    (seen : Observed) : WhatsAppConnection :=
  match r.kind with
  | .probe | .binding | .restart => { r.read with observed := seen }
  | .logout =>
    { r.read with
      observed :=
        match transport with
        | .baileysSidecar => seen
        | .metaCloudApi => ⟨.loggedOut, .revoked, .stopped, r.read.observed.generation⟩
      desiredState := .disabled
      isActive := false
      desiredGeneration := r.read.desiredGeneration + 1 }.resetVerification

/-! ## the world -/

inductive AccountPhase where
  | entry | stop | stopping
deriving DecidableEq, Repr

structure AccountCycle where
  /-- the generation under which the list has the account. -/
  listed : Option ℕ
  phase : AccountPhase
  /-- no admin step since the list was fetched. -/
  fresh : Bool
deriving DecidableEq, Repr

structure ReadinessWorld where
  transport : WhatsAppTransport
  row : WhatsAppConnection
  account : SidecarAccount
  /-- Meta has verified the number, or has not yet asked. -/
  codeActive : Bool
  requests : InHand ℕ TransportRequest
  /-- the tests that have sent their message, and the version of the configuration they began
  with. -/
  tests : InHand ℕ (WhatsAppConnection × ℕ)
  cycle : Option AccountCycle
  /-- the changes of the configuration. -/
  version : ℕ
  /-- tested since the last of them. -/
  inbound : Bool
  outbound : Bool
  /-- the last admin step has activated the connection. -/
  activated : Bool
  /-- a cycle was fetched and ended since the last admin step. -/
  cycled : Bool

def ReadinessWorld.initial (transport : WhatsAppTransport) (account : SidecarAccount)
    (codeActive : Bool) : ReadinessWorld where
  transport := transport
  row := WhatsAppConnection.create transport
  account := account
  codeActive := codeActive
  requests := InHand.empty
  tests := InHand.empty
  cycle := none
  version := 0
  inbound := false
  outbound := false
  activated := false
  cycled := false

section Operations
variable (cfg : ConnectorConfig) (now : ℕ) (w : ReadinessWorld)

/-- what the transport says to a request with the copy `read`. -/
def ReadinessWorld.seen (read : WhatsAppConnection) : Observed :=
  match w.transport with
  | .baileysSidecar => w.account.status.observed
  | .metaCloudApi => metaCloudProbe w.codeActive read.desiredGeneration

def ReadinessWorld.latest : Observed := w.seen w.row

def ReadinessWorld.outdate : ReadinessWorld :=
  { w with
    cycle := w.cycle.map ({ · with fresh := false })
    activated := false
    cycled := false }

def ReadinessWorld.reconfigure : ReadinessWorld :=
  { w with version := w.version + 1, inbound := false, outbound := false }

/-- an update; with another session key the connection has another account. -/
def updateConnection (rekey : Option SidecarAccount) : ReadinessWorld :=
  { w with row := w.row.update, account := rekey.getD w.account }.reconfigure.outdate

def activate (active : Bool) : ReadinessWorld :=
  match w.row.setDesiredState active with
  | .error _ => w
  | .ok row => { w.outdate with row := row, activated := active }

/-- a request loads the row; a binding writes it first. -/
def beginTransport (worker : ℕ) (kind : RequestKind) : ReadinessWorld :=
  match kind with
  | .probe => { w with requests := w.requests.take worker ⟨.probe, .called, w.row⟩ }
  | .binding =>
    let row := w.row.startBinding
    { w with
      row := row
      requests := w.requests.take worker ⟨.binding, .loaded, row⟩ }.reconfigure.outdate
  | kind => { w with requests := w.requests.take worker ⟨kind, .loaded, w.row⟩ }.outdate

def calledAccount (r : TransportRequest) : SidecarAccount :=
  match w.transport, r.kind with
  | .baileysSidecar, .binding => w.account.start cfg now r.read.desiredGeneration
  | .baileysSidecar, .restart => w.account.restart r.read.desiredGeneration
  | .baileysSidecar, .logout => w.account.logout
  | _, _ => w.account

def callTransport (worker : ℕ) : ReadinessWorld :=
  match w.requests worker with
  | some ⟨kind, .loaded, read⟩ =>
    { w with
      account := calledAccount cfg now w ⟨kind, .loaded, read⟩
      requests := w.requests.take worker ⟨kind, .called, read⟩ }.outdate
  | _ => w

def answerTransport (worker : ℕ) : ReadinessWorld :=
  match w.requests worker with
  | some ⟨kind, .called, read⟩ =>
    { w with requests := w.requests.take worker ⟨kind, .answered (w.seen read), read⟩ }
  | _ => w

def applyAnswer (worker : ℕ) : ReadinessWorld :=
  match w.requests worker with
  | some ⟨kind, .answered seen, read⟩ =>
    let r : TransportRequest := ⟨kind, .answered seen, read⟩
    let done := { w with
      row := WhatsAppConnection.flush read (r.outcome w.transport seen) w.row
      requests := w.requests.release worker }
    match kind with
    | .probe => done
    | .binding | .restart => done.outdate
    | .logout => done.reconfigure.outdate
  | _ => w

/-- `test_whatsapp_outbound` ends with its transaction. -/
def recordTest (worker : ℕ) : ReadinessWorld :=
  match w.tests worker with
  | none => w
  | some (read, version) =>
    { w with
      row := WhatsAppConnection.flush read (read.recordOutbound now) w.row
      tests := w.tests.release worker
      outbound := w.outbound || decide (version = w.version) }.outdate

/-- the query of `baileys_whatsapp_desired_state`. -/
def ReadinessWorld.listed : Option ℕ :=
  if w.transport = .baileysSidecar ∧
      (w.row.desiredState = .binding ∨ w.row.desiredState = .active) ∧ w.row.isActive = true then
    some w.row.desiredGeneration
  else none

def fetchList : ReadinessWorld :=
  match w.cycle with
  | some _ => w
  | none => { w with cycle := some ⟨w.listed, .entry, true⟩ }

def ReadinessWorld.endCycle (c : AccountCycle) : ReadinessWorld :=
  { w with cycle := none, cycled := w.cycled || c.fresh }

def cycleStep : ReadinessWorld :=
  match w.cycle with
  | none => w
  | some c =>
    match c.phase, c.listed with
    | .entry, some n =>
      { w with
        account := w.account.applyEntry cfg now n
        cycle := some { c with phase := .stop } }
    | .entry, none => { w with cycle := some { c with phase := .stop } }
    | .stop, some _ => w.endCycle c
    | .stop, none =>
      if w.account.tracked = none then w.endCycle c
      else { w with account := w.account.stop, cycle := some { c with phase := .stopping } }
    | .stopping, _ => { w with account := w.account.forget }.endCycle c

/-- `baileys_whatsapp_status`. -/
def deliverCallback : ReadinessWorld :=
  match w.account.callbacks with
  | [] => w
  | s :: _ =>
    { w with
      row := { w.row with observed := s.observed }
      account := w.account.delivered }

end Operations

inductive ReadinessStep where
  | update (rekey : Option SidecarAccount)
  | setDesiredState (active : Bool)
  | begin (worker : ℕ) (kind : RequestKind)
  | call (worker now : ℕ)
  | answer (worker : ℕ)
  | apply (worker : ℕ)
  /-- a request fails. -/
  | abandon (worker : ℕ)
  /-- `test_whatsapp_inbound` finds the message. -/
  | testInbound (now : ℕ)
  | beginTest (worker : ℕ)
  | recordTest (worker now : ℕ)
  | fetch
  | cycle (now : ℕ)
  | deliver
  | event (now : ℕ) (e : ConnectorEvent) (again : Bool)
  /-- Meta changes the state of the number. -/
  | metaChanges (codeActive : Bool)

def ReadinessStep.isAutomatic : ReadinessStep → Bool
  | .fetch | .cycle _ | .deliver => true
  | _ => false

def readinessStep (cfg : ConnectorConfig) (s : ReadinessStep) (w : ReadinessWorld) :
    ReadinessWorld :=
  match s with
  | .update rekey => updateConnection w rekey
  | .setDesiredState active => activate w active
  | .begin worker kind => beginTransport w worker kind
  | .call worker now => callTransport cfg now w worker
  | .answer worker => answerTransport w worker
  | .apply worker => applyAnswer w worker
  | .abandon worker => { w with requests := w.requests.release worker }
  | .testInbound now => { w with row := w.row.recordInbound now, inbound := true }.outdate
  | .beginTest worker => { w with tests := w.tests.take worker (w.row, w.version) }.outdate
  | .recordTest worker now => recordTest now w worker
  | .fetch => fetchList w
  | .cycle now => cycleStep cfg now w
  | .deliver => deliverCallback w
  | .event now e again => { w with account := w.account.event cfg now e again }
  | .metaChanges codeActive => { w with codeActive := codeActive }

end NexusHelpdesk.Sidecar
