import NexusHelpdesk.Sidecar.Callbacks

/-!
# One account of the Baileys connector (`baileysClient.ts`, `sessionStore.ts`)

Everything between two `await`s of a method runs without interruption.  What waits is a `Frame`; a
step is a call, an event of a socket, a timer, or the end of a wait.

* `RuntimeAccount`, `Connector`: the account, the owner lease, the sockets and the files of sends;
* `acquireOwner`, `releaseOwner`: the lease of the `SessionStore`;
* `start`, `stop`, `logout`, `send`: the methods up to their first `await`;
* `resume`: what follows when a wait ends;
* `ConnectorEvent`, `step`: one step at the time `now`.

The fields `live`, `reporter` and `sent` are for the statements: no step reads them but to fill them.
-/

namespace NexusHelpdesk.Sidecar

open Lib

/-! ## snapshots -/

inductive AccountStatus where
  | idle | connecting | qrPending | authPersisting | connected | disconnected | reconnecting | error
deriving DecidableEq, Repr

inductive AuthenticationState where
  | unconfigured | pending | linked | unstable | revoked | error
deriving DecidableEq, Repr

inductive ListenerState where
  | stopped | starting | active | reconnecting | error
deriving DecidableEq, Repr

inductive QrStatus where
  | none | pending | consumed | expired
deriving DecidableEq, Repr

structure Snapshot where
  status : AccountStatus
  authenticationState : AuthenticationState
  listenerState : ListenerState
  qrStatus : QrStatus
  generation : ℕ
  lastErrorCode : Option Text
  reconnectCount : ℕ
deriving DecidableEq, Repr

def baseSnapshot (generation : ℕ) (linked : Bool) : Snapshot where
  status := .idle
  authenticationState := if linked then .linked else .unconfigured
  listenerState := .stopped
  qrStatus := .none
  generation := generation
  lastErrorCode := none
  reconnectCount := 0

structure RuntimeAccount where
  generation : ℕ
  socket : Option ℕ
  suppressReconnectFor : Option ℕ
  /-- the token of the lease. -/
  owner : Option ℕ
  qrTimer : Bool
  reconnectTimer : Bool
  stopped : Bool
  reconnectAttempts : ℕ
  status : Snapshot
deriving DecidableEq, Repr

/-! ## sends -/

structure ThrownError where
  statusCode : Option ℕ
  payloadError : Option Text
  code : Option Text
  message : Option Text
deriving DecidableEq, Repr

def errorCode (e : ThrownError) (fallback : Text) : Text :=
  match e.payloadError.filter (trim · ≠ []), e.code.filter (trim · ≠ []) with
  | some payloadError, _ => payloadError.take 80
  | none, some code => code.take 80
  | none, none =>
    match e.statusCode.filter (· ≠ 0) with
    | some n => "http_".toList ++ n.repr.toList
    | none => fallback

def isRetryablePairingError (e : ThrownError) : Bool :=
  e.statusCode.any (· ∈ [408, 425, 428, 429]) || e.statusCode.any (500 ≤ ·) ||
    e.message.any fun message =>
      ["connection closed", "timed out", "not open"].any fun phrase =>
        decide (phrase.toList <:+: message.map Char.toLower)

inductive MediaKind where
  | image | audio | video | document | sticker
deriving DecidableEq, Repr

def MediaKind.limit : MediaKind → ℕ
  | .image => 5 * 1024 * 1024
  | .audio => 16 * 1024 * 1024
  | .video => 16 * 1024 * 1024
  | .document => 100 * 1024 * 1024
  | .sticker => 500 * 1024

/-- a `SendRequest`, or a `SendMediaRequest` with the length of its content. -/
structure SendRequest where
  idempotencyKey : Text
  target : Option Text
  chatJid : Option Text
  media : Option (MediaKind × ℕ)
deriving DecidableEq, Repr

inductive SendResult where
  | sent (providerMessageId : Text) (sentAt : ℕ)
  | failed (errorCode : Text) (retryable : Bool)
deriving DecidableEq, Repr

def SendResult.retryable : SendResult → Bool
  | .sent _ _ => false
  | .failed _ retryable => retryable

def notConnectedResult : SendResult := .failed "whatsapp_not_connected".toList true

def missingTargetResult : SendResult := .failed "missing_target".toList false

def sendResult (providerMessageId : Option Text) (now : ℕ) : SendResult :=
  match providerMessageId.filter (· ≠ []) with
  | none => .failed "provider_message_id_missing".toList true
  | some id => .sent id now

def sendFailure (e : ThrownError) : SendResult :=
  .failed (errorCode e "whatsapp_send_failed".toList) true

def targetToWhatsAppJid (target : Option Text) : Option Text :=
  let trimmed := trim (target.getD [])
  let endsWith (suffix : String) : Bool := suffix.toList.isSuffixOf trimmed
  if trimmed = [] ∨ trimmed = "status@broadcast".toList then none
  else if endsWith "@broadcast" || endsWith "@g.us" || endsWith "@newsletter" then none
  else if endsWith "@s.whatsapp.net" || endsWith "@lid" then some trimmed
  else if '@' ∈ trimmed then none
  else
    let digits := trimmed.filter Char.isDigit
    if digits = [] then none else some (digits ++ "@s.whatsapp.net".toList)

/-- the file of an idempotency key. -/
structure SendRecord where
  createdAt : ℕ
  result : SendResult
deriving DecidableEq, Repr

/-! ## the connector -/

structure ConnectorConfig where
  ownerStaleMs : ℕ
  reconnectMaxAttempts : ℕ
  idempotencyTtlMs : ℕ
deriving DecidableEq, Repr

/-- `owner.json`, with the time of its last change.  The tokens of other processes differ from those
of this one. -/
inductive OwnerToken where
  | own (token : ℕ)
  | other (token : ℕ)
deriving DecidableEq, Repr

structure OwnerLease where
  token : OwnerToken
  mtimeMs : ℕ
deriving DecidableEq, Repr

inductive SocketConnection where
  | connecting
  | opened
  | closed (loggedOut : Bool)
deriving DecidableEq, Repr

structure ConnectionUpdate where
  qr : Bool
  connection : Option SocketConnection
  statusCode : Option ℕ
deriving DecidableEq, Repr

/-- a wait; `attempt` is the one of `requestPairingCode` that waits for `start`. -/
inductive Frame where
  | starting (attempt : Option ℕ)
  | authenticating (attempt : Option ℕ)
  | fetchingVersion (attempt : Option ℕ)
  | startFailed (attempt : Option ℕ)
  | restarting
  | loggingOut
  | qrImage (socket : ℕ) (update : ConnectionUpdate) (captured : Snapshot)
  | qrShown (socket : ℕ) (update : ConnectionUpdate)
  | opened (socket : ℕ)
  | persisting (socket : ℕ)
  | closed (socket : ℕ) (loggedOut suppressed : Bool)
  | pairStopped (attempt : ℕ)
  | pairStarted (attempt : ℕ)
  | pairReady (attempt socket : ℕ)
  | pairCode (attempt socket : ℕ)
  | pairSleeping (attempt : ℕ)
  | pairGivenUp
  | sending (request : SendRequest)
deriving DecidableEq, Repr

structure Connector where
  account : RuntimeAccount
  credentials : Bool
  lease : Option OwnerLease
  /-- the leases that this process acquired. -/
  tokens : ℕ
  sockets : ℕ
  live : List ℕ
  /-- the socket whose `open` made the status `connected`. -/
  reporter : Option ℕ
  /-- the files of the idempotency keys; SHA-256 names them and is taken as ideal. -/
  records : Text → Option SendRecord
  /-- the message ids with which `sendMessage` was resolved. -/
  sent : List (Text × Text)
  pending : List Frame

/-- the account before its first use. -/
def Connector.initial (credentials : Bool) (lease : Option OwnerLease)
    (records : Text → Option SendRecord) : Connector where
  account :=
    { generation := 0
      socket := none
      suppressReconnectFor := none
      owner := none
      qrTimer := false
      reconnectTimer := false
      stopped := true
      reconnectAttempts := 0
      status := baseSnapshot 0 credentials }
  credentials := credentials
  lease := lease
  tokens := 0
  sockets := 0
  live := []
  reporter := none
  records := records
  sent := []
  pending := []

section Operations
variable (cfg : ConnectorConfig) (now : ℕ) (c : Connector)

def Connector.await (f : Frame) : Connector := { c with pending := c.pending ++ [f] }

def Connector.setStatus (f : Snapshot → Snapshot) : Connector :=
  { c with account := { c.account with status := f c.account.status } }

/-- `emitStatus` up to its `await`. -/
def Connector.emitStatus : Connector :=
  c.setStatus fun status => { status with generation := c.account.generation }

/-! ## the lease -/

def ownerBusy : Bool := c.lease.any fun lease => now ≤ lease.mtimeMs + cfg.ownerStaleMs

/-- `acquireOwner`; `none` is `whatsapp_connection_owner_busy`. -/
def acquireOwner : Option Connector :=
  if ownerBusy cfg now c then none
  else
    some
      { c with
        lease := some ⟨.own c.tokens, now⟩
        tokens := c.tokens + 1
        account := { c.account with owner := some c.tokens } }

/-- `account.owner` is the lease in the owner file. -/
def HoldsLease : Prop := ∃ token ∈ c.account.owner, c.lease.map (·.token) = some (.own token)

instance : Decidable (HoldsLease c) :=
  inferInstanceAs (Decidable (∃ token ∈ c.account.owner, _))

/-- `account.owner?.release()` and `account.owner = undefined`. -/
def Connector.releaseOwner : Connector :=
  { c with
    lease := c.lease.filter fun lease => !c.account.owner.any (lease.token = .own ·)
    account := { c.account with owner := none } }

/-! ## sockets and timers -/

def Connector.endSocket (s : ℕ) : Connector := { c with live := c.live.filter (· ≠ s) }

/-- `closeSocket(account, true)`. -/
def Connector.closeSocket : Connector :=
  match c.account.socket with
  | none => c
  | some s =>
    { c with account := { c.account with socket := none, suppressReconnectFor := some s } }.endSocket s

def Connector.clearQrTimer : Connector := { c with account := { c.account with qrTimer := false } }

def Connector.clearReconnectTimer : Connector :=
  { c with account := { c.account with reconnectTimer := false } }

def expireQr : Connector :=
  if c.account.status.qrStatus = .pending then
    (c.setStatus fun status =>
      { status with status := .connecting, qrStatus := .expired }).emitStatus
  else c

def abortForCredentialFailure (s : ℕ) : Connector :=
  let c := { c with
    account := { c.account with
      socket := if c.account.socket = some s then none else c.account.socket
      suppressReconnectFor := some s } }.endSocket s
  (c.setStatus fun status =>
    { status with
      status := .error
      authenticationState := .unstable
      listenerState := .error
      lastErrorCode := some "credential_persistence_failed".toList }).emitStatus

/-- `scheduleReconnect` up to its `await`. -/
def scheduleReconnect : Connector :=
  if c.account.stopped || c.account.reconnectTimer then c
  else if cfg.reconnectMaxAttempts ≤ c.account.reconnectAttempts then
    ((c.setStatus fun status =>
      { status with
        status := .error
        authenticationState := if c.credentials then .linked else .error
        listenerState := .error
        lastErrorCode := some "reconnect_attempts_exhausted".toList }).releaseOwner).emitStatus
  else
    { c with
      account := { c.account with
        reconnectAttempts := c.account.reconnectAttempts + 1
        reconnectTimer := true } }

/-- `clearCredentials`, which removes the idempotency files too. -/
def Connector.clearCredentials : Connector :=
  { c with credentials := false, records := fun _ => none }

/-! ## start, stop, logout -/

/-- `start` returns: an attempt of `requestPairingCode` goes on. -/
def Connector.started (attempt : Option ℕ) : Connector :=
  match attempt with
  | none => c
  | some n => c.await (.pairStarted n)

def activeStatuses : List AccountStatus := [.connected, .connecting, .qrPending, .authPersisting]

/-- `start` with the lease, up to its first `await`. -/
def startOwned (attempt : Option ℕ) : Connector :=
  ((c.setStatus fun status =>
    { status with
      status := .connecting
      authenticationState := if c.credentials then .linked else .pending
      listenerState := .starting
      generation := c.account.generation
      qrStatus := .none
      lastErrorCode := none }).emitStatus).await (.starting attempt)

/-- `start` without the lease. -/
def startBusy : Connector :=
  (c.setStatus fun status =>
    { status with
      status := .error
      authenticationState := if c.credentials then .linked else .unconfigured
      listenerState := .error
      generation := c.account.generation
      lastErrorCode := some "whatsapp_connection_owner_busy".toList }).emitStatus

def start (generation : Option ℤ) (attempt : Option ℕ) : Connector :=
  let newGeneration := (generation.map Int.toNat).getD c.account.generation
  let c := { c with
    account := { c.account with
      generation := newGeneration
      stopped := false
      status := { c.account.status with generation := newGeneration } } }
  if c.account.socket.isSome && decide (c.account.status.status ∈ activeStatuses) then
    c.started attempt
  else
    let c := c.clearReconnectTimer
    if c.account.owner.isSome then startOwned c attempt
    else
      match acquireOwner cfg now c with
      | none => (startBusy c).started attempt
      | some c => startOwned c attempt

/-- `stop` up to its `await`. -/
def stop : Connector :=
  let c := { c with account := { c.account with stopped := true } }
  let c := c.clearQrTimer.clearReconnectTimer.closeSocket.releaseOwner
  (c.setStatus fun status =>
    { baseSnapshot c.account.generation c.credentials with
      reconnectCount := status.reconnectCount }).emitStatus

def finishLogout : Connector :=
  let c := c.closeSocket.clearCredentials.releaseOwner
  (c.setStatus fun _ =>
    { baseSnapshot c.account.generation false with
      status := .disconnected
      authenticationState := .revoked }).emitStatus

/-- `logout` up to its first `await`. -/
def logout : Connector :=
  let c := { c with account := { c.account with stopped := true } }
  let c := c.clearQrTimer.clearReconnectTimer
  match c.account.socket with
  | some s =>
    { c with account := { c.account with suppressReconnectFor := some s } }.await .loggingOut
  | none => finishLogout c

/-- `restart` up to its first `await`. -/
def restart (generation : Option ℤ) : Connector :=
  let newGeneration := (generation.map Int.toNat).getD c.account.generation
  (stop { c with account := { c.account with generation := newGeneration } }).await .restarting

/-- the `catch` of `start` up to its `await`. -/
def startCaught (attempt : Option ℕ) (e : ThrownError) : Connector :=
  ((c.setStatus fun status =>
    { status with
      status := .error
      authenticationState := if c.credentials then .linked else .error
      listenerState := .error
      lastErrorCode := some (errorCode e "whatsapp_start_failed".toList) }).emitStatus).await
    (.startFailed attempt)

/-- `makeWASocket` and `account.socket = socket`. -/
def Connector.createSocket : Connector :=
  { c with
    sockets := c.sockets + 1
    live := c.sockets :: c.live
    account := { c.account with socket := some c.sockets } }

/-- `handleConnectionUpdate` behind the QR code, up to its next `await`; a socket that reports
`close` has ended. -/
def handleConnection (s : ℕ) (update : ConnectionUpdate) : Connector :=
  match update.connection with
  | some .opened =>
    ((c.clearQrTimer.setStatus fun status =>
      { status with
        status := .authPersisting
        authenticationState := .pending
        listenerState := .starting
        qrStatus := .consumed }).emitStatus).await (.opened s)
  | some (.closed loggedOut) =>
    let c := c.endSocket s
    let suppressed : Bool := c.account.suppressReconnectFor = some s
    let c := { c with
      account := { c.account with
        suppressReconnectFor := if suppressed then none else c.account.suppressReconnectFor } }
    if c.account.socket = some s then
      let c := { c with account := { c.account with socket := none } }
      ((c.setStatus fun status =>
        { status with
          status := if loggedOut then .disconnected else .reconnecting
          authenticationState := if loggedOut then .revoked else status.authenticationState
          listenerState := if loggedOut then .stopped else .reconnecting
          lastErrorCode := some (match update.statusCode with
            | some n => n.repr.toList
            | none => "socket_closed".toList)
          reconnectCount := status.reconnectCount + if loggedOut then 0 else 1 }).emitStatus).await
        (.closed s loggedOut suppressed)
    else c
  | _ => c

/-- `handleConnectionUpdate` up to its first `await`. -/
def handleConnectionUpdate (s : ℕ) (update : ConnectionUpdate) : Connector :=
  if update.qr then c.await (.qrImage s update c.account.status)
  else handleConnection c s update

def Connector.connected (s : ℕ) : Connector :=
  (({ c with
    account := { c.account with reconnectAttempts := 0 }
    reporter := some s }).setStatus fun status =>
    { status with
      status := .connected
      authenticationState := .linked
      listenerState := .active
      qrStatus := .consumed
      lastErrorCode := none }).emitStatus

def pairingCodeAttempts : ℕ := 5

def pairingAttempt (attempt : ℕ) : Connector :=
  if attempt ≤ pairingCodeAttempts then (stop c).await (.pairStopped attempt)
  else (stop c).await .pairGivenUp

def pairingDelay (attempt : ℕ) : Connector :=
  if attempt < pairingCodeAttempts then c.await (.pairSleeping attempt)
  else pairingAttempt c (attempt + 1)

def requestPairingCode (phoneNumber : Text) : Connector :=
  let digits := phoneNumber.filter Char.isDigit
  if digits.length < 8 ∨ 16 < digits.length then c
  else if c.account.status.status = .connected then c
  else pairingAttempt c 1

/-! ## sending -/

def readSendResult (key : Text) : Option SendResult × Connector :=
  match c.records key with
  | none => (none, c)
  | some r =>
    if cfg.idempotencyTtlMs < now - r.createdAt ∨ r.result.retryable then
      (none, { c with records := Function.update c.records key none })
    else (some r.result, c)

def writeSendResult (key : Text) (result : SendResult) : Connector :=
  { c with
    records := Function.update c.records key
      (if result.retryable then none else some ⟨now, result⟩) }

def settle (request : SendRequest) (result : SendResult) : Option SendResult × Connector :=
  (some result, writeSendResult now c request.idempotencyKey result)

/-- `send` or `sendMedia` up to `socket.sendMessage`. -/
def sendUnlessCached (request : SendRequest) (refused : Option SendResult) :
    Option SendResult × Connector :=
  match readSendResult cfg now c request.idempotencyKey with
  | (some result, c) => (some result, c)
  | (none, c) =>
    if c.account.status.status ≠ .connected ∨ c.account.socket = none then
      settle now c request notConnectedResult
    else
      match refused with
      | some result => settle now c request result
      | none =>
        match (targetToWhatsAppJid request.chatJid).or (targetToWhatsAppJid request.target) with
        | none => settle now c request missingTargetResult
        | some _ => (none, c.await (.sending request))

/-- the size of the content is not allowed. -/
def mediaRefused (kind : MediaKind) (length : ℕ) : Option SendResult :=
  if length = 0 ∨ kind.limit < length then
    some (.failed "whatsapp_media_size_invalid".toList false)
  else none

def send (request : SendRequest) : Option SendResult × Connector :=
  sendUnlessCached cfg now c request (request.media.bind fun m => mediaRefused m.1 m.2)

/-- `socket.sendMessage` ends. -/
def sendEnds (request : SendRequest) (result : SendResult) : Connector :=
  let c := match result with
    | .sent id _ => { c with sent := (request.idempotencyKey, id) :: c.sent }
    | .failed _ _ => c
  writeSendResult now c request.idempotencyKey result

end Operations

inductive Outcome where
  | resolved
  | persisted (yes : Bool)
  | messageId (id : Option Text)
  | rejected (e : ThrownError)
deriving DecidableEq, Repr

/-- what follows when the wait `f` ends.  A rejection that the method does not catch ends it. -/
def resume (cfg : ConnectorConfig) (now : ℕ) (c : Connector) (f : Frame) (o : Outcome) :
    Connector :=
  match f, o with
  | .starting attempt, .resolved => c.await (.authenticating attempt)
  | .authenticating attempt, .resolved => c.await (.fetchingVersion attempt)
  | .authenticating attempt, .rejected e => startCaught c attempt e
  | .fetchingVersion attempt, .resolved => c.createSocket.started attempt
  | .fetchingVersion attempt, .rejected e => startCaught c attempt e
  | .startFailed attempt, .resolved => (scheduleReconnect cfg c).started attempt
  | .restarting, .resolved => start cfg now c (some c.account.generation) none
  | .loggingOut, .resolved => finishLogout c
  | .loggingOut, .rejected _ => finishLogout c
  | .qrImage s update captured, .resolved =>
    let c := { c with
      account := { c.account with
        status := { captured with
          status := .qrPending
          authenticationState := .pending
          listenerState := .starting
          qrStatus := .pending }
        qrTimer := true } }
    c.emitStatus.await (.qrShown s update)
  | .qrShown s update, .resolved => handleConnection c s update
  | .opened s, .resolved => c.await (.persisting s)
  | .persisting s, .persisted true => c.connected s
  | .persisting s, .persisted false => abortForCredentialFailure c s
  | .closed _ loggedOut suppressed, .resolved =>
    if loggedOut || suppressed || c.account.stopped then c.releaseOwner
    else scheduleReconnect cfg c
  | .pairStopped attempt, .resolved =>
    start cfg now c.clearCredentials (some c.account.generation) (some attempt)
  | .pairStarted attempt, .resolved =>
    match c.account.socket with
    | some s => c.await (.pairReady attempt s)
    | none => pairingDelay c attempt
  | .pairReady attempt s, .resolved =>
    if c.account.socket = some s then c.await (.pairCode attempt s)
    else pairingAttempt c (attempt + 1)
  | .pairCode _ _, .resolved =>
    (c.setStatus fun status =>
      { status with
        status := .authPersisting
        authenticationState := .pending
        listenerState := .starting }).emitStatus
  | .pairCode attempt _, .rejected e =>
    if isRetryablePairingError e then pairingDelay c.closeSocket attempt
    else (stop c.closeSocket).await .pairGivenUp
  | .pairSleeping attempt, .resolved => pairingAttempt c (attempt + 1)
  | .pairGivenUp, .resolved => c.clearCredentials
  | .sending request, .messageId id => sendEnds now c request (sendResult id now)
  | .sending request, .rejected e => sendEnds now c request (sendFailure e)
  | _, _ => c

inductive ConnectorEvent where
  | start (generation : Option ℤ)
  | stop
  | restart (generation : Option ℤ)
  | logout
  | requestPairingCode (phoneNumber : Text)
  | send (request : SendRequest)
  | reconnectTimer
  | qrTimer
  /-- `status` after the QR code has expired. -/
  | statusExpired
  | heartbeat
  | update (socket : ℕ) (update : ConnectionUpdate)
  | credentialFailure (socket : ℕ)
  | credentialsSaved
  /-- another process acquires the lease, or releases one. -/
  | otherAcquires (token : ℕ)
  | otherReleases (token : ℕ)
  | ends (i : ℕ) (outcome : Outcome)
deriving DecidableEq, Repr

def step (cfg : ConnectorConfig) (e : ℕ × ConnectorEvent) (c : Connector) : Connector :=
  match e.2 with
  | .start generation => start cfg e.1 c generation none
  | .stop => stop c
  | .restart generation => restart c generation
  | .logout => logout c
  | .requestPairingCode phoneNumber => requestPairingCode c phoneNumber
  | .send request => (send cfg e.1 c request).2
  | .reconnectTimer =>
    if c.account.reconnectTimer then
      start cfg e.1 c.clearReconnectTimer (some c.account.generation) none
    else c
  | .qrTimer => if c.account.qrTimer then expireQr c.clearQrTimer else c
  | .statusExpired => expireQr c
  | .heartbeat =>
    { c with
      lease := c.lease.map fun lease =>
        if c.account.owner.any (lease.token = .own ·) then { lease with mtimeMs := e.1 }
        else lease }
  | .update s update => if s < c.sockets then handleConnectionUpdate c s update else c
  | .credentialFailure s => if s < c.sockets then abortForCredentialFailure c s else c
  | .credentialsSaved => { c with credentials := true }
  | .otherAcquires token =>
    if ownerBusy cfg e.1 c then c else { c with lease := some ⟨.other token, e.1⟩ }
  | .otherReleases token =>
    { c with lease := c.lease.filter fun lease => lease.token ≠ .other token }
  | .ends i outcome =>
    match c.pending[i]? with
    | none => c
    | some f => resume cfg e.1 { c with pending := c.pending.eraseIdx i } f outcome

end NexusHelpdesk.Sidecar
