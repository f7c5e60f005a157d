import NexusHelpdesk.Telephony.Commands

/-!
# Projection of telephony events (`telephony_projection_service.py`)

The media server and the room controller report what happens in a call; the two projections write
it into the session and its legs.

* `sessionByRoomOrCall`: the session an event is about;
* `upsertLeg`: the leg of a participant who joins or leaves;
* `projectSipStatus`, `markTerminal`: the status of the session;
* `projectLivekitEvent`, `projectControllerEvent`: the two projections;
* `CallEvent.apply`: one application.  An exception rolls the transaction back.
-/

namespace NexusHelpdesk.Telephony

open Lib

/-! ## rows -/

inductive Direction where
  | inbound | outbound | internal
deriving DecidableEq, Repr

inductive ParticipantType where
  | caller | transfer | controller | ai | human | visitor | service
deriving DecidableEq, Repr

inductive LegStatus where
  | invited | joined | ended
deriving DecidableEq, Repr

/-- the attributes of a row of `webchat_voice_sessions` that the projections read and write. -/
structure CallSession where
  provider : String
  providerRoomName : String
  providerCallId : Option String
  status : Handoff.SessionStatus
  mode : String
  direction : Direction
  handoffRequestId : Option ℕ
  recordingStatus : String
  recordingProviderRef : Option String
  aiAgentStatus : Option String
  aiAgentWorkerId : Option String
  aiAgentLastHeartbeatAt : Option Instant
  aiAgentEndedAt : Option Instant
  ringingAt : Option Instant
  activeAt : Option Instant
  endedAt : Option Instant
  updatedAt : Instant
deriving DecidableEq, Repr

structure CallLeg where
  voiceSessionId : ℕ
  participantType : ParticipantType
  providerIdentity : String
  providerCallId : Option String
  direction : Direction
  status : LegStatus
  startedAt : Option Instant
  joinedAt : Option Instant
  leftAt : Option Instant
  endedAt : Option Instant
  updatedAt : Instant
deriving DecidableEq, Repr

structure CallStore where
  sessions : Table CallSession
  legs : Table CallLeg
  commands : Table VoiceCommand

/-! ## events -/

def clean (limit : ℕ) (value : Option String) : Option String :=
  let text := String.ofList ((PyStr.strip (value.getD "")).toList.take limit)
  if text = "" then none else some text

/-- the participant of an event, with the attributes the projection reads. -/
structure Participant where
  identity : Option String
  sipCallId : Option String
  callStatus : Option String
  role : Option String
  nexusRole : Option String

/-- `egressInfo` or `egress`, whose keys have two spellings each. -/
structure EgressInfo where
  roomName : Option String
  egressId : Option String
  status : Option String

/-- what the creation of an inbound session looked up and made: the configuration of the channel,
the recording status the policy gives, the dispatched controller and the handoff request. -/
structure NewCall where
  aiFirst : Bool
  recordingStatus : String
  controllerIdentity : String
  controllerStatus : String
  handoffRequestId : ℕ

structure LivekitEvent where
  eventType : String
  /-- the name of the room, and the field `roomName`. -/
  room : Option String
  roomField : Option String
  participant : Option Participant
  egress : Option EgressInfo
  /-- `none` without an account or a configuration; an exception of the creation otherwise. -/
  inbound : Option (Except String NewCall)

structure ControllerEvent where
  eventType : String
  roomName : Option String
  controllerIdentity : Option String
  role : Option String
  commandReference : Option String
  providerStatus : Option String
  providerReason : Option String
  callStatus : Option String

def LivekitEvent.roomName (e : LivekitEvent) : Option String :=
  ((clean 160 e.room).or (clean 160 e.roomField)).or (clean 160 (e.egress.bind (·.roomName)))

def LivekitEvent.callId (e : LivekitEvent) : Option String :=
  clean 160 (e.participant.bind (·.sipCallId))

def LivekitEvent.callStatus (e : LivekitEvent) : Option String :=
  clean 40 (e.participant.bind (·.callStatus))

def LivekitEvent.egressId (e : LivekitEvent) : Option String :=
  clean 180 (e.egress.bind (·.egressId))

def LivekitEvent.egressStatus (e : LivekitEvent) : String :=
  PyStr.lower (PyStr.strip ((e.egress.bind (·.status)).getD ""))

inductive LivekitKind where
  | joined (p : Participant) | left (p : Participant) | finished
  | egressStarted | egressUpdated | egressEnded | other

/-- the branches of `project_livekit_event`; an event of a participant without a participant is like
any other. -/
def LivekitEvent.kind (e : LivekitEvent) : LivekitKind :=
  let text := PyStr.lower (PyStr.strip e.eventType)
  match e.participant with
  | some p =>
    if text = "participant_joined" then .joined p
    else if text = "participant_left" then .left p
    else if text = "room_finished" ∨ text = "room_ended" then .finished
    else if text = "egress_started" then .egressStarted
    else if text = "egress_updated" then .egressUpdated
    else if text = "egress_ended" then .egressEnded
    else .other
  | none =>
    if text = "room_finished" ∨ text = "room_ended" then .finished
    else if text = "egress_started" then .egressStarted
    else if text = "egress_updated" then .egressUpdated
    else if text = "egress_ended" then .egressEnded
    else .other

inductive ControllerKind where
  | joined (identity : String) | left (identity : String)
  | command (reference : String) (succeeded : Bool) | callStatus | other

def ControllerEvent.kind (e : ControllerEvent) : ControllerKind :=
  let text := PyStr.lower (PyStr.strip e.eventType)
  match clean 160 e.controllerIdentity, clean 180 e.commandReference with
  | some identity, reference =>
    if text = "controller.joined" ∨ text = "controller.heartbeat" then .joined identity
    else if text = "controller.left" then .left identity
    else
      match reference with
      | some reference =>
        if text = "command.succeeded" then .command reference true
        else if text = "command.failed" then .command reference false
        else if text = "call.status" then .callStatus
        else .other
      | none => if text = "call.status" then .callStatus else .other
  | none, some reference =>
    if text = "command.succeeded" then .command reference true
    else if text = "command.failed" then .command reference false
    else if text = "call.status" then .callStatus
    else .other
  | none, none => if text = "call.status" then .callStatus else .other

def sessionByRoomOrCall (room call : Option String) (sessions : Table CallSession) :
    Option (ℕ × CallSession) :=
  let byCall :=
    match call with
    | some c =>
      (sessions.select fun _ s => s.provider == "livekit" && s.providerCallId == some c).getLast?
    | none => none
  match byCall, room with
  | some found, _ => some found
  | none, some r => (sessions.select fun _ s => s.providerRoomName == r).getLast?
  | none, none => none

def markTerminal (now : Instant) (status : Handoff.SessionStatus) (s : CallSession) :
    CallSession :=
  if sessionClosed s.status then s
  else
    let s := { s with status := status, endedAt := some (s.endedAt.getD now), updatedAt := now }
    if s.aiAgentStatus = none ∨ s.aiAgentStatus = some "ended" ∨ s.aiAgentStatus = some "failed" then s
    else { s with aiAgentStatus := some "ended", aiAgentEndedAt := some now }

def projectSipStatus (now : Instant) (callStatus : Option String) (s : CallSession) :
    CallSession :=
  let normalized := PyStr.lower (PyStr.strip (callStatus.getD ""))
  if normalized = "" ∨ sessionClosed s.status then s
  else if normalized ∈ ["active", "answered", "connected"] then
    let s := { s with activeAt := some (s.activeAt.getD now), updatedAt := now }
    if s.direction = .outbound ∨ s.handoffRequestId = none ∨ "_ai".toList <:+ s.mode.toList then
      { s with status := .active }
    else s
  else if normalized ∈ ["ringing", "automation", "dialing"] ∧ s.status = .created then
    { s with status := .ringing, ringingAt := some (s.ringingAt.getD now), updatedAt := now }
  else if normalized ∈ ["hangup", "disconnected", "failed", "busy", "no-answer", "no_answer"] then
    markTerminal now
      (if normalized ∈ ["failed", "busy", "no-answer", "no_answer"] then .failed else .ended) s
  else s

def isPrimarySipLeg (s : CallSession) (call : Option String) : Bool :=
  PyStr.truthy call && PyStr.truthy s.providerCallId && call == s.providerCallId

/-! ## legs -/

def inferParticipantType (s : CallSession) (identity : String) (call : Option String)
    (p : Participant) : ParticipantType × Direction :=
  let role := PyStr.lower ((PyStr.orElse p.role p.nexusRole).getD "")
  if isPrimarySipLeg s call then (.caller, s.direction)
  else if PyStr.truthy call then (.transfer, .outbound)
  else if role = "controller" then (.controller, .internal)
  else if role = "ai" ∨ role = "ai_controller" then (.ai, .internal)
  else if "agent_".toList <+: identity.toList ∨ "agent:".toList <+: identity.toList then
    (.human, .internal)
  else if "visitor_".toList <+: identity.toList then (.visitor, .inbound)
  else (.service, .internal)

def legOf (k : ℕ) (identity : String) (legs : Table CallLeg) : Option (ℕ × CallLeg) :=
  (legs.select fun _ l => l.voiceSessionId == k && l.providerIdentity == identity).getLast?

def newLeg (now : Instant) (k : ℕ) (s : CallSession) (identity : String) (p : Participant)
    (joined : Bool) : CallLeg :=
  let call := clean 160 p.sipCallId
  let inferred := inferParticipantType s identity call p
  { voiceSessionId := k
    participantType := inferred.1
    providerIdentity := identity
    providerCallId := call
    direction := inferred.2
    status := if joined then .joined else .ended
    startedAt := some now
    joinedAt := if joined then some now else none
    leftAt := if joined then none else some now
    endedAt := if joined then none else some now
    updatedAt := now }

def updateLeg (now : Instant) (joined : Bool) (l : CallLeg) : CallLeg :=
  if joined then
    if l.endedAt.isNone then
      { l with status := .joined, joinedAt := some (l.joinedAt.getD now), updatedAt := now }
    else l
  else
    { l with
      status := .ended, leftAt := some (l.leftAt.getD now), endedAt := some (l.endedAt.getD now)
      updatedAt := now }

def upsertLeg (now : Instant) (k : ℕ) (s : CallSession) (p : Participant) (joined : Bool)
    (legs : Table CallLeg) : Except String (ℕ × CallLeg × Table CallLeg) :=
  match clean 160 p.identity with
  | none => .error "provider_participant_identity_missing"
  | some identity =>
    match legOf k identity legs with
    | none =>
      let leg := newLeg now k s identity p joined
      .ok (legs.next, leg, legs.insert leg)
    | some (j, l) => .ok (j, updateLeg now joined l, legs.set j (updateLeg now joined l))

/-! ## events of the media server -/

/-- `_create_inbound_session`: the row, and the leg of its controller. -/
def newSession (now : Instant) (room call : String) (c : NewCall) : CallSession where
  provider := "livekit"
  providerRoomName := room
  providerCallId := some call
  status := if c.aiFirst then .active else .ringing
  mode := if c.aiFirst then "sip_ai" else "sip_human"
  direction := .inbound
  handoffRequestId := if c.aiFirst then none else some c.handoffRequestId
  recordingStatus := c.recordingStatus
  recordingProviderRef := none
  aiAgentStatus := some (if c.aiFirst then c.controllerStatus else "controller_dispatching")
  aiAgentWorkerId := none
  aiAgentLastHeartbeatAt := none
  aiAgentEndedAt := none
  ringingAt := if c.aiFirst then none else some now
  activeAt := if c.aiFirst then some now else none
  endedAt := none
  updatedAt := now

def controllerLeg (now : Instant) (k : ℕ) (c : NewCall) : CallLeg where
  voiceSessionId := k
  participantType := if c.aiFirst then .ai else .controller
  providerIdentity := c.controllerIdentity
  providerCallId := none
  direction := .internal
  status := .invited
  startedAt := some now
  joinedAt := none
  leftAt := none
  endedAt := none
  updatedAt := now

def isAgentLeg (l : CallLeg) : Bool := l.participantType == .ai || l.participantType == .controller

def recordingAfter (e : LivekitEvent) (current : String) : LivekitKind → String
  | .egressStarted => "recording"
  | .egressEnded =>
    if e.egressStatus = "failed" ∨ e.egressStatus = "aborted" then "failed" else "recorded"
  | .egressUpdated =>
    let text := String.ofList (e.egressStatus.toList.take 40)
    if text = "" then current else text
  | _ => current

def projectEgress (now : Instant) (e : LivekitEvent) (kind : LivekitKind) (s : CallSession) :
    CallSession :=
  { s with
    recordingProviderRef := e.egressId.or s.recordingProviderRef
    recordingStatus := recordingAfter e s.recordingStatus kind
    updatedAt := now }

def noteAgentLeg (now : Instant) (leg : CallLeg) (s : CallSession) : CallSession :=
  if isAgentLeg leg then
    { s with
      aiAgentStatus := some (if leg.participantType = .ai then "active" else "controller_active")
      aiAgentWorkerId := some leg.providerIdentity
      aiAgentLastHeartbeatAt := some now }
  else s

def noteAgentLeft (now : Instant) (s : CallSession) : CallSession :=
  { s with aiAgentStatus := some "ended", aiAgentEndedAt := some now, updatedAt := now }

def projectPrimary (now : Instant) (e : LivekitEvent) (call : Option String) (s : CallSession) :
    CallSession :=
  if isPrimarySipLeg s call then projectSipStatus now e.callStatus s else s

def projectLeft (now : Instant) (leg : CallLeg) (s : CallSession) : CallSession :=
  if leg.participantType = .caller then markTerminal now .ended s
  else if isAgentLeg leg then noteAgentLeft now s
  else s

def livekitBranch (now : Instant) (e : LivekitEvent) (k : ℕ) (s : CallSession)
    (legs : Table CallLeg) : LivekitKind → Except String (CallSession × Table CallLeg)
  | .joined p =>
    match upsertLeg now k s p true legs with
    | .error err => .error err
    | .ok (_, leg, legs) =>
      .ok (projectPrimary now e leg.providerCallId (noteAgentLeg now leg s), legs)
  | .left p =>
    match upsertLeg now k s p false legs with
    | .error err => .error err
    | .ok (_, leg, legs) => .ok (projectLeft now leg s, legs)
  | .finished => .ok (markTerminal now .ended s, legs)
  | .egressStarted => .ok (projectEgress now e .egressStarted s, legs)
  | .egressUpdated => .ok (projectEgress now e .egressUpdated s, legs)
  | .egressEnded => .ok (projectEgress now e .egressEnded s, legs)
  | .other => .ok (projectPrimary now e e.callId s, legs)

def nameCall (e : LivekitEvent) (s : CallSession) : CallSession :=
  if PyStr.truthy s.providerCallId then s
  else { s with providerCallId := e.callId.or s.providerCallId }

/-- the rest of `project_livekit_event` for the session under key `k`. -/
def livekitOn (now : Instant) (e : LivekitEvent) (k : ℕ) (session : CallSession) (s : CallStore) :
    Except String CallStore :=
  match livekitBranch now e k (nameCall e session) s.legs e.kind with
  | .error err => .error err
  | .ok (session, legs) => .ok { s with sessions := s.sessions.set k session, legs := legs }

def projectLivekitEvent (now : Instant) (e : LivekitEvent) (s : CallStore) :
    Except String CallStore :=
  match sessionByRoomOrCall e.roomName e.callId s.sessions with
  | some (k, session) => livekitOn now e k session s
  | none =>
    match e.roomName, e.callId, e.inbound with
    | some room, some call, some (.ok c) =>
      let session := newSession now room call c
      livekitOn now e s.sessions.next session
        { s with
          sessions := s.sessions.insert session
          legs := s.legs.insert (controllerLeg now s.sessions.next c) }
    | some _, some _, some (.error err) => .error err
    | _, _, _ => .ok s

/-! ## events of the room controller -/

def projectDirectResult (now : Instant) (c : VoiceCommand) (s : CallSession) : CallSession :=
  if c.actionType = "recording_start" then
    { s with
      recordingStatus := "starting", recordingProviderRef := c.providerReference, updatedAt := now }
  else if c.actionType = "recording_stop" then
    { s with recordingStatus := "stopping", updatedAt := now }
  else s

/-- `resolve_voice_command_from_provider_event` with its effect on the session of the command. -/
def resolveVoiceCommand (now : Instant) (e : ProviderEvent) (s : CallStore) : CallStore :=
  let commands := resolveCommand now e s.commands
  let reference := PyStr.strip e.commandReference
  match if reference = "" then none else referredCommand reference s.commands with
  | some (id, c) =>
    if e.succeeded && !c.status.finished then
      match commands.get? id with
      | some finished =>
        { s with
          commands := commands
          sessions := s.sessions.modify c.voiceSessionId (projectDirectResult now finished) }
      | none => { s with commands := commands }
    else { s with commands := commands }
  | none => { s with commands := commands }

def controllerParticipant (e : ControllerEvent) (identity : String) : Participant where
  identity := some identity
  sipCallId := none
  callStatus := none
  role := some ((PyStr.orElse e.role none).getD "controller")
  nexusRole := none

/-- the leg of a controller that reports itself; it is joined whatever it was before. -/
def rejoinLeg (now : Instant) (l : CallLeg) : CallLeg :=
  { l with status := .joined, joinedAt := some (l.joinedAt.getD now), updatedAt := now }

def noteController (now : Instant) (identity : String) (leg : CallLeg) (s : CallSession) :
    CallSession :=
  { s with
    aiAgentWorkerId := some identity
    aiAgentLastHeartbeatAt := some now
    aiAgentStatus := some (if leg.participantType = .ai then "active" else "controller_active")
    updatedAt := now }

def projectControllerEvent (now : Instant) (e : ControllerEvent) (s : CallStore) :
    Except String CallStore :=
  match sessionByRoomOrCall (clean 160 e.roomName) none s.sessions with
  | none => .ok s
  | some (k, session) =>
    match e.kind with
    | .joined identity =>
      match upsertLeg now k session (controllerParticipant e identity) true s.legs with
      | .error err => .error err
      | .ok (j, leg, legs) =>
        .ok { s with
          legs := legs.set j (rejoinLeg now leg)
          sessions := s.sessions.set k (noteController now identity leg session) }
    | .left identity =>
      match upsertLeg now k session (controllerParticipant e identity) false s.legs with
      | .error err => .error err
      | .ok (_, _, legs) =>
        .ok { s with
          legs := legs
          sessions := s.sessions.set k (noteAgentLeft now session) }
    | .command reference succeeded =>
      .ok (resolveVoiceCommand now
        ⟨reference, succeeded,
          (PyStr.orElse e.providerStatus none).getD (if succeeded then "succeeded" else "failed"),
          clean 160 e.providerReason⟩ s)
    | .callStatus =>
      .ok { s with
        sessions := s.sessions.set k (projectSipStatus now (clean 40 e.callStatus) session) }
    | .other => .ok s

inductive CallEvent where
  | livekit (now : Instant) (e : LivekitEvent)
  | controller (now : Instant) (e : ControllerEvent)

def CallEvent.project : CallEvent → CallStore → Except String CallStore
  | .livekit now e, s => projectLivekitEvent now e s
  | .controller now e, s => projectControllerEvent now e s

/-- an application; an exception leaves nothing behind. -/
def CallEvent.apply (i : CallEvent) (s : CallStore) : CallStore :=
  match i.project s with
  | .ok s' => s'
  | .error _ => s

end NexusHelpdesk.Telephony
