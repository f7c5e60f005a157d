import NexusHelpdesk.Webchat.Links

/-!
# Turns of a voice call (`livekit_agent_turn_service.py`)

The Agent of a call hands over what the caller said, turn by turn.  A turn becomes a visitor message
and an AI turn of its own, without a job; a turn that is sent again is answered from the messages.

* `existingVisitor`, `existingReply`, `replay`: the answer to a repeated turn;
* `openVoiceTurn`, `recordSegment`, `closeCall`: what a call writes;
* `startCall`, `generateCall`, `finishCall`: its stretches up to the next commit or the call of the
  Agent, around those of `process_webchat_ai_reply_job`;
* `VoiceStep`: the steps of the calls and of everything else in the conversation.
-/

namespace NexusHelpdesk.Voice

open Lib Jobs Webchat

/-! ## rows -/

inductive SpeakerType where
  | visitor | ai
deriving DecidableEq, Repr

structure Segment where
  turnId : ℕ
  speakerType : SpeakerType
  participantIdentity : String
deriving DecidableEq, Repr

/-- where a call of a turn stands: it has committed before the Agent is called, or it has read its
context and waits for the Agent. -/
inductive CallPhase where
  | generating (turn : Option ℕ)
  | replying (turn : Option (ℕ × WebchatAITurn))

/-- a call in flight, with its visitor message and the `ai_turn_count` its session object holds. -/
structure Call where
  visitorMessageId : ℕ
  aiTurnCount : ℕ
  phase : CallPhase

/-- an active session and its conversation: `clientTurn` is the turn id in the `client_message_id`
of a message, `transcribes` says that the transcript status is one of `authorized`,
`start_requested` and `active`, `finished` lists the turns whose call has returned. -/
structure VoiceDesk where
  desk : ChatDesk
  clientTurn : ℕ → Option ℕ
  calls : ℕ → Option Call
  transcribes : Bool
  segments : List Segment
  aiTurnCount : ℕ
  finished : List ℕ

def VoiceDesk.empty : VoiceDesk :=
  ⟨.empty, fun _ => none, fun _ => none, false, [], 0, []⟩

def VoiceDesk.chat (w : VoiceDesk) : Chat := w.desk.chat

def VoiceDesk.commit (w : VoiceDesk) (d : Chat) : VoiceDesk :=
  { w with desk := { w.desk with chat := d } }

/-! ## a repeated turn -/

def existingVisitor (w : VoiceDesk) (k : ℕ) : Option ℕ :=
  (w.chat.messages.select fun m row =>
    row.direction == .visitor && w.clientTurn m == some k).head?.map Prod.fst

/-- the replies of the assistant after message `v`, oldest first. -/
def aiReplies (v : ℕ) (d : Chat) : List (ℕ × WebchatMessage) :=
  d.messages.select fun m row =>
    row.direction == .agent && decide (v < m) && row.authorLabel == some .aiAssistant

def existingReply (v : ℕ) (d : Chat) : Option ℕ := (aiReplies v d).head?.map Prod.fst

/-- the answer to a call: `ok`, and the message whose text is the reply. -/
structure Answer where
  ok : Bool
  reply : Option ℕ
deriving DecidableEq, Repr

/-- the answer to turn `k` when it is sent again. -/
def replay (w : VoiceDesk) (k : ℕ) : Option Answer :=
  (existingVisitor w k).map fun v => ⟨(existingReply v w.chat).isSome, existingReply v w.chat⟩

/-! ## a new turn -/

def recordSegment (k : ℕ) (speaker : SpeakerType) (participant : String) (w : VoiceDesk) :
    VoiceDesk :=
  if w.transcribes && !w.segments.contains ⟨k, speaker, participant⟩ then
    { w with segments := w.segments ++ [⟨k, speaker, participant⟩] }
  else w

def agentIdentity : String := "nexus-livekit-agent"

def voiceTurn (now : Instant) (v : ℕ) : WebchatAITurn where
  triggerMessageId := v
  latestVisitorMessageId := v
  contextCutoffMessageId := some v
  status := .queued
  isPublicReplyAllowed := true
  replyMessageId := none
  jobId := none
  updatedAt := now

/-- the turn becomes the active one, whatever was active before. -/
def openVoiceTurn (now : Instant) (v : ℕ) (d : Chat) : Chat :=
  { d with turns := d.turns.insert (voiceTurn now v) }.point (some d.turns.next)
    d.conversation.nextAiTurnId

/-- the end of the call of turn `k` on the rows `d`, where the session object holds `count`. -/
def closeCall (k count : ℕ) (reply : Option ℕ) (d : Chat) (w : VoiceDesk) : VoiceDesk :=
  let w := w.commit d
  let w := if reply.isSome then recordSegment k .ai agentIdentity w else w
  { w with
    calls := Function.update w.calls k none
    aiTurnCount := count + 1
    finished := w.finished ++ [k] }

/-- a call of turn `k` up to the commit before the Agent is called. -/
def startCall (now : Instant) (k : ℕ) (participant : String) (w : VoiceDesk) : VoiceDesk :=
  match existingVisitor w k with
  | some _ => w
  | none =>
    let v := w.chat.messages.next
    let heard := recordSegment k .visitor participant
      { w with clientTurn := Function.update w.clientTurn v (some k) }
    let d := openVoiceTurn now v (w.chat.addMessage ⟨.visitor, none, none⟩)
    let turn := (openTurnForMessage v d).map Prod.fst
    match prepare now v turn d with
    | .ended d => closeCall k w.aiTurnCount none d heard
    | .boundary d =>
      { heard.commit d with
        calls := Function.update w.calls k (some ⟨v, w.aiTurnCount, .generating turn⟩) }

/-- the opening reads after the commit. -/
def generateCall (now : Instant) (k : ℕ) (w : VoiceDesk) : VoiceDesk :=
  match w.calls k with
  | some ⟨v, count, .generating turn⟩ =>
    match generate now v turn w.chat with
    | .ended d => closeCall k count none d w
    | .boundary d =>
      { w with
        calls := Function.update w.calls k
          (some ⟨v, count, .replying (turn.bind fun t => turnAt t w.chat)⟩) }
  | _ => w

/-- a handoff that was committed meanwhile makes the attempt roll back and read its rows anew. -/
def restarts (turn : Option (ℕ × WebchatAITurn)) (d : Chat) : Bool :=
  turn.isSome && isAiSuspendedForHandoff d.conversation

/-- the end of a call; an exception rolls its second transaction back. -/
def finishCall (now : Instant) (k : ℕ) (outcome : AgentOutcome) (w : VoiceDesk) : VoiceDesk :=
  match w.calls k with
  | some ⟨v, count, .replying turn⟩ =>
    match finishReply now turn outcome w.chat with
    | (.done, d) =>
      let m := w.chat.messages.next
      let reply := if m < d.messages.next then some m else none
      closeCall k (if restarts turn w.chat then w.aiTurnCount else count) reply d w
    | _ => { w with calls := Function.update w.calls k none }
  | _ => w

/-- `start` is also the call of a turn that was sent before; `crash` is a call that is rolled back
after its first commit. -/
inductive VoiceStep where
  | chat (i : ChatStep)
  | start (now : Instant) (k : ℕ) (participant : String)
  | generate (now : Instant) (k : ℕ)
  | finish (now : Instant) (k : ℕ) (outcome : AgentOutcome)
  | crash (k : ℕ)
  | transcribe (authorized : Bool)

def voiceStep (c : ChatSettings) : VoiceStep → VoiceDesk → VoiceDesk
  | .chat i, w => { w with desk := i.apply c w.desk }
  | .start now k participant, w => startCall now k participant w
  | .generate now k, w => generateCall now k w
  | .finish now k outcome, w => finishCall now k outcome w
  | .crash k, w => { w with calls := Function.update w.calls k none }
  | .transcribe authorized, w => { w with transcribes := authorized }

end NexusHelpdesk.Voice
