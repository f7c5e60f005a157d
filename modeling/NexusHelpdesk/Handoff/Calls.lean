import NexusHelpdesk.Handoff.Requests

/-!
# Voice sessions

The part of `voice_session_service.py` that starts and ends a call.

* `createPublicVoiceSession`: the customer opens a call; its handoff is requested at once, or
  later by the AI that answers first;
* `markTerminal`: the call ends, and the agent who had it gets time for after-call work;
* `closeHandoffForTerminalSession`: without after-call work the handoff ends with the call.
-/

namespace NexusHelpdesk.Handoff
open Lib

/-! ## the end of a call -/

/-- `TERMINAL_STATUSES`. -/
inductive CallEnd where
  | ended | missed | failed | cancelled
deriving DecidableEq, Repr

def CallEnd.status : CallEnd → SessionStatus
  | .ended => .ended
  | .missed => .missed
  | .failed => .failed
  | .cancelled => .cancelled

/-- `_assigned_agent_id`: the agent of an accepted handoff. -/
def Desk.assignedAgent (d : Desk) (x : VoiceSession) : Option ℕ :=
  match d.linkedRequest x with
  | none => none
  | some (_, r) => if r.status = .accepted then r.assignedAgentId else none

def Desk.closeCallRequest (d : Desk) (x : VoiceSession) : Desk :=
  match d.linkedRequest x with
  | none => d
  | some (rid, r) =>
    if r.status.isOpen then
      (d.setRequest rid fun r => { r with status := .closed, updatedAt := d.now }
        ).cancelOffersOfRequest rid
    else d

/-- `_close_handoff_for_terminal_session`: the snapshot is closed whatever it showed. -/
def Desk.closeHandoffForTerminalSession (d : Desk) (x : VoiceSession) : Desk :=
  let previous := (d.linkedRequest x).bind (·.2.assignedAgentId)
  (d.closeCallRequest x).setConversation x.conversationId fun c =>
    { c.snapshot none .closed
        (if previous = none ∨ c.activeAgentId = previous then none else c.activeAgentId) with
      aiSuspended := true }

/-- the after-call work of the agent, in seconds; none unless the call ended regularly. -/
def wrapUpSeconds (agent : Option ℕ) (e : CallEnd) : Op ℕ :=
  match agent with
  | none => pure 0
  | some uid =>
    if e = .ended then do
      let st ← getOrCreateAgentState uid
      pure st.voiceWrapUpSeconds
    else pure 0

/-- the session after its end: a regular end of an accepted call sets or clears the wrap-up. -/
def Desk.endSession (d : Desk) (sid : ℕ) (agent : Option ℕ) (e : CallEnd) (wrapUp : ℕ) : Desk :=
  d.setSession sid fun x =>
    { x with
      status := e.status
      wrapUpExpiresAt :=
        if agent.isSome ∧ e = .ended then
          if 0 < wrapUp then some (d.now + seconds wrapUp) else none
        else x.wrapUpExpiresAt }

def markTerminal (sid : ℕ) (e : CallEnd) : Op Unit := do
  let row ← Txn.read (·.sessions.get? sid)
  match row with
  | none => Txn.raise (.http 404 "webchat voice session not found")
  | some x => Txn.when x.status.isOpen do
    let agent ← Txn.read (·.assignedAgent x)
    let wrapUp ← wrapUpSeconds agent e
    Txn.write (·.endSession sid agent e wrapUp)
    Txn.when (wrapUp = 0) (Txn.write (·.closeHandoffForTerminalSession x))

/-! ## the start of a call -/

/-- `_expire_session_if_needed`: nobody answered in time. -/
def expireSessionIfNeeded (sid : ℕ) (x : VoiceSession) : Op Bool := do
  let now ← Txn.read (·.now)
  if (x.status = .created ∨ x.status = .ringing) ∧ x.expiresAt.any (· ≤ now) then do
    markTerminal sid .missed
    pure true
  else pure false

/-- how the voice channel of the conversation is set up. -/
structure CallSetup where
  aiFirst : Bool
  sessionTtlSeconds : ℕ
  offerTimeoutSeconds : Option ℕ

/-- the new call: ringing for a human with its handoff requested, or answered by the AI. -/
def openVoiceSession (cid : ℕ) (setup : CallSetup) : Op ℕ := do
  let sid ← Txn.read (·.sessions.next)
  Txn.write fun d => { d with
    sessions := d.sessions.insert
      { conversationId := cid
        handoffRequestId := none
        status := if setup.aiFirst then .active else .ringing
        expiresAt := some (d.now + seconds setup.sessionTtlSeconds)
        wrapUpExpiresAt := none
        offerTimeoutSeconds := setup.offerTimeoutSeconds } }
  if setup.aiFirst then pure sid
  else do
    let rid ← requestHandoff cid
    Txn.write (·.setSession sid fun x => { x with handoffRequestId := some rid })
    pure sid

/-- the conversation of a public call, with a country in its control row. -/
def Desk.callable (d : Desk) (cid : ℕ) : Except Refusal Unit :=
  match d.conversations.get? cid with
  | none => .error (.http 404 "webchat conversation not found")
  | some c =>
    if c.control.any (·.hasCountry) then .ok ()
    else .error (.http 409 "conversation_scope_unavailable")

/-- `create_public_voice_session`: a call that is still open is joined again. -/
def createPublicVoiceSession (cid : ℕ) (setup : CallSetup) : Op ℕ := do
  Txn.check (·.callable cid)
  let existing ← Txn.read (·.voiceSession cid)
  match existing with
  | none => openVoiceSession cid setup
  | some (sid, x) => do
    let expired ← expireSessionIfNeeded sid x
    if expired then openVoiceSession cid setup else pure sid

end NexusHelpdesk.Handoff
