import NexusHelpdesk.Handoff.Traffic

/-!
# Runs of the handoff services

Every service call is one transaction: it is committed, or rolled back if it raises.  Between two
of them the clock, the users and the tickets may change in any way.

* `Action`, `Action.perform`: the services of the desk;
* `Step`, `Step.run`: a committed service call, or a change of the surroundings;
* `Desk.run`: a run, step after step.
-/

namespace NexusHelpdesk.Handoff
open Lib

inductive Action where
  | requestHandoff (cid : ℕ)
  | requestWebchatHandoff (cid : ℕ) (ticketId : Option ℕ)
  | assignHandoffToAgent (rid uid : ℕ) (offer : Option ℕ)
  | acceptHandoffRequest (rid uid : ℕ)
  | declineHandoffRequest (rid uid : ℕ)
  | releaseHandoffRequest (rid uid : ℕ)
  | resumeAiForHandoff (rid uid : ℕ)
  | forceTakeoverTicket (tid uid : ℕ)
  | acceptVoiceOffer (sid uid : ℕ)
  | declineVoiceOffer (sid uid : ℕ)
  | releaseExpiredVoiceWrapUps (uid : Option ℕ) (limit : ℕ)
  | createPublicVoiceSession (cid : ℕ) (setup : CallSetup)
  | markTerminal (sid : ℕ) (e : CallEnd)
  | reconcileStaleTextHandoffs (agent : Option ℕ) (limit : ℕ)
  | closeConversation (cid uid : ℕ) (outcome : String)
  | visitorMessage (cid : ℕ) (body : String) (clientMessageId : Option String)
  | replyToConversation (cid uid : ℕ) (body : String) (allowed : String → Bool)

/-- `assign_handoff_to_agent` is called with the conversation of the request. -/
def assignRequest (rid uid : ℕ) (offer : Option ℕ) : Op Unit := do
  let r ← Txn.check (·.requestRow rid)
  assignHandoffToAgent rid r.conversationId uid offer

/-- the body of a service call, without its answer. -/
def Action.perform : Action → Op Unit
  | .requestHandoff cid => do
    let _ ← Handoff.requestHandoff cid
    pure ()
  | .requestWebchatHandoff cid ticketId => do
    let _ ← Handoff.requestWebchatHandoff cid ticketId
    pure ()
  | .assignHandoffToAgent rid uid offer => assignRequest rid uid offer
  | .acceptHandoffRequest rid uid => Handoff.acceptHandoffRequest rid uid
  | .declineHandoffRequest rid uid => Handoff.declineHandoffRequest rid uid
  | .releaseHandoffRequest rid uid => Handoff.releaseHandoffRequest rid uid
  | .resumeAiForHandoff rid uid => Handoff.resumeAiForHandoff rid uid
  | .forceTakeoverTicket tid uid => Handoff.forceTakeoverTicket tid uid
  | .acceptVoiceOffer sid uid => Handoff.acceptVoiceOffer sid uid
  | .declineVoiceOffer sid uid => Handoff.declineVoiceOffer sid uid
  | .releaseExpiredVoiceWrapUps uid limit => Handoff.releaseExpiredVoiceWrapUps uid limit
  | .createPublicVoiceSession cid setup => do
    let _ ← Handoff.createPublicVoiceSession cid setup
    pure ()
  | .markTerminal sid e => Handoff.markTerminal sid e
  | .reconcileStaleTextHandoffs agent limit => Handoff.reconcileStaleTextHandoffs agent limit
  | .closeConversation cid uid outcome => Handoff.closeConversation cid uid outcome
  | .visitorMessage cid body clientMessageId =>
    addVisitorMessageToConversation cid body clientMessageId
  | .replyToConversation cid uid body allowed => Handoff.replyToConversation cid uid body allowed

/-- what the handoff services find and do not govern. -/
structure Surroundings where
  now : Instant
  scopeCountry : Option String
  tenantAuthority : ℕ → ℕ → Ticket → Bool
  users : Table User
  tickets : Table Ticket

inductive Step where
  | act (a : Action)
  | surroundings (w : Surroundings)

def Step.run : Step → Desk → Desk
  | .act a, d => a.perform.commit d
  | .surroundings w, d =>
    { d with
      now := w.now
      scopeCountry := w.scopeCountry
      tenantAuthority := w.tenantAuthority
      users := w.users
      tickets := w.tickets }

def Desk.run (d : Desk) : List Step → Desk
  | [] => d
  | s :: steps => (s.run d).run steps

end NexusHelpdesk.Handoff
