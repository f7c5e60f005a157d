import NexusHelpdesk.Handoff.Traffic

/-!
# What routing leaves alone

Looking for an agent writes to the database: agent states and control rows are created, plans are
derived and moved on, offers are made and calls ring.  `Desk.core` forgets all of that, and every
function that only looks for agents fixes it.

* `Desk.core`: the desk without agent states, control rows, plans, offers and call statuses;
* `fixes_createNextVoiceOffer`, `fixes_eligibleTextRequestForAgent`, `fixes_expireVoiceOffers`, …:
  **routing keeps `Desk.core`**, and with it everything that is read off it.
-/

namespace NexusHelpdesk.Handoff
open Lib
open Txn (Keeps Fixes)

def Desk.core (d : Desk) : Desk :=
  { d with
    users := d.users.mapRows fun _ u => { u with agentState := none }
    conversations := d.conversations.mapRows fun _ c => { c with control := none }
    requests := d.requests.mapRows fun _ r => { r with plan := none }
    sessions := d.sessions.mapRows fun _ x => { x with status := .created }
    offers := Table.empty }

section Writes
variable (d : Desk)

lemma core_setAgentState (uid : ℕ) (st : AgentState) : (d.setAgentState uid st).core = d.core :=
  congrArg (fun t => { d.core with users := t })
    (Table.mapRows_modify d.users uid (fun u => { u with agentState := some st })
      (fun _ u => { u with agentState := none }) fun _ => rfl)

lemma core_setRequest (rid : ℕ) {f : HandoffRequest → HandoffRequest}
    (h : ∀ r, ({ f r with plan := none } : HandoffRequest) = { r with plan := none }) :
    (d.setRequest rid f).core = d.core :=
  congrArg (fun t => { d.core with requests := t }) (Table.mapRows_modify _ _ _ _ h)

lemma core_setSession (sid : ℕ) {f : VoiceSession → VoiceSession}
    (h : ∀ x, ({ f x with status := .created } : VoiceSession) = { x with status := .created }) :
    (d.setSession sid f).core = d.core :=
  congrArg (fun t => { d.core with sessions := t }) (Table.mapRows_modify _ _ _ _ h)

lemma core_setConversation (cid : ℕ) {f : Conversation → Conversation}
    (h : ∀ c, ({ f c with control := none } : Conversation) = { c with control := none }) :
    (d.setConversation cid f).core = d.core :=
  congrArg (fun t => { d.core with conversations := t }) (Table.mapRows_modify _ _ _ _ h)

lemma core_setPlan (rid : ℕ) (f : RoutingPlan → RoutingPlan) :
    (d.setPlan rid f).core = d.core := core_setRequest d rid fun _ => rfl

lemma core_offers (t : Table VoiceOffer) : ({ d with offers := t } : Desk).core = d.core := rfl

end Writes

/-! ## asking for an agent, under any view of the desk -/

section Views
variable {γ : Type} {v : Desk → γ}

lemma getOrCreateAgentState_fixes (h : ∀ d uid st, v (Desk.setAgentState d uid st) = v d)
    (uid : ℕ) : Fixes v (getOrCreateAgentState uid) := by
  unfold getOrCreateAgentState
  refine Fixes.bind Fixes.read fun row => ?_
  cases row with
  | some st => exact Fixes.pure
  | none =>
    refine Fixes.bind Fixes.read fun now => ?_
    exact Fixes.bind (Fixes.write fun d => h d uid _) fun _ => Fixes.pure

lemma ensureConversationControl_fixes
    (h : ∀ d cid (k : Conversation → Option ConversationControl),
      v (Desk.setConversation d cid fun c => { c with control := k c }) = v d)
    (cid : ℕ) : Fixes v (ensureConversationControl cid) := by
  unfold ensureConversationControl
  refine Fixes.bind Fixes.read fun country => Fixes.bind Fixes.read fun row => ?_
  cases row with
  | none => exact Fixes.raise
  | some c => exact Fixes.bind (Fixes.write fun d => h d cid fun c => some _) fun _ => Fixes.pure

lemma ensureHandoffRoutingPlan_fixes
    (h : ∀ d rid q, v (Desk.setRequest d rid fun r => { r with plan := q }) = v d) (rid : ℕ) :
    Fixes v (ensureHandoffRoutingPlan rid) := by
  unfold ensureHandoffRoutingPlan
  refine Fixes.bind Fixes.read fun row => ?_
  cases row with
  | none => exact Fixes.raise
  | some r =>
    refine Fixes.bind Fixes.check fun plan => ?_
    cases plan with
    | none => exact Fixes.pure
    | some p => exact Fixes.bind (Fixes.write fun d => h d rid _) fun _ => Fixes.pure

lemma activateDueGeneration_fixes (h : ∀ d rid f, v (Desk.setPlan d rid f) = v d) (rid : ℕ) :
    Fixes v (activateDueGeneration rid) := by
  unfold activateDueGeneration
  refine Fixes.bind Fixes.read fun now => Fixes.bind Fixes.read fun row => ?_
  cases row with
  | none => exact Fixes.pure
  | some p => exact Fixes.bind (Fixes.write fun d => h d rid _) fun _ => Fixes.pure

variable (hdue : ∀ rid, Fixes v (activateDueGeneration rid))
  (hplan : ∀ rid, Fixes v (ensureHandoffRoutingPlan rid))
include hdue

lemma candidateIsAuthorized_fixes (plan : Option ℕ) (control : ConversationControl) (uid : ℕ)
    (kind : ChannelKind) (b : Bool) :
    Fixes v (candidateIsAuthorized plan control uid kind b) := by
  unfold candidateIsAuthorized
  refine Fixes.bind Fixes.read fun u => Fixes.ite ?_ Fixes.pure
  cases plan with
  | none => exact Fixes.pure
  | some rid => exact Fixes.bind (hdue rid) fun active => Fixes.ite Fixes.read Fixes.pure

lemma candidateAuthorized_fixes (plan : Option ℕ) (control : ConversationControl) (uid : ℕ)
    (kind : ChannelKind) (b : Bool) :
    Fixes v (candidateAuthorized plan control uid kind b) := by
  cases plan with
  | none => exact Fixes.read
  | some rid => exact candidateIsAuthorized_fixes hdue (some rid) control uid kind b

lemma eligibleAgents_fixes (plan : Option ℕ) (control : ConversationControl) (kind : ChannelKind)
    (b : Bool) : Fixes v (eligibleAgents plan control kind b) := by
  unfold eligibleAgents
  refine Fixes.bind Fixes.read fun now => Fixes.bind Fixes.read fun rows => ?_
  refine Fixes.filter (fun x => ?_) rows
  exact Fixes.ite (candidateIsAuthorized_fixes hdue plan control x.1 kind true) Fixes.pure

include hplan in
lemma eligibleVoiceAgents_fixes (rid : ℕ) (control : ConversationControl) :
    Fixes v (eligibleVoiceAgents rid control) := by
  unfold eligibleVoiceAgents
  refine Fixes.ite ?_ Fixes.pure
  refine Fixes.bind (hplan rid) fun plan => ?_
  refine Fixes.bind (eligibleAgents_fixes hdue plan control .voice true) fun candidates => ?_
  refine Fixes.filter (fun x => ?_) candidates
  refine Fixes.bind Fixes.read fun prior => Fixes.ite Fixes.pure ?_
  refine Fixes.bind (candidateAuthorized_fixes hdue plan control x.1 .voice true) fun b => ?_
  exact Fixes.ite Fixes.read Fixes.pure

end Views

/-! ## bookkeeping -/

lemma fixes_getOrCreateAgentState (uid : ℕ) : Fixes Desk.core (getOrCreateAgentState uid) :=
  getOrCreateAgentState_fixes core_setAgentState uid

lemma fixes_ensureConversationControl (cid : ℕ) : Fixes Desk.core (ensureConversationControl cid) :=
  ensureConversationControl_fixes (fun d cid _ => core_setConversation d cid fun _ => rfl) cid

lemma fixes_ensureHandoffRoutingPlan (rid : ℕ) : Fixes Desk.core (ensureHandoffRoutingPlan rid) :=
  ensureHandoffRoutingPlan_fixes (fun d rid _ => core_setRequest d rid fun _ => rfl) rid

lemma fixes_activateDueGeneration (rid : ℕ) : Fixes Desk.core (activateDueGeneration rid) :=
  activateDueGeneration_fixes core_setPlan rid

lemma fixes_scheduleRetryOrExhaust (plan : Option ℕ) :
    Fixes Desk.core (scheduleRetryOrExhaust plan) := by
  cases plan with
  | none => exact Fixes.pure
  | some rid => exact Fixes.write fun d => core_setPlan d rid _

lemma fixes_markPlanAssigned (plan : Option ℕ) (uid : ℕ) :
    Fixes Desk.core (markPlanAssigned plan uid) := by
  cases plan with
  | none => exact Fixes.pure
  | some rid => exact Fixes.write fun d => core_setPlan d rid _

lemma fixes_closeRoutingPlan (rid : ℕ) : Fixes Desk.core (closeRoutingPlan rid) :=
  Fixes.write fun d => core_setPlan d rid _

lemma fixes_recordCandidateAttempt (plan : Option ℕ) (uid : ℕ) (kind : ChannelKind) :
    Fixes Desk.core (recordCandidateAttempt plan uid kind) := by
  cases plan with
  | none => exact Fixes.pure
  | some rid => exact Fixes.write fun d => core_setPlan d rid _

lemma fixes_candidateAuthorized (plan : Option ℕ) (control : ConversationControl) (uid : ℕ)
    (kind : ChannelKind) (b : Bool) :
    Fixes Desk.core (candidateAuthorized plan control uid kind b) :=
  candidateAuthorized_fixes fixes_activateDueGeneration plan control uid kind b

lemma fixes_eligibleAgents (plan : Option ℕ) (control : ConversationControl) (kind : ChannelKind)
    (b : Bool) : Fixes Desk.core (eligibleAgents plan control kind b) :=
  eligibleAgents_fixes fixes_activateDueGeneration plan control kind b

lemma fixes_eligibleVoiceAgents (rid : ℕ) (control : ConversationControl) :
    Fixes Desk.core (eligibleVoiceAgents rid control) :=
  eligibleVoiceAgents_fixes fixes_activateDueGeneration fixes_ensureHandoffRoutingPlan rid control

/-! ## offers -/

lemma fixes_insertOffer (sid rid uid : ℕ) (x : VoiceSession) :
    Fixes Desk.core (insertOffer sid rid uid x) := by
  unfold insertOffer
  refine Fixes.bind Fixes.read fun n => Fixes.ite Fixes.pure ?_
  refine Fixes.bind Fixes.read fun oid => ?_
  exact Fixes.bind (Fixes.write fun d => core_offers d _) fun _ => Fixes.pure

lemma fixes_ringCandidate (sid rid uid : ℕ) (x : VoiceSession) (plan : Option ℕ) :
    Fixes Desk.core (ringCandidate sid rid uid x plan) := by
  unfold ringCandidate
  refine Fixes.bind (fixes_insertOffer sid rid uid x) fun offer => ?_
  cases offer with
  | none => exact Fixes.bind Fixes.read fun _ => Fixes.pure
  | some oid =>
    refine Fixes.bind (fixes_recordCandidateAttempt plan uid .voice) fun _ => ?_
    refine Fixes.bind (Fixes.write fun d => ?_) fun _ => Fixes.pure
    exact core_setSession d sid fun _ => rfl

lemma fixes_createNextVoiceOffer (sid : ℕ) : Fixes Desk.core (createNextVoiceOffer sid) := by
  unfold createNextVoiceOffer
  refine Fixes.bind Fixes.read fun call => ?_
  rcases call with _ | ⟨x, rid, r⟩
  · exact Fixes.pure
  refine Fixes.bind (fixes_ensureHandoffRoutingPlan rid) fun plan => ?_
  refine Fixes.bind Fixes.read fun ringing => ?_
  rcases ringing with _ | ⟨oid, o⟩
  · refine Fixes.bind Fixes.read fun isOpen => Fixes.ite ?_ Fixes.pure
    refine Fixes.bind (fixes_ensureConversationControl _) fun control => ?_
    refine Fixes.bind (fixes_eligibleVoiceAgents rid control) fun candidates => ?_
    rcases candidates with _ | ⟨⟨uid, st⟩, rest⟩
    · exact Fixes.bind (fixes_scheduleRetryOrExhaust plan) fun _ => Fixes.pure
    · exact fixes_ringCandidate sid rid uid x plan
  · exact Fixes.pure

lemma Primitives.fixes_createNextVoiceOffer (sid : ℕ) :
    Fixes Desk.core (Primitives.createNextVoiceOffer sid) := by
  unfold Primitives.createNextVoiceOffer
  refine Fixes.bind Fixes.read fun call => ?_
  rcases call with _ | ⟨x, rid, r⟩
  · exact Fixes.pure
  refine Fixes.bind Fixes.read fun ringing => ?_
  rcases ringing with _ | ⟨oid, o⟩
  · refine Fixes.bind Fixes.read fun isOpen => Fixes.ite ?_ Fixes.pure
    refine Fixes.bind (fixes_ensureConversationControl _) fun control => ?_
    refine Fixes.bind Fixes.read fun candidates => ?_
    rcases candidates with _ | ⟨⟨uid, st⟩, rest⟩
    · exact Fixes.pure
    · refine Fixes.bind (fixes_insertOffer sid rid uid x) fun offer => ?_
      cases offer with
      | none => exact Fixes.bind Fixes.read fun _ => Fixes.pure
      | some oid =>
        refine Fixes.bind (Fixes.write fun d => ?_) fun _ => Fixes.pure
        exact core_setSession d sid fun _ => rfl
  · exact Fixes.pure

section Shared
variable {ops : RoutingOps} (hnext : ∀ sid, Fixes Desk.core (ops.createNextVoiceOffer sid))
include hnext

lemma fixes_retireOffers (offers : List (ℕ × VoiceOffer)) (status : OfferStatus) :
    Fixes Desk.core (retireOffers ops offers status) := by
  unfold retireOffers
  refine Fixes.bind (Fixes.write fun d => core_offers d _) fun _ => ?_
  exact Fixes.each (fun sid => Fixes.bind (hnext sid) fun _ => Fixes.pure) _

lemma fixes_expireVoiceOffersWith (uid sid : Option ℕ) (limit : ℕ) :
    Fixes Desk.core (expireVoiceOffersWith ops uid sid limit) :=
  Fixes.bind Fixes.read fun offers => fixes_retireOffers hnext offers .expired

lemma fixes_offerWaitingCalls : Fixes Desk.core (offerWaitingCalls ops) :=
  Fixes.bind Fixes.read fun rows =>
    Fixes.each (fun sid => Fixes.bind (hnext sid) fun _ => Fixes.pure) rows

end Shared

lemma fixes_scanTextQueue (uid : ℕ) (rows : List (ℕ × HandoffRequest)) :
    Fixes Desk.core (scanTextQueue uid rows) := by
  induction rows with
  | nil => exact Fixes.pure
  | cons row rows ih =>
    obtain ⟨rid, r⟩ := row
    refine Fixes.bind Fixes.read fun control => ?_
    cases control with
    | none => exact ih
    | some k =>
      refine Fixes.bind (fixes_ensureHandoffRoutingPlan rid) fun plan => ?_
      refine Fixes.bind (fixes_candidateAuthorized plan k uid .text true) fun b => ?_
      exact Fixes.ite Fixes.pure ih

lemma fixes_eligibleTextRequestForAgent (uid : ℕ) :
    Fixes Desk.core (eligibleTextRequestForAgent uid) :=
  Fixes.bind Fixes.read fun rows => fixes_scanTextQueue uid rows

lemma fixes_scopeGrantExists (uid cid : ℕ) (control : ConversationControl) :
    Fixes Desk.core (scopeGrantExists uid cid control) := by
  unfold scopeGrantExists
  refine Fixes.bind Fixes.read fun request => ?_
  rcases request with _ | ⟨rid, r⟩
  · exact fixes_candidateAuthorized none control uid .text false
  · refine Fixes.bind (fixes_ensureHandoffRoutingPlan rid) fun plan => ?_
    exact fixes_candidateAuthorized plan control uid .text false

lemma fixes_wrapUpSeconds (agent : Option ℕ) (e : CallEnd) :
    Fixes Desk.core (wrapUpSeconds agent e) := by
  cases agent with
  | none => exact Fixes.pure
  | some uid =>
    refine Fixes.ite ?_ Fixes.pure
    exact Fixes.bind (fixes_getOrCreateAgentState uid) fun st => Fixes.pure

section Assignments
variable {I : Desk → Prop} {rid cid uid : ℕ} {offer : Option ℕ}
  (hI : ∀ {α : Type} {m : Op α}, Fixes Desk.core m → Keeps I m)
include hI

lemma Primitives.assignHandoffToAgent_keeps
    (haccept : ∀ d st call, I d → d.assignable rid cid uid st offer = .ok call →
      I (d.acceptHandoff rid cid uid call)) :
    Keeps I (Primitives.assignHandoffToAgent rid cid uid offer) := by
  unfold Primitives.assignHandoffToAgent
  refine Keeps.bind (hI (fixes_getOrCreateAgentState uid)) fun st => ?_
  refine Keeps.bind Keeps.read fun now => ?_
  refine Keeps.bind Keeps.refuseUnless fun _ => ?_
  refine Keeps.bind (hI (fixes_ensureConversationControl cid)) fun control => ?_
  refine Keeps.bind Keeps.read fun u => ?_
  refine Keeps.bind Keeps.refuseUnless fun _ => ?_
  exact Keeps.check_bind fun call d hd hcall => haccept d st call hd hcall

lemma assignHandoffToAgent_keeps
    (haccept : ∀ d st call, I d → d.assignable rid cid uid st offer = .ok call →
      I (d.acceptHandoff rid cid uid call)) :
    Keeps I (assignHandoffToAgent rid cid uid offer) := by
  unfold assignHandoffToAgent
  refine Keeps.bind (hI (fixes_ensureConversationControl cid)) fun control => ?_
  refine Keeps.bind Keeps.read fun session => ?_
  refine Keeps.bind (hI (fixes_ensureHandoffRoutingPlan rid)) fun plan => ?_
  refine Keeps.bind (hI (fixes_candidateAuthorized plan control uid _ false)) fun authorized => ?_
  refine Keeps.bind Keeps.refuseUnless fun _ => ?_
  refine Keeps.bind (Primitives.assignHandoffToAgent_keeps hI haccept) fun _ => ?_
  refine Keeps.bind (hI (fixes_recordCandidateAttempt plan uid _)) fun _ => ?_
  exact hI (fixes_markPlanAssigned plan uid)

variable (hassign : ∀ uid, Keeps I (assignHandoffToAgent rid cid uid none))
include hassign

lemma assignFirst_keeps (plan : Option ℕ) (control : ConversationControl)
    (candidates : List (ℕ × AgentState)) :
    Keeps I (assignFirst rid cid plan control candidates) := by
  induction candidates with
  | nil => exact Keeps.pure
  | cons candidate rest ih =>
    obtain ⟨uid, st⟩ := candidate
    refine Keeps.bind (hI (fixes_candidateAuthorized plan control uid .text true))
      fun authorized => ?_
    refine Keeps.bind Keeps.read fun waiting => Keeps.bind Keeps.read fun load => ?_
    refine Keeps.ite ih (Keeps.ite Keeps.pure (Keeps.ite ih ?_))
    exact Keeps.bind (hassign uid) fun _ => Keeps.pure

lemma autoAssignTextRequest_keeps (control : ConversationControl) :
    Keeps I (autoAssignTextRequest rid cid control) := by
  unfold autoAssignTextRequest
  refine Keeps.bind (hI (fixes_ensureHandoffRoutingPlan rid)) fun plan => ?_
  refine Keeps.bind (hI (fixes_eligibleAgents plan control .text false)) fun candidates => ?_
  refine Keeps.bind (assignFirst_keeps hI hassign plan control candidates) fun settled => ?_
  exact Keeps.when (hI (fixes_scheduleRetryOrExhaust plan))

end Assignments

end NexusHelpdesk.Handoff
