import NexusHelpdesk.Lib.Except
import NexusHelpdesk.Lib.UnitOfWork
import NexusHelpdesk.Outbound.Message

/-!
# One attempt at an outbound message

`process_outbound_message` of `message_dispatch.py` with everything it calls, over the worker's
session.

* `Session`: the three views of the outbox database, and whether a failed flush has left the
  session unusable (SQLAlchemy then refuses every statement until a rollback);
* `Env`: the settings, the two adapters and the contract checks, all arbitrary;
* `Session.flush`: sends the pending assignments; the `before_update` listener of the message row
  (`validate_persisted_ai_payload_binding`) may refuse them;
* `logEvent`: adds an event and flushes (`audit_service.py`);
* `processOutboundMessage`: the attempt.

`processOutboundMessage_settles`: **an attempt that returns has settled the row in the view the
worker's own transaction reads**, and has published nothing.
-/

namespace NexusHelpdesk.Outbound
open Lib

structure OutboxDb where
  messages : Table OutboundMessage
  tickets : Table OutboundTicket
  events : Table TicketEvent

structure Session where
  work : UnitOfWork OutboxDb
  broken : Bool

structure Settings where
  enableOutboundDispatch : Bool
  outboundProvider : String
  outboundEmailProductionPilotEnabled : Bool
  allowLegacyOriginlessOutbound : Bool
  outboxLockSeconds : ℕ
  outboxBatchSize : ℕ

/-- what `evaluate_customer_visible_policy` decides about a body. -/
structure PolicyDecision where
  allowed : Bool
  level : String
  reasons : List String
  normalizedBody : String

/-- everything an attempt depends on besides the database. -/
structure Env where
  settings : Settings
  whatsapp : OutboundMessage → Option OutboundTicket → AdapterCall
  email : OutboundMessage → Option OutboundTicket → AdapterCall
  /-- `evaluate_customer_visible_policy`. -/
  policy : String → PolicyDecision
  /-- `validate_contract_payload_hash` on the row's payload. -/
  payloadHashViolation : OutboundMessage → Option String
  /-- the reply type the row's contract payload names, if it has one. -/
  payloadReplyType : OutboundMessage → Option String
  /-- `validate_ai_reply_contract` on the row's payload; signing may raise. -/
  contractViolation : OutboundMessage → Except PyException (Option String)
  /-- `validate_persisted_ai_payload_binding`, run before a changed row is sent. -/
  bindingViolation : OutboundMessage → Option String

namespace Session

def start (db : OutboxDb) : Session := ⟨UnitOfWork.start db, false⟩

def rollback (s : Session) : Session := ⟨s.work.rollback, false⟩

def assignMessage (s : Session) (id : ℕ) (f : OutboundMessage → OutboundMessage) : Session :=
  { s with work := s.work.assign fun db => { db with messages := db.messages.modify id f } }

def assignTicket (s : Session) (id : ℕ) (f : OutboundTicket → OutboundTicket) : Session :=
  { s with work := s.work.assign fun db => { db with tickets := db.tickets.modify id f } }

/-- the objection of the write listener to the rows a flush would send. -/
def writeViolation (env : Env) (s : Session) : Option String :=
  s.work.pending.messages.rows.findSome? fun r =>
    if s.work.flushed.messages.get? r.1 = some r.2 then none else env.bindingViolation r.2

def flush (env : Env) (s : Session) : Except PyException Session :=
  if s.broken then .error (.other "PendingRollbackError")
  else match writeViolation env s with
    | some code => .error (.valueError code)
    | none => .ok { s with work := s.work.flush }

def commit (env : Env) (s : Session) : Except PyException Session := do
  let s ← s.flush env
  return { s with work := s.work.commit }

end Session

/-- `log_event`: the payload is serialised, the event is added, the session is flushed. -/
def logEvent (env : Env) (s : Session) (m : OutboundMessage) (eventType : EventType)
    (note : String) (payloadOk : Bool) : Except PyException Session :=
  if !payloadOk then .error (.other "TypeError")
  else
    let event : TicketEvent := ⟨m.ticketId, m.createdBy, eventType, note⟩
    let added := s.work.assign fun db => { db with events := db.events.insert event }
    Session.flush env { s with work := added }

/-- the row under `id` is marked by `mark` and the event of that outcome is logged. -/
def markAndLog (env : Env) (s : Session) (id : ℕ) (m : OutboundMessage)
    (mark : OutboundMessage → OutboundMessage) (eventType : EventType) (note : String)
    (payloadOk : Bool) : Except PyException Session :=
  logEvent env (s.assignMessage id mark) m eventType note payloadOk

/-! ## gates before the provider call -/

def allowedOutboundProviders : List String := ["native", "smtp", "email"]

/-- `_external_dispatch_block_reason`: failure code and reason. -/
def externalDispatchBlockReason (c : Settings) : Option (String × String) :=
  if !c.enableOutboundDispatch then
    some ("outbound_dispatch_disabled", "ENABLE_OUTBOUND_DISPATCH=false blocks external dispatch")
  else if c.outboundProvider = "disabled" then
    some ("outbound_provider_disabled", "OUTBOUND_PROVIDER=disabled blocks external dispatch")
  else if c.outboundProvider ∉ allowedOutboundProviders then
    some ("unsupported_outbound_provider",
      "Unsupported OUTBOUND_PROVIDER: " ++ c.outboundProvider)
  else none

def aiOrigins : List String := ["provider_runtime", "ai_runtime"]
def humanOrigin : String := "human_agent"
def forbiddenCustomerVisibleOrigins : List String :=
  ["business_system", "tool_service", "knowledge_runtime", "safety_service"]
def humanReplyStates : List ConversationState := [.humanOwned, .readyToReply]

def normalizeCustomerVisibleOrigin (origin : Option String) (createdBy : Option ℕ) : String :=
  let cleaned := PyStr.lower (PyStr.strip (origin.getD ""))
  if cleaned ≠ "" then cleaned
  else if createdBy.isSome then humanOrigin else "business_system"

/-- `_enforce_customer_visible_origin`: `ok` when the origin may speak to the customer. -/
def enforceCustomerVisibleOrigin (env : Env) (m : OutboundMessage) (origin : String)
    (ticket : Option OutboundTicket) : Except PyException Unit := do
  if origin ∈ forbiddenCustomerVisibleOrigins then
    throw (.valueError (origin ++ "_cannot_queue_customer_visible_text"))
  if origin ∈ aiOrigins then
    if (ticket.bind (·.conversationState)).any (· ∈ humanReplyStates) then
      throw (.valueError "human_active_blocks_ai_autoreply")
    if let some code := env.payloadHashViolation m then
      throw (.valueError code)
    if m.runtimeReplyType = some "null_reply" ∨ env.payloadReplyType m = some "null_reply" then
      throw (.valueError "ai_reply_null_reply_not_customer_visible")
    if let some code ← env.contractViolation m then
      throw (.valueError code)
  else if origin = humanOrigin then
    if m.createdBy.isNone then throw (.valueError "human_agent_origin_requires_actor")
    if ticket.bind (·.conversationState) = some .aiActive then
      throw (.valueError "human_agent_reply_requires_handoff_or_takeover")
  else throw (.valueError "unsupported_customer_visible_origin")

def originContract (env : Env) (m : OutboundMessage) (ticket : Option OutboundTicket) :
    Except PyException Unit :=
  let hasContract :=
    PyStr.truthy m.origin || PyStr.truthy m.runtimeContractVersion || m.createdBy.isSome
  if !hasContract && !env.settings.allowLegacyOriginlessOutbound then
    .error (.valueError "missing_customer_visible_origin_contract")
  else if hasContract then
    enforceCustomerVisibleOrigin env m (normalizeCustomerVisibleOrigin m.origin m.createdBy) ticket
  else .ok ()

def formatPolicyReasons (d : PolicyDecision) : String :=
  if d.reasons = [] then d.level else "; ".intercalate d.reasons

/-- how the content policy leaves the attempt: blocked with an outcome, or allowed to go on. -/
inductive PolicyStep where
  | blocked (s : Session)
  | allowed (s : Session)

def enforceCustomerVisiblePolicy (env : Env) (now : Instant) (s : Session) (id : ℕ)
    (m : OutboundMessage) : Except PyException PolicyStep := do
  let decision := env.policy m.body
  if !decision.allowed then
    let mark := markDead now (formatPolicyReasons decision) "customer_visible_policy_blocked"
    return .blocked (← markAndLog env s id m mark .outboundFailed
      "Customer-visible content policy blocked outbound message" true)
  let origin := normalizeCustomerVisibleOrigin m.origin m.createdBy
  if origin ∈ aiOrigins ∧ PyStr.truthy m.runtimeSignature then
    if decision.normalizedBody ≠ m.body then
      let mark := markDead now "Signed AI outbound body changed after runtime signature"
        "runtime_signed_body_mutation"
      return .blocked (← markAndLog env s id m mark .outboundFailed
        "Signed AI outbound body mutation blocked" true)
    return .allowed s
  return .allowed (s.assignMessage id fun m => { m with body := decision.normalizedBody })

/-! ## the result of the provider call -/

/-- the event type of a retry: the last one is a death. -/
def retryEventType (m : OutboundMessage) : EventType :=
  if m.status = .dead then .outboundDead else .outboundRetryScheduled

def handleDispatchResult (env : Env) (now : Instant) (s : Session) (id : ℕ)
    (m : OutboundMessage) (result : DispatchResult) : Except PyException Session :=
  let route := result.routeContext
  if result.statusValue = .sent then
    let transport := PyStr.strip (route.transport.getD "")
    let receipt :=
      if transport ≠ "" then "whatsapp_" ++ transport
      else (PyStr.orElse route.adapter none).getD "provider"
    let providerMessageId := PyStr.strip (route.providerMessageId.getD "")
    let mark := markSent now result.providerStatus result.sentAt
      (if providerMessageId = "" then none else some providerMessageId) (some receipt)
    let s := s.assignTicket m.ticketId fun t =>
      { t with conversationState := t.conversationState.map fun _ => .waitingCustomer }
    markAndLog env s id m mark .outboundSent "Queued outbound message sent" route.jsonSafe
  else
    let reason :=
      if PyStr.truthy route.error then route.error.getD ""
      else (PyStr.orElse result.providerStatus none).getD "Dispatch failed"
    if route.retryable = some false then
      let mark := markDead now reason (route.failureCode.getD "non_retryable_dispatch_error")
      markAndLog env s id m mark .outboundDead
        "Queued outbound message failed dispatch with non-retryable error" route.jsonSafe
    else
      let mark := markRetry now reason route.failureCode
      markAndLog env s id m mark (retryEventType (mark m))
        "Queued outbound message failed dispatch" route.jsonSafe

/-- `_dispatch_email_message`: a `ValueError` on the way becomes a failed result. -/
def dispatchEmailMessage (env : Env) (s : Session) (id : ℕ) (m : OutboundMessage)
    (ticket : Option OutboundTicket) : Except PyException (Session × DispatchResult) :=
  let failed (code : String) : DispatchResult :=
    ⟨.failed, some code, none,
      { adapter := some "smtp", failureCode := some code, error := some code }⟩
  let s := s.assignMessage id (ensureOutboundMailboxIdentity id)
  match s.flush env with
  | .error (.valueError code) => .ok ({ s with broken := true }, failed code)
  | .error e => .error e
  | .ok s =>
    let call := env.email (ensureOutboundMailboxIdentity id m) ticket
    let s := { s with broken := call.sessionBroken }
    match call.outcome with
    | .ok result => .ok (s, result)
    | .error (.valueError code) => .ok (s, failed code)
    | .error e => .error e

def dispatchWhatsappMessage (env : Env) (s : Session) (m : OutboundMessage)
    (ticket : Option OutboundTicket) : Except PyException (Session × DispatchResult) :=
  let call := env.whatsapp m ticket
  call.outcome.map fun result => ({ s with broken := call.sessionBroken }, result)

def unsupportedChannelResult (channel : SourceChannel) : DispatchResult :=
  ⟨.failed, some "unsupported_delivery_channel", none,
    { adapter := some "unsupported_delivery_channel"
      failureCode := some "unsupported_delivery_channel"
      error := some ("No native dispatcher is configured for channel " ++ channelValue channel)
      retryable := some false }⟩

/-- the address a channel without a native dispatcher would send to. -/
def target (ticket : Option OutboundTicket) : Option String :=
  ticket.bind fun t =>
    PyStr.orElse (PyStr.orElse t.sourceChatId t.preferredReplyContact) t.customerPhone

def dispatchByChannel (env : Env) (now : Instant) (s : Session) (id : ℕ) (m : OutboundMessage)
    (ticket : Option OutboundTicket) : Except PyException Session :=
  match m.channel with
  | .whatsapp => do
    let (s, result) ← dispatchWhatsappMessage env s m ticket
    handleDispatchResult env now s id m result
  | .email => do
    let (s, result) ← dispatchEmailMessage env s id m ticket
    handleDispatchResult env now s id m result
  | channel =>
    if PyStr.truthy (target ticket) then
      handleDispatchResult env now s id m (unsupportedChannelResult channel)
    else
      let mark := markRetry now "No target address available" none
      markAndLog env s id m mark (retryEventType (mark m))
        "Queued outbound message could not resolve target" true

/-- `process_outbound_message` on the loaded row `m` under `id`. -/
def processOutboundMessage (env : Env) (now : Instant) (s : Session) (id : ℕ)
    (m : OutboundMessage) : Except PyException Session :=
  if m.status = .sent then .ok s
  else if !isExternalOutboundMessage m then
    let mark := markDead now "Non-external outbound row is not eligible for provider dispatch"
      "non_external_outbound_not_dispatchable"
    markAndLog env s id m mark .outboundDead
      "Non-external outbound row was blocked from provider dispatch" true
  else
    let ticket := s.work.pending.tickets.get? m.ticketId
    match originContract env m ticket with
    | .error (.valueError reason) =>
      markAndLog env s id m (markOriginBlocked now reason) .outboundDead
        "Customer-visible outbound origin contract blocked dispatch" true
    | .error e => .error e
    | .ok () =>
      match externalDispatchBlockReason env.settings with
      | some (failureCode, reason) =>
        markAndLog env s id m (markDead now reason failureCode) .outboundDead
          "External outbound dispatch blocked by runtime kill switch" true
      | none => do
        match ← enforceCustomerVisiblePolicy env now s id m with
        | .blocked s => return s
        | .allowed s =>
          let m := (s.work.pending.messages.get? id).getD m
          dispatchByChannel env now s id m ticket

/-! ## what an attempt leaves -/

/-- `s'` has published nothing since `s`, has nothing unsent, and the row under `id` is settled in
the view its own queries read. -/
def SettlesRow (id : ℕ) (s s' : Session) : Prop :=
  s'.work.committed = s.work.committed ∧ s'.work.flushed = s'.work.pending ∧
    ∃ m, s'.work.flushed.messages.get? id = some m ∧ Settled m

variable {s s' : Session} {id : ℕ} {m m₀ : OutboundMessage} {env : Env} {now : Instant}
  {result : DispatchResult} {ticket : Option OutboundTicket} {et : EventType} {note : String}
  {ok : Bool}

lemma Session.get?_assignMessage
    (hm : s.work.pending.messages.get? id = some m) (f : OutboundMessage → OutboundMessage) :
    (s.assignMessage id f).work.pending.messages.get? id = some (f m) := by
  change (s.work.pending.messages.modify id f).get? id = _
  rw [Table.get?_modify_self, hm]
  rfl

lemma flush_ok (h : s.flush env = .ok s') :
    s' = { s with work := s.work.flush } := by
  unfold Session.flush at h
  split at h
  · cases h
  · split at h
    · cases h
    · cases h
      rfl

lemma logEvent_ok (h : logEvent env s m et note ok = .ok s') :
    s'.work.committed = s.work.committed ∧ s'.work.flushed = s'.work.pending ∧
      s'.work.pending.messages = s.work.pending.messages := by
  unfold logEvent at h
  split at h
  · cases h
  · rw [flush_ok h]
    exact ⟨rfl, rfl, rfl⟩

section
variable (hm : s.work.pending.messages.get? id = some m₀)
include hm

lemma markAndLog_settles {mark : OutboundMessage → OutboundMessage} (hmark : ∀ x, Settled (mark x))
    (h : markAndLog env s id m mark et note ok = .ok s') : SettlesRow id s s' := by
  obtain ⟨hc, hf, hp⟩ := logEvent_ok h
  refine ⟨hc, hf, mark m₀, ?_, hmark m₀⟩
  rw [hf, hp]
  exact Session.get?_assignMessage hm mark

lemma handleDispatchResult_settles (h : handleDispatchResult env now s id m result = .ok s') :
    SettlesRow id s s' := by
  unfold handleDispatchResult at h
  simp only at h
  split at h
  · exact markAndLog_settles (s := s.assignTicket _ _) hm (settled_markSent _ _ _ _ _) h
  · split at h
    · exact markAndLog_settles hm (settled_markDead _ _ _) h
    · exact markAndLog_settles hm (settled_markRetry _ _ _) h

lemma dispatchEmailMessage_ok (h : dispatchEmailMessage env s id m ticket = .ok (s', result)) :
    s'.work.committed = s.work.committed ∧
      ∃ m₁, s'.work.pending.messages.get? id = some m₁ := by
  have hrow := Session.get?_assignMessage hm (ensureOutboundMailboxIdentity id)
  unfold dispatchEmailMessage at h
  simp only at h
  split at h
  · cases h
    exact ⟨rfl, _, hrow⟩
  · cases h
  · rename_i s₁ hs₁
    rw [flush_ok hs₁] at h
    split at h
    · cases h
      exact ⟨rfl, _, hrow⟩
    · cases h
      exact ⟨rfl, _, hrow⟩
    · cases h

end

lemma dispatchWhatsappMessage_ok
    (h : dispatchWhatsappMessage env s m ticket = .ok (s', result)) : s'.work = s.work := by
  unfold dispatchWhatsappMessage at h
  simp only at h
  cases hc : (env.whatsapp m ticket).outcome with
  | error e =>
    rw [hc] at h
    cases h
  | ok r =>
    rw [hc] at h
    cases h
    rfl

section
variable (hm : s.work.pending.messages.get? id = some m₀)
include hm

lemma dispatchByChannel_settles (h : dispatchByChannel env now s id m ticket = .ok s') :
    SettlesRow id s s' := by
  unfold dispatchByChannel at h
  split at h
  · cases hw : dispatchWhatsappMessage env s m ticket with
    | error e =>
      rw [hw] at h
      cases h
    | ok r =>
      rw [hw] at h
      have hwork := dispatchWhatsappMessage_ok hw
      obtain ⟨hc, hf, hr⟩ := handleDispatchResult_settles (by rw [hwork]; exact hm) h
      exact ⟨by rw [hc, hwork], hf, hr⟩
  · cases he : dispatchEmailMessage env s id m ticket with
    | error e =>
      rw [he] at h
      cases h
    | ok r =>
      rw [he] at h
      obtain ⟨hwork, m₁, hm₁⟩ := dispatchEmailMessage_ok hm he
      obtain ⟨hc, hf, hr⟩ := handleDispatchResult_settles hm₁ h
      exact ⟨hc.trans hwork, hf, hr⟩
  · split at h
    · exact handleDispatchResult_settles hm h
    · exact markAndLog_settles hm (settled_markRetry _ _ _) h

lemma enforceCustomerVisiblePolicy_blocked
    (h : enforceCustomerVisiblePolicy env now s id m = .ok (.blocked s')) :
    SettlesRow id s s' := by
  unfold enforceCustomerVisiblePolicy at h
  simp only at h
  split at h
  · obtain ⟨s₁, hs₁, he⟩ := bind_eq_ok.1 h
    cases he
    exact markAndLog_settles hm (settled_markDead _ _ _) hs₁
  · split at h
    · split at h
      · obtain ⟨s₁, hs₁, he⟩ := bind_eq_ok.1 h
        cases he
        exact markAndLog_settles hm (settled_markDead _ _ _) hs₁
      · cases h
    · cases h

lemma enforceCustomerVisiblePolicy_allowed
    (h : enforceCustomerVisiblePolicy env now s id m = .ok (.allowed s')) :
    s'.work.committed = s.work.committed ∧
      ∃ m₁, s'.work.pending.messages.get? id = some m₁ := by
  unfold enforceCustomerVisiblePolicy at h
  simp only at h
  split at h
  · obtain ⟨s₁, -, he⟩ := bind_eq_ok.1 h
    cases he
  · split at h
    · split at h
      · obtain ⟨s₁, -, he⟩ := bind_eq_ok.1 h
        cases he
      · cases h
        exact ⟨rfl, m₀, hm⟩
    · cases h
      exact ⟨rfl, _, Session.get?_assignMessage hm _⟩

theorem processOutboundMessage_settles (hsent : m.status ≠ .sent)
    (h : processOutboundMessage env now s id m = .ok s') :
    SettlesRow id s s' := by
  unfold processOutboundMessage at h
  rw [if_neg hsent] at h
  simp only at h
  split at h
  · exact markAndLog_settles hm (settled_markDead _ _ _) h
  · split at h
    · exact markAndLog_settles hm (settled_markDead _ _ _) h
    · cases h
    · split at h
      · exact markAndLog_settles hm (settled_markDead _ _ _) h
      · obtain ⟨step, hstep, h⟩ := bind_eq_ok.1 h
        cases step with
        | blocked s₁ =>
          cases h
          exact enforceCustomerVisiblePolicy_blocked hm hstep
        | allowed s₁ =>
          obtain ⟨hc₁, m₁, hm₁⟩ := enforceCustomerVisiblePolicy_allowed hm hstep
          obtain ⟨hc, hf, hr⟩ := dispatchByChannel_settles hm₁ h
          exact ⟨hc.trans hc₁, hf, hr⟩

end

end NexusHelpdesk.Outbound
