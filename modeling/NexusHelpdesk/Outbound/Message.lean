import NexusHelpdesk.Desk.Basic
import NexusHelpdesk.Lib.Table

/-!
# Outbound messages and their marks

The row of `ticket_outbound_messages`, the result an adapter reports, and the pure part of
`message_dispatch.py`: the functions that write the outcome of an attempt into the row.

* `OutboundMessage`: the row, with the lease (`lockedAt`, `lockedBy`) of the worker that holds it;
* `markSent`, `markDead`, `markRetry`: the three ways an attempt ends;
* `ensureOutboundMailboxIdentity`: the mail headers an email attempt fixes before it sends.

`Settled m`: an outcome is written and the lease is given up.  Every mark settles the row.
-/

namespace NexusHelpdesk.Outbound

structure OutboundMessage where
  ticketId : ℕ
  channel : SourceChannel
  status : MessageStatus
  body : String
  origin : Option String
  runtimeTraceId : Option String
  runtimeContractVersion : Option String
  runtimeSignature : Option String
  runtimeContractPayloadJson : Option String
  runtimeContractPayloadSha256 : Option String
  runtimeReplyType : Option String
  safetyStatus : Option String
  providerStatus : Option String
  errorMessage : Option String
  createdBy : Option ℕ
  sentAt : Option Instant
  retryCount : ℕ
  maxRetries : ℕ
  lastAttemptAt : Option Instant
  nextRetryAt : Option Instant
  lockedAt : Option Instant
  lockedBy : Option String
  providerMessageId : Option String
  mailboxThreadId : Option String
  mailboxMessageId : Option String
  mailboxReferences : Option String
  failureCode : Option String
  failureReason : Option String
  deliveryStatus : Option String
  deliveryEventType : Option String
  deliveryReceiptProvider : Option String
  deliveryReceiptId : Option String
  deliveryReceiptAt : Option Instant
  createdAt : Instant
deriving DecidableEq

structure OutboundTicket where
  conversationState : Option ConversationState
  sourceChatId : Option String
  preferredReplyContact : Option String
  customerPhone : Option String
deriving DecidableEq

inductive EventType where
  | outboundSent | outboundFailed | outboundDead | outboundRetryScheduled
deriving DecidableEq, Repr

structure TicketEvent where
  ticketId : ℕ
  actorId : Option ℕ
  eventType : EventType
  note : String
deriving DecidableEq

/-! ## channels -/

def isExternalOutboundChannel : SourceChannel → Bool
  | .whatsapp | .telegram | .sms | .email => true
  | .webChat | .internal => false

def isExternalOutboundMessage (m : OutboundMessage) : Bool := isExternalOutboundChannel m.channel

def channelValue : SourceChannel → String
  | .whatsapp => "whatsapp"
  | .telegram => "telegram"
  | .sms => "sms"
  | .email => "email"
  | .webChat => "web_chat"
  | .internal => "internal"

/-! ## marks -/

def backoffMinutes (retryCount : ℕ) : ℕ := min (2 ^ (retryCount - 1)) 30

def markRetry (now : Instant) (reason : String) (failureCode : Option String)
    (m : OutboundMessage) : OutboundMessage :=
  let count := m.retryCount + 1
  let m := { m with
    retryCount := count, errorMessage := some reason, failureReason := some reason,
    lastAttemptAt := some now, lockedAt := none, lockedBy := none }
  if m.maxRetries ≤ count then
    let code := (PyStr.orElse failureCode none).getD "max_retries"
    { m with
      status := .dead, failureCode := some code, providerStatus := some ("dead:" ++ code),
      nextRetryAt := none }
  else
    let code := (PyStr.orElse failureCode none).getD "retryable_dispatch_error"
    let suffix := if PyStr.truthy failureCode then ":" ++ code else ""
    { m with
      status := .pending, failureCode := some code,
      providerStatus := some
        ("retry_scheduled:" ++ toString (backoffMinutes count) ++ "m" ++ suffix),
      nextRetryAt := some (now + minutes (backoffMinutes count)) }

def markDead (now : Instant) (reason failureCode : String) (m : OutboundMessage) :
    OutboundMessage :=
  { m with
    status := .dead, providerStatus := some ("dead:" ++ failureCode), errorMessage := some reason,
    failureCode := some failureCode, failureReason := some reason, lastAttemptAt := some now,
    nextRetryAt := none, lockedAt := none, lockedBy := none }

def markOriginBlocked (now : Instant) (reason : String) (m : OutboundMessage) : OutboundMessage :=
  markDead now reason reason m

def markSent (now : Instant) (providerStatus : Option String) (sentAt : Option Instant)
    (providerMessageId receiptProvider : Option String) (m : OutboundMessage) : OutboundMessage :=
  let sent := sentAt.getD now
  let m := { m with
    status := .sent, providerStatus := providerStatus, sentAt := some sent, errorMessage := none,
    failureCode := none, failureReason := none, lastAttemptAt := some now, nextRetryAt := none,
    lockedAt := none, lockedBy := none, deliveryStatus := some "sent",
    deliveryEventType := some "sent", deliveryReceiptAt := some sent }
  let m :=
    if PyStr.truthy providerMessageId then
      { m with providerMessageId := providerMessageId, deliveryReceiptId := providerMessageId }
    else m
  if PyStr.truthy receiptProvider then { m with deliveryReceiptProvider := receiptProvider } else m

/-- an outcome is written into the row and its lease is given up. -/
def Settled (m : OutboundMessage) : Prop :=
  m.lockedBy = none ∧ (m.status = .sent ∨ m.status = .dead ∨ m.status = .pending)

lemma settled_markRetry (now : Instant) (r : String) (c : Option String) (m : OutboundMessage) :
    Settled (markRetry now r c m) := by
  unfold markRetry Settled
  by_cases h : m.maxRetries ≤ m.retryCount + 1
  · simp [h]
  · simp [h]

lemma settled_markDead (now : Instant) (r c : String) (m : OutboundMessage) :
    Settled (markDead now r c m) := ⟨rfl, .inr (.inl rfl)⟩

lemma settled_markSent (now : Instant) (ps : Option String) (at' : Option Instant)
    (pid rp : Option String) (m : OutboundMessage) : Settled (markSent now ps at' pid rp m) := by
  unfold markSent Settled
  by_cases hp : PyStr.truthy pid <;> by_cases hr : PyStr.truthy rp <;> simp [hp, hr]

/-! ## mail identity -/

def mailboxIdDomain : String := "nexusdesk.local"

/-- `_header_id`: a well-formed message id in angle brackets, or nothing. -/
def headerId (value : Option String) : Option String :=
  let text := PyStr.strip (value.getD "")
  let cs := text.toList
  if text = "" ∨ '\r' ∈ cs ∨ '\n' ∈ cs then none
  else
    let bare :=
      if cs.head? = some '<' ∧ cs.getLast? = some '>' then (cs.drop 1).dropLast
      else
        let side := fun c => c == '<' || c == '>'
        ((cs.dropWhile side).reverse.dropWhile side).reverse
    if bare = [] ∨ '@' ∉ bare ∨ bare.any PyStr.isSpace then none
    else some ("<" ++ String.ofList bare ++ ">")

/-- the words of a text, as `str.split()` gives them. -/
def splitWords (s : String) : List String :=
  ((s.toList.splitBy fun a b => PyStr.isSpace a == PyStr.isSpace b).filter
    fun w => !w.all PyStr.isSpace).map String.ofList

/-- `_references`: the well-formed ids of a references header. -/
def references (value : Option String) : Option String :=
  let ids := (splitWords (value.getD "")).filterMap fun token => headerId (some token)
  if ids = [] then none else some (" ".intercalate ids)

def buildMailboxThreadId (ticketId : ℕ) : String :=
  "<nexusdesk-ticket-" ++ toString ticketId ++ "@" ++ mailboxIdDomain ++ ">"

def buildMailboxMessageId (ticketId messageId : ℕ) : String :=
  "<nexusdesk-ticket-" ++ toString ticketId ++ "-outbound-" ++ toString messageId ++ "@" ++
    mailboxIdDomain ++ ">"

def ensureOutboundMailboxIdentity (id : ℕ) (m : OutboundMessage) : OutboundMessage :=
  let thread := (headerId m.mailboxThreadId).getD (buildMailboxThreadId m.ticketId)
  { m with
    mailboxThreadId := some thread
    mailboxReferences := some ((references m.mailboxReferences).getD thread)
    mailboxMessageId := some
      ((headerId m.mailboxMessageId).getD (buildMailboxMessageId m.ticketId id)) }

/-! ## what an adapter reports -/

/-- an exception: `ValueError` is the only type the services tell apart. -/
inductive PyException where
  | valueError (text : String)
  | other (typeName : String)
deriving DecidableEq, Repr

def PyException.typeName : PyException → String
  | .valueError _ => "ValueError"
  | .other t => t

/-- the entries of the adapter's route context that dispatch reads; `jsonSafe` says whether
`json.dumps` accepts the whole context. -/
structure RouteContext where
  transport : Option String := none
  providerMessageId : Option String := none
  adapter : Option String := none
  error : Option String := none
  failureCode : Option String := none
  retryable : Option Bool := none
  jsonSafe : Bool := true
deriving DecidableEq

structure DispatchResult where
  statusValue : MessageStatus
  providerStatus : Option String
  sentAt : Option Instant
  routeContext : RouteContext
deriving DecidableEq

/-- one call of an adapter: it returns or raises, and a failed flush inside it leaves the session
unusable until it is rolled back. -/
structure AdapterCall where
  outcome : Except PyException DispatchResult
  sessionBroken : Bool := false

end NexusHelpdesk.Outbound
