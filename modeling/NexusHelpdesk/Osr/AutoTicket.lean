import NexusHelpdesk.Osr.Session

/-!
# Auto tickets (`nexus_osr/auto_ticket_service.py`)

* `createOrReuseTicket`: `create_or_reuse_ticket_from_case_context` for a persisted conversation,
  from the lock on its row on;
* `createTicketWithRetry`: the insert, with a new number after a clash.

The timestamps and the random suffixes of the numbers are parameters, one for each attempt.
-/

namespace NexusHelpdesk.Osr

open Lib

/-! ## arguments -/

/-- the customer that is passed: a row, or a new object. -/
inductive CustomerArg where
  | stored (id : ℕ)
  | new (row : Customer)
deriving DecidableEq, Repr

structure AutoTicketCall where
  caseContext : CaseContext
  customer : Option CustomerArg
  sourceChannel : SourceChannel := .webChat
  title : Option Text := none
  description : Option Text := none
  priority : TicketPriority := .medium
  issueType : Option Text := none
deriving DecidableEq, Repr

structure TicketEnv where
  now : Instant
  upper : Text → Text
  timestamp : ℕ → Text
  suffix : ℕ → Text

structure AutoTicketResult where
  ticketId : ℕ
  created : Bool
  caseContext : CaseContext
  customerVisibleSummary : Text
deriving DecidableEq, Repr

/-- Python's `a or b` on optional texts. -/
def orText (a b : Option Text) : Option Text :=
  match a with
  | none => b
  | some [] => b
  | some s => some s

def optionalIdentity (value : Option ℤ) (field : String) : Except OsrError (Option ℕ) :=
  match value with
  | none => .ok none
  | some n =>
    if n ≤ 0 then .error (.identityConflict ("auto_ticket_invalid_" ++ field)) else .ok (some n.toNat)

def tenantOfConversation (c : WebchatConversation) : Text := normalizeTenant (c.tenantKey.getD [])

def maxTicketNoGenerationAttempts : ℕ := 5

/-! ## the ticket -/

section Build
variable (env : TicketEnv) (c : CaseContext)

def generateTicketNo (attempt : ℕ) : Except OsrError Text :=
  let country := (env.upper ((orText c.countryCode (some "OSR".toList)).getD [])).filter fun x =>
    ('A' ≤ x && x ≤ 'Z') || ('0' ≤ x && x ≤ '9')
  let lead := (orText (some (country.take 8)) (some "OSR".toList)).getD []
  let ticketNo := "OSR-".toList ++ lead ++ "-".toList ++ env.timestamp attempt ++ "-".toList ++
    env.suffix attempt
  if 40 < ticketNo.length then
    .error (.runtime "generated_osr_ticket_number_exceeds_contract")
  else .ok ticketNo

def defaultTitle : Text :=
  let issue := (orText c.issueType (some "customer support".toList)).getD []
  let ref := match orText c.safeTrackingReference none with
    | some ref => " - ".toList ++ ref
    | none => []
  ("OSR ".toList ++ issue ++ ref).take 200

def defaultDescription : Text :=
  let issue := (orText c.issueType (some "unknown".toList)).getD []
  let parts := ["Auto-created by Nexus OSR.".toList, "Issue type: ".toList ++ issue ++ ".".toList] ++
    (match orText c.safeTrackingReference none with
      | some ref => ["Tracking reference: ".toList ++ ref ++ ".".toList]
      | none => []) ++
    (match orText c.customerClaimSummary none with
      | some claim => ["Customer request: ".toList ++ claim]
      | none => []) ++
    if c.missingInfo = [] then []
    else ["Missing info: ".toList ++ (", ".toList).intercalate c.missingInfo ++ ".".toList]
  ("\n".toList).intercalate parts

def buildTicket (a : AutoTicketCall) (customerId : ℕ) (ticketNo : Text) : Ticket where
  ticketNo := ticketNo
  title := (orText a.title (some (defaultTitle a.caseContext))).getD []
  description := (orText a.description (some (defaultDescription a.caseContext))).getD []
  customerId := customerId
  sourceChannel := a.sourceChannel
  priority := a.priority
  status := .pendingAssignment
  conversationState := .humanReviewRequired
  assigneeId := none
  preferredReplyContact := a.caseContext.contactMethods.head?.map fun m =>
    m.channel ++ ":".toList ++ m.valueRedacted
  countryCode := a.caseContext.countryCode
  caseType := orText a.issueType a.caseContext.issueType
  customerRequest := a.caseContext.customerClaimSummary
  requiredAction :=
    some "Review OSR-created support ticket and follow up with the customer.".toList
  missingFields :=
    if a.caseContext.missingInfo = [] then none
    else some ((", ".toList).intercalate a.caseContext.missingInfo)
  reopenCount := 0
  resolvedAt := none
  closedAt := none
  updatedAt := env.now

end Build

def TicketPriority.rank : TicketPriority → ℕ
  | .low => 0
  | .medium => 1
  | .high => 2
  | .urgent => 3

def maxPriority (left right : TicketPriority) : TicketPriority :=
  if left.rank < right.rank then right else left

def reusedTicketAction : Text :=
  "Review reused Nexus OSR support ticket and follow up with the customer.".toList

/-- a field of a ticket, with its name where it changed. -/
def change {α : Type} [DecidableEq α] (name : String) (old new : α) : List String :=
  if old = new then [] else [name]

def projectExistingTicket (now : Instant) (priority : TicketPriority) (t : Ticket) :
    Ticket × List String :=
  let terminal := t.status = .resolved ∨ t.status = .closed ∨ t.status = .canceled
  let status : TicketStatus :=
    if terminal then (if t.assigneeId.isSome then .inProgress else .pendingAssignment)
    else if t.assigneeId.isSome ∧ (t.status = .new ∨ t.status = .pendingAssignment) then .inProgress
    else if t.assigneeId.isNone ∧ t.status = .new then .pendingAssignment
    else t.status
  let conversationState : ConversationState :=
    if t.assigneeId.isSome then .humanOwned else .humanReviewRequired
  let next : Ticket := { t with
    status := status
    closedAt := if terminal then none else t.closedAt
    resolvedAt := if terminal then none else t.resolvedAt
    reopenCount := if terminal then t.reopenCount + 1 else t.reopenCount
    conversationState := conversationState
    priority := maxPriority t.priority priority
    requiredAction :=
      if orText t.requiredAction none = none then some reusedTicketAction else t.requiredAction }
  let changed := change "status" t.status next.status ++ change "closed_at" t.closedAt next.closedAt ++
    change "resolved_at" t.resolvedAt next.resolvedAt ++
    change "reopen_count" t.reopenCount next.reopenCount ++
    change "conversation_state" t.conversationState next.conversationState ++
    change "priority" t.priority next.priority ++
    change "required_action" t.requiredAction next.requiredAction
  (if changed = [] then next else { next with updatedAt := now }, changed)

/-! ## the service -/

section Service
variable (env : TicketEnv) (conversationId : ℕ) (a : AutoTicketCall)

/-- `_lock_conversation`; the row is read again. -/
def lockConversation : Work Unit := do
  let contextConversation ← Txn.check fun _ =>
    optionalIdentity a.caseContext.conversationId "conversation_id"
  if contextConversation.any (· ≠ conversationId) then
    Txn.raise (.identityConflict "auto_ticket_conversation_identity_conflict")
  else
    Txn.write fun s =>
      { s with pending := { s.pending with conversation := s.flushed.conversation } }

def findExistingTicket : Work (Option (ℕ × Ticket)) := do
  let contextTicket ← Txn.check fun _ => optionalIdentity a.caseContext.ticketId "ticket_id"
  let conversationTicket ← loaded fun d => d.conversation.ticketId
  if contextTicket.isSome ∧ conversationTicket.isSome ∧ contextTicket ≠ conversationTicket then
    Txn.raise (.identityConflict "auto_ticket_ticket_identity_conflict")
  else
    match contextTicket.or conversationTicket with
    | none => pure none
    | some ticketId => do
      let row ← loaded fun d => d.tickets.get? ticketId
      match row with
      | none => Txn.raise .ticketNotFound
      | some ticket => pure (some (ticketId, ticket))

def persistTicketContextTransition (ticketId : ℕ) (tenant : Text) : Work CaseContext := do
  let originalConversation ← Txn.check fun _ =>
    optionalIdentity a.caseContext.conversationId "conversation_id"
  let originalTicket ← Txn.check fun _ => optionalIdentity a.caseContext.ticketId "ticket_id"
  if originalConversation.any (· ≠ conversationId) then
    Txn.raise (.identityConflict "auto_ticket_context_transition_conflict")
  else if originalTicket.any (· ≠ ticketId) then
    Txn.raise (.identityConflict "auto_ticket_context_ticket_transition_conflict")
  else do
    let target := ({ a.caseContext with
      conversationId := some (conversationId : ℤ) } : CaseContext).markTicketCreated ticketId
    -- the context was kept under another identity
    Txn.when (((originalConversation, originalTicket) ≠ (some conversationId, some ticketId)) &&
        (originalConversation.isSome || originalTicket.isSome)) <|
      closeCaseContext env.now (originalConversation.map Int.ofNat) (originalTicket.map Int.ofNat)
        tenant
    saveCaseContext env.now target tenant
    pure target

def writeTicketEvent (ticketId : ℕ) (created : Bool) (changedFields : List String) : Work Unit :=
  assign fun d => { d with events := d.events.insert ⟨ticketId, created, changedFields⟩ }

def insertTicket (ticket : Ticket) : Work ℕ :=
  savepoint do
    let id ← loaded fun d => d.tickets.next
    assign fun d => { d with tickets := d.tickets.insert ticket }
    flush
    pure id

/-- `_create_ticket_with_retry` with `left` attempts left. -/
def createTicketWithRetry (customerId : ℕ) : ℕ → Option OsrError → Work ℕ
  | 0, some e => Txn.raise e
  | 0, none => Txn.raise (.runtime "unable_to_create_nexus_osr_auto_ticket")
  | left + 1, lastError => do
    let ticketNo ← Txn.check fun _ =>
      generateTicketNo env a.caseContext (maxTicketNoGenerationAttempts - (left + 1))
    let inserted ← Txn.attempt (insertTicket (buildTicket env a customerId ticketNo))
    match inserted with
    | .ok id => pure id
    | .error (.integrity true) => do
      expireAll
      let _ ← query fun d => d.tickets.count fun _ t => t.ticketNo = ticketNo
      createTicketWithRetry customerId left (some (.integrity true))
    | .error e => Txn.raise e

def resolveCustomer : Work ℕ :=
  match a.customer with
  | some (.stored id) => pure id
  | some (.new row) => addCustomer row
  | none => do
    let publicId ← loaded fun d => d.conversation.publicId
    addCustomer ⟨"WebChat Visitor".toList, some ("webchat:".toList ++ publicId)⟩
where
  addCustomer (row : Customer) : Work ℕ := do
    let id ← loaded fun d => d.customers.next
    assign fun d => { d with customers := d.customers.insert row }
    flush
    pure id

def pointConversation (ticketId : ℕ) : Work Unit :=
  assign fun d => { d with
    conversation := { d.conversation with ticketId := some ticketId, updatedAt := env.now } }

def reuseTicket (ticketId : ℕ) (ticket : Ticket) (tenant : Text) : Work AutoTicketResult := do
  let projected := projectExistingTicket env.now a.priority ticket
  assign fun d => { d with tickets := d.tickets.set ticketId projected.1 }
  let pointed ← loaded fun d => d.conversation.ticketId
  let changed := projected.2 ++ if pointed = some ticketId then [] else ["conversation.ticket_id"]
  pointConversation env ticketId
  let next ← persistTicketContextTransition env conversationId a ticketId tenant
  Txn.when (changed ≠ []) (writeTicketEvent ticketId false changed)
  flush
  pure ⟨ticketId, false, next, "Your existing support ticket is ".toList ++ ticket.ticketNo ++
    ".".toList⟩

def createTicket (tenant : Text) : Work AutoTicketResult := do
  let customerId ← resolveCustomer a
  let ticketId ← createTicketWithRetry env a customerId maxTicketNoGenerationAttempts none
  pointConversation env ticketId
  let next ← persistTicketContextTransition env conversationId a ticketId tenant
  writeTicketEvent ticketId true []
  flush
  let ticketNo ← loaded fun d => ((d.tickets.get? ticketId).map (·.ticketNo)).getD []
  pure ⟨ticketId, true, next, "A support ticket has been created. Ticket number: ".toList ++
    ticketNo ++ ".".toList⟩

def createOrReuseTicket : Work AutoTicketResult :=
  if a.caseContext.status.terminal = true then
    Txn.raise (.identityConflict "auto_ticket_terminal_case_context")
  else
    savepoint do
      lockConversation conversationId a
      let tenant ← loaded fun d => tenantOfConversation d.conversation
      let existing ← findExistingTicket a
      match existing with
      | some (ticketId, ticket) => reuseTicket env conversationId a ticketId ticket tenant
      | none => createTicket env conversationId a tenant

end Service

end NexusHelpdesk.Osr
