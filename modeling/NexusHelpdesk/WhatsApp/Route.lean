import NexusHelpdesk.WhatsApp.Sent

/-!
# The route of a WhatsApp message (`outbound_adapters/whatsapp`)

The adapter chooses a connection by the ticket: that of the ticket's own account, else one of its
market, else one of the tenant for no market.  `dispatch_whatsapp_parts` then asks that the
connection's account is the ticket's.

* `readyConnections`, `resolveWhatsappRoute`: the choice, with its errors;
* `dispatchWhatsappOutbound`: the choice and the dispatch;
* `OwnAccount`: the ticket has an account.

`route_dispatchable_iff`: **a route passes the check exactly when the ticket has an account of its
own.**
-/

namespace NexusHelpdesk.WhatsApp

open Lib Outbound

/-! ## rows -/

structure ChannelAccount where
  accountId : String
  provider : String
  marketId : Option ℕ
  isActive : Bool
  priority : ℤ
deriving DecidableEq, Repr

structure ConnectionRow where
  tenantId : ℕ
  channelAccountId : ℕ
  transport : String
  desiredState : String
  observedState : String
  authenticationState : String
  listenerState : String
  verificationState : String
  desiredGeneration : ℕ
  observedGeneration : ℕ
deriving DecidableEq, Repr

structure RouteTicket where
  tenantId : Option ℕ
  channelAccountId : Option ℕ
  marketId : Option ℕ
  sourceChatId : Option String
  preferredReplyContact : Option String
  customerPhone : Option String
deriving DecidableEq, Repr

structure RouteDb where
  enabled : Bool
  accounts : Table ChannelAccount
  connections : Table ConnectionRow
  tickets : ℕ → Option RouteTicket
  attachments : ℕ → List ℕ
  parts : Table OutboundPart

abbrev Joined := ℕ × ConnectionRow × ChannelAccount

structure Route where
  channelAccountId : ℕ
  connectionId : ℕ
  accountId : String
  transport : String
  target : String
  source : String
deriving DecidableEq, Repr

/-! ## the choice -/

def cleanText (value : Option String) : Option String :=
  value.bind fun s => if PyStr.strip s = "" then none else some (PyStr.strip s)

/-- `_target`: the address and where it comes from. -/
def routeTarget (t : RouteTicket) : Option (String × String) :=
  [("ticket.source_chat_id", t.sourceChatId),
    ("ticket.preferred_reply_contact", t.preferredReplyContact),
    ("customer.phone", t.customerPhone)].findSome? fun x => (cleanText x.2).map (·, x.1)

variable (db : RouteDb) {tenantId : ℕ} {x : Joined}

def readyConnections (tenantId : ℕ) : List Joined :=
  db.connections.rows.filterMap fun x => do
    let account ← db.accounts.get? x.2.channelAccountId
    if account.provider = "whatsapp" ∧ account.isActive = true ∧ x.2.desiredState = "active" ∧
        x.2.observedState = "connected" ∧ x.2.authenticationState = "linked" ∧
        x.2.listenerState = "active" ∧ x.2.verificationState = "verified" ∧
        x.2.observedGeneration = x.2.desiredGeneration ∧ x.2.tenantId = tenantId then
      some (x.1, x.2, account)
    else none

/-- `ORDER BY priority, id` of the accounts. -/
def byPriority (a b : Joined) : Prop :=
  a.2.2.priority < b.2.2.priority ∨
    a.2.2.priority = b.2.2.priority ∧ a.2.1.channelAccountId ≤ b.2.1.channelAccountId

instance : DecidableRel byPriority := fun a b => inferInstanceAs (Decidable (_ ∨ _))

/-- the first connection whose account is of the market; `none` is no market. -/
def ofMarket (ready : List Joined) (marketId : Option ℕ) : Option Joined :=
  ((ready.filter fun x => x.2.2.marketId == marketId).insertionSort byPriority).head?

def chosenConnection (t : RouteTicket) (tenantId : ℕ) : Option (Joined × String) :=
  let ready := readyConnections db tenantId
  match t.channelAccountId.filter (· ≠ 0) with
  | some account =>
    (ready.find? fun x => x.2.1.channelAccountId == account).map (·, "ticket.channel_account_id")
  | none =>
    match t.marketId.bind fun market => ofMarket ready (some market) with
    | some x => some (x, "ticket.market_id")
    | none => (ofMarket ready none).map (·, "tenant_global")

def resolveWhatsappRoute (m : OutboundMessage) : Except String Route :=
  if m.channel ≠ .whatsapp then .error "whatsapp_adapter_received_non_whatsapp_message"
  else
    match db.tickets m.ticketId with
    | none => .error "whatsapp_ticket_tenant_missing"
    | some t =>
      match t.tenantId with
      | none => .error "whatsapp_ticket_tenant_missing"
      | some tenantId =>
        match routeTarget t with
        | none => .error "whatsapp_target_missing"
        | some (target, targetSource) =>
          match chosenConnection db t tenantId with
          | none => .error "verified_whatsapp_connection_missing"
          | some ((key, row, account), accountSource) =>
            .ok ⟨row.channelAccountId, key, account.accountId, row.transport, target,
              targetSource ++ ":" ++ accountSource⟩

/-! ## the dispatch -/

inductive DispatchOutcome where
  | failed (code message : String) (retryable : Bool)
  | sent (providerStatus : String) (sentAt : Instant) (ids : List String)
  | raised (error : String)
deriving DecidableEq, Repr

def DispatchOutcome.code : DispatchOutcome → Option String
  | .failed code _ _ => some code
  | _ => none

def connectionOf (key : ℕ) : Option WhatsAppConnection := do
  let row ← db.connections.get? key
  let account ← db.accounts.get? row.channelAccountId
  if account.provider = "whatsapp" then
    some ⟨key, row.tenantId, row.channelAccountId, row.transport⟩
  else none

def RouteDb.ctx : Context :=
  ⟨fun i => (db.tickets i).map fun t => ⟨t.tenantId, t.channelAccountId⟩, db.attachments⟩

def reportParts (now : Instant) (transport : String) (r : PartsDispatchResult) : DispatchOutcome :=
  if r.ok then
    .sent ("whatsapp_" ++ transport ++ "_parts_sent") (r.sentAt.getD now) r.providerMessageIds
  else
    .failed ((PyStr.orElse r.failureCode none).getD "whatsapp_part_dispatch_failed")
      ((PyStr.orElse r.failureReason none).getD "WhatsApp provider part dispatch failed")
      r.retryable

def dispatchWhatsappOutbound (now : Instant) (sends : ℕ → SendResult) (id : ℕ)
    (m : OutboundMessage) : DispatchOutcome :=
  if !db.enabled then
    .failed "whatsapp_disabled" "WHATSAPP_ENABLED=false blocks WhatsApp dispatch" false
  else
    match resolveWhatsappRoute db m with
    | .error code => .failed code code (code == "verified_whatsapp_connection_missing")
    | .ok route =>
      match connectionOf db route.connectionId with
      | none =>
        .failed "whatsapp_connection_not_found"
          "WhatsApp connection disappeared during route resolution" true
      | some c =>
        match dispatchWhatsappParts db.ctx now c sends id m db.parts with
        | .error e => .raised e
        | .ok (result, _) => reportParts now route.transport result

/-! ## what a route knows of its connection -/

lemma mem_readyConnections (h : x ∈ readyConnections db tenantId) :
    x.2.1.tenantId = tenantId ∧ db.accounts.get? x.2.1.channelAccountId = some x.2.2 ∧
      connectionOf db x.1 =
        some ⟨x.1, x.2.1.tenantId, x.2.1.channelAccountId, x.2.1.transport⟩ := by
  obtain ⟨⟨key, row⟩, hrow, hsome⟩ := List.mem_filterMap.1 h
  obtain ⟨account, haccount, hsome⟩ := Option.bind_eq_some_iff.1 hsome
  split at hsome
  · rename_i hready
    cases hsome
    refine ⟨hready.2.2.2.2.2.2.2.2, haccount, ?_⟩
    unfold connectionOf
    rw [(Table.mem_rows _).1 hrow]
    show ((db.accounts.get? row.channelAccountId).bind _) = _
    rw [haccount]
    exact if_pos hready.1
  · cases hsome

lemma ofMarket_mem {ready : List Joined} {market : Option ℕ} (h : ofMarket ready market = some x) :
    x ∈ ready := by
  have hmem := (List.mem_insertionSort byPriority).1 (List.mem_of_mem_head? h)
  exact List.mem_of_mem_filter hmem

def OwnAccount (t : RouteTicket) : Prop := ∃ account, t.channelAccountId = some account ∧ account ≠ 0

lemma chosenConnection_spec {t : RouteTicket} {why : String}
    (h : chosenConnection db t tenantId = some (x, why)) :
    x ∈ readyConnections db tenantId ∧
      (OwnAccount t → t.channelAccountId = some x.2.1.channelAccountId) := by
  unfold chosenConnection at h
  dsimp only at h
  split at h
  · rename_i account haccount
    obtain ⟨y, hy, heq⟩ := Option.map_eq_some_iff.1 h
    cases heq
    have hown := Option.eq_some_of_filter_eq_some haccount
    refine ⟨List.mem_of_find?_eq_some hy, fun _ => ?_⟩
    have hsame := List.find?_some hy
    rw [hown, beq_iff_eq.1 hsame]
  · rename_i hnone
    refine ⟨?_, fun ⟨account, hown, hne⟩ => ?_⟩
    · split at h
      · rename_i y hy
        cases h
        obtain ⟨market, -, hy⟩ := Option.bind_eq_some_iff.1 hy
        exact ofMarket_mem hy
      · obtain ⟨y, hy, heq⟩ := Option.map_eq_some_iff.1 h
        cases heq
        exact ofMarket_mem hy
    · rw [hown] at hnone
      simp [hne] at hnone

lemma resolveWhatsappRoute_ok {m : OutboundMessage} {route : Route}
    (h : resolveWhatsappRoute db m = .ok route) :
    ∃ t tenantId x why, db.tickets m.ticketId = some t ∧ t.tenantId = some tenantId ∧
      chosenConnection db t tenantId = some (x, why) ∧ route.connectionId = x.1 := by
  unfold resolveWhatsappRoute at h
  split at h
  · cases h
  · split at h
    · cases h
    · rename_i t ht
      split at h
      · cases h
      · rename_i tenantId htenant
        split at h
        · cases h
        · split at h
          · cases h
          · rename_i key row account why hchosen
            cases h
            exact ⟨t, tenantId, _, why, ht, htenant, hchosen, rfl⟩

lemma sendParts_failureCode (now : Instant) (sends : ℕ → SendResult) (l : List (ℕ × OutboundPart))
    (ids : List String) (ats : List Instant) (t : Table OutboundPart) :
    (sendParts now sends l ids ats t).1.failureCode = none ∨
      ∃ i e, sends i = .error e ∧
        (sendParts now sends l ids ats t).1.failureCode = some (clip 120 e.report.1) := by
  induction l generalizing ids ats t with
  | nil => exact Or.inl rfl
  | cons x rest ih =>
    obtain ⟨id, p⟩ := x
    unfold sendParts
    split
    · exact ih _ _ _
    · cases hs : sends id with
      | ok sent => exact ih _ _ _
      | error e => exact Or.inr ⟨id, e, hs, rfl⟩

def scopeCode : String := "whatsapp_outbound_part_scope_mismatch"

/-- the dispatch does not fail at the scope check, whatever the sends do; no send reports the code
of that check. -/
def Dispatchable (id : ℕ) (m : OutboundMessage) : Prop :=
  ∀ now sends, (∀ i e, sends i = .error e → clip 120 e.report.1 ≠ scopeCode) →
    (dispatchWhatsappOutbound db now sends id m).code ≠ some scopeCode

lemma reportParts_code {now : Instant} {transport : String} {r : PartsDispatchResult}
    (h : r.failureCode ≠ some scopeCode) : (reportParts now transport r).code ≠ some scopeCode := by
  have hdefault : (PyStr.orElse r.failureCode none).getD "whatsapp_part_dispatch_failed" ≠
      scopeCode := by
    cases hcode : r.failureCode with
    | none => decide
    | some code =>
      rw [hcode] at h
      by_cases hempty : code = ""
      · rw [hempty]
        decide
      · have hor : PyStr.orElse (some code) none = some code := by
          simp [PyStr.orElse, PyStr.truthy, hempty]
        rw [hor]
        exact fun heq => h (congrArg some heq)
  unfold reportParts
  split
  · exact fun hno => by cases hno
  · exact fun heq => hdefault (Option.some.inj heq)

theorem route_dispatchable_iff (db : RouteDb) (hserial : db.accounts.get? 0 = none) (id : ℕ)
    (m : OutboundMessage) (route : Route) (hroute : resolveWhatsappRoute db m = .ok route) :
    Dispatchable db id m ↔
      db.enabled = false ∨ ∃ t, db.tickets m.ticketId = some t ∧ OwnAccount t := by
  obtain ⟨t, tenantId, x, why, ht, htenant, hchosen, hkey⟩ := resolveWhatsappRoute_ok db hroute
  obtain ⟨hready, hown⟩ := chosenConnection_spec db hchosen
  obtain ⟨hsame, haccount, hconn⟩ := mem_readyConnections db hready
  cases henabled : db.enabled with
  | false =>
    refine iff_of_true (fun now sends _ => ?_) (Or.inl rfl)
    unfold dispatchWhatsappOutbound
    rw [henabled]
    have hne : "whatsapp_disabled" ≠ scopeCode := by decide
    exact fun heq => hne (Option.some.inj heq)
  | true =>
    have hdispatch : ∀ now sends, dispatchWhatsappOutbound db now sends id m =
        match dispatchWhatsappParts db.ctx now
          ⟨x.1, x.2.1.tenantId, x.2.1.channelAccountId, x.2.1.transport⟩ sends id m db.parts with
        | .error e => .raised e
        | .ok (result, _) => reportParts now route.transport result := by
      intro now sends
      unfold dispatchWhatsappOutbound
      rw [henabled, hroute]
      dsimp only
      rw [hkey, hconn]
      rfl
    have hscope : inScope db.ctx ⟨x.1, x.2.1.tenantId, x.2.1.channelAccountId, x.2.1.transport⟩ m =
        (t.channelAccountId == some x.2.1.channelAccountId) := by
      unfold inScope RouteDb.ctx
      simp [ht, htenant, hsame]
    constructor
    · intro hfine
      by_contra hno
      -- the ticket has no account, the connection has one
      have hmismatch : (t.channelAccountId == some x.2.1.channelAccountId) = false := by
        refine beq_eq_false_iff_ne.2 fun heq => hno (Or.inr ⟨t, ht, _, heq, fun hzero => ?_⟩)
        rw [hzero, hserial] at haccount
        cases haccount
      refine hfine 0 (fun _ => .error (.invalid "")) (fun i e he => ?_) ?_
      · cases he
        decide
      · rw [hdispatch]
        unfold dispatchWhatsappParts
        rw [hscope, hmismatch]
        rfl
    · intro hcond now sends hsends
      obtain hcase | ⟨t', ht', hacc⟩ := hcond
      · cases hcase
      · rw [ht] at ht'
        cases ht'
        rw [hdispatch]
        unfold dispatchWhatsappParts
        rw [hscope, hown hacc, beq_self_eq_true, if_neg (by decide)]
        cases ensureParts db.ctx _ id m.body db.parts with
        | error e => exact fun hno => by cases hno
        | ok rows =>
          refine reportParts_code ?_
          rcases sendParts_failureCode now sends (partsOf rows id) [] [] rows with
            hnone | ⟨i, e, he, hcode⟩
          · rw [hnone]
            exact fun hno => by cases hno
          · rw [hcode]
            exact fun heq => hsends i e he (Option.some.inj heq)

/-- a tenant with one ready account, of no market, and a ticket. -/
def sampleRoutes (account : Option ℕ) : RouteDb where
  enabled := true
  accounts := Table.empty.insert ⟨"wa-1", "whatsapp", none, true, 100⟩
  connections := Table.empty.insert
    ⟨1, 1, "baileys_sidecar", "active", "connected", "linked", "active", "verified", 1, 1⟩
  tickets := fun _ => some ⟨some 1, account, none, some "+41790000001", none, none⟩
  attachments := fun _ => []
  parts := .empty

theorem sampleRoutes_dispatchable : Dispatchable (sampleRoutes (some 1)) 1 sampleReply :=
  (route_dispatchable_iff (sampleRoutes (some 1)) rfl 1 sampleReply
    ⟨1, 1, "wa-1", "baileys_sidecar", "+41790000001",
      "ticket.source_chat_id:ticket.channel_account_id"⟩ (by decide +kernel)).2
    (Or.inr ⟨_, rfl, 1, rfl, by decide⟩)

/-- a ticket without an account gets the account of its tenant, and cannot be sent over it. -/
theorem sampleRoutes_mismatch :
    resolveWhatsappRoute (sampleRoutes none) sampleReply =
        .ok ⟨1, 1, "wa-1", "baileys_sidecar", "+41790000001",
          "ticket.source_chat_id:tenant_global"⟩ ∧
      ¬ Dispatchable (sampleRoutes none) 1 sampleReply := by
  refine ⟨by decide +kernel, fun h => ?_⟩
  have hcode := h 0 (fun _ => .error (.invalid "")) fun i e he => by
    cases he
    decide
  exact hcode (by decide +kernel)

end NexusHelpdesk.WhatsApp
