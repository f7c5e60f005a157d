import NexusHelpdesk.Realtime.Events

/-!
# The polling endpoint of the visitor (`webchat_events.py`)

A visitor without a WebSocket polls the event log of the conversation.

* `listEvents`, `pollWebchatEvents`: `_list_events` and the endpoint;
* `SameDoors`: a page shows what the WebSocket would release, and nothing else;
* `same_doors_iff`: **the two agree exactly if every event of the conversation is public**;
* `poll_leaks`: an internal event.

SHA-256 is a parameter.  The wait repeats the listing until there is something to list.
-/

namespace NexusHelpdesk.Realtime

open Lib

/-! ## the endpoint -/

structure PolledEvent where
  id : ℕ
  eventType : String
  payload : Option Json
  createdAt : Option Instant

structure EventPage where
  events : List PolledEvent
  hasMore : Bool

structure PollResponse extends EventPage where
  lastEventId : ℤ

def eventRead (r : ℕ × WebchatEvent) : PolledEvent where
  id := r.1
  eventType := r.2.eventType
  payload := r.2.payload
  createdAt := r.2.createdAt

section Endpoint
variable (sha256 : Text → Text) (db : EventDb)

def listEvents (conversationId ticketId : Option ℕ) (afterId limit : ℤ) : EventPage :=
  let rows := (db.events.select fun i e => afterId.toNat < i &&
    conversationId.all (e.conversationId = ·) && ticketId.all (e.ticketId = some ·)).take
      (safeLimit limit + 1)
  ⟨(rows.take (safeLimit limit)).map eventRead, safeLimit limit < rows.length⟩

def visitorEventsError : HTTPException :=
  ⟨404, "webchat conversation not found or invalid visitor token"⟩

def validateVisitorConversation (publicId : Text) (token : Option Text) (now : Instant) :
    Except HTTPException ℕ :=
  match (db.conversations.select fun _ c => c.publicId = publicId).head?, token with
  | some (id, conversation), some token =>
    if token = [] ∨ sha256 token ≠ conversation.visitorTokenHash ∨
        conversation.visitorTokenExpiresAt.any (· ≤ now) = true then .error visitorEventsError
    else .ok id
  | _, _ => .error visitorEventsError

def pollWebchatEvents (publicId : Text) (token : Option Text) (afterId limit : ℤ)
    (now : Instant) : Except HTTPException PollResponse := do
  let id ← validateVisitorConversation sha256 db publicId token now
  let page := listEvents db (some id) none afterId limit
  return ⟨page, (page.events.getLast?.map fun e => (e.id : ℤ)).getD afterId⟩

end Endpoint

/-! ## what is released -/

/-- the fields of a polled payload are those of an envelope. -/
def Released (payload : Option Json) (released : JsonObject) : Prop :=
  match payload with
  | none => True
  | some .null => True
  | some (.obj fields) => ∀ key value, field fields key = some value →
      field released key = some value
  | some _ => False

section Doors
variable (int : PyInt) (db : EventDb)

structure Confined (e : EventEnvelope) : Prop where
  type : e.type ∈ customerVisibleEventTypes
  users : ∀ key ∈ internalKeys, field e.payload key = none
  handoff : e.handoff = none
  message : ∀ m ∈ e.message, publicMessageVisible (some m.messageType) = true ∧
    m.authorUserId = none

structure SameDoors (conversationId : ℕ) (afterId limit : ℤ) (page : List PolledEvent) :
    Prop where
  released : ∀ p ∈ page, ∃ row e, db.events.get? p.id = some row ∧
    eventEnvelope int db p.id row .visitor none = .ok (some e) ∧ Confined e ∧
    e.type = p.eventType ∧ e.createdAt = p.createdAt ∧ Released p.payload e.payload
  shown : ∀ b, listConversationEventEnvelopes int db conversationId afterId limit .visitor none =
    .ok b → ∀ e ∈ b.events, Confined e ∧ ∃ p ∈ page, p.id = e.eventId

def PublicPayload (payload : Option Json) : Prop :=
  match payload with
  | none => True
  | some .null => True
  | some (.obj fields) => ∀ key ∈ internalKeys, field fields key = none
  | some _ => False

structure Public (row : WebchatEvent) : Prop where
  type : row.eventType ∈ customerVisibleEventTypes
  payload : PublicPayload row.payload
  message : ∃ m, eventMessage int db row (loadsObject row.payload) = .ok m ∧
    ∀ x ∈ m, publicMessageVisible x.2.messageType = true

end Doors

section Proofs
variable {int : PyInt} {db : EventDb} {i conversationId : ℕ} {row : WebchatEvent}
  {e : EventEnvelope} {fields payload : JsonObject} {afterId limit : ℤ}

lemma field_sanitize_internal {key : Text} (h : key ∈ internalKeys) :
    field (sanitizePayload fields .visitor) key = none := by
  show ((fields.filter _).reverse.find? _).map Prod.snd = none
  rw [Option.map_eq_none_iff, List.find?_eq_none]
  intro f hf hkey
  have hmem := (List.mem_filter.1 (List.mem_reverse.1 hf)).2
  rw [of_decide_eq_true hkey] at hmem
  exact of_decide_eq_true hmem h

lemma sanitize_of_public {p : Option Json} (h : PublicPayload p) :
    sanitizePayload (loadsObject p) .visitor = loadsObject p := by
  refine List.filter_eq_self.2 ?_
  intro f hf
  refine decide_eq_true ?_
  intro hkey
  cases p with
  | none => cases hf
  | some j =>
    cases j with
    | obj fields =>
      have hnone := h f.1 hkey
      unfold field at hnone
      rw [Option.map_eq_none_iff, List.find?_eq_none] at hnone
      exact hnone f (List.mem_reverse.2 hf) (decide_eq_true rfl)
    | null => cases hf
    | bool b => exact h
    | num n => exact h
    | real t => exact h
    | str s => exact h
    | arr items => exact h

lemma released_sanitize_iff {p : Option Json} :
    Released p (sanitizePayload (loadsObject p) .visitor) ↔ PublicPayload p := by
  cases p with
  | none => exact Iff.rfl
  | some j =>
    cases j with
    | obj fields =>
      constructor
      · intro h key hkey
        by_contra hne
        obtain ⟨value, hvalue⟩ := Option.ne_none_iff_exists'.1 hne
        have hreleased := h key value hvalue
        rw [field_sanitize_internal hkey] at hreleased
        cases hreleased
      · intro h key value hvalue
        rw [sanitize_of_public h]
        exact hvalue
    | null => exact Iff.rfl
    | bool b => exact Iff.rfl
    | num n => exact Iff.rfl
    | real t => exact Iff.rfl
    | str s => exact Iff.rfl
    | arr items => exact Iff.rfl

/-! ### envelopes -/

lemma textOr_ne (t : Option String) : textOr t "text" ≠ "" := by
  unfold textOr
  split
  · split
    · decide
    · assumption
  · decide

lemma publicMessageVisible_read (t : Option String) :
    publicMessageVisible (some (textOr t "text")) = publicMessageVisible t := by
  have hread : textOr (some (textOr t "text")) "text" = textOr t "text" := if_neg (textOr_ne t)
  unfold publicMessageVisible
  rw [hread]

variable {conversation : Conversation}

lemma eventHandoff_visitor :
    eventHandoff int db row conversation payload .visitor none = .ok none := by
  unfold eventHandoff
  dsimp only
  cases (truthyField int payload "handoff_request_id".toList).or
    (conversation.currentHandoffRequestId.map fun i => .num (i : ℤ)) with
  | none => rfl
  | some value => rfl

def visitorEnvelope (i : ℕ) (row : WebchatEvent) (conversation : Conversation)
    (message : Option (ℕ × WebchatMessage)) : EventEnvelope where
  type := row.eventType
  eventId := i
  conversationId := conversation.publicId
  webchatConversationId := row.conversationId
  ticketId := row.ticketId
  createdAt := row.createdAt
  payload := sanitizePayload (loadsObject row.payload) .visitor
  message := message.map fun m => messageRead m.1 m.2 .visitor
  handoff := none

structure Opens (int : PyInt) (db : EventDb) (i : ℕ) (row : WebchatEvent) (e : EventEnvelope)
    (conversation : Conversation) (m : Option (ℕ × WebchatMessage)) : Prop where
  type : row.eventType ∈ customerVisibleEventTypes
  stored : db.conversations.get? row.conversationId = some conversation
  message : eventMessage int db row (sanitizePayload (loadsObject row.payload) .visitor) = .ok m
  visible : ∀ x ∈ m, publicMessageVisible x.2.messageType = true
  envelope : e = visitorEnvelope i row conversation m

lemma all_visible {m : Option (ℕ × WebchatMessage)}
    (h : ¬(m.any fun x => !publicMessageVisible x.2.messageType) = true) :
    ∀ x ∈ m, publicMessageVisible x.2.messageType = true := by
  intro x hx
  cases hp : publicMessageVisible x.2.messageType with
  | true => rfl
  | false =>
    refine absurd ?_ h
    rw [Option.mem_def.1 hx, Option.any_some, hp]
    rfl

lemma envelope_visitor_iff : eventEnvelope int db i row .visitor none = .ok (some e) ↔
    ∃ conversation m, Opens int db i row e conversation m := by
  unfold eventEnvelope
  by_cases htype : row.eventType ∈ customerVisibleEventTypes
  · rw [if_neg (fun h => h.2 htype)]
    cases hc : db.conversations.get? row.conversationId with
    | none =>
      constructor
      · intro h
        cases h
      · rintro ⟨conversation, m, h⟩
        rw [h.stored] at hc
        cases hc
    | some conversation =>
      dsimp only
      rw [bind_eq_ok]
      constructor
      · rintro ⟨m, hm, h⟩
        split at h
        · cases h
        · rename_i hvisible
          rw [eventHandoff_visitor] at h
          have hall : ∀ x ∈ m, publicMessageVisible x.2.messageType = true :=
            all_visible fun hany => hvisible ⟨rfl, hany⟩
          have he : visitorEnvelope i row conversation m = e := Option.some.inj (Except.ok.inj h)
          exact ⟨conversation, m, htype, hc, hm, hall, he.symm⟩
      · rintro ⟨conversation', m, h⟩
        obtain rfl := Option.some.inj (hc.symm.trans h.stored)
        refine ⟨m, h.message, ?_⟩
        rw [if_neg, eventHandoff_visitor, h.envelope]
        · rfl
        · rintro ⟨-, hany⟩
          cases m with
          | none => exact Bool.false_ne_true hany
          | some x =>
            rw [Option.any_some, h.visible x rfl] at hany
            exact Bool.false_ne_true hany
  · rw [if_pos ⟨rfl, htype⟩]
    constructor
    · intro h
      cases h
    · rintro ⟨conversation, m, h⟩
      exact absurd h.type htype

lemma confined_of_envelope (h : eventEnvelope int db i row .visitor none = .ok (some e)) :
    Confined e := by
  obtain ⟨conversation, m, hopens⟩ := envelope_visitor_iff.1 h
  rw [hopens.envelope]
  constructor
  · exact hopens.type
  · intro key hkey
    exact field_sanitize_internal hkey
  · rfl
  · intro x hx
    obtain ⟨y, hy, rfl⟩ := Option.map_eq_some_iff.1 hx
    refine ⟨?_, rfl⟩
    show publicMessageVisible (some (textOr y.2.messageType "text")) = true
    rw [publicMessageVisible_read]
    exact hopens.visible y hy

/-! ### pages -/

lemma released_iff (hc : db.conversations.get? row.conversationId = some conversation) :
    (∃ e, eventEnvelope int db i row .visitor none = .ok (some e) ∧
      Released row.payload e.payload) ↔ Public int db row := by
  constructor
  · rintro ⟨e, he, hreleased⟩
    obtain ⟨conversation, m, hopens⟩ := envelope_visitor_iff.1 he
    rw [hopens.envelope] at hreleased
    have hpayload := released_sanitize_iff.1 hreleased
    have hmessage := hopens.message
    rw [sanitize_of_public hpayload] at hmessage
    exact ⟨hopens.type, hpayload, m, hmessage, hopens.visible⟩
  · rintro ⟨htype, hpayload, m, hmessage, hvisible⟩
    refine ⟨visitorEnvelope i row conversation m, ?_, released_sanitize_iff.2 hpayload⟩
    rw [← sanitize_of_public hpayload] at hmessage
    exact envelope_visitor_iff.2 ⟨conversation, m, htype, hc, hmessage, hvisible, rfl⟩

def pageRows (db : EventDb) (conversationId : ℕ) (afterId limit : ℤ) : List (ℕ × WebchatEvent) :=
  (behind Prod.fst (conversationLog db conversationId) afterId.toNat).take (safeLimit limit)

lemma page_events : (listEvents db (some conversationId) none afterId limit).events =
    (pageRows db conversationId afterId limit).map eventRead := by
  unfold listEvents pageRows conversationLog
  rw [← select_behind fun _ e => decide (e.conversationId = conversationId)]
  dsimp only
  rw [List.take_take, Nat.min_eq_left (Nat.le_succ _)]
  congr 2
  unfold Table.select
  refine List.filter_congr ?_
  intro r _
  beta_reduce
  rw [Option.all_some, Option.all_none, Bool.and_true, Bool.and_comm]

lemma mem_pageRows {r : ℕ × WebchatEvent} (h : r ∈ pageRows db conversationId afterId limit) :
    db.events.get? r.1 = some r.2 ∧ r.2.conversationId = conversationId ∧ afterId.toNat < r.1 := by
  have hmem := List.mem_of_mem_take h
  unfold behind conversationLog at hmem
  rw [List.mem_filter, db.events.mem_select, decide_eq_true_iff, decide_eq_true_iff,
    and_assoc] at hmem
  exact hmem

lemma mem_pageRows_one (hget : db.events.get? i = some row) (hi : 0 < i) :
    (i, row) ∈ pageRows db row.conversationId (i - 1) 1 := by
  have hmem : (i, row) ∈ behind Prod.fst (conversationLog db row.conversationId)
      ((i : ℤ) - 1).toNat := by
    unfold behind conversationLog
    rw [List.mem_filter, db.events.mem_select, decide_eq_true_iff, decide_eq_true_iff]
    refine ⟨⟨hget, rfl⟩, ?_⟩
    show ((i : ℤ) - 1).toNat < i
    omega
  unfold pageRows
  have hone : safeLimit 1 = 1 := by decide
  rw [hone]
  cases hrows : behind Prod.fst (conversationLog db row.conversationId) ((i : ℤ) - 1).toNat with
  | nil =>
    rw [hrows] at hmem
    cases hmem
  | cons r rest =>
    rw [hrows] at hmem
    rcases List.mem_cons.1 hmem with heq | hrest
    · rw [heq]
      exact List.mem_singleton_self _
    · -- the first row would come before the event and behind the cursor
      have hsorted : (r :: rest).Pairwise fun a b => a.1 < b.1 := by
        rw [← hrows]
        exact behind_pairwise (db.events.pairwise_select _)
      have hlt := (List.pairwise_cons.1 hsorted).1 _ hrest
      have hbehind : r ∈ behind Prod.fst (conversationLog db row.conversationId)
          ((i : ℤ) - 1).toNat := by
        rw [hrows]
        exact List.mem_cons_self ..
      have hr := of_decide_eq_true (List.mem_filter.1 hbehind).2
      change r.1 < i at hlt
      omega

lemma mem_batch {b : ReplayBatch EventEnvelope}
    (hb : listConversationEventEnvelopes int db conversationId afterId limit .visitor none = .ok b)
    (he : e ∈ b.events) : ∃ r ∈ pageRows db conversationId afterId limit,
      eventEnvelope int db r.1 r.2 .visitor none = .ok (some e) := by
  rw [conversation_batch] at hb
  obtain ⟨hscan, -⟩ := fetchBatch_eq_ok hb
  rw [scan_eq_take hscan] at he
  obtain ⟨r, hr, hview⟩ := mem_visible.1 (List.mem_of_mem_take he)
  exact ⟨r, hr, hview⟩

lemma sameDoors_of_public (hc : db.conversations.get? conversationId = some conversation)
    (h : ∀ i row, db.events.get? i = some row → row.conversationId = conversationId → 0 < i →
      Public int db row) :
    SameDoors int db conversationId afterId limit
      (listEvents db (some conversationId) none afterId limit).events := by
  rw [page_events]
  constructor
  · intro p hp
    obtain ⟨r, hr, rfl⟩ := List.mem_map.1 hp
    obtain ⟨hget, hconversation, hafter⟩ := mem_pageRows hr
    have hpublic := h r.1 r.2 hget hconversation (by omega)
    rw [← hconversation] at hc
    obtain ⟨e, he, hreleased⟩ := (released_iff (i := r.1) hc).2 hpublic
    obtain ⟨conversation, m, hopens⟩ := envelope_visitor_iff.1 he
    refine ⟨r.2, e, hget, he, confined_of_envelope he, ?_, ?_, hreleased⟩
    · rw [hopens.envelope]
      rfl
    · rw [hopens.envelope]
      rfl
  · intro b hb e he
    obtain ⟨r, hr, hview⟩ := mem_batch hb he
    refine ⟨confined_of_envelope hview, eventRead r, List.mem_map_of_mem hr, ?_⟩
    obtain ⟨conversation, m, hopens⟩ := envelope_visitor_iff.1 hview
    rw [hopens.envelope]
    rfl

lemma public_of_sameDoors (hc : db.conversations.get? conversationId = some conversation)
    (h : ∀ afterId limit : ℤ, SameDoors int db conversationId afterId limit
      (listEvents db (some conversationId) none afterId limit).events)
    (hget : db.events.get? i = some row) (hconversation : row.conversationId = conversationId)
    (hi : 0 < i) : Public int db row := by
  subst hconversation
  have hdoors := (h (i - 1) 1).released (eventRead (i, row)) (by
    rw [page_events]
    exact List.mem_map_of_mem (mem_pageRows_one hget hi))
  obtain ⟨row', e, hget', he, -, -, -, hreleased⟩ := hdoors
  obtain rfl := Option.some.inj (hget.symm.trans hget')
  exact (released_iff hc).1 ⟨e, he, hreleased⟩

section Token
variable {sha256 : Text → Text} {publicId : Text} {token : Option Text} {now : Instant} {id : ℕ}

lemma validated_get? (h : validateVisitorConversation sha256 db publicId token now = .ok id) :
    ∃ conversation, db.conversations.get? id = some conversation := by
  unfold validateVisitorConversation at h
  split at h
  · rename_i id' conversation token' hhead
    split at h
    · cases h
    · cases h
      exact ⟨conversation, ((db.conversations.mem_select).1 (List.mem_of_mem_head? hhead)).1⟩
  · cases h

lemma poll_of_valid (h : validateVisitorConversation sha256 db publicId token now = .ok id) :
    pollWebchatEvents sha256 db publicId token afterId limit now =
      .ok ⟨listEvents db (some id) none afterId limit,
        ((listEvents db (some id) none afterId limit).events.getLast?.map
          fun e => (e.id : ℤ)).getD afterId⟩ := by
  unfold pollWebchatEvents
  rw [h]
  rfl

end Token

end Proofs

theorem same_doors_iff (int : PyInt) (sha256 : Text → Text) (db : EventDb) (publicId : Text)
    (token : Option Text) (now : Instant) :
    (∀ afterId limit response,
      pollWebchatEvents sha256 db publicId token afterId limit now = .ok response →
      ∃ id, validateVisitorConversation sha256 db publicId token now = .ok id ∧
        SameDoors int db id afterId limit response.events) ↔
    ∀ id, validateVisitorConversation sha256 db publicId token now = .ok id →
      ∀ i row, db.events.get? i = some row → row.conversationId = id → 0 < i →
        Public int db row := by
  constructor
  · intro h id hid i row hget hconversation hi
    obtain ⟨conversation, hc⟩ := validated_get? hid
    refine public_of_sameDoors hc ?_ hget hconversation hi
    intro afterId limit
    obtain ⟨id', hid', hdoors⟩ := h afterId limit _ (poll_of_valid hid)
    obtain rfl := Except.ok.inj (hid.symm.trans hid')
    exact hdoors
  · intro h afterId limit response hpoll
    obtain ⟨id, hid, hresponse⟩ := bind_eq_ok.1 hpoll
    cases hresponse
    obtain ⟨conversation, hc⟩ := validated_get? hid
    exact ⟨id, hid, sameDoors_of_public hc (h id hid)⟩

/-- an operator asks for a handoff. -/
def internalRequest : WebchatEvent where
  conversationId := 1
  ticketId := some 1
  eventType := "handoff.requested"
  payload := some (.obj [("assigned_agent_id".toList, .num 7)])
  createdAt := none

def oneRequest : EventDb where
  events := Table.empty.insert internalRequest
  messages := Table.empty
  conversations := Table.empty.insert ⟨['c'], ['t'], none, none⟩
  tickets := Table.empty
  handoffs := []

/-- the visitor polls it, with the id of the operator. -/
theorem poll_leaks : ¬∀ afterId limit response,
    pollWebchatEvents id oneRequest ['c'] (some ['t']) afterId limit 0 = .ok response →
    ∃ id', validateVisitorConversation id oneRequest ['c'] (some ['t']) 0 = .ok id' ∧
      SameDoors plainInt oneRequest id' afterId limit response.events := by
  intro h
  have hid : validateVisitorConversation id oneRequest ['c'] (some ['t']) 0 = .ok 1 := by rfl
  obtain ⟨id', hid', hdoors⟩ := h 0 1 _ (poll_of_valid hid)
  have hrow : (1, internalRequest) ∈ pageRows oneRequest 1 0 1 :=
    mem_pageRows_one rfl Nat.one_pos
  obtain ⟨row, e, hget, he, -⟩ := hdoors.released (eventRead (1, internalRequest)) (by
    show _ ∈ (listEvents oneRequest (some 1) none 0 1).events
    rw [page_events]
    exact List.mem_map_of_mem hrow)
  obtain ⟨conversation, m, hopens⟩ := envelope_visitor_iff.1 he
  have hstored : row = internalRequest := (Option.some.inj hget).symm
  have htype := hopens.type
  rw [hstored] at htype
  exact absurd htype (by decide)

end NexusHelpdesk.Realtime
