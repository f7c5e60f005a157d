import NexusHelpdesk.Privacy.Erasure
import NexusHelpdesk.WhatsApp.Intake

/-!
# Every message is taken in

* `WellFormed`: the unique indexes and the references of conversations, controls and messages;
* `Keeps`: conversations keep their public ids, and control rows their customers;
* `Agreed`: the phone number, the chat and the conversation of a message name one customer;
* `StepOk`: a new message is agreed and its client id is new in its conversation.

`whatsapp_taken_in`: **in a run of such steps no call raises, every message is added once, and a
chat has one conversation and one customer**.
-/

namespace NexusHelpdesk.WhatsApp

open Lib Privacy

/-! ## the tables -/

structure WellFormed (db : SubjectDb) : Prop where
  publicId : ∀ i j c c', db.conversations.get? i = some c → db.conversations.get? j = some c' →
    c.publicId = c'.publicId → i = j
  control : ∀ i j r r', db.controls.get? i = some r → db.controls.get? j = some r' →
    r.conversationId = r'.conversationId → i = j
  owned : ∀ i r, db.controls.get? i = some r →
    (db.conversations.get? r.conversationId).isSome = true
  placed : ∀ i x, db.messages.get? i = some x →
    (db.conversations.get? x.conversationId).isSome = true

/-- what no operation takes back. -/
structure Keeps (db new : SubjectDb) : Prop where
  conversation : ∀ i c, db.conversations.get? i = some c →
    ∃ c', new.conversations.get? i = some c' ∧ c'.publicId = c.publicId
  control : ∀ i r k, db.controls.get? i = some r → r.customerId = some k →
    ∃ r', new.controls.get? i = some r' ∧ r'.conversationId = r.conversationId ∧
      r'.customerId = some k

section Tables
variable {db new newer : SubjectDb} {α : Type} {i : ℕ} {p : String} {c : WebchatConversation}
  {r : ConversationControl} {f : ℕ → WebchatConversation → WebchatConversation}

lemma Keeps.refl (db : SubjectDb) : Keeps db db :=
  ⟨fun _ c h => ⟨c, h, rfl⟩, fun _ r _ h hk => ⟨r, h, rfl, hk⟩⟩

lemma Keeps.trans (h : Keeps db new) (h' : Keeps new newer) : Keeps db newer := by
  constructor
  · intro i c hc
    obtain ⟨c₁, hc₁, hp₁⟩ := h.conversation i c hc
    obtain ⟨c₂, hc₂, hp₂⟩ := h'.conversation i c₁ hc₁
    exact ⟨c₂, hc₂, hp₂.trans hp₁⟩
  · intro i r k hr hk
    obtain ⟨r₁, hr₁, hid₁, hk₁⟩ := h.control i r k hr hk
    obtain ⟨r₂, hr₂, hid₂, hk₂⟩ := h'.control i r₁ k hr₁ hk₁
    exact ⟨r₂, hr₂, hid₂.trans hid₁, hk₂⟩

lemma WellFormed.of_eq (h : WellFormed db) (hc : new.conversations = db.conversations)
    (hr : new.controls = db.controls) (hm : new.messages = db.messages) : WellFormed new := by
  refine ⟨?_, ?_, ?_, ?_⟩
  · rw [hc]
    exact h.publicId
  · rw [hr]
    exact h.control
  · rw [hr, hc]
    exact h.owned
  · rw [hm, hc]
    exact h.placed

lemma Keeps.of_eq (hc : new.conversations = db.conversations) (hr : new.controls = db.controls) :
    Keeps db new := by
  constructor
  · intro i c h
    rw [hc]
    exact ⟨c, h, rfl⟩
  · intro i r k h hk
    rw [hr]
    exact ⟨r, h, rfl, hk⟩

lemma head?_select {t : Table α} {p : ℕ → α → Bool} {a : α} (h : (t.select p).head? = some (i, a)) :
    t.get? i = some a ∧ p i a = true :=
  t.mem_select.1 (List.mem_of_head? h)

lemma head?_select_none {t : Table α} {p : ℕ → α → Bool} (h : (t.select p).head? = none) {a : α}
    (hrow : t.get? i = some a) : p i a = false := by
  by_contra hp
  have hmem := t.mem_select.2 ⟨hrow, Bool.eq_true_of_not_eq_false hp⟩
  rw [List.head?_eq_none_iff.1 h] at hmem
  cases hmem

lemma conversationOf_eq_some (h : conversationOf db p = some (i, c)) :
    db.conversations.get? i = some c ∧ c.publicId = p := by
  obtain ⟨hrow, hp⟩ := head?_select h
  exact ⟨hrow, of_decide_eq_true hp⟩

lemma conversationOf_eq_none (h : conversationOf db p = none)
    (hrow : db.conversations.get? i = some c) : c.publicId ≠ p :=
  of_decide_eq_false (head?_select_none h hrow)

lemma controlOf_eq_some {id i : ℕ} (h : controlOf db id = some (i, r)) :
    db.controls.get? i = some r ∧ r.conversationId = id := by
  obtain ⟨hrow, hp⟩ := head?_select h
  exact ⟨hrow, of_decide_eq_true hp⟩

lemma controlOf_eq_none {id : ℕ} (h : controlOf db id = none) (hrow : db.controls.get? i = some r) :
    r.conversationId ≠ id :=
  of_decide_eq_false (head?_select_none h hrow)

lemma WellFormed.mapConversations (h : WellFormed db) (hf : ∀ i c, (f i c).publicId = c.publicId) :
    WellFormed { db with conversations := db.conversations.mapRows f } := by
  have hsome : ∀ i, (db.conversations.get? i).isSome = true →
      ((db.conversations.mapRows f).get? i).isSome = true := by
    intro i hi
    rw [Table.get?_mapRows, Option.isSome_map]
    exact hi
  refine ⟨?_, h.control, fun i r hr => hsome _ (h.owned i r hr),
    fun i x hx => hsome _ (h.placed i x hx)⟩
  intro i j c c' hc hc' hp
  change ((db.conversations.mapRows f).get? i) = some c at hc
  change ((db.conversations.mapRows f).get? j) = some c' at hc'
  rw [Table.get?_mapRows] at hc hc'
  obtain ⟨d, hd, rfl⟩ := Option.map_eq_some_iff.1 hc
  obtain ⟨d', hd', rfl⟩ := Option.map_eq_some_iff.1 hc'
  rw [hf, hf] at hp
  exact h.publicId i j d d' hd hd' hp

lemma Keeps.mapConversations (hf : ∀ i c, (f i c).publicId = c.publicId) :
    Keeps db { db with conversations := db.conversations.mapRows f } := by
  refine ⟨?_, fun i r k hr hk => ⟨r, hr, rfl, hk⟩⟩
  intro i c hc
  refine ⟨f i c, ?_, hf i c⟩
  show (db.conversations.mapRows f).get? i = some (f i c)
  rw [Table.get?_mapRows, hc]
  rfl

lemma WellFormed.mapControls (h : WellFormed db) {f : ℕ → ConversationControl →
    ConversationControl} (hf : ∀ i r, (f i r).conversationId = r.conversationId) :
    WellFormed { db with controls := db.controls.mapRows f } := by
  refine ⟨h.publicId, ?_, ?_, h.placed⟩
  · intro i j r r' hr hr' hid
    change ((db.controls.mapRows f).get? i) = some r at hr
    change ((db.controls.mapRows f).get? j) = some r' at hr'
    rw [Table.get?_mapRows] at hr hr'
    obtain ⟨s, hs, rfl⟩ := Option.map_eq_some_iff.1 hr
    obtain ⟨s', hs', rfl⟩ := Option.map_eq_some_iff.1 hr'
    rw [hf, hf] at hid
    exact h.control i j s s' hs hs' hid
  · intro i r hr
    change ((db.controls.mapRows f).get? i) = some r at hr
    rw [Table.get?_mapRows] at hr
    obtain ⟨s, hs, rfl⟩ := Option.map_eq_some_iff.1 hr
    rw [hf]
    exact h.owned i s hs

lemma Keeps.mapControls {f : ℕ → ConversationControl → ConversationControl}
    (hf : ∀ i r, (f i r).conversationId = r.conversationId)
    (hk : ∀ i r k, db.controls.get? i = some r → r.customerId = some k →
      (f i r).customerId = some k) :
    Keeps db { db with controls := db.controls.mapRows f } := by
  refine ⟨fun i c hc => ⟨c, hc, rfl⟩, ?_⟩
  intro i r k hr hcustomer
  refine ⟨f i r, ?_, hf i r, hk i r k hr hcustomer⟩
  show (db.controls.mapRows f).get? i = some (f i r)
  rw [Table.get?_mapRows, hr]
  rfl

end Tables

/-! ## the condition -/

section Condition
variable (env : IntakeEnv)

/-- the conversation of the message's chat has its client id. -/
def HasMessage (db : SubjectDb) (m : CustomerMessage) : Prop :=
  ∃ i c, conversationOf db (channelConversationPublicId env m.account m.chatJid) = some (i, c) ∧
    (messageOf db i (clientId m.externalId)).isSome = true

/-- a customer, or a new one, whom the phone number, the chat and the conversation agree on. -/
def Agreed (db : SubjectDb) (m : CustomerMessage) : Prop :=
  ∃ primary chat known, primaryIdentity env m = .ok primary ∧
    customerIdentity env "external_ref" (chatRef m.chatJid) = .ok chat ∧
    knownCustomer db m.account.tenantId primary = .ok known ∧
    (∀ b, bindingOf db m.account.tenantId chat = some b → known = some b.customerId) ∧
    ∀ i c, conversationOf db (channelConversationPublicId env m.account m.chatJid) = some (i, c) →
      c.tenantKey = m.account.tenantKey ∧ c.channelKey = "whatsapp" ∧
      (∀ k r, controlOf db i = some (k, r) → controlFits m.account known r = true) ∧
      ∀ t, ticketOf db i = some t → t.2.tenantId = some m.account.tenantId

def SameId (m m' : CustomerMessage) : Prop :=
  m.account.id = m'.account.id ∧ m.externalId = m'.externalId

def Delivered (w : IntakeWorld) (m : CustomerMessage) : Prop :=
  ∃ e ∈ w.intakes, SameId e.message m

def StepOk (w : IntakeWorld) : IntakeStep → Prop
  | .ingest now p => ∀ m, readMessage env p = .ok m →
    (Delivered w m →
      (ledgerRow w.db m).isSome = true ∨ (Agreed env w.db m ∧ HasMessage env w.db m)) ∧
    (¬ Delivered w m →
      ledgerRow w.db m = none ∧ Agreed env w.db m ∧ ¬ HasMessage env w.db m)
  | .request _ | .correct .. | .erase .. => True

def AddedOnce (e : Intake) (earlier : List Intake) : Prop :=
  ((∃ d ∈ earlier, SameId d.message e.message) → e.after = e.before) ∧
    ((¬ ∃ d ∈ earlier, SameId d.message e.message) →
      ∃ context x, e.context = some context ∧ e.after = e.before.insert x ∧
        x.direction = "visitor" ∧ x.conversationId = context.conversationId)

structure TakenIn (w : IntakeWorld) : Prop where
  raised : w.raised = []
  added : ∀ later e earlier, w.intakes = later ++ e :: earlier → AddedOnce e earlier
  /-- a message goes to the conversation of its chat. -/
  chat : ∀ e ∈ w.intakes, ∀ context, e.context = some context →
    ∃ c, w.db.conversations.get? context.conversationId = some c ∧
      c.publicId = channelConversationPublicId env e.message.account e.message.chatJid
  /-- the messages of a chat have one conversation and one customer. -/
  one : ∀ e ∈ w.intakes, ∀ e' ∈ w.intakes, ∀ context context',
    e.message.account = e'.message.account → e.message.chatJid = e'.message.chatJid →
      e.context = some context → e'.context = some context' → context = context'

end Condition

/-! ## identities -/

section Identities
variable {env : IntakeEnv} {db new : SubjectDb} {now : Instant} {tenantId customerId : ℕ}
  {i j : Customers.CustomerIdentity} {name : String}

lemma bindingOf_addBinding :
    bindingOf (addBinding db now tenantId customerId i) tenantId j =
      (bindingOf db tenantId j).or (if i = j then some
        ⟨some tenantId, customerId, i.kind, String.ofList i.value, "whatsapp", now, now⟩
        else none) := by
  have hmatch : (decide (some tenantId = some tenantId) && decide (i.kind = j.kind) &&
      decide (String.ofList i.value = String.ofList j.value)) = decide (i = j) := by
    rw [Bool.eq_iff_iff, Bool.and_eq_true, Bool.and_eq_true, decide_eq_true_iff,
      decide_eq_true_iff, decide_eq_true_iff, decide_eq_true_iff]
    constructor
    · rintro ⟨⟨-, hkind⟩, hvalue⟩
      obtain ⟨kind, value⟩ := i
      obtain ⟨kind', value'⟩ := j
      have hchars := congrArg String.toList hvalue
      rw [String.toList_ofList, String.toList_ofList] at hchars
      dsimp only at hkind hchars
      rw [hkind, hchars]
    · rintro rfl
      exact ⟨⟨rfl, rfl⟩, rfl⟩
  unfold bindingOf addBinding
  dsimp only
  rw [Table.select_insert, List.head?_append, hmatch]
  by_cases h : i = j
  · rw [if_pos (decide_eq_true h), if_pos h]
    cases (db.bindings.select _).head? with
    | none => rfl
    | some x => rfl
  · rw [if_neg (fun hc => h (of_decide_eq_true hc)), if_neg h]
    cases (db.bindings.select _).head? with
    | none => rfl
    | some x => rfl

lemma or_bound {p : Prop} [Decidable p] (old : Option CustomerIdentityBinding)
    (b : CustomerIdentityBinding) : old.or (if p then some b else none) = old ∨
      ∃ x, old.or (if p then some b else none) = some x ∧ x.customerId = b.customerId := by
  cases old with
  | some x => exact Or.inl rfl
  | none =>
    by_cases hp : p
    · rw [if_pos hp]
      exact Or.inr ⟨_, rfl, rfl⟩
    · rw [if_neg hp]
      exact Or.inl rfl

variable (now) (j) (name) in
lemma resolveOrCreateCustomer_ok {known : Option ℕ}
    (hknown : knownCustomer db tenantId i = .ok known) :
    ∃ id new, resolveOrCreateCustomer db now tenantId i name = .ok (id, new) ∧
      (∀ k, known = some k → id = k) ∧
      (bindingOf new tenantId j = bindingOf db tenantId j ∨
        ∃ b, bindingOf new tenantId j = some b ∧ b.customerId = id) := by
  unfold resolveOrCreateCustomer
  rw [hknown]
  cases known with
  | none =>
    refine ⟨_, _, rfl, fun k hk => absurd hk (Option.some_ne_none k).symm, ?_⟩
    rw [bindingOf_addBinding]
    exact or_bound (bindingOf db tenantId j) _
  | some k =>
    refine ⟨_, _, rfl, fun k' hk => Option.some.inj hk, ?_⟩
    split
    · exact Or.inl rfl
    · rw [bindingOf_addBinding]
      exact or_bound (bindingOf db tenantId j) _

def SameBut (db new : SubjectDb) : Prop :=
  ∃ customers bindings, new = { db with customers := customers, bindings := bindings }

lemma sameBut_resolve {id : ℕ}
    (h : resolveOrCreateCustomer db now tenantId i name = .ok (id, new)) :
    SameBut db new := by
  unfold resolveOrCreateCustomer at h
  obtain ⟨known, -, h⟩ := bind_eq_ok.1 h
  cases known with
  | none =>
    cases h
    exact ⟨_, _, rfl⟩
  | some k =>
    cases h
    split
    · exact ⟨_, _, rfl⟩
    · exact ⟨_, _, rfl⟩

lemma sameBut_bind (h : bindCustomerIdentity db now tenantId customerId i name = .ok new) :
    SameBut db new := by
  unfold bindCustomerIdentity at h
  split at h
  · split at h
    · cases h
      exact ⟨_, _, rfl⟩
    · cases h
  · cases h
    exact ⟨_, _, rfl⟩

lemma SameBut.trans {newer : SubjectDb} (h : SameBut db new) (h' : SameBut new newer) :
    SameBut db newer := by
  obtain ⟨_, _, rfl⟩ := h
  obtain ⟨cs, bs, rfl⟩ := h'
  exact ⟨cs, bs, rfl⟩

variable (now) (name) in
lemma bindCustomerIdentity_isOk
    (h : ∀ b, bindingOf db tenantId i = some b → b.customerId = customerId) :
    ∃ new, bindCustomerIdentity db now tenantId customerId i name = .ok new := by
  unfold bindCustomerIdentity
  cases hb : bindingOf db tenantId i with
  | none => exact ⟨_, rfl⟩
  | some b =>
    dsimp only
    rw [if_pos (h b hb)]
    exact ⟨_, rfl⟩

end Identities

section Conversations
variable {env : IntakeEnv} {db new : SubjectDb} {now : Instant} {m : CustomerMessage}
  {customerId id : ℕ}

lemma ticketOf_congr (hc : new.conversations = db.conversations) (ht : new.tickets = db.tickets)
    (id : ℕ) : ticketOf new id = ticketOf db id := by
  unfold ticketOf
  rw [hc, ht]

lemma resolveConversation_ok (hw : WellFormed db)
    (h : resolveConversation env db now m customerId = .ok (id, new)) :
    WellFormed new ∧ Keeps db new ∧ new.controls = db.controls ∧ new.messages = db.messages ∧
      (∃ c, new.conversations.get? id = some c ∧
        c.publicId = channelConversationPublicId env m.account m.chatJid) ∧
      ((∃ c, conversationOf db (channelConversationPublicId env m.account m.chatJid) =
          some (id, c)) ∨
        (conversationOf db (channelConversationPublicId env m.account m.chatJid) = none ∧
          id = db.conversations.next)) ∧
      ticketOf new id = ticketOf db id := by
  unfold resolveConversation at h
  cases hconv : conversationOf db (channelConversationPublicId env m.account m.chatJid) with
  | none =>
    rw [hconv] at h
    cases h
    have hold : ∀ j, (db.conversations.get? j).isSome = true →
        ∀ c, ((db.conversations.insert c).get? j).isSome = true := by
      intro j hj c
      obtain ⟨d, hd⟩ := Option.isSome_iff_exists.1 hj
      rw [Table.get?_insert_of_some _ hd]
      rfl
    have hnew : ∀ j c, (db.conversations.insert
        (newConversation env now m (db.customers.get? customerId))).get? j = some c →
        (j = db.conversations.next ∧
          c.publicId = channelConversationPublicId env m.account m.chatJid) ∨
        db.conversations.get? j = some c := by
      intro j c hrow
      rw [Table.get?_insert] at hrow
      by_cases hj : j = db.conversations.next
      · rw [if_pos hj] at hrow
        cases hrow
        exact Or.inl ⟨hj, rfl⟩
      · rw [if_neg hj] at hrow
        exact Or.inr hrow
    refine ⟨⟨?_, hw.control, fun i r hr => hold _ (hw.owned i r hr) _,
      fun i x hx => hold _ (hw.placed i x hx) _⟩, ⟨?_, ?_⟩, rfl, rfl,
      ⟨_, Table.get?_insert_self _ _,
      rfl⟩, Or.inr ⟨rfl, rfl⟩, ?_⟩
    · intro i j c c' hc hc' hp
      rcases hnew i c hc with ⟨hi, hpi⟩ | hc
      · rcases hnew j c' hc' with ⟨hj, -⟩ | hc'
        · exact hi.trans hj.symm
        · exact absurd (hp.symm.trans hpi) (conversationOf_eq_none hconv hc')
      · rcases hnew j c' hc' with ⟨-, hpj⟩ | hc'
        · exact absurd (hp.trans hpj) (conversationOf_eq_none hconv hc)
        · exact hw.publicId i j c c' hc hc' hp
    · intro i c hc
      exact ⟨c, Table.get?_insert_of_some _ hc, rfl⟩
    · intro i r k hr hk
      exact ⟨r, hr, rfl, hk⟩
    · -- a new conversation has no ticket, and there was none of its id
      unfold ticketOf
      rw [db.conversations.get?_eq_none_of_le (le_refl _)]
      show ((db.conversations.insert _).get? _).bind _ = _
      rw [Table.get?_insert_self]
      rfl
  | some x =>
    obtain ⟨i, c⟩ := x
    rw [hconv] at h
    dsimp only at h
    split at h
    · cases h
      obtain ⟨hrow, hp⟩ := conversationOf_eq_some hconv
      have hsame : ∀ j d, (if j = id then seenConversation now m d else d :
          WebchatConversation).publicId = d.publicId := by
        intro j d
        split
        · rfl
        · rfl
      rw [Table.modify_eq_mapRows]
      refine ⟨hw.mapConversations hsame, Keeps.mapConversations hsame, rfl, rfl, ?_,
        Or.inl ⟨c, rfl⟩, ?_⟩
      · refine ⟨seenConversation now m c, ?_, hp⟩
        show (db.conversations.mapRows _).get? id = _
        rw [Table.get?_mapRows, hrow]
        exact congrArg some (if_pos rfl)
      · unfold ticketOf
        show ((db.conversations.mapRows _).get? id).bind _ = _
        rw [Table.get?_mapRows, hrow, Option.map_some, if_pos rfl]
        rfl
    · cases h

lemma resolveControl_ok {account : ActiveAccount} {conversationId : ℕ} (hw : WellFormed db)
    (hconv : (db.conversations.get? conversationId).isSome = true)
    (h : resolveControl db account conversationId customerId = .ok new) :
    WellFormed new ∧ Keeps db new ∧ new.conversations = db.conversations ∧
      new.messages = db.messages ∧ new.tickets = db.tickets ∧
      ∃ k r, new.controls.get? k = some r ∧ r.conversationId = conversationId ∧
        r.customerId = some customerId := by
  unfold resolveControl at h
  cases hcontrol : controlOf db conversationId with
  | none =>
    rw [hcontrol] at h
    cases h
    have hnew : ∀ j r x, (db.controls.insert x).get? j = some r →
        (j = db.controls.next ∧ r = x) ∨ db.controls.get? j = some r := by
      intro j r x hrow
      rw [Table.get?_insert] at hrow
      by_cases hj : j = db.controls.next
      · rw [if_pos hj] at hrow
        cases hrow
        exact Or.inl ⟨hj, rfl⟩
      · rw [if_neg hj] at hrow
        exact Or.inr hrow
    refine ⟨⟨hw.publicId, ?_, ?_, hw.placed⟩, ⟨fun i c hc => ⟨c, hc, rfl⟩, ?_⟩, rfl, rfl, rfl,
      ⟨_, _, Table.get?_insert_self _ _, rfl, rfl⟩⟩
    · intro i j r r' hr hr' hid
      rcases hnew i r _ hr with ⟨hi, rfl⟩ | hr
      · rcases hnew j r' _ hr' with ⟨hj, -⟩ | hr'
        · exact hi.trans hj.symm
        · exact absurd hid.symm (controlOf_eq_none hcontrol hr')
      · rcases hnew j r' _ hr' with ⟨-, rfl⟩ | hr'
        · exact absurd hid (controlOf_eq_none hcontrol hr)
        · exact hw.control i j r r' hr hr' hid
    · intro i r hr
      rcases hnew i r _ hr with ⟨-, rfl⟩ | hr
      · exact hconv
      · exact hw.owned i r hr
    · intro i r k hr hk
      exact ⟨r, Table.get?_insert_of_some _ hr, rfl, hk⟩
  | some x =>
    obtain ⟨i, c⟩ := x
    rw [hcontrol] at h
    dsimp only at h
    split at h
    · rename_i hfits
      cases h
      obtain ⟨hrow, hid⟩ := controlOf_eq_some hcontrol
      have hcustomer : c.customerId = none ∨ c.customerId = some customerId := by
        unfold controlFits at hfits
        rw [Bool.and_eq_true, Bool.and_eq_true, Bool.or_eq_true, decide_eq_true_iff,
          decide_eq_true_iff] at hfits
        exact hfits.1.2
      have hsame : ∀ j r, (if j = i then { r with
          customerId := some customerId
          countryCode := account.countryCode.or r.countryCode } else r : ConversationControl).conversationId = r.conversationId := by
        intro j r
        split
        · rfl
        · rfl
      rw [Table.modify_eq_mapRows]
      refine ⟨hw.mapControls hsame, Keeps.mapControls hsame ?_, rfl, rfl, rfl, i,
        { c with
          customerId := some customerId, countryCode := account.countryCode.or c.countryCode },
        ?_, hid, rfl⟩
      · intro j r k hr hk
        by_cases hj : j = i
        · subst hj
          rw [hrow] at hr
          cases hr
          rw [if_pos rfl]
          rcases hcustomer with hnone | hsome
          · rw [hnone] at hk
            cases hk
          · exact hsome.symm.trans hk
        · rw [if_neg hj]
          exact hk
      · show (db.controls.mapRows _).get? i = _
        rw [Table.get?_mapRows, hrow]
        exact congrArg some (if_pos rfl)
    · cases h

end Conversations

/-! ## one message -/

section Message
variable {env : IntakeEnv} {db new : SubjectDb} {now : Instant} {m : CustomerMessage}
  {context : IntakeContext} {account : ActiveAccount} {id : ℕ}

structure Settled (env : IntakeEnv) (new : SubjectDb) (m : CustomerMessage)
    (context : IntakeContext) : Prop where
  conversation : ∃ c, new.conversations.get? context.conversationId = some c ∧
    c.publicId = channelConversationPublicId env m.account m.chatJid
  control : ∃ k r, new.controls.get? k = some r ∧ r.conversationId = context.conversationId ∧
    r.customerId = some context.customerId

lemma Settled.keeps {newer : SubjectDb} (h : Settled env new m context) (hk : Keeps new newer) :
    Settled env newer m context := by
  obtain ⟨c, hc, hp⟩ := h.conversation
  obtain ⟨k, r, hr, hid, hcustomer⟩ := h.control
  obtain ⟨c', hc', hp'⟩ := hk.conversation _ c hc
  obtain ⟨r', hr', hid', hcustomer'⟩ := hk.control k r _ hr hcustomer
  exact ⟨⟨c', hc', hp'.trans hp⟩, ⟨k, r', hr', hid'.trans hid, hcustomer'⟩⟩

lemma Settled.unique {m' : CustomerMessage} {context' : IntakeContext} (hw : WellFormed new)
    (h : Settled env new m context) (h' : Settled env new m' context')
    (haccount : m.account = m'.account) (hchat : m.chatJid = m'.chatJid) : context = context' := by
  obtain ⟨c, hc, hp⟩ := h.conversation
  obtain ⟨c', hc', hp'⟩ := h'.conversation
  obtain ⟨k, r, hr, hid, hcustomer⟩ := h.control
  obtain ⟨k', r', hr', hid', hcustomer'⟩ := h'.control
  have hsame : context.conversationId = context'.conversationId := by
    refine hw.publicId _ _ c c' hc hc' ?_
    rw [hp, hp', haccount, hchat]
  have hrow : k = k' := hw.control k k' r r' hr hr' (hid.trans (hsame.trans hid'.symm))
  subst hrow
  rw [hr] at hr'
  cases hr'
  rw [hcustomer] at hcustomer'
  have hcustomers : context.customerId = context'.customerId := Option.some.inj hcustomer'
  obtain ⟨customer, conversation⟩ := context
  obtain ⟨customer', conversation'⟩ := context'
  dsimp only at hsame hcustomers
  rw [hsame, hcustomers]

lemma resolveChannelIntakeContext_ok (hw : WellFormed db)
    (h : resolveChannelIntakeContext env db now m = .ok (context, new)) :
    WellFormed new ∧ Keeps db new ∧ new.messages = db.messages ∧ Settled env new m context ∧
      ((∃ c, conversationOf db (channelConversationPublicId env m.account m.chatJid) =
          some (context.conversationId, c)) ∨
        (conversationOf db (channelConversationPublicId env m.account m.chatJid) = none ∧
          context.conversationId = db.conversations.next)) ∧
      ticketOf new context.conversationId = ticketOf db context.conversationId := by
  unfold resolveChannelIntakeContext at h
  obtain ⟨primary, -, h⟩ := bind_eq_ok.1 h
  obtain ⟨⟨customerId, db₁⟩, h₁, h⟩ := bind_eq_ok.1 h
  obtain ⟨chat, -, h⟩ := bind_eq_ok.1 h
  obtain ⟨db₂, h₂, h⟩ := bind_eq_ok.1 h
  obtain ⟨⟨conversationId, db₃⟩, h₃, h⟩ := bind_eq_ok.1 h
  obtain ⟨db₄, h₄, h⟩ := bind_eq_ok.1 h
  cases h
  obtain ⟨customers, bindings, rfl⟩ := (sameBut_resolve h₁).trans (sameBut_bind h₂)
  have hw₂ : WellFormed { db with customers := customers, bindings := bindings } :=
    hw.of_eq rfl rfl rfl
  have hk₂ : Keeps db { db with customers := customers, bindings := bindings } :=
    Keeps.of_eq rfl rfl
  obtain ⟨hw₃, hk₃, -, hm₃, hconv, hfound, ht₃⟩ := resolveConversation_ok hw₂ h₃
  obtain ⟨c, hc, hp⟩ := hconv
  obtain ⟨hw₄, hk₄, hc₄, hm₄, ht₄, hcontrol⟩ :=
    resolveControl_ok hw₃ (by rw [hc]; rfl) h₄
  refine ⟨hw₄, hk₂.trans (hk₃.trans hk₄), hm₄.trans hm₃, ⟨⟨c, ?_, hp⟩, hcontrol⟩, hfound,
    (ticketOf_congr hc₄ ht₄ _).trans ht₃⟩
  rw [hc₄]
  exact hc

variable (db) (now) in
lemma resolveConversation_isOk (customerId : ℕ)
    (h : ∀ i c, conversationOf db (channelConversationPublicId env m.account m.chatJid) =
      some (i, c) → c.tenantKey = m.account.tenantKey ∧ c.channelKey = "whatsapp") :
    ∃ r, resolveConversation env db now m customerId = .ok r := by
  unfold resolveConversation
  cases hfound : conversationOf db (channelConversationPublicId env m.account m.chatJid) with
  | none => exact ⟨_, rfl⟩
  | some x =>
    dsimp only
    rw [if_pos (h x.1 x.2 hfound)]
    exact ⟨_, rfl⟩

lemma resolveControl_isOk {conversationId customerId : ℕ}
    (h : ∀ k r, controlOf db conversationId = some (k, r) →
      controlFits account (some customerId) r = true) :
    ∃ r, resolveControl db account conversationId customerId = .ok r := by
  unfold resolveControl
  cases hfound : controlOf db conversationId with
  | none => exact ⟨_, rfl⟩
  | some x =>
    dsimp only
    rw [if_pos (h x.1 x.2 hfound)]
    exact ⟨_, rfl⟩

lemma controlFits_found {known : Option ℕ} {r : ConversationControl}
    (hid : ∀ k, known = some k → id = k) (h : controlFits account known r = true) :
    controlFits account (some id) r = true := by
  cases known with
  | some k =>
    rw [hid k rfl]
    exact h
  | none =>
    unfold controlFits at h ⊢
    rw [Bool.and_eq_true, Bool.and_eq_true] at h ⊢
    refine ⟨⟨h.1.1, ?_⟩, h.2⟩
    have hnone := h.1.2
    rw [Bool.or_self] at hnone
    rw [hnone, Bool.true_or]

variable (now) in
lemma resolveChannelIntakeContext_isOk (h : Agreed env db m) (hw : WellFormed db) :
    ∃ r, resolveChannelIntakeContext env db now m = .ok r := by
  obtain ⟨primary, chat, known, hprimary, hchat, hknown, hbound, hconv⟩ := h
  obtain ⟨customerId, db₁, h₁, hid, hbinding⟩ :=
    resolveOrCreateCustomer_ok now chat (displayName m) hknown
  have hfree : ∀ b, bindingOf db₁ m.account.tenantId chat = some b → b.customerId = customerId := by
    intro b hb
    rcases hbinding with hsame | ⟨b', hb', hmine⟩
    · rw [hsame] at hb
      exact (hid _ (hbound b hb)).symm
    · rw [hb] at hb'
      cases hb'
      exact hmine
  obtain ⟨db₂, h₂⟩ := bindCustomerIdentity_isOk now (displayName m) hfree
  obtain ⟨customers, bindings, rfl⟩ := (sameBut_resolve h₁).trans (sameBut_bind h₂)
  unfold resolveChannelIntakeContext
  refine bind_isOk.2 ⟨primary, hprimary, bind_isOk.2 ⟨_, h₁, bind_isOk.2 ⟨chat, hchat,
    bind_isOk.2 ⟨_, h₂, ?_⟩⟩⟩⟩
  have hw₂ : WellFormed { db with customers := customers, bindings := bindings } :=
    hw.of_eq rfl rfl rfl
  obtain ⟨⟨conversationId, db₃⟩, h₃⟩ := resolveConversation_isOk
    { db with customers := customers, bindings := bindings } now customerId
    fun i c hc => ⟨(hconv i c hc).1, (hconv i c hc).2.1⟩
  refine bind_isOk.2 ⟨_, h₃, ?_⟩
  obtain ⟨-, -, hcontrols, -, -, hfound, -⟩ := resolveConversation_ok hw₂ h₃
  have hfits : ∀ k r, controlOf db₃ conversationId = some (k, r) →
      controlFits m.account (some customerId) r = true := by
    intro k r hrow
    unfold controlOf at hrow
    rw [hcontrols] at hrow
    rcases hfound with ⟨c, hc⟩ | ⟨-, hnew⟩
    · exact controlFits_found hid ((hconv conversationId c hc).2.2.1 k r hrow)
    · obtain ⟨hget, hid'⟩ := controlOf_eq_some hrow
      have hexists := hw.owned k r hget
      rw [hid', hnew, db.conversations.get?_eq_none_of_le (le_refl _)] at hexists
      cases hexists
  obtain ⟨db₄, h₄⟩ := resolveControl_isOk hfits
  exact bind_isOk.2 ⟨_, h₄, _, rfl⟩

lemma clientId_ne (m : CustomerMessage) : clientId m.externalId ≠ "" := by
  have hne := m.externalId_ne
  unfold clientId cut
  intro h
  have hchars := congrArg String.toList h
  rw [String.toList_ofList] at hchars
  have hnil : (PyStr.strip m.externalId).toList = [] := by
    cases hl : (PyStr.strip m.externalId).toList with
    | nil => rfl
    | cons c cs =>
      rw [hl] at hchars
      cases hchars
  exact hne (String.toList_inj.1 hnil)

lemma appendChannelCustomerMessage_ok {conversationId messageId : ℕ} {ticketId : Option ℕ}
    (hw : WellFormed db) (hconv : (db.conversations.get? conversationId).isSome = true)
    (h : appendChannelCustomerMessage db now m conversationId = .ok (messageId, ticketId, new)) :
    WellFormed new ∧ Keeps db new ∧
      ((messageOf db conversationId (clientId m.externalId)).isSome = true →
        new.messages = db.messages) ∧
      ((messageOf db conversationId (clientId m.externalId)).isSome = false →
        new.messages = db.messages.insert (newMessage m conversationId)) := by
  unfold appendChannelCustomerMessage at h
  rw [if_neg (fun hc => hc.elim (clientId_ne m) m.body_ne)] at h
  dsimp only at h
  split at h
  · cases h
  · cases hfound : messageOf db conversationId (clientId m.externalId) with
    | some x =>
      rw [hfound] at h
      cases h
      exact ⟨hw, Keeps.refl db, fun _ => rfl, fun hc => absurd hc Bool.true_eq_false.mp⟩
    | none =>
      rw [hfound] at h
      cases h
      have hid : ∀ j d, (if j = conversationId then { d with status := "open", updatedAt := now }
          else d : WebchatConversation).publicId = d.publicId := by
        intro j d
        split
        · rfl
        · rfl
      have hcontrol : ∀ (j : ℕ) (c : ConversationControl), (if c.conversationId = conversationId
          then { c with outcome := none, closedAt := none } else c).conversationId =
          c.conversationId ∧ (if c.conversationId = conversationId
          then { c with outcome := none, closedAt := none } else c).customerId = c.customerId := by
        intro j c
        split
        · exact ⟨rfl, rfl⟩
        · exact ⟨rfl, rfl⟩
      have hw₁ := (hw.mapConversations hid).mapControls fun j c => (hcontrol j c).1
      have hk₁ : Keeps db (reopenConversation db now conversationId) := by
        unfold reopenConversation
        rw [Table.modify_eq_mapRows]
        exact (Keeps.mapConversations hid).trans
          (Keeps.mapControls (fun j c => (hcontrol j c).1)
            fun j c k _ hk => (hcontrol j c).2.trans hk)
      have hw₂ : WellFormed (reopenConversation db now conversationId) := by
        unfold reopenConversation
        rw [Table.modify_eq_mapRows]
        exact hw₁
      refine ⟨⟨hw₂.publicId, hw₂.control, hw₂.owned, ?_⟩, hk₁.trans (Keeps.of_eq rfl rfl),
        fun hc => absurd hc Bool.false_ne_true, fun _ => rfl⟩
      intro i x hx
      change (db.messages.insert (newMessage m conversationId)).get? i = some x at hx
      rw [Table.get?_insert] at hx
      by_cases hi : i = db.messages.next
      · rw [if_pos hi] at hx
        cases hx
        obtain ⟨c, hc⟩ := Option.isSome_iff_exists.1 hconv
        obtain ⟨c', hc', -⟩ := hk₁.conversation _ c hc
        exact Option.isSome_iff_exists.2 ⟨c', hc'⟩
      · rw [if_neg hi] at hx
        exact hw₂.placed i x hx

variable (now) in
lemma appendChannelCustomerMessage_isOk {conversationId : ℕ}
    (h : ∀ t, ticketOf db conversationId = some t → t.2.tenantId = some m.account.tenantId) :
    ∃ r, appendChannelCustomerMessage db now m conversationId = .ok r := by
  have hticket : ((ticketOf db conversationId).any fun t =>
      decide (t.2.tenantId ≠ some m.account.tenantId)) = false := by
    cases ht : ticketOf db conversationId with
    | none => rfl
    | some t => exact decide_eq_false (not_not.2 (h t ht))
  unfold appendChannelCustomerMessage
  rw [if_neg (fun hc => hc.elim (clientId_ne m) m.body_ne)]
  dsimp only
  rw [hticket, if_neg Bool.false_ne_true]
  cases messageOf db conversationId (clientId m.externalId) with
  | some x => exact ⟨_, rfl⟩
  | none => exact ⟨_, rfl⟩

lemma hasMessage_iff (hw : WellFormed db)
    (h : (∃ c, conversationOf db (channelConversationPublicId env m.account m.chatJid) =
        some (id, c)) ∨
      (conversationOf db (channelConversationPublicId env m.account m.chatJid) = none ∧
        id = db.conversations.next)) :
    HasMessage env db m ↔ (messageOf db id (clientId m.externalId)).isSome = true := by
  unfold HasMessage
  rcases h with ⟨c, hc⟩ | ⟨hnone, hnew⟩
  · rw [hc]
    constructor
    · rintro ⟨i, c', hsame, hmessage⟩
      cases hsame
      exact hmessage
    · intro hmessage
      exact ⟨id, c, rfl, hmessage⟩
  · rw [hnone]
    constructor
    · rintro ⟨i, c, hc, -⟩
      cases hc
    · intro hmessage
      exfalso
      obtain ⟨⟨i, x⟩, hx⟩ := Option.isSome_iff_exists.1 hmessage
      obtain ⟨hrow, hp⟩ := head?_select hx
      have hid : x.conversationId = id := of_decide_eq_true (Bool.and_eq_true_iff.1 hp).1
      have hexists := hw.placed i x hrow
      rw [hid, hnew, db.conversations.get?_eq_none_of_le (le_refl _)] at hexists
      cases hexists

lemma projectMessage_ok (hw : WellFormed db)
    (h : projectMessage env db now m = .ok (context, new)) :
    WellFormed new ∧ Keeps db new ∧ Settled env new m context ∧
      (HasMessage env db m → new.messages = db.messages) ∧
      (¬ HasMessage env db m →
        new.messages = db.messages.insert (newMessage m context.conversationId)) := by
  unfold projectMessage at h
  obtain ⟨⟨context', db₁⟩, h₁, h⟩ := bind_eq_ok.1 h
  obtain ⟨⟨messageId, ticketId, db₂⟩, h₂, h⟩ := bind_eq_ok.1 h
  cases h
  have hw₀ : WellFormed { db with
      whatsappInbound := db.whatsappInbound.insert (newLedgerRow m) } := hw.of_eq rfl rfl rfl
  obtain ⟨hw₁, hk₁, hm₁, hsettled, hfound, -⟩ := resolveChannelIntakeContext_ok hw₀ h₁
  obtain ⟨c, hc, -⟩ := hsettled.conversation
  obtain ⟨hw₂, hk₂, hold, hnew⟩ := appendChannelCustomerMessage_ok hw₁ (by rw [hc]; rfl) h₂
  have hiff : HasMessage env db m ↔
      (messageOf db₁ context.conversationId (clientId m.externalId)).isSome = true := by
    unfold messageOf
    rw [hm₁]
    exact hasMessage_iff hw hfound
  refine ⟨hw₂.of_eq rfl rfl rfl, ?_, (hsettled.keeps hk₂).keeps (Keeps.of_eq rfl rfl), ?_, ?_⟩
  · have hk₀ : Keeps db { db with
        whatsappInbound := db.whatsappInbound.insert (newLedgerRow m) } := Keeps.of_eq rfl rfl
    refine hk₀.trans (hk₁.trans (hk₂.trans ?_))
    exact Keeps.of_eq rfl rfl
  · intro h
    exact (hold (hiff.1 h)).trans hm₁
  · intro h
    refine (hnew (Bool.eq_false_iff.2 fun hc => h (hiff.2 hc))).trans ?_
    rw [hm₁]

variable (now) in
lemma projectMessage_isOk (hw : WellFormed db) (h : Agreed env db m) :
    ∃ r, projectMessage env db now m = .ok r := by
  have hw₀ : WellFormed { db with
      whatsappInbound := db.whatsappInbound.insert (newLedgerRow m) } := hw.of_eq rfl rfl rfl
  have h₀ : Agreed env { db with
      whatsappInbound := db.whatsappInbound.insert (newLedgerRow m) } m := h
  obtain ⟨⟨context, db₁⟩, h₁⟩ := resolveChannelIntakeContext_isOk now h₀ hw₀
  obtain ⟨-, -, -, -, hfound, hticket⟩ := resolveChannelIntakeContext_ok hw₀ h₁
  have htenant : ∀ t, ticketOf db₁ context.conversationId = some t →
      t.2.tenantId = some m.account.tenantId := by
    intro t ht
    rw [hticket] at ht
    rcases hfound with ⟨c, hc⟩ | ⟨-, hnew⟩
    · obtain ⟨_, _, _, _, _, _, _, hconv⟩ := h
      exact (hconv _ c hc).2.2.2 t ht
    · exfalso
      unfold ticketOf at ht
      rw [hnew] at ht
      change ((db.conversations.get? db.conversations.next).bind _) = some t at ht
      rw [db.conversations.get?_eq_none_of_le (le_refl _)] at ht
      cases ht
  obtain ⟨r, h₂⟩ := appendChannelCustomerMessage_isOk now htenant
  unfold projectMessage
  exact bind_isOk.2 ⟨_, h₁, bind_isOk.2 ⟨r, h₂, _, rfl⟩⟩

end Message

/-! ## runs -/

section Runs
variable {env : IntakeEnv} {w : IntakeWorld}

structure IntakeInv (env : IntakeEnv) (w : IntakeWorld) : Prop where
  wellFormed : WellFormed w.db
  raised : w.raised = []
  added : ∀ later e earlier, w.intakes = later ++ e :: earlier → AddedOnce e earlier
  settled : ∀ e ∈ w.intakes, ∀ context, e.context = some context →
    Settled env w.db e.message context

lemma IntakeInv.takenIn (h : IntakeInv env w) : TakenIn env w := by
  refine ⟨h.raised, h.added, fun e he context hc => (h.settled e he context hc).conversation, ?_⟩
  intro e he e' he' context context' haccount hchat hc hc'
  exact (h.settled e he context hc).unique h.wellFormed (h.settled e' he' context' hc') haccount
    hchat

lemma IntakeInv.ofDb (h : IntakeInv env w) {new : SubjectDb} (hw : WellFormed new)
    (hk : Keeps w.db new) : IntakeInv env { w with db := new } :=
  ⟨hw, h.raised, h.added, fun e he context hc => (h.settled e he context hc).keeps hk⟩

lemma WellFormed.mapMessages {db : SubjectDb} (h : WellFormed db) {f : ℕ → WebchatMessage →
    WebchatMessage} (hf : ∀ i x, (f i x).conversationId = x.conversationId) :
    WellFormed { db with messages := db.messages.mapRows f } := by
  refine ⟨h.publicId, h.control, h.owned, ?_⟩
  intro i x hx
  change ((db.messages.mapRows f).get? i) = some x at hx
  rw [Table.get?_mapRows] at hx
  obtain ⟨y, hy, rfl⟩ := Option.map_eq_some_iff.1 hx
  rw [hf]
  exact h.placed i y hy

lemma erase_keeps {db new : SubjectDb} {erasure : ErasureEnv} {now : Instant}
    {tenantId requestId : ℕ} {receipt : AnonymizationReceipt} (hw : WellFormed db)
    (h : executeDataSubjectDeletion erasure db now tenantId requestId = .ok (receipt, new)) :
    WellFormed new ∧ Keeps db new := by
  obtain ⟨hcontrols, ⟨ids, hconversations⟩, ⟨ids', hmessages⟩⟩ :=
    executeDataSubjectDeletion_frame h
  have hid : ∀ i c, (if decide (i ∈ ids) = true then erasedConversation erasure now i c else c :
      WebchatConversation).publicId = c.publicId := by
    intro i c
    split
    · rfl
    · rfl
  have hplace : ∀ (i : ℕ) x, (if decide (x.conversationId ∈ ids') = true then erasedMessage x
      else x : WebchatMessage).conversationId = x.conversationId := by
    intro i x
    split
    · rfl
    · rfl
  have hw₁ := (hw.mapConversations hid).mapMessages hplace
  have hk₁ : Keeps db { db with
      conversations := rewriteRows db.conversations (fun i _ => decide (i ∈ ids))
        (erasedConversation erasure now) } := Keeps.mapConversations hid
  exact ⟨hw₁.of_eq hconversations hcontrols hmessages,
    hk₁.trans (Keeps.of_eq hconversations hcontrols)⟩

lemma IntakeInv.ingest (h : IntakeInv env w) (now : Instant) (m : CustomerMessage)
    (hold : Delivered w m →
      (ledgerRow w.db m).isSome = true ∨ (Agreed env w.db m ∧ HasMessage env w.db m))
    (hnew : ¬ Delivered w m →
      ledgerRow w.db m = none ∧ Agreed env w.db m ∧ ¬ HasMessage env w.db m) :
    IntakeInv env (ingestStep env w now m) := by
  have hlog : ∀ e, AddedOnce e w.intakes → ∀ later e' earlier,
      e :: w.intakes = later ++ e' :: earlier → AddedOnce e' earlier := by
    intro e he later e' earlier hsplit
    cases later with
    | nil =>
      cases hsplit
      exact he
    | cons d later =>
      obtain ⟨-, hrest⟩ := List.cons.inj hsplit
      exact h.added later e' earlier hrest
  unfold ingestStep ingestMessage
  cases hledger : ledgerRow w.db m with
  | some row =>
    have hdelivered : Delivered w m := by
      by_contra hc
      rw [(hnew hc).1] at hledger
      cases hledger
    refine ⟨h.wellFormed, h.raised, hlog _ ⟨fun _ => rfl, fun hc => absurd hdelivered hc⟩, ?_⟩
    intro e he context hc
    rcases List.mem_cons.1 he with rfl | he
    · cases hc
    · exact h.settled e he context hc
  | none =>
    have hagreed : Agreed env w.db m := by
      by_cases hd : Delivered w m
      · rcases hold hd with hsome | ⟨hagreed, -⟩
        · rw [hledger] at hsome
          cases hsome
        · exact hagreed
      · exact (hnew hd).2.1
    obtain ⟨⟨context, db⟩, hproject⟩ := projectMessage_isOk now h.wellFormed hagreed
    obtain ⟨hw, hk, hsettled, hkept, hinserted⟩ := projectMessage_ok h.wellFormed hproject
    dsimp only
    rw [hproject]
    refine ⟨hw, h.raised, hlog _ ⟨?_, ?_⟩, ?_⟩
    · intro hd
      refine hkept ?_
      rcases hold hd with hsome | ⟨-, hmessage⟩
      · rw [hledger] at hsome
        cases hsome
      · exact hmessage
    · intro hd
      exact ⟨context, newMessage m context.conversationId, rfl, hinserted (hnew hd).2.2, rfl, rfl⟩
    · intro e he context' hc
      rcases List.mem_cons.1 he with rfl | he
      · cases hc
        exact hsettled
      · exact (h.settled e he context' hc).keeps hk

lemma intakeInv_step (i : IntakeStep) (h : IntakeInv env w) (hok : StepOk env w i) :
    IntakeInv env (intakeStep env i w) := by
  cases i with
  | ingest now p =>
    unfold intakeStep
    dsimp only
    cases hread : readMessage env p with
    | error e => exact h
    | ok m => exact h.ingest now m (hok m hread).1 (hok m hread).2
  | request r => exact h.ofDb (h.wellFormed.of_eq rfl rfl rfl) (Keeps.of_eq rfl rfl)
  | correct now requestId v =>
    have hframe : ∃ customers requests, executeDataSubjectCorrection w.db now requestId v =
        { w.db with customers := customers, requests := requests } := by
      unfold executeDataSubjectCorrection
      split
      · exact ⟨_, _, rfl⟩
      · dsimp only
        split
        · exact ⟨_, _, rfl⟩
        · exact ⟨_, _, rfl⟩
    obtain ⟨customers, requests, hdb⟩ := hframe
    change IntakeInv env { w with db := executeDataSubjectCorrection w.db now requestId v }
    rw [hdb]
    exact h.ofDb (h.wellFormed.of_eq rfl rfl rfl) (Keeps.of_eq rfl rfl)
  | erase now tenantId requestId =>
    unfold intakeStep
    dsimp only
    cases herase : executeDataSubjectDeletion env.erasure w.db now tenantId requestId with
    | error e => exact h
    | ok r =>
      obtain ⟨hw, hk⟩ := erase_keeps h.wellFormed herase
      exact h.ofDb hw hk

end Runs

theorem whatsapp_taken_in (env : IntakeEnv) (db : SubjectDb) (hdb : WellFormed db)
    (steps : List IntakeStep) (h : Along (intakeStep env) (StepOk env) ⟨db, [], []⟩ steps) :
    ∀ p, p <+: steps → TakenIn env (run (intakeStep env) ⟨db, [], []⟩ p) := by
  rintro p ⟨rest, rfl⟩
  have hprefix := ((along_append _ _ _).1 h).1
  have hstart : IntakeInv env ⟨db, [], []⟩ := by
    refine ⟨hdb, rfl, ?_, ?_⟩
    · intro later e earlier hsplit
      cases later with
      | nil => cases hsplit
      | cons d later => cases hsplit
    · intro e he
      cases he
  have hinv := Along.invariant (I := IntakeInv env) (fun w i hw hok => intakeInv_step i hw hok)
    hstart hprefix
  exact hinv.takenIn

namespace Samples

def env : IntakeEnv where
  identity :=
    { lower := id
      casefold := id
      digit := fun c => decide ('0' ≤ c) && decide (c ≤ '9')
      scopeValid := fun _ => true }
  erasure := Privacy.Samples.env
  account := fun name => if name = "main" then some ⟨1, 7, "acme", none⟩ else none
  casefold := id

def text (id : String) (phone : Option String) : InboundPayload where
  accountId := some "main"
  externalMessageId := some id
  chatJid := some "491701@s.whatsapp.net"
  senderJid := none
  senderPhone := phone
  senderName := some "Ana"
  messageType := none
  bodyText := some "Hello"
  raw := none
  transport := "webhook"
  receivedAt := 0

def world (steps : List IntakeStep) : IntakeWorld :=
  run (intakeStep env) ⟨SubjectDb.empty, [], []⟩ steps

end Samples

/-- the first message of a chat has no phone number and makes a customer of the chat; the number of
the second one makes another, whom the chat cannot be bound to. -/
theorem number_comes_later :
    (Samples.world [.ingest 0 (Samples.text "m1" none),
      .ingest 1 (Samples.text "m2" (some "+491701"))]).raised =
        [.identity "customer_identity_already_bound"] ∧
    ¬TakenIn Samples.env (Samples.world [.ingest 0 (Samples.text "m1" none),
      .ingest 1 (Samples.text "m2" (some "+491701"))]) := by
  have hraised : (Samples.world [.ingest 0 (Samples.text "m1" none),
      .ingest 1 (Samples.text "m2" (some "+491701"))]).raised =
        [.identity "customer_identity_already_bound"] := by
    decide +kernel
  refine ⟨hraised, fun h => ?_⟩
  have hnone := h.raised
  rw [hraised] at hnone
  cases hnone

lemma wellFormed_empty : WellFormed SubjectDb.empty := by
  refine ⟨?_, ?_, ?_, ?_⟩
  · intro i j c c' h
    rw [show SubjectDb.empty.conversations = Table.empty from rfl, Table.get?_empty] at h
    cases h
  · intro i j r r' h
    rw [show SubjectDb.empty.controls = Table.empty from rfl, Table.get?_empty] at h
    cases h
  · intro i r h
    rw [show SubjectDb.empty.controls = Table.empty from rfl, Table.get?_empty] at h
    cases h
  · intro i x h
    rw [show SubjectDb.empty.messages = Table.empty from rfl, Table.get?_empty] at h
    cases h

namespace Samples

def message (id : String) : IntakeStep := .ingest 0 (text id (some "+491701"))

def hello (id : String) (hid : PyStr.strip id ≠ "") (hbody : PyStr.strip "Hello" ≠ "") :
    CustomerMessage where
  account := ⟨1, 7, "acme", none⟩
  externalId := id
  chatJid := "491701@s.whatsapp.net"
  body := "Hello"
  senderJid := "491701@s.whatsapp.net"
  senderPhone := some "+491701"
  senderName := some "Ana"
  messageType := "text"
  raw := none
  transport := "webhook"
  receivedAt := 0
  externalId_ne := hid
  body_ne := hbody

def m1 : CustomerMessage := hello "m1" (by decide +kernel) (by decide +kernel)

def m2 : CustomerMessage := hello "m2" (by decide +kernel) (by decide +kernel)

end Samples

variable {env : IntakeEnv} {db : SubjectDb} {m : CustomerMessage}

lemma Agreed.of_test {primary chat : Customers.CustomerIdentity} {known : Option ℕ}
    (hprimary : primaryIdentity env m = .ok primary)
    (hchat : customerIdentity env "external_ref" (chatRef m.chatJid) = .ok chat)
    (hknown : knownCustomer db m.account.tenantId primary = .ok known)
    (hbound : (bindingOf db m.account.tenantId chat).all
      (fun b => decide (known = some b.customerId)) = true)
    (hconversation : (conversationOf db (channelConversationPublicId env m.account m.chatJid)).all
      (fun c => decide (c.2.tenantKey = m.account.tenantKey ∧ c.2.channelKey = "whatsapp") &&
        (controlOf db c.1).all (fun r => controlFits m.account known r.2) &&
        (ticketOf db c.1).all (fun t => decide (t.2.tenantId = some m.account.tenantId))) = true) :
    Agreed env db m := by
  rw [Option.all_eq_true] at hbound hconversation
  refine ⟨primary, chat, known, hprimary, hchat, hknown, fun b hb => of_decide_eq_true
    (hbound b hb), fun i c hc => ?_⟩
  have htest := hconversation (i, c) hc
  rw [Bool.and_eq_true, Bool.and_eq_true, Option.all_eq_true, Option.all_eq_true] at htest
  obtain ⟨⟨hscope, hcontrol⟩, hticket⟩ := htest
  exact ⟨(of_decide_eq_true hscope).1, (of_decide_eq_true hscope).2,
    fun k r hr => hcontrol (k, r) hr, fun t ht => of_decide_eq_true (hticket t ht)⟩

lemma HasMessage.test (h : HasMessage env db m) :
    (conversationOf db (channelConversationPublicId env m.account m.chatJid)).any
      (fun c => (messageOf db c.1 (clientId m.externalId)).isSome) = true := by
  obtain ⟨i, c, hc, hm⟩ := h
  rw [hc]
  exact hm

/-- a message with the number of its chat, the message again, and another one. -/
theorem number_comes_first : TakenIn Samples.env
    (Samples.world [Samples.message "m1", Samples.message "m1", Samples.message "m2"]) := by
  have hread₁ : readMessage Samples.env (Samples.text "m1" (some "+491701")) = .ok Samples.m1 := rfl
  have hread₂ : readMessage Samples.env (Samples.text "m2" (some "+491701")) = .ok Samples.m2 := rfl
  have hphone : ∀ m ∈ [Samples.m1, Samples.m2],
      primaryIdentity Samples.env m = .ok ⟨.phone, "+491701".toList⟩ ∧
      customerIdentity Samples.env "external_ref" (chatRef m.chatJid) =
        .ok ⟨.externalRef, "whatsapp:491701@s.whatsapp.net".toList⟩ := by
    intro m hm
    rcases List.mem_cons.1 hm with rfl | hm
    · exact ⟨rfl, rfl⟩
    · rcases List.mem_singleton.1 hm with rfl
      exact ⟨rfl, rfl⟩
  have hids : ∀ steps, (Samples.world steps).intakes.all (fun e => e.message.externalId ≠ "m2") →
      ¬Delivered (Samples.world steps) Samples.m2 := by
    rintro steps h ⟨e, he, -, hid⟩
    exact of_decide_eq_true (List.all_eq_true.1 h e he) hid
  refine whatsapp_taken_in Samples.env SubjectDb.empty wellFormed_empty
    [Samples.message "m1", Samples.message "m1", Samples.message "m2"] ⟨?_, ?_, ?_, trivial⟩ _
    List.prefix_rfl
  · intro m hm
    obtain rfl := Except.ok.inj (hread₁.symm.trans hm)
    refine ⟨?_, fun _ => ⟨rfl, ?_, ?_⟩⟩
    · rintro ⟨e, he, -⟩
      cases he
    · exact Agreed.of_test (hphone _ (by simp)).1 (hphone _ (by simp)).2 rfl rfl rfl
    · intro h
      exact absurd h.test (by decide +kernel)
  · intro m hm
    obtain rfl := Except.ok.inj (hread₁.symm.trans hm)
    refine ⟨fun _ => Or.inl (by decide +kernel), fun h => absurd ?_ h⟩
    exact ⟨_, List.mem_cons_self .., rfl, rfl⟩
  · intro m hm
    obtain rfl := Except.ok.inj (hread₂.symm.trans hm)
    have hnew := hids [Samples.message "m1", Samples.message "m1"] (by decide +kernel)
    refine ⟨fun h => absurd h hnew, fun _ => ⟨by decide +kernel, ?_, ?_⟩⟩
    · have hknown : knownCustomer (Samples.world [Samples.message "m1", Samples.message "m1"]).db 7
          ⟨.phone, "+491701".toList⟩ = .ok (some 1) := rfl
      exact Agreed.of_test (hphone _ (by simp)).1 (hphone _ (by simp)).2 hknown
        (by decide +kernel) (by decide +kernel)
    · intro h
      exact absurd h.test (by decide +kernel)

end NexusHelpdesk.WhatsApp
