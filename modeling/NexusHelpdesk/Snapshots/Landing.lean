import NexusHelpdesk.Snapshots.Ticket

/-!
# Where a handoff snapshot lands

The three look-ups of a job meet when the ticket that is found is the one of the session's
conversation, and is of the customer that the visitor is known as.

* `Coherent`: a conversation, its ticket and its control row are of one customer;
* `Lands`: what a job must come to; `Clear`: the look-ups meet;
* `landTicket_cases`: a job behind its look-ups;
* `snapshots_land_iff`: **the jobs of a run land with their own customers exactly if the look-ups
  meet before each of them**;
* `second_handoff_misses`: a second handoff in a session, and a second visitor with a parcel.
-/

namespace NexusHelpdesk.Snapshots

open Lib Customers

/-- no client message id twice in a conversation. -/
def Once (messages : Table Message) : Prop :=
  ∀ i j m m', messages.get? i = some m → messages.get? j = some m' →
    m.conversationId = m'.conversationId → m.clientMessageId = m'.clientMessageId → i = j

structure Coherent (d : SnapshotDb) : Prop where
  linked : ∀ k c, d.conversations.get? k = some c → ∃ i t, c.ticketId = some i ∧
    d.tickets.get? i = some t ∧ d.controls k = some ⟨some t.customerId, c.tenantKey, c.channelKey⟩
  fresh : ∀ k, d.conversations.next ≤ k → d.controls k = none
  owned : ∀ i t, d.tickets.get? i = some t → t.customerId < d.identity.customers.next
  once : Once d.messages

section Props
variable (env : SnapshotEnv) (d : SnapshotDb) (s : Snapshot)

structure Lands : Prop where
  noTicketConflict : createTicketFromWebchatSnapshot env s d ≠
    .error (.snapshot "handoff_conversation_ticket_conflict")
  noScopeConflict : createTicketFromWebchatSnapshot env s d ≠
    .error (.snapshot "handoff_conversation_scope_conflict")
  /-- the ticket is of the customer that the visitor resolves to. -/
  own : ∀ source tenantId, requiredSnapshotIdentity env.lower s = .ok source →
    env.tenant source.tenantKey = some tenantId → ∀ c identity,
    customer env.toIdentityEnv d.identity tenantId source.tenantKey (publicIdOf env source s) s =
      .ok (c, identity) → ∀ i d', createTicketFromWebchatSnapshot env s d = .ok (i, d') →
    ∃ t, d'.tickets.get? i = some t ∧ t.customerId = c
  /-- the conversation of the session points to the ticket. -/
  session : ∀ source, requiredSnapshotIdentity env.lower s = .ok source →
    ∀ i d', createTicketFromWebchatSnapshot env s d = .ok (i, d') →
    ∃ k c, findConversation d' source (publicIdOf env source s) = some (k, c) ∧
      c.ticketId = some i
  once : ∀ i d', createTicketFromWebchatSnapshot env s d = .ok (i, d') → ∀ k key,
    (d'.messages.count fun _ m => m.conversationId = k && m.clientMessageId = key) ≤ 1

variable (source : SourceIdentity) (tenantId : ℕ)

/-- the job fails before the checks: an identity is refused, or a unique index has its key. -/
inductive Stopped : Prop
  | identity (code : String) (h : customer env.toIdentityEnv d.identity tenantId source.tenantKey
      (publicIdOf env source s) s = .error code)
  | event (h : existingTicket env source s d tenantId = none)
      (htaken : (d.tickets.select fun _ t => t.sourceDedupeKey = dedupeKeyOf env source s) ≠ [])
  | publicId (h : findConversation d source (publicIdOf env source s) = none)
      (htaken : (d.conversations.select fun _ c => c.publicId = publicIdOf env source s) ≠ [])

/-- the look-ups meet. -/
structure Fits : Prop where
  /-- the conversation of the session has the ticket that is found, -/
  session : ∀ k c, findConversation d source (publicIdOf env source s) = some (k, c) →
    c.ticketId = (existingTicket env source s d tenantId).map Prod.fst
  /-- and that ticket is of the customer that the visitor is known as. -/
  owner : ∀ i t, existingTicket env source s d tenantId = some (i, t) →
    visitorOf env.toIdentityEnv d.identity tenantId source.tenantKey (publicIdOf env source s) s =
      some t.customerId

def Clear : Prop :=
  ∀ source tenantId, requiredSnapshotIdentity env.lower s = .ok source →
    env.tenant source.tenantKey = some tenantId →
    Stopped env d s source tenantId ∨ Fits env d s source tenantId

structure Settled (d' : SnapshotDb) (c i : ℕ) : Prop where
  coherent : Coherent d'
  own : ∃ t, d'.tickets.get? i = some t ∧ t.customerId = c
  session : ∃ k x, findConversation d' source (publicIdOf env source s) = some (k, x) ∧
    x.ticketId = some i

end Props

/-! ## messages -/

section Messages
variable {d : SnapshotDb} {k : ℕ}

lemma findMessage_none {key : Text} (h : findMessage d k key = none) {i : ℕ} {m : Message}
    (hm : d.messages.get? i = some m) : ¬(m.conversationId = k ∧ m.clientMessageId = key) := by
  intro hkey
  have hmem : (i, m) ∈ d.messages.select fun _ m =>
      m.conversationId = k && m.clientMessageId = key := by
    refine (d.messages.mem_select).2 ⟨hm, ?_⟩
    rw [Bool.and_eq_true, decide_eq_true_iff, decide_eq_true_iff]
    exact hkey
  unfold findMessage at h
  rw [List.head?_eq_none_iff.1 h] at hmem
  cases hmem

lemma addMessageOnce_spec (k ticketId : ℕ) (direction : Direction) (body key : Text)
    (label : String) (d : SnapshotDb) :
    ∃ messages, addMessageOnce k ticketId direction body key label d =
      { d with messages := messages } ∧ (Once d.messages → Once messages) := by
  unfold addMessageOnce
  dsimp only
  generalize ((clip (some key) 120).getD _) = clipped
  cases hf : findMessage d k clipped with
  | some r =>
    obtain ⟨i, m⟩ := r
    have hrow : d.messages.get? i = some m := by
      have hmem := List.mem_of_head? hf
      exact ((d.messages.mem_select).1 hmem).1
    dsimp only
    split
    · refine ⟨_, rfl, ?_⟩
      intro honce a b x y hx hy
      have hold : ∀ j z, (d.messages.set i { m with ticketId := some ticketId }).get? j = some z →
          ∃ x', d.messages.get? j = some x' ∧ x'.conversationId = z.conversationId ∧
            x'.clientMessageId = z.clientMessageId := by
        intro j z hz
        rw [Table.get?_set] at hz
        split at hz
        · rename_i hj
          rw [hj, hrow] at hz
          cases hz
          exact ⟨m, hj ▸ hrow, rfl, rfl⟩
        · exact ⟨z, hz, rfl, rfl⟩
      obtain ⟨x', hx', hxk, hxc⟩ := hold a x hx
      obtain ⟨y', hy', hyk, hyc⟩ := hold b y hy
      intro hk hc
      exact honce a b x' y' hx' hy' (by rw [hxk, hyk, hk]) (by rw [hxc, hyc, hc])
    · exact ⟨_, rfl, id⟩
  | none =>
    refine ⟨_, rfl, ?_⟩
    intro honce a b x y hx hy hk hc
    rw [Table.get?_insert] at hx hy
    split at hx
    · rename_i ha
      cases hx
      split at hy
      · rename_i hb
        rw [ha, hb]
      · exact absurd ⟨hk.symm, hc.symm⟩ (findMessage_none hf hy)
    · split at hy
      · cases hy
        exact absurd ⟨hk, hc⟩ (findMessage_none hf hx)
      · exact honce a b x y hx hy hk hc

lemma withText_spec {add : Text → SnapshotDb → SnapshotDb} (text : Option Text) (d : SnapshotDb)
    (h : ∀ body d, ∃ messages, add body d = { d with messages := messages } ∧
      (Once d.messages → Once messages)) :
    ∃ messages, withText text add d = { d with messages := messages } ∧
      (Once d.messages → Once messages) := by
  cases text with
  | none => exact ⟨d.messages, rfl, id⟩
  | some body => exact h body d

lemma addMessages_spec (source : SourceIdentity) (s : Snapshot) (ticketId k : ℕ) (d : SnapshotDb) :
    ∃ messages, addMessages source s ticketId k d = { d with messages := messages } ∧
      (Once d.messages → Once messages) := by
  unfold addMessages
  dsimp only
  obtain ⟨m₁, h₁, honce₁⟩ := withText_spec (clip s.customerLastMessage 2000) d fun body =>
    addMessageOnce_spec k ticketId .visitor body source.clientMessageId
      "Customer"
  rw [h₁]
  obtain ⟨m₂, h₂, honce₂⟩ := withText_spec (clip s.aiReply 1200) { d with messages := m₁ }
    fun body => addMessageOnce_spec k ticketId .ai body
      ((source.clientMessageId ++ ":ai".toList).take 120) "AI Assistant"
  rw [h₂]
  obtain ⟨m₃, h₃, honce₃⟩ := addMessageOnce_spec k ticketId .system
    "WebChat Runtime requested human review.".toList
    ((source.clientMessageId ++ ":handoff".toList).take 120) "System" { d with messages := m₂ }
  exact ⟨m₃, h₃, fun h => honce₃ (honce₂ (honce₁ h))⟩

lemma Once.count_le {messages : Table Message} (h : Once messages) (k : ℕ) (key : Text) :
    (messages.count fun _ m => m.conversationId = k && m.clientMessageId = key) ≤ 1 := by
  have hone := messages.select_cases
    (p := fun _ m => m.conversationId = k && m.clientMessageId = key) (by
      intro i j a b ha hb hpa hpb
      rw [Bool.and_eq_true, decide_eq_true_iff, decide_eq_true_iff] at hpa hpb
      exact h i j a b ha hb (hpa.1.trans hpb.1.symm) (hpa.2.trans hpb.2.symm))
  unfold Table.count
  obtain hnil | ⟨r, hr⟩ := hone
  · rw [hnil]
    exact Nat.zero_le 1
  · rw [hr]
    exact le_refl 1

end Messages

/-! ## conversations -/

section Conversations
variable {env : SnapshotEnv} {source : SourceIdentity} {s : Snapshot} {d : SnapshotDb}
  {i k customerId tenantId : ℕ} {c : Conversation} {t : Ticket} {publicId : Text}
  {identity : IdentityDb}

lemma get?_of_findConversation (h : findConversation d source publicId = some (k, c)) :
    d.conversations.get? k = some c ∧ c.tenantKey = source.tenantKey ∧
      c.channelKey = source.channelKey := by
  obtain ⟨hrow, hp⟩ := (d.conversations.mem_select).1 (List.mem_of_head? h)
  rw [Bool.and_eq_true, Bool.and_eq_true, decide_eq_true_iff, decide_eq_true_iff] at hp
  exact ⟨hrow, hp.1.1, hp.1.2⟩

lemma Coherent.setIdentity (h : Coherent d)
    (hnext : d.identity.customers.next ≤ identity.customers.next) :
    Coherent { d with identity := identity } where
  linked := h.linked
  fresh := h.fresh
  owned := fun i t ht => (h.owned i t ht).trans_le hnext
  once := h.once

lemma Coherent.insertTicket (h : Coherent d) (ht : t.customerId < d.identity.customers.next) :
    Coherent { d with tickets := d.tickets.insert t } where
  linked := by
    intro k c hc
    obtain ⟨i, t', hi, ht', hcontrol⟩ := h.linked k c hc
    exact ⟨i, t', hi, d.tickets.get?_insert_of_some ht', hcontrol⟩
  fresh := h.fresh
  owned := by
    intro i t' ht'
    dsimp only at ht'
    rw [Table.get?_insert] at ht'
    split at ht'
    · cases ht'
      exact ht
    · exact h.owned i t' ht'
  once := h.once

lemma conversation_conflict (h : Coherent d)
    (hfind : findConversation d source (publicIdOf env source s) = some (k, c))
    (hne : c.ticketId ≠ some i) :
    conversation env source s customerId i d =
      .error (.snapshot "handoff_conversation_ticket_conflict") := by
  obtain ⟨j, t, hj, -⟩ := h.linked k c (get?_of_findConversation hfind).1
  have hnot : c.ticketId ∉ [none, some i] := by
    rw [hj] at hne ⊢
    simpa using hne
  unfold conversation openConversation
  rw [hfind]
  dsimp only
  rw [if_neg hnot]
  rfl

lemma conversation_taken (hfind : findConversation d source (publicIdOf env source s) = none)
    (htaken : (d.conversations.select fun _ c => c.publicId = publicIdOf env source s) ≠ []) :
    conversation env source s customerId i d = .error .integrity := by
  unfold conversation openConversation
  rw [hfind]
  dsimp only
  rw [if_neg htaken]
  rfl

lemma openConversation_found
    (hfind : findConversation d source (publicIdOf env source s) = some (k, c))
    (hi : c.ticketId = some i) :
    openConversation env source s i d =
      .ok (k, { d with conversations := d.conversations.modify k (·.take i) }) := by
  unfold openConversation
  rw [hfind]
  dsimp only
  rw [if_pos (by rw [hi]; simp)]

lemma conversation_scope (h : Coherent d)
    (hfind : findConversation d source (publicIdOf env source s) = some (k, c))
    (hi : c.ticketId = some i) (ht : d.tickets.get? i = some t) (hne : t.customerId ≠ customerId) :
    conversation env source s customerId i d =
      .error (.snapshot "handoff_conversation_scope_conflict") := by
  obtain ⟨hrow, -⟩ := get?_of_findConversation hfind
  obtain ⟨j, t', hj, ht', hcontrol⟩ := h.linked k c hrow
  rw [hi] at hj
  cases hj
  rw [ht] at ht'
  cases ht'
  unfold conversation
  rw [openConversation_found hfind hi]
  show (claimControl source customerId k _ >>= _) = _
  unfold claimControl
  dsimp only
  rw [hcontrol]
  dsimp only
  rw [if_pos]
  · rfl
  · refine .inr (.inr ?_)
    simpa using hne

lemma conversation_found (h : Coherent d)
    (hfind : findConversation d source (publicIdOf env source s) = some (k, c))
    (hi : c.ticketId = some i) (ht : d.tickets.get? i = some t)
    (hcustomer : t.customerId = customerId) :
    ∃ d', conversation env source s customerId i d = .ok d' ∧
      Settled env s source d' customerId i := by
  obtain ⟨hrow, htenant, hchannel⟩ := get?_of_findConversation hfind
  obtain ⟨j, t', hj, ht', hcontrol⟩ := h.linked k c hrow
  rw [hi] at hj
  cases hj
  rw [ht] at ht'
  cases ht'
  set d₁ : SnapshotDb := { d with conversations := d.conversations.modify k (·.take i) } with hd₁
  have hclaim : claimControl source customerId k d₁ = .ok d₁ := by
    unfold claimControl
    rw [show d₁.controls k = _ from hcontrol]
    dsimp only
    rw [if_neg]
    · rw [hcustomer] at hcontrol
      rw [show Function.update d₁.controls k _ = d₁.controls from
        Function.update_eq_self_iff.2 hcontrol.symm]
    · rw [htenant, hchannel, hcustomer]
      simp
  obtain ⟨messages, hmessages, honce⟩ := addMessages_spec source s i k d₁
  refine ⟨{ d₁ with messages := messages }, ?_, ?_⟩
  · unfold conversation
    rw [openConversation_found hfind hi]
    show (claimControl source customerId k d₁ >>= _) = _
    rw [hclaim]
    show Except.ok (addMessages source s i k d₁) = _
    rw [hmessages]
  · refine ⟨⟨?_, h.fresh, h.owned, honce h.once⟩, ⟨t, ht, hcustomer⟩, k, c.take i, ?_, rfl⟩
    · intro k' c' hc'
      change (d.conversations.modify k (·.take i)).get? k' = some c' at hc'
      rw [Table.get?_modify] at hc'
      split at hc'
      · rename_i hk
        rw [hk, hrow] at hc'
        cases hc'
        exact ⟨i, t, rfl, ht, hk ▸ hcontrol⟩
      · exact h.linked k' c' hc'
    · have hsame : ∀ (j : ℕ) (x : Conversation),
          (decide ((if j = k then x.take i else x).tenantKey = source.tenantKey) &&
            decide ((if j = k then x.take i else x).channelKey = source.channelKey) &&
            decide ((if j = k then x.take i else x).publicId = publicIdOf env source s)) =
          (decide (x.tenantKey = source.tenantKey) && decide (x.channelKey = source.channelKey) &&
            decide (x.publicId = publicIdOf env source s)) := by
        intro j x
        split <;> rfl
      show ((d.conversations.modify k (·.take i)).select _).head? = _
      unfold findConversation at hfind
      rw [Table.modify_eq_mapRows, Table.select_mapRows, List.head?_map]
      simp only [hsame]
      rw [hfind]
      simp

lemma conversation_new (customerId : ℕ) (h : Coherent d)
    (hfind : findConversation d source (publicIdOf env source s) = none)
    (hfree : (d.conversations.select fun _ c => c.publicId = publicIdOf env source s) = [])
    (ht : d.tickets.get? i = some t) :
    ∃ d', conversation env source s customerId i d = .ok d' ∧ d'.tickets = d.tickets ∧
      (t.customerId = customerId → Settled env s source d' customerId i) := by
  have hnone := h.fresh d.conversations.next (le_refl _)
  set row := newConversation env source s i with hrow
  set control : Control := ⟨some customerId, source.tenantKey, source.channelKey⟩ with hcontrol
  set d₁ : SnapshotDb := { d with
    conversations := d.conversations.insert row
    controls := Function.update d.controls d.conversations.next (some control) } with hd₁
  obtain ⟨messages, hmessages, honce⟩ :=
    addMessages_spec source s i d.conversations.next d₁
  refine ⟨{ d₁ with messages := messages }, ?_, rfl, ?_⟩
  · unfold conversation openConversation
    rw [hfind]
    dsimp only
    rw [if_pos hfree]
    show (claimControl source customerId d.conversations.next
      { d with conversations := d.conversations.insert row } >>= _) = _
    unfold claimControl
    dsimp only
    rw [hnone]
    show Except.ok (addMessages source s i d.conversations.next d₁) = _
    rw [hmessages]
  · intro hcustomer
    refine ⟨⟨?_, ?_, h.owned, honce h.once⟩, ⟨t, ht, hcustomer⟩, d.conversations.next, row, ?_, rfl⟩
    · intro k c hc
      change (d.conversations.insert row).get? k = some c at hc
      rw [Table.get?_insert] at hc
      show ∃ i t, _ ∧ _ ∧ Function.update d.controls d.conversations.next (some control) k = _
      split at hc
      · rename_i hk
        cases hc
        rw [hk, Function.update_self]
        refine ⟨i, t, rfl, ht, ?_⟩
        rw [hcustomer]
        rfl
      · rename_i hk
        rw [Function.update_of_ne hk]
        exact h.linked k c hc
    · intro k hk
      change d.conversations.next + 1 ≤ k at hk
      show Function.update d.controls d.conversations.next (some control) k = none
      rw [Function.update_of_ne (by omega)]
      exact h.fresh k (by omega)
    · show ((d.conversations.insert row).select _).head? = _
      unfold findConversation at hfind
      rw [Table.select_insert, List.head?_eq_none_iff.1 hfind, List.nil_append, if_pos]
      · rfl
      · simp [hrow, newConversation]

end Conversations

/-! ## jobs -/

section Jobs
variable {env : SnapshotEnv} {source : SourceIdentity} {s : Snapshot} {d d' : SnapshotDb}
  {i c tenantId : ℕ} {t : Ticket} {identity : IdentityDb}

lemma get?_of_existingTicket (h : existingTicket env source s d tenantId = some (i, t)) :
    d.tickets.get? i = some t := by
  unfold existingTicket at h
  split at h
  · rename_i r hr
    cases h
    exact ((d.tickets.mem_select).1 (env.pick_mem hr)).1
  · split at h
    · exact ((d.tickets.mem_select).1 (env.pick_mem h)).1
    · cases h

lemma useTicket_error {e : JobError} (h : conversation env source s c i d = .error e) :
    useTicket env source s c i d = .error e := by
  unfold useTicket
  rw [h]
  rfl

lemma useTicket_ok (h : conversation env source s c i d = .ok d') :
    useTicket env source s c i d = .ok (i, d') := by
  unfold useTicket
  rw [h]
  rfl

/-- how a job goes on behind its look-ups. -/
inductive Outcome (env : SnapshotEnv) (d : SnapshotDb) (s : Snapshot) (source : SourceIdentity)
    (tenantId c : ℕ) (r : Except JobError (ℕ × SnapshotDb)) : Prop
  | stopped (h : r = .error .integrity) (hs : Stopped env d s source tenantId)
  | conflict (code : String) (h : r = .error (.snapshot code))
      (hcode : code = "handoff_conversation_ticket_conflict" ∨
        code = "handoff_conversation_scope_conflict")
      (hs : ¬Stopped env d s source tenantId) (hfit : ¬Fits env d s source tenantId)
  | foreign (i : ℕ) (d' : SnapshotDb) (h : r = .ok (i, d'))
      (hother : ¬∃ t, d'.tickets.get? i = some t ∧ t.customerId = c)
      (hs : ¬Stopped env d s source tenantId) (hfit : ¬Fits env d s source tenantId)
  | settled (i : ℕ) (d' : SnapshotDb) (h : r = .ok (i, d')) (hd : Settled env s source d' c i)
      (hfit : Fits env d s source tenantId)

section
variable (h : Coherent d)
  (hcustomer : customer env.toIdentityEnv d.identity tenantId source.tenantKey
    (publicIdOf env source s) s = .ok (c, identity))
include h hcustomer

lemma useTicket_outcome (hex : existingTicket env source s d tenantId = some (i, t)) :
    Outcome env d s source tenantId c
      (useTicket env source s c i { d with identity := identity }) := by
  obtain ⟨-, hnext, hknown⟩ := customer_spec hcustomer
  have hd := h.setIdentity hnext
  have ht := get?_of_existingTicket hex
  have howner := hknown t.customerId (h.owned i t ht)
  have hgo : ∀ k x, findConversation d source (publicIdOf env source s) = some (k, x) →
      ¬Stopped env d s source tenantId := by
    intro k x hfind hs
    cases hs with
    | identity code hcode => exact absurd (hcustomer.symm.trans hcode) nofun
    | event hno => exact absurd (hex.symm.trans hno) nofun
    | publicId hno => exact absurd (hfind.symm.trans hno) nofun
  cases hfind : findConversation d source (publicIdOf env source s) with
  | some r =>
    obtain ⟨k, x⟩ := r
    by_cases hi : x.ticketId = some i
    · by_cases hc : t.customerId = c
      · obtain ⟨d', hok, hsettled⟩ := conversation_found hd hfind hi ht hc
        refine .settled i d' (useTicket_ok hok) hsettled ⟨?_, ?_⟩
        · intro k' x' hx'
          cases hfind.symm.trans hx'
          rw [hex]
          exact hi
        · intro i' t' ht'
          cases hex.symm.trans ht'
          exact howner.2 hc
      · refine .conflict _ (useTicket_error (conversation_scope hd hfind hi ht hc)) (.inr rfl)
          (hgo k x hfind) fun hfit => ?_
        exact hc (howner.1 (hfit.owner i t hex))
    · refine .conflict _ (useTicket_error (conversation_conflict hd hfind hi)) (.inl rfl)
        (hgo k x hfind) fun hfit => ?_
      have hsame := hfit.session k x hfind
      rw [hex] at hsame
      exact hi hsame
  | none =>
    by_cases hfree : (d.conversations.select fun _ x => x.publicId = publicIdOf env source s) = []
    · obtain ⟨d', hok, htickets, hsettled⟩ :=
        conversation_new c hd hfind hfree ht
      by_cases hc : t.customerId = c
      · refine .settled i d' (useTicket_ok hok) (hsettled hc) ⟨?_, ?_⟩
        · intro k x hx
          exact absurd (hfind.symm.trans hx) nofun
        · intro i' t' ht'
          cases hex.symm.trans ht'
          exact howner.2 hc
      · refine .foreign i d' (useTicket_ok hok) ?_ ?_ fun hfit => ?_
        · rintro ⟨t', ht', hc'⟩
          rw [htickets] at ht'
          cases ht.symm.trans ht'
          exact hc hc'
        · intro hs
          cases hs with
          | identity code hcode => exact absurd (hcustomer.symm.trans hcode) nofun
          | event hno => exact absurd (hex.symm.trans hno) nofun
          | publicId _ htaken => exact htaken hfree
        · exact hc (howner.1 (hfit.owner i t hex))
    · exact .stopped (useTicket_error (conversation_taken hfind hfree)) (.publicId hfind hfree)

lemma insertTicket_outcome (hex : existingTicket env source s d tenantId = none) :
    Outcome env d s source tenantId c
      (insertTicket env source s tenantId c { d with identity := identity }) := by
  obtain ⟨hlt, hnext, -⟩ := customer_spec hcustomer
  have hd := h.setIdentity hnext
  have hfits : findConversation d source (publicIdOf env source s) = none →
      Fits env d s source tenantId := by
    intro hfind
    refine ⟨?_, ?_⟩
    · intro k x hx
      exact absurd (hfind.symm.trans hx) nofun
    · intro i t ht
      exact absurd (hex.symm.trans ht) nofun
  unfold insertTicket
  by_cases hevent :
      (d.tickets.select fun _ t => t.sourceDedupeKey = dedupeKeyOf env source s) = []
  · dsimp only
    rw [if_pos hevent]
    set ticket := newTicket env source s tenantId c with hticket
    have hinserted := hd.insertTicket (t := ticket) hlt
    have ht : (d.tickets.insert ticket).get? d.tickets.next = some ticket :=
      Table.get?_insert_self ..
    cases hfind : findConversation d source (publicIdOf env source s) with
    | some r =>
      obtain ⟨k, x⟩ := r
      obtain ⟨j, t, hj, htj, -⟩ := h.linked k x (get?_of_findConversation hfind).1
      have hne : x.ticketId ≠ some d.tickets.next := by
        rw [hj]
        intro heq
        have := Table.lt_next htj
        cases heq
        exact absurd this (lt_irrefl _)
      refine .conflict _ (by rw [conversation_conflict hinserted hfind hne]; rfl) (.inl rfl) ?_ ?_
      · intro hs
        cases hs with
        | identity code hcode => exact absurd (hcustomer.symm.trans hcode) nofun
        | event _ htaken => exact htaken hevent
        | publicId hno => exact absurd (hfind.symm.trans hno) nofun
      · intro hfit
        have hsame := hfit.session k x hfind
        rw [hex, hj] at hsame
        cases hsame
    | none =>
      by_cases hfree : (d.conversations.select fun _ x => x.publicId = publicIdOf env source s) = []
      · obtain ⟨d', hok, -, hsettled⟩ := conversation_new c hinserted hfind hfree ht
        exact .settled d.tickets.next d' (by rw [hok]; rfl) (hsettled rfl) (hfits hfind)
      · have hstop : conversation env source s c d.tickets.next
            { d with identity := identity, tickets := d.tickets.insert ticket } =
            .error .integrity := conversation_taken hfind hfree
        exact .stopped (by rw [hstop]; rfl) (.publicId hfind hfree)
  · dsimp only
    rw [if_neg hevent]
    exact .stopped rfl (.event hex hevent)

lemma landTicket_cases :
    Outcome env d s source tenantId c (landTicket env source s tenantId c
      (existingTicket env source s d tenantId) { d with identity := identity }) := by
  unfold landTicket
  cases hex : existingTicket env source s d tenantId with
  | some r => exact useTicket_outcome h hcustomer hex
  | none =>
    have hout := insertTicket_outcome h hcustomer hex
    dsimp only
    cases hr : insertTicket env source s tenantId c { d with identity := identity } with
    | ok r =>
      rw [hr] at hout
      exact hout
    | error e =>
      rw [hr] at hout
      have hagain : existingTicket env source s { d with identity := identity } tenantId = none :=
        hex
      cases e with
      | integrity =>
        dsimp only
        rw [hagain]
        exact hout
      | snapshot code => exact hout
      | identity code => exact hout

end

lemma not_conflict_of_required {code : String}
    (h : requiredSnapshotIdentity env.lower s = .error code) :
    code ≠ "handoff_conversation_ticket_conflict" ∧
      code ≠ "handoff_conversation_scope_conflict" := by
  unfold requiredSnapshotIdentity at h
  dsimp only at h
  split at h
  · cases h
    decide
  · split at h
    · cases h
      decide
    · cases h

lemma lands_of_error {e : JobError} (h : createTicketFromWebchatSnapshot env s d = .error e)
    (hticket : e ≠ .snapshot "handoff_conversation_ticket_conflict")
    (hscope : e ≠ .snapshot "handoff_conversation_scope_conflict") : Lands env d s where
  noTicketConflict := by
    rw [h]
    exact fun heq => hticket (Except.error.inj heq)
  noScopeConflict := by
    rw [h]
    exact fun heq => hscope (Except.error.inj heq)
  own := by
    intro source tenantId _ _ c identity _ i d' hok
    rw [h] at hok
    cases hok
  session := by
    intro source _ i d' hok
    rw [h] at hok
    cases hok
  once := by
    intro i d' hok
    rw [h] at hok
    cases hok

section
variable (hsource : requiredSnapshotIdentity env.lower s = .ok source)
  (htenant : env.tenant source.tenantKey = some tenantId)
include hsource htenant

lemma create_eq :
    createTicketFromWebchatSnapshot env s d =
      ((customer env.toIdentityEnv d.identity tenantId source.tenantKey (publicIdOf env source s)
        s).mapError .identity >>= fun r => landTicket env source s tenantId r.1
          (existingTicket env source s d tenantId) { d with identity := r.2 }) := by
  unfold createTicketFromWebchatSnapshot
  rw [hsource]
  dsimp only [Except.mapError, bind, Except.bind]
  rw [htenant]

lemma clear_iff :
    Clear env d s ↔ Stopped env d s source tenantId ∨ Fits env d s source tenantId := by
  constructor
  · intro hc
    exact hc source tenantId hsource htenant
  · intro hc source' tenantId' hok hsome
    cases hsource.symm.trans hok
    cases htenant.symm.trans hsome
    exact hc

lemma lands_of_settled {d' : SnapshotDb} {i : ℕ}
    (hcustomer : customer env.toIdentityEnv d.identity tenantId source.tenantKey
      (publicIdOf env source s) s = .ok (c, identity))
    (hok : createTicketFromWebchatSnapshot env s d = .ok (i, d'))
    (hd : Settled env s source d' c i) : Lands env d s := by
  refine ⟨?_, ?_, ?_, ?_, ?_⟩
  · rw [hok]
    nofun
  · rw [hok]
    nofun
  · intro source' tenantId' hsource' htenant' c' identity' hcustomer' i' d'' hok'
    cases hsource.symm.trans hsource'
    cases htenant.symm.trans htenant'
    cases hcustomer.symm.trans hcustomer'
    cases hok.symm.trans hok'
    exact hd.own
  · intro source' hsource' i' d'' hok'
    cases hsource.symm.trans hsource'
    cases hok.symm.trans hok'
    exact hd.session
  · intro i' d'' hok'
    cases hok.symm.trans hok'
    exact hd.coherent.once.count_le

end

lemma lands_iff_clear (env : SnapshotEnv) (s : Snapshot) (h : Coherent d) :
    (Lands env d s ↔ Clear env d s) ∧ (Lands env d s → Coherent (runJob env s d)) := by
  unfold runJob
  cases hsource : requiredSnapshotIdentity env.lower s with
  | error code =>
    have hcreate : createTicketFromWebchatSnapshot env s d = .error (.snapshot code) := by
      unfold createTicketFromWebchatSnapshot
      rw [hsource]
      rfl
    obtain ⟨hticket, hscope⟩ := not_conflict_of_required hsource
    have hlands := lands_of_error hcreate (by simpa using hticket) (by simpa using hscope)
    rw [hcreate]
    refine ⟨iff_of_true hlands ?_, fun _ => h⟩
    intro source tenantId hok
    rw [hsource] at hok
    cases hok
  | ok source =>
    cases htenant : env.tenant source.tenantKey with
    | none =>
      have hcreate : createTicketFromWebchatSnapshot env s d =
          .error (.snapshot "handoff_snapshot_tenant_not_found") := by
        unfold createTicketFromWebchatSnapshot
        rw [hsource]
        dsimp only [Except.mapError, bind, Except.bind]
        rw [htenant]
      have hlands := lands_of_error hcreate (by decide) (by decide)
      rw [hcreate]
      refine ⟨iff_of_true hlands ?_, fun _ => h⟩
      intro source' tenantId hok hsome
      cases hsource.symm.trans hok
      rw [htenant] at hsome
      cases hsome
    | some tenantId =>
      rw [clear_iff hsource htenant]
      have hcreate := create_eq (d := d) hsource htenant
      cases hcustomer : customer env.toIdentityEnv d.identity tenantId source.tenantKey
          (publicIdOf env source s) s with
      | error code =>
        rw [hcustomer] at hcreate
        change _ = Except.error (JobError.identity code) at hcreate
        have hlands := lands_of_error hcreate nofun nofun
        rw [hcreate]
        exact ⟨iff_of_true hlands (.inl (.identity code hcustomer)), fun _ => h⟩
      | ok r =>
        obtain ⟨c, identity⟩ := r
        rw [hcustomer] at hcreate
        change _ = landTicket env source s tenantId c _ { d with identity := identity } at hcreate
        have hout := landTicket_cases h hcustomer
        rw [← hcreate] at hout
        cases hout with
        | stopped herror hs =>
          have hlands := lands_of_error herror nofun nofun
          rw [herror]
          exact ⟨iff_of_true hlands (.inl hs), fun _ => h⟩
        | conflict code herror hcode hs hfit =>
          have hnot : ¬Lands env d s := by
            intro hlands
            obtain rfl | rfl := hcode
            · exact hlands.noTicketConflict herror
            · exact hlands.noScopeConflict herror
          exact ⟨iff_of_false hnot (not_or.2 ⟨hs, hfit⟩), fun hlands => absurd hlands hnot⟩
        | foreign i d' hok hother hs hfit =>
          have hnot : ¬Lands env d s := fun hlands =>
            hother (hlands.own source tenantId hsource htenant c identity hcustomer i d' hok)
          exact ⟨iff_of_false hnot (not_or.2 ⟨hs, hfit⟩), fun hlands => absurd hlands hnot⟩
        | settled i d' hok hd hfit =>
          rw [hok]
          exact ⟨iff_of_true (lands_of_settled hsource htenant hcustomer hok hd) (.inr hfit),
            fun _ => hd.coherent⟩

end Jobs

/-! ## runs -/

section Runs
variable (env : SnapshotEnv) (d : SnapshotDb)

def LandsAt (e : SnapshotEvent) : Prop :=
  match e with
  | .job h => ∀ s, buildHandoffSnapshotPayload env.lower env.sha256 h = .ok s → Lands env d s
  | .setStatus _ _ => True

/-- the look-ups of the event's job meet. -/
def ClearAt (e : SnapshotEvent) : Prop :=
  match e with
  | .job h => ∀ s, buildHandoffSnapshotPayload env.lower env.sha256 h = .ok s → Clear env d s
  | .setStatus _ _ => True

variable {env d}

lemma coherent_start (identity : IdentityDb) : Coherent (SnapshotDb.start identity) where
  linked := by
    intro k c hc
    cases hc
  fresh := fun k _ => rfl
  owned := by
    intro i t ht
    cases ht
  once := by
    intro i j m m' hm
    cases hm

lemma coherent_setStatus (h : Coherent d) (i : ℕ) (status : TicketStatus) :
    Coherent (snapshotStep env (.setStatus i status) d) where
  linked := by
    intro k c hc
    obtain ⟨j, t, hj, ht, hcontrol⟩ := h.linked k c hc
    have hrow : (d.tickets.modify i fun t => { t with status := status }).get? j =
        if j = i then some { t with status := status } else some t := by
      rw [Table.get?_modify, ht]
      rfl
    by_cases hji : j = i
    · rw [if_pos hji] at hrow
      exact ⟨j, _, hj, hrow, hcontrol⟩
    · rw [if_neg hji] at hrow
      exact ⟨j, t, hj, hrow, hcontrol⟩
  fresh := h.fresh
  owned := by
    intro j t ht
    change (d.tickets.modify i fun t => { t with status := status }).get? j = some t at ht
    rw [Table.get?_modify] at ht
    split at ht
    · obtain ⟨t', ht', rfl⟩ := Option.map_eq_some_iff.1 ht
      exact h.owned j t' ht'
    · exact h.owned j t ht
  once := h.once

lemma landsAt_step (env : SnapshotEnv) (h : Coherent d) (e : SnapshotEvent) :
    (LandsAt env d e ↔ ClearAt env d e) ∧
      (LandsAt env d e → Coherent (snapshotStep env e d)) := by
  cases e with
  | setStatus i status => exact ⟨Iff.rfl, fun _ => coherent_setStatus h i status⟩
  | job handoff =>
    unfold LandsAt ClearAt snapshotStep
    dsimp only
    cases hbuild : buildHandoffSnapshotPayload env.lower env.sha256 handoff with
    | error code => exact ⟨iff_of_true nofun nofun, fun _ => h⟩
    | ok s =>
      obtain ⟨hiff, hkeep⟩ := lands_iff_clear env s h
      have hone : ∀ P : Snapshot → Prop,
          (∀ s', (Except.ok s : Except String Snapshot) = .ok s' → P s') ↔ P s := by
        intro P
        constructor
        · intro hp
          exact hp s rfl
        · intro hp s' hs'
          cases hs'
          exact hp
      rw [hone, hone]
      exact ⟨hiff, hkeep⟩

lemma along_landsAt_iff (h : Coherent d) (l : List SnapshotEvent) :
    Along (snapshotStep env) (LandsAt env) d l ↔ Along (snapshotStep env) (ClearAt env) d l := by
  induction l generalizing d with
  | nil => exact Iff.rfl
  | cons e l ih =>
    obtain ⟨hiff, hkeep⟩ := landsAt_step env h e
    rw [along_cons, along_cons, ← hiff]
    exact and_congr_right fun hlands => ih (hkeep hlands)

theorem snapshots_land_iff (env : SnapshotEnv) (identity : IdentityDb) (l : List SnapshotEvent) :
    Along (snapshotStep env) (LandsAt env) (SnapshotDb.start identity) l ↔
      Along (snapshotStep env) (ClearAt env) (SnapshotDb.start identity) l :=
  along_landsAt_iff (coherent_start identity) l

end Runs

/-! ## jobs that miss -/

/-- one tenant; the texts are in lower case, and the first row is picked. -/
def plainSnapshotEnv : SnapshotEnv where
  lower := id
  casefold := id
  digit := fun c => c.isDigit
  scopeValid := fun _ => true
  sha256 := id
  tenant := fun key => if key = "acme".toList then some 1 else none
  pick := List.head?
  pick_mem := List.mem_of_head?
  pick_none := List.head?_eq_none_iff.1

def handoffOf (session message email : String) (tracking : Option Text) : Handoff where
  tenantKey := "acme".toList
  channelKey := "web".toList
  sessionId := session.toList
  clientMessageId := message.toList
  customerLastMessage := "help".toList
  aiReply := "wait".toList
  intent := none
  trackingNumber := tracking
  handoffReason := none
  recommendedAgentAction := none
  visitor := ⟨none, some email.toList, none⟩

def askedTwice : List SnapshotEvent :=
  [.job (handoffOf "s1" "m1" "a@x" none), .job (handoffOf "s1" "m2" "a@x" none)]

/-- two visitors ask about one parcel. -/
def sharedParcel : List SnapshotEvent :=
  [.job (handoffOf "s1" "m1" "a@x" (some "ch1".toList)),
   .job (handoffOf "s2" "m2" "b@x" (some "ch1".toList))]

theorem second_handoff_misses :
    (¬Along (snapshotStep plainSnapshotEnv) (LandsAt plainSnapshotEnv)
      (SnapshotDb.start IdentityDb.empty) askedTwice) ∧
    ¬Along (snapshotStep plainSnapshotEnv) (LandsAt plainSnapshotEnv)
      (SnapshotDb.start IdentityDb.empty) sharedParcel := by
  constructor
  · intro h
    have hlands := h.2.1 _ rfl
    refine absurd ?_ hlands.noTicketConflict
    rfl
  · intro h
    obtain ⟨t, ht, hc⟩ := (h.2.1 _ rfl).own _ 1 rfl rfl 2 _ rfl 1 _ rfl
    have hone : t.customerId = 1 := by
      cases ht
      rfl
    omega

end NexusHelpdesk.Snapshots
