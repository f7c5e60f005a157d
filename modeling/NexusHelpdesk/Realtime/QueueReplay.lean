import NexusHelpdesk.Realtime.Events

/-!
# Replays of the WebSocket loop

An agent or a visitor reads the log from a cursor on, batch after batch, each from the last event
that the one before it scanned.

* `Complete`: the replay delivers what is due, each once and in the order of the ids;
* `replay_complete_iff`: **a conversation is replayed completely exactly if its events can be read;
  the queue exactly if no batch holds more visible events than it may deliver**;
* `queue_replay_loses`: two events for one place.
-/

namespace NexusHelpdesk.Realtime

open Lib

def Complete (fetch : ℕ → Except EventError (ReplayBatch EventEnvelope)) (c : ℕ)
    (due : EventEnvelope → Prop) : Prop :=
  ∃ out, Replayed fetch c out ∧ (∀ e, e ∈ out ↔ due e) ∧
    out.Pairwise fun a b => a.eventId < b.eventId

section Due
variable (int : PyInt) (db : EventDb)

def ConversationDue (conversationId c : ℕ) (audience : Audience) (viewer : Option Viewer)
    (e : EventEnvelope) : Prop :=
  ∃ i row, db.events.get? i = some row ∧ row.conversationId = conversationId ∧ c < i ∧
    eventEnvelope int db i row audience viewer = .ok (some e)

/-- the envelopes of the events behind the cursor that refresh the queue, on tickets that the agent
may see. -/
def QueueDue (user : Viewer) (c : ℕ) (e : EventEnvelope) : Prop :=
  ∃ i row, db.events.get? i = some row ∧ row.eventType ∈ queueRefreshEventTypes ∧ c < i ∧
    queueVisible db user row = true ∧
    eventEnvelope int db i row .admin (some user) = .ok (some e)

def ConversationComplete (conversationId : ℕ) (c limit : ℤ) (audience : Audience)
    (viewer : Option Viewer) : Prop :=
  Complete (fun i => listConversationEventEnvelopes int db conversationId i limit audience viewer)
    c.toNat (ConversationDue int db conversationId c.toNat audience viewer)

def QueueComplete (user : Viewer) (c limit : ℤ) : Prop :=
  Complete (fun i => listAdminQueueEventEnvelopes int db user i limit) c.toNat
    (QueueDue int db user c.toNat)

/-- the `j`-th twice-the-limit events that refresh the queue. -/
def queueBatch (c limit : ℤ) (j : ℕ) : List (ℕ × WebchatEvent) :=
  batchAt Prod.fst (queueLog db) (safeLimit limit * 2) c.toNat j

end Due

section Proofs
variable {int : PyInt} {db : EventDb} {conversationId i c : ℕ} {row : WebchatEvent}
  {audience : Audience} {viewer : Option Viewer} {user : Viewer} {e : EventEnvelope}
  {r : ℕ × WebchatEvent}

lemma eventId_of_envelope (h : eventEnvelope int db i row audience viewer = .ok (some e)) :
    e.eventId = i := by
  unfold eventEnvelope at h
  split at h
  · cases h
  · cases hc : db.conversations.get? row.conversationId with
    | none =>
      rw [hc] at h
      cases h
    | some conversation =>
      rw [hc] at h
      dsimp only at h
      obtain ⟨message, -, h⟩ := bind_eq_ok.1 h
      split at h
      · cases h
      · obtain ⟨handoff, -, h⟩ := bind_eq_ok.1 h
        cases h
        rfl

lemma eventId_of_queueEnvelope (h : queueEnvelope int db user r = .ok (some e)) :
    e.eventId = r.1 := by
  unfold queueEnvelope at h
  split at h
  · exact eventId_of_envelope h
  · cases h

lemma complete_iff {view : ℕ × WebchatEvent → Except EventError (Option EventEnvelope)}
    {log : List (ℕ × WebchatEvent)} {n k : ℕ} {due : EventEnvelope → Prop}
    {fetch : ℕ → Except EventError (ReplayBatch EventEnvelope)}
    (hfetch : ∀ i, fetch i = fetchBatch Prod.fst view log n k i)
    (hlog : log.Pairwise fun a b => a.1 < b.1) (hn : 0 < n)
    (hrank : ∀ r e, view r = .ok (some e) → e.eventId = r.1)
    (hdue : ∀ e, e ∈ visible view (behind Prod.fst log c) ↔ due e) :
    Complete fetch c due ↔ ∀ j, Fits view k (batchAt Prod.fst log n c j) := by
  have heq : fetch = fetchBatch Prod.fst view log n k := funext hfetch
  subst heq
  have hascending : (visible view (behind Prod.fst log c)).Pairwise
      fun a b => a.eventId < b.eventId := visible_pairwise hrank (behind_pairwise (c := c) hlog)
  rw [← replayed_visible_iff hlog hn]
  constructor
  · rintro ⟨out, hout, hmem, hpairwise⟩
    have hall : out = visible view (behind Prod.fst log c) :=
      eq_of_ascending hpairwise hascending fun e => (hmem e).trans (hdue e).symm
    rwa [hall] at hout
  · intro h
    exact ⟨_, h, hdue, hascending⟩

lemma mem_conversation :
    r ∈ behind Prod.fst (conversationLog db conversationId) c ↔
      db.events.get? r.1 = some r.2 ∧ r.2.conversationId = conversationId ∧ c < r.1 := by
  unfold behind conversationLog
  rw [List.mem_filter, db.events.mem_select, decide_eq_true_iff, decide_eq_true_iff, and_assoc]

lemma mem_queue :
    r ∈ behind Prod.fst (queueLog db) c ↔
      db.events.get? r.1 = some r.2 ∧ r.2.eventType ∈ queueRefreshEventTypes ∧ c < r.1 := by
  unfold behind queueLog
  rw [List.mem_filter, db.events.mem_select, decide_eq_true_iff, decide_eq_true_iff, and_assoc]

lemma conversation_due : e ∈ visible (fun r => eventEnvelope int db r.1 r.2 audience viewer)
      (behind Prod.fst (conversationLog db conversationId) c) ↔
    ConversationDue int db conversationId c audience viewer e := by
  rw [mem_visible]
  constructor
  · rintro ⟨⟨i, row⟩, hmem, hview⟩
    obtain ⟨hget, hconversation, hc⟩ := mem_conversation.1 hmem
    exact ⟨i, row, hget, hconversation, hc, hview⟩
  · rintro ⟨i, row, hget, hconversation, hc, hview⟩
    exact ⟨(i, row), mem_conversation.2 ⟨hget, hconversation, hc⟩, hview⟩

lemma queue_due : e ∈ visible (queueEnvelope int db user) (behind Prod.fst (queueLog db) c) ↔
    QueueDue int db user c e := by
  rw [mem_visible]
  constructor
  · rintro ⟨⟨i, row⟩, hmem, hview⟩
    obtain ⟨hget, htype, hc⟩ := mem_queue.1 hmem
    unfold queueEnvelope at hview
    split at hview
    next hvisible => exact ⟨i, row, hget, htype, hc, hvisible, hview⟩
    next => cases hview
  · rintro ⟨i, row, hget, htype, hc, hvisible, hview⟩
    refine ⟨(i, row), mem_queue.2 ⟨hget, htype, hc⟩, ?_⟩
    unfold queueEnvelope
    rw [if_pos hvisible]
    exact hview

lemma conversationComplete_iff {c limit : ℤ} :
    ConversationComplete int db conversationId c limit audience viewer ↔
      ∀ i row, db.events.get? i = some row → row.conversationId = conversationId → c.toNat < i →
        ∀ e, eventEnvelope int db i row audience viewer ≠ .error e := by
  unfold ConversationComplete
  rw [complete_iff (fun i => conversation_batch) (db.events.pairwise_select _) safeLimit_pos
    (fun r e h => eventId_of_envelope h) (fun e => conversation_due), fits_all_iff safeLimit_pos]
  constructor
  · intro h i row hget hconversation hc e he
    exact h (i, row) (mem_conversation.2 ⟨hget, hconversation, hc⟩) ⟨e, he⟩
  · rintro h ⟨i, row⟩ hmem ⟨e, he⟩
    obtain ⟨hget, hconversation, hc⟩ := mem_conversation.1 hmem
    exact h i row hget hconversation hc e he

lemma queueComplete_iff {c limit : ℤ} :
    QueueComplete int db user c limit ↔
      ∀ j, Fits (queueEnvelope int db user) (safeLimit limit) (queueBatch db c limit j) := by
  have hpos : 0 < safeLimit limit * 2 := Nat.mul_pos safeLimit_pos (by decide)
  exact complete_iff (fun i => queue_batch)
    (db.events.pairwise_select _) hpos (fun r e h => eventId_of_queueEnvelope h)
    (fun e => queue_due)

end Proofs

theorem replay_complete_iff (int : PyInt) (db : EventDb) (conversationId : ℕ) (c limit : ℤ)
    (audience : Audience) (viewer : Option Viewer) (user : Viewer) :
    (ConversationComplete int db conversationId c limit audience viewer ↔
      ∀ i row, db.events.get? i = some row → row.conversationId = conversationId → c.toNat < i →
        ∀ e, eventEnvelope int db i row audience viewer ≠ .error e) ∧
    (QueueComplete int db user c limit ↔
      ∀ j, Fits (queueEnvelope int db user) (safeLimit limit) (queueBatch db c limit j)) :=
  ⟨conversationComplete_iff, queueComplete_iff⟩

/-! ## two events for one place -/

def agent : Viewer where
  id := 7
  teamId := none
  readsTickets := true
  globalVisibility := true
  tenantAuthority := fun _ => true

def requested : WebchatEvent where
  conversationId := 1
  ticketId := some 1
  eventType := "handoff.requested"
  payload := none
  createdAt := none

def twoRequests : EventDb where
  events := (Table.empty.insert requested).insert requested
  messages := Table.empty
  conversations := Table.empty.insert ⟨['c'], [], none, none⟩
  tickets := Table.empty.insert ⟨none, none⟩
  handoffs := []

/-- with a limit of one the second event is scanned and never delivered. -/
theorem queue_replay_loses : ¬QueueComplete plainInt twoRequests agent 0 1 := by
  intro h
  have hfits := queueComplete_iff.1 h 0
  exact absurd hfits.few (by decide +kernel)

end NexusHelpdesk.Realtime
