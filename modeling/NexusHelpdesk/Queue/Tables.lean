import NexusHelpdesk.Lib.Run
import NexusHelpdesk.Queue.Items

/-!
# The tables behind the operator queue

The tables of the queue, what the queries join to one of their rows, and how the rows change between
two pages.

* `SerialTable`: a table whose keys are positive and fit into 31 bits;
* `QueueTables`, `JoinedRows`, `joined`: the tables, and the rows that belong to one row;
* `QueueChange`, `change`: an insertion or an update; the time of creation is never updated;
* `created_run`: **a row keeps its time of creation**.
-/

namespace NexusHelpdesk.Queue

open Lib

/-! ## tables with serial keys -/

structure SerialTable (α : Type) where
  table : Table α
  zero : table.get? 0 = none
  pos : 0 < table.next
  bounded : table.next ≤ 2 ^ 31

namespace SerialTable
variable {α : Type}

def get? (t : SerialTable α) (i : ℕ) : Option α := t.table.get? i

def keys (t : SerialTable α) : List ℕ := t.table.rows.map Prod.fst

/-- an insertion, which fails when the keys are used up. -/
def insert (t : SerialTable α) (a : α) : SerialTable α :=
  if h : t.table.next < 2 ^ 31 then
    { table := t.table.insert a
      zero := by rw [Table.get?_insert_of_ne _ _ t.pos.ne, t.zero]
      pos := Nat.succ_pos _
      bounded := h }
  else t

def update (t : SerialTable α) (i : ℕ) (f : α → α) : SerialTable α where
  table := t.table.modify i f
  zero := by
    rw [Table.get?_modify, t.zero]
    split <;> rfl
  pos := t.pos
  bounded := t.bounded

variable {t : SerialTable α} {i : ℕ} {a : α}

lemma mem_keys : i ∈ t.keys ↔ ∃ a, t.get? i = some a := by
  unfold keys get?
  rw [List.mem_map]
  constructor
  · rintro ⟨⟨j, a⟩, hmem, rfl⟩
    exact ⟨a, t.table.mem_rows.1 hmem⟩
  · rintro ⟨a, ha⟩
    exact ⟨(i, a), t.table.mem_rows.2 ha, rfl⟩

lemma keys_ascending (t : SerialTable α) : t.keys.Pairwise (· < ·) :=
  List.pairwise_map.2 t.table.pairwise_rows

lemma key_pos (h : t.get? i = some a) : 0 < i := by
  rw [Nat.pos_iff_ne_zero]
  rintro rfl
  have hzero : t.get? 0 = none := t.zero
  rw [hzero] at h
  cases h

lemma key_lt (h : t.get? i = some a) : i < 2 ^ 31 :=
  (Table.lt_next h).trans_le t.bounded

lemma get?_insert {b : α} (h : t.get? i = some b) :
    (t.insert a).get? i = some b := by
  unfold insert
  split
  · exact Table.get?_insert_of_some _ h
  · exact h

lemma get?_update {j : ℕ} {f : α → α} (h : t.get? j = some a) :
    (t.update i f).get? j = some (if j = i then f a else a) := by
  have hget : t.table.get? j = some a := h
  show (t.table.modify i f).get? j = _
  rw [Table.get?_modify, hget]
  split <;> rfl

end SerialTable

/-! ## the tables -/

structure QueueTables where
  tickets : SerialTable TicketRow
  conversations : SerialTable ConversationRow
  handoffs : SerialTable HandoffRow
  dispatches : SerialTable DispatchRow
  /-- the owner queue of the routing plan of a handoff request, which has one plan at most. -/
  plans : ℕ → Option Text

def QueueTables.keys (T : QueueTables) : SourceType → List ℕ
  | .handoff => T.handoffs.keys
  | .ticket => T.tickets.keys
  | .dispatch => T.dispatches.keys

/-- the rows that the queries join to a row; the conversations and the dispatches of its ticket as
far as they were created by the time of the listing. -/
structure JoinedRows where
  handoff : Option HandoffRow
  dispatch : Option DispatchRow
  ticket : Option (ℕ × TicketRow)
  conversation : Option ConversationRow
  plan : Option Text
  conversations : List (ℕ × ConversationRow)
  dispatches : List (ℕ × DispatchRow)
deriving DecidableEq, Repr

def joinTicket (T : QueueTables) (asOf : UtcTime) (ticketId : Option ℕ) : JoinedRows where
  handoff := none
  dispatch := none
  ticket := ticketId.bind fun k => (T.tickets.get? k).map fun t => (k, t)
  conversation := none
  plan := none
  conversations := T.conversations.table.select fun _ c =>
    ticketId.any (c.ticketId = some ·) && c.createdAt.micros ≤ asOf.micros
  dispatches := T.dispatches.table.select fun _ d =>
    ticketId.any (d.ticketId = some ·) && d.createdAt.micros ≤ asOf.micros

/-- the rows that belong to the row `i` of a source. -/
def joined (T : QueueTables) (asOf : UtcTime) (source : SourceType) (i : ℕ) : JoinedRows :=
  match source with
  | .ticket => joinTicket T asOf (some i)
  | .handoff =>
    let handoff := T.handoffs.get? i
    { joinTicket T asOf (handoff.bind (·.ticketId)) with
      handoff := handoff
      conversation := handoff.bind fun h => T.conversations.get? h.conversationId
      plan := T.plans i }
  | .dispatch =>
    let dispatch := T.dispatches.get? i
    { joinTicket T asOf (dispatch.bind (·.ticketId)) with dispatch := dispatch }

/-! ## changes -/

inductive QueueChange where
  | insertTicket (row : TicketRow)
  | updateTicket (i : ℕ) (row : TicketRow)
  | insertConversation (row : ConversationRow)
  | updateConversation (i : ℕ) (row : ConversationRow)
  | insertHandoff (row : HandoffRow)
  | updateHandoff (i : ℕ) (row : HandoffRow)
  | insertDispatch (row : DispatchRow)
  | updateDispatch (i : ℕ) (row : DispatchRow)
  | setPlan (request : ℕ) (ownerQueue : Text)
deriving DecidableEq, Repr

/-- an insertion or an update, which leaves the time of creation alone. -/
def change (c : QueueChange) (T : QueueTables) : QueueTables :=
  match c with
  | .insertTicket row => { T with tickets := T.tickets.insert row }
  | .updateTicket i row =>
    { T with tickets := T.tickets.update i fun old => { row with createdAt := old.createdAt } }
  | .insertConversation row => { T with conversations := T.conversations.insert row }
  | .updateConversation i row =>
    { T with
      conversations := T.conversations.update i fun old =>
        { row with createdAt := old.createdAt } }
  | .insertHandoff row => { T with handoffs := T.handoffs.insert row }
  | .updateHandoff i row =>
    { T with handoffs := T.handoffs.update i fun old => { row with createdAt := old.createdAt } }
  | .insertDispatch row => { T with dispatches := T.dispatches.insert row }
  | .updateDispatch i row =>
    { T with
      dispatches := T.dispatches.update i fun old => { row with createdAt := old.createdAt } }
  | .setPlan request ownerQueue =>
    { T with plans := fun i => if i = request then some ownerQueue else T.plans i }

def created (T : QueueTables) : SourceType → ℕ → Option UtcTime
  | .handoff, i => (T.handoffs.get? i).map (·.createdAt)
  | .ticket, i => (T.tickets.get? i).map (·.createdAt)
  | .dispatch, i => (T.dispatches.get? i).map (·.createdAt)

variable {i : ℕ} {c : UtcTime} {α : Type} {T : QueueTables} {source : SourceType}

lemma created_insert {t : SerialTable α} {f : α → UtcTime} (a : α) (h : (t.get? i).map f = some c) :
    ((t.insert a).get? i).map f = some c := by
  obtain ⟨b, hb, rfl⟩ := Option.map_eq_some_iff.1 h
  rw [SerialTable.get?_insert hb]
  rfl

lemma created_update {t : SerialTable α} {f : α → UtcTime} {g : α → α} {j : ℕ}
    (hg : ∀ a, f (g a) = f a) (h : (t.get? j).map f = some c) :
    ((t.update i g).get? j).map f = some c := by
  obtain ⟨b, hb, rfl⟩ := Option.map_eq_some_iff.1 h
  rw [SerialTable.get?_update hb, Option.map_some]
  split
  · rw [hg]
  · rfl

lemma created_change (x : QueueChange) (h : created T source i = some c) :
    created (change x T) source i = some c := by
  cases x with
  | insertTicket row =>
    cases source with
    | ticket => exact created_insert row h
    | handoff => exact h
    | dispatch => exact h
  | updateTicket k row =>
    cases source with
    | ticket => exact created_update (fun _ => rfl) h
    | handoff => exact h
    | dispatch => exact h
  | insertConversation row => cases source <;> exact h
  | updateConversation k row => cases source <;> exact h
  | insertHandoff row =>
    cases source with
    | handoff => exact created_insert row h
    | ticket => exact h
    | dispatch => exact h
  | updateHandoff k row =>
    cases source with
    | handoff => exact created_update (fun _ => rfl) h
    | ticket => exact h
    | dispatch => exact h
  | insertDispatch row =>
    cases source with
    | dispatch => exact created_insert row h
    | handoff => exact h
    | ticket => exact h
  | updateDispatch k row =>
    cases source with
    | dispatch => exact created_update (fun _ => rfl) h
    | handoff => exact h
    | ticket => exact h
  | setPlan request ownerQueue => cases source <;> exact h

lemma created_run (changes : List QueueChange) (h : created T source i = some c) :
    created (run change T changes) source i = some c :=
  Along.invariant (I := fun T => created T source i = some c)
    (fun _ x hT _ => created_change x hT) h (along_true T changes)

end NexusHelpdesk.Queue
