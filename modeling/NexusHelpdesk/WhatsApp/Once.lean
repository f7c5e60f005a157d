import NexusHelpdesk.WhatsApp.Retry

/-!
# Parts go out in order and once

The attempts at one message over one connection, with every way a send can end: a result, one of
the errors the loop of `dispatch_whatsapp_parts` catches, or an exception it lets through (a file
missing from the local storage).  The dispatcher answers such an exception with a rollback.

* `trySends`: the parts an attempt sends, and whether an exception ends the loop;
* `PartsAttempt.outcome`, `PartsRun.step`: an attempt, its result and the rows it leaves;
* `InOrderOnce`: the law for one attempt;
* `Progress`: the parts sent so far are the first ones, and exactly they are marked out;
* `LosesNothing`: an attempt with such an exception has sent nothing yet.

`parts_in_order_once`: **as long as no attempt loses what it sent, the parts go out in order and
once, and an attempt succeeds exactly when all are out.**
-/

namespace NexusHelpdesk.WhatsApp

open Lib Outbound

/-! ## attempts -/

/-- an attempt: the message's body and attachments at that time, and how its sends end; `none` is an
exception that the loop does not catch. -/
structure PartsAttempt where
  now : Instant
  body : String
  attachments : List ℕ
  sends : ℕ → Option SendResult

def trySends (sends : ℕ → Option SendResult) : List (ℕ × OutboundPart) → List ℕ × Bool
  | [] => ([], false)
  | (id, p) :: rest =>
    if p.done then trySends sends rest
    else
      match sends id with
      | some (.ok _) => (id :: (trySends sends rest).1, (trySends sends rest).2)
      | some (.error _) => ([], false)
      | none => ([], true)

/-- the sends of a loop that is not ended by an exception. -/
def caught (sends : ℕ → Option SendResult) (id : ℕ) : SendResult :=
  (sends id).getD (.error (.invalid "whatsapp_part_dispatch_failed"))

/-- the message that is sent: its key and row, the scope of its ticket, and the connection. -/
structure PartsMessage where
  id : ℕ
  row : OutboundMessage
  ticket : Option TicketScope
  connection : WhatsAppConnection

/-- the rows, and the parts sent so far, in the order in which they were. -/
structure PartsRun where
  parts : Table OutboundPart
  sent : List ℕ

variable (m : PartsMessage) {sends : ℕ → Option SendResult}

def PartsMessage.ctx (a : PartsAttempt) : Context := ⟨fun _ => m.ticket, fun _ => a.attachments⟩

def PartsMessage.belongs : Bool :=
  m.ticket.any fun t =>
    t.channelAccountId == some m.connection.channelAccountId &&
      t.tenantId == some m.connection.tenantId

/-- what the attempt sends, and whether an exception ends it. -/
def PartsMessage.tried (a : PartsAttempt) (parts : Table OutboundPart) : List ℕ × Bool :=
  if m.belongs then
    match ensureParts (m.ctx a) m.connection m.id a.body parts with
    | .ok parts => trySends a.sends (partsOf parts m.id)
    | .error _ => ([], false)
  else ([], false)

/-- `dispatch_whatsapp_parts`; an error is an exception. -/
def PartsMessage.outcome (a : PartsAttempt) (parts : Table OutboundPart) :
    Except String (PartsDispatchResult × Table OutboundPart) :=
  if (m.tried a parts).2 then .error "unhandled"
  else dispatchWhatsappParts (m.ctx a) a.now m.connection (caught a.sends) m.id
    { m.row with body := a.body } parts

/-- an attempt under the dispatcher, which rolls an exception back. -/
def PartsMessage.step (a : PartsAttempt) (s : PartsRun) : PartsRun where
  parts := match m.outcome a s.parts with
    | .ok (_, parts) => parts
    | .error _ => s.parts
  sent := s.sent ++ (m.tried a s.parts).1

def PartsMessage.succeeds (a : PartsAttempt) (parts : Table OutboundPart) : Prop :=
  ∃ result parts', m.outcome a parts = .ok (result, parts') ∧ result.ok = true

/-- keys, places and attachments of the parts, in sequence. -/
def PartsMessage.layout (parts : Table OutboundPart) : List (ℕ × ℕ × Option ℕ) :=
  (partsOf parts m.id).map fun x => (x.1, x.2.sequence, x.2.attachmentId)

structure PartsMessage.InOrderOnce (s : PartsRun) (a : PartsAttempt) : Prop where
  /-- the parts sent so far are the first ones, each once. -/
  sent : (m.step a s).sent <+: (partsOf (m.step a s).parts m.id).map (·.1)
  /-- a success lists the provider's id of every part, in sequence. -/
  listed : ∀ result parts', m.outcome a s.parts = .ok (result, parts') → result.ok = true →
    result.providerMessageIds.map some =
      (partsOf (m.step a s).parts m.id).map (·.2.providerMessageId)
  /-- it is a success if and only if there are parts and all of them have been sent. -/
  complete : m.succeeds a s.parts ↔ partsOf (m.step a s).parts m.id ≠ [] ∧
    ∀ x ∈ partsOf (m.step a s).parts m.id, x.1 ∈ (m.step a s).sent
  /-- the list of the parts is that of the earlier attempts. -/
  kept : m.layout s.parts ≠ [] → m.layout (m.step a s).parts = m.layout s.parts
  /-- the first list is the text, if any, and the attachments. -/
  built : m.layout s.parts = [] → m.layout (m.step a s).parts = [] ∨
    (m.layout (m.step a s).parts).map (·.2.2) = contents (m.ctx a) m.id a.body

def PartsMessage.LosesNothing (s : PartsRun) (a : PartsAttempt) : Prop :=
  (m.tried a s.parts).2 = true → (m.tried a s.parts).1 = []

instance (s : PartsRun) (a : PartsAttempt) : Decidable (m.LosesNothing s a) :=
  inferInstanceAs (Decidable (_ → _))

/-! ## the rows after the loop -/

lemma partsOf_mapped {t t' : Table OutboundPart} {g : ℕ → OutboundPart → OutboundPart} (id : ℕ)
    (hnext : t'.next = t.next) (hget : ∀ j, t'.get? j = (t.get? j).map (g j))
    (hkeep : ∀ j p, (g j p).outboundMessageId = p.outboundMessageId ∧
      (g j p).sequence = p.sequence) :
    partsOf t' id = (partsOf t id).map fun x => (x.1, g x.1 x.2) := by
  have hmap : t' = t.mapRows g := by
    refine Table.ext_get? hnext fun j => ?_
    rw [hget, Table.get?_mapRows]
  unfold partsOf Table.ordered
  rw [hmap, Table.select_mapRows]
  simp only [hkeep]
  refine (List.map_insertionSort _ _ _ _ fun a _ b _ => ?_).symm
  simp only [Table.earlier, hkeep]

lemma next_sendParts (now : Instant) (sends : ℕ → SendResult) (l : List (ℕ × OutboundPart))
    (ids : List String) (ats : List Instant) (t : Table OutboundPart) :
    (sendParts now sends l ids ats t).2.next = t.next := by
  induction l generalizing ids ats t with
  | nil => rfl
  | cons x rest ih =>
    obtain ⟨id, p⟩ := x
    unfold sendParts
    split
    · exact ih _ _ _
    · split
      · rw [ih, Table.next_modify]
      · rfl

def afterLoop (now : Instant) (sends : ℕ → SendResult) (l : List (ℕ × OutboundPart)) (j : ℕ)
    (p : OutboundPart) : OutboundPart :=
  if j ∈ (reached sends l).map (·.1) then sendRow now (sends j) p else p

lemma afterLoop_keeps (now : Instant) (sends : ℕ → SendResult) (l : List (ℕ × OutboundPart))
    (j : ℕ) (p : OutboundPart) :
    (afterLoop now sends l j p).outboundMessageId = p.outboundMessageId ∧
      (afterLoop now sends l j p).sequence = p.sequence ∧
      (afterLoop now sends l j p).attachmentId = p.attachmentId ∧
      (afterLoop now sends l j p).connectionId = p.connectionId := by
  unfold afterLoop sendRow
  split
  · split
    · exact ⟨rfl, rfl, rfl, rfl⟩
    · cases sends j <;> exact ⟨rfl, rfl, rfl, rfl⟩
  · exact ⟨rfl, rfl, rfl, rfl⟩

lemma partsOf_sendParts (now : Instant) (sends : ℕ → SendResult) (t : Table OutboundPart)
    (id : ℕ) :
    partsOf (sendParts now sends (partsOf t id) [] [] t).2 id =
      (partsOf t id).map fun x => (x.1, afterLoop now sends (partsOf t id) x.1 x.2) := by
  refine partsOf_mapped id (next_sendParts now sends _ _ _ t) (fun j => ?_) fun j p => ?_
  · rw [get?_sendParts_partsOf]
    unfold afterLoop
    split
    · rfl
    · simp
  · have hkeep := afterLoop_keeps now sends (partsOf t id) j p
    exact ⟨hkeep.1, hkeep.2.1⟩

lemma sendParts_ids (now : Instant) {sends : ℕ → SendResult} {l : List (ℕ × OutboundPart)}
    (h : failingPart sends l = none) (ids : List String) (ats : List Instant)
    (t : Table OutboundPart) :
    (sendParts now sends l ids ats t).1.providerMessageIds =
      ids ++ l.flatMap fun x => (sendRow now (sends x.1) x.2).providerMessageId.toList := by
  induction l generalizing ids ats t with
  | nil => simp [sendParts]
  | cons x rest ih =>
    obtain ⟨id, p⟩ := x
    unfold failingPart at h ih
    rw [List.find?_cons] at h
    cases hfails : sendFails sends (id, p) with
    | true =>
      rw [hfails] at h
      cases h
    | false =>
      rw [hfails] at h
      unfold sendParts
      rw [List.flatMap_cons]
      by_cases hdone : p.done = true
      · have hrow : sendRow now (sends id) p = p := if_pos hdone
        rw [if_pos hdone, ih h, hrow, List.append_assoc]
      · rw [if_neg hdone]
        cases hs : sends id with
        | ok sent =>
          have hrow : sendRow now (.ok sent) p =
              markPartSent now sent.providerMessageId sent.sentAt p := if_neg hdone
          dsimp only
          rw [ih h, hrow, List.append_assoc]
          rfl
        | error e => simp [sendFails, hdone, hs, Except.isOk, Except.toBool] at hfails

/-! ## what an attempt sends -/

lemma trySends_append {out : List (ℕ × OutboundPart)} (h : ∀ x ∈ out, x.2.done = true)
    (todo : List (ℕ × OutboundPart)) :
    trySends sends (out ++ todo) = trySends sends todo := by
  induction out with
  | nil => rfl
  | cons x out ih =>
    obtain ⟨id, p⟩ := x
    rw [List.cons_append, trySends, if_pos (h (id, p) List.mem_cons_self)]
    exact ih fun y hy => h y (List.mem_cons_of_mem _ hy)

/-- the loop over parts that are not out: it sends all of them, or those before the first whose
send ends otherwise. -/
lemma trySends_cases (sends : ℕ → Option SendResult) {todo : List (ℕ × OutboundPart)}
    (h : ∀ x ∈ todo, x.2.done = false) :
    (trySends sends todo = (todo.map (·.1), false) ∧
        ∀ x ∈ todo, sendFails (caught sends) x = false) ∨
      ∃ pre x post, todo = pre ++ x :: post ∧
        trySends sends todo = (pre.map (·.1), (sends x.1).isNone) ∧
        sendFails (caught sends) x = true ∧ ∀ y ∈ pre, sendFails (caught sends) y = false := by
  induction todo with
  | nil => exact Or.inl ⟨rfl, by simp⟩
  | cons x rest ih =>
    obtain ⟨id, p⟩ := x
    have hdone : p.done = false := h (id, p) List.mem_cons_self
    have hrest := ih fun y hy => h y (List.mem_cons_of_mem _ hy)
    unfold trySends
    rw [if_neg (by simp [hdone])]
    cases hs : sends id with
    | none =>
      refine Or.inr ⟨[], (id, p), rest, rfl, by simp [hs], ?_, by simp⟩
      simp [sendFails, caught, hdone, hs, Except.isOk, Except.toBool]
    | some r =>
      cases r with
      | error e =>
        refine Or.inr ⟨[], (id, p), rest, rfl, by simp [hs], ?_, by simp⟩
        simp [sendFails, caught, hdone, hs, Except.isOk, Except.toBool]
      | ok sent =>
        have hfine : sendFails (caught sends) (id, p) = false := by
          simp [sendFails, caught, hs, Except.isOk, Except.toBool]
        rcases hrest with ⟨hall, hok⟩ | ⟨pre, x, post, rfl, htry, hfail, hpre⟩
        · refine Or.inl ⟨by simp [hall], fun y hy => ?_⟩
          rcases List.mem_cons.1 hy with rfl | hy
          · exact hfine
          · exact hok y hy
        · refine Or.inr ⟨(id, p) :: pre, x, post, rfl, by simp [htry], hfail, fun y hy => ?_⟩
          rcases List.mem_cons.1 hy with rfl | hy
          · exact hfine
          · exact hpre y hy

lemma reached_of_split {sends : ℕ → SendResult} {pre : List (ℕ × OutboundPart)}
    (post : List (ℕ × OutboundPart)) {x : ℕ × OutboundPart} (hpre : ∀ y ∈ pre, sendFails sends y = false)
    (hx : sendFails sends x = true) :
    reached sends (pre ++ x :: post) = pre ++ [x] ∧
      failingPart sends (pre ++ x :: post) = some x.1 := by
  induction pre with
  | nil =>
    unfold failingPart
    rw [List.nil_append, reached, if_pos hx, List.find?_cons, hx]
    exact ⟨rfl, rfl⟩
  | cons y pre ih =>
    have hy := hpre y List.mem_cons_self
    obtain ⟨hreach, hfail⟩ := ih fun z hz => hpre z (List.mem_cons_of_mem _ hz)
    unfold failingPart at hfail ⊢
    rw [List.cons_append, reached, if_neg (by simp [hy]), hreach, List.find?_cons, hy]
    exact ⟨rfl, hfail⟩

def Split (rows out todo : List (ℕ × OutboundPart)) : Prop :=
  rows = out ++ todo ∧ (∀ x ∈ out, x.2.done = true) ∧ ∀ x ∈ todo, x.2.done = false

lemma Split.loop (now : Instant) {rows out todo : List (ℕ × OutboundPart)} (h : Split rows out todo)
    (hkeys : (rows.map (·.1)).Nodup) (hraise : (trySends sends rows).2 = false) :
    ∃ out' todo', Split (rows.map fun x => (x.1, afterLoop now (caught sends) rows x.1 x.2))
        out' todo' ∧
      out'.map (·.1) = out.map (·.1) ++ (trySends sends rows).1 ∧
      (failingPart (caught sends) rows = none ↔ todo' = []) := by
  obtain ⟨rfl, hout, htodo⟩ := h
  rw [trySends_append hout] at hraise ⊢
  have hskip : ∀ y ∈ out, sendFails (caught sends) y = false := by
    intro y hy
    simp [sendFails, hout y hy]
  rcases trySends_cases sends htodo with ⟨htry, hfine⟩ | ⟨pre, x, post, rfl, htry, hfails, hpre⟩
  · have hall : ∀ y ∈ out ++ todo, sendFails (caught sends) y = false := by
      intro y hy
      rcases List.mem_append.1 hy with hy | hy
      · exact hskip y hy
      · exact hfine y hy
    have hnone : failingPart (caught sends) (out ++ todo) = none := by
      unfold failingPart
      rw [Option.map_eq_none_iff, List.find?_eq_none]
      intro y hy
      simp [hall y hy]
    refine ⟨_, [], ⟨(List.append_nil _).symm, ?_, by simp⟩, ?_, iff_of_true hnone rfl⟩
    · intro z hz
      obtain ⟨y, hy, rfl⟩ := List.mem_map.1 hz
      have hin : y.1 ∈ (reached (caught sends) (out ++ todo)).map (·.1) := by
        rw [reached_eq_of_none hnone]
        exact List.mem_map_of_mem hy
      show (afterLoop now _ _ y.1 y.2).done = true
      unfold afterLoop
      rw [if_pos hin]
      exact sendRow_done (hall y hy)
    · rw [htry, List.map_map, ← List.map_append]
      rfl
  · have hbefore : ∀ y ∈ out ++ pre, sendFails (caught sends) y = false := by
      intro y hy
      rcases List.mem_append.1 hy with hy | hy
      · exact hskip y hy
      · exact hpre y hy
    have hrows : out ++ (pre ++ x :: post) = (out ++ pre) ++ x :: post := by simp
    rw [hrows] at hkeys ⊢
    obtain ⟨hreach, hfail⟩ := reached_of_split post hbefore hfails
    rw [List.map_append]
    refine ⟨_, _, ⟨rfl, ?_, ?_⟩, ?_, iff_of_false (by rw [hfail]; simp) (by simp)⟩
    · intro z hz
      obtain ⟨y, hy, rfl⟩ := List.mem_map.1 hz
      show (afterLoop now _ _ y.1 y.2).done = true
      unfold afterLoop
      rw [hreach, if_pos (List.mem_map_of_mem (List.mem_append_left _ hy))]
      exact sendRow_done (hbefore y hy)
    · intro z hz
      obtain ⟨y, hy, rfl⟩ := List.mem_map.1 hz
      show (afterLoop now _ _ y.1 y.2).done = false
      unfold afterLoop
      rw [hreach]
      rcases List.mem_cons.1 hy with rfl | hy
      · -- the part at which the loop stopped is marked as failed
        have hfailed := sendRow_failed now hfails
        rw [if_pos (List.mem_map_of_mem (by simp))]
        simp [OutboundPart.done, hfailed, DeliveryStatus.isOut, DeliveryStatus.rank]
      · have hlater : y.1 ∉ ((out ++ pre) ++ [x]).map (·.1) := by
          have hsplit : (out ++ pre) ++ x :: post = ((out ++ pre) ++ [x]) ++ post := by simp
          rw [hsplit, List.map_append, List.nodup_append] at hkeys
          intro hmem
          exact hkeys.2.2 _ hmem _ (List.mem_map_of_mem hy) rfl
        rw [if_neg hlater]
        exact htodo y (List.mem_append_right _ (List.mem_cons_of_mem _ hy))
    · rw [htry, List.map_map, ← List.map_append]
      rfl

lemma partsOf_eq_nil_iff (t : Table OutboundPart) (id : ℕ) :
    partsOf t id = [] ↔ (t.select fun _ p => decide (p.outboundMessageId = id)) = [] := by
  unfold partsOf Table.ordered
  rw [← List.length_eq_zero_iff, List.length_insertionSort, List.length_eq_zero_iff]

lemma select_insertParts (c : WhatsAppConnection) (id : ℕ) (contents : List (Option ℕ)) (k : ℕ)
    (t : Table OutboundPart) :
    ∃ rows, ((insertParts c id k contents t).select fun _ p =>
          decide (p.outboundMessageId = id)) =
        (t.select fun _ p => decide (p.outboundMessageId = id)) ++ rows ∧
      rows.map (·.2.attachmentId) = contents ∧
      (∀ x ∈ rows, x.2.connectionId = c.id ∧ x.2.done = false ∧ k ≤ x.2.sequence) ∧
      rows.Pairwise inSequence := by
  induction contents generalizing k t with
  | nil => exact ⟨[], by simp [insertParts], rfl, by simp, List.Pairwise.nil⟩
  | cons a rest ih =>
    obtain ⟨rows, hsel, hmap, hrows, hpair⟩ := ih (k + 1) (t.insert (newPart c id k a))
    refine ⟨(t.next, newPart c id k a) :: rows, ?_, by simp [hmap, newPart], ?_, ?_⟩
    · unfold insertParts
      rw [hsel, Table.select_insert]
      simp [newPart]
    · intro x hx
      rcases List.mem_cons.1 hx with rfl | hx
      · exact ⟨rfl, rfl, le_rfl⟩
      · obtain ⟨hconn, hdone, hle⟩ := hrows x hx
        exact ⟨hconn, hdone, by omega⟩
    · refine List.pairwise_cons.2 ⟨fun x hx => Or.inl ?_, hpair⟩
      have hle := (hrows x hx).2.2
      show ((newPart c id k a).sequence : ℤ) < x.2.sequence
      simp only [newPart]
      omega

/-- `_ensure_parts` finds the rows of the connection, or makes them. -/
lemma ensureParts_cases {ctx : Context} {c : WhatsAppConnection} {id : ℕ} {body : String}
    {t t' : Table OutboundPart} (h : ensureParts ctx c id body t = .ok t') :
    (partsOf t id ≠ [] ∧ t' = t ∧ ∀ x ∈ partsOf t' id, x.2.connectionId = c.id) ∨
      (partsOf t id = [] ∧ (partsOf t' id).map (·.2.attachmentId) = contents ctx id body ∧
        ∀ x ∈ partsOf t' id, x.2.connectionId = c.id ∧ x.2.done = false) := by
  unfold ensureParts at h
  by_cases hold : partsOf t id = []
  · rw [if_neg (by simp [hold])] at h
    split at h
    · cases h
    · cases h
      obtain ⟨rows, hsel, hmap, hrows, hpair⟩ := select_insertParts c id (contents ctx id body) 0 t
      have hparts : partsOf (insertParts c id 0 (contents ctx id body) t) id = rows := by
        rw [(partsOf_eq_nil_iff t id).1 hold, List.nil_append] at hsel
        unfold partsOf Table.ordered
        rw [hsel]
        exact hpair.insertionSort_eq
      rw [hparts]
      exact Or.inr ⟨hold, hmap, fun x hx => ⟨(hrows x hx).1, (hrows x hx).2.1⟩⟩
  · rw [if_pos (by simp [hold])] at h
    split at h
    · cases h
    · rename_i hconn
      cases h
      refine Or.inl ⟨hold, rfl, fun x hx => ?_⟩
      by_contra hne
      exact hconn (List.any_eq_true.2 ⟨x, hx, by simpa using hne⟩)

/-! ## progress -/

/-- the parts sent so far are the first ones, and exactly they are marked out. -/
structure PartsMessage.Progress (s : PartsRun) : Prop where
  split : ∃ out todo, Split (partsOf s.parts m.id) out todo ∧ s.sent = out.map (·.1)
  connection : ∀ x ∈ partsOf s.parts m.id, x.2.connectionId = m.connection.id
  belongs : partsOf s.parts m.id ≠ [] → m.belongs = true

variable {m} {s : PartsRun} {a : PartsAttempt}

lemma nodup_partsOf (t : Table OutboundPart) (id : ℕ) : ((partsOf t id).map (·.1)).Nodup :=
  Table.nodup_keys_ordered

structure PartsMessage.Loops (m : PartsMessage) (s : PartsRun) (a : PartsAttempt)
    (rows : Table OutboundPart) : Prop where
  belongs : m.belongs = true
  made : ensureParts (m.ctx a) m.connection m.id a.body s.parts = .ok rows
  ends : (trySends a.sends (partsOf rows m.id)).2 = false

variable {rows : Table OutboundPart}

lemma PartsMessage.Loops.outcome (h : m.Loops s a rows) :
    m.outcome a s.parts =
      .ok (sendParts a.now (caught a.sends) (partsOf rows m.id) [] [] rows) := by
  have hscope : inScope (m.ctx a) m.connection { m.row with body := a.body } = true := h.belongs
  unfold PartsMessage.outcome PartsMessage.tried
  rw [if_pos h.belongs, h.made]
  dsimp only
  rw [h.ends, if_neg Bool.false_ne_true]
  unfold dispatchWhatsappParts
  rw [hscope]
  dsimp only
  rw [h.made]
  rfl

lemma PartsMessage.Loops.step_eq (h : m.Loops s a rows) :
    m.step a s =
      ⟨(sendParts a.now (caught a.sends) (partsOf rows m.id) [] [] rows).2,
        s.sent ++ (trySends a.sends (partsOf rows m.id)).1⟩ := by
  have htried : m.tried a s.parts = trySends a.sends (partsOf rows m.id) := by
    unfold PartsMessage.tried
    rw [if_pos h.belongs, h.made]
  unfold PartsMessage.step
  rw [h.outcome, htried]

/-- an attempt that does not come to its loop, or that an exception ends before it has sent
anything, changes nothing, and some part is still to be sent. -/
lemma PartsMessage.Progress.step_cases (h : m.Progress s) (hloss : m.LosesNothing s a) :
    (m.step a s = s ∧ ¬ m.succeeds a s.parts ∧
        (partsOf s.parts m.id ≠ [] → ∃ x ∈ partsOf s.parts m.id, x.1 ∉ s.sent)) ∨
      ∃ rows, m.Loops s a rows := by
  have hstays : (∃ e, m.outcome a s.parts = .error e) ∨
      (∃ r, r.ok = false ∧ m.outcome a s.parts = .ok (r, s.parts)) →
      (m.tried a s.parts).1 = [] → m.step a s = s ∧ ¬ m.succeeds a s.parts := by
    intro hout hnone
    unfold PartsMessage.step PartsMessage.succeeds
    rw [hnone, List.append_nil]
    rcases hout with ⟨e, hout⟩ | ⟨r, hr, hout⟩
    · rw [hout]
      refine ⟨rfl, ?_⟩
      rintro ⟨_, _, hcase, -⟩
      cases hcase
    · rw [hout]
      refine ⟨rfl, ?_⟩
      rintro ⟨_, _, hcase, hok⟩
      cases hcase
      rw [hr] at hok
      cases hok
  by_cases hbelongs : m.belongs = true
  · cases hrows : ensureParts (m.ctx a) m.connection m.id a.body s.parts with
    | error e =>
      left
      have htried : m.tried a s.parts = ([], false) := by
        unfold PartsMessage.tried
        rw [if_pos hbelongs, hrows]
      have hscope : inScope (m.ctx a) m.connection { m.row with body := a.body } = true := hbelongs
      have hout : m.outcome a s.parts = .error e := by
        unfold PartsMessage.outcome dispatchWhatsappParts
        rw [htried, hscope]
        dsimp only
        rw [hrows]
        rfl
      obtain ⟨hsame, hfail⟩ := hstays (Or.inl ⟨e, hout⟩) (by rw [htried])
      refine ⟨hsame, hfail, fun hne => ?_⟩
      -- the rows there are belong to the connection
      unfold ensureParts at hrows
      rw [if_pos (by simp [hne])] at hrows
      split at hrows
      · rename_i hother
        obtain ⟨x, hx, hxc⟩ := List.any_eq_true.1 hother
        rw [h.connection x hx] at hxc
        simp at hxc
      · cases hrows
    | ok rows =>
      cases hends : (trySends a.sends (partsOf rows m.id)).2 with
      | false => exact Or.inr ⟨rows, hbelongs, hrows, hends⟩
      | true =>
        left
        have htried : m.tried a s.parts = trySends a.sends (partsOf rows m.id) := by
          unfold PartsMessage.tried
          rw [if_pos hbelongs, hrows]
        have hnone := hloss (by rw [htried, hends])
        have hout : m.outcome a s.parts = .error "unhandled" := by
          unfold PartsMessage.outcome
          rw [htried, hends]
          rfl
        obtain ⟨hsame, hfail⟩ := hstays (Or.inl ⟨_, hout⟩) hnone
        refine ⟨hsame, hfail, fun hne => ?_⟩
        -- the part whose send raised is not out
        obtain ⟨out, todo, ⟨heq, hdone, htodo⟩, hsent⟩ := h.split
        rcases ensureParts_cases hrows with ⟨-, rfl, -⟩ | ⟨hnil, -⟩
        · rw [heq, trySends_append hdone] at hends
          rcases trySends_cases a.sends htodo with ⟨htry, -⟩ | ⟨pre, x, post, rfl, -⟩
          · rw [htry] at hends
            cases hends
          · have hkeys := nodup_partsOf s.parts m.id
            rw [heq, List.map_append, List.nodup_append] at hkeys
            refine ⟨x, by rw [heq]; simp, ?_⟩
            rw [hsent]
            intro hmem
            exact hkeys.2.2 _ hmem _ (List.mem_map_of_mem (by simp)) rfl
        · exact absurd hnil hne
  · left
    have htried : m.tried a s.parts = ([], false) := by
      unfold PartsMessage.tried
      rw [if_neg hbelongs]
    have hscope : inScope (m.ctx a) m.connection { m.row with body := a.body } = false :=
      Bool.eq_false_iff.2 hbelongs
    have hout : m.outcome a s.parts = .ok (scopeMismatch, s.parts) := by
      unfold PartsMessage.outcome dispatchWhatsappParts
      rw [htried, hscope]
      rfl
    obtain ⟨hsame, hfail⟩ := hstays (Or.inr ⟨_, rfl, hout⟩) (by rw [htried])
    exact ⟨hsame, hfail, fun hne => absurd (h.belongs hne) hbelongs⟩

lemma PartsMessage.Progress.loop_rows (h : m.Progress s) (hl : m.Loops s a rows) :
    (∃ out todo, Split (partsOf rows m.id) out todo ∧ s.sent = out.map (·.1)) ∧
      ∀ x ∈ partsOf rows m.id, x.2.connectionId = m.connection.id := by
  rcases ensureParts_cases hl.made with ⟨-, rfl, hconn⟩ | ⟨hnil, -, hnew⟩
  · exact ⟨h.split, hconn⟩
  · obtain ⟨out, todo, ⟨heq, -, -⟩, hsent⟩ := h.split
    rw [hnil] at heq
    obtain ⟨rfl, rfl⟩ := List.append_eq_nil_iff.1 heq.symm
    exact ⟨⟨[], _, ⟨rfl, by simp, fun x hx => (hnew x hx).2⟩, hsent⟩, fun x hx => (hnew x hx).1⟩

lemma layout_loop (hl : m.Loops s a rows) :
    m.layout (m.step a s).parts = m.layout rows := by
  unfold PartsMessage.layout
  rw [hl.step_eq, partsOf_sendParts, List.map_map]
  refine List.map_congr_left fun x _ => ?_
  have hkeep := afterLoop_keeps a.now (caught a.sends) (partsOf rows m.id) x.1 x.2
  simp only [Function.comp_apply, hkeep.2.1, hkeep.2.2.1]

lemma layout_eq_nil_iff (t : Table OutboundPart) : m.layout t = [] ↔ partsOf t m.id = [] :=
  List.map_eq_nil_iff

lemma ids_of_done {rows : List (ℕ × OutboundPart)} (h : ∀ x ∈ rows, x.2.done = true) :
    (rows.flatMap fun x => x.2.providerMessageId.toList).map some =
      rows.map (·.2.providerMessageId) := by
  induction rows with
  | nil => rfl
  | cons x rest ih =>
    have hx := h x List.mem_cons_self
    unfold OutboundPart.done at hx
    cases hid : x.2.providerMessageId with
    | none =>
      rw [hid] at hx
      simp [PyStr.truthy] at hx
    | some id =>
      rw [List.flatMap_cons, List.map_append, ih fun y hy => h y (List.mem_cons_of_mem _ hy),
        List.map_cons, hid]
      rfl

lemma PartsMessage.Loops.succeeds_iff (hl : m.Loops s a rows) :
    m.succeeds a s.parts ↔ failingPart (caught a.sends) (partsOf rows m.id) = none := by
  have hok := sendParts_result a.now (caught a.sends) (partsOf rows m.id) [] [] rows
  unfold PartsMessage.succeeds
  rw [hl.outcome]
  constructor
  · rintro ⟨result, parts', heq, hresult⟩
    rw [Except.ok.inj heq] at hok
    exact Option.isNone_iff_eq_none.1 (hok.symm.trans hresult)
  · intro hnone
    rw [hnone] at hok
    exact ⟨_, _, rfl, hok⟩

lemma PartsMessage.Progress.step (h : m.Progress s) (hloss : m.LosesNothing s a) :
    m.Progress (m.step a s) ∧ m.InOrderOnce s a := by
  rcases h.step_cases hloss with ⟨hsame, hfail, hleft⟩ | ⟨rows, hl⟩
  · obtain ⟨out, todo, ⟨heq, -, -⟩, hsent⟩ := h.split
    constructor
    · rw [hsame]
      exact h
    · constructor
      · rw [hsame, hsent, heq, List.map_append]
        exact List.prefix_append _ _
      · exact fun result parts' hout hok => (hfail ⟨result, parts', hout, hok⟩).elim
      · rw [hsame]
        refine iff_of_false hfail fun hall => ?_
        obtain ⟨x, hx, hnot⟩ := hleft hall.1
        exact hnot (hall.2 x hx)
      · rw [hsame]
        exact fun _ => rfl
      · rw [hsame]
        exact fun hnil => Or.inl hnil
  · obtain ⟨⟨out, todo, hsplit, hsent⟩, hconn⟩ := h.loop_rows hl
    obtain ⟨out', todo', hsplit', hkeys, hnone⟩ :=
      hsplit.loop a.now (nodup_partsOf rows m.id) hl.ends
    have hparts : partsOf (m.step a s).parts m.id = out' ++ todo' := by
      rw [hl.step_eq, partsOf_sendParts]
      exact hsplit'.1
    have hsent' : (m.step a s).sent = out'.map (·.1) := by
      rw [hl.step_eq, hkeys, hsent]
    have hne : partsOf (m.step a s).parts m.id ≠ [] := by
      rw [hl.step_eq]
      exact partsOf_sendParts_ne_nil a.now (caught a.sends) (ensureParts_ne_nil hl.made)
    constructor
    · refine ⟨⟨out', todo', ⟨hparts, hsplit'.2⟩, hsent'⟩, fun x hx => ?_, fun _ => hl.belongs⟩
      rw [hl.step_eq, partsOf_sendParts] at hx
      obtain ⟨y, hy, rfl⟩ := List.mem_map.1 hx
      exact (afterLoop_keeps _ _ _ _ _).2.2.2.trans (hconn y hy)
    · constructor
      · rw [hsent', hparts, List.map_append]
        exact List.prefix_append _ _
      · intro result parts' hout hok
        have hsucc := hl.succeeds_iff.1 ⟨result, parts', hout, hok⟩
        rw [hl.outcome] at hout
        have hresult : (sendParts a.now (caught a.sends) (partsOf rows m.id) [] [] rows).1 =
            result := congrArg Prod.fst (Except.ok.inj hout)
        -- every row has been sent or was out before
        have hrows : partsOf (m.step a s).parts m.id =
            (partsOf rows m.id).map fun x => (x.1, sendRow a.now (caught a.sends x.1) x.2) := by
          rw [hl.step_eq, partsOf_sendParts]
          refine List.map_congr_left fun x hx => ?_
          unfold afterLoop
          rw [reached_eq_of_none hsucc, if_pos (List.mem_map_of_mem hx)]
        have hdone : ∀ x ∈ partsOf (m.step a s).parts m.id, x.2.done = true := by
          rw [hparts, hnone.1 hsucc, List.append_nil]
          exact hsplit'.2.1
        rw [← ids_of_done hdone, ← hresult, sendParts_ids a.now hsucc, hrows, List.flatMap_map]
        rfl
      · rw [hl.succeeds_iff, hnone, hsent', hparts]
        constructor
        · intro hnil
          rw [hnil, List.append_nil] at hparts ⊢
          rw [hparts] at hne
          exact ⟨hne, fun x hx => List.mem_map_of_mem hx⟩
        · rintro ⟨-, hall⟩
          -- a part that is left has not been sent
          have hdistinct := nodup_partsOf (m.step a s).parts m.id
          rw [hparts, List.map_append, List.nodup_append] at hdistinct
          refine List.eq_nil_iff_forall_not_mem.2 fun x hx => ?_
          exact hdistinct.2.2 _ (hall x (List.mem_append_right _ hx)) _
            (List.mem_map_of_mem hx) rfl
      · intro hold
        rw [layout_loop hl]
        rcases ensureParts_cases hl.made with ⟨-, rfl, -⟩ | ⟨hnil, -⟩
        · rfl
        · exact absurd ((layout_eq_nil_iff _).2 hnil) hold
      · intro hold
        rw [layout_loop hl]
        rcases ensureParts_cases hl.made with ⟨hne', -⟩ | ⟨-, hmap, -⟩
        · exact absurd ((layout_eq_nil_iff _).1 hold) hne'
        · refine Or.inr (Eq.trans ?_ hmap)
          unfold PartsMessage.layout
          rw [List.map_map]
          rfl

theorem parts_in_order_once (m : PartsMessage) (parts : Table OutboundPart)
    (hnew : partsOf parts m.id = []) (l : List PartsAttempt)
    (hl : Along m.step (m.LosesNothing) ⟨parts, []⟩ l) :
    Along m.step (m.InOrderOnce) ⟨parts, []⟩ l := by
  refine hl.imp (I := m.Progress) (fun s a h hloss => (h.step hloss).1)
    (fun s a h hloss => (h.step hloss).2) ?_
  refine ⟨⟨[], [], ⟨?_, by simp, by simp⟩, rfl⟩, ?_, ?_⟩
  · exact hnew
  · intro x hx
    rw [show partsOf (⟨parts, []⟩ : PartsRun).parts m.id = [] from hnew] at hx
    cases hx
  · exact fun hne => absurd hnew hne

def greeting : PartsMessage := ⟨1, sampleReply, some ⟨some 1, some 1⟩, sampleConnection⟩

def greetingAttempt (sends : ℕ → Option SendResult) : PartsAttempt := ⟨0, "Hello", [1], sends⟩

/-- the text goes out, the attachment only at the second attempt. -/
theorem greeting_in_order_once :
    Along greeting.step greeting.InOrderOnce ⟨.empty, []⟩
      [greetingAttempt (fun i => some (sampleSends i)),
        greetingAttempt fun _ => some (.ok ⟨"wamid.2", none, by decide⟩)] :=
  parts_in_order_once greeting .empty rfl _ (by decide +kernel)

/-- the text goes out, and reading the attachment raises what the loop does not catch. -/
def missingFile : PartsAttempt :=
  greetingAttempt fun i => if i = 1 then some (.ok ⟨"wamid.1", none, wamid_ne⟩) else none

/-- the rollback forgets that the text is out: the next attempt sends it again. -/
theorem missingFile_sends_twice :
    (run greeting.step ⟨.empty, []⟩ [missingFile, missingFile]).sent = [1, 1] ∧
      ¬ Along greeting.step greeting.InOrderOnce ⟨.empty, []⟩ [missingFile, missingFile] := by
  have htwice : (run greeting.step ⟨.empty, []⟩ [missingFile, missingFile]).sent = [1, 1] := by
    decide +kernel
  refine ⟨htwice, fun h => ?_⟩
  -- the keys of the parts are distinct
  have hprefix : [1, 1] <+: _ := htwice ▸ h.2.1.sent
  have hkeys := hprefix.sublist.nodup (nodup_partsOf _ _)
  exact absurd hkeys (by decide)

end NexusHelpdesk.WhatsApp
