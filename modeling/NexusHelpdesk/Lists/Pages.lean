import NexusHelpdesk.Desk.Basic
import NexusHelpdesk.Lib.Bytes
import NexusHelpdesk.Lib.Except
import NexusHelpdesk.Lib.Json
import NexusHelpdesk.Lib.Listing
import NexusHelpdesk.Lib.Table
import NexusHelpdesk.Lib.UtcTime

/-!
# The lists of cases and of operator tasks (`lite_pagination.py`, `operator_queue.py`)

Both lists page through the rows that match their filters with a cursor that names the last row.

* `encodeCursor`, `decodeCursor`, `encodeOperatorCursor`, `decodeOperatorCursor`: the cursors;
* `listLiteCasesPage`, `listOperatorTasks`: one page;
* `lists_page`: **the cursors are read back, and both lists are complete**, the one of the cases as
  far as no matching case is refused for its tenant;
* `foreign_case_stops`: a case with a customer of another tenant stops the walk.
-/

namespace NexusHelpdesk.Lists

open Lib

abbrev Text := List Char

/-! ## cursors -/

/-- `base64.urlsafe_b64encode(json.dumps(…)).rstrip("=")`. -/
def encodeJson (v : Json) : Text := urlBase64 (utf8 v.text)

def decodeJson (cursor : Text) : Option Json := do
  Json.parse (← ofUtf8 (← ofUrlBase64 cursor))

def isoformat (t : UtcTime) : Text := t.text.dropLast ++ "+00:00".toList

/-- `datetime.fromisoformat` on the texts of `isoformat`. -/
def fromIsoformat (s : Text) : Option UtcTime :=
  if s.drop (s.length - 6) = "+00:00".toList then UtcTime.ofText (s.take (s.length - 6) ++ ['Z'])
  else none

def encodeCursor (updatedAt : Option UtcTime) (id : ℤ) : Text :=
  encodeJson (.obj [("updated_at".toList, (updatedAt.map (.str <| isoformat ·)).getD .null),
    ("id".toList, .num id)])

/-- `datetime.fromisoformat(updated_raw) if updated_raw else None`. -/
def updatedOf : Option Json → Option (Option UtcTime)
  | none | some .null | some (.bool false) | some (.num 0) | some (.str []) | some (.arr [])
  | some (.obj []) => some none
  | some (.str s) => (fromIsoformat s).map some
  | some _ => none

/-- `int(…)`; only foreign cursors hold other values than whole numbers. -/
def idOf : Option Json → Option ℤ
  | some (.num n) => some n
  | _ => none

def decodeCursor (cursor : Option Text) : Except HTTPException (Option (Option UtcTime × ℤ)) :=
  match cursor.filter (· ≠ []) with
  | none => .ok none
  | some raw =>
    match decodeJson raw with
    | none => .error ⟨400, "invalid cursor"⟩
    | some parsed =>
      match updatedOf (parsed.field "updated_at"), idOf (parsed.field "id") with
      | some updatedAt, some id => .ok (some (updatedAt, id))
      | _, _ => .error ⟨400, "invalid cursor"⟩

structure OperatorQueueError where
  statusCode : ℕ
  code : String
  detail : String

def encodeOperatorCursor (priority taskId : ℤ) : Text :=
  encodeJson (.obj [("priority".toList, .num priority), ("id".toList, .num taskId)])

def decodeOperatorCursor (cursor : Option Text) : Except OperatorQueueError (Option (ℤ × ℤ)) :=
  match cursor.filter (· ≠ []) with
  | none => .ok none
  | some raw =>
    match decodeJson raw with
    | none => .error ⟨400, "invalid_cursor", "invalid operator queue cursor"⟩
    | some parsed =>
      match idOf (parsed.field "priority"), idOf (parsed.field "id") with
      | some priority, some id => .ok (some (priority, id))
      | _, _ => .error ⟨400, "invalid_cursor", "invalid operator queue cursor"⟩

/-! ## cases -/

/-- the columns of a ticket that the list reads. -/
structure LiteCase where
  tenantId : Option ℕ := none
  customerId : Option ℕ := none
  marketId : Option ℕ := none
  teamId : Option ℕ := none
  channelAccountId : Option ℕ := none
  assigneeId : Option ℕ := none
  createdBy : Option ℕ := none
  ticketNo : Text := []
  title : Text := []
  description : Text := []
  trackingNumber : Option Text := none
  status : TicketStatus := .new
  priority : Text := []
  resolutionDueAt : Option UtcTime := none
  updatedAt : UtcTime

/-- `owner` is the tenant of a related row, by its kind and key. -/
structure LiteTables where
  tickets : Table LiteCase
  customerName : ℕ → Option Text
  owner : String → ℕ → Option (Option ℕ)
  activeTenant : ℕ → Bool

/-- the user who asks, with what `resolve_actor_tenant_id` and `has_global_case_visibility` answer
for it. -/
structure Actor where
  id : ℕ
  tenantId : Option ℕ
  teamId : Option ℕ
  seesAll : Bool

structure LiteFilters where
  q : Option Text := none
  status : Option String := none
  priority : Option Text := none
  assigneeId : Option ℕ := none
  teamId : Option ℕ := none
  overdue : Option Bool := none
  limit : Option ℤ := none

/-- `_lite_status_filter`; `none` is no filter. -/
def liteStatusFilter (status : Option String) : Except HTTPException (Option (List TicketStatus)) :=
  match status.filter (· ≠ "") with
  | none => .ok none
  | some "pending_human" => .ok (some [.new, .pendingAssignment, .waitingInternal, .escalated])
  | some "closed" => .ok (some [.closed, .canceled])
  | some "new" => .ok (some [.new])
  | some "in_progress" => .ok (some [.inProgress])
  | some "waiting_customer" => .ok (some [.waitingCustomer])
  | some "resolved" => .ok (some [.resolved])
  | some _ => .error ⟨400, "Unsupported status"⟩

def normalizeQ (q : Option Text) : Except HTTPException (Option Text) :=
  match q.map PyStr.collapse with
  | none | some [] => .ok none
  | some value =>
    if value.length < 3 then .error ⟨400, "q must be at least 3 characters"⟩
    else if 80 < value.length then .error ⟨400, "q must be at most 80 characters"⟩
    else .ok (some value)

/-- a filter on an optional argument, which `0` and the empty text leave open. -/
def given {α : Type} [DecidableEq α] (falsy : α) (argument column : Option α) : Bool :=
  argument.all fun a => a = falsy || column = some a

/-- the rows of the query; `ilike` is the operator of the database. -/
def matchingCases (ilike : Text → Text → Bool) (actor : Actor) (f : LiteFilters) (now : UtcTime)
    (statusIn : Option (List TicketStatus)) (q : Option Text) (T : LiteTables) :
    List (ℕ × LiteCase) :=
  T.tickets.select fun _ t =>
    t.tenantId = actor.tenantId &&
    (actor.seesAll || t.teamId = actor.teamId || t.assigneeId = some actor.id) &&
    (q.all fun value => [some t.ticketNo, some t.title, some t.description,
      t.customerId.bind T.customerName, t.trackingNumber].any
        (·.any (ilike · ('%' :: value ++ ['%'])))) &&
    statusIn.all (t.status ∈ ·) &&
    given [] f.priority (some t.priority) && given 0 f.assigneeId t.assigneeId &&
    given 0 f.teamId t.teamId &&
    (f.overdue ≠ some true || t.resolutionDueAt.any (·.micros < now.micros) &&
      t.status ≠ .closed && t.status ≠ .canceled)

def relations (t : LiteCase) : List (String × Option ℕ) :=
  [("customer", t.customerId), ("market", t.marketId), ("team", t.teamId),
    ("channel_account", t.channelAccountId), ("assignee", t.assigneeId), ("creator", t.createdBy)]

/-- `_ticket_relation`: the tenant of the related row, if there is one. -/
def ticketRelation (T : LiteTables) (kind : String) (id : Option ℕ) :
    Except HTTPException (Option (Option ℕ)) :=
  match id with
  | none => .ok none
  | some id =>
    match T.owner kind id with
    | none => .error ⟨409, "Ticket " ++ kind ++ " relationship is missing"⟩
    | some tenant => .ok (some tenant)

def ensureTicketTenantAuthority (shadow : Bool) (T : LiteTables) (actorTenant : Option ℕ)
    (t : LiteCase) : Except HTTPException Unit := do
  let related ← (relations t).mapM fun r => return (r.1, ← ticketRelation T r.1 r.2)
  match t.tenantId with
  | none =>
    if actorTenant.isNone && related.all (·.2.join.isNone) && shadow then pure ()
    else throw ⟨409, "Ticket has no authoritative Tenant"⟩
  | some tenant =>
    if actorTenant ≠ some tenant then
      throw ⟨404, "Ticket is not visible for the authenticated Tenant"⟩
    if !T.activeTenant tenant then throw ⟨409, "Tenant authority is missing or inactive"⟩
    related.forM fun r =>
      if r.2.any (· ≠ some tenant) then
        throw ⟨409, "Ticket " ++ r.1 ++ " Tenant ownership conflicts"⟩
      else pure ()

def caseBehind (decoded : Option (Option UtcTime × ℤ)) (x : ℕ × LiteCase) : Bool :=
  match decoded with
  | none => true
  | some (none, id) => x.1 < id
  | some (some updatedAt, id) => x.2.updatedAt.micros < updatedAt.micros ||
      (x.2.updatedAt.micros = updatedAt.micros && x.1 < id)

/-- `updated_at DESC, id DESC`. -/
def caseKey (x : ℕ × LiteCase) : ℤ ×ₗ ℤ := toLex (-x.2.updatedAt.micros, -(x.1 : ℤ))

def caseCursor (x : ℕ × LiteCase) : Text := encodeCursor (some x.2.updatedAt) x.1

def safeLimit (limit : Option ℤ) : ℕ :=
  (max 1 (min ((limit.filter (· ≠ 0)).getD 50) 100)).toNat

/-- the page, and `next_cursor`; `shadow` is the mode of the tenant authority. -/
def listLiteCasesPage (ilike : Text → Text → Bool) (shadow : Bool) (actor : Actor)
    (f : LiteFilters) (now : UtcTime) (T : LiteTables) (cursor : Option Text) :
    Except HTTPException (List (ℕ × LiteCase) × Option Text) := do
  let statusIn ← liteStatusFilter f.status
  let q ← normalizeQ f.q
  let decoded ← decodeCursor cursor
  let rows := firstRows caseKey (safeLimit f.limit)
    ((matchingCases ilike actor f now statusIn q T).filter (caseBehind decoded))
  rows.forM fun x => ensureTicketTenantAuthority shadow T actor.tenantId x.2
  pure (cut caseCursor (safeLimit f.limit) rows)

/-! ## operator tasks -/

structure OperatorTask where
  tenantId : Option ℕ := none
  status : Text := []
  sourceType : Text := []
  taskType : Text := []
  priority : ℤ

structure TaskFilters where
  tenantId : Option ℕ := none
  status : Option Text := none
  sourceType : Option Text := none
  taskType : Option Text := none
  limit : ℤ := 50

def matchingTasks (f : TaskFilters) (tasks : Table OperatorTask) : List (ℕ × OperatorTask) :=
  tasks.select fun _ t =>
    t.tenantId = f.tenantId && given [] f.status (some t.status) &&
    given [] f.sourceType (some t.sourceType) && given [] f.taskType (some t.taskType)

def taskBehind (decoded : Option (ℤ × ℤ)) (x : ℕ × OperatorTask) : Bool :=
  decoded.all fun c => c.1 < x.2.priority || (x.2.priority = c.1 && (x.1 : ℤ) < c.2)

/-- `priority ASC, id DESC`. -/
def taskKey (x : ℕ × OperatorTask) : ℤ ×ₗ ℤ := toLex (x.2.priority, -(x.1 : ℤ))

def taskCursor (x : ℕ × OperatorTask) : Text := encodeOperatorCursor x.2.priority x.1

def taskLimit (f : TaskFilters) : ℕ := (max 1 (min f.limit 100)).toNat

def listOperatorTasks (shadow : Bool) (f : TaskFilters) (tasks : Table OperatorTask)
    (cursor : Option Text) : Except OperatorQueueError (List (ℕ × OperatorTask) × Option Text) := do
  if f.tenantId.isNone && !shadow then
    throw ⟨403, "operator_task_shadow_scope_forbidden", "legacy-shadow operator queue is disabled"⟩
  let decoded ← decodeOperatorCursor cursor
  pure (cut taskCursor (taskLimit f)
    (firstRows taskKey (taskLimit f) ((matchingTasks f tasks).filter (taskBehind decoded))))

/-! ## the cursors are read back -/

lemma decodeJson_encodeJson (v : Json) : decodeJson (encodeJson v) = some v := by
  unfold decodeJson encodeJson
  rw [ofUrlBase64_urlBase64, Option.bind_eq_bind, Option.bind_some, ofUtf8_utf8]
  exact Json.parse_text v

lemma encodeJson_ne (v : Json) : (some (encodeJson v)).filter (· ≠ []) = some (encodeJson v) := by
  refine Option.filter_some_pos (decide_eq_true fun h => ?_)
  have hread := decodeJson_encodeJson v
  rw [h] at hread
  cases hread

lemma fromIsoformat_isoformat (t : UtcTime) : fromIsoformat (isoformat t) = some t := by
  have htext : t.text.dropLast ++ ['Z'] = t.text := by
    unfold UtcTime.text
    simp [List.dropLast_cons_of_ne_nil]
  unfold fromIsoformat isoformat
  rw [List.length_append, show "+00:00".toList.length = 6 from rfl, Nat.add_sub_cancel,
    List.drop_left, if_pos rfl, List.take_left, htext]
  exact UtcTime.ofText_text t

lemma decodeCursor_encodeCursor (updatedAt : Option UtcTime) (id : ℤ) :
    decodeCursor (some (encodeCursor updatedAt id)) = .ok (some (updatedAt, id)) := by
  have hread : updatedOf (some ((updatedAt.map (.str <| isoformat ·)).getD .null)) =
      some updatedAt := by
    cases updatedAt with
    | none => rfl
    | some t =>
      have htext := fromIsoformat_isoformat t
      cases hiso : isoformat t with
      | nil =>
        rw [hiso] at htext
        cases htext
      | cons c cs =>
        rw [hiso] at htext
        show (fromIsoformat (isoformat t)).map some = _
        rw [hiso, htext]
        rfl
  unfold decodeCursor encodeCursor
  rw [encodeJson_ne]
  dsimp only
  rw [decodeJson_encodeJson]
  dsimp only
  rw [show Json.field "updated_at" (.obj [("updated_at".toList, _), ("id".toList, .num id)]) =
    some _ from rfl, hread]
  rfl

lemma decodeOperatorCursor_encode (priority id : ℤ) :
    decodeOperatorCursor (some (encodeOperatorCursor priority id)) = .ok (some (priority, id)) := by
  unfold decodeOperatorCursor encodeOperatorCursor
  rw [encodeJson_ne]
  dsimp only
  rw [decodeJson_encodeJson]
  rfl

/-! ## both lists are complete -/

section Cases
variable {ilike : Text → Text → Bool} {shadow : Bool} {actor : Actor} {f : LiteFilters}
  {now : UtcTime} {statusIn : Option (List TicketStatus)} {q : Option Text} {T : LiteTables}
  {after : Option (ℕ × LiteCase)}

lemma caseBehind_iff {x : ℕ × LiteCase} :
    caseBehind (after.map fun y => (some y.2.updatedAt, (y.1 : ℤ))) x =
      decide (Beyond (after.map caseKey) (caseKey x)) := by
  rw [Bool.eq_iff_iff, decide_eq_true_iff]
  cases after with
  | none =>
    exact iff_of_true rfl (beyond_none _)
  | some y =>
    rw [Option.map_some, Option.map_some, beyond_some]
    simp only [caseBehind, caseKey, Prod.Lex.toLex_lt_toLex, neg_lt_neg_iff,
      neg_inj, Bool.or_eq_true, Bool.and_eq_true, decide_eq_true_eq, Nat.cast_lt]
    rw [eq_comm]

lemma matchingCases_distinct : (matchingCases ilike actor f now statusIn q T).Pairwise
    fun x y => caseKey x ≠ caseKey y := by
  refine (T.tickets.pairwise_select _).imp ?_
  intro x y hlt hkey
  have hid : -(x.1 : ℤ) = -(y.1 : ℤ) := congrArg (fun k => (ofLex k).2) hkey
  omega

lemma listLiteCasesPage_eq (hstatus : liteStatusFilter f.status = .ok statusIn)
    (hq : normalizeQ f.q = .ok q) (after : Option (ℕ × LiteCase)) :
    let rows := firstRows caseKey (safeLimit f.limit)
      ((matchingCases ilike actor f now statusIn q T).filter
        fun x => Beyond (after.map caseKey) (caseKey x))
    listLiteCasesPage ilike shadow actor f now T (after.map caseCursor) =
      (rows.forM fun x => ensureTicketTenantAuthority shadow T actor.tenantId x.2) >>=
        fun _ => pure (cut caseCursor (safeLimit f.limit) rows) := by
  have hcursor : decodeCursor (after.map caseCursor) =
      .ok (after.map fun y => (some y.2.updatedAt, (y.1 : ℤ))) := by
    cases after with
    | none => rfl
    | some y => exact decodeCursor_encodeCursor _ _
  unfold listLiteCasesPage
  rw [hstatus, hq, hcursor]
  simp only [← caseBehind_iff]
  rfl

lemma lite_complete (hstatus : liteStatusFilter f.status = .ok statusIn)
    (hq : normalizeQ f.q = .ok q) :
    Complete (listLiteCasesPage ilike shadow actor f now) caseKey
      (matchingCases ilike actor f now statusIn q)
      fun T x => ensureTicketTenantAuthority shadow T actor.tenantId x.2 = .ok () := by
  have hlimit : 0 < safeLimit f.limit := by
    unfold safeLimit
    omega
  have hpages : Pages (listLiteCasesPage ilike shadow actor f now) caseKey caseCursor
      (matchingCases ilike actor f now statusIn q) := by
    intro T after page next hlist
    rw [listLiteCasesPage_eq hstatus hq] at hlist
    obtain ⟨_, -, hcut⟩ := bind_eq_ok.1 hlist
    cases hcut
    exact isPage_cut hlimit matchingCases_distinct
  refine hpages.complete (fun T => matchingCases_distinct) ?_ ?_
  · intro T hall after
    rw [listLiteCasesPage_eq hstatus hq]
    refine bind_isOk.2 ⟨(), forM_eq_ok.2 ?_, _, rfl⟩
    intro x hx
    exact hall x (List.mem_of_mem_filter (mem_of_firstRows hx))
  · intro T c page hlist x hx
    obtain ⟨_, -, hlist⟩ := bind_eq_ok.1 hlist
    obtain ⟨_, -, hlist⟩ := bind_eq_ok.1 hlist
    obtain ⟨_, -, hlist⟩ := bind_eq_ok.1 hlist
    obtain ⟨_, hallowed, hcut⟩ := bind_eq_ok.1 hlist
    cases hcut
    exact forM_eq_ok.1 hallowed x (List.mem_of_mem_take hx)

end Cases

section Tasks
variable {shadow : Bool} {f : TaskFilters} {T : Table OperatorTask}

lemma taskBehind_iff {after : Option (ℕ × OperatorTask)} {x : ℕ × OperatorTask} :
    taskBehind (after.map fun y => (y.2.priority, (y.1 : ℤ))) x =
      decide (Beyond (after.map taskKey) (taskKey x)) := by
  rw [Bool.eq_iff_iff, decide_eq_true_iff]
  cases after with
  | none =>
    exact iff_of_true rfl (beyond_none _)
  | some y =>
    rw [Option.map_some, Option.map_some, beyond_some]
    simp only [taskBehind, taskKey, Option.all_some, Prod.Lex.toLex_lt_toLex,
      neg_lt_neg_iff, Bool.or_eq_true, Bool.and_eq_true, decide_eq_true_eq, Nat.cast_lt]
    rw [eq_comm]

lemma tasks_complete (hopen : f.tenantId.isSome = true ∨ shadow = true) :
    Complete (listOperatorTasks shadow f) taskKey (matchingTasks f) fun _ _ => True := by
  have hlimit : 0 < taskLimit f := by
    unfold taskLimit
    omega
  have hdistinct : ∀ T, (matchingTasks f T).Pairwise fun x y => taskKey x ≠ taskKey y := by
    intro T
    refine (T.pairwise_select _).imp ?_
    intro x y hlt hkey
    have hid : -(x.1 : ℤ) = -(y.1 : ℤ) := congrArg (fun k => (ofLex k).2) hkey
    omega
  have hlist : ∀ T (after : Option (ℕ × OperatorTask)),
      listOperatorTasks shadow f T (after.map taskCursor) = .ok (cut taskCursor (taskLimit f)
        (firstRows taskKey (taskLimit f) ((matchingTasks f T).filter
          fun x => Beyond (after.map taskKey) (taskKey x)))) := by
    intro T after
    have hcursor : decodeOperatorCursor (after.map taskCursor) =
        .ok (after.map fun y => (y.2.priority, (y.1 : ℤ))) := by
      cases after with
      | none => rfl
      | some y => exact decodeOperatorCursor_encode _ _
    unfold listOperatorTasks
    rw [if_neg (by
      rcases hopen with hgiven | hshadow
      · simp [Option.isSome_iff_ne_none.1 hgiven]
      · simp [hshadow]), hcursor]
    simp only [← taskBehind_iff]
    rfl
  have hpages : Pages (listOperatorTasks shadow f) taskKey taskCursor (matchingTasks f) := by
    intro T after page next h
    rw [hlist] at h
    cases h
    exact isPage_cut hlimit (hdistinct T)
  exact hpages.complete hdistinct (fun T _ after => ⟨_, hlist T after⟩)
    fun T after page _ x _ => trivial

end Tasks

theorem lists_page (ilike : Text → Text → Bool) (shadow : Bool) (actor : Actor) (now : UtcTime) :
    (∀ updatedAt id, decodeCursor (some (encodeCursor updatedAt id)) = .ok (some (updatedAt, id))) ∧
    (∀ priority id, decodeOperatorCursor (some (encodeOperatorCursor priority id)) =
      .ok (some (priority, id))) ∧
    (∀ (f : LiteFilters) statusIn q, liteStatusFilter f.status = .ok statusIn →
      normalizeQ f.q = .ok q →
      Complete (listLiteCasesPage ilike shadow actor f now) caseKey
        (matchingCases ilike actor f now statusIn q)
        fun T x => ensureTicketTenantAuthority shadow T actor.tenantId x.2 = .ok ()) ∧
    ∀ f : TaskFilters, f.tenantId.isSome = true ∨ shadow = true →
      Complete (listOperatorTasks shadow f) taskKey (matchingTasks f) fun _ _ => True :=
  ⟨decodeCursor_encodeCursor, decodeOperatorCursor_encode, fun _ _ _ => lite_complete,
    fun _ => tasks_complete⟩

/-! ## a case with a customer of another tenant -/

def someDay : UtcTime := ⟨2026, 7, 13, 9, 0, 0, 0, by decide, by decide⟩

def agent : Actor := ⟨1, some 1, none, true⟩

def oneCase (owner : ℕ) : LiteTables where
  tickets := Table.empty.insert
    { tenantId := some 1, customerId := some 5, title := "Lost".toList, updatedAt := someDay }
  customerName _ := none
  owner _ _ := some (some owner)
  activeTenant _ := true

/-- the case matches and no walk over the unchanged tables ends. -/
theorem foreign_case_stops :
    (matchingCases (fun _ _ => false) agent {} someDay none none (oneCase 2)).length = 1 ∧
    ¬ ∃ pages, Follow (listLiteCasesPage (fun _ _ => false) false agent {} someDay) none pages ∧
      ∀ p ∈ pages, p.1 = oneCase 2 := by
  refine ⟨by decide, fun hends => ?_⟩
  have hall := ((lite_complete rfl rfl).ends (oneCase 2)).1 hends
  revert hall
  decide

theorem lists_page_own_case :
    ∃ pages, Follow (listLiteCasesPage (fun _ _ => false) false agent {} someDay) none pages ∧
      ∀ p ∈ pages, p.1 = oneCase 1 :=
  (((lists_page (fun _ _ => false) false agent someDay).2.2.1 {} none none rfl rfl).ends _).2
    (by decide)

end NexusHelpdesk.Lists
