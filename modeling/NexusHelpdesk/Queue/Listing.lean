import NexusHelpdesk.Lib.Keyset
import NexusHelpdesk.Queue.Cursor
import NexusHelpdesk.Queue.Tables

/-!
# Listing the operator queue (`operator_work_queue_core.list_unified_operator_queue`)

Three limited queries, one for each source, are merged into a page; the next page continues behind
the last item of this one.

* `entryOf`: the item of a row, with the scope and the conditions of its query;
* `fetch`, `listQueue`: the query of a source, and a page;
* `qualifying`: what the listing promises to contain;
* `position`: the place of an item in the order of the listing;
* `entryOf_selected`: **the conditions of a query keep exactly the items that match the filters**.
-/

namespace NexusHelpdesk.Queue

open Lib

/-! ## requests -/

structure QueueUser where
  id : UserKey
  teamId : Option UserKey
  globalCases : Bool

/-- what `authorize_operator_scope` grants. -/
structure QueueScope where
  tenant : Text
  country : Text
  channel : Text
  queue : Text
  grantVersion : HexText 16

structure QueueRequest where
  user : QueueUser
  scope : QueueScope
  filters : QueueFilters
  limit : ℕ
  limit_range : 1 ≤ limit ∧ limit ≤ 100

/-- the key of the cursors, and `_filter_hash` of the filters with the scope. -/
structure QueueEnv where
  key : CursorKey
  filterHash : QueueFilters → QueueScope → HexText 24

/-! ## items of rows -/

structure Entry where
  item : Item
  /-- the scope, the visibility and the time of the listing. -/
  inScope : Bool
  /-- the conditions of the filters. -/
  selected : Bool

def visible (user : QueueUser) (ticket : TicketRow) : Bool :=
  user.globalCases || ticket.assigneeId = some user.id ||
    user.teamId.any (ticket.teamId = some ·)

def tenantConflict (tenant : Text) (J : JoinedRows) : Bool :=
  J.conversations.any (·.2.tenantKey ≠ tenant) || J.dispatches.any (·.2.tenantKey ≠ tenant)

def handoffQueue (queue : Text) (plan : Option Text) : Bool :=
  if queue = "legacy".toList then plan.all (· = "legacy".toList) else plan = some queue

/-- `created_at <= as_of`, or the same for `updated_at`. -/
def notAfter (asOf t : UtcTime) : Bool := t.micros ≤ asOf.micros

def activeHandoff : List Text := ["requested", "accepted"].map String.toList

def handoffStatuses : List Text :=
  activeHandoff ++ ["closed", "cancelled", "expired", "resumed_ai"].map String.toList

def activeTicket : List Text :=
  ["new", "pending_assignment", "in_progress", "waiting_customer", "waiting_internal",
    "escalated"].map String.toList

def ticketStatuses : List Text :=
  activeTicket ++ ["resolved", "closed", "canceled"].map String.toList

def activeDispatch : List DispatchStatus := [.pending, .processing, .retryable]

def DispatchStatus.text : DispatchStatus → Text
  | .pending => "pending".toList
  | .processing => "processing".toList
  | .dispatched => "dispatched".toList
  | .retryable => "retryable".toList
  | .failed => "failed".toList
  | .cancelled => "cancelled".toList
  | .deadLetter => "dead_letter".toList

def knownStatus (statuses : List Text) (status : Text) : Text :=
  if status ∈ statuses then status else "unknown".toList

section Entries
variable (q : QueueRequest) (asOf : UtcTime) (i : ℕ) (J : JoinedRows)

def handoffEntry : Option Entry :=
  match J.handoff, J.conversation, J.ticket with
  | some h, some c, some (ticketId, t) =>
    if c.ticketId = some ticketId then
      let active : Bool := h.status ∈ activeHandoff
      some
        { item :=
            { sourceType := .handoff
              sourceId := i
              ticketId := some ticketId
              conversationId := some h.conversationId
              countryCode := q.scope.country
              channelKey := q.scope.channel
              state := queueState active
              sourceStatus := knownStatus handoffStatuses h.status
              reopened := t.reopenCount ≠ 0
              priority := priority (some t)
              owner := owner (some t) h.assignedAgentId false
              sla := sla (some t) (!active) asOf h.updatedAt
              retry := retry none
              createdAt := h.createdAt
              updatedAt := h.updatedAt }
          inScope := c.tenantKey = q.scope.tenant && c.channelKey = q.scope.channel &&
            t.countryCode = some q.scope.country && handoffQueue q.scope.queue J.plan &&
            notAfter asOf h.createdAt && notAfter asOf h.updatedAt && notAfter asOf c.updatedAt &&
            notAfter asOf t.updatedAt && visible q.user t && !tenantConflict q.scope.tenant J
          selected := stateSql active q.filters.state &&
            prioritySql (some t) false q.filters.priority &&
            handoffOwnerSql q.user.id h.assignedAgentId t q.filters.owner &&
            slaSql active (some t) asOf h.updatedAt q.filters.sla }
    else none
  | _, _, _ => none

def exactConversation : Option ℕ :=
  ((J.conversations.filter fun c => c.2.tenantKey = q.scope.tenant &&
    c.2.channelKey = q.scope.channel && notAfter asOf c.2.updatedAt).map Prod.fst).max?

def exactDispatch : Bool :=
  J.dispatches.any fun d => d.2.tenantKey = q.scope.tenant &&
    d.2.countryCode = q.scope.country && d.2.channelKey = q.scope.channel &&
    notAfter asOf d.2.updatedAt

def ticketEntry : Option Entry :=
  match J.ticket with
  | some (ticketId, t) =>
    let active : Bool := t.status ∈ activeTicket
    some
      { item :=
          { sourceType := .ticket
            sourceId := i
            ticketId := some ticketId
            conversationId := exactConversation q asOf J
            countryCode := q.scope.country
            channelKey := q.scope.channel
            state := queueState active
            sourceStatus := knownStatus ticketStatuses t.status
            reopened := t.reopenCount ≠ 0
            priority := priority (some t)
            owner := owner (some t) none false
            sla := sla (some t) (!active) asOf t.updatedAt
            retry := retry none
            createdAt := t.createdAt
            updatedAt := t.updatedAt }
        inScope := ((exactConversation q asOf J).isSome || exactDispatch q asOf J) &&
          (t.countryCode = some q.scope.country ||
            t.countryCode.isNone && exactDispatch q asOf J) &&
          notAfter asOf t.createdAt && notAfter asOf t.updatedAt && visible q.user t &&
          !tenantConflict q.scope.tenant J
        selected := stateSql active q.filters.state &&
          prioritySql (some t) false q.filters.priority &&
          ticketOwnerSql q.user.id t q.filters.owner &&
          slaSql active (some t) asOf t.updatedAt q.filters.sla }
  | none => none

def dispatchEntry : Option Entry :=
  match J.dispatch with
  | some d =>
    let ticket := J.ticket.map Prod.snd
    let active : Bool := d.status ∈ activeDispatch
    some
      { item :=
          { sourceType := .dispatch
            sourceId := i
            ticketId := d.ticketId
            conversationId := none
            countryCode := q.scope.country
            channelKey := q.scope.channel
            state := queueState active
            sourceStatus := d.status.text
            reopened := ticket.any (·.reopenCount ≠ 0)
            priority := priority ticket
            owner := owner ticket none (d.status = .processing)
            sla := sla ticket (!active) asOf d.updatedAt
            retry := retry (some d)
            createdAt := d.createdAt
            updatedAt := d.updatedAt }
        inScope := d.tenantKey = q.scope.tenant && d.countryCode = q.scope.country &&
          d.channelKey = q.scope.channel && notAfter asOf d.createdAt && notAfter asOf d.updatedAt &&
          ticket.all (fun t => notAfter asOf t.updatedAt && t.countryCode.all (· = q.scope.country)) &&
          ticket.all (visible q.user ·) &&
          !(ticket.isSome && tenantConflict q.scope.tenant J)
        selected := stateSql active q.filters.state &&
          prioritySql ticket true q.filters.priority &&
          dispatchOwnerSql q.user.id d.status ticket q.filters.owner &&
          slaSql active ticket asOf d.updatedAt q.filters.sla && retrySql d.status q.filters.retry }
  | none => none

def entryOf : SourceType → Option Entry
  | .handoff => handoffEntry q asOf i J
  | .ticket => ticketEntry q asOf i J
  | .dispatch => dispatchEntry q asOf i J

def inQueue (source : SourceType) : Bool :=
  match source with
  | .handoff => true
  | .ticket | .dispatch => q.scope.queue = "legacy".toList

def enabled (source : SourceType) : Bool :=
  inQueue q source && q.filters.sourceType.all (· = source) &&
    match source with
    | .handoff | .ticket => q.filters.retry.all (· = .notApplicable)
    | .dispatch => q.filters.retry ≠ some .notApplicable

end Entries

/-! ## pages -/

def Item.key (x : Item) : ℤ ×ₗ ℕ ×ₗ ℕ :=
  toLex (x.createdAt.micros, toLex (x.sourceType.rank, x.sourceId))

/-- `x` is listed no later than `y`. -/
def precedes (sort : SortOrder) (x y : Item) : Prop :=
  match sort with
  | .oldest => x.key ≤ y.key
  | .newest => y.key ≤ x.key

instance (sort : SortOrder) (x y : Item) : Decidable (precedes sort x y) :=
  match sort with
  | .oldest => inferInstanceAs (Decidable (x.key ≤ y.key))
  | .newest => inferInstanceAs (Decidable (y.key ≤ x.key))

/-- `_apply_cursor_query`. -/
def cursorSql (source : SourceType) (sort : SortOrder) (after : Option DecodedCursor) (x : Item) :
    Bool :=
  match after with
  | none => true
  | some c =>
    match sort with
    | .oldest =>
      c.createdAt.micros < x.createdAt.micros || c.createdAt.micros = x.createdAt.micros &&
        (if source.rank = c.source.rank then c.id < x.sourceId else c.source.rank < source.rank)
    | .newest =>
      x.createdAt.micros < c.createdAt.micros || c.createdAt.micros = x.createdAt.micros &&
        (if source.rank = c.source.rank then x.sourceId < c.id else source.rank < c.source.rank)

def cursorAllows (sort : SortOrder) (after : Option DecodedCursor) (x : Item) : Bool :=
  match after with
  | none => true
  | some c =>
    let key : ℤ ×ₗ ℕ ×ₗ ℕ := toLex (c.createdAt.micros, toLex (c.source.rank, c.id))
    match sort with
    | .oldest => key < x.key
    | .newest => x.key < key

/-- `_ordered`: by the time of creation and the key of the row. -/
def orderedSql (sort : SortOrder) (x y : Entry) : Prop :=
  match sort with
  | .oldest => (toLex (x.item.createdAt.micros, x.item.sourceId) : ℤ ×ₗ ℕ) ≤
      toLex (y.item.createdAt.micros, y.item.sourceId)
  | .newest => (toLex (y.item.createdAt.micros, y.item.sourceId) : ℤ ×ₗ ℕ) ≤
      toLex (x.item.createdAt.micros, x.item.sourceId)

instance (sort : SortOrder) (x y : Entry) : Decidable (orderedSql sort x y) :=
  match sort with
  | .oldest => inferInstanceAs (Decidable ((_ : ℤ ×ₗ ℕ) ≤ _))
  | .newest => inferInstanceAs (Decidable ((_ : ℤ ×ₗ ℕ) ≤ _))

section Pages
variable (env : QueueEnv) (q : QueueRequest) (T : QueueTables)

def entries (asOf : UtcTime) (source : SourceType) : List Entry :=
  (T.keys source).filterMap fun i => entryOf q asOf i (joined T asOf source i) source

/-- the items of one source, `limit + 1` at most. -/
def fetch (asOf : UtcTime) (after : Option DecodedCursor) (source : SourceType) : List Item :=
  if enabled q source then
    let rows := (entries q T asOf source).filter fun e =>
      e.inScope && e.selected && cursorSql source q.filters.sort after e.item
    (((rows.insertionSort (orderedSql q.filters.sort)).take (q.limit + 1)).map (·.item)).filter
      fun x => matchesFilters q.user.id q.filters x && cursorAllows q.filters.sort after x
  else []

structure QueuePage where
  items : List Item
  nextCursor : Option Text

def cursorOf (now : UtcTime) (cursor : Option Text) :
    Except String (Option DecodedCursor × UtcTime) :=
  match cursor.filter (· ≠ []) with
  | none => .ok (none, now)
  | some raw =>
    match decodeCursor env.key raw with
    | none => .error "invalid_operator_queue_cursor"
    | some c =>
      if c.sort ≠ some q.filters.sort.text ∨
          c.filterHash ≠ some (env.filterHash q.filters q.scope).chars ∨
          c.actorId ≠ some (q.user.id.1 : ℤ) ∨
          c.grantVersion ≠ some q.scope.grantVersion.chars then
        .error "operator_queue_cursor_context_mismatch"
      else .ok (some c, c.asOf)

def payloadOf (asOf : UtcTime) (last : Item) : CursorPayload where
  sort := q.filters.sort
  asOf := asOf
  createdAt := last.createdAt
  source := last.sourceType
  id := last.sourceId
  filterHash := env.filterHash q.filters q.scope
  actorId := q.user.id
  grantVersion := q.scope.grantVersion

/-- `list_unified_operator_queue`; `now` is the time of the call. -/
def listQueue (now : UtcTime) (cursor : Option Text) : Except String QueuePage := do
  let (after, asOf) ← cursorOf env q now cursor
  let items := fetch q T asOf after .handoff ++ fetch q T asOf after .ticket ++
    fetch q T asOf after .dispatch
  let sorted := items.insertionSort (precedes q.filters.sort)
  let page := sorted.take q.limit
  .ok
    { items := page
      nextCursor :=
        if q.limit < sorted.length then
          page.getLast?.map fun last => encodeCursor env.key (payloadOf env q asOf last)
        else none }

def qualified (asOf : UtcTime) (source : SourceType) (i : ℕ) (J : JoinedRows) : Option Item :=
  (entryOf q asOf i J source).bind fun e =>
    if inQueue q source && e.inScope && matchesFilters q.user.id q.filters e.item then some e.item
    else none

def qualifying (asOf : UtcTime) : List Item :=
  [SourceType.handoff, .ticket, .dispatch].flatMap fun source =>
    (T.keys source).filterMap fun i => qualified q asOf source i (joined T asOf source i)

end Pages

/-! ## the order of the listing -/

def place (sort : SortOrder) (time : ℤ) (rank id : ℕ) : ℤ ×ₗ ℤ ×ₗ ℤ :=
  match sort with
  | .oldest => toLex (time, toLex ((rank : ℤ), (id : ℤ)))
  | .newest => toLex (-time, toLex (-(rank : ℤ), -(id : ℤ)))

def position (sort : SortOrder) (x : Item) : ℤ ×ₗ ℤ ×ₗ ℤ :=
  place sort x.createdAt.micros x.sourceType.rank x.sourceId

def DecodedCursor.place (sort : SortOrder) (c : DecodedCursor) : ℤ ×ₗ ℤ ×ₗ ℤ :=
  Queue.place sort c.createdAt.micros c.source.rank c.id

variable {sort : SortOrder} {x : Item} {after : Option DecodedCursor}

lemma place_lt {t t' : ℤ} {r r' i i' : ℕ} :
    place sort t r i < place sort t' r' i' ↔
      match sort with
      | .oldest => t < t' ∨ t = t' ∧ (r < r' ∨ r = r' ∧ i < i')
      | .newest => t' < t ∨ t = t' ∧ (r' < r ∨ r = r' ∧ i' < i) := by
  cases sort with
  | oldest =>
    simp only [place, Prod.Lex.toLex_lt_toLex]
    omega
  | newest =>
    simp only [place, Prod.Lex.toLex_lt_toLex]
    omega

lemma place_inj {t t' : ℤ} {r r' i i' : ℕ}
    (h : place sort t r i = place sort t' r' i') : t = t' ∧ r = r' ∧ i = i' := by
  have hnot : ¬place sort t r i < place sort t' r' i' := h ▸ lt_irrefl _
  have hnot' : ¬place sort t' r' i' < place sort t r i := h ▸ lt_irrefl _
  rw [place_lt] at hnot hnot'
  cases sort with
  | oldest =>
    dsimp only at hnot hnot'
    omega
  | newest =>
    dsimp only at hnot hnot'
    omega

lemma precedes_iff {y : Item} :
    precedes sort x y ↔ position sort x ≤ position sort y := by
  rw [← not_lt, position, position, place_lt]
  cases sort with
  | oldest | newest =>
    simp only [precedes, Item.key, Prod.Lex.toLex_le_toLex]
    omega

lemma rank_inj {s s' : SourceType} (h : s.rank = s'.rank) : s = s' := by
  cases s <;> cases s' <;> first | rfl | cases h

lemma orderedSql_iff {x y : Entry} (h : x.item.sourceType = y.item.sourceType) :
    orderedSql sort x y ↔ position sort x.item ≤ position sort y.item := by
  rw [← not_lt, position, position, place_lt, h]
  cases sort with
  | oldest | newest =>
    simp only [orderedSql, Prod.Lex.toLex_le_toLex, lt_irrefl, false_or, true_and]
    omega

lemma cursorSql_iff :
    cursorSql x.sourceType sort after x = true ↔
      Beyond (after.map (·.place sort)) (position sort x) := by
  cases after with
  | none =>
    exact iff_of_true rfl (beyond_none _)
  | some c =>
    rw [Option.map_some, beyond_some, DecodedCursor.place, position, place_lt]
    cases sort with
    | oldest | newest =>
      simp only [cursorSql, Bool.or_eq_true, Bool.and_eq_true, decide_eq_true_eq]
      split
      · rename_i hrank
        simp only [decide_eq_true_eq]
        omega
      · rename_i hrank
        simp only [decide_eq_true_eq]
        omega

lemma cursorAllows_iff :
    cursorAllows sort after x = true ↔
      Beyond (after.map (·.place sort)) (position sort x) := by
  cases after with
  | none =>
    exact iff_of_true rfl (beyond_none _)
  | some c =>
    rw [Option.map_some, beyond_some, DecodedCursor.place, position, place_lt]
    cases sort with
    | oldest =>
      simp only [cursorAllows, Item.key, decide_eq_true_eq, Prod.Lex.toLex_lt_toLex]
    | newest =>
      simp only [cursorAllows, Item.key, decide_eq_true_eq, Prod.Lex.toLex_lt_toLex]
      omega

section EntryLemmas
variable {q : QueueRequest} {T : QueueTables} {asOf : UtcTime} {i : ℕ} {J : JoinedRows}
  {source : SourceType} {e : Entry}

lemma entryOf_source (h : entryOf q asOf i J source = some e) :
    e.item.sourceType = source ∧ e.item.sourceId = i := by
  cases source with
  | handoff =>
    change handoffEntry q asOf i J = some e at h
    unfold handoffEntry at h
    split at h
    · split at h
      · cases h
        exact ⟨rfl, rfl⟩
      · cases h
    · cases h
  | ticket =>
    change ticketEntry q asOf i J = some e at h
    unfold ticketEntry at h
    split at h
    · cases h
      exact ⟨rfl, rfl⟩
    · cases h
  | dispatch =>
    change dispatchEntry q asOf i J = some e at h
    unfold dispatchEntry at h
    split at h
    · cases h
      exact ⟨rfl, rfl⟩
    · cases h

lemma entryOf_created (h : entryOf q asOf i (joined T asOf source i) source = some e) :
    created T source i = some e.item.createdAt := by
  cases source with
  | handoff =>
    change handoffEntry q asOf i (joined T asOf .handoff i) = some e at h
    unfold handoffEntry at h
    split at h
    · rename_i handoff _ _ _ hrow _ _
      have hget : T.handoffs.get? i = some handoff := hrow
      split at h
      · cases h
        show (T.handoffs.get? i).map _ = _
        rw [hget]
        rfl
      · cases h
    · cases h
  | ticket =>
    change ticketEntry q asOf i (joined T asOf .ticket i) = some e at h
    unfold ticketEntry at h
    split at h
    · rename_i ticketId t hrow
      have hget : (T.tickets.get? i).map (fun t => (i, t)) = some (ticketId, t) := hrow
      obtain ⟨t', ht', heq⟩ := Option.map_eq_some_iff.1 hget
      cases heq
      cases h
      show (T.tickets.get? i).map _ = _
      rw [ht']
      rfl
    · cases h
  | dispatch =>
    change dispatchEntry q asOf i (joined T asOf .dispatch i) = some e at h
    unfold dispatchEntry at h
    split at h
    · rename_i d hrow
      have hget : T.dispatches.get? i = some d := hrow
      cases h
      show (T.dispatches.get? i).map _ = _
      rw [hget]
      rfl
    · cases h

lemma agrees_retry {requested : Option RetryState} {d : DispatchRow}
    (h : agrees requested (retry (some d)).state = true) : requested ≠ some .notApplicable := by
  rintro rfl
  unfold agrees retry at h
  cases hstatus : d.status <;> simp [hstatus] at h

lemma entryOf_selected (h : entryOf q asOf i J source = some e) :
    (enabled q source = true ∧ e.selected = true) ↔
      (inQueue q source = true ∧ matchesFilters q.user.id q.filters e.item = true) := by
  cases source with
  | handoff =>
    change handoffEntry q asOf i J = some e at h
    unfold handoffEntry at h
    split at h
    · split at h
      · cases h
        simp only [enabled, matchesFilters, stateSql_eq, prioritySql_eq, handoffOwnerSql_eq,
          slaSql_eq, Bool.and_eq_true]
        show _ ↔ _ ∧ ((((_ ∧ agrees q.filters.sourceType .handoff = true) ∧ _) ∧ _) ∧
          agrees q.filters.retry .notApplicable = true) ∧ _
        unfold agrees
        tauto
      · cases h
    · cases h
  | ticket =>
    change ticketEntry q asOf i J = some e at h
    unfold ticketEntry at h
    split at h
    · cases h
      simp only [enabled, matchesFilters, stateSql_eq, prioritySql_eq, ticketOwnerSql_eq,
        slaSql_eq, Bool.and_eq_true]
      show _ ↔ _ ∧ ((((_ ∧ agrees q.filters.sourceType .ticket = true) ∧ _) ∧ _) ∧
        agrees q.filters.retry .notApplicable = true) ∧ _
      unfold agrees
      tauto
    · cases h
  | dispatch =>
    change dispatchEntry q asOf i J = some e at h
    unfold dispatchEntry at h
    split at h
    · rename_i d hrow
      cases h
      have hpriority : prioritySql (J.ticket.map Prod.snd) true q.filters.priority =
          agrees q.filters.priority (priority (J.ticket.map Prod.snd)) := by
        cases J.ticket.map Prod.snd with
        | none => exact prioritySql_none _
        | some t => exact prioritySql_eq t true _
      have hretry : agrees q.filters.retry (retry (some d)).state = true →
          q.filters.retry ≠ some .notApplicable := agrees_retry
      simp only [enabled, matchesFilters, stateSql_eq, hpriority, dispatchOwnerSql_eq,
        slaSql_eq, retrySql_eq, Bool.and_eq_true, decide_eq_true_eq]
      show _ ↔ _ ∧ ((((_ ∧ agrees q.filters.sourceType .dispatch = true) ∧ _) ∧ _) ∧
        agrees q.filters.retry (retry (some d)).state = true) ∧ _
      unfold agrees at hretry ⊢
      tauto
    · cases h

end EntryLemmas

end NexusHelpdesk.Queue
