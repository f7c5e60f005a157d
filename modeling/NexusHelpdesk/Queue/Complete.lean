import NexusHelpdesk.Queue.Listing

/-!
# Following the cursor of the operator queue

* `sourceItems`: a source in full, of which a page reads the first items;
* `merged_isPage`, `listQueue_page`: a page is a keyset page of the items that qualify;
* `cursorOf_encodeCursor`: the next call continues behind the last item, at the same time;
* `Follow`: a page after the other, with changes of the tables in between;
* `listing_complete`: **with the tables unchanged, the pages list exactly the items that qualify, in
  order; with changes in between, none is listed twice, and none whose rows stay as they are is
  missing**.
-/

namespace NexusHelpdesk.Queue

open Lib

/-! ## one source in full -/

instance (sort : SortOrder) : Std.Total (orderedSql sort) where
  total x y := by
    cases sort with
    | oldest => exact le_total _ _
    | newest => exact le_total _ _

instance (sort : SortOrder) : IsTrans Entry (orderedSql sort) where
  trans x y z hxy hyz := by
    cases sort with
    | oldest => exact le_trans hxy hyz
    | newest => exact le_trans hyz hxy

instance (sort : SortOrder) : Std.Total (precedes sort) where
  total x y := by
    rw [precedes_iff, precedes_iff]
    exact le_total _ _

instance (sort : SortOrder) : IsTrans Item (precedes sort) where
  trans x y z hxy hyz := by
    rw [precedes_iff] at hxy hyz ⊢
    exact hxy.trans hyz

section Source
variable (q : QueueRequest) (T : QueueTables) (asOf : UtcTime) (after : Option DecodedCursor)
  (source : SourceType)

def sourceRows : List Entry :=
  ((entries q T asOf source).filter fun e =>
    e.inScope && e.selected && cursorSql source q.filters.sort after e.item).insertionSort
    (orderedSql q.filters.sort)

def sourceItems : List Item :=
  if enabled q source then (sourceRows q T asOf after source).map (·.item) else []

variable {q T asOf after source} {e : Entry} {x : Item}

lemma mem_entries : e ∈ entries q T asOf source ↔ ∃ i ∈ T.keys source,
    entryOf q asOf i (joined T asOf source i) source = some e := List.mem_filterMap

lemma keys_pairwise : (T.keys source).Pairwise (· < ·) := by
  cases source with
  | handoff => exact T.handoffs.keys_ascending
  | ticket => exact T.tickets.keys_ascending
  | dispatch => exact T.dispatches.keys_ascending

lemma mem_sourceRows : e ∈ sourceRows q T asOf after source ↔ e ∈ entries q T asOf source ∧
    e.inScope = true ∧ e.selected = true ∧
      cursorSql source q.filters.sort after e.item = true := by
  unfold sourceRows
  rw [List.mem_insertionSort, List.mem_filter, Bool.and_eq_true, Bool.and_eq_true, and_assoc]

lemma sourceRows_distinct : (sourceRows q T asOf after source).Pairwise
    fun x y => x.item.sourceId ≠ y.item.sourceId := by
  have hentries : (entries q T asOf source).Pairwise
      fun x y => x.item.sourceId ≠ y.item.sourceId := by
    refine keys_pairwise.filterMap _ ?_
    intro i j hij x hx y hy
    rw [(entryOf_source hx).2, (entryOf_source hy).2]
    exact hij.ne
  exact (List.Perm.pairwise_iff (fun h => Ne.symm h) (List.perm_insertionSort _ _)).2
    (hentries.filter _)

lemma sourceItems_ascending : (sourceItems q T asOf after source).Pairwise
    fun x y => position q.filters.sort x < position q.filters.sort y := by
  unfold sourceItems
  split
  swap
  · exact List.Pairwise.nil
  have hsorted : (sourceRows q T asOf after source).Pairwise (orderedSql q.filters.sort) :=
    List.pairwise_insertionSort _ _
  refine List.pairwise_map.2 ((hsorted.and sourceRows_distinct).imp_of_mem ?_)
  rintro x y hx hy ⟨hle, hne⟩
  obtain ⟨i, -, hi⟩ := mem_entries.1 (mem_sourceRows.1 hx).1
  obtain ⟨j, -, hj⟩ := mem_entries.1 (mem_sourceRows.1 hy).1
  have htype : x.item.sourceType = y.item.sourceType :=
    (entryOf_source hi).1.trans (entryOf_source hj).1.symm
  refine lt_of_le_of_ne ((orderedSql_iff htype).1 hle) ?_
  intro heq
  exact hne (place_inj heq).2.2

lemma mem_sourceItems : x ∈ sourceItems q T asOf after source ↔
    (∃ i ∈ T.keys source, qualified q asOf source i (joined T asOf source i) = some x) ∧
      Beyond (after.map (·.place q.filters.sort)) (position q.filters.sort x) := by
  have hqualified : ∀ {i}, qualified q asOf source i (joined T asOf source i) = some x ↔
      ∃ e, entryOf q asOf i (joined T asOf source i) source = some e ∧ e.item = x ∧
        e.inScope = true ∧ enabled q source = true ∧ e.selected = true := by
    intro i
    unfold qualified
    rw [Option.bind_eq_some_iff]
    refine exists_congr fun e => and_congr_right fun he => ?_
    have hselected := entryOf_selected he
    constructor
    · intro h
      split at h
      · rename_i hif
        simp only [Bool.and_eq_true] at hif
        exact ⟨Option.some.inj h, hif.1.2, hselected.2 ⟨hif.1.1, hif.2⟩⟩
      · cases h
    · rintro ⟨rfl, hscope, henabled⟩
      obtain ⟨hqueue, hmatches⟩ := hselected.1 henabled
      rw [if_pos]
      simp only [Bool.and_eq_true]
      exact ⟨⟨hqueue, hscope⟩, hmatches⟩
  unfold sourceItems
  split
  · rename_i henabled
    rw [List.mem_map]
    constructor
    · rintro ⟨e, he, rfl⟩
      obtain ⟨hentry, hscope, hselected, hcursor⟩ := mem_sourceRows.1 he
      obtain ⟨i, hi, hie⟩ := mem_entries.1 hentry
      rw [← (entryOf_source hie).1, cursorSql_iff] at hcursor
      exact ⟨⟨i, hi, hqualified.2 ⟨e, hie, rfl, hscope, henabled, hselected⟩⟩, hcursor⟩
    · rintro ⟨⟨i, hi, hx⟩, hbeyond⟩
      obtain ⟨e, hie, rfl, hscope, -, hselected⟩ := hqualified.1 hx
      refine ⟨e, mem_sourceRows.2 ⟨mem_entries.2 ⟨i, hi, hie⟩, hscope, hselected, ?_⟩, rfl⟩
      rw [← (entryOf_source hie).1]
      exact cursorSql_iff.2 hbeyond
  · rename_i hdisabled
    refine iff_of_false (List.not_mem_nil) ?_
    rintro ⟨⟨i, hi, hx⟩, -⟩
    obtain ⟨e, -, -, -, henabled, -⟩ := hqualified.1 hx
    exact hdisabled henabled

lemma fetch_eq :
    fetch q T asOf after source = (sourceItems q T asOf after source).take (q.limit + 1) := by
  unfold fetch sourceItems
  split
  swap
  · rfl
  rename_i henabled
  rw [← List.map_take]
  refine List.filter_eq_self.2 ?_
  intro x hx
  obtain ⟨e, he, rfl⟩ := List.mem_map.1 hx
  have hrow : e ∈ sourceRows q T asOf after source := List.mem_of_mem_take he
  obtain ⟨hentry, -, hselected, hcursor⟩ := mem_sourceRows.1 hrow
  obtain ⟨i, -, hi⟩ := mem_entries.1 hentry
  rw [← (entryOf_source hi).1, cursorSql_iff] at hcursor
  rw [Bool.and_eq_true]
  exact ⟨((entryOf_selected hi).1 ⟨henabled, hselected⟩).2, cursorAllows_iff.2 hcursor⟩

lemma mem_qualifying : x ∈ qualifying q T asOf ↔ ∃ source, ∃ i ∈ T.keys source,
    qualified q asOf source i (joined T asOf source i) = some x := by
  unfold qualifying
  rw [List.mem_flatMap]
  constructor
  · rintro ⟨source, -, hx⟩
    exact ⟨source, List.mem_filterMap.1 hx⟩
  · rintro ⟨source, hx⟩
    refine ⟨source, ?_, List.mem_filterMap.2 hx⟩
    cases source <;> decide

lemma qualified_source {i : ℕ} {J : JoinedRows} (h : qualified q asOf source i J = some x) :
    x.sourceType = source ∧ x.sourceId = i := by
  obtain ⟨e, he, hx⟩ := Option.bind_eq_some_iff.1 h
  split at hx
  · cases hx
    exact entryOf_source he
  · cases hx

lemma qualified_created {i : ℕ}
    (h : qualified q asOf source i (joined T asOf source i) = some x) :
    created T source i = some x.createdAt := by
  obtain ⟨e, he, hx⟩ := Option.bind_eq_some_iff.1 h
  split at hx
  · cases hx
    exact entryOf_created he
  · cases hx

lemma key_of_qualifying (h : x ∈ qualifying q T asOf) : 0 < x.sourceId ∧ x.sourceId < 2 ^ 31 := by
  obtain ⟨source, i, hi, hx⟩ := mem_qualifying.1 h
  rw [(qualified_source hx).2]
  cases source with
  | handoff | ticket | dispatch =>
    obtain ⟨a, ha⟩ := SerialTable.mem_keys.1 hi
    exact ⟨SerialTable.key_pos ha, SerialTable.key_lt ha⟩

end Source

/-! ## one page -/

section Page
variable {env : QueueEnv} {q : QueueRequest} {T : QueueTables} {now asOf : UtcTime}
  {after : Option DecodedCursor} {cursor : Option Text}

def sources (q : QueueRequest) (T : QueueTables) (asOf : UtcTime) (after : Option DecodedCursor) :
    List (List Item) :=
  [sourceItems q T asOf after .handoff, sourceItems q T asOf after .ticket,
    sourceItems q T asOf after .dispatch]

def merged (q : QueueRequest) (T : QueueTables) (asOf : UtcTime) (after : Option DecodedCursor) :
    List Item :=
  (fetch q T asOf after .handoff ++ fetch q T asOf after .ticket ++
    fetch q T asOf after .dispatch).insertionSort (precedes q.filters.sort)

lemma mem_merged {x : Item} : x ∈ merged q T asOf after ↔
    ∃ items ∈ sources q T asOf after, x ∈ items.take (q.limit + 1) := by
  unfold merged sources
  rw [List.mem_insertionSort, List.mem_append, List.mem_append, fetch_eq, fetch_eq, fetch_eq]
  simp only [List.mem_cons, List.not_mem_nil, or_false, exists_eq_or_imp, exists_eq_left, or_assoc]

lemma ascending_insertionSort {items : List Item}
    (h : items.Pairwise fun x y => position q.filters.sort x ≠ position q.filters.sort y) :
    (items.insertionSort (precedes q.filters.sort)).Pairwise
      fun x y => position q.filters.sort x < position q.filters.sort y := by
  have hsorted : (items.insertionSort (precedes q.filters.sort)).Pairwise
      (precedes q.filters.sort) := List.pairwise_insertionSort _ _
  have hne : (items.insertionSort (precedes q.filters.sort)).Pairwise
      fun x y => position q.filters.sort x ≠ position q.filters.sort y :=
    (List.Perm.pairwise_iff (fun h => Ne.symm h) (List.perm_insertionSort _ _)).2 h
  exact (hsorted.and hne).imp fun h => lt_of_le_of_ne (precedes_iff.1 h.1) h.2

lemma distinct_sources {f : SourceType → List Item}
    (htype : ∀ source, ∀ x ∈ f source, x.sourceType = source)
    (hone : ∀ source, (f source).Pairwise
      fun x y => position q.filters.sort x ≠ position q.filters.sort y) :
    (f .handoff ++ f .ticket ++ f .dispatch).Pairwise
      fun x y => position q.filters.sort x ≠ position q.filters.sort y := by
  have hacross : ∀ {source source' x y}, source ≠ source' → x ∈ f source → y ∈ f source' →
      position q.filters.sort x ≠ position q.filters.sort y := by
    intro source source' x y hne hx hy heq
    refine hne ?_
    rw [← htype _ x hx, ← htype _ y hy]
    exact rank_inj (place_inj heq).2.1
  refine List.pairwise_append.2 ⟨List.pairwise_append.2 ⟨hone _, hone _, ?_⟩, hone _, ?_⟩
  · exact fun x hx y hy => hacross (by decide) hx hy
  · intro x hx y hy
    rcases List.mem_append.1 hx with hx | hx
    · exact hacross (by decide) hx hy
    · exact hacross (by decide) hx hy

lemma merged_ascending : (merged q T asOf after).Pairwise
    fun x y => position q.filters.sort x < position q.filters.sort y := by
  refine ascending_insertionSort (distinct_sources (f := fetch q T asOf after) ?_ ?_)
  · intro source x hx
    rw [fetch_eq] at hx
    obtain ⟨⟨i, -, hi⟩, -⟩ := mem_sourceItems.1 (List.mem_of_mem_take hx)
    exact (qualified_source hi).1
  · intro source
    rw [fetch_eq]
    exact (sourceItems_ascending.sublist (List.take_sublist _ _)).imp fun h => h.ne

lemma qualifying_distinct : (qualifying q T asOf).Pairwise
    fun x y => position q.filters.sort x ≠ position q.filters.sort y := by
  have hthree := distinct_sources (q := q) (f := fun source => (T.keys source).filterMap fun i =>
      qualified q asOf source i (joined T asOf source i)) ?_ ?_
  · unfold qualifying
    rw [List.flatMap_cons, List.flatMap_cons, List.flatMap_cons, List.flatMap_nil,
      List.append_nil, ← List.append_assoc]
    exact hthree
  · intro source x hx
    obtain ⟨i, -, hi⟩ := List.mem_filterMap.1 hx
    exact (qualified_source hi).1
  · intro source
    refine keys_pairwise.filterMap _ ?_
    intro i j hij x hx y hy heq
    have hid := (place_inj heq).2.2
    rw [(qualified_source hx).2, (qualified_source hy).2] at hid
    exact hij.ne hid

def nextPlace (q : QueueRequest) (T : QueueTables) (asOf : UtcTime)
    (after : Option DecodedCursor) : Option (ℤ ×ₗ ℤ ×ₗ ℤ) :=
  if q.limit < (merged q T asOf after).length then
    ((merged q T asOf after).take q.limit).getLast?.map (position q.filters.sort)
  else none

lemma merged_isPage : IsPage (position q.filters.sort) (qualifying q T asOf)
    (after.map (·.place q.filters.sort)) ((merged q T asOf after).take q.limit)
    (nextPlace q T asOf after) := by
  have hmerge : ∀ x, x ∈ merged q T asOf after ↔
      ∃ items ∈ sources q T asOf after, x ∈ items.take (q.limit + 1) := fun x => mem_merged
  refine isPage_merge q.limit_range.1 ?_ ?_ merged_ascending hmerge
  · intro items hitems
    simp only [sources, List.mem_cons, List.not_mem_nil, or_false] at hitems
    rcases hitems with rfl | rfl | rfl
    · exact sourceItems_ascending
    · exact sourceItems_ascending
    · exact sourceItems_ascending
  · intro x
    rw [mem_qualifying]
    constructor
    · rintro ⟨items, hitems, hx⟩
      simp only [sources, List.mem_cons, List.not_mem_nil, or_false] at hitems
      rcases hitems with rfl | rfl | rfl
      · exact ⟨⟨_, (mem_sourceItems.1 hx).1⟩, (mem_sourceItems.1 hx).2⟩
      · exact ⟨⟨_, (mem_sourceItems.1 hx).1⟩, (mem_sourceItems.1 hx).2⟩
      · exact ⟨⟨_, (mem_sourceItems.1 hx).1⟩, (mem_sourceItems.1 hx).2⟩
    · rintro ⟨⟨source, hx⟩, hbeyond⟩
      refine ⟨sourceItems q T asOf after source, ?_, mem_sourceItems.2 ⟨hx, hbeyond⟩⟩
      cases source <;> simp [sources]

lemma listQueue_eq (h : cursorOf env q now cursor = .ok (after, asOf)) :
    listQueue env q T now cursor = .ok
      { items := (merged q T asOf after).take q.limit
        nextCursor :=
          if q.limit < (merged q T asOf after).length then
            ((merged q T asOf after).take q.limit).getLast?.map fun last =>
              encodeCursor env.key (payloadOf env q asOf last)
          else none } := by
  unfold listQueue
  rw [h]
  rfl

lemma cursorOf_encodeCursor (env : QueueEnv) {last : Item} (h : last ∈ qualifying q T asOf) (now : UtcTime) :
    ∃ c, cursorOf env q now (some (encodeCursor env.key (payloadOf env q asOf last))) =
      .ok (some c, asOf) ∧ c.place q.filters.sort = position q.filters.sort last := by
  obtain ⟨hpos, hlt⟩ := key_of_qualifying h
  have hdecode := decodeCursor_encodeCursor env.key (payloadOf env q asOf last) hpos hlt
  have hne : encodeCursor env.key (payloadOf env q asOf last) ≠ [] := by
    intro hnil
    rw [hnil] at hdecode
    cases hdecode
  let p := payloadOf env q asOf last
  refine ⟨⟨some p.sort.text, p.asOf, p.createdAt, p.source, p.id, some p.filterHash.chars,
    some p.actorId.1, some p.grantVersion.chars⟩, ?_, rfl⟩
  unfold cursorOf
  rw [Option.filter_some_pos (by simpa using hne)]
  dsimp only
  rw [hdecode]
  dsimp only
  rw [if_neg]
  · rfl
  · rintro (hsort | hhash | hactor | hgrant)
    · exact hsort rfl
    · exact hhash rfl
    · exact hactor rfl
    · exact hgrant rfl

end Page

/-! ## page after page -/

/-- a call at `now` with its tables and what it lists, the cursor followed to the end; the tables
may change before the next call. -/
inductive Follow (env : QueueEnv) (q : QueueRequest) :
    UtcTime → QueueTables → Option Text → List (QueueTables × List Item) → Prop where
  | last {now T cursor items} : listQueue env q T now cursor = .ok ⟨items, none⟩ →
      Follow env q now T cursor [(T, items)]
  | more {now T cursor items next pages} (changes : List QueueChange) (later : UtcTime) :
      listQueue env q T now cursor = .ok ⟨items, some next⟩ →
      Follow env q later (run change T changes) (some next) pages →
      Follow env q now T cursor ((T, items) :: pages)

def listedItems (pages : List (QueueTables × List Item)) : List Item := pages.flatMap (·.2)

section Following
variable {env : QueueEnv} {q : QueueRequest} {T : QueueTables} {now asOf : UtcTime}
  {after : Option DecodedCursor} {cursor : Option Text} {pages : List (QueueTables × List Item)}
  {source : SourceType} {i : ℕ} {x : Item}

lemma listQueue_page {page : QueuePage} (hcursor : cursorOf env q now cursor = .ok (after, asOf))
    (h : listQueue env q T now cursor = .ok page) :
    (page.nextCursor = none ∧ IsPage (position q.filters.sort) (qualifying q T asOf)
      (after.map (·.place q.filters.sort)) page.items none) ∨
    ∃ last ∈ qualifying q T asOf,
      page.nextCursor = some (encodeCursor env.key (payloadOf env q asOf last)) ∧
      IsPage (position q.filters.sort) (qualifying q T asOf)
        (after.map (·.place q.filters.sort)) page.items
        (some (position q.filters.sort last)) := by
  have hpage : IsPage (position q.filters.sort) (qualifying q T asOf)
      (after.map (·.place q.filters.sort)) ((merged q T asOf after).take q.limit)
      (nextPlace q T asOf after) := merged_isPage
  rw [listQueue_eq hcursor] at h
  cases h
  unfold nextPlace at hpage
  dsimp only
  by_cases hmore : q.limit < (merged q T asOf after).length
  · rw [if_pos hmore] at hpage ⊢
    cases hlast : ((merged q T asOf after).take q.limit).getLast? with
    | none =>
      rw [hlast] at hpage
      exact .inl ⟨rfl, hpage⟩
    | some last =>
      rw [hlast] at hpage
      exact .inr ⟨last, (hpage.sound last (List.mem_of_getLast? hlast)).1, rfl, hpage⟩
  · rw [if_neg hmore] at hpage ⊢
    exact .inl ⟨rfl, hpage⟩

lemma Follow.walk (h : Follow env q now T cursor pages)
    (hcursor : cursorOf env q now cursor = .ok (after, asOf)) :
    Walk (position q.filters.sort) (after.map (·.place q.filters.sort))
      (pages.map fun p => (qualifying q p.1 asOf, p.2)) := by
  induction h generalizing after with
  | last hlist =>
    rcases listQueue_page hcursor hlist with ⟨-, hpage⟩ | ⟨last, -, hnext, -⟩
    · exact Walk.last hpage
    · cases hnext
  | @more now T cursor items next pages changes later hlist hrest ih =>
    rcases listQueue_page hcursor hlist with ⟨hnext, -⟩ | ⟨last, hlast, hnext, hpage⟩
    · cases hnext
    · obtain ⟨c, hc, hplace⟩ := cursorOf_encodeCursor env hlast later
      rw [← Option.some.inj hnext] at hc
      have hwalk := ih hc
      rw [Option.map_some, hplace] at hwalk
      exact Walk.more hpage hwalk

lemma listed_map (q : QueueRequest) (asOf : UtcTime)
    (pages : List (QueueTables × List Item)) :
    listed (pages.map fun p => (qualifying q p.1 asOf, p.2)) =
    listedItems pages := by
  unfold listed listedItems
  rw [List.flatMap_map]

section
variable (h : Follow env q now T cursor pages)
include h

lemma Follow.created {c : UtcTime} (hc : created T source i = some c) :
    ∀ p ∈ pages, created p.1 source i = some c := by
  induction h with
  | last hlist =>
    intro p hp
    rw [List.mem_singleton.1 hp]
    exact hc
  | @more now T cursor items next pages changes later hlist hrest ih =>
    intro p hp
    rcases List.mem_cons.1 hp with rfl | hp
    · exact hc
    · exact ih (created_run changes hc) p hp

lemma Follow.created_eq {c c' : UtcTime} {p p' : QueueTables × List Item} (hp : p ∈ pages)
    (hp' : p' ∈ pages) (hc : Queue.created p.1 source i = some c)
    (hc' : Queue.created p'.1 source i = some c') :
    c = c' := by
  induction h with
  | last hlist =>
    rw [List.mem_singleton] at hp hp'
    rw [hp] at hc
    rw [hp', hc] at hc'
    exact Option.some.inj hc'
  | @more now T cursor items next pages changes later hlist hrest ih =>
    have hall := Follow.more changes later hlist hrest
    rcases List.mem_cons.1 hp with rfl | hold
    · have := hall.created hc p' hp'
      rw [this] at hc'
      exact Option.some.inj hc'
    · rcases List.mem_cons.1 hp' with rfl | hold'
      · have := hall.created hc' p hp
        rw [this] at hc
        exact (Option.some.inj hc).symm
      · exact ih hold hold'

lemma Follow.distinct (hcursor : cursorOf env q now cursor = .ok (after, asOf)) :
    (listedItems pages).Pairwise
      fun x y => (x.sourceType, x.sourceId) ≠ (y.sourceType, y.sourceId) := by
  have hwalk := h.walk hcursor
  have hasc := hwalk.ascending
  rw [listed_map] at hasc
  refine hasc.imp_of_mem ?_
  intro x y hx hy hlt heq
  obtain ⟨htype, hid⟩ := Prod.mk.inj heq
  rw [← listed_map q asOf] at hx hy
  have hfrom : ∀ {z}, z ∈ listed (pages.map fun p => (qualifying q p.1 asOf, p.2)) →
      ∃ p ∈ pages, Queue.created p.1 z.sourceType z.sourceId = some z.createdAt := by
    intro z hz
    obtain ⟨p', hp', hzp⟩ := hwalk.sound hz
    obtain ⟨p, hp, rfl⟩ := List.mem_map.1 hp'
    obtain ⟨source, i, -, hq⟩ := mem_qualifying.1 hzp
    refine ⟨p, hp, ?_⟩
    rw [(qualified_source hq).1, (qualified_source hq).2]
    exact qualified_created hq
  obtain ⟨p, hp, hcx⟩ := hfrom hx
  obtain ⟨p', hp', hcy⟩ := hfrom hy
  rw [← htype, ← hid] at hcy
  have hsame : x.createdAt = y.createdAt := h.created_eq hp hp' hcx hcy
  unfold position at hlt
  rw [hsame, htype, hid] at hlt
  exact lt_irrefl _ hlt

lemma Follow.complete {J : JoinedRows} (hcursor : cursorOf env q now cursor = .ok (none, asOf))
    (hrows : ∀ p ∈ pages, i ∈ p.1.keys source ∧ joined p.1 asOf source i = J)
    (hx : qualified q asOf source i J = some x) : x ∈ listedItems pages := by
  have hwalk := h.walk hcursor
  have hmem := hwalk.complete (x := x) (fun c hc => by cases hc) (by
    intro p' hp'
    obtain ⟨p, hp, rfl⟩ := List.mem_map.1 hp'
    obtain ⟨hkey, hjoined⟩ := hrows p hp
    refine mem_qualifying.2 ⟨source, i, hkey, ?_⟩
    rw [hjoined]
    exact hx)
  rw [listed_map] at hmem
  exact hmem

lemma Follow.unchanged (hcursor : cursorOf env q now cursor = .ok (none, asOf))
    (hfixed : ∀ p ∈ pages, p.1 = T) :
    (listedItems pages).Pairwise
      (fun x y => position q.filters.sort x < position q.filters.sort y) ∧
    ∀ x, x ∈ listedItems pages ↔ x ∈ qualifying q T asOf := by
  have hwalk := h.walk hcursor
  have hasc := hwalk.ascending
  rw [listed_map] at hasc
  refine ⟨hasc, fun x => ?_⟩
  have hcandidates : ∀ p' ∈ pages.map fun p => (qualifying q p.1 asOf, p.2),
      p'.1 = qualifying q T asOf := by
    intro p' hp'
    obtain ⟨p, hp, rfl⟩ := List.mem_map.1 hp'
    rw [hfixed p hp]
  have htotal : x ∈ listed _ ↔ _ := hwalk.total hcandidates
  rw [listed_map] at htotal
  refine htotal.trans (and_iff_left ?_)
  intro c hc
  cases hc

end

def remaining (q : QueueRequest) (T : QueueTables) (asOf : UtcTime)
    (after : Option DecodedCursor) : List Item :=
  (qualifying q T asOf).filter fun x =>
    Beyond (after.map (·.place q.filters.sort)) (position q.filters.sort x)

lemma follow_ends (n : ℕ) (hcursor : cursorOf env q now cursor = .ok (after, asOf))
    (hn : (remaining q T asOf after).length < n) :
    ∃ pages, Follow env q now T cursor pages ∧ ∀ p ∈ pages, p.1 = T := by
  induction n generalizing cursor after with
  | zero => exact absurd hn (Nat.not_lt_zero _)
  | succ n ih =>
    obtain ⟨⟨items, next⟩, hlist⟩ : ∃ page, listQueue env q T now cursor = .ok page :=
      ⟨_, listQueue_eq hcursor⟩
    rcases listQueue_page hcursor hlist with ⟨hnext, hpage⟩ | ⟨last, hlast, hnext, hpage⟩
    · obtain rfl : next = none := hnext
      exact ⟨[(T, items)], Follow.last hlist, List.forall_mem_singleton.2 rfl⟩
    · obtain rfl : next = some _ := hnext
      obtain ⟨c, hc, hplace⟩ := cursorOf_encodeCursor env hlast now
      rw [← hplace] at hpage
      have hless : (remaining q T asOf (some c)).length < (remaining q T asOf after).length :=
        hpage.fewer
      obtain ⟨pages, hpages, hfixed⟩ := ih hc (by omega)
      exact ⟨(T, items) :: pages, Follow.more [] now hlist hpages,
        List.forall_mem_cons.2 ⟨rfl, hfixed⟩⟩

end Following

theorem listing_complete (env : QueueEnv) (q : QueueRequest) (T : QueueTables) (now : UtcTime) :
    -- with the tables unchanged
    (∃ pages, Follow env q now T none pages ∧ ∀ p ∈ pages, p.1 = T) ∧
    (∀ pages, Follow env q now T none pages → (∀ p ∈ pages, p.1 = T) →
      listedItems pages = (qualifying q T now).insertionSort (precedes q.filters.sort) ∧
        (listedItems pages).Nodup) ∧
    -- with changes between the pages
    (∀ pages, Follow env q now T none pages →
      (listedItems pages).Pairwise
        fun x y => (x.sourceType, x.sourceId) ≠ (y.sourceType, y.sourceId)) ∧
    ∀ pages, Follow env q now T none pages → ∀ source i x, i ∈ T.keys source →
      qualified q now source i (joined T now source i) = some x →
      (∀ p ∈ pages, i ∈ p.1.keys source ∧ joined p.1 now source i = joined T now source i) →
      x ∈ listedItems pages := by
  have hcursor : cursorOf env q now none = .ok (none, now) := rfl
  refine ⟨follow_ends _ hcursor (Nat.lt_succ_self _), ?_, ?_, ?_⟩
  · intro pages hpages hfixed
    obtain ⟨hasc, hmem⟩ := hpages.unchanged hcursor hfixed
    refine ⟨eq_of_ascending hasc (ascending_insertionSort qualifying_distinct) ?_, ?_⟩
    · intro x
      rw [hmem, List.mem_insertionSort]
    · refine hasc.imp ?_
      rintro x y hxy rfl
      exact lt_irrefl _ hxy
  · intro pages hpages
    exact hpages.distinct hcursor
  · intro pages hpages source i x hi hx hrows
    exact hpages.complete hcursor hrows hx

end NexusHelpdesk.Queue
