import NexusHelpdesk.Knowledge.Release

/-!
# Histories of knowledge items

* `Change`: what one operation does to the tables;
* `StoreInv`: keys are unique, versions only grow, and the chunks are those of the versions, in the
  order in which they were published;
* `storeInv_run`: the invariant along a history; 
* `versions_gapless`: **the versions of an item are numbered without gap and only added to, and the
  index is what they were published as**.
-/

namespace NexusHelpdesk.Knowledge

open Lib

def PublishedItem.indexed (v : PublishedItem) : KnowledgeItem :=
  { v with
    status := if v.status = "draft" then "active" else v.status
    publishedBody := publishedBodyOf v.toItemFields
    publishedNormalizedText := publishedTextOf v.toItemFields }

lemma publishedRow_eq (now : Instant) (row : KnowledgeItem) :
    publishedRow now row = (snapshotOf now row).indexed := rfl

def KnowledgeStep.edits : KnowledgeStep → Option (ℕ × (ItemFields → ItemFields))
  | .update id patch _ => some (id, patch.apply)
  | .upload id file => some (id, file.apply)
  | _ => none

section History
variable (chunk : String → List String)

def KnowledgeStore.publish (s : KnowledgeStore) (now : Instant) (id : ℕ) (row : KnowledgeItem)
    (f : ItemFields) : KnowledgeStore where
  items := s.items.set id (publishedRow now (row.edit f))
  versions := s.versions ++ [⟨id, row.publishedVersion + 1, snapshotOf now (row.edit f)⟩]
  chunks := indexPublishedItem chunk id (publishedRow now (row.edit f)) s.chunks

inductive Change (s : KnowledgeStore) (i : KnowledgeStep) : KnowledgeStore → Prop
  | kept : Change s i s
  | created (row : KnowledgeItem)
      (hfresh : ∀ id row', s.items.get? id = some row' → row'.itemKey ≠ row.itemKey)
      (hversion : row.publishedVersion = 0) : Change s i { s with items := s.items.insert row }
  | edited (id : ℕ) (row : KnowledgeItem) (g : ItemFields → ItemFields)
      (hrow : s.items.get? id = some row) (hi : i.edits = some (id, g))
      (hok : (i.run chunk s).isOk = true) :
      Change s i { s with items := s.items.set id (row.edit (g row.toItemFields)) }
  | published (now : Instant) (id : ℕ) (row : KnowledgeItem) (f : ItemFields)
      (hrow : s.items.get? id = some row) : Change s i (s.publish chunk now id row f)

variable {chunk} {s s' : KnowledgeStore} {i : KnowledgeStep} {id : ℕ} {row : KnowledgeItem}
  {c : KnowledgeChunk}

lemma change_publishRow {now : Instant} {f : ItemFields} (hrow : s.items.get? id = some row)
    (h : publishRow chunk now id (row.edit f) s = .ok s') :
    Change chunk s i s' := by
  unfold publishRow at h
  split at h
  · cases h
    exact Change.published now id row f hrow
  · cases h

lemma change_step (s : KnowledgeStore) (i : KnowledgeStep) :
    Change chunk s i (knowledgeStep chunk i s) := by
  unfold knowledgeStep
  cases hrun : i.run chunk s with
  | error e => exact Change.kept
  | ok s' =>
    show Change chunk s i s'
    have hok : (i.run chunk s).isOk = true := by rw [hrun]; rfl
    cases i with
    | create itemKey fields =>
      change createItem itemKey fields s = .ok s' at hrun
      unfold createItem at hrun
      obtain ⟨-, -, h⟩ := bind_eq_ok.1 hrun
      simp only at h
      split at h
      · cases h
      · rename_i hfresh
        cases h
        refine Change.created _ ?_ rfl
        intro id row' hrow' hkey
        apply hfresh
        rw [List.any_eq_true]
        exact ⟨(id, row'), (Table.mem_rows _).2 hrow', beq_iff_eq.2 hkey⟩
    | update id patch tenantId =>
      change updateItem id patch tenantId s = .ok s' at hrun
      unfold updateItem at hrun
      cases hrow : s.items.get? id with
      | none =>
        rw [hrow] at hrun
        cases hrun
      | some row =>
        simp only [hrow] at hrun
        split at hrun
        · obtain ⟨-, -, h⟩ := bind_eq_ok.1 hrun
          cases h
          exact Change.edited id row _ hrow rfl hok
        · cases hrun
    | upload id file =>
      change uploadDocument id file s = .ok s' at hrun
      unfold uploadDocument at hrun
      cases hrow : s.items.get? id with
      | none =>
        rw [hrow] at hrun
        cases hrun
      | some row =>
        rw [hrow] at hrun
        cases hrun
        exact Change.edited id row _ hrow rfl hok
    | publish now id =>
      change publishItem chunk now id s = .ok s' at hrun
      unfold publishItem at hrun
      cases hrow : s.items.get? id with
      | none =>
        rw [hrow] at hrun
        cases hrun
      | some row =>
        rw [hrow] at hrun
        exact change_publishRow (f := row.toItemFields) hrow hrun
    | rollback now id version tenantId =>
      change rollbackItem chunk now id version tenantId s = .ok s' at hrun
      unfold rollbackItem at hrun
      cases hrow : s.items.get? id with
      | none =>
        rw [hrow] at hrun
        cases hrun
      | some row =>
        simp only [hrow] at hrun
        split at hrun
        · split at hrun
          · exact change_publishRow hrow hrun
          · cases hrun
        · cases hrun

/-! ## the invariant -/

variable (chunk) in
structure StoreInv (s : KnowledgeStore) : Prop where
  keys : ∀ i j row row', s.items.get? i = some row → s.items.get? j = some row' →
    row.itemKey = row'.itemKey → i = j
  versions : ∀ v ∈ s.versions, ∃ row, s.items.get? v.itemId = some row ∧
    v.version ≤ row.publishedVersion ∧ v.snapshot.itemKey = row.itemKey ∧
    v.snapshot.publishedVersion = v.version ∧ v.snapshot.publishedAt.isSome = true ∧ 0 < v.version
  distinct : (s.versions.map fun v => (v.itemId, v.version)).Nodup
  chunks : s.chunks = s.versions.flatMap fun v => chunksOf chunk v.itemId v.snapshot.indexed
  current : ∀ id row, s.items.get? id = some row → row.publishedVersion ≠ 0 →
    ∃ v ∈ s.versions, v.itemId = id ∧ v.version = row.publishedVersion

lemma storeInv_empty : StoreInv chunk KnowledgeStore.empty where
  keys := fun i j row row' h => by cases h
  versions := fun v hv => by cases hv
  distinct := List.nodup_nil
  chunks := rfl
  current := fun id row h => by cases h

lemma mem_chunksOf (h : c ∈ chunksOf chunk id row) :
    c.itemId = id ∧ c.itemKey = row.itemKey ∧ c.publishedVersion = row.publishedVersion ∧
      ∃ text ∈ (chunk (indexSourceText row)).zipIdx, c = chunkOf id row text := by
  obtain ⟨text, htext, rfl⟩ := List.mem_map.1 h
  exact ⟨rfl, rfl, rfl, text, htext, rfl⟩

lemma StoreInv.mem_chunks (h : StoreInv chunk s) (hc : c ∈ s.chunks) :
    ∃ v ∈ s.versions, c ∈ chunksOf chunk v.itemId v.snapshot.indexed ∧ c.itemId = v.itemId ∧
      c.publishedVersion = v.version ∧ c.itemKey = v.snapshot.itemKey := by
  rw [h.chunks] at hc
  obtain ⟨v, hv, hmem⟩ := List.mem_flatMap.1 hc
  obtain ⟨hid, hkey, hversion, -⟩ := mem_chunksOf hmem
  obtain ⟨row, -, -, -, hsnap, -⟩ := h.versions v hv
  exact ⟨v, hv, hmem, hid, hversion.trans hsnap, hkey⟩

lemma StoreInv.indexed (h : StoreInv chunk s) {row row' : KnowledgeItem}
    (hrow : s.items.get? id = some row) (hlt : row.publishedVersion < row'.publishedVersion) :
    indexPublishedItem chunk id row' s.chunks = s.chunks ++ chunksOf chunk id row' := by
  have hold : ∀ c ∈ s.chunks, (!c.ofVersion id row'.publishedVersion) = true := by
    intro c hc
    obtain ⟨v, hv, -, hid, hversion, -⟩ := h.mem_chunks hc
    obtain ⟨row'', hrow'', hle, -⟩ := h.versions v hv
    rw [Bool.not_eq_true']
    unfold KnowledgeChunk.ofVersion
    by_cases hsame : c.itemId = id
    · have heq : row'' = row := by
        rw [← hid, hsame, hrow] at hrow''
        exact (Option.some.inj hrow'').symm
      subst heq
      have hne : c.publishedVersion ≠ row'.publishedVersion := by omega
      simp [hne]
    · simp [hsame]
  unfold indexPublishedItem
  rw [List.filter_eq_self.2 hold]

lemma storeInv_change (h : StoreInv chunk s) (hs : Change chunk s i s') : StoreInv chunk s' := by
  cases hs with
  | kept => exact h
  | created row hfresh hversion =>
    have hget : ∀ id row', (s.items.insert row).get? id = some row' →
        (id = s.items.next ∧ row' = row) ∨ s.items.get? id = some row' := by
      intro id row' hrow'
      rw [Table.get?_insert] at hrow'
      split at hrow'
      · cases hrow'
        exact Or.inl ⟨‹_›, rfl⟩
      · exact Or.inr hrow'
    exact {
      keys := by
        intro i j r r' hi hj hkey
        rcases hget i r hi with ⟨hi', hr⟩ | hi'
        · rcases hget j r' hj with ⟨hj', -⟩ | hj'
          · rw [hi', hj']
          · rw [hr] at hkey
            exact absurd hkey.symm (hfresh j r' hj')
        · rcases hget j r' hj with ⟨-, hr⟩ | hj'
          · rw [hr] at hkey
            exact absurd hkey (hfresh i r hi')
          · exact h.keys i j r r' hi' hj' hkey
      versions := by
        intro v hv
        obtain ⟨r, hr, hrest⟩ := h.versions v hv
        exact ⟨r, Table.get?_insert_of_some _ hr, hrest⟩
      distinct := h.distinct
      chunks := h.chunks
      current := by
        intro id r hr hne
        rcases hget id r hr with ⟨-, rfl⟩ | hr
        · exact absurd hversion hne
        · exact h.current id r hr hne }
  | edited id row g hrow hi hok =>
    have hget : ∀ j r, (s.items.set id (row.edit (g row.toItemFields))).get? j = some r →
        ∃ r', s.items.get? j = some r' ∧ r'.itemKey = r.itemKey ∧
          r'.publishedVersion = r.publishedVersion := by
      intro j r hr
      rw [Table.get?_set] at hr
      split at hr
      · rename_i hj
        subst hj
        rw [hrow] at hr
        cases hr
        exact ⟨row, hrow, rfl, rfl⟩
      · exact ⟨r, hr, rfl, rfl⟩
    have hput : ∀ j r, s.items.get? j = some r → ∃ r',
        (s.items.set id (row.edit (g row.toItemFields))).get? j = some r' ∧
          r'.itemKey = r.itemKey ∧ r'.publishedVersion = r.publishedVersion := by
      intro j r hr
      rw [Table.get?_set]
      split
      · rename_i hj
        subst hj
        rw [hrow] at hr ⊢
        cases hr
        exact ⟨_, rfl, rfl, rfl⟩
      · exact ⟨r, hr, rfl, rfl⟩
    exact {
      keys := by
        intro i j r r' hi hj hkey
        obtain ⟨q, hq, hqk, -⟩ := hget i r hi
        obtain ⟨q', hq', hqk', -⟩ := hget j r' hj
        exact h.keys i j q q' hq hq' (hqk.trans (hkey.trans hqk'.symm))
      versions := by
        intro v hv
        obtain ⟨r, hr, hle, hkey, hrest⟩ := h.versions v hv
        obtain ⟨r', hr', hk, hp⟩ := hput _ r hr
        exact ⟨r', hr', hle.trans hp.ge, hkey.trans hk.symm, hrest⟩
      distinct := h.distinct
      chunks := h.chunks
      current := by
        intro j r hr hne
        obtain ⟨r', hr', -, hp⟩ := hget j r hr
        rw [← hp] at hne ⊢
        exact h.current j r' hr' hne }
  | published now id row f hrow =>
    have hget : ∀ j r, (s.publish chunk now id row f).items.get? j = some r →
        (j = id ∧ r = publishedRow now (row.edit f)) ∨ (j ≠ id ∧ s.items.get? j = some r) := by
      intro j r hr
      unfold KnowledgeStore.publish at hr
      rw [Table.get?_set] at hr
      split at hr
      · rename_i hj
        subst hj
        rw [hrow] at hr
        cases hr
        exact Or.inl ⟨rfl, rfl⟩
      · exact Or.inr ⟨‹_›, hr⟩
    have hself : (s.publish chunk now id row f).items.get? id =
        some (publishedRow now (row.edit f)) := by
      unfold KnowledgeStore.publish
      rw [Table.get?_set, if_pos rfl, hrow]
      rfl
    have hother : ∀ j r, j ≠ id → s.items.get? j = some r →
        (s.publish chunk now id row f).items.get? j = some r := by
      intro j r hj hr
      unfold KnowledgeStore.publish
      rw [Table.get?_set, if_neg hj]
      exact hr
    have hkeys : ∀ j r, (s.publish chunk now id row f).items.get? j = some r →
        ∃ r', s.items.get? j = some r' ∧ r'.itemKey = r.itemKey := by
      intro j r hr
      rcases hget j r hr with ⟨rfl, rfl⟩ | ⟨-, hr⟩
      · exact ⟨row, hrow, rfl⟩
      · exact ⟨r, hr, rfl⟩
    exact {
      keys := by
        intro i j r r' hi hj hkey
        obtain ⟨q, hq, hqk⟩ := hkeys i r hi
        obtain ⟨q', hq', hqk'⟩ := hkeys j r' hj
        exact h.keys i j q q' hq hq' (hqk.trans (hkey.trans hqk'.symm))
      versions := by
        intro v hv
        rcases List.mem_append.1 hv with hold | hnew
        · obtain ⟨r, hr, hle, hkey, hrest⟩ := h.versions v hold
          by_cases hj : v.itemId = id
          · rw [hj, hrow] at hr
            cases hr
            rw [hj]
            exact ⟨_, hself, Nat.le_succ_of_le hle, hkey, hrest⟩
          · exact ⟨r, hother _ r hj hr, hle, hkey, hrest⟩
        · rw [List.mem_singleton.1 hnew]
          exact ⟨_, hself, le_rfl, rfl, rfl, rfl, Nat.succ_pos _⟩
      distinct := by
        show ((s.versions ++ _).map _).Nodup
        rw [List.map_append, List.nodup_append]
        refine ⟨h.distinct, by simp, ?_⟩
        intro p hp q hq heq
        obtain ⟨v, hv, rfl⟩ := List.mem_map.1 hp
        obtain ⟨u, hu, rfl⟩ := List.mem_map.1 hq
        rw [List.mem_singleton.1 hu] at heq
        obtain ⟨hid, hversion⟩ := Prod.mk.inj heq
        obtain ⟨r, hr, hle, -⟩ := h.versions v hv
        have hid' : v.itemId = id := hid
        have hversion' : v.version = row.publishedVersion + 1 := hversion
        rw [hid', hrow] at hr
        cases hr
        omega
      chunks := by
        have hlt : row.publishedVersion < (publishedRow now (row.edit f)).publishedVersion :=
          Nat.lt_succ_self _
        show indexPublishedItem chunk id (publishedRow now (row.edit f)) s.chunks =
          (s.versions ++ _).flatMap _
        rw [h.indexed hrow hlt, List.flatMap_append, ← h.chunks, publishedRow_eq]
        simp only [List.flatMap_cons, List.flatMap_nil, List.append_nil]
      current := by
        intro j r hr hne
        rcases hget j r hr with ⟨rfl, rfl⟩ | ⟨hj, hr⟩
        · exact ⟨_, List.mem_append_right _ (List.mem_singleton_self _), rfl, rfl⟩
        · obtain ⟨v, hv, hvid, hvv⟩ := h.current j r hr hne
          exact ⟨v, List.mem_append_left _ hv, hvid, hvv⟩ }

lemma storeInv_step (h : StoreInv chunk s) : StoreInv chunk (knowledgeStep chunk i s) :=
  storeInv_change h (change_step s i)

lemma storeInv_run (h : StoreInv chunk s) (l : List KnowledgeStep) :
    StoreInv chunk (run (knowledgeStep chunk) s l) :=
  (along_true s l).invariant (fun s i hs _ => storeInv_step hs) h

structure ItemGrows (s s' : KnowledgeStore) : Prop where
  grows : ∀ id row, s.items.get? id = some row → ∃ row', s'.items.get? id = some row' ∧
    row'.itemKey = row.itemKey ∧ row.publishedVersion ≤ row'.publishedVersion

lemma itemGrows_change (hs : Change chunk s i s') : ItemGrows s s' := by
  cases hs with
  | kept => exact ⟨fun id row h => ⟨row, h, rfl, le_rfl⟩⟩
  | created row hfresh hversion =>
    exact ⟨fun id r h => ⟨r, Table.get?_insert_of_some _ h, rfl, le_rfl⟩⟩
  | edited id row g hrow hi hok =>
    refine ⟨fun j r h => ?_⟩
    show ∃ row', (s.items.set id _).get? j = some row' ∧ _
    rw [Table.get?_set]
    split
    · rename_i hj
      subst hj
      rw [hrow] at h ⊢
      cases h
      exact ⟨_, rfl, rfl, le_rfl⟩
    · exact ⟨r, h, rfl, le_rfl⟩
  | published now id row f hrow =>
    refine ⟨fun j r h => ?_⟩
    show ∃ row', (s.items.set id _).get? j = some row' ∧ _
    rw [Table.get?_set]
    split
    · rename_i hj
      subst hj
      rw [hrow] at h ⊢
      cases h
      exact ⟨_, rfl, rfl, Nat.le_succ _⟩
    · exact ⟨r, h, rfl, le_rfl⟩

end History

section Numbered
variable {chunk : String → List String} {s s' : KnowledgeStore} {i : KnowledgeStep}

/-- the versions of every item, oldest first, are `1..published_version`. -/
def VersionsNumbered (s : KnowledgeStore) : Prop :=
  ∀ id row, s.items.get? id = some row →
    ((s.versions.filter (·.itemId = id)).map (·.version)) = List.range' 1 row.publishedVersion

lemma numbered_change (hinv : StoreInv chunk s) (h : VersionsNumbered s)
    (hs : Change chunk s i s') : VersionsNumbered s' := by
  cases hs with
  | kept => exact h
  | created row hfresh hversion =>
    intro id r hr
    rw [Table.get?_insert] at hr
    split at hr
    · rename_i hid
      cases hr
      -- no version can belong to an item that was not there
      have hnone : s.versions.filter (·.itemId = id) = [] := by
        rw [List.filter_eq_nil_iff]
        intro v hv hvid
        obtain ⟨r', hr', -⟩ := hinv.versions v hv
        rw [of_decide_eq_true hvid, hid, s.items.get?_eq_none_of_le le_rfl] at hr'
        cases hr'
      rw [hnone, hversion]
      rfl
    · exact h id r hr
  | edited id row g hrow hi hok =>
    intro j r hr
    rw [Table.get?_set] at hr
    split at hr
    · rename_i hj
      rw [hj, hrow] at hr
      cases hr
      rw [hj]
      exact h id row hrow
    · exact h j r hr
  | published now id row f hrow =>
    intro j r hr
    show ((s.versions ++ [_]).filter _).map _ = _
    rw [List.filter_append, List.map_append]
    change (s.items.set id _).get? j = some r at hr
    rw [Table.get?_set] at hr
    split at hr
    · rename_i hj
      subst hj
      rw [hrow] at hr
      cases hr
      rw [h j row hrow, List.filter_cons_of_pos (by simp)]
      show _ ++ [row.publishedVersion + 1] = List.range' 1 (row.publishedVersion + 1)
      rw [List.range'_1_concat, Nat.add_comm 1]
    · rename_i hj
      rw [h j r hr, List.filter_cons_of_neg (by simpa using Ne.symm hj)]
      exact List.append_nil _

lemma versions_grow (hs : Change chunk s i s') : s.versions <+: s'.versions := by
  cases hs with
  | published now id row f hrow => exact List.prefix_append _ _
  | _ => exact List.prefix_rfl

end Numbered

theorem versions_gapless (chunk : String → List String) (l l' : List KnowledgeStep) :
    VersionsNumbered (run (knowledgeStep chunk) KnowledgeStore.empty l) ∧
      (run (knowledgeStep chunk) KnowledgeStore.empty l).versions <+:
        (run (knowledgeStep chunk) KnowledgeStore.empty (l ++ l')).versions ∧
      (run (knowledgeStep chunk) KnowledgeStore.empty l).chunks =
        (run (knowledgeStep chunk) KnowledgeStore.empty l).versions.flatMap fun v =>
          chunksOf chunk v.itemId v.snapshot.indexed := by
  refine ⟨?_, ?_, (storeInv_run storeInv_empty l).chunks⟩
  · refine ((along_true _ l).invariant
      (I := fun s => StoreInv chunk s ∧ VersionsNumbered s) ?_ ⟨storeInv_empty, ?_⟩).2
    · intro s i hs _
      exact ⟨storeInv_step hs.1, numbered_change hs.1 hs.2 (change_step s i)⟩
    · intro id row h
      cases h
  · rw [run_append]
    exact (along_true _ l').relation (I := fun _ => True) (R := fun s t => s.versions <+: t.versions)
      (fun _ => List.prefix_rfl) (fun _ _ _ => List.IsPrefix.trans) (fun _ _ _ _ => trivial)
      (fun s i _ _ => versions_grow (change_step s i)) trivial

end NexusHelpdesk.Knowledge
