import NexusHelpdesk.Knowledge.Reachable

/-!
# Rolling an item back

`rollback_item` writes the columns of a version to the row and publishes the row again.  It leaves
`starts_at` and `ends_at` alone, and an empty text or a priority of 0 keeps what the row has.

* `Restored`: the new version records what the old one did, and is indexed into the same chunks;
* `Restorable`: the row still has what the rollback does not take from the version;
* `rollback_restores_iff`: **along every history these are the rollbacks that restore**.
-/

namespace NexusHelpdesk.Knowledge

open Lib

/-! ## columns that are never empty -/

def ItemFields.required (f : ItemFields) : List String :=
  [f.status, f.sourceType, f.knowledgeKind, f.tenantId, f.brandId, f.countryScope, f.channelScope,
    f.visibility, f.shareability, f.authorityLevel, f.riskLevel, f.parsingStatus, f.factStatus,
    f.answerMode]

def ItemFields.Formed (f : ItemFields) : Prop := ∀ text ∈ f.required, text ≠ ""

lemma orDefault_ne {value default : String} (h : default ≠ "") : orDefault value default ≠ "" := by
  unfold orDefault
  split
  · exact h
  · assumption

lemma orDefault_of_ne {value : String} (h : value ≠ "") (default : String) :
    orDefault value default = value := if_neg h

lemma normalizeScope_ne {value default : String} (h : default ≠ "") :
    normalizeScope value default ≠ "" := orDefault_ne h

lemma normalizeCountryScope_ne (value : String) : normalizeCountryScope value ≠ "" := by
  unfold normalizeCountryScope
  dsimp only
  split
  · decide
  · intro hclip
    have hscope : upper (normalizeScope value "GLOBAL") ≠ "" :=
      fun h => normalizeScope_ne (by decide) (upper_eq_empty.1 h)
    apply hscope
    rw [← String.toList_inj] at hclip ⊢
    unfold clip at hclip
    rw [String.toList_ofList] at hclip
    simpa using hclip

lemma normalizeAuthorityLevel_ne (value knowledgeKind factStatus : String) :
    normalizeAuthorityLevel value knowledgeKind factStatus ≠ "" := by
  unfold normalizeAuthorityLevel
  dsimp only
  split
  · decide
  · split
    · decide
    · exact normalizeScope_ne (by decide)

variable {f : ItemFields}

lemma shape_ne (h : validateShape f = .ok ()) :
    ∀ c ∈ shapeChecks f, c.1 ≠ "" := by
  have hvalues : ∀ c ∈ shapeChecks f, "" ∉ c.2.1 := by simp [shapeChecks]
  unfold validateShape at h
  split at h
  · cases h
  · rename_i hnone
    intro c hc hempty
    have hok := List.find?_eq_none.1 hnone c hc
    rw [hempty] at hok
    simp only [Bool.not_eq_true, Bool.not_eq_false', List.contains_iff_mem] at hok
    exact hvalues c hc hok

lemma getD_map_ne {o : Option String} {g : String → String} {d : String} (hg : ∀ x, g x ≠ "")
    (hd : d ≠ "") : (o.map g).getD d ≠ "" := by
  cases o with
  | none => exact hd
  | some x => exact hg x

lemma createdFields_formed (h : validateShape f = .ok ()) :
    (createdFields f).Formed := by
  have hshape := shape_ne h
  simp only [shapeChecks, List.forall_mem_cons] at hshape
  obtain ⟨hstatus, hsource, hkind, hfact, hmode, -⟩ := hshape
  simp only [ItemFields.Formed, ItemFields.required, createdFields, List.forall_mem_cons]
  exact ⟨hstatus, hsource, hkind, normalizeScope_ne (by decide), normalizeScope_ne (by decide),
    normalizeCountryScope_ne _, normalizeScope_ne (by decide), normalizeScope_ne (by decide),
    normalizeScope_ne (by decide), normalizeAuthorityLevel_ne _ _ _, normalizeScope_ne (by decide),
    by decide, hfact, hmode, nofun⟩

lemma ItemFields.Formed.patched (hf : f.Formed) {p : ItemPatch}
    (h : validateShape (p.shaped f) = .ok ()) : (p.apply f).Formed := by
  have hshape := shape_ne h
  simp only [shapeChecks, List.forall_mem_cons] at hshape
  obtain ⟨hstatus, hsource, hkind, hfact, hmode, -⟩ := hshape
  simp only [ItemFields.Formed, ItemFields.required, List.forall_mem_cons] at hf ⊢
  obtain ⟨-, -, -, htenant, hbrand, hcountry, hchannel, hvisible, hshare, hlevel, hrisk, hparsing,
    -⟩ := hf
  exact ⟨hstatus, hsource, hkind, htenant,
    getD_map_ne (fun _ => normalizeScope_ne (by decide)) hbrand,
    getD_map_ne normalizeCountryScope_ne hcountry,
    getD_map_ne (fun _ => normalizeScope_ne (by decide)) hchannel,
    getD_map_ne (fun _ => normalizeScope_ne (by decide)) hvisible,
    getD_map_ne (fun _ => normalizeScope_ne (by decide)) hshare,
    getD_map_ne (fun _ => normalizeAuthorityLevel_ne _ _ _) hlevel,
    getD_map_ne (fun _ => normalizeScope_ne (by decide)) hrisk, hparsing, hfact, hmode, nofun⟩

lemma ItemFields.Formed.uploaded (hf : f.Formed) (u : Upload) :
    (u.apply f).Formed := by
  have hmode : orDefault u.answerMode "guided_answer" ≠ "" := orDefault_ne (by decide)
  simp only [ItemFields.Formed, ItemFields.required, List.forall_mem_cons] at hf ⊢
  unfold Upload.apply Upload.extracted
  split
  · simp_all
  · simp_all

variable {v : PublishedItem} {tenantId : Option String}

lemma rolledBack_tenantId (hv : v.Formed) (ht : ∀ t ∈ tenantId, t = v.tenantId) :
    (rolledBack f tenantId v).tenantId = v.tenantId := by
  have hne : v.tenantId ≠ "" := hv _ (by simp [ItemFields.required])
  cases tenantId with
  | none => exact orDefault_of_ne hne _
  | some t => exact ht t rfl

lemma rolledBack_formed (hv : v.Formed) (ht : ∀ t ∈ tenantId, t = v.tenantId) :
    (rolledBack f tenantId v).Formed := by
  have htenant := rolledBack_tenantId (f := f) hv ht
  simp only [ItemFields.Formed, ItemFields.required, List.forall_mem_cons] at hv ⊢
  rw [htenant]
  simp [rolledBack, orDefault_of_ne, hv, normalizeCountryScope_ne]

/-! ## versions and rows -/

section Restore
variable {chunk : String → List String} {s s' : KnowledgeStore} {id : ℕ} {now : Instant}
  {row : KnowledgeItem} {f : ItemFields} {v : KnowledgeItemVersion} {tenantId : Option String}

/-- rows and versions have no empty text, and a version has a text and the tenant of its row. -/
structure FormedInv (s : KnowledgeStore) : Prop where
  items : ∀ id row, s.items.get? id = some row → row.Formed
  versions : ∀ v ∈ s.versions, v.snapshot.Formed ∧ hasDraftContent v.snapshot.toItemFields = true ∧
    ∃ row, s.items.get? v.itemId = some row ∧ row.tenantId = v.snapshot.tenantId

lemma FormedInv.set (h : FormedInv s) {row row' : KnowledgeItem} (hrow : s.items.get? id = some row)
    (hf : row'.Formed) (ht : row'.tenantId = row.tenantId) :
    FormedInv { s with items := s.items.set id row' } where
  items j r hr := by
    change (s.items.set id row').get? j = some r at hr
    rw [Table.get?_set] at hr
    split at hr
    · rename_i hj
      rw [hj, hrow] at hr
      cases hr
      exact hf
    · exact h.items j r hr
  versions v hv := by
    obtain ⟨hformed, hdraft, r, hr, htenant⟩ := h.versions v hv
    refine ⟨hformed, hdraft, ?_⟩
    show ∃ r, (s.items.set id row').get? v.itemId = some r ∧ _
    rw [Table.get?_set]
    split
    · rename_i hj
      rw [hj, hrow] at hr
      cases hr
      rw [hj, hrow]
      exact ⟨row', rfl, ht.trans htenant⟩
    · exact ⟨r, hr, htenant⟩

lemma FormedInv.publishRow (h : FormedInv s) (hrow : s.items.get? id = some row) (hf : f.Formed)
    (ht : f.tenantId = row.tenantId) (hrun : publishRow chunk now id (row.edit f) s = .ok s') :
    FormedInv s' := by
  unfold Knowledge.publishRow at hrun
  split at hrun
  · rename_i hdraft
    cases hrun
    have hpublished : (publishedRow now (row.edit f)).Formed := by
      simp only [ItemFields.Formed, ItemFields.required, List.forall_mem_cons] at hf ⊢
      refine ⟨?_, hf.2⟩
      show (if f.status = "draft" then "active" else f.status) ≠ ""
      split
      · decide
      · exact hf.1
    have hset := h.set hrow hpublished ht
    refine ⟨hset.items, fun v hv => ?_⟩
    rcases List.mem_append.1 hv with hold | hnew
    · exact hset.versions v hold
    · rw [List.mem_singleton.1 hnew]
      refine ⟨hf, hdraft, publishedRow now (row.edit f), ?_, rfl⟩
      show (s.items.set id _).get? id = _
      rw [Table.get?_set, if_pos rfl, hrow]
      rfl
  · cases hrun

lemma FormedInv.target (h : FormedInv s) (hrow : s.items.get? id = some row) (hid : v.itemId = id)
    (hv : v ∈ s.versions) (ht : row.ofTenant tenantId) :
    (∀ t ∈ tenantId, t = v.snapshot.tenantId) ∧ row.tenantId = v.snapshot.tenantId := by
  obtain ⟨-, -, r, hr, htenant⟩ := h.versions v hv
  rw [hid, hrow] at hr
  cases hr
  refine ⟨fun t hmem => ?_, htenant⟩
  rcases ht with hnone | hsome
  · rw [hnone] at hmem
    cases hmem
  · rw [hsome] at hmem
    cases hmem
    exact htenant

lemma FormedInv.step (h : FormedInv s) (i : KnowledgeStep) :
    FormedInv (knowledgeStep chunk i s) := by
  unfold knowledgeStep
  cases hrun : i.run chunk s with
  | error e => exact h
  | ok s' =>
    show FormedInv s'
    cases i with
    | create itemKey f =>
      change createItem itemKey f s = .ok s' at hrun
      unfold createItem at hrun
      obtain ⟨u, hshape, h'⟩ := bind_eq_ok.1 hrun
      simp only at h'
      split at h'
      · cases h'
      · cases h'
        refine ⟨fun id r hr => ?_, fun v hv => ?_⟩
        · change (s.items.insert _).get? id = some r at hr
          rw [Table.get?_insert] at hr
          split at hr
          · cases hr
            exact createdFields_formed hshape
          · exact h.items id r hr
        · obtain ⟨hformed, hdraft, r, hr, htenant⟩ := h.versions v hv
          exact ⟨hformed, hdraft, r, Table.get?_insert_of_some _ hr, htenant⟩
    | update id p tenantId =>
      change updateItem id p tenantId s = .ok s' at hrun
      unfold updateItem at hrun
      cases hrow : s.items.get? id with
      | none =>
        rw [hrow] at hrun
        cases hrun
      | some row =>
        simp only [hrow] at hrun
        split at hrun
        · obtain ⟨u, hshape, h'⟩ := bind_eq_ok.1 hrun
          cases h'
          exact h.set hrow ((h.items id row hrow).patched hshape) rfl
        · cases hrun
    | upload id file =>
      change uploadDocument id file s = .ok s' at hrun
      unfold uploadDocument at hrun
      cases hrow : s.items.get? id with
      | none =>
        rw [hrow] at hrun
        cases hrun
      | some row =>
        rw [hrow] at hrun
        cases hrun
        have htenant : (file.apply row.toItemFields).tenantId = row.tenantId := by
          unfold Upload.apply Upload.extracted
          split <;> rfl
        exact h.set hrow ((h.items id row hrow).uploaded file) htenant
    | publish now id =>
      change publishItem chunk now id s = .ok s' at hrun
      unfold publishItem at hrun
      cases hrow : s.items.get? id with
      | none =>
        rw [hrow] at hrun
        cases hrun
      | some row =>
        rw [hrow] at hrun
        exact h.publishRow (f := row.toItemFields) hrow (h.items id row hrow) rfl hrun
    | rollback now id version tenantId =>
      change rollbackItem chunk now id version tenantId s = .ok s' at hrun
      unfold rollbackItem at hrun
      cases hrow : s.items.get? id with
      | none =>
        rw [hrow] at hrun
        cases hrun
      | some row =>
        simp only [hrow] at hrun
        split at hrun
        · rename_i htenant
          split at hrun
          · rename_i v hfind
            have hv := List.mem_of_find?_eq_some hfind
            have hid : v.itemId = id := by
              have hsame := List.find?_some hfind
              rw [Bool.and_eq_true, beq_iff_eq] at hsame
              exact hsame.1
            obtain ⟨ht, hrt⟩ := h.target hrow hid hv htenant
            have hformed := (h.versions v hv).1
            exact h.publishRow hrow (rolledBack_formed hformed ht)
              ((rolledBack_tenantId hformed ht).trans hrt.symm) hrun
          · cases hrun
        · cases hrun

lemma formedInv_run (l : List KnowledgeStep) :
    FormedInv (run (knowledgeStep chunk) .empty l) :=
  (along_true KnowledgeStore.empty l).invariant (fun s i hs _ => hs.step i)
    ⟨fun id row h => (by cases h), fun v hv => (by cases hv)⟩

lemma StoreInv.ofVersion (h : StoreInv chunk s) (hv : v ∈ s.versions) :
    s.chunks.filter (·.ofVersion v.itemId v.version) =
      chunksOf chunk v.itemId v.snapshot.indexed := by
  have hkept : ∀ u ∈ s.versions, (chunksOf chunk u.itemId u.snapshot.indexed).filter
      (·.ofVersion v.itemId v.version) =
        if u = v then chunksOf chunk v.itemId v.snapshot.indexed else [] := by
    intro u hu
    obtain ⟨row, -, -, -, hversion, -⟩ := h.versions u hu
    split
    · rename_i heq
      subst heq
      refine List.filter_eq_self.2 fun c hc => ?_
      obtain ⟨hid, -, hcv, -⟩ := mem_chunksOf hc
      unfold KnowledgeChunk.ofVersion
      rw [hid, hcv, show u.snapshot.indexed.publishedVersion = u.version from hversion]
      simp
    · rename_i hne
      refine List.filter_eq_nil_iff.2 fun c hc hof => hne ?_
      obtain ⟨hid, -, hcv, -⟩ := mem_chunksOf hc
      unfold KnowledgeChunk.ofVersion at hof
      rw [hid, hcv, show u.snapshot.indexed.publishedVersion = u.version from hversion,
        Bool.and_eq_true, beq_iff_eq, beq_iff_eq] at hof
      exact List.inj_on_of_nodup_map h.distinct hu hv (Prod.ext hof.1 hof.2)
  have hnodup : s.versions.Nodup := h.distinct.of_map _
  rw [h.chunks, List.filter_flatMap, List.flatMap_congr hkept]
  obtain ⟨before, after, hsplit⟩ := List.append_of_mem hv
  rw [hsplit, List.nodup_append, List.nodup_cons] at hnodup
  have hnone : ∀ us : List KnowledgeItemVersion, v ∉ us →
      (us.flatMap fun u => if u = v then chunksOf chunk v.itemId v.snapshot.indexed else []) =
        [] := by
    intro us hus
    refine List.flatMap_eq_nil_iff.2 fun u hu => ?_
    have hne : u ≠ v := by
      rintro rfl
      exact hus hu
    exact if_neg hne
  have hbefore : v ∉ before := fun hmem =>
    hnodup.2.2 v hmem v (List.mem_cons_self ..) rfl
  rw [hsplit, List.flatMap_append, List.flatMap_cons, hnone before hbefore,
    hnone after hnodup.2.1.1, if_pos rfl, List.nil_append, List.append_nil]

/-! ## what a rollback gives back -/

/-- a version without its status and its place in the history. -/
def PublishedItem.content (v : PublishedItem) : PublishedItem :=
  { v with status := "", publishedVersion := 0, publishedAt := none }

def versionChunks (s : KnowledgeStore) (v : KnowledgeItemVersion) : List KnowledgeChunk :=
  (s.chunks.filter (·.ofVersion v.itemId v.version)).map fun c => { c with publishedVersion := 0 }

/-- a rollback to a version of the store `s` leaves the store `s'`. -/
def Restored (s s' : KnowledgeStore) (v : KnowledgeItemVersion) : Prop :=
  ∃ u, s'.versions = s.versions ++ [u] ∧ u.itemId = v.itemId ∧
    u.snapshot.content = v.snapshot.content ∧ versionChunks s' u = versionChunks s v

/-- the row still has what a rollback to the version does not bring back. -/
structure Restorable (row v : ItemFields) : Prop where
  startsAt : row.startsAt = v.startsAt
  endsAt : row.endsAt = v.endsAt
  priority : v.priority = 0 → row.priority = 0
  title : v.title = "" → row.title = ""
  audienceScope : v.audienceScope = "" → row.audienceScope = ""
  countryScope : normalizeCountryScope v.countryScope = v.countryScope

lemma orDefault_eq_left {value default : String} :
    orDefault value default = value ↔ (value = "" → default = "") := by
  unfold orDefault
  split
  · simp_all
  · simp_all

lemma rolledBack_eq {v : PublishedItem} (hv : v.Formed) (ht : ∀ t ∈ tenantId, t = v.tenantId)
    (h : Restorable f v.toItemFields) :
    rolledBack f tenantId v = v.toItemFields := by
  have htenant := rolledBack_tenantId (f := f) hv ht
  have hpriority : (if v.priority = 0 then f.priority else v.priority) = v.priority := by
    split
    · rename_i hzero
      rw [h.priority hzero, hzero]
    · rfl
  simp only [ItemFields.Formed, ItemFields.required, List.forall_mem_cons] at hv
  have hcountry : normalizeCountryScope (orDefault v.countryScope f.countryScope) =
      v.countryScope := by
    rw [orDefault_of_ne (by simp [hv]), h.countryScope]
  change tenantId.getD (orDefault v.tenantId (orDefault f.tenantId "default")) = v.tenantId
    at htenant
  unfold rolledBack
  rw [hpriority, hcountry, orDefault_eq_left.2 h.title, orDefault_eq_left.2 h.audienceScope,
    h.startsAt, h.endsAt, htenant]
  simp only [orDefault_of_ne, hv, ne_eq, not_false_eq_true]

lemma rollbackItem_ok (hs : StoreInv chunk s) (hf : FormedInv s) (hrow : s.items.get? id = some row)
    (htenant : row.ofTenant tenantId) (hv : v ∈ s.versions) (hid : v.itemId = id) :
    rollbackItem chunk now id v.version tenantId s = .ok
      (s.publish chunk now id row (rolledBack row.toItemFields tenantId v.snapshot)) := by
  have hfind : (s.versions.find? fun u => u.itemId == id && u.version == v.version) = some v := by
    cases hfound : s.versions.find? fun u => u.itemId == id && u.version == v.version with
    | none =>
      have hno := List.find?_eq_none.1 hfound v hv
      rw [hid, beq_self_eq_true, beq_self_eq_true] at hno
      exact absurd rfl hno
    | some u =>
      have hsame := List.find?_some hfound
      rw [Bool.and_eq_true, beq_iff_eq, beq_iff_eq] at hsame
      refine congrArg some (List.inj_on_of_nodup_map hs.distinct
        (List.mem_of_find?_eq_some hfound) hv (Prod.ext ?_ hsame.2))
      exact hsame.1.trans hid.symm
  have hdraft : hasDraftContent (rolledBack row.toItemFields tenantId v.snapshot) = true := by
    obtain ⟨hformed, hdraft, -⟩ := hf.versions v hv
    have hkind : v.snapshot.knowledgeKind ≠ "" := hformed _ (by simp [ItemFields.required])
    rw [← hdraft]
    unfold hasDraftContent
    show (_ || _ || (structuredKinds.contains (orDefault v.snapshot.knowledgeKind _) && _ && _)) = _
    rw [orDefault_of_ne hkind]
    rfl
  unfold rollbackItem
  simp only [hrow, if_pos htenant, hfind]
  unfold publishRow
  exact if_pos hdraft

lemma content_columns {v : PublishedItem} (h : (snapshotOf now (row.edit f)).content = v.content) :
    f.startsAt = v.startsAt ∧ f.endsAt = v.endsAt ∧ f.priority = v.priority ∧ f.title = v.title ∧
      f.audienceScope = v.audienceScope ∧ f.countryScope = v.countryScope :=
  ⟨congrArg (fun w : PublishedItem => w.startsAt) h, congrArg (fun w : PublishedItem => w.endsAt) h,
    congrArg (fun w : PublishedItem => w.priority) h, congrArg (fun w : PublishedItem => w.title) h,
    congrArg (fun w : PublishedItem => w.audienceScope) h,
    congrArg (fun w : PublishedItem => w.countryScope) h⟩

lemma restorable_of_content {v : PublishedItem} (hv : v.Formed)
    (h : (snapshotOf now (row.edit (rolledBack row.toItemFields tenantId v))).content = v.content) :
    Restorable row.toItemFields v.toItemFields := by
  have hcountry : v.countryScope ≠ "" := hv _ (by simp [ItemFields.required])
  obtain ⟨hstarts, hends, hpriority, htitle, haudience, hscope⟩ := content_columns h
  unfold rolledBack at hstarts hends hpriority htitle haudience hscope
  dsimp only at hstarts hends hpriority htitle haudience hscope
  rw [orDefault_of_ne hcountry] at hscope
  refine ⟨hstarts, hends, fun hzero => ?_, orDefault_eq_left.1 htitle, orDefault_eq_left.1 haudience,
    hscope⟩
  calc row.priority = if v.priority = 0 then row.priority else v.priority := (if_pos hzero).symm
    _ = v.priority := hpriority
    _ = 0 := hzero

lemma chunks_alike (id number : ℕ) (at' : Option Instant) (v : PublishedItem) :
    (chunksOf chunk id
        ({ v with publishedVersion := number, publishedAt := at' } : PublishedItem).indexed).map
        (fun c => { c with publishedVersion := 0 }) =
      (chunksOf chunk id v.indexed).map fun c => { c with publishedVersion := 0 } := by
  unfold chunksOf
  rw [List.map_map, List.map_map]
  rfl

lemma restored_publish (hs : StoreInv chunk s) (hf : FormedInv s)
    (hrow : s.items.get? id = some row) (htenant : row.ofTenant tenantId) (hv : v ∈ s.versions)
    (hid : v.itemId = id) :
    Restored s (s.publish chunk now id row (rolledBack row.toItemFields tenantId v.snapshot)) v ↔
      Restorable row.toItemFields v.snapshot.toItemFields := by
  obtain ⟨ht, -⟩ := hf.target hrow hid hv htenant
  have hformed := (hf.versions v hv).1
  constructor
  · rintro ⟨u, hu, -, hcontent, -⟩
    have hlast := (List.cons.inj (List.append_cancel_left hu)).1
    rw [← hlast] at hcontent
    exact restorable_of_content hformed hcontent
  · intro h
    obtain ⟨r, hr, -, hkey, -⟩ := hs.versions v hv
    rw [hid, hrow] at hr
    cases hr
    have hback := rolledBack_eq hformed ht h
    rw [hback]
    have hs' : StoreInv chunk (s.publish chunk now id row v.snapshot.toItemFields) :=
      storeInv_change (i := .publish now id) hs (Change.published now id row _ hrow)
    have hsnapshot : snapshotOf now (row.edit v.snapshot.toItemFields) = { v.snapshot with
        publishedVersion := row.publishedVersion + 1, publishedAt := some now } := by
      show ({ v.snapshot with
        itemKey := row.itemKey, publishedVersion := _, publishedAt := _ } : PublishedItem) = _
      rw [← hkey]
      rfl
    refine ⟨⟨id, row.publishedVersion + 1, snapshotOf now (row.edit v.snapshot.toItemFields)⟩, rfl,
      hid.symm, ?_, ?_⟩
    · rw [hsnapshot]
      rfl
    · unfold versionChunks
      rw [hs.ofVersion hv, hs'.ofVersion (List.mem_append_right _ (List.mem_singleton_self _)), hid,
        hsnapshot]
      exact chunks_alike id _ _ v.snapshot

theorem rollback_restores_iff (chunkDocumentText : String → List String) (l : List KnowledgeStep)
    (now : Instant) (id : ℕ) (tenantId : Option String) (row : KnowledgeItem)
    (v : KnowledgeItemVersion)
    (hrow : (run (knowledgeStep chunkDocumentText) .empty l).items.get? id = some row)
    (htenant : row.ofTenant tenantId)
    (hv : v ∈ (run (knowledgeStep chunkDocumentText) .empty l).versions) (hid : v.itemId = id) :
    ∃ s', rollbackItem chunkDocumentText now id v.version tenantId
        (run (knowledgeStep chunkDocumentText) .empty l) = .ok s' ∧
      (Restored (run (knowledgeStep chunkDocumentText) .empty l) s' v ↔
        Restorable row.toItemFields v.snapshot.toItemFields) := by
  have hs : StoreInv chunkDocumentText (run (knowledgeStep chunkDocumentText) .empty l) :=
    storeInv_run storeInv_empty l
  have hf : FormedInv (run (knowledgeStep chunkDocumentText) .empty l) := formedInv_run l
  exact ⟨_, rollbackItem_ok hs hf hrow htenant hv hid,
    restored_publish hs hf hrow htenant hv hid⟩

end Restore

/-! ## an item with a display window -/

/-- published with a window; then `patch` is applied. -/
def windowedItem (patch : ItemPatch) : List KnowledgeStep :=
  [.create "insurance" { plainItem "Insurance" "five" with startsAt := some 3, endsAt := some 8 },
    .publish 1 1, .update 1 patch none]

def windowedStore (patch : ItemPatch) : KnowledgeStore :=
  run (knowledgeStep shortChunks) .empty (windowedItem patch)

def windowedRow (patch : ItemPatch) : KnowledgeItem :=
  ((windowedStore patch).items.get? 1).getD ⟨⟨plainItem "" "", "", 0, none⟩, none, none⟩

def firstVersion : KnowledgeItemVersion :=
  ⟨1, 1, snapshotOf 1 ⟨⟨createdFields { plainItem "Insurance" "five" with
    startsAt := some 3, endsAt := some 8 }, "insurance", 0, none⟩, none, none⟩⟩

def newText : ItemPatch := { ItemPatch.none with draftBody := some (some "seven") }

def noWindow : ItemPatch := { ItemPatch.none with startsAt := some none, endsAt := some none }

/-- a new text goes with the rollback. -/
theorem edited_text_restored : ∃ s',
    rollbackItem shortChunks 5 1 1 none (windowedStore newText) = .ok s' ∧
    Restored (windowedStore newText) s' firstVersion := by
  obtain ⟨s', hok, hiff⟩ := rollback_restores_iff shortChunks (windowedItem newText) 5 1 none
    (windowedRow newText) firstVersion (by decide +kernel) (Or.inl rfl) (by decide +kernel) rfl
  exact ⟨s', hok, hiff.2 ⟨by decide +kernel, by decide +kernel, by decide +kernel,
    by decide +kernel, by decide +kernel, by decide +kernel⟩⟩

def KnowledgeItemVersion.shown (v : KnowledgeItemVersion) : ℕ × Option String × Option Instant :=
  (v.version, v.snapshot.draftBody, v.snapshot.startsAt)

/-- a window that is taken away stays away: the rollback publishes the old text without it. -/
theorem window_not_restored :
    ∃ s', rollbackItem shortChunks 5 1 1 none (windowedStore noWindow) = .ok s' ∧
      s'.versions.map (·.shown) = [(1, some "five", some 3), (2, some "five", none)] ∧
      ¬ Restored (windowedStore noWindow) s' firstVersion := by
  have hversions : (windowedStore noWindow).versions = [firstVersion] := by decide +kernel
  have hok : (rollbackItem shortChunks 5 1 1 none (windowedStore noWindow)).map
      (fun s' => s'.versions.map (·.shown)) =
        .ok [(1, some "five", some 3), (2, some "five", none)] := by decide +kernel
  cases hrun : rollbackItem shortChunks 5 1 1 none (windowedStore noWindow) with
  | error e =>
    rw [hrun] at hok
    cases hok
  | ok s' =>
    rw [hrun] at hok
    have hlisted : s'.versions.map (·.shown) = _ := Except.ok.inj hok
    refine ⟨s', rfl, hlisted, ?_⟩
    rintro ⟨u, hu, -, hcontent, -⟩
    rw [hu, hversions] at hlisted
    have hshown : u.shown = (2, some "five", none) := (List.cons.inj (List.cons.inj hlisted).2).1
    have hnone : u.snapshot.startsAt = none := congrArg (·.2.2) hshown
    have hsome : u.snapshot.startsAt = some 3 :=
      congrArg (fun w : PublishedItem => w.startsAt) hcontent
    rw [hnone] at hsome
    cases hsome

end NexusHelpdesk.Knowledge
