import NexusHelpdesk.Knowledge.History

/-!
# What is served under a version

The text and the title of a hit are those of the chunks, which are written when a version is
published. The direct answer and the answer mode of a hit, and the title and the text of an export,
are read from the row, which is edited in place.

* `Recorded`, `RecordedExport`: what is served is what the version recorded;
* `EditsAsPublished`: the edits that change nothing that is served;
* `Served`: the rows that can be served are as they were published.
-/

namespace NexusHelpdesk.Knowledge

open Lib

/-! ## content -/

def textsOfVersion (chunk : String → List String) (v : PublishedItem) : List String :=
  chunk (indexSourceText v.indexed)

/-- a row that customers can be served or that can be exported, as far as its own columns say. -/
def ItemFields.servable (f : ItemFields) : Bool :=
  PyStr.lower f.status == "active" && lowerIs f.audienceScope "customer" "customer" &&
    lowerIs f.visibility "internal" "customer" &&
    (lowerIs f.shareability "internal" "customer_visible" ||
      lowerIs f.shareability "internal" "runtime_context")

structure SameContent (f : ItemFields) (v : PublishedItem) (text : String) : Prop where
  title : f.title = v.title
  answerMode : f.answerMode = v.answerMode
  answer : f.answer = v.answer
  synced : syncText f text = syncText v.toItemFields text

instance (f : ItemFields) (v : PublishedItem) (text : String) : Decidable (SameContent f v text) :=
  decidable_of_iff (f.title = v.title ∧ f.answerMode = v.answerMode ∧ f.answer = v.answer ∧
      syncText f text = syncText v.toItemFields text)
    ⟨fun h => ⟨h.1, h.2.1, h.2.2.1, h.2.2.2⟩, fun h => ⟨h.title, h.answerMode, h.answer, h.synced⟩⟩

section Published
variable (chunk : String → List String)

/-- fields that the row may have: those of a version, wherever they are served under it. -/
def AsPublished (s : KnowledgeStore) (id version : ℕ) (f : ItemFields) : Prop :=
  f.servable = true → ∀ v ∈ s.versions, v.itemId = id ∧ v.version = version →
    ∀ text ∈ textsOfVersion chunk v.snapshot, SameContent f v.snapshot text

instance (s : KnowledgeStore) (id version : ℕ) (f : ItemFields) :
    Decidable (AsPublished chunk s id version f) :=
  inferInstanceAs (Decidable (_ → ∀ v ∈ s.versions, _))

/-- an update or an upload that is accepted leaves what is served under the last version. -/
def EditsAsPublished (s : KnowledgeStore) (i : KnowledgeStep) : Prop :=
  match i.edits with
  | some (id, g) => (i.run chunk s).isOk = true →
    match s.items.get? id with
    | some row => AsPublished chunk s id row.publishedVersion (g row.toItemFields)
    | none => True
  | none => True

instance (s : KnowledgeStore) (i : KnowledgeStep) : Decidable (EditsAsPublished chunk s i) := by
  unfold EditsAsPublished
  split
  · have : ∀ id : ℕ, ∀ g : ItemFields → ItemFields, Decidable (match s.items.get? id with
        | some row => AsPublished chunk s id row.publishedVersion (g row.toItemFields)
        | none => True) := fun id g => by
      split <;> infer_instance
    infer_instance
  · infer_instance

/-- the rows that can be served are as they were published. -/
def Served (s : KnowledgeStore) : Prop :=
  ∀ id row, s.items.get? id = some row →
    AsPublished chunk s id row.publishedVersion row.toItemFields

variable {chunk} {s s' : KnowledgeStore} {i : KnowledgeStep} {r : KnowledgeChunk × KnowledgeItem}
  {c : KnowledgeChunk} {row : KnowledgeItem}

lemma served_change (hinv : StoreInv chunk s) (h : Served chunk s) (hi : EditsAsPublished chunk s i)
    (hs : Change chunk s i s') : Served chunk s' := by
  cases hs with
  | kept => exact h
  | created row hfresh hversion =>
    intro id r hr hservable v hv hof
    change (s.items.insert row).get? id = some r at hr
    obtain ⟨r', hr', hrest⟩ := hinv.versions v hv
    have hold : s.items.get? id = some r := by
      rw [hof.1] at hr'
      rw [Table.get?_insert_of_some _ hr'] at hr
      rw [hr', ← hr]
    exact h id r hold hservable v hv hof
  | edited id row g hrow hedits hok =>
    intro j r hr
    change (s.items.set id (row.edit (g row.toItemFields))).get? j = some r at hr
    rw [Table.get?_set] at hr
    split at hr
    · rename_i hj
      rw [hj, hrow] at hr
      cases hr
      unfold EditsAsPublished at hi
      simp only [hedits, hrow] at hi
      rw [hj]
      exact hi hok
    · exact h j r hr
  | published now id row f hrow =>
    intro j r hr hservable v hv hof
    change (s.items.set id (publishedRow now (row.edit f))).get? j = some r at hr
    rw [Table.get?_set] at hr
    split at hr
    · rename_i hj
      rw [hj, hrow] at hr
      cases hr
      rcases List.mem_append.1 hv with hold | hnew
      · obtain ⟨r', hr', hle, -⟩ := hinv.versions v hold
        have hversion : v.version = row.publishedVersion + 1 := hof.2
        rw [hof.1, hj, hrow] at hr'
        cases hr'
        omega
      · rw [List.mem_singleton.1 hnew]
        exact fun text htext => ⟨rfl, rfl, rfl, rfl⟩
    · rename_i hj
      rcases List.mem_append.1 hv with hold | hnew
      · exact h j r hr hservable v hold hof
      · rw [List.mem_singleton.1 hnew] at hof
        exact absurd hof.1.symm hj

lemma served_run {l : List KnowledgeStep}
    (h : Along (knowledgeStep chunk) (EditsAsPublished chunk) .empty l) :
    StoreInv chunk (run (knowledgeStep chunk) .empty l) ∧
      Served chunk (run (knowledgeStep chunk) .empty l) := by
  refine h.invariant (I := fun t => StoreInv chunk t ∧ Served chunk t) ?_
    ⟨storeInv_empty, fun id row hrow => by cases hrow⟩
  intro t j ⟨hinv, hserved⟩ hj
  have hchange : Change chunk t j (knowledgeStep chunk j t) := change_step t j
  exact ⟨storeInv_change hinv hchange, served_change hinv hserved hj hchange⟩

lemma joined_version (hinv : StoreInv chunk s) (hr : r ∈ joinedRows s)
    (hcurrent : r.1.publishedVersion = r.2.publishedVersion) :
    ∃ v ∈ s.versions, v.itemId = r.1.itemId ∧ v.version = r.1.publishedVersion ∧
      s.items.get? r.1.itemId = some r.2 ∧ r.1.itemKey = v.snapshot.itemKey ∧
      r.2.itemKey = v.snapshot.itemKey ∧ r.1.title = v.snapshot.title ∧
      (r.1.chunkText, r.1.chunkIndex) ∈ (textsOfVersion chunk v.snapshot).zipIdx := by
  obtain ⟨c, hc, hjoin⟩ := List.mem_filterMap.1 hr
  obtain ⟨row, hrow, rfl⟩ := Option.map_eq_some_iff.1 hjoin
  obtain ⟨v, hv, hmem, hid, hversion, hkey⟩ := hinv.mem_chunks hc
  obtain ⟨-, -, -, text, htext, rfl⟩ := mem_chunksOf hmem
  obtain ⟨row', hrow', -, hkey', -⟩ := hinv.versions v hv
  have hsame : row' = row := by
    rw [show (chunkOf v.itemId v.snapshot.indexed text).itemId = v.itemId from rfl, hrow'] at hrow
    exact Option.some.inj hrow
  rw [hsame] at hkey'
  exact ⟨v, hv, rfl, hversion.symm, hrow, rfl, hkey'.symm, rfl, htext⟩

lemma servable_of_eligible {q : KnowledgeScope}
    (haudience : PyStr.lower (normalizeScope q.audienceScope "customer") = "customer")
    (h : eligible q c row.toPublishedItem = true) : row.servable = true := by
  obtain ⟨hrow, -⟩ := eligible_iff.1 h
  obtain ⟨hstatus, -, -, -, -, -, hscope, hvisible, hshared, -⟩ := RowScope.eligible_iff.1 hrow
  rw [haudience] at hscope
  unfold ItemFields.servable
  simp only [Bool.and_eq_true, beq_iff_eq, Bool.or_eq_true]
  exact ⟨⟨⟨hstatus, hscope⟩, hvisible⟩, Or.inl hshared⟩

lemma servable_of_exported {now : Instant} {itemKeyPrefix : String}
    (h : exported now itemKeyPrefix c row = true) :
    row.servable = true ∧ c.publishedVersion = row.publishedVersion := by
  unfold exported at h
  simp only [Bool.and_eq_true, beq_iff_eq, List.contains_eq_mem, List.mem_cons, List.not_mem_nil,
    or_false, decide_eq_true_eq, and_assoc] at h
  obtain ⟨hstatus, -, -, hversion, haudience, hvisible, -, hshared, -⟩ := h
  refine ⟨?_, hversion⟩
  unfold ItemFields.servable
  rw [hstatus, haudience, hvisible]
  rcases hshared with hshared | hshared
  · rw [hshared]
    decide +kernel
  · rw [hshared]
    decide +kernel

/-! ## hits and exports -/

variable (chunk) in
structure Recorded {F : Type} (s : KnowledgeStore) (h : KnowledgeHit F) (v : KnowledgeItemVersion) :
    Prop where
  version : v ∈ s.versions ∧ v.itemId = h.itemId ∧ v.version = h.publishedVersion ∧
    v.snapshot.itemKey = h.itemKey
  title : h.title = v.snapshot.title
  text : (h.text, h.chunkIndex) ∈ (textsOfVersion chunk v.snapshot).zipIdx
  directAnswer : ∀ answer, h.directAnswer = some answer → v.snapshot.answer = some answer
  answerMode : h.answerMode = v.snapshot.answerMode

variable (chunk) in
structure RecordedExport (s : KnowledgeStore) (e : RuntimeRagSyncItem) (v : KnowledgeItemVersion) :
    Prop where
  version : v ∈ s.versions ∧ v.version = e.publishedVersion ∧ v.snapshot.itemKey = e.itemKey
  title : e.title = v.snapshot.title
  text : ∃ text, (text, e.chunkIndex) ∈ (textsOfVersion chunk v.snapshot).zipIdx ∧
    e.text = syncText v.snapshot.toItemFields text

variable {F : Type} {m : Matching} {a : Scoring F} {h : KnowledgeHit F}

lemma Recorded.withScore {v : KnowledgeItemVersion} (hh : Recorded chunk s h v) (x : F) :
    Recorded chunk s (h.withScore x) v :=
  ⟨hh.version, hh.title, hh.text, hh.directAnswer, hh.answerMode⟩

lemma recorded_scoreRow (hinv : StoreInv chunk s) (hserved : Served chunk s) (hr : r ∈ joinedRows s)
    (hcurrent : r.1.publishedVersion = r.2.publishedVersion) (hservable : r.2.servable = true)
    (query : String) (vectorScore : Option F) :
    ∃ v, Recorded chunk s (scoreRow m a query vectorScore r.1 r.2.toPublishedItem) v := by
  obtain ⟨v, hv, hid, hversion, hrow, hkey, -, htitle, htext⟩ := joined_version hinv hr hcurrent
  have hof : v.itemId = r.1.itemId ∧ v.version = r.2.publishedVersion :=
    ⟨hid, hversion.trans hcurrent⟩
  have hsame := hserved r.1.itemId r.2 hrow hservable v hv hof r.1.chunkText
    (List.fst_mem_of_mem_zipIdx htext)
  refine ⟨v, ⟨hv, hid, hversion, hkey.symm⟩, htitle, htext, ?_, hsame.answerMode⟩
  intro answer hanswer
  rw [← hsame.answer]
  unfold scoreRow at hanswer
  simp only at hanswer
  split at hanswer
  · exact hanswer
  · cases hanswer

lemma recorded_mergeHit {hits : List (KnowledgeHit F)}
    (hhits : ∀ g ∈ hits, ∃ v, Recorded chunk s g v) (hh : ∃ v, Recorded chunk s h v) :
    ∀ g ∈ mergeHit a hits h, ∃ v, Recorded chunk s g v := by
  intro g hg
  unfold mergeHit at hg
  simp only at hg
  split at hg
  · obtain ⟨g', hg', rfl⟩ := List.mem_map.1 hg
    obtain ⟨v, hv⟩ := hhits g' hg'
    split
    · exact ⟨v, hv.withScore _⟩
    · exact ⟨v, hv⟩
  · rcases List.mem_append.1 hg with hold | hnew
    · exact hhits g hold
    · rw [List.mem_singleton.1 hnew]
      exact hh

lemma recorded_foldl {hits new : List (KnowledgeHit F)}
    (hhits : ∀ g ∈ hits, ∃ v, Recorded chunk s g v) (hnew : ∀ g ∈ new, ∃ v, Recorded chunk s g v) :
    ∀ g ∈ new.foldl (mergeHit a) hits, ∃ v, Recorded chunk s g v := by
  induction new generalizing hits with
  | nil => exact hhits
  | cons h new ih =>
    exact ih (recorded_mergeHit hhits (hnew h (List.mem_cons_self ..)))
      fun g hg => hnew g (List.mem_cons_of_mem _ hg)

lemma recorded_retrieve (hinv : StoreInv chunk s) (hserved : Served chunk s)
    (lexical : Search (KnowledgeChunk × KnowledgeItem))
    (vector : Option (Search (KnowledgeChunk × KnowledgeItem) × (KnowledgeChunk → F)))
    (q : KnowledgeScope) (query : String) (limit : ℤ) :
    ∀ h ∈ retrieveKnowledge m a lexical vector q query limit s, ∃ v, Recorded chunk s h v := by
  intro h hh
  unfold retrieveKnowledge at hh
  simp only at hh
  split at hh
  · cases hh
  · rename_i hasked
    obtain ⟨g, hg, x, rfl⟩ := mem_rankHits hh
    have haudience : normalizeScope q.audienceScope "customer" = "customer" :=
      not_not.1 fun hne => hasked (Or.inl hne)
    -- a row that a search names is eligible, and so of its version and servable
    have hscored : ∀ r ∈ eligibleRows (retrievalScope q) s, ∀ vectorScore : Option F,
        ∃ v, Recorded chunk s
          (scoreRow m a (m.normalize query) vectorScore r.1 r.2.toPublishedItem) v := by
      intro r hr vectorScore
      obtain ⟨hjoined, heligible⟩ := List.mem_filter.1 hr
      have hservable : r.2.servable = true := by
        refine servable_of_eligible ?_ heligible
        show PyStr.lower (normalizeScope (normalizeScope q.audienceScope "customer") "customer") = _
        rw [haudience]
        decide +kernel
      exact recorded_scoreRow hinv hserved hjoined (eligible_iff.1 heligible).2.2.2.2 hservable _ _
    have hlexical : ∀ g ∈ ((lexical.search (eligibleRows (retrievalScope q) s)).map fun r =>
        scoreRow m a (m.normalize query) none r.1 r.2.toPublishedItem).filter
          fun h => a.positive h.score, ∃ v, Recorded chunk s g v := by
      intro g hg
      obtain ⟨r, hr, rfl⟩ := List.mem_map.1 (List.mem_filter.1 hg).1
      exact hscored r (lexical.subset _ hr) none
    cases vector with
    | none =>
      obtain ⟨v, hv⟩ := hlexical g hg
      exact ⟨v, hv.withScore x⟩
    | some vector =>
      obtain ⟨search, similarity⟩ := vector
      obtain ⟨v, hv⟩ := recorded_foldl hlexical (fun g hg => by
        obtain ⟨r, hr, rfl⟩ := List.mem_map.1 hg
        exact hscored r (search.subset _ hr) (some (similarity r.1))) g hg
      exact ⟨v, hv.withScore x⟩

lemma recorded_export (hinv : StoreInv chunk s) (hserved : Served chunk s)
    (order : RowOrder exportKey) (now : Instant) (itemKeyPrefix : String) (includeInternal : Bool)
    (limit : Option ℕ) :
    ∀ e ∈ buildRuntimeRagSyncItems order now itemKeyPrefix includeInternal limit s,
      ∃ v, RecordedExport chunk s e v := by
  intro e he
  unfold buildRuntimeRagSyncItems at he
  obtain ⟨r, hr, rfl⟩ := List.mem_map.1 he
  have hrow : r ∈ (joinedRows s).filter fun r => exported now itemKeyPrefix r.1 r.2 := by
    refine (order.perm _).subset ?_
    have hmem := (List.mem_filter.1 hr).1
    cases limit with
    | none => exact hmem
    | some n =>
      simp only at hmem
      split at hmem
      · exact hmem
      · exact List.mem_of_mem_take hmem
  obtain ⟨hjoined, hexported⟩ := List.mem_filter.1 hrow
  obtain ⟨hservable, hcurrent⟩ := servable_of_exported hexported
  obtain ⟨v, hv, hid, hversion, hget, -, hkey, -, htext⟩ := joined_version hinv hjoined hcurrent
  have hof : v.itemId = r.1.itemId ∧ v.version = r.2.publishedVersion :=
    ⟨hid, hversion.trans hcurrent⟩
  have hsame := hserved r.1.itemId r.2 hget hservable v hv hof r.1.chunkText
    (List.fst_mem_of_mem_zipIdx htext)
  exact ⟨v, ⟨hv, hof.2, hkey.symm⟩, hsame.title, r.1.chunkText, htext, hsame.synced⟩

end Published

/-- **what is served under a version is what the version recorded**, in every history whose edits
in place leave what is served under the last version. -/
theorem published_means_published {F : Type} (chunkDocumentText : String → List String)
    (m : Matching) (a : Scoring F) (lexical : Search (KnowledgeChunk × KnowledgeItem))
    (vector : Option (Search (KnowledgeChunk × KnowledgeItem) × (KnowledgeChunk → F)))
    (order : RowOrder exportKey) (l : List KnowledgeStep)
    (h : Along (knowledgeStep chunkDocumentText) (EditsAsPublished chunkDocumentText) .empty l) :
    (∀ q query limit, ∀ hit ∈ retrieveKnowledge m a lexical vector q query limit
        (run (knowledgeStep chunkDocumentText) .empty l),
      ∃ v, Recorded chunkDocumentText (run (knowledgeStep chunkDocumentText) .empty l) hit v) ∧
    ∀ now itemKeyPrefix includeInternal limit,
      ∀ e ∈ buildRuntimeRagSyncItems order now itemKeyPrefix includeInternal limit
          (run (knowledgeStep chunkDocumentText) .empty l),
        ∃ v, RecordedExport chunkDocumentText
          (run (knowledgeStep chunkDocumentText) .empty l) e v := by
  obtain ⟨hinv, hserved⟩ := served_run h
  exact ⟨recorded_retrieve hinv hserved lexical vector, recorded_export hinv hserved order⟩

/-! ## a fact that is published -/

def insuranceFact (answer : String) : ItemFields :=
  { plainItem "Insurance" "" with
    knowledgeKind := "faq"
    factQuestion := some "what is insurance"
    factAnswer := some answer
    factStatus := "approved"
    answerMode := "direct_answer" }

def publishedFact : List KnowledgeStep :=
  [.create "insurance" (insuranceFact "five"), .publish 1 1]

def newAnswer (answer : String) : KnowledgeStep :=
  .update 1 { ItemPatch.none with factAnswer := some (some answer) } (some "acme")

/-- a database that finds every row, and names them as they were added. -/
def allRows : Search (KnowledgeChunk × KnowledgeItem) := ⟨id, fun rows => List.Subset.refl rows⟩

def exportOrder : RowOrder exportKey := RowOrder.ofFirst _ id fun rows => List.Perm.refl rows

def factHits (l : List KnowledgeStep) : List (KnowledgeHit ℕ) :=
  retrieveKnowledge wordMatching milliScoring allRows none insuranceRequest "insurance" 5
    (run (knowledgeStep shortChunks) .empty l)

def factExports (l : List KnowledgeStep) : List RuntimeRagSyncItem :=
  buildRuntimeRagSyncItems exportOrder 9 "" false none (run (knowledgeStep shortChunks) .empty l)

def answersOf (hits : List (KnowledgeHit ℕ)) : List (ℕ × Option String) :=
  hits.map fun h => (h.publishedVersion, h.directAnswer)

/-- a fact is served with its answer: an edit of its draft text leaves what is served. -/
theorem drafted_fact_as_published :
    (∀ hit ∈ factHits (publishedFact ++ [newBody "seven"]), ∃ v, Recorded shortChunks
      (run (knowledgeStep shortChunks) .empty (publishedFact ++ [newBody "seven"])) hit v) ∧
    answersOf (factHits (publishedFact ++ [newBody "seven"])) = [(1, some "five")] :=
  ⟨(published_means_published shortChunks wordMatching milliScoring allRows none exportOrder
    (publishedFact ++ [newBody "seven"]) (by decide +kernel)).1 _ _ _, by decide +kernel⟩

/-- an edit of the answer that is not published is served and exported under version 1. -/
theorem edited_answer_is_served :
    answersOf (factHits (publishedFact ++ [newAnswer "seven"])) = [(1, some "seven")] ∧
    (factExports (publishedFact ++ [newAnswer "seven"])).map
        (fun e => (e.publishedVersion, e.text)) =
      [(1, "Title: Insurance\n\nKind: faq\n\nQuestion: what is insurance\n\nAnswer: seven")] ∧
    ¬ ∀ hit ∈ factHits (publishedFact ++ [newAnswer "seven"]), ∃ v, Recorded shortChunks
      (run (knowledgeStep shortChunks) .empty (publishedFact ++ [newAnswer "seven"])) hit v := by
  have hserved : answersOf (factHits (publishedFact ++ [newAnswer "seven"])) =
      [(1, some "seven")] := by decide +kernel
  have hrecorded : ∀ v ∈ (run (knowledgeStep shortChunks) .empty
      (publishedFact ++ [newAnswer "seven"])).versions, v.snapshot.answer = some "five" := by
    decide +kernel
  refine ⟨hserved, by decide +kernel, fun hall => ?_⟩
  have hmem : (1, some "seven") ∈ answersOf (factHits (publishedFact ++ [newAnswer "seven"])) := by
    rw [hserved]
    exact List.mem_singleton_self _
  obtain ⟨hit, hhit, heq⟩ := List.mem_map.1 hmem
  obtain ⟨v, hv⟩ := hall hit hhit
  have hanswer : v.snapshot.answer = some "seven" := hv.directAnswer _ (Prod.mk.inj heq).2
  rw [hrecorded v hv.version.1] at hanswer
  exact absurd hanswer (by decide)

end NexusHelpdesk.Knowledge
