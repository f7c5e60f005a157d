import NexusHelpdesk.Knowledge.History

/-!
# A release answers the same

The chunks that a release pins are those of versions that exist when it is accepted. A later
operation only adds chunks of versions that do not exist yet, so the pinned chunks stay as they are
(`pinned_run`), and the answer is a function of them.

Which of two pinned chunks the database names first is open where its `ORDER BY` does not tell them
apart: when one item is pinned in two versions whose chunks have one priority and one index.
-/

namespace NexusHelpdesk.Knowledge

open Lib

variable {chunk : String → List String} {s s' : KnowledgeStore} {i : KnowledgeStep}
  {resolved : List ReleaseKnowledge} {tenantKey : String}

/-! ## the evidence of a release -/

/-- a row of the evidence, as it is read. -/
def ReleaseKnowledge.released (e : ReleaseKnowledge) : ReleaseKnowledge :=
  { e with snapshot := { e.snapshot with status := "active" } }

lemma released_mapM (h : ∀ e ∈ resolved, isSafeKey e.itemKey = true ∧ 0 < e.version) :
    releasedKnowledgeEvidence resolved = .ok (resolved.map ReleaseKnowledge.released) := by
  induction resolved with
  | nil => rfl
  | cons e es ih =>
    obtain ⟨hsafe, hpos⟩ := h e (List.mem_cons_self ..)
    have hkey : PyStr.lower (PyStr.strip e.itemKey) = e.itemKey := clean_safeKey hsafe
    have hne : ¬ (e.itemKey = "" ∨ e.version = 0) := by
      rintro (hempty | hzero)
      · rw [hempty] at hsafe
        exact absurd hsafe (by decide)
      · omega
    have hrest := ih fun e' he' => h e' (List.mem_cons_of_mem _ he')
    unfold releasedKnowledgeEvidence at hrest ⊢
    rw [List.mapM_cons, hrest]
    simp only [hkey, if_neg hne]
    rfl

lemma pinned_released (c : KnowledgeChunk) :
    pinned (resolved.map ReleaseKnowledge.released) c = pinned resolved c := by
  unfold pinned
  rw [List.any_map]
  rfl

/-! ## pinned chunks stay -/

def Known (resolved : List ReleaseKnowledge) (s : KnowledgeStore) : Prop :=
  ∀ e ∈ resolved, ∃ id row, s.items.get? id = some row ∧ row.itemKey = e.itemKey ∧
    e.version ≤ row.publishedVersion

lemma known_of_pins (hs : StoreInv chunk s) (h : ∀ e ∈ resolved, Pins tenantKey s e) :
    Known resolved s := by
  intro e he
  obtain ⟨row, hrow, hkey, -⟩ := (h e he).row
  obtain ⟨v, hv, hid, hversion, -⟩ := (h e he).version
  obtain ⟨row', hrow', hle, -⟩ := hs.versions v hv
  have hsame : row' = row := by
    rw [hid, hrow] at hrow'
    exact (Option.some.inj hrow').symm
  rw [hsame, hversion] at hle
  exact ⟨e.id, row, hrow, hkey, hle⟩

lemma known_change (h : Known resolved s) (hs : Change chunk s i s') : Known resolved s' := by
  intro e he
  obtain ⟨id, row, hrow, hkey, hle⟩ := h e he
  obtain ⟨row', hrow', hkey', hle'⟩ := (itemGrows_change hs).grows id row hrow
  exact ⟨id, row', hrow', hkey'.trans hkey, hle.trans hle'⟩

lemma pinned_change (hinv : StoreInv chunk s) (h : Known resolved s) (hs : Change chunk s i s') :
    s'.chunks.filter (pinned resolved) = s.chunks.filter (pinned resolved) := by
  cases hs with
  | kept => rfl
  | created row hfresh hversion => rfl
  | edited id row g hrow hi hok => rfl
  | published now id row f hrow =>
    have hlt : row.publishedVersion < (publishedRow now (row.edit f)).publishedVersion :=
      Nat.lt_succ_self _
    have hnew : ∀ c ∈ chunksOf chunk id (publishedRow now (row.edit f)),
        ¬ pinned resolved c = true := by
      intro c hc hpinned
      obtain ⟨-, hkey, hversion, -⟩ := mem_chunksOf hc
      obtain ⟨e, he, hsame⟩ := List.any_eq_true.1 hpinned
      simp only [Bool.and_eq_true, beq_iff_eq] at hsame
      obtain ⟨id', row', hrow', hkey', hle⟩ := h e he
      have hrowkey : row'.itemKey = row.itemKey := by
        rw [hkey', hsame.1, hkey]
        rfl
      have hid : id' = id := hinv.keys id' id row' row hrow' hrow hrowkey
      rw [hid, hrow] at hrow'
      cases hrow'
      rw [hsame.2, hversion] at hle
      omega
    show (indexPublishedItem chunk id (publishedRow now (row.edit f)) s.chunks).filter _ = _
    rw [hinv.indexed hrow hlt, List.filter_append, List.filter_eq_nil_iff.2 hnew, List.append_nil]

lemma pinned_run (hinv : StoreInv chunk s) (h : Known resolved s) (l : List KnowledgeStep) :
    (run (knowledgeStep chunk) s l).chunks.filter (pinned resolved) =
      s.chunks.filter (pinned resolved) := by
  have hrun : StoreInv chunk (run (knowledgeStep chunk) s l) ∧
      Known resolved (run (knowledgeStep chunk) s l) ∧
      (run (knowledgeStep chunk) s l).chunks.filter (pinned resolved) =
        s.chunks.filter (pinned resolved) := by
    refine (along_true s l).invariant (I := fun t => StoreInv chunk t ∧ Known resolved t ∧
      t.chunks.filter (pinned resolved) = s.chunks.filter (pinned resolved)) ?_ ⟨hinv, h, rfl⟩
    intro t j ⟨hinvT, hknown, heq⟩ _
    have hchange : Change chunk t j (knowledgeStep chunk j t) := change_step t j
    exact ⟨storeInv_change hinvT hchange, known_change hknown hchange,
      (pinned_change hinvT hknown hchange).trans heq⟩
  exact hrun.2.2

/-- no two pinned chunks tie in the `ORDER BY`. -/
def Untied (resolved : List ReleaseKnowledge) (s : KnowledgeStore) : Prop :=
  ∀ c ∈ s.chunks, ∀ d ∈ s.chunks, pinned resolved c = true → pinned resolved d = true →
    c.rowKey = d.rowKey → c = d

instance (resolved : List ReleaseKnowledge) (s : KnowledgeStore) : Decidable (Untied resolved s) :=
  inferInstanceAs (Decidable (∀ c ∈ s.chunks, ∀ d ∈ s.chunks, _ → _ → _ → _))

lemma RowOrder.eq_of_untied {α κ : Type} [PartialOrder κ] {key : α → κ}
    (order order' : RowOrder key) {rows : List α}
    (h : ∀ x ∈ rows, ∀ y ∈ rows, key x = key y → x = y) :
    order.order rows = order'.order rows := by
  refine List.Perm.eq_of_pairwise ?_ (order.sorted rows) (order'.sorted rows)
    ((order.perm rows).trans (order'.perm rows).symm)
  intro x y hx hy hxy hyx
  exact h x ((order.perm rows).subset hx) y ((order'.perm rows).subset hy) (le_antisymm hxy hyx)

lemma releaseRows_eq {order order' : RowOrder KnowledgeChunk.rowKey}
    (hchunks : s'.chunks.filter (pinned resolved) = s.chunks.filter (pinned resolved))
    (horder : order = order' ∨ Untied resolved s) :
    releaseRows order' resolved s' = releaseRows order resolved s := by
  have hrows : order'.order (s.chunks.filter (pinned resolved)) =
      order.order (s.chunks.filter (pinned resolved)) := by
    rcases horder with rfl | huntied
    · rfl
    · refine RowOrder.eq_of_untied order' order ?_
      intro x hx y hy hkey
      rw [List.mem_filter] at hx hy
      exact huntied x hx.1 y hy.1 hx.2 hy.2 hkey
  unfold releaseRows
  rw [hchunks, hrows]

/-! ## the hits -/

section Hits
variable {F : Type} {m : Matching} {a : Scoring F} {order order' : RowOrder KnowledgeChunk.rowKey}
  {q : KnowledgeScope} {query : String} {limit : ℤ}

lemma releaseCandidates_eq (hsafe : ∀ e ∈ resolved, isSafeKey e.itemKey = true ∧ 0 < e.version)
    (hchunks : s'.chunks.filter (pinned resolved) = s.chunks.filter (pinned resolved))
    (horder : order = order' ∨ Untied resolved s) :
    releaseCandidates order' resolved q s' = releaseCandidates order resolved q s := by
  have hpinned : pinned (resolved.map ReleaseKnowledge.released) = pinned resolved :=
    funext pinned_released
  have huntied : order = order' ∨ Untied (resolved.map ReleaseKnowledge.released) s := by
    unfold Untied
    rw [hpinned]
    exact horder
  have hrows : releaseRows order' (resolved.map ReleaseKnowledge.released) s' =
      releaseRows order (resolved.map ReleaseKnowledge.released) s := by
    refine releaseRows_eq ?_ huntied
    rw [hpinned]
    exact hchunks
  unfold releaseCandidates
  rw [released_mapM hsafe]
  show (if _ then _ else _) = (if _ then _ else _)
  rw [hrows]

lemma mem_releaseCandidates {candidates : List (KnowledgeChunk × PublishedItem)}
    (hsafe : ∀ e ∈ resolved, isSafeKey e.itemKey = true ∧ 0 < e.version)
    (h : releaseCandidates order resolved q s = .ok candidates) {r : KnowledgeChunk × PublishedItem}
    (hr : r ∈ candidates) : r.1 ∈ s.chunks ∧ pinned resolved r.1 = true ∧
      normalizeScope r.1.tenantId "default" = normalizeScope q.tenantId "default" := by
  unfold releaseCandidates at h
  rw [released_mapM hsafe] at h
  obtain ⟨evidence, hevidence, h⟩ := bind_eq_ok.1 h
  cases hevidence
  split at h
  · cases h
    cases hr
  · obtain ⟨rows, hrows, h⟩ := bind_eq_ok.1 h
    cases h
    obtain ⟨c, hc, hcandidate⟩ := List.mem_filterMap.1 hr
    have hmem : c ∈ s.chunks.filter (pinned (resolved.map ReleaseKnowledge.released)) := by
      unfold releaseRows at hrows
      split at hrows
      · cases hrows
      · simp only at hrows
        split at hrows
        · cases hrows
        · cases hrows
          exact (order.perm _).subset (List.mem_of_mem_take hc)
    rw [List.mem_filter, pinned_released] at hmem
    unfold releaseCandidate at hcandidate
    split at hcandidate
    · simp only at hcandidate
      split at hcandidate
      · cases hcandidate
      · rename_i hadmitted
        cases hcandidate
        simp only [Bool.or_eq_true, not_or, Bool.not_eq_true', Bool.not_eq_false] at hadmitted
        obtain ⟨-, hchunk, -⟩ := eligible_iff.1 hadmitted.2
        exact ⟨hmem.1, hmem.2, (RowScope.eligible_iff.1 hchunk).2.1⟩
    · cases hcandidate

lemma retrieve_eq
    (h : releaseCandidates order' resolved q s' = releaseCandidates order resolved q s) :
    retrieveReleasePublishedChunks m a order' resolved q query limit s' =
      retrieveReleasePublishedChunks m a order resolved q query limit s := by
  unfold retrieveReleasePublishedChunks
  rw [h]

def OnlyPinned (resolved : List ReleaseKnowledge) (q : KnowledgeScope) (s : KnowledgeStore)
    (h : KnowledgeHit F) : Prop :=
  (∃ e ∈ resolved, h.itemKey = e.itemKey ∧ h.publishedVersion = e.version) ∧
    ∃ c ∈ s.chunks, h.itemId = c.itemId ∧ h.itemKey = c.itemKey ∧
      h.publishedVersion = c.publishedVersion ∧ h.chunkIndex = c.chunkIndex ∧
      h.text = c.chunkText ∧
      normalizeScope c.tenantId "default" = normalizeScope q.tenantId "default"

lemma retrieve_onlyPinned {hits : List (KnowledgeHit F)}
    (hsafe : ∀ e ∈ resolved, isSafeKey e.itemKey = true ∧ 0 < e.version)
    (h : retrieveReleasePublishedChunks m a order resolved q query limit s = .ok hits) :
    ∀ hit ∈ hits, OnlyPinned resolved q s hit := by
  unfold retrieveReleasePublishedChunks at h
  obtain ⟨candidates, hcandidates, h⟩ := bind_eq_ok.1 h
  cases h
  intro hit hhit
  obtain ⟨g, hg, x, rfl⟩ := mem_rankHits hhit
  obtain ⟨r, hr, rfl⟩ := List.mem_map.1 (List.mem_filter.1 hg).1
  obtain ⟨hmem, hpinned, htenant⟩ := mem_releaseCandidates hsafe hcandidates hr
  obtain ⟨e, he, hsame⟩ := List.any_eq_true.1 hpinned
  simp only [Bool.and_eq_true, beq_iff_eq] at hsame
  exact ⟨⟨e, he, hsame.1.symm, hsame.2.symm⟩, r.1, hmem, rfl, rfl, rfl, rfl, rfl, htenant⟩

end Hits

/-- **a release answers the same after any two histories, and only with what it pins**: where the
database orders the rows of the two requests alike, or no two pinned chunks tie in `ORDER BY`. -/
theorem release_answers_alike {F : Type} (chunkDocumentText : String → List String) (m : Matching)
    (a : Scoring F) (order order' : RowOrder KnowledgeChunk.rowKey)
    (before l l' : List KnowledgeStep) (sections : Except HTTPException (List String))
    (tenantKey : String) (refs : List VersionReference) (resolved : List ReleaseKnowledge)
    (haccepted : validateReleaseManifest sections tenantKey refs
      (run (knowledgeStep chunkDocumentText) .empty before) = .ok resolved)
    (horder : order = order' ∨
      Untied resolved (run (knowledgeStep chunkDocumentText) .empty before))
    (q : KnowledgeScope) (query : String) (limit : ℤ) :
    retrieveReleasePublishedChunks m a order resolved q query limit
        (run (knowledgeStep chunkDocumentText) .empty (before ++ l)) =
      retrieveReleasePublishedChunks m a order' resolved q query limit
        (run (knowledgeStep chunkDocumentText) .empty (before ++ l')) ∧
    ∀ hits, retrieveReleasePublishedChunks m a order resolved q query limit
        (run (knowledgeStep chunkDocumentText) .empty (before ++ l)) = .ok hits →
      ∀ hit ∈ hits, OnlyPinned resolved q
        (run (knowledgeStep chunkDocumentText) .empty (before ++ l)) hit := by
  have hinv : StoreInv chunkDocumentText (run (knowledgeStep chunkDocumentText) .empty before) :=
    storeInv_run storeInv_empty before
  obtain ⟨hpins, -⟩ := validateManifest_ok haccepted
  have hsafe : ∀ e ∈ resolved, isSafeKey e.itemKey = true ∧ 0 < e.version :=
    fun e he => ⟨(hpins e he).safe, (hpins e he).positive⟩
  have hknown := known_of_pins hinv hpins
  -- both histories leave the answer that the release gave when it was accepted
  have hleft : releaseCandidates order resolved q
      (run (knowledgeStep chunkDocumentText) .empty (before ++ l)) =
      releaseCandidates order resolved q
        (run (knowledgeStep chunkDocumentText) .empty before) := by
    rw [run_append]
    exact releaseCandidates_eq hsafe (pinned_run hinv hknown l) (Or.inl rfl)
  have hright : releaseCandidates order' resolved q
      (run (knowledgeStep chunkDocumentText) .empty (before ++ l')) =
      releaseCandidates order resolved q
        (run (knowledgeStep chunkDocumentText) .empty before) := by
    rw [run_append]
    exact releaseCandidates_eq hsafe (pinned_run hinv hknown l') horder
  exact ⟨(retrieve_eq hleft).trans (retrieve_eq hright).symm,
    fun hits h => retrieve_onlyPinned hsafe h⟩

/-! ## a release of one version, and one of two -/

def oldestFirst : RowOrder KnowledgeChunk.rowKey :=
  RowOrder.ofFirst _ id fun rows => List.Perm.refl rows

def newestFirst : RowOrder KnowledgeChunk.rowKey :=
  RowOrder.ofFirst _ List.reverse List.reverse_perm

def twoVersions : List KnowledgeStep :=
  [.create "insurance" (plainItem "Insurance" "insurance costs five"), .publish 1 1,
    newBody "insurance costs seven", .publish 2 1]

def insuranceAnswer (order : RowOrder KnowledgeChunk.rowKey) (resolved : List ReleaseKnowledge)
    (limit : ℤ) (l : List KnowledgeStep) : Except String (List (KnowledgeHit ℕ)) :=
  retrieveReleasePublishedChunks wordMatching milliScoring order resolved insuranceRequest
    "insurance" limit (run (knowledgeStep shortChunks) .empty (twoVersions ++ l))

def insuranceRelease (versions : List ℤ) : Except HTTPException (List ReleaseKnowledge) :=
  validateReleaseManifest (.ok ["knowledge.search"]) "acme" (versions.map (⟨"insurance", ·⟩))
    (run (knowledgeStep shortChunks) .empty twoVersions)

def pinnedRows (versions : List ℤ) : List ReleaseKnowledge :=
  (insuranceRelease versions).toOption.getD []

def textsOf (answer : Except String (List (KnowledgeHit ℕ))) : List (ℕ × String) :=
  (answer.toOption.getD []).map fun h => (h.publishedVersion, h.text)

/-- another version is published, and the item is archived. -/
def laterHistory : List KnowledgeStep :=
  [newBody "insurance is gone", .publish 3 1,
    .update 1 { ItemPatch.none with status := some "archived" } none]

/-- one pinned version: the answer stays, whichever rows the database names first. -/
theorem first_version_stays :
    insuranceAnswer oldestFirst (pinnedRows [1]) 5 [] =
      insuranceAnswer newestFirst (pinnedRows [1]) 5 laterHistory ∧
    textsOf (insuranceAnswer oldestFirst (pinnedRows [1]) 5 []) = [(1, "insurance costs five")] :=
  ⟨(release_answers_alike shortChunks wordMatching milliScoring oldestFirst newestFirst twoVersions
    [] laterHistory (.ok ["knowledge.search"]) "acme" [⟨"insurance", 1⟩] (pinnedRows [1])
    (by decide +kernel) (Or.inr (by decide +kernel)) insuranceRequest "insurance" 5).1,
    by decide +kernel⟩

/-- both versions pinned: the one hit of a request is of the first or of the second version, as the
database names the two rows that tie. -/
theorem tied_versions_differ :
    insuranceRelease [1, 2] = .ok (pinnedRows [1, 2]) ∧
    textsOf (insuranceAnswer oldestFirst (pinnedRows [1, 2]) 1 []) =
      [(1, "insurance costs five")] ∧
    textsOf (insuranceAnswer newestFirst (pinnedRows [1, 2]) 1 laterHistory) =
      [(2, "insurance costs seven")] ∧
    insuranceAnswer oldestFirst (pinnedRows [1, 2]) 1 [] ≠
      insuranceAnswer newestFirst (pinnedRows [1, 2]) 1 laterHistory := by
  have hold : textsOf (insuranceAnswer oldestFirst (pinnedRows [1, 2]) 1 []) =
      [(1, "insurance costs five")] := by decide +kernel
  have hnew : textsOf (insuranceAnswer newestFirst (pinnedRows [1, 2]) 1 laterHistory) =
      [(2, "insurance costs seven")] := by decide +kernel
  refine ⟨by decide +kernel, hold, hnew, fun heq => ?_⟩
  rw [heq, hnew] at hold
  exact absurd hold (by decide)

end NexusHelpdesk.Knowledge
