import NexusHelpdesk.Knowledge.Items

/-!
# Retrieval of knowledge (`knowledge_runtime`, `knowledge_release_retrieval.py`, the export)

* `eligible`: `_eligible`, on a chunk and an item or the projection of a version;
* `scoreRow`: `score_row_guarded`; `rankHits`: fusion, answerability, order and limit;
* `retrieveKnowledge`: hits from the current rows;
* `retrieveReleasePublishedChunks`: hits from the versions that a release pins;
* `buildRuntimeRagSyncItems`: what is exported.

Three things are parameters: `Matching`, the text functions (regular expressions and word lists);
`Scoring`, the floating-point arithmetic of the scores; and what the database answers, as far as SQL
leaves it open (`RowOrder`, `Search`).
-/

namespace NexusHelpdesk.Knowledge

open Lib

/-! ## parameters -/

/-- what `build_term_policy` makes of a query. -/
structure TermPolicy where
  filteredTerms : List String
  countryTerms : List String
  serviceAvailabilityIntent : Bool
deriving DecidableEq, Repr

structure Matching where
  normalize : String → String
  termPolicy : String → TermPolicy
  /-- `normalize_document_text`, the column `normalized_text` of a chunk. -/
  normalizeDocumentText : String → String
  normalizeForMatch : String → String
  termMatches : String → String → Bool
  aliasMatches : List String → String → Bool
  strongPhraseMatch : String → String → Bool
  looksLikeServiceAvailability : String → Bool
  isLiveTrackingIntent : String → Bool

structure Signals (F : Type) where
  structured : Bool
  strongPhrase : Bool
  matchedTerms : List String
  aliasMatch : Bool
  directAnswer : Bool
  vectorScore : Option F
  priority : ℕ

structure Scoring (F : Type) where
  /-- the rounded sum of the breakdown. -/
  score : Signals F → F
  /-- `round(score + 60.0 / (60 + rank), 3)`. -/
  fused : F → ℕ → F
  /-- `round(left.score + right.score, 3)`. -/
  merged : F → F → F
  positive : F → Bool
  /-- at least `MIN_HIGH_RISK_SCORE`. -/
  highEnough : F → Bool
  le : F → F → Bool

/-- an answer of the database to a query with an `ORDER BY`: the rows in an order by their keys;
SQL leaves open how rows with one key follow each other. -/
structure RowOrder {α κ : Type} [LE κ] (key : α → κ) where
  order : List α → List α
  perm : ∀ rows, (order rows).Perm rows
  sorted : ∀ rows, (order rows).Pairwise fun x y => key x ≤ key y

/-- an answer of the database to a search: some of the rows. -/
structure Search (α : Type) where
  search : List α → List α
  subset : ∀ rows, search rows ⊆ rows

/-! ## eligibility -/

structure KnowledgeScope where
  now : Instant
  tenantId : String
  brandId : String
  countryScope : String
  channelScope : String
  marketId : Option ℕ
  channel : Option String
  audienceScope : String
  language : Option String
deriving DecidableEq, Repr

def inWindow (now : Instant) (start stop : Option Instant) : Bool :=
  start.all (· ≤ now) && stop.all (now < ·)

def lowerIs (value default expected : String) : Bool :=
  PyStr.lower (normalizeScope value default) == expected

def admitsChannel (requested value : String) : Bool :=
  let v := PyStr.lower (normalizeScope value "all")
  v == PyStr.lower (normalizeScope requested "all") || v == "all"

/-- an exact channel that admits the requested one; an empty one admits all. -/
def admitsExact (requested : String) (value : Option String) : Bool :=
  !PyStr.truthy value ||
    ([PyStr.lower (PyStr.strip requested), "all"].contains
      (PyStr.lower (PyStr.strip (value.getD ""))))

/-- the scope of a row: what `_eligible` compares for the item and for the chunk alike. -/
structure RowScope where
  status : String
  tenantId : String
  brandId : String
  countryScope : String
  channelScope : String
  channel : Option String
  audienceScope : String
  visibility : String
  shareability : String
  validFrom : Option Instant
  validUntil : Option Instant
  startsAt : Option Instant
  endsAt : Option Instant
  factStatus : String
deriving DecidableEq, Repr

def ItemFields.rowScope (f : ItemFields) : RowScope :=
  ⟨f.status, f.tenantId, f.brandId, f.countryScope, f.channelScope, f.channel, f.audienceScope,
    f.visibility, f.shareability, f.validFrom, f.validUntil, f.startsAt, f.endsAt, f.factStatus⟩

def KnowledgeChunk.rowScope (c : KnowledgeChunk) : RowScope :=
  ⟨c.status, c.tenantId, c.brandId, c.countryScope, c.channelScope, c.channel, c.audienceScope,
    c.visibility, c.shareability, c.validFrom, c.validUntil, c.startsAt, c.endsAt, c.factStatus⟩

def structuredKind (kind : String) : Bool :=
  structuredKinds.contains (PyStr.lower (orDefault kind "document"))

/-- the part of `_eligible` that is asked of the item and of the chunk. -/
def RowScope.eligible (q : KnowledgeScope) (structured : Bool) (r : RowScope) : Bool :=
  PyStr.lower r.status == "active" &&
    normalizeScope r.tenantId "default" == q.tenantId &&
    normalizeScope r.brandId "default" == q.brandId &&
    [normalizeCountryScope q.countryScope, "GLOBAL"].contains
      (normalizeCountryScope r.countryScope) &&
    admitsChannel q.channelScope r.channelScope &&
    (!PyStr.truthy q.channel || admitsExact (q.channel.getD "") r.channel) &&
    lowerIs r.audienceScope "customer" (PyStr.lower (normalizeScope q.audienceScope "customer")) &&
    lowerIs r.visibility "internal" "customer" &&
    lowerIs r.shareability "internal" "customer_visible" &&
    inWindow q.now r.validFrom r.validUntil && inWindow q.now r.startsAt r.endsAt &&
    (!structured || PyStr.lower (orDefault r.factStatus "draft") == "approved")

def eligible (q : KnowledgeScope) (c : KnowledgeChunk) (i : PublishedItem) : Bool :=
  let structured := structuredKind i.knowledgeKind
  i.rowScope.eligible q structured && c.rowScope.eligible q structured &&
    i.publishedVersion != 0 && i.publishedAt.isSome && c.publishedVersion == i.publishedVersion

lemma RowScope.eligible_iff {q : KnowledgeScope} {structured : Bool} {r : RowScope} :
    r.eligible q structured = true ↔ PyStr.lower r.status = "active" ∧
      normalizeScope r.tenantId "default" = q.tenantId ∧
      normalizeScope r.brandId "default" = q.brandId ∧
      normalizeCountryScope r.countryScope ∈ [normalizeCountryScope q.countryScope, "GLOBAL"] ∧
      admitsChannel q.channelScope r.channelScope = true ∧
      (PyStr.truthy q.channel = false ∨ admitsExact (q.channel.getD "") r.channel = true) ∧
      lowerIs r.audienceScope "customer"
        (PyStr.lower (normalizeScope q.audienceScope "customer")) = true ∧
      lowerIs r.visibility "internal" "customer" = true ∧
      lowerIs r.shareability "internal" "customer_visible" = true ∧
      inWindow q.now r.validFrom r.validUntil = true ∧ inWindow q.now r.startsAt r.endsAt = true ∧
      (structured = false ∨ PyStr.lower (orDefault r.factStatus "draft") = "approved") := by
  unfold RowScope.eligible
  simp only [Bool.and_eq_true, beq_iff_eq, and_assoc, Bool.or_eq_true, Bool.not_eq_true',
    List.contains_eq_mem, decide_eq_true_eq]

lemma eligible_iff {q : KnowledgeScope} {c : KnowledgeChunk} {i : PublishedItem} :
    eligible q c i = true ↔ i.rowScope.eligible q (structuredKind i.knowledgeKind) = true ∧
      c.rowScope.eligible q (structuredKind i.knowledgeKind) = true ∧ i.publishedVersion ≠ 0 ∧
      i.publishedAt.isSome = true ∧ c.publishedVersion = i.publishedVersion := by
  unfold eligible
  simp only [Bool.and_eq_true, beq_iff_eq, bne_iff_ne, and_assoc]

/-! ## scores -/

/-- `KnowledgeRuntimeHit`, with the metadata that the ranking reads. -/
structure KnowledgeHit (F : Type) where
  itemId : ℕ
  itemKey : String
  title : String
  publishedVersion : ℕ
  chunkIndex : ℕ
  score : F
  text : String
  signals : Signals F
  directAnswer : Option String
  answerMode : String
  tenantId : String
  countryScope : String
  authorityLevel : String
  riskLevel : String
  priority : ℕ

def ItemFields.answer (f : ItemFields) : Option String :=
  if structuredKinds.contains (orDefault f.knowledgeKind "document") ∧ f.factStatus = "approved" ∧
      orDefault f.answerMode "guided_answer" ∈ ["direct_answer", "guided_answer"] ∧
      filled f.factAnswer then
    some (PyStr.strip (f.factAnswer.getD ""))
  else none

def matchText (m : Matching) (c : KnowledgeChunk) (i : PublishedItem) : String :=
  " ".intercalate [c.title, orDefault (m.normalizeDocumentText c.chunkText) c.chunkText, i.title,
    i.summary.getD "", i.factQuestion.getD "",
    i.factAnswer.getD "", i.itemKey, " ".intercalate i.factAliases]

section Score
variable {F : Type} (m : Matching) (a : Scoring F)

def intentMatches (policy : TermPolicy) (service : Bool) (matched : List String)
    (aliasMatch strongPhrase : Bool) : Bool :=
  let found := !matched.isEmpty || aliasMatch || strongPhrase
  if service then policy.serviceAvailabilityIntent && found else found

def directAnswerEligible (policy : TermPolicy) (service : Bool) (meaningful : ℕ)
    (aliasMatch strongPhrase intent directMode : Bool) (sourceCountry : String) : Bool :=
  if !intent then false
  else if service && !policy.serviceAvailabilityIntent then false
  else if service && policy.serviceAvailabilityIntent && decide (1 ≤ meaningful) &&
      !policy.countryTerms.isEmpty then true
  else if sourceCountry == "GLOBAL" && directMode &&
      !(aliasMatch || strongPhrase || decide (2 ≤ meaningful)) then false
  else strongPhrase || aliasMatch || decide (2 ≤ meaningful)

def scoreRow (query : String) (vectorScore : Option F) (c : KnowledgeChunk) (i : PublishedItem) :
    KnowledgeHit F :=
  let policy := m.termPolicy query
  let text := m.normalizeForMatch (matchText m c i)
  let matched := policy.filteredTerms.filter fun term => m.termMatches term text
  let structured := structuredKinds.contains (orDefault i.knowledgeKind "document") &&
    i.factStatus == "approved"
  let aliasMatch := m.aliasMatches i.factAliases query
  let strongPhrase := m.strongPhraseMatch query text
  let service := m.looksLikeServiceAvailability text
  let intent := intentMatches policy service matched aliasMatch strongPhrase
  let directMode := i.answer.isSome && orDefault i.answerMode "guided_answer" == "direct_answer"
  let country := upper (orDefault c.countryScope (orDefault i.countryScope "GLOBAL"))
  let direct := i.answer.isSome && directAnswerEligible policy service matched.dedup.length
    aliasMatch strongPhrase intent directMode country
  let priority := if c.priority ≠ 0 then c.priority
    else if i.priority ≠ 0 then i.priority else 100
  let signals : Signals F :=
    ⟨structured, strongPhrase, matched, aliasMatch, directMode && direct, vectorScore, priority⟩
  { itemId := c.itemId
    itemKey := c.itemKey
    title := c.title
    publishedVersion := c.publishedVersion
    chunkIndex := c.chunkIndex
    score := a.score signals
    text := c.chunkText
    signals := signals
    directAnswer := if direct then i.answer else none
    answerMode := i.answerMode
    tenantId := orDefault c.tenantId i.tenantId
    countryScope := country
    authorityLevel := orDefault c.authorityLevel (orDefault i.authorityLevel "faq")
    riskLevel := orDefault c.riskLevel (orDefault i.riskLevel "low")
    priority := priority }

/-! ## ranking -/

def KnowledgeHit.withScore (h : KnowledgeHit F) (score : F) : KnowledgeHit F :=
  { h with score := score }

def rrfFuse (hits : List (KnowledgeHit F)) : List (KnowledgeHit F) :=
  (hits.insertionSort fun x y => a.le y.score x.score).zipIdx.map fun h =>
    h.1.withScore (a.fused h.1.score (h.2 + 1))

def explainable (h : KnowledgeHit F) : Bool :=
  !h.signals.matchedTerms.isEmpty || h.signals.strongPhrase || h.signals.aliasMatch

def applyAnswerabilityPolicy (hits : List (KnowledgeHit F)) : List (KnowledgeHit F) :=
  let answerable := hits.filter explainable
  if answerable.any fun h => ["high", "critical"].contains (PyStr.lower h.riskLevel) then
    answerable.filter fun h =>
      ["tool", "official_policy", "policy"].contains h.authorityLevel && a.highEnough h.score
  else answerable

def countryRank (requested : String) (h : KnowledgeHit F) : ℕ :=
  let scope := upper (orDefault h.countryScope "GLOBAL")
  if requested ≠ "GLOBAL" ∧ scope = requested then 0 else if scope = "GLOBAL" then 1 else 2

def authorityRank (h : KnowledgeHit F) : ℕ :=
  match (["tool", "official_policy", "policy", "sop", "faq", "imported"] : List String).idxOf?
      (orDefault h.authorityLevel "faq") with
  | some rank => rank
  | none => 9

/-- the order of the key of the last sort. -/
def rankedBefore (requested : String) (x y : KnowledgeHit F) : Bool :=
  let key (h : KnowledgeHit F) : ℕ × ℕ := (countryRank requested h, authorityRank h)
  let tail (h : KnowledgeHit F) : ℕ × String × ℕ :=
    (if h.priority = 0 then 10000 else h.priority, h.itemKey, h.chunkIndex)
  if toLex (key x) < toLex (key y) then true
  else if toLex (key y) < toLex (key x) then false
  else if !a.le x.score y.score then true
  else if !a.le y.score x.score then false
  else if (tail x).1 ≠ (tail y).1 then decide ((tail x).1 < (tail y).1)
  else if (tail x).2.1 ≠ (tail y).2.1 then decide ((tail x).2.1 < (tail y).2.1)
  else decide ((tail x).2.2 ≤ (tail y).2.2)

def boundedLimit (limit : ℤ) : ℕ := (max 1 (min limit 20)).toNat

/-- fusion, answerability, order and limit. -/
def rankHits (requestedCountry : String) (limit : ℤ) (scored : List (KnowledgeHit F)) :
    List (KnowledgeHit F) :=
  ((applyAnswerabilityPolicy a (rrfFuse a scored)).insertionSort
    fun x y => rankedBefore a requestedCountry x y).take (boundedLimit limit)

lemma mem_rankHits {a : Scoring F} {requestedCountry : String} {limit : ℤ}
    {scored : List (KnowledgeHit F)} {h : KnowledgeHit F}
    (hh : h ∈ rankHits a requestedCountry limit scored) : ∃ g ∈ scored, ∃ x, h = g.withScore x := by
  have hsorted := List.mem_of_mem_take hh
  rw [List.mem_insertionSort] at hsorted
  have hfused : h ∈ rrfFuse a scored := by
    unfold applyAnswerabilityPolicy at hsorted
    simp only at hsorted
    split at hsorted
    · exact (List.mem_filter.1 (List.mem_filter.1 hsorted).1).1
    · exact (List.mem_filter.1 hsorted).1
  obtain ⟨p, hp, rfl⟩ := List.mem_map.1 hfused
  have hmem : p.1 ∈ scored.insertionSort fun x y => a.le y.score x.score :=
    List.fst_mem_of_mem_zipIdx hp
  rw [List.mem_insertionSort] at hmem
  exact ⟨p.1, hmem, _, rfl⟩

/-! ## the current rows -/

def joinedRows (s : KnowledgeStore) : List (KnowledgeChunk × KnowledgeItem) :=
  s.chunks.filterMap fun c => (s.items.get? c.itemId).map fun row => (c, row)

/-- `_merge_hits` into the hits by item, version and chunk. -/
def mergeHit (hits : List (KnowledgeHit F)) (h : KnowledgeHit F) : List (KnowledgeHit F) :=
  let same (g : KnowledgeHit F) : Bool :=
    g.itemId == h.itemId && g.publishedVersion == h.publishedVersion && g.chunkIndex == h.chunkIndex
  if hits.any same then
    hits.map fun g => if same g then g.withScore (a.merged g.score h.score) else g
  else hits ++ [h]

def retrievalScope (q : KnowledgeScope) : KnowledgeScope :=
  { q with
    tenantId := normalizeScope q.tenantId "default"
    brandId := normalizeScope q.brandId "default"
    countryScope := normalizeCountryScope q.countryScope
    channelScope := normalizeScope (orDefault q.channelScope (q.channel.getD "")) "all"
    audienceScope := normalizeScope q.audienceScope "customer" }

def eligibleRows (q : KnowledgeScope) (s : KnowledgeStore) :
    List (KnowledgeChunk × KnowledgeItem) :=
  (joinedRows s).filter fun r => eligible q r.1 r.2.toPublishedItem

/-- `retrieve_knowledge`: the hits of the lexical search, those of the vector search, if there is
one, merged into them. -/
def retrieveKnowledge (lexical : Search (KnowledgeChunk × KnowledgeItem))
    (vector : Option (Search (KnowledgeChunk × KnowledgeItem) × (KnowledgeChunk → F)))
    (q : KnowledgeScope) (query : String) (limit : ℤ) (s : KnowledgeStore) :
    List (KnowledgeHit F) :=
  if (retrievalScope q).audienceScope ≠ "customer" ∨ m.isLiveTrackingIntent query then []
  else
    let normalized := m.normalize query
    let rows := eligibleRows (retrievalScope q) s
    let hits := ((lexical.search rows).map fun r =>
      scoreRow m a normalized none r.1 r.2.toPublishedItem).filter fun h => a.positive h.score
    let hits := match vector with
      | none => hits
      | some (search, similarity) =>
        ((search.search rows).map fun r =>
          scoreRow m a normalized (some (similarity r.1)) r.1 r.2.toPublishedItem).foldl
            (mergeHit a) hits
    rankHits a (retrievalScope q).countryScope limit hits

end Score

/-! ## the rows of a release -/

structure ReleaseKnowledge where
  id : ℕ
  itemKey : String
  version : ℕ
  snapshot : PublishedItem
deriving DecidableEq, Repr

/-- `released_knowledge_evidence`: the recorded status does not count. -/
def releasedKnowledgeEvidence (resolved : List ReleaseKnowledge) :
    Except String (List ReleaseKnowledge) :=
  resolved.mapM fun row =>
    let key := PyStr.lower (PyStr.strip row.itemKey)
    if key = "" ∨ row.version = 0 then .error "agent_release_knowledge_reference_invalid"
    else .ok { row with itemKey := key, snapshot := { row.snapshot with status := "active" } }

def itemProjection (now : Instant) (e : ReleaseKnowledge) : PublishedItem :=
  { e.snapshot with
    itemKey := orDefault e.itemKey e.snapshot.itemKey
    status := orDefault e.snapshot.status "active"
    publishedVersion := e.version
    publishedAt := some (e.snapshot.publishedAt.getD now)
    tenantId := orDefault e.snapshot.tenantId "default"
    brandId := orDefault e.snapshot.brandId "default"
    countryScope := orDefault e.snapshot.countryScope "GLOBAL"
    channelScope := orDefault e.snapshot.channelScope (orDefault (e.snapshot.channel.getD "") "all")
    locale := PyStr.orElse e.snapshot.locale e.snapshot.language
    visibility := orDefault e.snapshot.visibility "customer"
    shareability := orDefault e.snapshot.shareability "customer_visible"
    authorityLevel := orDefault e.snapshot.authorityLevel "faq"
    riskLevel := orDefault e.snapshot.riskLevel "low"
    audienceScope := orDefault e.snapshot.audienceScope "customer"
    priority := if e.snapshot.priority = 0 then 100 else e.snapshot.priority
    knowledgeKind := orDefault e.snapshot.knowledgeKind "document"
    factStatus := orDefault e.snapshot.factStatus "draft"
    answerMode := orDefault e.snapshot.answerMode "guided_answer" }

def languageMatches (actual : Option String) (requested : String) : Bool :=
  let value := PyStr.lower (PyStr.strip (actual.getD ""))
  let expected := PyStr.lower (PyStr.strip requested)
  value == "" || value == "mixed" || value == expected ||
    (expected ++ "-").toList.isPrefixOf value.toList

def maxReleaseKnowledgeItems : ℕ := 200

def maxReleaseKnowledgeChunks : ℕ := 5000

def evidenceOf (evidence : List ReleaseKnowledge) (c : KnowledgeChunk) : Option ReleaseKnowledge :=
  evidence.reverse.find? fun e =>
    e.itemKey == PyStr.lower (PyStr.strip c.itemKey) && e.version == c.publishedVersion

def pinned (evidence : List ReleaseKnowledge) (c : KnowledgeChunk) : Bool :=
  evidence.any fun e => e.itemKey == c.itemKey && e.version == c.publishedVersion

def releaseScope (q : KnowledgeScope) : KnowledgeScope :=
  { q with
    tenantId := normalizeScope q.tenantId "default"
    brandId := normalizeScope q.brandId "default"
    countryScope := orDefault (upper (PyStr.strip (orDefault q.countryScope "GLOBAL"))) "GLOBAL"
    channelScope := normalizeScope (orDefault q.channelScope (orDefault (q.channel.getD "") "all"))
      "all"
    audienceScope := normalizeScope q.audienceScope "customer" }

def releaseCandidate (evidence : List ReleaseKnowledge) (q : KnowledgeScope) (c : KnowledgeChunk) :
    Option (KnowledgeChunk × PublishedItem) :=
  match evidenceOf evidence c with
  | some e =>
    let item := itemProjection q.now e
    if (q.marketId.isSome && c.marketId.isSome && c.marketId != q.marketId) ||
        (PyStr.truthy q.language && !languageMatches c.language (q.language.getD "")) ||
        !eligible q c item then none
    else some (c, item)
  | none => none

/-- the `ORDER BY` of the query for chunks. -/
def KnowledgeChunk.rowKey (c : KnowledgeChunk) : ℕ ×ₗ String ×ₗ ℕ :=
  toLex (c.priority, toLex (c.itemKey, c.chunkIndex))

def releaseRows (order : RowOrder KnowledgeChunk.rowKey) (evidence : List ReleaseKnowledge)
    (s : KnowledgeStore) : Except String (List KnowledgeChunk) :=
  if maxReleaseKnowledgeItems < evidence.length then
    .error "agent_release_knowledge_reference_limit_exceeded"
  else
    let rows :=
      (order.order (s.chunks.filter (pinned evidence))).take (maxReleaseKnowledgeChunks + 1)
    if maxReleaseKnowledgeChunks < rows.length then
      .error "agent_release_knowledge_chunk_limit_exceeded"
    else .ok rows

section Release
variable {F : Type} (m : Matching) (a : Scoring F) (order : RowOrder KnowledgeChunk.rowKey)

def releaseCandidates (resolved : List ReleaseKnowledge) (q : KnowledgeScope) (s : KnowledgeStore) :
    Except String (List (KnowledgeChunk × PublishedItem)) := do
  let evidence ← releasedKnowledgeEvidence resolved
  if evidence.isEmpty then .ok []
  else
    let rows ← releaseRows order evidence s
    .ok (rows.filterMap (releaseCandidate evidence (releaseScope q)))

/-- `retrieve_release_published_chunks` under a release, without embeddings. -/
def retrieveReleasePublishedChunks (resolved : List ReleaseKnowledge) (q : KnowledgeScope)
    (query : String) (limit : ℤ) (s : KnowledgeStore) : Except String (List (KnowledgeHit F)) := do
  let candidates ← releaseCandidates order resolved q s
  let normalized := m.normalize query
  let scored := (candidates.map fun r => scoreRow m a normalized none r.1 r.2).filter fun h =>
    a.positive h.score || (m.termPolicy normalized).filteredTerms.isEmpty
  .ok (rankHits a (releaseScope q).countryScope (if limit = 0 then 5 else limit) scored)

end Release

/-! ## the export -/

structure RuntimeRagSyncItem where
  itemKey : String
  publishedVersion : ℕ
  chunkIndex : ℕ
  title : String
  text : String
deriving DecidableEq, Repr

def syncText (f : ItemFields) (chunkText : String) : String :=
  let parts :=
    if structuredKinds.contains (PyStr.strip f.knowledgeKind) ∧ PyStr.truthy f.factQuestion ∧
        PyStr.truthy f.factAnswer then
      ["Title: " ++ f.title, "Kind: " ++ f.knowledgeKind,
        "Question: " ++ f.factQuestion.getD "",
        " ".intercalate ((f.factAliases.filter fun v => PyStr.strip v ≠ "").map ("Alias: " ++ ·)),
        "Answer: " ++ f.factAnswer.getD ""]
    else
      ["Title: " ++ f.title, "Kind: " ++ orDefault f.knowledgeKind "document", chunkText]
  "\n\n".intercalate (parts.filter (· ≠ ""))

/-- a window with both ends closed, as the export's query has it. -/
def inClosedWindow (now : Instant) (start stop : Option Instant) : Bool :=
  start.all (· ≤ now) && stop.all (now ≤ ·)

/-- the rows that `build_runtime_rag_sync_items` asks for. -/
def exported (now : Instant) (itemKeyPrefix : String) (c : KnowledgeChunk) (i : KnowledgeItem) :
    Bool :=
  i.status == "active" && c.status == "active" && i.publishedVersion != 0 &&
    c.publishedVersion == i.publishedVersion && i.audienceScope == "customer" &&
    i.visibility == "customer" && c.visibility == "customer" &&
    ["customer_visible", "runtime_context"].contains i.shareability &&
    ["customer_visible", "runtime_context"].contains c.shareability &&
    inClosedWindow now i.startsAt i.endsAt && inClosedWindow now i.validFrom i.validUntil &&
    inClosedWindow now c.startsAt c.endsAt && inClosedWindow now c.validFrom c.validUntil &&
    itemKeyPrefix.toList.isPrefixOf i.itemKey.toList

def syncItem (c : KnowledgeChunk) (i : KnowledgeItem) : RuntimeRagSyncItem :=
  ⟨i.itemKey, i.publishedVersion, c.chunkIndex, i.title, syncText i.toItemFields c.chunkText⟩

/-- the `ORDER BY` of the query for the export. -/
def exportKey (r : KnowledgeChunk × KnowledgeItem) : ℕ ×ₗ String ×ₗ ℕ :=
  toLex (r.2.priority, toLex (r.2.itemKey, r.1.chunkIndex))

def buildRuntimeRagSyncItems (order : RowOrder exportKey) (now : Instant)
    (itemKeyPrefix : String) (includeInternal : Bool) (limit : Option ℕ) (s : KnowledgeStore) :
    List RuntimeRagSyncItem :=
  let rows := order.order ((joinedRows s).filter fun r => exported now itemKeyPrefix r.1 r.2)
  let rows := match limit with
    | some n => if n = 0 then rows else rows.take n
    | none => rows
  (rows.filter fun r => includeInternal || r.2.customerVisible != some false).map fun r =>
    syncItem r.1 r.2

/-! ## the parameters for plain words -/

/-- an answer of the database that names the rows of one key in the order of `first`. -/
def RowOrder.ofFirst {α κ : Type} [LinearOrder κ] (key : α → κ) (first : List α → List α)
    (hfirst : ∀ rows, (first rows).Perm rows) : RowOrder key where
  order rows := (first rows).insertionSort fun x y => key x ≤ key y
  perm rows := (List.perm_insertionSort _ _).trans (hfirst rows)
  sorted rows := by
    have : Std.Total fun x y : α => key x ≤ key y := ⟨fun x y => le_total (key x) (key y)⟩
    have : IsTrans α fun x y => key x ≤ key y := ⟨fun x y z hxy hyz => le_trans hxy hyz⟩
    exact List.pairwise_insertionSort _ _

def within (part text : String) : Bool := text.toList.tails.any (part.toList.isPrefixOf ·)

/-- the text functions on a query of one word that is no stopword, and texts of plain words. -/
def wordMatching : Matching where
  normalize := PyStr.lower
  termPolicy query := ⟨[query], [], false⟩
  normalizeDocumentText := id
  normalizeForMatch := PyStr.lower
  termMatches := within
  aliasMatches aliases query := (aliases.map PyStr.lower).any fun phrase =>
    decide (3 ≤ phrase.length) && (within phrase query || within query phrase)
  strongPhraseMatch query text := decide (8 ≤ query.length) && within query text
  looksLikeServiceAvailability text := within "service" text && within "available" text
  isLiveTrackingIntent _ := false

/-- the scores in thousandths, without embeddings. -/
def milliScoring : Scoring ℕ where
  score signals :=
    let lexical := !signals.matchedTerms.isEmpty || signals.aliasMatch || signals.strongPhrase
    (if signals.structured && lexical then 18000 else 0) +
      (if signals.strongPhrase then 20000 else 0) + min 42000 (5000 * signals.matchedTerms.length) +
      (if signals.aliasMatch then 12000 else 0) + (if signals.directAnswer then 14000 else 0) +
      (if lexical then 6000 - 10 * min signals.priority 600 else 0)
  fused score rank := score + (120000 + 60 + rank) / (2 * (60 + rank))
  merged x y := x + y
  positive score := decide (0 < score)
  highEnough score := decide (18000 ≤ score)
  le x y := decide (x ≤ y)

def shortChunks (text : String) : List String := if text = "" then [] else [text]

/-- an item as it is created with the defaults of the form. -/
def plainItem (title body : String) : ItemFields where
  title := title
  summary := none
  status := "active"
  sourceType := "text"
  knowledgeKind := "document"
  tenantId := "acme"
  brandId := "default"
  countryScope := "GLOBAL"
  channelScope := "all"
  locale := none
  visibility := "customer"
  shareability := "customer_visible"
  authorityLevel := "faq"
  riskLevel := "low"
  reviewDueAt := none
  validFrom := none
  validUntil := none
  marketId := none
  channel := none
  audienceScope := "customer"
  language := none
  priority := 100
  startsAt := none
  endsAt := none
  factQuestion := none
  factAnswer := none
  factAliases := []
  factStatus := "draft"
  answerMode := "guided_answer"
  customerVisible := none
  draftBody := some body
  draftNormalizedText := some body

def newBody (body : String) : KnowledgeStep :=
  .update 1 { ItemPatch.none with draftBody := some (some body) } (some "acme")

/-- a customer of the tenant asks. -/
def insuranceRequest : KnowledgeScope where
  now := 9
  tenantId := "acme"
  brandId := "default"
  countryScope := "GLOBAL"
  channelScope := "all"
  marketId := none
  channel := none
  audienceScope := "customer"
  language := none

end NexusHelpdesk.Knowledge
