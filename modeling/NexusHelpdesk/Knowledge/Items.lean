import NexusHelpdesk.Desk.Basic
import NexusHelpdesk.Lib.Run
import NexusHelpdesk.Lib.Table

/-!
# Knowledge items, their versions and their chunks (`knowledge_service.py`)

An item is a row that is edited in place; publishing it records the row as the next version and
copies its text into chunks, which carry the version.

* `ItemFields`: the columns that a version records; `PublishedItem`: with the key and the version;
  `KnowledgeItem`: the row; `KnowledgeItemVersion`, `KnowledgeChunk`: the other tables;
* `createItem`, `updateItem`, `uploadDocument`, `publishItem`, `rollbackItem`: the operations;
  `indexPublishedItem`: the chunks of a version;
* `KnowledgeStep`, `knowledgeStep`: a history; a refused operation changes nothing.

The splitting of a document into chunks is a parameter, and so is what an upload finds in its file.
-/

namespace NexusHelpdesk.Knowledge

open Lib

/-! ## rows -/

/-- the columns that `_snapshot` copies. -/
structure ItemFields where
  title : String
  summary : Option String
  status : String
  sourceType : String
  knowledgeKind : String
  tenantId : String
  brandId : String
  countryScope : String
  channelScope : String
  locale : Option String
  visibility : String
  shareability : String
  authorityLevel : String
  riskLevel : String
  reviewDueAt : Option Instant
  validFrom : Option Instant
  validUntil : Option Instant
  marketId : Option ℕ
  channel : Option String
  audienceScope : String
  language : Option String
  priority : ℕ
  startsAt : Option Instant
  endsAt : Option Instant
  sourceUrl : Option String := none
  fileName : Option String := none
  fileStorageKey : Option String := none
  mimeType : Option String := none
  fileSize : Option ℕ := none
  parsingStatus : String := "unparsed"
  parsingError : Option String := none
  factQuestion : Option String
  factAnswer : Option String
  factAliases : List String
  factStatus : String
  answerMode : String
  /-- `citation_metadata_json["customer_visible"]`. -/
  customerVisible : Option Bool
  /-- `citation_metadata_json["document_extraction"]`, and the text of the other entries. -/
  documentExtraction : Option String := none
  citation : String := ""
  draftBody : Option String
  draftNormalizedText : Option String
deriving DecidableEq, Repr

/-- a version of an item, as `_snapshot` records it. -/
structure PublishedItem extends ItemFields where
  itemKey : String
  publishedVersion : ℕ
  publishedAt : Option Instant
deriving DecidableEq, Repr

structure KnowledgeItem extends PublishedItem where
  publishedBody : Option String
  publishedNormalizedText : Option String
deriving DecidableEq, Repr

structure KnowledgeItemVersion where
  itemId : ℕ
  version : ℕ
  snapshot : PublishedItem
deriving DecidableEq, Repr

structure KnowledgeChunk where
  itemId : ℕ
  itemKey : String
  title : String
  publishedVersion : ℕ
  chunkIndex : ℕ
  chunkText : String
  tenantId : String
  brandId : String
  countryScope : String
  channelScope : String
  locale : Option String
  visibility : String
  shareability : String
  authorityLevel : String
  riskLevel : String
  reviewDueAt : Option Instant
  validFrom : Option Instant
  validUntil : Option Instant
  marketId : Option ℕ
  channel : Option String
  audienceScope : String
  language : Option String
  startsAt : Option Instant
  endsAt : Option Instant
  status : String
  priority : ℕ
  knowledgeKind : String
  factStatus : String
  answerMode : String
  fileName : Option String
  factQuestion : Option String
  factAnswer : Option String
  factAliases : List String
  customerVisible : Option Bool
  documentExtraction : Option String
  citation : String
  sourceDocumentId : String
deriving DecidableEq, Repr

structure KnowledgeStore where
  items : Table KnowledgeItem
  versions : List KnowledgeItemVersion
  chunks : List KnowledgeChunk

def KnowledgeStore.empty : KnowledgeStore := ⟨.empty, [], []⟩

/-! ## texts -/

def orDefault (value default : String) : String := if value = "" then default else value

def cleanOptionalText (value : Option String) : Option String :=
  (value.map PyStr.strip).filter (· ≠ "")

/-- `_normalize_scope` and `_scope_value`. -/
def normalizeScope (value default : String) : String := orDefault (PyStr.strip value) default

/-- `str.upper()` for texts that are compared with ASCII words. -/
def upper (s : String) : String := String.ofList (s.toList.map Char.toUpper)

def clip (n : ℕ) (s : String) : String := String.ofList (s.toList.take n)

/-- `_normalize_country_scope` and `_country_scope`. -/
def normalizeCountryScope (value : String) : String :=
  let cleaned := upper (normalizeScope value "GLOBAL")
  if cleaned ∈ ["*", "ALL", "ANY"] then "GLOBAL" else clip 16 cleaned

def structuredKinds : List String := ["faq", "business_fact"]

def normalizeAuthorityLevel (value knowledgeKind factStatus : String) : String :=
  let cleaned := normalizeScope value "faq"
  if cleaned = "faq" ∧ factStatus = "approved" ∧ knowledgeKind ∈ ["business_fact", "policy"] then
    "official_policy"
  else if cleaned = "faq" ∧ knowledgeKind = "sop" then "sop"
  else cleaned

/-- the values of `_validate_shape` with their detail texts. -/
def shapeChecks (f : ItemFields) : List (String × List String × String) :=
  [(f.status, ["draft", "active", "archived"], "Unsupported knowledge status"),
    (f.sourceType, ["text", "url", "file"], "Unsupported knowledge source_type"),
    (f.knowledgeKind, ["document", "faq", "business_fact", "policy", "sop"],
      "Unsupported knowledge_kind"),
    (f.factStatus, ["draft", "approved", "archived"], "Unsupported fact_status"),
    (f.answerMode, ["direct_answer", "guided_answer", "handoff_only"], "Unsupported answer_mode"),
    (f.visibility, ["customer", "internal"], "Unsupported visibility"),
    (f.shareability, ["customer_visible", "internal_only", "runtime_context"],
      "Unsupported shareability"),
    (f.authorityLevel, ["tool", "official_policy", "policy", "sop", "faq", "imported"],
      "Unsupported authority_level"),
    (f.riskLevel, ["low", "medium", "high"], "Unsupported risk_level")]

def validateShape (f : ItemFields) : Except HTTPException Unit :=
  match (shapeChecks f).find? fun c => !c.2.1.contains c.1 with
  | some c => .error ⟨400, c.2.2⟩
  | none => .ok ()

def itemNotFound : HTTPException := ⟨404, "Knowledge item not found"⟩

/-! ## create, update, upload -/

def createdFields (f : ItemFields) : ItemFields :=
  { f with
    tenantId := normalizeScope f.tenantId "default"
    brandId := normalizeScope f.brandId "default"
    countryScope := normalizeCountryScope f.countryScope
    channelScope := normalizeScope f.channelScope "all"
    locale := cleanOptionalText f.locale
    visibility := normalizeScope f.visibility "customer"
    shareability := normalizeScope f.shareability "customer_visible"
    authorityLevel := normalizeAuthorityLevel f.authorityLevel f.knowledgeKind f.factStatus
    riskLevel := normalizeScope f.riskLevel "low"
    parsingStatus := "unparsed"
    parsingError := none
    draftNormalizedText := PyStr.orElse f.draftNormalizedText f.draftBody }

def createItem (itemKey : String) (f : ItemFields) (s : KnowledgeStore) :
    Except HTTPException KnowledgeStore := do
  validateShape f
  let key := PyStr.lower (PyStr.strip itemKey)
  if s.items.rows.any fun r => r.2.itemKey == key then
    .error ⟨409, "item_key already exists"⟩
  else
    .ok { s with
      items := s.items.insert {
        toItemFields := createdFields f
        itemKey := key
        publishedVersion := 0
        publishedAt := none
        publishedBody := none
        publishedNormalizedText := none } }

/-- the fields that a request sets; the tenant and the columns of the backend are never among them,
and a null for a column that takes none is refused by the database. -/
structure ItemPatch where
  title : Option String
  summary : Option (Option String)
  status : Option String
  sourceType : Option String
  knowledgeKind : Option String
  brandId : Option String
  countryScope : Option String
  channelScope : Option String
  locale : Option (Option String)
  visibility : Option String
  shareability : Option String
  authorityLevel : Option String
  riskLevel : Option String
  reviewDueAt : Option (Option Instant)
  validFrom : Option (Option Instant)
  validUntil : Option (Option Instant)
  marketId : Option (Option ℕ)
  channel : Option (Option String)
  audienceScope : Option String
  language : Option (Option String)
  priority : Option ℕ
  startsAt : Option (Option Instant)
  endsAt : Option (Option Instant)
  sourceUrl : Option (Option String)
  fileName : Option (Option String)
  fileStorageKey : Option (Option String)
  mimeType : Option (Option String)
  fileSize : Option (Option ℕ)
  factQuestion : Option (Option String)
  factAnswer : Option (Option String)
  factAliases : Option (List String)
  factStatus : Option String
  answerMode : Option String
  customerVisible : Option (Option Bool)
  documentExtraction : Option (Option String)
  citation : Option String
  draftBody : Option (Option String)
  draftNormalizedText : Option (Option String)
deriving DecidableEq, Repr

/-- a request that sets nothing. -/
def ItemPatch.none : ItemPatch :=
  ⟨.none, .none, .none, .none, .none, .none, .none, .none, .none, .none, .none, .none, .none,
    .none, .none, .none, .none, .none, .none, .none, .none, .none, .none, .none, .none, .none,
    .none, .none, .none, .none, .none, .none, .none, .none, .none, .none, .none, .none⟩

/-- the fields that `_validate_shape` looks at in an update: the request's, else the row's. -/
def ItemPatch.shaped (p : ItemPatch) (f : ItemFields) : ItemFields :=
  { f with
    status := p.status.getD f.status
    sourceType := p.sourceType.getD f.sourceType
    knowledgeKind := p.knowledgeKind.getD f.knowledgeKind
    factStatus := p.factStatus.getD f.factStatus
    answerMode := p.answerMode.getD f.answerMode
    visibility := p.visibility.getD f.visibility
    shareability := p.shareability.getD f.shareability
    authorityLevel := p.authorityLevel.getD f.authorityLevel
    riskLevel := p.riskLevel.getD f.riskLevel }

def ItemPatch.apply (p : ItemPatch) (f : ItemFields) : ItemFields :=
  { p.shaped f with
    title := p.title.getD f.title
    summary := p.summary.getD f.summary
    brandId := (p.brandId.map (normalizeScope · "default")).getD f.brandId
    countryScope := (p.countryScope.map normalizeCountryScope).getD f.countryScope
    channelScope := (p.channelScope.map (normalizeScope · "all")).getD f.channelScope
    locale := (p.locale.map cleanOptionalText).getD f.locale
    visibility := (p.visibility.map (normalizeScope · "customer")).getD f.visibility
    shareability := (p.shareability.map (normalizeScope · "customer_visible")).getD f.shareability
    authorityLevel := (p.authorityLevel.map fun level => normalizeAuthorityLevel level
      (p.shaped f).knowledgeKind (p.shaped f).factStatus).getD f.authorityLevel
    riskLevel := (p.riskLevel.map (normalizeScope · "low")).getD f.riskLevel
    reviewDueAt := p.reviewDueAt.getD f.reviewDueAt
    validFrom := p.validFrom.getD f.validFrom
    validUntil := p.validUntil.getD f.validUntil
    marketId := p.marketId.getD f.marketId
    channel := p.channel.getD f.channel
    audienceScope := p.audienceScope.getD f.audienceScope
    language := p.language.getD f.language
    priority := p.priority.getD f.priority
    startsAt := p.startsAt.getD f.startsAt
    endsAt := p.endsAt.getD f.endsAt
    sourceUrl := p.sourceUrl.getD f.sourceUrl
    fileName := p.fileName.getD f.fileName
    fileStorageKey := p.fileStorageKey.getD f.fileStorageKey
    mimeType := p.mimeType.getD f.mimeType
    fileSize := p.fileSize.getD f.fileSize
    factQuestion := p.factQuestion.getD f.factQuestion
    factAnswer := p.factAnswer.getD f.factAnswer
    factAliases := p.factAliases.getD f.factAliases
    customerVisible := p.customerVisible.getD f.customerVisible
    documentExtraction := p.documentExtraction.getD f.documentExtraction
    citation := p.citation.getD f.citation
    draftBody := p.draftBody.getD f.draftBody
    draftNormalizedText := match p.draftNormalizedText.join, p.draftBody with
      | .none, some body => body
      | _, _ => p.draftNormalizedText.getD f.draftNormalizedText }

def KnowledgeItem.ofTenant (row : KnowledgeItem) (tenantId : Option String) : Prop :=
  tenantId = none ∨ tenantId = some row.tenantId

instance (row : KnowledgeItem) (tenantId : Option String) : Decidable (row.ofTenant tenantId) :=
  inferInstanceAs (Decidable (_ ∨ _))

def KnowledgeItem.edit (row : KnowledgeItem) (f : ItemFields) : KnowledgeItem :=
  { row with toItemFields := f }

def updateItem (id : ℕ) (p : ItemPatch) (tenantId : Option String) (s : KnowledgeStore) :
    Except HTTPException KnowledgeStore :=
  match s.items.get? id with
  | some row =>
    if row.ofTenant tenantId then do
      validateShape (p.shaped row.toItemFields)
      .ok { s with items := s.items.set id (row.edit (p.apply row.toItemFields)) }
    else .error itemNotFound
  | none => .error itemNotFound

/-- what an upload finds in its file: the texts, and what `extract_knowledge_candidate`,
`_suggest_summary` and `_detect_text_language` make of them. -/
structure Upload where
  filename : String
  storedName : String
  storageKey : String
  mimeType : Option String
  fileSize : ℕ
  parsedBody : String
  normalizedText : String
  suggestedSummary : Option String
  detectedLanguage : Option String
  /-- a confidence of 0.7 and the kind `business_fact`. -/
  isFact : Bool
  title : Option String
  summary : Option String
  factQuestion : Option String
  factAnswer : Option String
  factAliases : List String
  answerMode : String
  /-- what `_apply_document_extraction` notes in `citation_metadata_json`. -/
  documentExtraction : String
deriving DecidableEq, Repr

/-- one value of `_merge_aliases`; an alias is known by its lower case. -/
def mergeAlias (merged : List String) (value : String) : List String :=
  let cleaned := PyStr.strip value
  if cleaned = "" ∨ PyStr.lower cleaned ∈ merged.map PyStr.lower ∨ 50 ≤ merged.length then merged
  else merged ++ [cleaned]

def mergeAliases (existing suggested : List String) : List String :=
  (existing ++ suggested).foldl mergeAlias []

/-- `_apply_document_extraction`. -/
def Upload.extracted (u : Upload) (f : ItemFields) : ItemFields :=
  if u.isFact then
    { f with
      title := if PyStr.truthy u.title ∧ (f.title = "" ∨ f.title = orDefault u.filename f.title)
        then clip 200 (u.title.getD "") else f.title
      summary := if PyStr.truthy u.summary ∧ ¬ PyStr.truthy f.summary
        then u.summary.map (clip 4000) else f.summary
      knowledgeKind := "business_fact"
      factQuestion := PyStr.orElse f.factQuestion u.factQuestion
      factAnswer := PyStr.orElse f.factAnswer u.factAnswer
      factAliases := mergeAliases f.factAliases u.factAliases
      factStatus := "draft"
      answerMode := orDefault u.answerMode "guided_answer"
      documentExtraction := some u.documentExtraction }
  else { f with documentExtraction := f.documentExtraction.or (some u.documentExtraction) }

def Upload.apply (u : Upload) (f : ItemFields) : ItemFields :=
  let g := u.extracted { f with
    sourceType := "file"
    fileName := some u.storedName
    fileStorageKey := some u.storageKey
    mimeType := u.mimeType
    fileSize := some u.fileSize
    draftBody := some u.parsedBody
    draftNormalizedText := some u.normalizedText }
  { g with
    summary := if PyStr.truthy g.summary then g.summary else u.suggestedSummary
    language := if PyStr.truthy g.language then g.language else u.detectedLanguage
    parsingStatus := "parsed"
    parsingError := none }

def uploadDocument (id : ℕ) (u : Upload) (s : KnowledgeStore) :
    Except HTTPException KnowledgeStore :=
  match s.items.get? id with
  | some row => .ok { s with items := s.items.set id (row.edit (u.apply row.toItemFields)) }
  | none => .error itemNotFound

/-! ## publish and roll back -/

def filled (value : Option String) : Bool := PyStr.strip (value.getD "") != ""

def hasDraftContent (f : ItemFields) : Bool :=
  filled f.draftBody || filled f.draftNormalizedText ||
    (structuredKinds.contains f.knowledgeKind && filled f.factQuestion && filled f.factAnswer)

/-- `_structured_source_text`: the question, the aliases and the answer that are filled. -/
def structuredSourceText (f : ItemFields) : String :=
  let part (label value : String) : List String :=
    if PyStr.strip value = "" then [] else [label ++ ": " ++ PyStr.strip value]
  "\n".intercalate (part "Question" (f.factQuestion.getD "") ++
    f.factAliases.flatMap (part "Alias") ++ part "Answer" (f.factAnswer.getD ""))

def publishedSourceText (f : ItemFields) : String :=
  if structuredKinds.contains f.knowledgeKind ∧
      (PyStr.truthy f.factQuestion ∨ PyStr.truthy f.factAnswer) then
    structuredSourceText f
  else (PyStr.orElse f.draftBody (PyStr.orElse f.draftNormalizedText (some ""))).getD ""

def publishedBodyOf (f : ItemFields) : Option String :=
  PyStr.orElse f.draftBody (some (publishedSourceText f))

def publishedTextOf (f : ItemFields) : Option String :=
  PyStr.orElse f.draftNormalizedText (some (publishedSourceText f))

def indexSourceText (row : KnowledgeItem) : String :=
  if structuredKinds.contains (orDefault row.knowledgeKind "document") ∧
      (filled row.factQuestion ∨ filled row.factAnswer) then
    structuredSourceText row.toItemFields
  else
    (PyStr.orElse row.publishedNormalizedText
      (PyStr.orElse row.publishedBody (some ""))).getD ""

def chunkOf (id : ℕ) (row : KnowledgeItem) (text : String × ℕ) : KnowledgeChunk where
  itemId := id
  itemKey := row.itemKey
  title := row.title
  publishedVersion := row.publishedVersion
  chunkIndex := text.2
  chunkText := text.1
  tenantId := orDefault row.tenantId "default"
  brandId := orDefault row.brandId "default"
  countryScope := upper (orDefault row.countryScope "GLOBAL")
  channelScope := orDefault row.channelScope (orDefault (row.channel.getD "") "all")
  locale := PyStr.orElse row.locale row.language
  visibility := orDefault row.visibility "customer"
  shareability := orDefault row.shareability "customer_visible"
  authorityLevel := orDefault row.authorityLevel "faq"
  riskLevel := orDefault row.riskLevel "low"
  reviewDueAt := row.reviewDueAt
  validFrom := row.validFrom.or row.startsAt
  validUntil := row.validUntil.or row.endsAt
  marketId := row.marketId
  channel := row.channel
  audienceScope := row.audienceScope
  language := row.language
  startsAt := row.startsAt
  endsAt := row.endsAt
  status := row.status
  priority := row.priority
  knowledgeKind := orDefault row.knowledgeKind "document"
  factStatus := orDefault row.factStatus "draft"
  answerMode := orDefault row.answerMode "guided_answer"
  fileName := row.fileName
  factQuestion := row.factQuestion
  factAnswer := row.factAnswer
  factAliases := row.factAliases
  customerVisible := row.customerVisible
  documentExtraction := row.documentExtraction
  citation := row.citation
  sourceDocumentId := (PyStr.orElse row.fileStorageKey (some row.itemKey)).getD ""

section Publish
variable (chunkDocumentText : String → List String)

def chunksOf (id : ℕ) (row : KnowledgeItem) : List KnowledgeChunk :=
  ((chunkDocumentText (indexSourceText row)).zipIdx).map (chunkOf id row)

def KnowledgeChunk.ofVersion (id version : ℕ) (c : KnowledgeChunk) : Bool :=
  c.itemId == id && c.publishedVersion == version

def indexPublishedItem (id : ℕ) (row : KnowledgeItem) (chunks : List KnowledgeChunk) :
    List KnowledgeChunk :=
  chunks.filter (fun c => !c.ofVersion id row.publishedVersion) ++
    chunksOf chunkDocumentText id row

def publishedRow (now : Instant) (row : KnowledgeItem) : KnowledgeItem :=
  { row with
    publishedBody := publishedBodyOf row.toItemFields
    publishedNormalizedText := publishedTextOf row.toItemFields
    publishedVersion := row.publishedVersion + 1
    publishedAt := some now
    status := if row.status = "draft" then "active" else row.status }

/-- `_snapshot`: the row before its status changes. -/
def snapshotOf (now : Instant) (row : KnowledgeItem) : PublishedItem :=
  { row.toPublishedItem with
    publishedVersion := row.publishedVersion + 1
    publishedAt := some now }

def publishRow (now : Instant) (id : ℕ) (row : KnowledgeItem) (s : KnowledgeStore) :
    Except HTTPException KnowledgeStore :=
  if hasDraftContent row.toItemFields then
    .ok {
      items := s.items.set id (publishedRow now row)
      versions := s.versions ++ [⟨id, row.publishedVersion + 1, snapshotOf now row⟩]
      chunks := indexPublishedItem chunkDocumentText id (publishedRow now row) s.chunks }
  else .error ⟨400, "Draft knowledge content is empty"⟩

def publishItem (now : Instant) (id : ℕ) (s : KnowledgeStore) :
    Except HTTPException KnowledgeStore :=
  match s.items.get? id with
  | some row => publishRow chunkDocumentText now id row s
  | none => .error itemNotFound

/-- the fields that a rollback takes from a version, all but `starts_at` and `ends_at`. -/
def rolledBack (f : ItemFields) (tenantId : Option String) (v : PublishedItem) : ItemFields where
  title := orDefault v.title f.title
  summary := v.summary
  status := orDefault v.status f.status
  sourceType := orDefault v.sourceType f.sourceType
  knowledgeKind := orDefault v.knowledgeKind f.knowledgeKind
  tenantId := tenantId.getD (orDefault v.tenantId (orDefault f.tenantId "default"))
  brandId := orDefault v.brandId (orDefault f.brandId "default")
  countryScope := normalizeCountryScope (orDefault v.countryScope f.countryScope)
  channelScope := orDefault v.channelScope (orDefault f.channelScope "all")
  locale := v.locale
  visibility := orDefault v.visibility (orDefault f.visibility "customer")
  shareability := orDefault v.shareability (orDefault f.shareability "customer_visible")
  authorityLevel := orDefault v.authorityLevel (orDefault f.authorityLevel "faq")
  riskLevel := orDefault v.riskLevel (orDefault f.riskLevel "low")
  reviewDueAt := v.reviewDueAt
  validFrom := v.validFrom
  validUntil := v.validUntil
  marketId := v.marketId
  channel := v.channel
  audienceScope := orDefault v.audienceScope f.audienceScope
  language := v.language
  priority := if v.priority = 0 then f.priority else v.priority
  startsAt := f.startsAt
  endsAt := f.endsAt
  sourceUrl := v.sourceUrl
  fileName := v.fileName
  fileStorageKey := v.fileStorageKey
  mimeType := v.mimeType
  fileSize := v.fileSize
  parsingStatus := orDefault v.parsingStatus f.parsingStatus
  parsingError := v.parsingError
  factQuestion := v.factQuestion
  factAnswer := v.factAnswer
  factAliases := v.factAliases
  factStatus := orDefault v.factStatus f.factStatus
  answerMode := orDefault v.answerMode f.answerMode
  customerVisible := v.customerVisible
  documentExtraction := v.documentExtraction
  citation := v.citation
  draftBody := v.draftBody
  draftNormalizedText := v.draftNormalizedText

/-- `rollback_item`: the row takes the fields of the version and is published again. -/
def rollbackItem (now : Instant) (id version : ℕ) (tenantId : Option String)
    (s : KnowledgeStore) : Except HTTPException KnowledgeStore :=
  match s.items.get? id with
  | some row =>
    if row.ofTenant tenantId then
      match s.versions.find? fun v => v.itemId == id && v.version == version with
      | some target =>
        publishRow chunkDocumentText now id
          (row.edit (rolledBack row.toItemFields tenantId target.snapshot)) s
      | none => .error ⟨404, "Knowledge item version not found"⟩
    else .error itemNotFound
  | none => .error itemNotFound

end Publish

inductive KnowledgeStep where
  | create (itemKey : String) (fields : ItemFields)
  | update (id : ℕ) (patch : ItemPatch) (tenantId : Option String)
  | upload (id : ℕ) (file : Upload)
  | publish (now : Instant) (id : ℕ)
  | rollback (now : Instant) (id version : ℕ) (tenantId : Option String)

section Step
variable (chunkDocumentText : String → List String)

def KnowledgeStep.run (s : KnowledgeStore) : KnowledgeStep → Except HTTPException KnowledgeStore
  | .create itemKey fields => createItem itemKey fields s
  | .update id patch tenantId => updateItem id patch tenantId s
  | .upload id file => uploadDocument id file s
  | .publish now id => publishItem chunkDocumentText now id s
  | .rollback now id version tenantId => rollbackItem chunkDocumentText now id version tenantId s

def knowledgeStep (i : KnowledgeStep) (s : KnowledgeStore) : KnowledgeStore :=
  match i.run chunkDocumentText s with
  | .ok s' => s'
  | .error _ => s

end Step

end NexusHelpdesk.Knowledge
