import NexusHelpdesk.Knowledge.Pinned

/-!
# Which pinned versions a run can find

`validate_release_manifest` asks of an item that it is active and of the tenant or a template of
the default tenant. `_eligible` asks for the tenant, for the brand `default` and, as the handler
passes no country, for the country `GLOBAL`; it asks for the audience `customer` and for chunks that
are active.

* `Admits`: the item is for customers, is valid now and admits the market, the channel and the
  country of the run;
* `Found`: what more it takes to be a candidate (`pinned_version_found_iff`).
-/

namespace NexusHelpdesk.Knowledge

open Lib

/-! ## scopes are normalized once -/

lemma toUpper_cases (c : Char) : c.toUpper = c ∨ (97 ≤ c.toNat ∧ c.toNat ≤ 122 ∧
    65 ≤ c.toUpper.toNat ∧ c.toUpper.toNat ≤ 90) := by
  unfold Char.toUpper
  split
  · rename_i h
    have hlow : 97 ≤ c.val.toNat := h.1
    have hhigh : c.val.toNat ≤ 122 := h.2
    have hval : (c.val + ('A'.val - 'a'.val)).toNat = c.val.toNat - 32 := by
      have hdiff : ('A'.val - 'a'.val).toNat = 2 ^ 32 - 32 := by decide
      rw [UInt32.toNat_add, hdiff]
      omega
    refine Or.inr ⟨hlow, hhigh, ?_, ?_⟩
    · show 65 ≤ (c.val + ('A'.val - 'a'.val)).toNat
      omega
    · show (c.val + ('A'.val - 'a'.val)).toNat ≤ 90
      omega
  · exact Or.inl rfl

lemma isSpace_toUpper (c : Char) : PyStr.isSpace c.toUpper = PyStr.isSpace c := by
  rcases toUpper_cases c with heq | ⟨h1, h2, h3, h4⟩
  · rw [heq]
  · have hno : ∀ d : Char, 65 ≤ d.toNat → d.toNat ≤ 122 → PyStr.isSpace d = false := by
      intro d hd hd'
      unfold PyStr.isSpace
      simp only [Bool.or_eq_false_iff, Bool.and_eq_false_iff, decide_eq_false_iff_not,
        beq_eq_false_iff_ne]
      omega
    rw [hno _ h3 (by omega), hno _ (by omega) h2]

lemma strip_upper (s : String) : PyStr.strip (upper s) = upper (PyStr.strip s) := by
  have hspace : PyStr.isSpace ∘ Char.toUpper = PyStr.isSpace := funext isSpace_toUpper
  unfold PyStr.strip upper
  rw [String.toList_ofList, String.toList_ofList, List.dropWhile_map, hspace, ← List.map_reverse,
    List.dropWhile_map, hspace, ← List.map_reverse]

lemma upper_upper (s : String) : upper (upper s) = upper s := by
  unfold upper
  rw [String.toList_ofList, List.map_map]
  exact congrArg String.ofList (List.map_congr_left fun c _ => Char.toUpper_toUpper_eq_toUpper c)

lemma upper_eq_empty {s : String} : upper s = "" ↔ s = "" := by
  unfold upper
  rw [← String.toList_inj, String.toList_ofList, ← String.toList_inj]
  exact List.map_eq_nil_iff

lemma normalizeCountryScope_upper (s : String) :
    normalizeCountryScope (upper s) = normalizeCountryScope s := by
  have hscope : upper (normalizeScope (upper s) "GLOBAL") = upper (normalizeScope s "GLOBAL") := by
    unfold normalizeScope orDefault
    rw [strip_upper]
    by_cases hempty : PyStr.strip s = ""
    · rw [if_pos hempty, if_pos (upper_eq_empty.2 hempty)]
    · rw [if_neg hempty, if_neg fun h => hempty (upper_eq_empty.1 h), upper_upper]
  unfold normalizeCountryScope
  rw [hscope]

lemma normalizeScope_orDefault (s default : String) (h : PyStr.strip default = default) :
    normalizeScope (orDefault s default) default = normalizeScope s default := by
  unfold normalizeScope
  by_cases hempty : s = ""
  · subst hempty
    have hstrip : PyStr.strip "" = "" := by decide
    show orDefault (PyStr.strip (orDefault "" default)) default = orDefault (PyStr.strip "") default
    rw [show orDefault "" default = default from rfl, h, hstrip]
    show orDefault default default = default
    unfold orDefault
    split <;> rfl
  · rw [show orDefault s default = s from if_neg hempty]

lemma normalizeCountryScope_orDefault (s : String) :
    normalizeCountryScope (orDefault s "GLOBAL") = normalizeCountryScope s := by
  unfold normalizeCountryScope
  rw [normalizeScope_orDefault s "GLOBAL" (by decide +kernel)]

/-! ## what is asked -/

/-- the channel scope of a version: its own, else its channel. -/
def PublishedItem.channelScopeOr (v : PublishedItem) : String :=
  orDefault v.channelScope (orDefault (v.channel.getD "") "all")

def AgentRun.channelScope (r : AgentRun) : String :=
  normalizeScope (orDefault r.channel "all") "all"

/-- the version is for customers, valid, and admits the market, the channel and the country of the
run. -/
structure Admits (r : AgentRun) (v : PublishedItem) : Prop where
  visible : lowerIs (orDefault v.visibility "customer") "internal" "customer" = true
  shareable : lowerIs (orDefault v.shareability "customer_visible") "internal" "customer_visible" =
    true
  approved : structuredKind (orDefault v.knowledgeKind "document") = true →
    PyStr.lower (orDefault v.factStatus "draft") = "approved"
  valid : inWindow r.now v.validFrom v.validUntil = true
  started : inWindow r.now v.startsAt v.endsAt = true
  market : r.marketId = none ∨ v.marketId = none ∨ v.marketId = r.marketId
  channelScope : admitsChannel r.channelScope v.channelScopeOr = true
  channel : r.channel = "" ∨ admitsExact r.channel v.channel = true
  country : normalizeCountryScope v.countryScope ∈ [normalizeCountryScope r.country, "GLOBAL"]

instance (r : AgentRun) (v : PublishedItem) : Decidable (Admits r v) :=
  decidable_of_iff (
      (lowerIs (orDefault v.visibility "customer") "internal" "customer" = true ∧
        lowerIs (orDefault v.shareability "customer_visible") "internal"
          "customer_visible" = true) ∧
      (structuredKind (orDefault v.knowledgeKind "document") = true →
        PyStr.lower (orDefault v.factStatus "draft") = "approved") ∧
      (inWindow r.now v.validFrom v.validUntil = true ∧ inWindow r.now v.startsAt v.endsAt = true) ∧
      (r.marketId = none ∨ v.marketId = none ∨ v.marketId = r.marketId) ∧
      (admitsChannel r.channelScope v.channelScopeOr = true ∧
        (r.channel = "" ∨ admitsExact r.channel v.channel = true)) ∧
      normalizeCountryScope v.countryScope ∈ [normalizeCountryScope r.country, "GLOBAL"])
    ⟨fun h => ⟨h.1.1, h.1.2, h.2.1, h.2.2.1.1, h.2.2.1.2, h.2.2.2.1, h.2.2.2.2.1.1, h.2.2.2.2.1.2,
      h.2.2.2.2.2⟩, fun h => ⟨⟨h.visible, h.shareable⟩, h.approved, ⟨h.valid, h.started⟩, h.market,
      ⟨h.channelScope, h.channel⟩, h.country⟩⟩

def PublishedItem.chunkStatus (v : PublishedItem) : String :=
  if v.status = "draft" then "active" else v.status

/-- the version is of the tenant, the default brand, every country and the audience `customer`, and
was not archived when it was published. -/
structure InScope (tenantKey : String) (v : PublishedItem) : Prop where
  tenant : normalizeScope v.tenantId "default" = normalizeScope tenantKey "default"
  brand : normalizeScope v.brandId "default" = "default"
  country : normalizeCountryScope v.countryScope = "GLOBAL"
  audience : PyStr.lower (normalizeScope v.audienceScope "customer") = "customer"
  status : PyStr.lower v.chunkStatus = "active"

instance (tenantKey : String) (v : PublishedItem) : Decidable (InScope tenantKey v) :=
  decidable_of_iff (normalizeScope v.tenantId "default" = normalizeScope tenantKey "default" ∧
      normalizeScope v.brandId "default" = "default" ∧
      normalizeCountryScope v.countryScope = "GLOBAL" ∧
      PyStr.lower (normalizeScope v.audienceScope "customer") = "customer" ∧
      PyStr.lower v.chunkStatus = "active")
    ⟨fun h => ⟨h.1, h.2.1, h.2.2.1, h.2.2.2.1, h.2.2.2.2⟩,
      fun h => ⟨h.tenant, h.brand, h.country, h.audience, h.status⟩⟩

/-- the version is in scope and has a chunk, and the release is within the limits of a search. -/
structure Found (tenantKey : String) (resolved : List ReleaseKnowledge) (s : KnowledgeStore)
    (e : ReleaseKnowledge) : Prop where
  scope : InScope tenantKey e.snapshot
  chunk : ∃ c ∈ s.chunks, c.itemKey = e.itemKey ∧ c.publishedVersion = e.version
  references : resolved.length ≤ maxReleaseKnowledgeItems
  chunks : (s.chunks.filter (pinned resolved)).length ≤ maxReleaseKnowledgeChunks

/-- a chunk of the version is among the candidates of `knowledge.search`. -/
def IsCandidate (order : RowOrder KnowledgeChunk.rowKey) (resolved : List ReleaseKnowledge)
    (r : AgentRun) (s : KnowledgeStore) (e : ReleaseKnowledge) : Prop :=
  ∃ candidates, searchCandidates order resolved r s = .ok candidates ∧
    ∃ p ∈ candidates, p.1.itemKey = e.itemKey ∧ p.1.publishedVersion = e.version

/-! ## eligibility of a version -/

variable {chunk : String → List String} {s : KnowledgeStore} {resolved : List ReleaseKnowledge}
  {r : AgentRun} {e : ReleaseKnowledge}

lemma releaseScope_run (r : AgentRun) : releaseScope r.scope =
    { r.scope with
      tenantId := normalizeScope r.tenantKey "default"
      brandId := "default"
      countryScope := "GLOBAL"
      channelScope := r.channelScope } := by
  have htenant : normalizeScope (orDefault r.tenantKey "default") "default" =
      normalizeScope r.tenantKey "default" :=
    normalizeScope_orDefault _ _ (by decide +kernel)
  have hbrand : normalizeScope "" "default" = "default" := by decide +kernel
  have hcountry : orDefault (upper (PyStr.strip (orDefault "" "GLOBAL"))) "GLOBAL" = "GLOBAL" := by
    decide +kernel
  have haudience : normalizeScope "customer" "customer" = "customer" := by decide +kernel
  unfold releaseScope AgentRun.scope
  simp only [htenant, hbrand, hcountry, haudience]
  rfl

lemma inWindow_or {now : Instant} {a b c d : Option Instant} (h : inWindow now a b = true)
    (h' : inWindow now c d = true) : inWindow now (a.or c) (b.or d) = true := by
  unfold inWindow at h h' ⊢
  cases a <;> cases b <;> simp_all

/-- a row that is for customers, valid and admits the run is eligible as far as it is in scope. -/
lemma rowScope_eligible (w : RowScope) (structured : Bool)
    (hvisible : lowerIs w.visibility "internal" "customer" = true)
    (hshareable : lowerIs w.shareability "internal" "customer_visible" = true)
    (hscope : admitsChannel r.channelScope w.channelScope = true)
    (hchannel : r.channel = "" ∨ admitsExact r.channel w.channel = true)
    (hvalid : inWindow r.now w.validFrom w.validUntil = true)
    (hstarted : inWindow r.now w.startsAt w.endsAt = true)
    (happroved : structured = true → PyStr.lower (orDefault w.factStatus "draft") = "approved") :
    w.eligible (releaseScope r.scope) structured = true ↔ PyStr.lower w.status = "active" ∧
      normalizeScope w.tenantId "default" = normalizeScope r.tenantKey "default" ∧
      normalizeScope w.brandId "default" = "default" ∧
      normalizeCountryScope w.countryScope = "GLOBAL" ∧
      PyStr.lower (normalizeScope w.audienceScope "customer") = "customer" := by
  have hglobal : normalizeCountryScope "GLOBAL" = "GLOBAL" := by decide +kernel
  have hcustomer : PyStr.lower (normalizeScope "customer" "customer") = "customer" := by
    decide +kernel
  have hexact : PyStr.truthy (some r.channel) = false ∨
      admitsExact ((some r.channel).getD "") w.channel = true := by
    rcases hchannel with hempty | hadmits
    · rw [hempty]
      exact Or.inl rfl
    · exact Or.inr hadmits
  have happ : structured = false ∨ PyStr.lower (orDefault w.factStatus "draft") = "approved" := by
    cases structured with
    | false => exact Or.inl rfl
    | true => exact Or.inr (happroved rfl)
  rw [RowScope.eligible_iff, releaseScope_run]
  simp only [AgentRun.scope, hglobal, hcustomer, List.mem_cons, List.not_mem_nil, or_false, or_self,
    hscope, hexact, hvisible, hshareable, hvalid, hstarted, happ, true_and, and_true]
  have haudience : lowerIs w.audienceScope "customer" "customer" = true ↔
      PyStr.lower (normalizeScope w.audienceScope "customer") = "customer" := beq_iff_eq
  rw [haudience]

lemma projection_eligible (hadmits : Admits r e.snapshot) :
    (itemProjection r.now e.released).rowScope.eligible (releaseScope r.scope)
        (structuredKind (itemProjection r.now e.released).knowledgeKind) = true ↔
      normalizeScope e.snapshot.tenantId "default" = normalizeScope r.tenantKey "default" ∧
      normalizeScope e.snapshot.brandId "default" = "default" ∧
      normalizeCountryScope e.snapshot.countryScope = "GLOBAL" ∧
      PyStr.lower (normalizeScope e.snapshot.audienceScope "customer") = "customer" := by
  have hactive : PyStr.lower (orDefault "active" "active") = "active" := by decide +kernel
  have hdraft : orDefault (orDefault e.snapshot.factStatus "draft") "draft" =
      orDefault e.snapshot.factStatus "draft" := by
    unfold orDefault
    split_ifs <;> simp_all
  rw [rowScope_eligible (itemProjection r.now e.released).rowScope
    (structuredKind (itemProjection r.now e.released).knowledgeKind) hadmits.visible
    hadmits.shareable hadmits.channelScope hadmits.channel hadmits.valid hadmits.started
    fun h => (congrArg PyStr.lower hdraft).trans (hadmits.approved h)]
  show PyStr.lower (orDefault "active" "active") = "active" ∧
      normalizeScope (orDefault e.snapshot.tenantId "default") "default" = _ ∧
      normalizeScope (orDefault e.snapshot.brandId "default") "default" = _ ∧
      normalizeCountryScope (orDefault e.snapshot.countryScope "GLOBAL") = _ ∧
      PyStr.lower (normalizeScope (orDefault e.snapshot.audienceScope "customer") "customer") = _
    ↔ _
  rw [normalizeScope_orDefault _ _ (by decide +kernel),
    normalizeScope_orDefault _ _ (by decide +kernel), normalizeCountryScope_orDefault,
    normalizeScope_orDefault _ _ (by decide +kernel)]
  exact ⟨fun h => h.2, fun h => ⟨hactive, h⟩⟩

lemma chunk_eligible {id : ℕ} {v : PublishedItem} {text : String × ℕ}
    (hsnapshot : e.snapshot = boundedSnapshot v) (hadmits : Admits r e.snapshot) :
    (chunkOf id v.indexed text).rowScope.eligible (releaseScope r.scope)
        (structuredKind (itemProjection r.now e.released).knowledgeKind) = true ↔
      InScope r.tenantKey e.snapshot := by
  have hdraft : orDefault (orDefault v.factStatus "draft") "draft" =
      orDefault v.factStatus "draft" := by
    unfold orDefault
    split_ifs <;> simp_all
  rw [hsnapshot] at hadmits
  have hkind : (itemProjection r.now e.released).knowledgeKind =
      orDefault (boundedSnapshot v).knowledgeKind "document" := by
    rw [← hsnapshot]
    rfl
  have hvalid : inWindow r.now (v.validFrom.or v.startsAt) (v.validUntil.or v.endsAt) = true :=
    inWindow_or hadmits.valid hadmits.started
  rw [hkind, rowScope_eligible (chunkOf id v.indexed text).rowScope _ hadmits.visible
    hadmits.shareable hadmits.channelScope hadmits.channel hvalid hadmits.started
    fun h => (congrArg PyStr.lower hdraft).trans (hadmits.approved h)]
  show PyStr.lower v.chunkStatus = "active" ∧
      normalizeScope (orDefault v.tenantId "default") "default" = _ ∧
      normalizeScope (orDefault v.brandId "default") "default" = _ ∧
      normalizeCountryScope (upper (orDefault v.countryScope "GLOBAL")) = _ ∧
      PyStr.lower (normalizeScope v.audienceScope "customer") = _ ↔ _
  rw [normalizeScope_orDefault _ _ (by decide +kernel),
    normalizeScope_orDefault _ _ (by decide +kernel), normalizeCountryScope_upper,
    normalizeCountryScope_orDefault, hsnapshot]
  exact ⟨fun h => ⟨h.2.1, h.2.2.1, h.2.2.2.1, h.2.2.2.2, h.1⟩,
    fun h => ⟨h.status, h.tenant, h.brand, h.country, h.audience⟩⟩

/-! ## the chunks of a pinned version -/

variable {order : RowOrder KnowledgeChunk.rowKey} {c : KnowledgeChunk} {tenantKey : String}

lemma chunk_of_pinned (hinv : StoreInv chunk s) (hpins : Pins tenantKey s e) (hc : c ∈ s.chunks)
    (hkey : c.itemKey = e.itemKey) (hversion : c.publishedVersion = e.version) :
    ∃ v text, e.snapshot = boundedSnapshot v ∧ c = chunkOf e.id v.indexed text := by
  obtain ⟨u, hu, hmem, -, huversion, hukey⟩ := hinv.mem_chunks hc
  obtain ⟨-, -, -, text, -, rfl⟩ := mem_chunksOf hmem
  obtain ⟨row, hrow, hrowkey, -⟩ := hpins.row
  obtain ⟨v, hv, hvid, hvversion, hsnapshot⟩ := hpins.version
  obtain ⟨row', hrow', -, hukey', -⟩ := hinv.versions u hu
  have hid : u.itemId = e.id :=
    hinv.keys _ _ _ _ hrow' hrow (by rw [← hukey', ← hukey, hkey, hrowkey])
  have hsame : u = v := by
    have hpair : (u.itemId, u.version) = (v.itemId, v.version) := by
      rw [hid, hvid, ← huversion, hversion, hvversion]
    exact List.inj_on_of_nodup_map hinv.distinct hu hv hpair
  rw [hsame] at hid
  subst hsame
  exact ⟨u.snapshot, text, hsnapshot, by rw [hid]⟩

lemma evidenceOf_eq (hpins : ∀ e ∈ resolved, Pins tenantKey s e)
    (hdistinct : (resolved.map fun e => (e.itemKey, e.version)).Nodup) (he : e ∈ resolved)
    (hkey : c.itemKey = e.itemKey) (hversion : c.publishedVersion = e.version) :
    evidenceOf (resolved.map ReleaseKnowledge.released) c = some e.released := by
  have hclean : PyStr.lower (PyStr.strip c.itemKey) = e.itemKey := by
    rw [hkey]
    exact clean_safeKey (hpins e he).safe
  unfold evidenceOf
  rw [hclean, hversion]
  cases hfind : (resolved.map ReleaseKnowledge.released).reverse.find? fun x =>
      x.itemKey == e.itemKey && x.version == e.version with
  | none =>
    have hno := List.find?_eq_none.1 hfind e.released
      (List.mem_reverse.2 (List.mem_map.2 ⟨e, he, rfl⟩))
    have hself : (e.released.itemKey == e.itemKey && e.released.version == e.version) = true := by
      show (e.itemKey == e.itemKey && e.version == e.version) = true
      rw [beq_self_eq_true, beq_self_eq_true]
      rfl
    exact absurd hself hno
  | some x =>
    obtain ⟨y, hy, rfl⟩ := List.mem_map.1 (List.mem_reverse.1 (List.mem_of_find?_eq_some hfind))
    have hsame := List.find?_some hfind
    simp only [Bool.and_eq_true, beq_iff_eq] at hsame
    have hpair : (y.itemKey, y.version) = (e.itemKey, e.version) := Prod.ext hsame.1 hsame.2
    rw [List.inj_on_of_nodup_map hdistinct hy he hpair]

lemma releaseRows_ok {evidence : List ReleaseKnowledge} {rows : List KnowledgeChunk} :
    releaseRows order evidence s = .ok rows ↔ evidence.length ≤ maxReleaseKnowledgeItems ∧
      (s.chunks.filter (pinned evidence)).length ≤ maxReleaseKnowledgeChunks ∧
      rows = order.order (s.chunks.filter (pinned evidence)) := by
  have hlength : (order.order (s.chunks.filter (pinned evidence))).length =
      (s.chunks.filter (pinned evidence)).length := (order.perm _).length_eq
  unfold releaseRows
  simp only [List.length_take, hlength]
  by_cases hitems : maxReleaseKnowledgeItems < evidence.length
  · rw [if_pos hitems]
    exact ⟨fun h => (by cases h), fun h => absurd h.1 (by omega)⟩
  · rw [if_neg hitems]
    by_cases hchunks : maxReleaseKnowledgeChunks < (s.chunks.filter (pinned evidence)).length
    · rw [if_pos (by omega)]
      exact ⟨fun h => (by cases h), fun h => absurd h.2.1 (by omega)⟩
    · rw [if_neg (by omega), List.take_of_length_le (by omega)]
      constructor
      · intro h
        cases h
        exact ⟨by omega, by omega, rfl⟩
      · rintro ⟨-, -, rfl⟩
        rfl

/-- a chunk of a pinned version that admits the run is a candidate where the version is in scope. -/
lemma releaseCandidate_of_pinned (hinv : StoreInv chunk s)
    (hpins : ∀ e ∈ resolved, Pins tenantKey s e)
    (hdistinct : (resolved.map fun e => (e.itemKey, e.version)).Nodup) (he : e ∈ resolved)
    (hadmits : Admits r e.snapshot) (hc : c ∈ s.chunks) (hkey : c.itemKey = e.itemKey)
    (hversion : c.publishedVersion = e.version) :
    releaseCandidate (resolved.map ReleaseKnowledge.released) (releaseScope r.scope) c =
      if InScope r.tenantKey e.snapshot then some (c, itemProjection r.now e.released)
      else none := by
  obtain ⟨v, text, hsnapshot, rfl⟩ := chunk_of_pinned hinv (hpins e he) hc hkey hversion
  have hmarket : (r.marketId.isSome && v.marketId.isSome && v.marketId != r.marketId) = false := by
    have hadmitted : r.marketId = none ∨ v.marketId = none ∨ v.marketId = r.marketId := by
      have hmarket := hadmits.market
      rw [hsnapshot] at hmarket
      exact hmarket
    rcases hadmitted with h | h | h
    · simp [h]
    · simp [h]
    · simp [h]
  have hpublished : (itemProjection r.now e.released).publishedVersion ≠ 0 :=
    (hpins e he).positive.ne'
  have heligible : eligible (releaseScope r.scope) (chunkOf e.id v.indexed text)
      (itemProjection r.now e.released) = true ↔ InScope r.tenantKey e.snapshot := by
    rw [eligible_iff, projection_eligible hadmits, chunk_eligible hsnapshot hadmits]
    exact ⟨fun h => h.2.1, fun h => ⟨⟨h.tenant, h.brand, h.country, h.audience⟩, h, hpublished, rfl,
      hversion⟩⟩
  unfold releaseCandidate
  rw [evidenceOf_eq hpins hdistinct he hkey hversion]
  show (if (r.marketId.isSome && v.marketId.isSome && v.marketId != r.marketId ||
      (false && _) || !eligible (releaseScope r.scope) _ (itemProjection r.now e.released)) = true
    then none else some _) = _
  rw [hmarket, Bool.false_and, Bool.false_or, Bool.false_or]
  by_cases hscope : InScope r.tenantKey e.snapshot
  · rw [if_pos hscope, heligible.2 hscope]
    rfl
  · rw [if_neg hscope, Bool.eq_false_iff.2 fun h => hscope (heligible.1 h)]
    rfl

lemma searchCandidates_ok {order : RowOrder KnowledgeChunk.rowKey} {r : AgentRun}
    {resolved : List ReleaseKnowledge} {s : KnowledgeStore}
    (hsafe : ∀ e ∈ resolved, isSafeKey e.itemKey = true ∧ 0 < e.version)
    (hne : (resolved.map ReleaseKnowledge.released).isEmpty = false)
    {candidates : List (KnowledgeChunk × PublishedItem)} :
    searchCandidates order resolved r s = .ok candidates ↔
      resolved.length ≤ maxReleaseKnowledgeItems ∧
        (s.chunks.filter (pinned resolved)).length ≤ maxReleaseKnowledgeChunks ∧
        candidates = (order.order (s.chunks.filter (pinned resolved))).filterMap
          (releaseCandidate (resolved.map ReleaseKnowledge.released) (releaseScope r.scope)) := by
  have hpinned : pinned (resolved.map ReleaseKnowledge.released) = pinned resolved :=
    funext pinned_released
  unfold searchCandidates releaseCandidates
  rw [released_mapM hsafe, bind_eq_ok]
  simp only [Except.ok.injEq, exists_eq_left', hne, Bool.false_eq_true, if_false, bind_eq_ok,
    releaseRows_ok, List.length_map, hpinned]
  constructor
  · rintro ⟨rows, ⟨hitems, hchunks, rfl⟩, rfl⟩
    exact ⟨hitems, hchunks, rfl⟩
  · rintro ⟨hitems, hchunks, rfl⟩
    exact ⟨_, ⟨hitems, hchunks, rfl⟩, rfl⟩

/-- **a pinned version that is for customers and admits the run is a candidate of the search exactly
where the validation and the search agree on its scope**. -/
theorem pinned_version_found_iff (chunkDocumentText : String → List String)
    (order : RowOrder KnowledgeChunk.rowKey) (before l : List KnowledgeStep)
    (sections : Except HTTPException (List String)) (r : AgentRun) (refs : List VersionReference)
    (resolved : List ReleaseKnowledge)
    (haccepted : validateReleaseManifest sections r.tenantKey refs
      (run (knowledgeStep chunkDocumentText) .empty before) = .ok resolved)
    (e : ReleaseKnowledge) (he : e ∈ resolved) (hadmits : Admits r e.snapshot) :
    IsCandidate order resolved r (run (knowledgeStep chunkDocumentText) .empty (before ++ l)) e ↔
      Found r.tenantKey resolved (run (knowledgeStep chunkDocumentText) .empty before) e := by
  have hinv : StoreInv chunkDocumentText (run (knowledgeStep chunkDocumentText) .empty before) :=
    storeInv_run storeInv_empty before
  obtain ⟨hpins, hdistinct⟩ := validateManifest_ok haccepted
  have hsafe : ∀ e ∈ resolved, isSafeKey e.itemKey = true ∧ 0 < e.version :=
    fun e he => ⟨(hpins e he).safe, (hpins e he).positive⟩
  -- the chunks that the search reads are those that were there when the release was accepted
  have hsame : searchCandidates order resolved r
      (run (knowledgeStep chunkDocumentText) .empty (before ++ l)) =
      searchCandidates order resolved r (run (knowledgeStep chunkDocumentText) .empty before) := by
    rw [run_append]
    exact releaseCandidates_eq hsafe (pinned_run hinv (known_of_pins hinv hpins) l) (Or.inl rfl)
  unfold IsCandidate
  rw [hsame]
  generalize run (knowledgeStep chunkDocumentText) .empty before = s at hinv hpins ⊢
  have hne : (resolved.map ReleaseKnowledge.released).isEmpty = false := by
    rw [List.isEmpty_eq_false_iff]
    exact List.ne_nil_of_mem (List.mem_map.2 ⟨e, he, rfl⟩)
  have hcandidate : ∀ c ∈ s.chunks, c.itemKey = e.itemKey → c.publishedVersion = e.version →
      releaseCandidate (resolved.map ReleaseKnowledge.released) (releaseScope r.scope) c =
        if InScope r.tenantKey e.snapshot then some (c, itemProjection r.now e.released)
        else none :=
    fun c hc hkey hversion =>
      releaseCandidate_of_pinned hinv hpins hdistinct he hadmits hc hkey hversion
  constructor
  · rintro ⟨candidates, hok, p, hp, hkey, hversion⟩
    obtain ⟨hitems, hchunks, rfl⟩ := (searchCandidates_ok hsafe hne).1 hok
    obtain ⟨c, hc, hsome⟩ := List.mem_filterMap.1 hp
    have hmem := (List.mem_filter.1 ((order.perm _).subset hc)).1
    have hpc : p.1 = c := by
      unfold releaseCandidate at hsome
      split at hsome
      · simp only at hsome
        split at hsome
        · cases hsome
        · cases hsome
          rfl
      · cases hsome
    rw [hpc] at hkey hversion
    rw [hcandidate c hmem hkey hversion] at hsome
    split at hsome
    · rename_i hscope
      exact ⟨hscope, ⟨c, hmem, hkey, hversion⟩, hitems, hchunks⟩
    · cases hsome
  · intro hfound
    obtain ⟨c, hc, hkey, hversion⟩ := hfound.chunk
    have hpin : pinned resolved c = true := by
      refine List.any_eq_true.2 ⟨e, he, ?_⟩
      rw [hkey, hversion, beq_self_eq_true, beq_self_eq_true]
      rfl
    refine ⟨_, (searchCandidates_ok hsafe hne).2 ⟨hfound.references, hfound.chunks, rfl⟩,
      (c, itemProjection r.now e.released), ?_, hkey, hversion⟩
    refine List.mem_filterMap.2 ⟨c, (order.perm _).symm.subset (List.mem_filter.2 ⟨hc, hpin⟩), ?_⟩
    rw [hcandidate c hc hkey hversion, if_pos hfound.scope]

/-! ## an item of the tenant, and a template -/

def insuranceRun : AgentRun := ⟨9, "acme", some 3, "webchat", "CH"⟩

def publishedBy (tenantId : String) : List KnowledgeStep :=
  [.create "insurance" { plainItem "Insurance" "insurance costs five" with tenantId := tenantId },
    .publish 1 1]

def releaseOf (tenantId : String) : Except HTTPException (List ReleaseKnowledge) :=
  validateReleaseManifest (.ok ["knowledge.search"]) "acme" [⟨"insurance", 1⟩]
    (run (knowledgeStep shortChunks) .empty (publishedBy tenantId))

def pinnedInsurance (tenantId : String) : ReleaseKnowledge where
  id := 1
  itemKey := "insurance"
  version := 1
  snapshot := boundedSnapshot (snapshotOf 1 {
    toItemFields := createdFields
      { plainItem "Insurance" "insurance costs five" with tenantId := tenantId }
    itemKey := "insurance"
    publishedVersion := 0
    publishedAt := none
    publishedBody := none
    publishedNormalizedText := none })

/-- the item of the tenant is found. -/
theorem own_item_found : IsCandidate oldestFirst [pinnedInsurance "acme"] insuranceRun
    (run (knowledgeStep shortChunks) .empty (publishedBy "acme")) (pinnedInsurance "acme") :=
  (pinned_version_found_iff shortChunks oldestFirst (publishedBy "acme") []
    (.ok ["knowledge.search"]) insuranceRun [⟨"insurance", 1⟩] [pinnedInsurance "acme"]
    (by decide +kernel) (pinnedInsurance "acme") (List.mem_singleton_self _)
    (by decide +kernel)).2
    ⟨by decide +kernel, by decide +kernel, by decide +kernel, by decide +kernel⟩

/-- the template of the default tenant is accepted and never found. -/
theorem template_not_found :
    releaseOf "default" = .ok [pinnedInsurance "default"] ∧
    Admits insuranceRun (pinnedInsurance "default").snapshot ∧
    ¬ IsCandidate oldestFirst [pinnedInsurance "default"] insuranceRun
      (run (knowledgeStep shortChunks) .empty (publishedBy "default"))
      (pinnedInsurance "default") := by
  refine ⟨by decide +kernel, by decide +kernel, ?_⟩
  have hempty : searchCandidates oldestFirst [pinnedInsurance "default"] insuranceRun
      (run (knowledgeStep shortChunks) .empty (publishedBy "default")) = .ok [] := by
    decide +kernel
  rintro ⟨candidates, hok, p, hp, -⟩
  rw [hempty] at hok
  cases hok
  cases hp

end NexusHelpdesk.Knowledge
