import NexusHelpdesk.Knowledge.Retrieval
import NexusHelpdesk.Lib.Except
import NexusHelpdesk.Desk.Words

/-!
# The knowledge of a release (`agent_release_service.py`, `agent_tool_handlers.py`)

* `validateReleaseKnowledge`: the references of `validate_release_manifest` to versions of items;
* `validateReleaseManifest`: with the other sections of the manifest as a parameter;
* `knowledgeSearch`: the handler of the tool `knowledge.search`, up to the candidates it ranks.
-/

namespace NexusHelpdesk.Knowledge

open Lib

/-! ## references -/

/-- a reference of a manifest, under whichever of its names. -/
structure VersionReference where
  key : String
  version : ℤ
deriving DecidableEq, Repr

/-- the characters of `_SAFE_KEY_RE` after the first. -/
def isSafeKeyChar (c : Char) : Bool :=
  (97 ≤ c.toNat && c.toNat ≤ 122) || (48 ≤ c.toNat && c.toNat ≤ 57) ||
    ['_', '.', ':', '-'].contains c

def isSafeKey (s : String) : Bool :=
  match s.toList with
  | [] => false
  | c :: cs => isSafeKeyChar c && !(['_', '.', ':', '-'].contains c) && cs.all isSafeKeyChar &&
      decide (cs.length ≤ 159)

def versionReference (ref : VersionReference) : Except HTTPException (String × ℕ) :=
  let cleaned := PyStr.lower (PyStr.strip ref.key)
  if ¬ isSafeKey cleaned then .error ⟨400, "knowledge_key_invalid"⟩
  else if ref.version ≤ 0 then .error ⟨400, "knowledge_version_invalid"⟩
  else .ok (cleaned, ref.version.toNat)

/-- `_json_object` of a snapshot: the texts that can be longer are cut. -/
def boundedSnapshot (v : PublishedItem) : PublishedItem :=
  { v with
    factQuestion := v.factQuestion.map (clip 8000)
    factAnswer := v.factAnswer.map (clip 8000)
    factAliases := v.factAliases.map (clip 8000)
    draftBody := v.draftBody.map (clip 8000)
    draftNormalizedText := v.draftNormalizedText.map (clip 8000) }

def validateReference (tenantKey : String) (s : KnowledgeStore) (seen : List ReleaseKnowledge)
    (ref : VersionReference) : Except HTTPException (List ReleaseKnowledge) := do
  let (key, version) ← versionReference ref
  match s.items.rows.find? fun r => r.2.itemKey == key with
  | none => .error ⟨409, "agent_release_knowledge_reference_not_found"⟩
  | some (id, row) =>
    if row.status ≠ "active" then .error ⟨409, "agent_release_knowledge_reference_not_found"⟩
    else if orDefault row.tenantId "default" ∉ [tenantKey, "default"] then
      .error ⟨403, "cross_tenant_agent_knowledge_forbidden"⟩
    else
      match s.versions.find? fun v => v.itemId == id && v.version == version with
      | none => .error ⟨409, "agent_release_knowledge_version_not_found"⟩
      | some v =>
        if seen.any fun e => e.itemKey == row.itemKey && e.version == v.version then
          .error ⟨400, "agent_release_duplicate_knowledge"⟩
        else .ok (seen ++ [⟨id, row.itemKey, v.version, boundedSnapshot v.snapshot⟩])

def validateReleaseKnowledge (tenantKey : String) (refs : List VersionReference)
    (s : KnowledgeStore) : Except HTTPException (List ReleaseKnowledge) :=
  refs.foldlM (validateReference tenantKey s) []

/-- `validate_release_manifest`, as far as knowledge goes: `sections` is what the persona, the
playbooks, the integrations, the model profile and the runtime policy give, the tools they allow. -/
def validateReleaseManifest (sections : Except HTTPException (List String)) (tenantKey : String)
    (refs : List VersionReference) (s : KnowledgeStore) :
    Except HTTPException (List ReleaseKnowledge) := do
  let allowedTools ← sections
  let knowledge ← validateReleaseKnowledge tenantKey refs s
  if knowledge ≠ [] ∧ "knowledge.search" ∉ allowedTools then
    .error ⟨400, "agent_release_knowledge_requires_search_tool"⟩
  else .ok knowledge

/-! ## the tool -/

/-- a run of an agent: its tenant, and the market, the channel and the country of its case. -/
structure AgentRun where
  now : Instant
  tenantKey : String
  marketId : Option ℕ
  channel : String
  country : String
deriving DecidableEq, Repr

/-- the scope that `knowledge_search` passes on; brand, country, channel scope and language are not
among its arguments. -/
def AgentRun.scope (r : AgentRun) : KnowledgeScope where
  now := r.now
  tenantId := orDefault r.tenantKey "default"
  brandId := ""
  countryScope := ""
  channelScope := ""
  marketId := r.marketId
  channel := some r.channel
  audienceScope := "customer"
  language := none

def searchLimit (limit : Option ℤ) : ℤ :=
  max 1 (min (if limit.getD 0 = 0 then 5 else limit.getD 0) 8)

section Search
variable {F : Type} (m : Matching) (a : Scoring F) (order : RowOrder KnowledgeChunk.rowKey)

def knowledgeSearch (resolved : List ReleaseKnowledge) (r : AgentRun) (query : String)
    (limit : Option ℤ) (s : KnowledgeStore) : Except String (List (KnowledgeHit F)) :=
  retrieveReleasePublishedChunks m a order resolved r.scope (PyStr.strip query)
    (searchLimit limit) s

def searchCandidates (resolved : List ReleaseKnowledge) (r : AgentRun) (s : KnowledgeStore) :
    Except String (List (KnowledgeChunk × PublishedItem)) :=
  releaseCandidates order resolved r.scope s

end Search

/-! ## what an accepted manifest pins -/

variable {tenantKey : String} {s : KnowledgeStore} {refs : List VersionReference}
  {resolved seen : List ReleaseKnowledge} {ref : VersionReference} {key : String}

/-- a row of the evidence names an active item that the tenant may use, and a version of it. -/
structure Pins (tenantKey : String) (s : KnowledgeStore) (e : ReleaseKnowledge) : Prop where
  row : ∃ row, s.items.get? e.id = some row ∧ row.itemKey = e.itemKey ∧ row.status = "active" ∧
    orDefault row.tenantId "default" ∈ [tenantKey, "default"]
  version : ∃ v ∈ s.versions, v.itemId = e.id ∧ v.version = e.version ∧
    e.snapshot = boundedSnapshot v.snapshot
  safe : isSafeKey e.itemKey = true
  positive : 0 < e.version

lemma versionReference_ok {version : ℕ} (h : versionReference ref = .ok (key, version)) :
    isSafeKey key = true ∧ 0 < version := by
  unfold versionReference at h
  by_cases hsafe : isSafeKey (PyStr.lower (PyStr.strip ref.key)) = true
  · by_cases hpos : ref.version ≤ 0
    · simp [hsafe, hpos] at h
    · simp only [hsafe, not_true_eq_false, if_false, hpos, Except.ok.injEq, Prod.mk.injEq] at h
      obtain ⟨rfl, rfl⟩ := h
      exact ⟨hsafe, by omega⟩
  · simp [hsafe] at h

lemma validateReference_ok (h : validateReference tenantKey s seen ref = .ok resolved) :
    ∃ e, resolved = seen ++ [e] ∧ Pins tenantKey s e ∧
      ∀ e' ∈ seen, ¬ (e'.itemKey = e.itemKey ∧ e'.version = e.version) := by
  unfold validateReference at h
  obtain ⟨⟨key, version⟩, href, h⟩ := bind_eq_ok.1 h
  have hkey := versionReference_ok href
  dsimp only at h
  split at h
  · cases h
  · rename_i id row hrow
    split_ifs at h with hstatus htenant
    split at h
    · cases h
    · rename_i v hv
      split at h
      · cases h
      · rename_i hnew
        cases h
        have hmem := List.mem_of_find?_eq_some hrow
        have hrowkey : row.itemKey = key := by simpa using List.find?_some hrow
        have hversion := List.find?_some hv
        simp only [Bool.and_eq_true, beq_iff_eq] at hversion
        refine ⟨_, rfl, ?_, ?_⟩
        · exact {
            row := ⟨row, (Table.mem_rows _).1 hmem, rfl, not_not.1 hstatus, htenant⟩
            version := ⟨v, List.mem_of_find?_eq_some hv, hversion.1, rfl, rfl⟩
            safe := by
              rw [hrowkey]
              exact hkey.1
            positive := by
              rw [hversion.2]
              exact hkey.2 }
        · intro e' he' hsame
          simp only [List.any_eq_true, Bool.and_eq_true, beq_iff_eq, not_exists, not_and] at hnew
          exact hnew e' he' hsame.1 hsame.2

lemma validateKnowledge_ok (refs : List VersionReference) (seen resolved : List ReleaseKnowledge)
    (hseen : ∀ e ∈ seen, Pins tenantKey s e)
    (hdistinct : (seen.map fun e => (e.itemKey, e.version)).Nodup)
    (h : refs.foldlM (validateReference tenantKey s) seen = .ok resolved) :
    (∀ e ∈ resolved, Pins tenantKey s e) ∧
      (resolved.map fun e => (e.itemKey, e.version)).Nodup := by
  induction refs generalizing seen with
  | nil =>
    cases h
    exact ⟨hseen, hdistinct⟩
  | cons ref refs ih =>
    rw [List.foldlM_cons] at h
    obtain ⟨next, hnext, h⟩ := bind_eq_ok.1 h
    obtain ⟨e, rfl, hpins, hfresh⟩ := validateReference_ok hnext
    refine ih (seen ++ [e]) ?_ ?_ h
    · intro e' he'
      rcases List.mem_append.1 he' with hold | hlast
      · exact hseen e' hold
      · rw [List.mem_singleton.1 hlast]
        exact hpins
    · rw [List.map_append, List.nodup_append]
      refine ⟨hdistinct, by simp, ?_⟩
      intro p hp p' hp' heq
      obtain ⟨e', he', rfl⟩ := List.mem_map.1 hp
      obtain ⟨e'', he'', rfl⟩ := List.mem_map.1 hp'
      rw [List.mem_singleton.1 he''] at heq
      obtain ⟨hk, hv⟩ := Prod.mk.inj heq
      exact hfresh e' he' ⟨hk, hv⟩

lemma validateManifest_ok {sections : Except HTTPException (List String)}
    (h : validateReleaseManifest sections tenantKey refs s = .ok resolved) :
    (∀ e ∈ resolved, Pins tenantKey s e) ∧
      (resolved.map fun e => (e.itemKey, e.version)).Nodup := by
  unfold validateReleaseManifest at h
  obtain ⟨tools, -, h⟩ := bind_eq_ok.1 h
  obtain ⟨knowledge, hk, h⟩ := bind_eq_ok.1 h
  split_ifs at h
  cases h
  exact validateKnowledge_ok refs [] _ (fun e he => by cases he) List.nodup_nil hk

lemma safeKeyChar {c : Char} (h : isSafeKeyChar c = true) :
    PyStr.lowerChar c = c ∧ PyStr.isSpace c = false := by
  have hrange : (97 ≤ c.toNat ∧ c.toNat ≤ 122) ∨ (48 ≤ c.toNat ∧ c.toNat ≤ 57) ∨ c.toNat = 95 ∨
      c.toNat = 46 ∨ c.toNat = 58 ∨ c.toNat = 45 := by
    simp only [isSafeKeyChar, Bool.or_eq_true, Bool.and_eq_true, decide_eq_true_eq,
      List.contains_eq_mem, List.mem_cons, List.not_mem_nil, or_false] at h
    rcases h with (h | h) | h
    · exact Or.inl h
    · exact Or.inr (Or.inl h)
    · rcases h with rfl | rfl | rfl | rfl
      · exact Or.inr (Or.inr (Or.inl rfl))
      · exact Or.inr (Or.inr (Or.inr (Or.inl rfl)))
      · exact Or.inr (Or.inr (Or.inr (Or.inr (Or.inl rfl))))
      · exact Or.inr (Or.inr (Or.inr (Or.inr (Or.inr rfl))))
  have hupper : ¬ (c.isUpper = true) := by
    unfold Char.isUpper
    simp only [decide_eq_true_eq]
    intro ⟨h1, h2⟩
    have h1' : 65 ≤ c.toNat := h1
    have h2' : c.toNat ≤ 90 := h2
    omega
  constructor
  · unfold PyStr.lowerChar
    rw [if_neg (by omega)]
    exact Char.toLower_eq_of_not_isUpper hupper
  · unfold PyStr.isSpace
    simp only [Bool.or_eq_false_iff, Bool.and_eq_false_iff, decide_eq_false_iff_not,
      beq_eq_false_iff_ne]
    omega

lemma clean_safeKey (h : isSafeKey key = true) :
    PyStr.lower (PyStr.strip key) = key := by
  have hall : ∀ c ∈ key.toList, isSafeKeyChar c = true := by
    unfold isSafeKey at h
    split at h
    · cases h
    · rename_i c cs heq
      simp only [Bool.and_eq_true, List.all_eq_true] at h
      intro c' hc'
      rw [heq] at hc'
      rcases List.mem_cons.1 hc' with rfl | hmem
      · exact h.1.1.1
      · exact h.1.2 c' hmem
  have hstrip : PyStr.strip key = key :=
    PyStr.strip_of_solid fun c hc => (safeKeyChar (hall c hc)).2
  rw [hstrip]
  unfold PyStr.lower
  have hmap : key.toList.map PyStr.lowerChar = key.toList.map id :=
    List.map_congr_left fun c hc => (safeKeyChar (hall c hc)).1
  rw [hmap, List.map_id]
  exact String.ofList_toList

end NexusHelpdesk.Knowledge
