import NexusHelpdesk.Agents.Deployment
import NexusHelpdesk.Lib.Run

/-!
# The most specific deployment

A row is found by its joined key and matched by its fields.  The two agree as long as the cut fields
stay what they are when they are normalised again, and no other scope has the same key.

* `Covers`, `Scope.given`: what a scope matches, and how specific it is;
* `WellScoped`: the fields of the rows are stable, and no two rows have one scope;
* `Best`: the row that is more specific than every other one that matches;
* `activated_serves`: **in every run of such activations the best row is served, and an activation
  changes what its own scope is served and nothing that its scope does not match**.
-/

namespace NexusHelpdesk.Agents

open Lib

/-! ## scopes -/

/-- each given field of `s` is the one of `r`. -/
structure Covers (s r : Scope) : Prop where
  marketId : s.marketId = none ∨ s.marketId = r.marketId
  channel : s.channel = none ∨ s.channel = r.channel
  language : s.language = none ∨ s.language = r.language
  caseType : s.caseType = none ∨ s.caseType = r.caseType

instance (s r : Scope) : Decidable (Covers s r) :=
  decidable_of_iff ((s.marketId = none ∨ s.marketId = r.marketId) ∧
    (s.channel = none ∨ s.channel = r.channel) ∧ (s.language = none ∨ s.language = r.language) ∧
    (s.caseType = none ∨ s.caseType = r.caseType))
    ⟨fun h => ⟨h.1, h.2.1, h.2.2.1, h.2.2.2⟩, fun h => ⟨h.1, h.2, h.3, h.4⟩⟩

/-- which fields are given, in lexicographic order. -/
def specificity (market channel language case_ : Bool) : Bool ×ₗ Bool ×ₗ Bool ×ₗ Bool :=
  toLex (market, toLex (channel, toLex (language, case_)))

def Scope.given (s : Scope) : Bool ×ₗ Bool ×ₗ Bool ×ₗ Bool :=
  specificity s.marketId.isSome s.channel.isSome s.language.isSome s.caseType.isSome

def weightOf (market channel language case_ : Bool) : ℤ :=
  (if market then 16 else 0) + (if channel then 8 else 0) + (if language then 4 else 0) +
    (if case_ then 2 else 0)

def Scope.weight (s : Scope) : ℤ :=
  weightOf s.marketId.isSome s.channel.isSome s.language.isSome s.caseType.isSome

lemma weightOf_lt_iff : ∀ m c l t m' c' l' t', weightOf m c l t < weightOf m' c' l' t' ↔
    specificity m c l t < specificity m' c' l' t' := by
  decide

lemma weight_lt_iff (s r : Scope) : s.weight < r.weight ↔ s.given < r.given :=
  weightOf_lt_iff _ _ _ _ _ _ _ _

lemma weight_nonneg (s : Scope) : 0 ≤ s.weight := by
  have hall : ∀ m c l t, 0 ≤ weightOf m c l t := by decide
  exact hall _ _ _ _

lemma Covers.refl (s : Scope) : Covers s s := ⟨Or.inr rfl, Or.inr rfl, Or.inr rfl, Or.inr rfl⟩

section Fields
variable {α : Type} {a b : Option α}

lemma isSome_le (h : a = none ∨ a = b) : a.isSome ≤ b.isSome := by
  rcases h with rfl | rfl
  · exact Bool.false_le _
  · exact le_refl _

lemma eq_of_isSome (h : a = none ∨ a = b) (he : a.isSome = b.isSome) : a = b := by
  rcases h with rfl | rfl
  · rw [Option.isSome_none] at he
    exact (Option.isNone_iff_eq_none.1 (by rw [← Option.not_isSome, ← he]; rfl)).symm
  · rfl

end Fields

lemma specificity_le : ∀ m c l t m' c' l' t', m ≤ m' → c ≤ c' → l ≤ l' → t ≤ t' →
    (specificity m c l t < specificity m' c' l' t' ∨ (m = m' ∧ c = c' ∧ l = l' ∧ t = t')) := by
  decide

lemma Covers.given_lt {s r : Scope} (h : Covers s r) (hne : s ≠ r) : s.given < r.given := by
  rcases specificity_le _ _ _ _ _ _ _ _ (isSome_le h.marketId) (isSome_le h.channel)
    (isSome_le h.language) (isSome_le h.caseType) with hlt | ⟨hm, hc, hl, ht⟩
  · exact hlt
  · exfalso
    apply hne
    obtain ⟨m, c, l, t⟩ := s
    obtain ⟨m', c', l', t'⟩ := r
    have hm' : m = m' := eq_of_isSome h.marketId hm
    have hc' : c = c' := eq_of_isSome h.channel hc
    have hl' : l = l' := eq_of_isSome h.language hl
    have ht' : t = t' := eq_of_isSome h.caseType ht
    rw [hm', hc', hl', ht']

lemma eq_of_given {s s' r : Scope} (h : Covers s r) (h' : Covers s' r) (hg : s.given = s'.given) :
    s = s' := by
  have hfield : ∀ {α : Type} {a a' b : Option α}, (a = none ∨ a = b) → (a' = none ∨ a' = b) →
      a.isSome = a'.isSome → a = a' := by
    intro α a a' b ha ha' hs
    rcases ha with rfl | rfl
    · exact (eq_of_isSome (Or.inl rfl) hs)
    · rcases ha' with rfl | rfl
      · exact (eq_of_isSome (Or.inl rfl) hs.symm).symm
      · rfl
  obtain ⟨m, c, l, t⟩ := s
  obtain ⟨m', c', l', t'⟩ := s'
  unfold Scope.given specificity at hg
  simp only [EmbeddingLike.apply_eq_iff_eq, Prod.mk.injEq] at hg
  have hm : m = m' := hfield h.marketId h'.marketId hg.1
  have hc : c = c' := hfield h.channel h'.channel hg.2.1
  have hl : l = l' := hfield h.language h'.language hg.2.2.1
  have ht : t = t' := hfield h.caseType h'.caseType hg.2.2.2
  rw [hm, hc, hl, ht]

lemma fieldRank_eq {α : Type} [DecidableEq α] (weight : ℤ) (expected actual : Option α) :
    fieldRank weight expected actual =
      if expected = none ∨ expected = actual then some (if expected.isSome then weight else 0)
      else none := by
  cases expected with
  | none => simp [fieldRank]
  | some v =>
    unfold fieldRank
    by_cases h : actual = some v
    · simp [h]
    · have h' : ¬ (some v = actual) := fun heq => h heq.symm
      simp [h, h']

lemma deploymentRank_eq (lower : Text → Text) (row : AgentDeployment) (request : Scope) :
    deploymentRank lower row request =
      if Covers (normalizeScope lower row.scope) (normalizeScope lower request) then
        (normalizeScope lower row.scope).weight
      else -1 := by
  unfold deploymentRank
  generalize normalizeScope lower row.scope = s
  generalize normalizeScope lower request = r
  dsimp only
  simp only [fieldRank_eq]
  by_cases h : Covers s r
  · rw [if_pos h, if_pos h.marketId, if_pos h.channel, if_pos h.language, if_pos h.caseType]
    rfl
  · rw [if_neg h]
    by_cases hm : s.marketId = none ∨ s.marketId = r.marketId
    · by_cases hc : s.channel = none ∨ s.channel = r.channel
      · by_cases hl : s.language = none ∨ s.language = r.language
        · by_cases ht : s.caseType = none ∨ s.caseType = r.caseType
          · exact absurd ⟨hm, hc, hl, ht⟩ h
          · rw [if_pos hm, if_pos hc, if_pos hl, if_neg ht]
            rfl
        · rw [if_pos hm, if_pos hc, if_neg hl]
          rfl
      · rw [if_pos hm, if_neg hc]
        rfl
    · rw [if_neg hm]
      rfl

/-! ## the choice -/

/-- the fields of the rows are stable, their key is the one of their scope, and no two rows of a
tenant and an environment have one scope. -/
structure WellScoped (lower : Text → Text) (t : Table AgentDeployment) : Prop where
  stable : ∀ i row, t.get? i = some row → normalizeScope lower row.scope = row.scope
  keyed : ∀ i row, t.get? i = some row → row.scopeKey = joinedKey row.scope
  active : ∀ i row, t.get? i = some row → row.isActive = true
  unique : ∀ i j row row', t.get? i = some row → t.get? j = some row' →
    row.tenantKey = row'.tenantKey → row.environment = row'.environment →
    row.scope = row'.scope → i = j

lemma wellScoped_empty (lower : Text → Text) : WellScoped lower .empty := by
  constructor
  · intro i row h
    cases h
  · intro i row h
    cases h
  · intro i row h
    cases h
  · intro i j row row' h
    cases h

structure Matches (tenantKey environment : Text) (request : Scope) (t : Table AgentDeployment)
    (i : ℕ) (row : AgentDeployment) : Prop where
  found : t.get? i = some row
  ofTenant : row.tenantKey = tenantKey
  inEnvironment : row.environment = environment
  covers : Covers row.scope request

/-- the row under `i` is more specific than every other one that matches. -/
structure Best (tenantKey environment : Text) (request : Scope) (t : Table AgentDeployment)
    (i : ℕ) (row : AgentDeployment) : Prop
    extends Matches tenantKey environment request t i row where
  most : ∀ j row', j ≠ i → Matches tenantKey environment request t j row' →
    row'.scope.given < row.scope.given

section Choice
variable {lower : Text → Text} {t : Table AgentDeployment} {tenantKey environment : Text}
  {request : Scope}

lemma Best.unique {i j : ℕ} {row row' : AgentDeployment}
    (h : Best tenantKey environment request t i row)
    (h' : Best tenantKey environment request t j row') : i = j ∧ row = row' := by
  have hij : i = j := by
    by_contra hne
    have hlt := h.most j row' (fun heq => hne heq.symm) h'.toMatches
    have hgt := h'.most i row hne h.toMatches
    exact absurd hgt (lt_asymm hlt)
  subst hij
  exact ⟨rfl, Option.some.inj (h.found.symm.trans h'.found)⟩

instance : Std.Total servedBefore where
  total x y := by
    unfold servedBefore
    omega

instance : IsTrans (ℤ × ℕ × AgentDeployment) servedBefore where
  trans x y z hxy hyz := by
    unfold servedBefore at *
    omega

lemma mem_matchingDeployments (hwell : WellScoped lower t) {m : ℤ × ℕ × AgentDeployment} :
    m ∈ matchingDeployments lower tenantKey environment request t ↔
      Matches tenantKey environment (normalizeScope lower request) t m.2.1 m.2.2 ∧
        m.1 = m.2.2.scope.weight := by
  unfold matchingDeployments
  rw [List.mem_insertionSort, List.mem_filter, List.mem_map]
  constructor
  · rintro ⟨⟨⟨i, row⟩, hmem, rfl⟩, hrank⟩
    obtain ⟨hrow, hp⟩ := (Table.mem_select _).1 hmem
    simp only [Bool.and_eq_true, beq_iff_eq] at hp
    dsimp only at hrank ⊢
    rw [deploymentRank_eq, hwell.stable i row hrow, decide_eq_true_eq] at hrank
    split at hrank
    · rename_i hcovers
      refine ⟨⟨hrow, hp.1.1, hp.1.2, hcovers⟩, ?_⟩
      rw [deploymentRank_eq, hwell.stable i row hrow, if_pos hcovers]
    · omega
  · rintro ⟨h, hweight⟩
    obtain ⟨w, i, row⟩ := m
    dsimp only at h hweight
    subst hweight
    have hrank : deploymentRank lower row request = row.scope.weight := by
      rw [deploymentRank_eq, hwell.stable i row h.found, if_pos h.covers]
    refine ⟨⟨(i, row), ?_, by rw [hrank]⟩, decide_eq_true (weight_nonneg _)⟩
    rw [Table.mem_select]
    refine ⟨h.found, ?_⟩
    rw [hwell.active i row h.found, h.ofTenant, h.inEnvironment]
    simp

lemma nodup_matchingDeployments :
    (matchingDeployments lower tenantKey environment request t).Nodup := by
  unfold matchingDeployments
  have hrows : (t.select fun _ row => row.tenantKey == tenantKey &&
      row.environment == environment && row.isActive).Nodup :=
    (Table.pairwise_select _ _).imp fun {a b} hlt heq => by
      rw [heq] at hlt
      exact lt_irrefl _ hlt
  have hinj : Function.Injective fun r : ℕ × AgentDeployment =>
      (deploymentRank lower r.2 request, r) := by
    intro r r' heq
    exact (Prod.mk.inj heq).2
  rw [(List.perm_insertionSort servedBefore _).nodup_iff]
  exact (hrows.map hinj).filter _

lemma filter_eq_singleton {α : Type} {l : List α} {p : α → Bool} {b : α} (hl : l.Nodup)
    (hb : b ∈ l) (hp : p b = true) (honly : ∀ x ∈ l, p x = true → x = b) : l.filter p = [b] := by
  have hmem : ∀ x, x ∈ l.filter p ↔ x = b := by
    intro x
    rw [List.mem_filter]
    constructor
    · rintro ⟨hx, hpx⟩
      exact honly x hx hpx
    · rintro rfl
      exact ⟨hb, hp⟩
  have hperm : (l.filter p).Perm [b] := by
    rw [List.perm_ext_iff_of_nodup (hl.filter p) (List.nodup_singleton b)]
    intro x
    rw [hmem, List.mem_singleton]
  exact List.perm_singleton.1 hperm

lemma choose_spec (hwell : WellScoped lower t) (tenantKey environment : Text) (request : Scope) :
    (∃ i row, chooseDeployment lower tenantKey environment request t = .ok (i, row) ∧
      Best tenantKey environment (normalizeScope lower request) t i row) ∨
    (chooseDeployment lower tenantKey environment request t =
        .error "agent_deployment_not_found" ∧
      ∀ i row, ¬ Matches tenantKey environment (normalizeScope lower request) t i row) := by
  have hmem : ∀ m, m ∈ matchingDeployments lower tenantKey environment request t ↔
      Matches tenantKey environment (normalizeScope lower request) t m.2.1 m.2.2 ∧
        m.1 = m.2.2.scope.weight := fun m => mem_matchingDeployments hwell
  have hnodup : (matchingDeployments lower tenantKey environment request t).Nodup :=
    nodup_matchingDeployments
  have hsorted : (matchingDeployments lower tenantKey environment request t).Pairwise
      servedBefore := List.pairwise_insertionSort servedBefore _
  unfold chooseDeployment
  dsimp only
  generalize matchingDeployments lower tenantKey environment request t = l at hmem hnodup hsorted
  cases l with
  | nil =>
    right
    refine ⟨rfl, ?_⟩
    intro i row h
    have hin := (hmem (row.scope.weight, i, row)).2 ⟨h, rfl⟩
    cases hin
  | cons best rest =>
    left
    obtain ⟨hbest, hweight⟩ := (hmem best).1 (List.mem_cons_self ..)
    have hless : ∀ j row', j ≠ best.2.1 →
        Matches tenantKey environment (normalizeScope lower request) t j row' →
        row'.scope.given < best.2.2.scope.given := by
      intro j row' hj h
      have hin := (hmem (row'.scope.weight, j, row')).2 ⟨h, rfl⟩
      have hle : row'.scope.weight ≤ best.2.2.scope.weight := by
        rcases List.mem_cons.1 hin with heq | hrest
        · rw [← heq]
        · have horder := (List.pairwise_cons.1 hsorted).1 _ hrest
          unfold servedBefore at horder
          dsimp only at horder
          rw [hweight] at horder
          omega
      rcases lt_trichotomy row'.scope.given best.2.2.scope.given with hlt | heq | hgt
      · exact hlt
      · -- two scopes that match one request and give the same fields are the same
        exfalso
        apply hj
        apply hwell.unique j best.2.1 row' best.2.2 h.found hbest.found
        · rw [h.ofTenant, hbest.ofTenant]
        · rw [h.inEnvironment, hbest.inEnvironment]
        · exact eq_of_given h.covers hbest.covers heq
      · rw [← weight_lt_iff] at hgt
        omega
    refine ⟨best.2.1, best.2.2, ?_, hbest, hless⟩
    have honly : (best :: rest).filter (fun m => m.1 == best.1) = [best] := by
      refine filter_eq_singleton hnodup (List.mem_cons_self ..) ?_ ?_
      · exact beq_self_eq_true best.1
      intro m hm hrank
      rw [beq_iff_eq] at hrank
      obtain ⟨hmatch, hmw⟩ := (hmem m).1 hm
      by_cases hid : m.2.1 = best.2.1
      · have hrow : m.2.2 = best.2.2 := by
          have hfound := hmatch.found
          rw [hid, hbest.found] at hfound
          exact (Option.some.inj hfound).symm
        exact Prod.ext hrank (Prod.ext hid hrow)
      · have hlt := hless m.2.1 m.2.2 hid hmatch
        rw [← weight_lt_iff] at hlt
        omega
    dsimp only
    rw [honly]

end Choice

/-! ## activations -/

def ScopeFits (lower : Text → Text) (t : Table AgentDeployment) (a : Activation) : Prop :=
  normalizeScope lower (normalizeScope lower a.scope) = normalizeScope lower a.scope ∧
    ∀ r ∈ t.rows, r.2.tenantKey = a.tenantKey →
      r.2.environment = cleanEnvironment lower a.environment →
      r.2.scopeKey = joinedKey (normalizeScope lower a.scope) →
      r.2.scope = normalizeScope lower a.scope

instance (lower : Text → Text) (t : Table AgentDeployment) (a : Activation) :
    Decidable (ScopeFits lower t a) :=
  inferInstanceAs (Decidable (_ ∧ _))

/-- what an activation writes: the row of its scope. -/
structure Activated (lower : Text → Text) (a : Activation) (t t' : Table AgentDeployment)
    (i : ℕ) (row : AgentDeployment) : Prop where
  found : t'.get? i = some row
  ofTenant : row.tenantKey = a.tenantKey
  inEnvironment : row.environment = cleanEnvironment lower a.environment
  scope : row.scope = normalizeScope lower a.scope
  scopeKey : row.scopeKey = joinedKey (normalizeScope lower a.scope)
  active : row.isActive = true
  release : row.activeReleaseId = a.releaseId
  canary : row.canaryReleaseId = a.canaryReleaseId
  others : ∀ j, j ≠ i → t'.get? j = t.get? j
  before : ∀ old, t.get? i = some old → old.tenantKey = a.tenantKey ∧
    old.environment = cleanEnvironment lower a.environment ∧
    old.scope = normalizeScope lower a.scope
  fresh : t.get? i = none → ∀ j old, t.get? j = some old → old.tenantKey = a.tenantKey →
    old.environment = cleanEnvironment lower a.environment →
    old.scope ≠ normalizeScope lower a.scope

section Activation
variable {lower : Text → Text} {db : Registry} {a : Activation} {t t' : Table AgentDeployment}
  {i : ℕ} {row : AgentDeployment}

lemma activate_spec (hwell : WellScoped lower t) (hfits : ScopeFits lower t a)
    (h : activateDeployment lower db a t = .ok t') : ∃ i row, Activated lower a t t' i row := by
  obtain ⟨hstable, hclash⟩ := hfits
  unfold activateDeployment canonicalScopeKey at h
  dsimp only at h
  rw [hstable] at h
  split at h
  · cases h
  · split at h
    · rename_i i old hfind
      have ht := Except.ok.inj h
      subst ht
      have hmem := List.mem_of_find?_eq_some hfind
      have hp := List.find?_some hfind
      simp only [Bool.and_eq_true, beq_iff_eq] at hp
      have hold := (Table.mem_rows _).1 hmem
      have hscope := hclash (i, old) hmem hp.1.1 hp.1.2 hp.2
      refine ⟨i, pointAt a old, ?_, hp.1.1, hp.1.2, hscope, hp.2, rfl, rfl, rfl, ?_, ?_, ?_⟩
      · rw [Table.get?_modify_self, hold]
        rfl
      · intro j hj
        exact Table.get?_modify_of_ne _ _ hj
      · intro old' hold'
        rw [hold] at hold'
        cases hold'
        exact ⟨hp.1.1, hp.1.2, hscope⟩
      · intro hnone
        rw [hold] at hnone
        cases hnone
    · rename_i hfind
      have ht := Except.ok.inj h
      subst ht
      refine ⟨t.next, _, Table.get?_insert_self _ _, rfl, rfl, rfl, ?_, rfl, rfl, rfl, ?_, ?_, ?_⟩
      · show joinedKey (normalizeScope lower (normalizeScope lower a.scope)) = _
        rw [hstable]
      · intro j hj
        exact Table.get?_insert_of_ne _ _ hj
      · intro old hold
        exact absurd (Table.lt_next hold) (lt_irrefl _)
      · intro _ j old hold htenant henv hscope
        have hnone := List.find?_eq_none.1 hfind (j, old) ((Table.mem_rows _).2 hold)
        apply hnone
        dsimp only
        rw [htenant, henv, hwell.keyed j old hold, hscope]
        simp

lemma WellScoped.activated (hwell : WellScoped lower t)
    (hstable : normalizeScope lower (normalizeScope lower a.scope) = normalizeScope lower a.scope)
    (h : Activated lower a t t' i row) : WellScoped lower t' := by
  have hold : ∀ j row', t'.get? j = some row' → (j = i ∧ row' = row) ∨ t.get? j = some row' := by
    intro j row' hget
    by_cases hj : j = i
    · subst hj
      rw [h.found] at hget
      cases hget
      exact Or.inl ⟨rfl, rfl⟩
    · rw [h.others j hj] at hget
      exact Or.inr hget
  -- the row of the scope is the only one of its tenant, environment and scope
  have hone : ∀ j row', t.get? j = some row' → row'.tenantKey = row.tenantKey →
      row'.environment = row.environment → row'.scope = row.scope → j = i := by
    intro j row' hget htenant henv hscope
    rw [h.ofTenant] at htenant
    rw [h.inEnvironment] at henv
    rw [h.scope] at hscope
    cases hi : t.get? i with
    | none => exact absurd hscope (h.fresh hi j row' hget htenant henv)
    | some old =>
      obtain ⟨htenant', henv', hscope'⟩ := h.before old hi
      exact hwell.unique j i row' old hget hi (htenant.trans htenant'.symm)
        (henv.trans henv'.symm) (hscope.trans hscope'.symm)
  constructor
  · intro j row' hget
    rcases hold j row' hget with ⟨-, rfl⟩ | hget'
    · rw [h.scope, hstable]
    · exact hwell.stable j row' hget'
  · intro j row' hget
    rcases hold j row' hget with ⟨-, rfl⟩ | hget'
    · rw [h.scopeKey, h.scope]
    · exact hwell.keyed j row' hget'
  · intro j row' hget
    rcases hold j row' hget with ⟨-, rfl⟩ | hget'
    · exact h.active
    · exact hwell.active j row' hget'
  · intro j k row₁ row₂ hj hk htenant henv hscope
    rcases hold j row₁ hj with ⟨rfl, rfl⟩ | hj'
    · rcases hold k row₂ hk with ⟨rfl, rfl⟩ | hk'
      · rfl
      · exact (hone k row₂ hk' htenant.symm henv.symm hscope.symm).symm
    · rcases hold k row₂ hk with ⟨rfl, rfl⟩ | hk'
      · exact hone j row₁ hj' htenant henv hscope
      · exact hwell.unique j k row₁ row₂ hj' hk' htenant henv hscope

lemma WellScoped.step (hwell : WellScoped lower t) (hfits : ScopeFits lower t a) :
    WellScoped lower (activateOrKeep lower db a t) := by
  unfold activateOrKeep
  split
  · rename_i t' h
    obtain ⟨i, row, hact⟩ := activate_spec hwell hfits h
    exact hwell.activated hfits.1 hact
  · exact hwell

lemma Activated.best (hwell' : WellScoped lower t') (h : Activated lower a t t' i row) :
    Best a.tenantKey (cleanEnvironment lower a.environment)
      (normalizeScope lower a.scope) t' i row := by
  refine ⟨⟨h.found, h.ofTenant, h.inEnvironment, ?_⟩, ?_⟩
  · rw [h.scope]
    exact Covers.refl _
  · intro j row' hj hmatch
    rw [h.scope]
    apply hmatch.covers.given_lt
    intro hscope
    apply hj
    apply hwell'.unique j i row' row hmatch.found h.found
    · rw [hmatch.ofTenant, h.ofTenant]
    · rw [hmatch.inEnvironment, h.inEnvironment]
    · rw [hscope, h.scope]

lemma Activated.matches_iff (h : Activated lower a t t' i row) {tenantKey environment : Text}
    {request : Scope}
    (hout : ¬ (tenantKey = a.tenantKey ∧ environment = cleanEnvironment lower a.environment ∧
      Covers (normalizeScope lower a.scope) request)) (j : ℕ) (row' : AgentDeployment) :
    Matches tenantKey environment request t' j row' ↔
      Matches tenantKey environment request t j row' := by
  by_cases hj : j = i
  · subst hj
    constructor
    · intro hm
      exfalso
      have hfound := hm.found
      rw [h.found] at hfound
      cases hfound
      apply hout
      refine ⟨hm.ofTenant.symm.trans h.ofTenant, hm.inEnvironment.symm.trans h.inEnvironment, ?_⟩
      rw [← h.scope]
      exact hm.covers
    · intro hm
      exfalso
      obtain ⟨htenant, henv, hscope⟩ := h.before row' hm.found
      apply hout
      refine ⟨hm.ofTenant.symm.trans htenant, hm.inEnvironment.symm.trans henv, ?_⟩
      rw [← hscope]
      exact hm.covers
  · constructor
    · intro hm
      exact ⟨(h.others j hj).symm.trans hm.found, hm.ofTenant, hm.inEnvironment, hm.covers⟩
    · intro hm
      exact ⟨(h.others j hj).trans hm.found, hm.ofTenant, hm.inEnvironment, hm.covers⟩

end Activation

lemma chosenRelease_cases (row : AgentDeployment) (cohort : ℕ) :
    (chosenRelease row cohort).1 = row.activeReleaseId ∨
      row.canaryReleaseId = some (chosenRelease row cohort).1 := by
  unfold chosenRelease
  cases hc : row.canaryReleaseId with
  | none => exact Or.inl rfl
  | some canary =>
    dsimp only
    split
    · exact Or.inr rfl
    · exact Or.inl rfl

/-- every request gets the best row, or the one error that says that no row matches. -/
def ServesBest (lower : Text → Text) (t : Table AgentDeployment) : Prop :=
  ∀ tenantKey environment request,
    (∃ i row, chooseDeployment lower tenantKey environment request t = .ok (i, row) ∧
      Best tenantKey environment (normalizeScope lower request) t i row) ∨
    (chooseDeployment lower tenantKey environment request t =
        .error "agent_deployment_not_found" ∧
      ∀ i row, ¬ Matches tenantKey environment (normalizeScope lower request) t i row)

theorem activated_serves (lower : Text → Text) (h : Hashes) (db : Registry) (l : List Activation)
    (hl : Along (activateOrKeep lower db) (ScopeFits lower) .empty l) :
    ServesBest lower (run (activateOrKeep lower db) .empty l) ∧
    ∀ a t', ScopeFits lower (run (activateOrKeep lower db) .empty l) a →
      activateDeployment lower db a (run (activateOrKeep lower db) .empty l) = .ok t' →
      (∃ i row, chooseDeployment lower a.tenantKey (cleanEnvironment lower a.environment) a.scope
          t' = .ok (i, row) ∧ row.activeReleaseId = a.releaseId ∧
          ∀ cohort, (chosenRelease row cohort).1 = a.releaseId ∨
            a.canaryReleaseId = some (chosenRelease row cohort).1) ∧
      ∀ tenantKey environment request cohortKey,
        ¬ (tenantKey = a.tenantKey ∧ environment = cleanEnvironment lower a.environment ∧
          Covers (normalizeScope lower a.scope) (normalizeScope lower request)) →
        resolveAgentRelease lower h db tenantKey environment request cohortKey t' =
          resolveAgentRelease lower h db tenantKey environment request cohortKey
            (run (activateOrKeep lower db) .empty l) := by
  have hwell : WellScoped lower (run (activateOrKeep lower db) .empty l) :=
    hl.invariant (I := WellScoped lower) (fun t a ht hfits => ht.step hfits)
      (wellScoped_empty lower)
  refine ⟨fun tenantKey environment request => choose_spec hwell _ _ _, ?_⟩
  intro a t' hfits ha
  obtain ⟨i, row, hact⟩ := activate_spec hwell hfits ha
  have hwell' := hwell.activated hfits.1 hact
  constructor
  · have hbest := hact.best hwell'
    rcases choose_spec hwell' a.tenantKey (cleanEnvironment lower a.environment) a.scope with
      ⟨j, row', hchoose, hbest'⟩ | ⟨-, hnone⟩
    · obtain ⟨rfl, rfl⟩ := hbest.unique hbest'
      refine ⟨i, row, hchoose, hact.release, ?_⟩
      intro cohort
      rw [← hact.release, ← hact.canary]
      exact chosenRelease_cases row cohort
    · exact absurd hbest.toMatches (hnone i row)
  · intro tenantKey environment request cohortKey hout
    have hsame : chooseDeployment lower tenantKey environment request t' =
        chooseDeployment lower tenantKey environment request
          (run (activateOrKeep lower db) .empty l) := by
      have hiff := hact.matches_iff hout
      rcases choose_spec hwell' tenantKey environment request with
        ⟨j, row₁, hchoose₁, hbest₁⟩ | ⟨herr₁, hnone₁⟩
      · rcases choose_spec hwell tenantKey environment request with
          ⟨k, row₂, hchoose₂, hbest₂⟩ | ⟨herr₂, hnone₂⟩
        · have hbest : Best tenantKey environment (normalizeScope lower request)
              (run (activateOrKeep lower db) .empty l) j row₁ :=
            ⟨(hiff j row₁).1 hbest₁.toMatches,
              fun j' row' hj' hm => hbest₁.most j' row' hj' ((hiff j' row').2 hm)⟩
          obtain ⟨rfl, rfl⟩ := hbest.unique hbest₂
          rw [hchoose₁, hchoose₂]
        · exact absurd ((hiff j row₁).1 hbest₁.toMatches) (hnone₂ j row₁)
      · rcases choose_spec hwell tenantKey environment request with
          ⟨k, row₂, hchoose₂, hbest₂⟩ | ⟨herr₂, hnone₂⟩
        · exact absurd ((hiff k row₂).2 hbest₂.toMatches) (hnone₁ k row₂)
        · rw [herr₁, herr₂]
    unfold resolveAgentRelease
    rw [hsame]

/-! ## two scopes of one key, and a cut that leaves a blank -/

def asciiLower (s : Text) : Text := s.map PyStr.lowerChar

def twoReleases : Registry where
  definitions := Table.empty.insert ⟨"default".toList, "agent".toList, "Agent".toList, true, .null⟩
  releases := (Table.empty.insert ⟨1, 1, .approved, .null, [], .null⟩).insert
    ⟨1, 2, .approved, .null, [], .null⟩

def onChannel (channel : Option Text) : Scope := ⟨none, channel, none, none⟩

def activationOf (releaseId : ℕ) (channel : Option Text) : Activation where
  tenantKey := "default".toList
  environment := none
  releaseId := releaseId
  scope := onChannel channel
  canaryReleaseId := none
  canaryPercent := 0
  actorId := none
  now := 0

def servedOn (t : Table AgentDeployment) (channel : Option Text) : Option ℕ :=
  (chooseDeployment asciiLower "default".toList "production".toList (onChannel channel)
    t).toOption.map fun r => r.2.activeReleaseId

def generalThenWhatsapp : List Activation :=
  [activationOf 1 none, activationOf 2 (some " WhatsApp ".toList)]

theorem activated_serves_whatsapp :
    ServesBest asciiLower (run (activateOrKeep asciiLower twoReleases) .empty
      generalThenWhatsapp) ∧
    servedOn (run (activateOrKeep asciiLower twoReleases) .empty generalThenWhatsapp)
      (some "whatsapp".toList) = some 2 ∧
    servedOn (run (activateOrKeep asciiLower twoReleases) .empty generalThenWhatsapp)
      (some "webchat".toList) = some 1 :=
  ⟨(activated_serves asciiLower ⟨Json.text, List.length⟩ twoReleases generalThenWhatsapp
    (by decide +kernel)).1, by decide +kernel⟩

/-- the scope `*` overwrites the general deployment; a long channel is not served by its own row. -/
theorem scope_key_clash :
    ¬ Covers (normalizeScope asciiLower (onChannel (some "*".toList)))
      (normalizeScope asciiLower (onChannel (some "webchat".toList))) ∧
    servedOn (run (activateOrKeep asciiLower twoReleases) .empty [activationOf 1 none])
      (some "webchat".toList) = some 1 ∧
    servedOn (run (activateOrKeep asciiLower twoReleases) .empty
      [activationOf 1 none, activationOf 2 (some "*".toList)]) (some "webchat".toList) = some 2 ∧
    servedOn (run (activateOrKeep asciiLower twoReleases) .empty
      [activationOf 1 (some "the webchat channel of the northern hub two".toList)])
      (some "the webchat channel of the northern hub two".toList) = none := by
  decide +kernel

end NexusHelpdesk.Agents
