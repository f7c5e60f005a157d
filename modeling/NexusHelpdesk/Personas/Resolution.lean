import NexusHelpdesk.Personas.Profiles

/-!
# Persona resolution

* `MoreSpecific`: market before channel before language;
* `Best`, `ResolvesWell`: every request of a tenant gets the most specific served profile;
* `resolvesWell_iff`: that is so exactly if no two served profiles that the tenant sees have one
  scope, and each is among the first 200 active ones;
* `Harmless`: a call leaves no served profile with the scope of another one where the check of
  `publish_profile` does not look;
* `persona_resolution`: **a history resolves well exactly if each of its calls is harmless**;
* `update_takes_scope`: an update that gives a served profile the scope of another one.
-/

namespace NexusHelpdesk.Personas

open Lib

/-! ## the property -/

structure Fits (s request : PersonaScope) : Prop where
  market : s.marketId = none ∨ s.marketId = request.marketId
  channel : s.channel = none ∨ s.channel = request.channel
  language : s.language = none ∨ s.language = request.language

def MoreSpecific (a b : PersonaScope) : Prop :=
  (a.marketId.isSome = true ∧ b.marketId = none) ∨
    a.marketId.isSome = b.marketId.isSome ∧
      ((a.channel.isSome = true ∧ b.channel = none) ∨
        a.channel.isSome = b.channel.isSome ∧ a.language.isSome = true ∧ b.language = none)

section Resolution
variable (env : PersonaEnv) (tenantKey : Text)

/-- the profile `i` is active and published, and the tenant sees it. -/
structure Served (t : Table PersonaProfile) (i : ℕ) (p : PersonaProfile) : Prop where
  found : t.get? i = some p
  visible : p.visibleTo (some tenantKey) = true
  served : p.isServed = true

structure Best (t : Table PersonaProfile) (request : PersonaScope) (i : ℕ) (p : PersonaProfile) :
    Prop where
  served : Served tenantKey t i p
  fits : Fits p.scope request
  most : ∀ j q, Served tenantKey t j q → Fits q.scope request → j ≠ i →
    MoreSpecific p.scope q.scope

def ResolvesWell (t : Table PersonaProfile) : Prop :=
  ∀ request,
    (∃ i p rank, Best tenantKey t request i p ∧
      resolvePreview env tenantKey request t = .ok (some ((i, p), rank))) ∨
    ((∀ i p, Served tenantKey t i p → ¬ Fits p.scope request) ∧
      resolvePreview env tenantKey request t = .ok none)

/-! ## the condition -/

def Alone (t : Table PersonaProfile) (i : ℕ) (scope : PersonaScope) : Prop :=
  ∀ j q, Served tenantKey t j q → j ≠ i → q.scope ≠ scope

def Distinct (t : Table PersonaProfile) : Prop :=
  ∀ i p, Served tenantKey t i p → Alone tenantKey t i p.scope

/-- every served profile is among the first 200 active ones that the tenant sees. -/
def WithinLimit (t : Table PersonaProfile) : Prop :=
  ∀ i p, Served tenantKey t i p → (i, p) ∈ listActive env tenantKey t

def AloneBeyond (actor : Actor) (t : Table PersonaProfile) (i : ℕ) (scope : PersonaScope) : Prop :=
  ∀ j q, Served tenantKey t j q → j ≠ i → q.manageableBy actor = false → q.scope ≠ scope

def PersonaStep.published (w : PersonaWorld) : PersonaStep → Option (Actor × ℕ × PersonaScope)
  | .create _ _ | .update _ _ _ => none
  | .publish actor i => (w.profiles.get? i).map fun row => (actor, i, row.scope)
  | .rollback actor i version =>
    (w.versions.find? fun v => v.profileId == i && v.version == version).map fun v =>
      (actor, i, v.snapshot.scope)
  | .publishReview actor review _ => some (actor, review.profileId, review.snapshot.scope)

/-- the scope that the call gives a profile that the tenant is served, if it does, is no other
one's, as far as `publish_profile` does not check that. -/
def KeepsScopes (w : PersonaWorld) (i : PersonaStep) : Prop :=
  (∀ actor k p row, i = .update actor k p → w.profiles.get? k = some row →
    row.visibleTo (some tenantKey) = true → p.isActive.getD row.isActive = true →
    0 < row.publishedVersion → Alone tenantKey w.profiles k (p.scope row)) ∧
  ∀ actor k scope row, i.published w = some (actor, k, scope) → w.profiles.get? k = some row →
    row.visibleTo (some tenantKey) = true → row.isActive = true →
    AloneBeyond tenantKey actor w.profiles k scope

/-- **the call leaves no two served profiles with one scope and none beyond the limit.** -/
def Harmless (w : PersonaWorld) (i : PersonaStep) : Prop :=
  KeepsScopes tenantKey w i ∧ WithinLimit env tenantKey (personaStep env i w).profiles

def Accepted (w : PersonaWorld) (i : PersonaStep) : Prop := ∃ w', personaCall env i w = .ok w'

/-! ## ranks -/

def PersonaScope.weight (s : PersonaScope) : ℕ :=
  (if s.marketId.isSome then 4 else 0) + (if s.channel.isSome then 2 else 0) +
    if s.language.isSome then 1 else 0

variable {env tenantKey} {t : Table PersonaProfile} {a b request : PersonaScope} {i j : ℕ}
  {p q : PersonaProfile}

lemma moreSpecific_iff : MoreSpecific a b ↔ b.weight < a.weight := by
  obtain ⟨am, ac, al⟩ := a
  obtain ⟨bm, bc, bl⟩ := b
  unfold MoreSpecific PersonaScope.weight
  cases am <;> cases ac <;> cases al <;> cases bm <;> cases bc <;> cases bl <;> simp

variable {α : Type} {actor : Actor} {row : PersonaProfile} {w w' : PersonaWorld}
  {scope : PersonaScope} {step : PersonaStep}

lemma fieldScore_eq [DecidableEq α] (expected actual : Option α) (weight : ℕ) :
    fieldScore expected actual weight =
      if expected = none ∨ expected = actual then
        some (if expected.isSome then weight else 0)
      else none := by
  cases expected with
  | none => simp [fieldScore]
  | some e => simp [fieldScore]

instance (s request : PersonaScope) : Decidable (Fits s request) :=
  decidable_of_iff ((s.marketId = none ∨ s.marketId = request.marketId) ∧
    (s.channel = none ∨ s.channel = request.channel) ∧
      (s.language = none ∨ s.language = request.language))
    ⟨fun h => ⟨h.1, h.2.1, h.2.2⟩, fun h => ⟨h.market, h.channel, h.language⟩⟩

lemma personaRank_eq : personaRank a request =
    if Fits a request then some (7 - a.weight) else none := by
  unfold personaRank
  rw [fieldScore_eq, fieldScore_eq, fieldScore_eq]
  by_cases hm : a.marketId = none ∨ a.marketId = request.marketId
  · by_cases hc : a.channel = none ∨ a.channel = request.channel
    · by_cases hl : a.language = none ∨ a.language = request.language
      · have hfits : Fits a request := ⟨hm, hc, hl⟩
        rw [if_pos hfits, if_pos hm, if_pos hc, if_pos hl]
        rfl
      · have hfits : ¬ Fits a request := fun h => hl h.language
        rw [if_neg hfits, if_pos hm, if_pos hc, if_neg hl]
        rfl
    · have hfits : ¬ Fits a request := fun h => hc h.channel
      rw [if_neg hfits, if_pos hm, if_neg hc]
      rfl
  · have hfits : ¬ Fits a request := fun h => hm h.market
    rw [if_neg hfits, if_neg hm]
    rfl

lemma weight_le (a : PersonaScope) : a.weight ≤ 7 := by
  unfold PersonaScope.weight
  split_ifs <;> omega

lemma eq_of_matches {x y z : Option α} (hx : x = none ∨ x = z) (hy : y = none ∨ y = z)
    (h : x.isSome = y.isSome) : x = y := by
  rcases hx with rfl | rfl
  · rcases hy with rfl | rfl
    · rfl
    · exact (Option.not_isSome_iff_eq_none.1 (by rw [← h]; simp)).symm
  · rcases hy with rfl | rfl
    · exact Option.not_isSome_iff_eq_none.1 (by rw [h]; simp)
    · rfl

lemma eq_of_weight (ha : Fits a request) (hb : Fits b request) (h : a.weight = b.weight) :
    a = b := by
  have hfields : a.marketId.isSome = b.marketId.isSome ∧ a.channel.isSome = b.channel.isSome ∧
      a.language.isSome = b.language.isSome := by
    have hbits : ∀ m c l m' c' l' : Bool,
        (if m then 4 else 0) + (if c then 2 else 0) + (if l then 1 else 0) =
          (if m' then 4 else 0) + (if c' then 2 else 0) + (if l' then 1 else 0) →
        m = m' ∧ c = c' ∧ l = l' := by decide
    exact hbits _ _ _ _ _ _ h
  have hm := eq_of_matches ha.market hb.market hfields.1
  have hc := eq_of_matches ha.channel hb.channel hfields.2.1
  have hl := eq_of_matches ha.language hb.language hfields.2.2
  obtain ⟨am, ac, al⟩ := a
  obtain ⟨bm, bc, bl⟩ := b
  dsimp only at hm hc hl
  rw [hm, hc, hl]

lemma fits_self (a : PersonaScope) : Fits a a := ⟨Or.inr rfl, Or.inr rfl, Or.inr rfl⟩

lemma weight_le_of_fits (h : Fits b a) : b.weight ≤ a.weight := by
  have hfield : ∀ {α : Type} {x y : Option α} (n : ℕ), x = none ∨ x = y →
      (if x.isSome then n else 0) ≤ if y.isSome then n else 0 := by
    intro α x y n hx
    rcases hx with rfl | rfl
    · exact Nat.zero_le _
    · exact le_refl _
  have hm := hfield 4 h.market
  have hc := hfield 2 h.channel
  have hl := hfield 1 h.language
  unfold PersonaScope.weight
  omega

/-! ## one resolution -/

lemma mem_candidates (hlimit : WithinLimit env tenantKey t) {r : ℕ × PersonaProfile} :
    r ∈ (listActive env tenantKey t).filter (fun r => decide (0 < r.2.publishedVersion)) ↔
      Served tenantKey t r.1 r.2 := by
  rw [List.mem_filter, decide_eq_true_eq]
  constructor
  · rintro ⟨hmem, hpublished⟩
    have hrow := List.mem_of_mem_take hmem
    rw [List.mem_mergeSort, List.mem_filter, Bool.and_eq_true] at hrow
    refine ⟨t.mem_rows.1 hrow.1, hrow.2.1, ?_⟩
    unfold PersonaProfile.isServed
    rw [hrow.2.2, Bool.true_and, decide_eq_true hpublished]
  · intro h
    refine ⟨hlimit r.1 r.2 h, ?_⟩
    have hserved := h.served
    unfold PersonaProfile.isServed at hserved
    rw [Bool.and_eq_true, decide_eq_true_eq] at hserved
    exact hserved.2

lemma nodup_candidates :
    ((listActive env tenantKey t).filter
      (fun r => decide (0 < r.2.publishedVersion))).Nodup := by
  have hrows : t.rows.Nodup :=
    t.pairwise_rows.imp fun hlt heq => absurd (congrArg Prod.fst heq) hlt.ne
  have hsorted : ((t.rows.filter fun r => r.2.visibleTo (some tenantKey) && r.2.isActive).mergeSort
      fun r r' => env.keyBefore r.2.profileKey r'.2.profileKey).Nodup :=
    (List.mergeSort_perm _ _).nodup_iff.2 (hrows.filter _)
  exact (hsorted.sublist (List.take_sublist _ _)).filter _

lemma eq_singleton_of_forall {l : List α} {x : α} (hl : l.Nodup) (hx : x ∈ l)
    (h : ∀ y ∈ l, y = x) : l = [x] := by
  cases l with
  | nil => cases hx
  | cons y l =>
    obtain rfl := h y (List.mem_cons_self ..)
    cases l with
    | nil => rfl
    | cons z l =>
      have hz := h z (List.mem_cons_of_mem _ (List.mem_cons_self ..))
      rw [hz] at hl
      exact absurd (List.mem_cons_self ..) (List.nodup_cons.1 hl).1

lemma resolvesWell_of (hdistinct : Distinct tenantKey t) (hlimit : WithinLimit env tenantKey t) :
    ResolvesWell env tenantKey t := by
  intro request
  let rows := (listActive env tenantKey t).filter fun r => decide (0 < r.2.publishedVersion)
  let ranked := rows.filterMap fun r =>
    (personaRank r.2.scope request).map fun rank => (rank, r)
  have hranked : ∀ m, m ∈ ranked ↔ Served tenantKey t m.2.1 m.2.2 ∧ Fits m.2.2.scope request ∧
      m.1 = 7 - m.2.2.scope.weight := by
    rintro ⟨rank, r⟩
    rw [List.mem_filterMap]
    constructor
    · rintro ⟨r', hr', hrank⟩
      rw [personaRank_eq] at hrank
      by_cases hfits : Fits r'.2.scope request
      · rw [if_pos hfits] at hrank
        cases hrank
        exact ⟨(mem_candidates hlimit).1 hr', hfits, rfl⟩
      · rw [if_neg hfits] at hrank
        cases hrank
    · rintro ⟨hserved, hfits, hrank⟩
      refine ⟨r, (mem_candidates hlimit).2 hserved, ?_⟩
      dsimp only at hfits hrank
      rw [personaRank_eq, if_pos hfits, hrank]
      rfl
  have hnodup : ranked.Nodup := by
    refine List.Nodup.filterMap ?_ nodup_candidates
    intro r r' m hm hm'
    obtain ⟨rank, -, rfl⟩ := Option.map_eq_some_iff.1 (Option.mem_def.1 hm)
    obtain ⟨rank', -, heq⟩ := Option.map_eq_some_iff.1 (Option.mem_def.1 hm')
    exact (Prod.mk.inj heq).2.symm
  have hresolve := resolvePreview.eq_1 env tenantKey request t
  cases hmin : (ranked.map Prod.fst).min? with
  | none =>
    rw [hmin] at hresolve
    refine Or.inr ⟨?_, hresolve⟩
    intro i p hserved hfits
    have hmem := (hranked (7 - p.scope.weight, i, p)).2 ⟨hserved, hfits, rfl⟩
    rw [List.min?_eq_none_iff, List.map_eq_nil_iff] at hmin
    rw [hmin] at hmem
    cases hmem
  | some best =>
    obtain ⟨hbest, hleast⟩ := List.min?_eq_some_iff.1 hmin
    obtain ⟨m, hm, rfl⟩ := List.mem_map.1 hbest
    obtain ⟨hserved, hfits, hweight⟩ := (hranked m).1 hm
    -- every other one that fits has another weight, and so a smaller one
    have hmost : ∀ m' ∈ ranked, m' ≠ m → m'.2.2.scope.weight < m.2.2.scope.weight := by
      intro m' hm' hne
      obtain ⟨hserved', hfits', hweight'⟩ := (hranked m').1 hm'
      have hle := hleast m'.1 (List.mem_map_of_mem hm')
      have hneq : m'.2.2.scope.weight ≠ m.2.2.scope.weight := by
        intro heq
        have hscope := eq_of_weight hfits' hfits heq
        by_cases hid : m'.2.1 = m.2.1
        · have hrow : m'.2.2 = m.2.2 := by
            have hfound := hserved'.found
            rw [hid, hserved.found] at hfound
            exact (Option.some.inj hfound).symm
          refine hne (Prod.ext ?_ (Prod.ext hid hrow))
          rw [hweight', hweight, hscope]
        · exact hdistinct _ _ hserved _ _ hserved' hid hscope
      have hseven := weight_le m'.2.2.scope
      have hseven' := weight_le m.2.2.scope
      omega
    have hfilter : ranked.filter (fun m' => m'.1 == m.1) = [m] := by
      refine eq_singleton_of_forall (hnodup.filter _) (List.mem_filter.2 ⟨hm, by simp⟩) ?_
      intro m' hm'
      rw [List.mem_filter, beq_iff_eq] at hm'
      by_contra hne
      have hlt := hmost m' hm'.1 hne
      have hweight' := ((hranked m').1 hm'.1).2.2
      have hseven := weight_le m.2.2.scope
      omega
    rw [hmin] at hresolve
    dsimp only at hresolve
    rw [hfilter] at hresolve
    refine Or.inl ⟨m.2.1, m.2.2, m.1, ⟨hserved, hfits, ?_⟩, hresolve⟩
    intro j q hq hqfits hne
    rw [moreSpecific_iff]
    refine hmost (7 - q.scope.weight, j, q) ((hranked _).2 ⟨hq, hqfits, rfl⟩) ?_
    rintro rfl
    exact hne rfl

lemma resolvesWell_iff : ResolvesWell env tenantKey t ↔
    Distinct tenantKey t ∧ WithinLimit env tenantKey t := by
  constructor
  · intro h
    -- the request for a scope gets the one profile with that scope
    have hown : ∀ i p, Served tenantKey t i p → Best tenantKey t p.scope i p ∧
        ∃ rank, resolvePreview env tenantKey p.scope t = .ok (some ((i, p), rank)) := by
      intro i p hp
      rcases h p.scope with ⟨j, q, rank, hbest, hresolve⟩ | ⟨hnone, -⟩
      · by_cases hid : i = j
        · subst hid
          have hfound := hbest.served.found
          rw [hp.found] at hfound
          cases hfound
          exact ⟨hbest, rank, hresolve⟩
        · have hmost := moreSpecific_iff.1 (hbest.most i p hp (fits_self _) hid)
          have hle := weight_le_of_fits hbest.fits
          omega
      · exact absurd (fits_self _) (hnone i p hp)
    refine ⟨?_, ?_⟩
    · intro i p hp j q hq hne hscope
      have hmost := moreSpecific_iff.1
        ((hown i p hp).1.most j q hq (hscope ▸ fits_self _) hne)
      rw [hscope] at hmost
      exact lt_irrefl _ hmost
    · intro i p hp
      obtain ⟨-, rank, hresolve⟩ := hown i p hp
      unfold resolvePreview at hresolve
      dsimp only at hresolve
      split at hresolve
      · cases hresolve
      · split at hresolve
        · rename_i m hm
          have hmem : m ∈ [m] := List.mem_cons_self ..
          rw [← hm] at hmem
          have hrow : m.2 = (i, p) :=
            (Prod.mk.inj (Option.some.inj (Except.ok.inj hresolve))).1
          obtain ⟨r, hr, hrank⟩ := List.mem_filterMap.1 (List.mem_of_mem_filter hmem)
          obtain ⟨n, -, rfl⟩ := Option.map_eq_some_iff.1 hrank
          rw [← hrow]
          exact List.mem_of_mem_filter hr
        · cases hresolve
  · rintro ⟨hdistinct, hlimit⟩
    exact resolvesWell_of hdistinct hlimit

/-! ## the calls -/

lemma manageableProfile_ok (h : manageableProfile actor t i = .ok p) :
    t.get? i = some p := by
  unfold manageableProfile at h
  cases hp : (t.get? i).filter (·.visibleTo actor) with
  | none =>
    rw [hp] at h
    cases h
  | some q =>
    rw [hp] at h
    dsimp only at h
    split_ifs at h
    · cases h
    · cases h
      exact (Option.filter_eq_some_iff.1 hp).1

/-- a profile that a call leaves in the place of `row`. -/
structure Replaces (row row' : PersonaProfile) (scope : PersonaScope) (isActive : Bool) : Prop where
  scope : row'.scope = scope
  isActive : row'.isActive = isActive
  tenantKey : row'.tenantKey = row.tenantKey
  isGlobalTemplate : row'.isGlobalTemplate = row.isGlobalTemplate

lemma Replaces.visible {row' : PersonaProfile} {isActive : Bool}
    (h : Replaces row row' scope isActive) (actor : Actor) :
    row'.visibleTo actor = row.visibleTo actor := by
  unfold PersonaProfile.visibleTo
  rw [h.tenantKey, h.isGlobalTemplate]

lemma publishProfile_ok (h : publishProfile env actor i row w = .ok w') :
    scopeConflict actor i row.scope w.profiles = false ∧ ∃ row', 0 < row'.publishedVersion ∧
      w'.profiles = w.profiles.set i row' ∧ Replaces row row' row.scope row.isActive := by
  unfold publishProfile at h
  by_cases hdraft : row.hasDraftContent = false
  · rw [if_pos hdraft] at h
    cases h
  rw [if_neg hdraft] at h
  by_cases hconflict : scopeConflict actor i row.scope w.profiles = true
  · rw [if_pos hconflict] at h
    cases h
  rw [if_neg hconflict] at h
  obtain ⟨content, -, h⟩ := bind_eq_ok.1 h
  cases h
  exact ⟨Bool.eq_false_iff.2 hconflict, _, Nat.succ_pos _, rfl, rfl, rfl, rfl, rfl⟩

structure Publishes (w w' : PersonaWorld) (actor : Actor) (i : ℕ) (scope : PersonaScope)
    (row row' : PersonaProfile) : Prop where
  found : w.profiles.get? i = some row
  noConflict : scopeConflict actor i scope w.profiles = false
  published : 0 < row'.publishedVersion
  written : w'.profiles = w.profiles.set i row'
  replaces : Replaces row row' scope row.isActive

lemma publishes_restored {snapshot : Snapshot}
    {content : Payload} (hrow : w.profiles.get? i = some row)
    (h : publishProfile env actor i (row.restore snapshot content) w = .ok w') :
    ∃ row', Publishes w w' actor i snapshot.scope row row' := by
  obtain ⟨hconflict, row', hversion, hw, hrep⟩ := publishProfile_ok h
  exact ⟨row', hrow, hconflict, hversion, hw, hrep.scope, hrep.isActive, hrep.tenantKey,
    hrep.isGlobalTemplate⟩

lemma personaCall_ok (h : personaCall env step w = .ok w') :
    (∃ actor p row, step = .create actor p ∧ row.publishedVersion = 0 ∧
      w'.profiles = w.profiles.insert row) ∨
    (∃ actor i p row row', step = .update actor i p ∧ w.profiles.get? i = some row ∧
      w'.profiles = w.profiles.set i row' ∧ row'.publishedVersion = row.publishedVersion ∧
      Replaces row row' (p.scope row) (p.isActive.getD row.isActive)) ∨
    ∃ actor i scope row row', step.published w = some (actor, i, scope) ∧
      Publishes w w' actor i scope row row' := by
  cases step with
  | create actor p =>
    obtain ⟨profiles, hcreate, h⟩ := bind_eq_ok.1 h
    cases h
    obtain ⟨content, -, hcreate⟩ := bind_eq_ok.1 hcreate
    split_ifs at hcreate
    · cases hcreate
    · cases hcreate
      exact Or.inl ⟨actor, p, _, rfl, rfl, rfl⟩
  | update actor i p =>
    obtain ⟨profiles, hupdate, h⟩ := bind_eq_ok.1 h
    cases h
    obtain ⟨row, hrow, hupdate⟩ := bind_eq_ok.1 hupdate
    obtain ⟨content, -, hupdate⟩ := bind_eq_ok.1 hupdate
    cases hupdate
    exact Or.inr (Or.inl ⟨actor, i, p, row, _, rfl, manageableProfile_ok hrow, rfl, rfl,
      rfl, rfl, rfl, rfl⟩)
  | publish actor i =>
    obtain ⟨row, hrow, h⟩ := bind_eq_ok.1 h
    have hrow := manageableProfile_ok hrow
    obtain ⟨hconflict, row', hversion, hw, hrep⟩ := publishProfile_ok h
    refine Or.inr (Or.inr ⟨actor, i, row.scope, row, row', ?_, hrow, hconflict, hversion, hw, hrep⟩)
    rw [PersonaStep.published, hrow]
    rfl
  | rollback actor i version =>
    obtain ⟨row, hrow, h⟩ := bind_eq_ok.1 h
    cases hv : w.versions.find? fun v => v.profileId == i && v.version == version with
    | none =>
      rw [hv] at h
      cases h
    | some v =>
      rw [hv] at h
      obtain ⟨content, -, h⟩ := bind_eq_ok.1 h
      obtain ⟨row', hpublish⟩ := publishes_restored (manageableProfile_ok hrow) h
      refine Or.inr (Or.inr ⟨actor, i, v.snapshot.scope, row, row', ?_, hpublish⟩)
      rw [PersonaStep.published, hv]
      rfl
  | publishReview actor review now =>
    obtain ⟨row, hrow, h⟩ := bind_eq_ok.1 h
    by_cases hstatus : review.status ≠ .approved
    · rw [if_pos hstatus] at h
      cases h
    rw [if_neg hstatus] at h
    by_cases hstart : review.releaseWindowStart.any (now < ·)
    · rw [if_pos hstart] at h
      cases h
    rw [if_neg hstart] at h
    by_cases hend : review.releaseWindowEnd.any (· < now)
    · rw [if_pos hend] at h
      cases h
    rw [if_neg hend] at h
    obtain ⟨content, -, h⟩ := bind_eq_ok.1 h
    obtain ⟨row', hpublish⟩ := publishes_restored (manageableProfile_ok hrow) h
    exact Or.inr (Or.inr ⟨actor, review.profileId, review.snapshot.scope, row, row', rfl, hpublish⟩)

/-! ## the scopes behind a call -/

lemma distinct_insert (hp : p.publishedVersion = 0) (hd : Distinct tenantKey t) :
    Distinct tenantKey (t.insert p) := by
  have hold : ∀ j q, Served tenantKey (t.insert p) j q → Served tenantKey t j q := by
    intro j q hq
    have hfound := hq.found
    rw [t.get?_insert] at hfound
    split_ifs at hfound with hj
    · cases hfound
      have hserved := hq.served
      unfold PersonaProfile.isServed at hserved
      rw [hp] at hserved
      simp at hserved
    · exact ⟨hfound, hq.visible, hq.served⟩
  exact fun j q hq k r hr => hd j q (hold j q hq) k r (hold k r hr)

/-- one profile is replaced: the scopes are distinct if its new one is, where it is served. -/
lemma distinct_set (hrow : t.get? i = some p) (hd : Distinct tenantKey t) :
    Distinct tenantKey (t.set i q) ↔
      (q.visibleTo (some tenantKey) = true → q.isServed = true →
        Alone tenantKey t i q.scope) := by
  have hself : (t.set i q).get? i = some q := by
    rw [Table.get?_set, if_pos rfl, hrow]
    rfl
  have hother : ∀ {j r}, j ≠ i → (Served tenantKey (t.set i q) j r ↔ Served tenantKey t j r) := by
    intro j r hne
    have hget : (t.set i q).get? j = t.get? j := by
      rw [Table.get?_set, if_neg hne]
    constructor
    · intro h
      exact ⟨hget ▸ h.found, h.visible, h.served⟩
    · intro h
      exact ⟨hget.trans h.found, h.visible, h.served⟩
  constructor
  · intro h hvisible hserved j r hr hne
    exact h i q ⟨hself, hvisible, hserved⟩ j r ((hother hne).2 hr) hne
  · intro h j r hr k u hu hne
    by_cases hj : j = i
    · subst hj
      have heq : r = q := Option.some.inj (hr.found.symm.trans hself)
      subst heq
      exact h hr.visible hr.served k u ((hother hne).1 hu) hne
    · by_cases hk : k = i
      · subst hk
        have heq : u = q := Option.some.inj (hu.found.symm.trans hself)
        subst heq
        have hr := (hother hj).1 hr
        exact fun heq => h hu.visible hu.served j r hr hj heq.symm
      · exact hd j r ((hother hj).1 hr) k u ((hother hk).1 hu) hne

lemma alone_of_noConflict (h : scopeConflict actor i scope t = false) :
    Alone tenantKey t i scope ↔ AloneBeyond tenantKey actor t i scope := by
  constructor
  · exact fun halone j q hq hne _ => halone j q hq hne
  · intro hbeyond j q hq hne hscope
    by_cases hmanage : q.manageableBy actor = true
    · unfold scopeConflict at h
      rw [List.any_eq_false] at h
      refine h (j, q) (t.mem_rows.2 hq.found) ?_
      simp [hne, hq.served, hscope, hmanage]
    · exact hbeyond j q hq hne (Bool.eq_false_iff.2 hmanage) hscope

lemma isServed_iff : p.isServed = true ↔ p.isActive = true ∧ 0 < p.publishedVersion := by
  unfold PersonaProfile.isServed
  rw [Bool.and_eq_true, decide_eq_true_eq]

lemma distinct_step (hd : Distinct tenantKey w.profiles) (haccept : Accepted env w step) :
    Distinct tenantKey (personaStep env step w).profiles ↔ KeepsScopes tenantKey w step := by
  obtain ⟨w', hw'⟩ := haccept
  have hstep : personaStep env step w = w' := by
    unfold personaStep
    rw [hw']
  rw [hstep]
  rcases personaCall_ok hw' with ⟨actor, p, row, rfl, hnew, hw⟩ |
    ⟨actor, i, p, row, row', rfl, hrow, hw, hversion, hrep⟩ |
    ⟨actor, i, scope, row, row', hpublished, hpub⟩
  · rw [hw]
    refine iff_of_true (distinct_insert hnew hd) ⟨?_, ?_⟩
    · exact fun _ _ _ _ h => by cases h
    · exact fun _ _ _ _ h => by cases h
  · rw [hw, distinct_set hrow hd, hrep.visible, isServed_iff, hrep.isActive, hversion, hrep.scope]
    constructor
    · intro h
      refine ⟨?_, fun _ _ _ _ h => by cases h⟩
      intro actor' k p' row₁ heq hrow₁ hvisible hactive hserved
      cases heq
      rw [hrow] at hrow₁
      cases hrow₁
      exact h hvisible ⟨hactive, hserved⟩
    · intro h hvisible hserved
      exact h.1 actor i p row rfl hrow hvisible hserved.1 hserved.2
  · rw [hpub.written, distinct_set hpub.found hd, hpub.replaces.visible, isServed_iff,
      hpub.replaces.isActive, hpub.replaces.scope, alone_of_noConflict hpub.noConflict]
    constructor
    · intro h
      refine ⟨?_, ?_⟩
      · rintro actor' k p' row₁ rfl
        cases hpublished
      · intro actor' k scope' row₁ hpublished' hrow₁ hvisible hactive
        rw [hpublished] at hpublished'
        cases hpublished'
        rw [hpub.found] at hrow₁
        cases hrow₁
        exact h hvisible ⟨hactive, hpub.published⟩
    · intro h hvisible hserved
      exact h.2 actor i scope row hpublished hpub.found hvisible hserved.1

lemma withinLimit_of_next (h : t.next ≤ 200) : WithinLimit env tenantKey t := by
  intro i p hp
  unfold listActive
  have hlength : t.rows.length ≤ 200 := by
    refine le_trans ?_ h
    have hle := List.length_filterMap_le (fun i => (t.row i).map fun a => (i, a))
      (List.range t.next)
    rw [List.length_range] at hle
    exact hle
  rw [List.take_of_length_le]
  · rw [List.mem_mergeSort, List.mem_filter, hp.visible, (isServed_iff.1 hp.served).1]
    exact ⟨t.mem_rows.2 hp.found, rfl⟩
  · rw [List.length_mergeSort]
    exact (List.length_filter_le _ _).trans hlength

variable (env tenantKey) in
theorem persona_resolution (l : List PersonaStep)
    (hl : Along (personaStep env) (Accepted env) PersonaWorld.start l) :
    Along (personaStep env)
        (fun w i => ResolvesWell env tenantKey (personaStep env i w).profiles) .start l ↔
      Along (personaStep env) (Harmless env tenantKey) .start l := by
  refine Along.congr (I := fun w => Distinct tenantKey w.profiles) ?_ ?_ ?_ hl
  · intro w i hd haccept
    rw [resolvesWell_iff, distinct_step hd haccept]
    exact Iff.rfl
  · intro w i hd haccept hharmless
    exact (distinct_step hd haccept).2 hharmless.1
  · intro i p hp
    cases hp.found

end Resolution

namespace Samples

def env : PersonaEnv := ⟨id, .ok, fun _ _ => true⟩

def profile (key language : String) : ProfileCreate :=
  ⟨key.toList, "Nexus".toList, none, ⟨none, none, some language.toList⟩, true,
    some "summary".toList, []⟩

def speaks (language : String) : ProfileUpdate :=
  ⟨none, none, none, none, some (some language.toList), none, none, none⟩

end Samples

open Samples in
/-- a global template that is published and then speaks another language. -/
theorem template_resolves : Along (personaStep env)
    (fun w i => ResolvesWell env "acme".toList (personaStep env i w).profiles) .start
    [.create none (profile "a" "en"), .publish none 1, .update none 1 (speaks "de")] := by
  have haccept : Along (personaStep env) (Accepted env) .start
      [.create none (profile "a" "en"), .publish none 1, .update none 1 (speaks "de")] :=
    ⟨⟨_, rfl⟩, ⟨_, rfl⟩, ⟨_, rfl⟩, trivial⟩
  refine (persona_resolution env "acme".toList _ haccept).2 ⟨⟨⟨?_, ?_⟩, ?_⟩, ⟨⟨?_, ?_⟩, ?_⟩,
    ⟨⟨?_, ?_⟩, ?_⟩, trivial⟩
  · exact fun _ _ _ _ h => by cases h
  · exact fun _ _ _ _ h => by cases h
  · exact withinLimit_of_next (by decide)
  · exact fun _ _ _ _ h => by cases h
  · intro actor k scope row h _ _ _ j q _ _ hmanage
    cases h
    cases hmanage
  · exact withinLimit_of_next (by decide)
  · intro actor k p row h _ _ _ _ j q hq hne
    cases h
    have hlt : j < 2 := Table.lt_next hq.found
    have hzero : j = 0 := by omega
    subst hzero
    cases hq.found
  · exact fun _ _ _ _ h => by cases h
  · exact withinLimit_of_next (by decide)

open Samples in
theorem update_takes_scope :
    Along (personaStep env) (Accepted env) .start
      [.create none (profile "a" "en"), .publish none 1, .create none (profile "b" "de"),
        .publish none 2, .update none 2 (speaks "en")] ∧
    ¬ Along (personaStep env)
      (fun w i => ResolvesWell env "acme".toList (personaStep env i w).profiles) .start
      [.create none (profile "a" "en"), .publish none 1, .create none (profile "b" "de"),
        .publish none 2, .update none 2 (speaks "en")] := by
  refine ⟨⟨⟨_, rfl⟩, ⟨_, rfl⟩, ⟨_, rfl⟩, ⟨_, rfl⟩, ⟨_, rfl⟩, trivial⟩, ?_⟩
  rintro ⟨-, -, -, -, h, -⟩
  exact (resolvesWell_iff.1 h).1 1 _ ⟨rfl, rfl, rfl⟩ 2 _ ⟨rfl, rfl, rfl⟩ (by decide) rfl

end NexusHelpdesk.Personas
