import NexusHelpdesk.Auth.Mfa

/-!
# MFA credentials are single use

* `SingleUse`: no recovery code is accepted twice, and the accepted time steps of a secret rise;
* `Unraced`: a commit finds what its check rested on as it was read, drawn secrets and codes are
  new, and no comparison meets a digit outside ASCII;
* `MfaInv`, `mfaInv_step`: what every such step preserves;
* `mfa_single_use`: **in every run of such steps credentials are single use and none is refused by
  an exception**;
* `mfa_race`: two logins with one recovery code, and six Arabic digits.
-/

namespace NexusHelpdesk.Auth

open Lib

/-! ## the property -/

def Grant.code : Grant → Option Text
  | .totp _ _ => none
  | .recovery code _ => some code

def Grant.stepOf (secret : Text) : Grant → Option ℤ
  | .totp s step => if s = secret then some step else none
  | .recovery _ _ => none

/-- the latest comes first. -/
structure SingleUse (accepted : List Grant) : Prop where
  codes : (accepted.filterMap Grant.code).Nodup
  steps : ∀ secret, (accepted.filterMap (Grant.stepOf secret)).Pairwise (· > ·)

/-- credentials are single use, and no verification has raised. -/
structure MfaOk (w : MfaWorld) : Prop where
  singleUse : SingleUse w.accepted
  quiet : w.raised = []

/-! ## the condition -/

section Condition
variable (env : MfaEnv)

/-- six digits are ASCII, unless no time step is left to compare them with. -/
def Comparable (code : Text) (lastUsedStep : Option ℤ) (currentStep : ℤ) : Prop :=
  (codeDigits env code).length = 6 →
    (∃ step ∈ window currentStep, lastUsedStep.any (step ≤ ·) = false) →
      isAscii (codeDigits env code) = true

def MfaRequest.credential : MfaRequest → Text
  | .login credential => credential
  | .regenerate credential _ => credential
  | .disable credential => credential
  | .confirm code _ => code

def MfaRequest.lastUsedStep (r : MfaRequest) (p : CredentialPolicy) : Option ℤ :=
  match r with
  | .confirm _ _ => none
  | _ => p.lastUsedStep

/-- what the check of a request rested on is as it was read. -/
def AsRead (stored : CredentialPolicy) (a : Accepted) : Prop :=
  match a.request, a.grant with
  | .confirm _ _, _ => stored.pendingSecret = a.read.pendingSecret
  | _, .totp _ _ => stored.secret = a.read.secret ∧ stored.lastUsedStep = a.read.lastUsedStep
  | _, .recovery _ _ => stored.recoveryHashes = a.read.recoveryHashes

def MfaRequest.hashes : MfaRequest → List Text
  | .regenerate _ hashes => hashes
  | .confirm _ hashes => hashes
  | _ => []

def Apart (hashes : List Text) : Prop :=
  hashes.Pairwise fun h h' => ∀ t, ¬(env.verifySecret t h = true ∧ env.verifySecret t h' = true)

def Unopened (accepted : List Grant) (hashes : List Text) : Prop :=
  ∀ code ∈ accepted.filterMap Grant.code, ∀ h ∈ hashes, env.verifySecret code h = false

def Unraced (w : MfaWorld) (i : MfaStep) : Prop :=
  match i with
  | .read _ currentStep r =>
    Comparable env r.credential (r.lastUsedStep w.policy) currentStep
  | .commit t => ∀ a ∈ w.open_ t, AsRead w.policy a ∧ Apart env a.request.hashes ∧
      Unopened env (a.grant :: w.accepted) a.request.hashes
  | .beginSetup secret => ∀ g ∈ w.accepted, ∀ step, g ≠ .totp secret step
  | _ => True

end Condition

/-! ## what a request accepts -/

section Attempt
variable {env : MfaEnv} {policy : CredentialPolicy} {code secret credential : Text}
  {last : Option ℤ} {currentStep step : ℤ} {r : MfaRequest} {a : Accepted} {e : MfaError}
  {steps : List ℤ}

lemma firstMatch_fresh (h : firstMatch env secret code last steps = .ok (some step)) :
    last.any (step ≤ ·) = false := by
  induction steps with
  | nil => cases h
  | cons s rest ih =>
    unfold firstMatch at h
    split at h
    · exact ih h
    · rename_i hnew
      split at h
      · cases h
      · split at h
        · cases h
          exact Bool.eq_false_iff.2 hnew
        · exact ih h

lemma firstMatch_ascii (hascii : isAscii code = true) :
    ∃ o, firstMatch env secret code last steps = .ok o := by
  induction steps with
  | nil => exact ⟨none, rfl⟩
  | cons s rest ih =>
    unfold firstMatch
    split
    · exact ih
    · rw [if_neg (by rw [hascii]; decide)]
      split
      · exact ⟨_, rfl⟩
      · exact ih

lemma firstMatch_used (hused : ∀ s ∈ steps, last.any (s ≤ ·) = true) :
    firstMatch env secret code last steps = .ok none := by
  induction steps with
  | nil => rfl
  | cons s rest ih =>
    unfold firstMatch
    rw [if_pos (hused s (List.mem_cons_self ..))]
    exact ih fun s hs => hused s (List.mem_cons_of_mem _ hs)

lemma verifyTotp_fresh (h : verifyTotp env secret code last currentStep = .ok (some step)) :
    last.any (step ≤ ·) = false := by
  unfold verifyTotp at h
  split at h
  · cases h
  · exact firstMatch_fresh h

variable (secret) in
lemma verifyTotp_ok (h : Comparable env code last currentStep) :
    ∃ o, verifyTotp env secret code last currentStep = .ok o := by
  unfold verifyTotp
  split
  · exact ⟨none, rfl⟩
  · rename_i hsix
    by_cases hleft : ∃ s ∈ window currentStep, last.any (s ≤ ·) = false
    · exact firstMatch_ascii (h (not_not.1 hsix) hleft)
    · refine ⟨none, firstMatch_used ?_⟩
      intro s hs
      by_contra hnew
      exact hleft ⟨s, hs, Bool.eq_false_iff.2 hnew⟩

lemma popHash_some {hashes left : List Text} (h : popHash env code hashes = some left) :
    ∃ pre x post, hashes = pre ++ x :: post ∧ left = pre ++ post ∧
      env.verifySecret code x = true := by
  induction hashes generalizing left with
  | nil => cases h
  | cons x rest ih =>
    unfold popHash at h
    split at h
    · rename_i hopen
      cases h
      exact ⟨[], x, rest, rfl, rfl, hopen⟩
    · obtain ⟨left', hleft, rfl⟩ := Option.map_eq_some_iff.1 h
      obtain ⟨pre, y, post, rfl, rfl, hopen⟩ := ih hleft
      exact ⟨x :: pre, y, post, rfl, rfl, hopen⟩

inductive Verified (env : MfaEnv) (policy : CredentialPolicy) : Grant → Prop
  | totp (secret : Text) (step : ℤ) (hsecret : policy.secret = some secret)
      (hfresh : policy.lastUsedStep.any (step ≤ ·) = false) :
      Verified env policy (.totp secret step)
  | recovery (code : Text) (left : List Text)
      (hpop : popHash env code policy.recoveryHashes = some left) :
      Verified env policy (.recovery code left)

lemma verified_of_ok {g : Grant}
    (h : verifyMfaCredential env policy credential currentStep = .ok (some g)) :
    policy.mfaEnabled = true ∧ Verified env policy g := by
  unfold verifyMfaCredential at h
  split at h
  · cases h
  · rename_i henabled
    refine ⟨Bool.not_eq_false _ ▸ henabled, ?_⟩
    cases hsecret : policy.secret with
    | none =>
      rw [hsecret] at h
      cases h
    | some secret =>
      rw [hsecret] at h
      obtain ⟨o, ho, h⟩ := bind_eq_ok.1 h
      cases o with
      | some step =>
        cases h
        exact .totp secret step hsecret (verifyTotp_fresh ho)
      | none =>
        have hpop := Except.ok.inj h
        obtain ⟨left, hleft, rfl⟩ := Option.map_eq_some_iff.1 hpop
        exact .recovery _ left hleft

inductive Attempted (env : MfaEnv) (policy : CredentialPolicy) : Accepted → Prop
  | verified (r : MfaRequest) (g : Grant) (hr : ∀ code hashes, r ≠ .confirm code hashes)
      (henabled : policy.mfaEnabled = true) (hg : Verified env policy g) :
      Attempted env policy ⟨r, policy, r.finish (policy.grant g), g⟩
  | confirmed (code secret : Text) (hashes : List Text) (step : ℤ)
      (hpending : policy.pendingSecret = some secret) :
      Attempted env policy ⟨.confirm code hashes, policy,
        ⟨true, some secret, none, hashes, some step⟩, .totp secret step⟩

lemma attempted_of_ok (h : attempt env policy currentStep r = .ok (some a)) :
    Attempted env policy a := by
  have hverified : ∀ credential, (∀ code hashes, r ≠ .confirm code hashes) →
      (do
        let grant ← verifyMfaCredential env policy credential currentStep
        return grant.map fun g => (⟨r, policy, r.finish (policy.grant g), g⟩ : Accepted)) =
        .ok (some a) → Attempted env policy a := by
    intro credential hr h
    obtain ⟨o, ho, h⟩ := bind_eq_ok.1 h
    obtain ⟨g, hg, rfl⟩ := Option.map_eq_some_iff.1 (Except.ok.inj h)
    rw [hg] at ho
    obtain ⟨henabled, hgrant⟩ := verified_of_ok ho
    exact .verified r g hr henabled hgrant
  cases r with
  | login credential | regenerate credential hashes | disable credential =>
    exact hverified credential (fun _ _ h => by cases h) h
  | confirm code hashes =>
    change (confirmMfaSetup env policy code hashes currentStep).map some = .ok (some a) at h
    unfold confirmMfaSetup at h
    cases hpending : policy.pendingSecret with
    | none =>
      rw [hpending] at h
      cases h
    | some secret =>
      rw [hpending] at h
      dsimp only at h
      cases htotp : verifyTotp env secret code none currentStep with
      | error e =>
        rw [htotp] at h
        cases h
      | ok o =>
        rw [htotp] at h
        cases o with
        | none => cases h
        | some step =>
          cases h
          exact .confirmed code secret hashes step hpending

lemma attempt_quiet (h : Comparable env r.credential (r.lastUsedStep policy) currentStep)
    (he : attempt env policy currentStep r = .error e) : e.ofComparison = false := by
  have hverified : ∀ credential, Comparable env credential policy.lastUsedStep currentStep →
      (do
        let grant ← verifyMfaCredential env policy credential currentStep
        return grant.map fun g => (⟨r, policy, r.finish (policy.grant g), g⟩ : Accepted)) =
        .error e → e.ofComparison = false := by
    intro credential hcomparable h
    unfold verifyMfaCredential at h
    split at h
    · cases h
    · cases hsecret : policy.secret with
      | none =>
        rw [hsecret] at h
        cases h
        rfl
      | some secret =>
        obtain ⟨o, ho⟩ := verifyTotp_ok secret hcomparable
        rw [hsecret] at h
        dsimp only at h
        rw [ho] at h
        cases o with
        | none => cases h
        | some step => cases h
  cases r with
  | login credential | regenerate credential hashes | disable credential =>
    exact hverified credential h he
  | confirm code hashes =>
    change (confirmMfaSetup env policy code hashes currentStep).map some = .error e at he
    unfold confirmMfaSetup at he
    cases hpending : policy.pendingSecret with
    | none =>
      rw [hpending] at he
      cases he
      rfl
    | some secret =>
      obtain ⟨o, ho⟩ := verifyTotp_ok secret h
      rw [hpending] at he
      dsimp only at he
      change verifyTotp env secret code none currentStep = .ok o at ho
      rw [ho] at he
      cases o with
      | none =>
        cases he
        rfl
      | some step => cases he

end Attempt

/-! ## rows and logs -/

structure RowOk (p : CredentialPolicy) : Prop where
  disabled : p.mfaEnabled = false → p.secret = none ∧ p.lastUsedStep = none
  enabled : p.mfaEnabled = true → p.secret.isSome ∧ p.lastUsedStep.isSome ∧ p.pendingSecret = none

section Logs
variable {env : MfaEnv} {accepted : List Grant} {secret code : Text} {step : ℤ}
  {hashes left read new : List Text} {g : Grant}

lemma codes_recovery : (Grant.recovery code left :: accepted).filterMap Grant.code =
    code :: accepted.filterMap Grant.code := rfl

lemma stepOf_self : (Grant.totp secret step).stepOf secret = some step := if_pos rfl

lemma stepOf_of_ne {s : Text} (h : secret ≠ s) : (Grant.totp secret step).stepOf s = none :=
  if_neg h

lemma mem_steps {n : ℤ} : n ∈ accepted.filterMap (Grant.stepOf secret) ↔
    .totp secret n ∈ accepted := by
  rw [List.mem_filterMap]
  constructor
  · rintro ⟨g, hg, hn⟩
    cases g with
    | totp s m =>
      by_cases hs : s = secret
      · subst hs
        rw [stepOf_self] at hn
        cases hn
        exact hg
      · rw [stepOf_of_ne hs] at hn
        cases hn
    | recovery code left => cases hn
  · intro h
    exact ⟨_, h, stepOf_self⟩

lemma SingleUse.totp (h : SingleUse accepted) (hlt : ∀ m, .totp secret m ∈ accepted → m < step) :
    SingleUse (.totp secret step :: accepted) where
  codes := h.codes
  steps := by
    intro s
    by_cases hs : secret = s
    · subst hs
      rw [List.filterMap_cons_some stepOf_self]
      refine List.pairwise_cons.2 ⟨?_, h.steps secret⟩
      intro m hm
      exact hlt m (mem_steps.1 hm)
    · rw [List.filterMap_cons_none (stepOf_of_ne hs)]
      exact h.steps s

lemma SingleUse.recovery (h : SingleUse accepted) (hnew : code ∉ accepted.filterMap Grant.code) :
    SingleUse (.recovery code left :: accepted) where
  codes := by
    rw [codes_recovery]
    exact List.nodup_cons.2 ⟨hnew, h.codes⟩
  steps := h.steps

lemma Unopened.totp (h : Unopened env accepted hashes) :
    Unopened env (.totp secret step :: accepted) hashes := h

lemma Unopened.of_cons (h : Unopened env (g :: accepted) hashes) : Unopened env accepted hashes := by
  intro code hcode
  refine h code ?_
  obtain ⟨g', hg', hc⟩ := List.mem_filterMap.1 hcode
  exact List.mem_filterMap.2 ⟨g', List.mem_cons_of_mem _ hg', hc⟩

lemma Unopened.nil : Unopened env accepted [] := by
  intro code _ h hh
  cases hh

lemma Unopened.changed (hn : Unopened env accepted new) (ho : Unopened env accepted hashes) :
    Unopened env accepted (changed read new hashes) := by
  unfold Lib.changed
  split
  · exact ho
  · exact hn

lemma Apart.changed (hn : Apart env new) (ho : Apart env hashes) :
    Apart env (changed read new hashes) := by
  unfold Lib.changed
  split
  · exact ho
  · exact hn

lemma popHash_new (h : Unopened env accepted hashes) (hpop : popHash env code hashes = some left) :
    code ∉ accepted.filterMap Grant.code := by
  obtain ⟨pre, x, post, rfl, -, hopen⟩ := popHash_some hpop
  intro hmem
  rw [h code hmem x (by simp)] at hopen
  cases hopen

lemma popHash_left (ha : Apart env hashes) (h : Unopened env accepted hashes)
    (hpop : popHash env code hashes = some left) :
    Apart env left ∧ Unopened env (.recovery code left :: accepted) left := by
  obtain ⟨pre, x, post, rfl, rfl, hopen⟩ := popHash_some hpop
  have hsub : List.Sublist (pre ++ post) (pre ++ x :: post) :=
    (List.sublist_cons_self x post).append_left pre
  refine ⟨List.Pairwise.sublist hsub ha, ?_⟩
  intro c hc y hy
  rw [codes_recovery] at hc
  rcases List.mem_cons.1 hc with rfl | hold
  · cases hv : env.verifySecret c y with
    | false => rfl
    | true =>
      obtain ⟨-, hpost, hcross⟩ := List.pairwise_append.1 ha
      rcases List.mem_append.1 hy with hpre | hpost'
      · exact absurd ⟨hv, hopen⟩ (hcross y hpre x (List.mem_cons_self ..) c)
      · exact absurd ⟨hopen, hv⟩ ((List.pairwise_cons.1 hpost).1 y hpost' c)
  · exact h c hold y (hsub.subset hy)

lemma popHash_ne (h : Unopened env (.recovery code left :: accepted) new)
    (hpop : popHash env code hashes = some left) : new ≠ hashes := by
  obtain ⟨pre, x, post, rfl, -, hopen⟩ := popHash_some hpop
  rintro rfl
  have hfalse := h code (by
    rw [codes_recovery]
    exact List.mem_cons_self ..) x (by simp)
  rw [hopen] at hfalse
  cases hfalse

lemma popHash_ne_left (hpop : popHash env code hashes = some left) : left ≠ hashes := by
  obtain ⟨pre, x, post, rfl, rfl, -⟩ := popHash_some hpop
  intro heq
  have hlength := congrArg List.length heq
  rw [List.length_append, List.length_append, List.length_cons] at hlength
  omega

end Logs

/-! ## the invariant -/

section Invariant
variable (env : MfaEnv)

structure PolicyInv (p : CredentialPolicy) (accepted : List Grant) : Prop where
  row : RowOk p
  bound : ∀ s n, .totp s n ∈ accepted → p.secret = some s → ∃ l, p.lastUsedStep = some l ∧ n ≤ l
  pending : ∀ s n, .totp s n ∈ accepted → p.pendingSecret ≠ some s
  apart : Apart env p.recoveryHashes
  unopened : Unopened env accepted p.recoveryHashes
  singleUse : SingleUse accepted

structure MfaInv (w : MfaWorld) : Prop where
  policy : PolicyInv env w.policy w.accepted
  held : ∀ t a, w.open_ t = some a → RowOk a.read ∧ Attempted env a.read a
  quiet : w.raised = []

variable {env} {p stored read : CredentialPolicy} {accepted : List Grant} {secret code : Text}
  {hashes left : List Text} {step : ℤ} {a : Accepted} {w : MfaWorld} {s : Text} {n : ℤ}

lemma mem_cons_totp (h : .totp s n ∈ Grant.totp secret step :: accepted) :
    (s = secret ∧ n = step) ∨ .totp s n ∈ accepted := by
  rcases List.mem_cons.1 h with heq | hold
  · injection heq with hs hn
    exact Or.inl ⟨hs, hn⟩
  · exact Or.inr hold

lemma mem_cons_recovery (h : .totp s n ∈ Grant.recovery code left :: accepted) :
    .totp s n ∈ accepted := by
  rcases List.mem_cons.1 h with heq | hold
  · cases heq
  · exact hold

lemma RowOk.enabled_of_secret (h : RowOk p) (hs : p.secret = some secret) :
    p.mfaEnabled = true := by
  cases henabled : p.mfaEnabled with
  | true => rfl
  | false =>
    rw [(h.disabled henabled).1] at hs
    cases hs

lemma PolicyInv.advance (h : PolicyInv env p accepted) (hs : p.secret = some secret)
    (hnew : p.lastUsedStep.any (step ≤ ·) = false) (ha : Apart env hashes)
    (hu : Unopened env accepted hashes) :
    PolicyInv env { p with lastUsedStep := some step, recoveryHashes := hashes }
      (.totp secret step :: accepted) := by
  have henabled := h.row.enabled_of_secret hs
  -- accepted steps of the secret are up to the last used one
  have hbehind : ∀ m, .totp secret m ∈ accepted → m < step := by
    intro m hm
    obtain ⟨l, hl, hle⟩ := h.bound secret m hm hs
    rw [hl, Option.any_some, decide_eq_false_iff_not] at hnew
    omega
  constructor
  · constructor
    · intro hdisabled
      exact absurd (henabled.symm.trans hdisabled) (by decide)
    · intro _
      obtain ⟨hsecret, -, hpending⟩ := h.row.enabled henabled
      exact ⟨hsecret, rfl, hpending⟩
  · intro s n hmem hsecret
    refine ⟨step, rfl, ?_⟩
    obtain rfl := Option.some.inj (hs.symm.trans hsecret)
    rcases mem_cons_totp hmem with ⟨-, rfl⟩ | hold
    · exact le_rfl
    · exact (hbehind n hold).le
  · intro s n _
    show p.pendingSecret ≠ some s
    rw [(h.row.enabled henabled).2.2]
    intro heq
    cases heq
  · exact ha
  · exact hu.totp
  · exact h.singleUse.totp hbehind

lemma PolicyInv.consume (h : PolicyInv env p accepted)
    (hpop : popHash env code p.recoveryHashes = some left) (ha : Apart env hashes)
    (hu : Unopened env (.recovery code left :: accepted) hashes) :
    PolicyInv env { p with recoveryHashes := hashes } (.recovery code left :: accepted) where
  row := ⟨h.row.disabled, h.row.enabled⟩
  bound := fun s n hmem hsecret => h.bound s n (mem_cons_recovery hmem) hsecret
  pending := fun s n hmem => h.pending s n (mem_cons_recovery hmem)
  apart := ha
  unopened := hu
  singleUse := h.singleUse.recovery (popHash_new h.unopened hpop)

lemma PolicyInv.clear (h : PolicyInv env p accepted) :
    PolicyInv env { p with mfaEnabled := false, secret := none, lastUsedStep := none } accepted where
  row := ⟨fun _ => ⟨rfl, rfl⟩, fun h => absurd h Bool.false_ne_true⟩
  bound := fun s n _ hsecret => by cases hsecret
  pending := h.pending
  apart := h.apart
  unopened := h.unopened
  singleUse := h.singleUse

lemma PolicyInv.enroll (h : PolicyInv env p accepted) (hp : p.pendingSecret = some secret)
    (ha : Apart env hashes) (hu : Unopened env accepted hashes) :
    PolicyInv env ⟨true, some secret, none, hashes, some step⟩ (.totp secret step :: accepted) := by
  constructor
  · exact ⟨fun h => absurd h.symm Bool.false_ne_true, fun _ => ⟨rfl, rfl, rfl⟩⟩
  · intro s n hmem hsecret
    obtain rfl := Option.some.inj hsecret
    refine ⟨step, rfl, ?_⟩
    rcases mem_cons_totp hmem with ⟨-, rfl⟩ | hold
    · exact le_rfl
    · exact absurd hp (h.pending _ n hold)
  · intro s n _ hpending
    cases hpending
  · exact ha
  · exact hu.totp
  · refine h.singleUse.totp ?_
    intro m hm
    exact absurd hp (h.pending secret m hm)

/-! ### commits -/

lemma step_ne (h : p.lastUsedStep.any (step ≤ ·) = false) : some step ≠ p.lastUsedStep := by
  intro heq
  rw [← heq, Option.any_some, decide_eq_false_iff_not] at h
  exact h le_rfl

variable {r : MfaRequest}

lemma commit_totp {new : List Text} (hfresh : read.lastUsedStep.any (step ≤ ·) = false) :
    commit stored ⟨r, read, { read with lastUsedStep := some step, recoveryHashes := new },
        .totp secret step⟩ =
      { stored with
        lastUsedStep := some step
        recoveryHashes := changed read.recoveryHashes new stored.recoveryHashes } := by
  unfold commit
  rw [changed_of_eq rfl, changed_of_eq rfl, changed_of_eq rfl, changed_of_ne (step_ne hfresh)]

lemma commit_recovery {new : List Text} :
    commit stored ⟨r, read, { read with recoveryHashes := new }, .recovery code left⟩ =
      { stored with
        recoveryHashes := changed read.recoveryHashes new stored.recoveryHashes } := by
  unfold commit
  rw [changed_of_eq rfl, changed_of_eq rfl, changed_of_eq rfl, changed_of_eq rfl]

lemma commit_disable {g : Grant} (hread : RowOk read) (henabled : read.mfaEnabled = true) :
    commit stored ⟨r, read, .fresh, g⟩ =
      { stored with
        mfaEnabled := false
        secret := none
        recoveryHashes := changed read.recoveryHashes [] stored.recoveryHashes
        lastUsedStep := none } := by
  obtain ⟨hsecret, hlast, hpending⟩ := hread.enabled henabled
  have hoff : changed read.mfaEnabled false stored.mfaEnabled = false := by
    rw [henabled]
    exact changed_of_ne Bool.false_ne_true
  have hsecret' : changed read.secret none stored.secret = none := by
    refine changed_of_ne ?_
    intro heq
    rw [← heq] at hsecret
    cases hsecret
  have hpending' : changed read.pendingSecret none stored.pendingSecret = stored.pendingSecret :=
    changed_of_eq hpending.symm
  have hlast' : changed read.lastUsedStep none stored.lastUsedStep = none := by
    refine changed_of_ne ?_
    intro heq
    rw [← heq] at hlast
    cases hlast
  unfold commit CredentialPolicy.fresh
  dsimp only
  rw [hoff, hsecret', hpending', hlast']

lemma commit_confirm (hread : RowOk read) (hpending : read.pendingSecret = some secret) :
    commit stored ⟨r, read, ⟨true, some secret, none, hashes, some step⟩, .totp secret step⟩ =
      ⟨true, some secret, none, changed read.recoveryHashes hashes stored.recoveryHashes,
        some step⟩ := by
  have hdisabled : read.mfaEnabled = false := by
    cases henabled : read.mfaEnabled with
    | false => rfl
    | true =>
      rw [(hread.enabled henabled).2.2] at hpending
      cases hpending
  obtain ⟨hsecret, hlast⟩ := hread.disabled hdisabled
  unfold commit
  dsimp only
  rw [hdisabled, hsecret, hlast, hpending, changed_of_ne (Ne.symm Bool.false_ne_true),
    changed_of_ne (Option.some_ne_none _), changed_of_ne (Option.some_ne_none _).symm,
    changed_of_ne (Option.some_ne_none _)]

lemma PolicyInv.commit (h : PolicyInv env stored accepted) (hread : RowOk a.read)
    (hattempted : Attempted env a.read a) (hasRead : AsRead stored a)
    (ha : Apart env a.request.hashes)
    (hu : Unopened env (a.grant :: accepted) a.request.hashes) :
    PolicyInv env (commit stored a) (a.grant :: accepted) := by
  obtain ⟨r, read, new, g⟩ := a
  change Attempted env read ⟨r, read, new, g⟩ at hattempted
  cases hattempted with
  | verified _ _ hr henabled hg =>
    cases r with
    | confirm code hashes => exact absurd rfl (hr code hashes)
    | login credential =>
      cases hg with
      | totp secret step hsecret hfresh =>
        obtain ⟨hs, hl⟩ := hasRead
        change PolicyInv env (Auth.commit stored ⟨.login credential, read,
          { read with lastUsedStep := some step, recoveryHashes := read.recoveryHashes },
          .totp secret step⟩) _
        rw [commit_totp hfresh, changed_of_eq rfl]
        exact h.advance (hs.trans hsecret) (hl ▸ hfresh) h.apart h.unopened
      | recovery code left hpop =>
        have hl : stored.recoveryHashes = read.recoveryHashes := hasRead
        change PolicyInv env (Auth.commit stored ⟨.login credential, read,
          { read with recoveryHashes := left }, .recovery code left⟩) _
        rw [commit_recovery, changed_of_ne (popHash_ne_left hpop)]
        rw [← hl] at hpop
        obtain ⟨hapart, hunopened⟩ := popHash_left h.apart h.unopened hpop
        exact h.consume hpop hapart hunopened
    | regenerate credential hashes =>
      cases hg with
      | totp secret step hsecret hfresh =>
        obtain ⟨hs, hl⟩ := hasRead
        change PolicyInv env (Auth.commit stored ⟨.regenerate credential hashes, read,
          { read with lastUsedStep := some step, recoveryHashes := hashes },
          .totp secret step⟩) _
        rw [commit_totp hfresh]
        exact h.advance (hs.trans hsecret) (hl ▸ hfresh) (ha.changed h.apart)
          (hu.of_cons.changed h.unopened)
      | recovery code left hpop =>
        have hl : stored.recoveryHashes = read.recoveryHashes := hasRead
        change PolicyInv env (Auth.commit stored ⟨.regenerate credential hashes, read,
          { read with recoveryHashes := hashes }, .recovery code left⟩) _
        have hne : hashes ≠ read.recoveryHashes := popHash_ne hu hpop
        rw [commit_recovery, changed_of_ne hne]
        exact h.consume (hl ▸ hpop) ha hu
    | disable credential =>
      change PolicyInv env (Auth.commit stored ⟨.disable credential, read, .fresh, g⟩) _
      rw [commit_disable hread henabled]
      cases hg with
      | totp secret step hsecret hfresh =>
        obtain ⟨hs, hl⟩ := hasRead
        exact (h.advance (hs.trans hsecret) (hl ▸ hfresh) (ha.changed h.apart)
          (hu.of_cons.changed h.unopened)).clear
      | recovery code left hpop =>
        have hl : stored.recoveryHashes = read.recoveryHashes := hasRead
        have hne : [] ≠ read.recoveryHashes := popHash_ne hu hpop
        rw [changed_of_ne hne]
        exact (h.consume (hl ▸ hpop) ha hu).clear
  | confirmed code secret hashes step hpending =>
    have hp : stored.pendingSecret = read.pendingSecret := hasRead
    change PolicyInv env (Auth.commit stored ⟨.confirm code hashes, read,
      ⟨true, some secret, none, hashes, some step⟩, .totp secret step⟩) _
    rw [commit_confirm hread hpending]
    exact h.enroll (hp.trans hpending) (ha.changed h.apart) (hu.of_cons.changed h.unopened)

/-! ### steps -/

lemma mfaInv_start : MfaInv env MfaWorld.start where
  policy :=
    { row := ⟨fun _ => ⟨rfl, rfl⟩, fun h => absurd h Bool.false_ne_true⟩
      bound := fun _ _ hmem => absurd hmem List.not_mem_nil
      pending := fun _ _ hmem => absurd hmem List.not_mem_nil
      apart := List.Pairwise.nil
      unopened := Unopened.nil
      singleUse := ⟨List.nodup_nil, fun _ => List.Pairwise.nil⟩ }
  held := fun t a h => by cases h
  quiet := rfl

lemma PolicyInv.withPending (h : PolicyInv env p accepted) {o : Option Text}
    (ho : p.mfaEnabled = true → o = none)
    (hnew : ∀ s n, .totp s n ∈ accepted → o ≠ some s) :
    PolicyInv env { p with pendingSecret := o } accepted where
  row := ⟨h.row.disabled, fun he => ⟨(h.row.enabled he).1, (h.row.enabled he).2.1, ho he⟩⟩
  bound := h.bound
  pending := hnew
  apart := h.apart
  unopened := h.unopened
  singleUse := h.singleUse

lemma MfaInv.readRow (h : MfaInv env w) {t : ℕ} {currentStep : ℤ}
    (hok : Comparable env r.credential (r.lastUsedStep w.policy) currentStep) :
    MfaInv env (mfaStep env (.read t currentStep r) w) := by
  unfold mfaStep
  dsimp only
  cases hattempt : attempt env w.policy currentStep r with
  | error e =>
    dsimp only
    rw [if_neg (by rw [attempt_quiet hok hattempt]; decide)]
    exact h
  | ok o =>
    cases o with
    | none => exact h
    | some a =>
      refine ⟨h.policy, ?_, h.quiet⟩
      intro v b hb
      rcases InHand.of_take hb with ⟨rfl, rfl⟩ | ⟨-, hold⟩
      · have hattempted := attempted_of_ok hattempt
        have hread : b.read = w.policy := by
          cases hattempted <;> rfl
        rw [hread]
        exact ⟨h.policy.row, hattempted⟩
      · exact h.held v b hold

lemma mfaInv_step (i : MfaStep) (h : MfaInv env w) (hok : Unraced env w i) :
    MfaInv env (mfaStep env i w) := by
  cases i with
  | read t currentStep r => exact h.readRow hok
  | commit t =>
    unfold mfaStep
    dsimp only
    cases ht : w.open_ t with
    | none => exact h
    | some a =>
      obtain ⟨hasRead, ha, hu⟩ := hok a ht
      obtain ⟨hread, hattempted⟩ := h.held t a ht
      refine ⟨h.policy.commit hread hattempted hasRead ha hu, ?_, h.quiet⟩
      intro v b hb
      exact h.held v b (InHand.of_release hb).2
  | abort t =>
    refine ⟨h.policy, ?_, h.quiet⟩
    intro v b hb
    exact h.held v b (InHand.of_release hb).2
  | beginSetup secret =>
    unfold mfaStep
    dsimp only
    split
    · exact h
    · rename_i hdisabled
      refine ⟨h.policy.withPending (fun he => absurd he hdisabled) ?_, h.held, h.quiet⟩
      intro s n hmem heq
      obtain rfl := Option.some.inj heq
      exact hok _ hmem n rfl
  | cancelSetup =>
    refine ⟨h.policy.withPending (fun _ => rfl) ?_, h.held, h.quiet⟩
    intro s n _ heq
    cases heq

end Invariant

theorem mfa_single_use (env : MfaEnv) (l : List MfaStep)
    (h : Along (mfaStep env) (Unraced env) MfaWorld.start l) :
    ∀ p, p <+: l → MfaOk (run (mfaStep env) MfaWorld.start p) := by
  rintro p ⟨rest, rfl⟩
  have hprefix := ((along_append _ _ _).1 h).1
  have hinv := Along.invariant (I := MfaInv env) (fun w i hw hok => mfaInv_step i hw hok)
    mfaInv_start hprefix
  exact ⟨hinv.policy.singleUse, hinv.quiet⟩

/-! ## runs -/

/-- a clear hash, and one code for every time step. -/
def plainMfaEnv : MfaEnv where
  isDigit := fun c => c.isDigit || (0x660 ≤ c.toNat && c.toNat ≤ 0x669)
  isAlnum := Char.isAlphanum
  upper := id
  totpCode := fun _ _ => "111111".toList
  verifySecret := fun code h => code = h

def setUp : List MfaStep :=
  [.beginSetup ['s'], .read 0 5 (.confirm "111111".toList ["A".toList]), .commit 0]

def loginOnce : List MfaStep := setUp ++ [.read 1 9 (.login "A".toList), .commit 1]

lemma unraced_loginOnce :
    Along (mfaStep plainMfaEnv) (Unraced plainMfaEnv) MfaWorld.start loginOnce := by
  refine ⟨?_, ?_, ?_, ?_, ?_, trivial⟩
  · intro g hg
    cases hg
  · intro _ _
    rfl
  · intro a ha
    cases ha
    refine ⟨rfl, List.pairwise_singleton _ _, ?_⟩
    intro code hcode
    cases hcode
  · intro hsix
    exact absurd hsix (by decide)
  · intro a ha
    cases ha
    exact ⟨rfl, List.Pairwise.nil, Unopened.nil⟩

theorem mfa_single_use_loginOnce :
    MfaOk (run (mfaStep plainMfaEnv) MfaWorld.start loginOnce) :=
  mfa_single_use plainMfaEnv loginOnce unraced_loginOnce loginOnce (List.prefix_refl _)

/-- two logins with one recovery code that read before either commits. -/
def loginTwice : List MfaStep :=
  setUp ++ [.read 1 9 (.login "A".toList), .read 2 9 (.login "A".toList), .commit 1, .commit 2]

def loginArabic : List MfaStep :=
  setUp ++ [.read 1 9 (.login "٠١٢٣٤٥".toList)]

theorem mfa_race :
    ¬MfaOk (run (mfaStep plainMfaEnv) MfaWorld.start loginTwice) ∧
      ¬MfaOk (run (mfaStep plainMfaEnv) MfaWorld.start loginArabic) := by
  constructor
  · intro h
    exact absurd h.singleUse.codes (by decide +kernel)
  · intro h
    exact absurd h.quiet (by decide +kernel)

end NexusHelpdesk.Auth
