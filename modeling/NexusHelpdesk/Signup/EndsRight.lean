import NexusHelpdesk.Signup.Session

/-!
# An embedded sign-up ends right

* `SignupOk`: one connection at most, no failed session beside its connection, no token in an ended
  session, and a later call completes the session;
* `EndsRight`: a step leads to such a state and leaves a completed session as it is;
* `Current`: a call acts on the row as it is, not on a copy that another call has overwritten;
* `ends_right`: **if every call acts on the current row, a sign-up ends right**;
* `refusal_fails_completed`: a second call that claims the session after a slow first one fails the
  completed session.
-/

namespace NexusHelpdesk.Signup

open Lib

section EndsRight
variable (env : SignupEnv) (s : SignupSession)

/-! ## the property -/

/-- a call with the state and the intent of the session. -/
def Admits (p : CompleteRequest) : Prop :=
  env.sha256 p.state = s.stateDigest ∧
    env.decodeState p.state = some ⟨s.id, s.tenantId, s.requestedBy, p.intent⟩

def HasOwn (w : SignupWorld) : Prop := ∃ c ∈ w.connections, c.bySession = true

/-- a call that comes in time, with the code of the session, which Meta accepts or whose token a
checkpoint holds, and with an account and a phone number that no other connection has. -/
structure Later (w : SignupWorld) (p : CompleteRequest) (now : Instant) (answer : MetaAnswer) :
    Prop where
  admitted : Admits env s p
  inTime : now < s.expiresAt
  released : w.row.status = .exchanging → HasOwn w ∨ w.row.updatedAt ≤ now - recoverAfter
  sameCode : w.row.codeFingerprint = none ∨ w.row.codeFingerprint = some (env.sha256 p.code)
  accepted : w.accepts p.code = true ∨ ∃ k, w.checkpoint = some k ∧ k.code = p.code
  answered : ∃ assets,
    exchangeAndValidate p (w.checkpoint.map (·.accessToken)) answer = .ok assets
  free : ∀ c ∈ w.connections, c.bySession = false →
    c.accountId ≠ p.intent.accountId ∧ c.phoneNumberId ≠ some p.phoneNumberId

def wholeCall (t : ℕ) (p : CompleteRequest) (now : Instant) (answer : MetaAnswer) :
    List SignupStep :=
  [.begin t p, .recover t now, .claim t now, .exchange t answer, .create t none, .complete t now]

structure SignupOk (w : SignupWorld) : Prop where
  oneConnection : (w.connections.filter (·.bySession)).length ≤ 1
  notFailed : HasOwn w → w.row.status ≠ .failed
  noToken : w.row.status = .completed ∨ w.row.status = .failed ∨ w.row.status = .expired →
    w.checkpoint = none
  completes : ∀ t p now answer, Later env s w p now answer →
    (run (signupStep env s) w (wholeCall t p now answer)).row.status = .completed

def EndsRight (w : SignupWorld) (i : SignupStep) : Prop :=
  SignupOk env s (signupStep env s i w) ∧
    (w.row.status = .completed → (signupStep env s i w).row = w.row)

/-- Meta accepts no code that the session was claimed with. -/
def CodeSpent (row : SignupRow) (accepts : Text → Bool) : Prop :=
  ∀ code, row.codeFingerprint = some (env.sha256 code) → accepts code = false

def UpToDate (w : SignupWorld) (c : Call) : Prop := c.version = w.version

/-- **the call of the step acts on the current row**, a recovery looks for the account of the
connection, and the code of a session that fails is one that Meta accepts no more. -/
def Current (w : SignupWorld) (i : SignupStep) : Prop :=
  match i with
  | .begin _ _ | .exchange _ _ | .crash _ | .other _ => True
  | .acceptCodes accepts => w.row.status = .failed → CodeSpent env w.row accepts
  | .recover t now => ∀ c, w.calls t = some c → c.stage = .begun →
      recoverInterrupted env s c.copy w.connections c.payload now ∉ [.none, .refused] →
      UpToDate w c ∧
        ∀ k ∈ w.connections, k.bySession = true → c.payload.intent.accountId = k.accountId
  | .claim t now => ∀ c, w.calls t = some c → c.stage = .ready →
      (claimSession env s c.copy w.checkpoint c.payload now).isOk = true → UpToDate w c
  | .recordFailure t now => ∀ c e, w.calls t = some c → c.stage = .exchangeFailed e →
      UpToDate w c ∧ (e.retryable = false → CodeSpent env w.row w.accepts)
  | .create t fault => ∀ c assets, w.calls t = some c → c.stage = .exchanged assets → UpToDate w c
  | .recordRefusal t now => ∀ c, w.calls t = some c → c.stage = .createFailed →
      UpToDate w c ∧ CodeSpent env w.row w.accepts
  | .complete t now => ∀ c id, w.calls t = some c → c.stage = .created id → UpToDate w c

/-! ## the invariant -/

def Stage.pastClaim : Stage → Bool
  | .begun | .ready => false
  | _ => true

structure Found (row : SignupRow) (c : Connection) : Prop where
  exchanging : row.status = .exchanging
  phone : c.phoneNumberId = row.phoneNumberId
  some_phone : row.phoneNumberId.isSome = true
  waba : c.wabaId = row.wabaId
  business : row.businessAccountId.isSome = true → c.businessAccountId.isSome = true →
    c.businessAccountId = row.businessAccountId

/-- the connection of the session, and the row beside it. -/
structure OwnOk (w : SignupWorld) (c : Connection) : Prop where
  account : ∃ q, Admits env s q ∧ c.accountId = q.intent.accountId
  scope : c.tenantId = s.tenantId ∧ c.isMetaCloud = true ∧ c.createdBy = s.requestedBy
  row : w.row.status = .completed ∨ Found w.row c

structure ClaimedOk (c : Call) : Prop where
  admitted : Admits env s c.payload
  exchanging : c.copy.status = .exchanging
  fingerprint : c.copy.codeFingerprint = some (env.sha256 c.payload.code)
  waba : c.copy.wabaId = some c.payload.wabaId
  phone : c.copy.phoneNumberId = some c.payload.phoneNumberId
  business : c.copy.businessAccountId = c.payload.businessAccountId
  assets : ∀ a, c.stage = .exchanged a → a.wabaId = c.payload.wabaId ∧
    a.phoneNumberId = c.payload.phoneNumberId ∧
    (c.payload.businessAccountId.isSome = true → a.businessAccountId = c.payload.businessAccountId)

structure SignupInv (w : SignupWorld) : Prop where
  own : ∀ c ∈ w.connections, c.bySession = true → OwnOk env s w c
  one : (w.connections.filter (·.bySession)).length ≤ 1
  status : w.row.status ∈ [.pending, .exchanging, .completed, .failed]
  token : ∀ k, w.checkpoint = some k →
    (w.row.status = .pending ∨ w.row.status = .exchanging) ∧
      w.row.codeFingerprint = some (env.sha256 k.code)
  failed : w.row.status = .failed →
    w.row.codeFingerprint ≠ none ∧ CodeSpent env w.row w.accepts
  known : ∀ t c, w.calls t = some c → c.version ≤ w.version ∧ (UpToDate w c → c.copy = w.row)
  claimed : ∀ t c, w.calls t = some c → c.stage.pastClaim = true → ClaimedOk env s c
  unique : ∀ t u c d, w.calls t = some c → w.calls u = some d → c.stage.pastClaim = true →
    d.stage.pastClaim = true → UpToDate w c → UpToDate w d → t = u
  created : ∀ t c, w.calls t = some c → c.stage.pastClaim = true → UpToDate w c → HasOwn w →
    ∃ id, c.stage = .created id

variable {env s} {w : SignupWorld} {c : Call} {t : ℕ} {p q : CompleteRequest} {now : Instant}
  {row copy : SignupRow} {checkpoint : Option Checkpoint} {answer : MetaAnswer}
  {resume : Option Text} {a : MetaSignupAssets} {d : Call}

lemma hasOwn_iff : HasOwn w ↔ w.connections.filter (·.bySession) ≠ [] := by
  unfold HasOwn
  rw [Ne, List.filter_eq_nil_iff]
  simp

lemma SignupRow.over_self (new stored : SignupRow) : new.over stored stored = new := by
  have hcolumn : ∀ {α : Type} [DecidableEq α] (a b : α), changed b a b = a := by
    intro α _ a b
    by_cases h : a = b
    · rw [changed_of_eq h, h]
    · exact changed_of_ne h
  unfold SignupRow.over
  simp only [hcolumn]

lemma admits_unique (hinj : Function.Injective env.sha256) (hp : Admits env s p)
    (hq : Admits env s q) : p.intent = q.intent := by
  have hstate : p.state = q.state := hinj (hp.1.trans hq.1.symm)
  have hpayload := hp.2
  rw [hstate, hq.2] at hpayload
  exact (StatePayload.mk.inj (Option.some.inj hpayload)).2.2.2.symm

lemma requirePending_ok (h : requirePending env s row p now = .ok ()) :
    row.status = .pending ∧ now < s.expiresAt ∧ Admits env s p := by
  unfold requirePending at h
  split_ifs at h with hstatus htime hdigest
  cases hpayload : env.decodeState p.state with
  | none =>
    rw [hpayload] at h
    cases h
  | some payload =>
    rw [hpayload] at h
    dsimp only at h
    split_ifs at h with hintent
    rw [not_not] at hstatus hdigest hintent
    exact ⟨hstatus, lt_of_not_ge htime, hdigest, hintent ▸ hpayload⟩

lemma requirePending_of (hrow : row.status = .pending) (hnow : now < s.expiresAt)
    (hp : Admits env s p) : requirePending env s row p now = .ok () := by
  unfold requirePending
  rw [if_neg (not_not.2 hrow), if_neg (not_le.2 hnow), if_neg (not_not.2 hp.1), hp.2]
  exact if_neg (not_not.2 rfl)

lemma claimSession_ok (h : claimSession env s copy checkpoint p now = .ok (row, resume)) :
    copy.status = .pending ∧ Admits env s p ∧ row = markExchanging env copy p now ∧
      ∀ k, checkpoint = some k → copy.codeFingerprint = some (env.sha256 p.code) := by
  unfold claimSession at h
  obtain ⟨u, hpending, h⟩ := bind_eq_ok.1 h
  obtain ⟨token, hload, h⟩ := bind_eq_ok.1 h
  cases h
  obtain ⟨hstatus, -, hadmits⟩ := requirePending_ok hpending
  refine ⟨hstatus, hadmits, rfl, ?_⟩
  rintro k rfl
  unfold loadCheckpoint at hload
  dsimp only at hload
  split_ifs at hload with hcode
  exact not_not.1 hcode

variable (env s row p now) in
lemma recover_cases (connections : List Connection) :
    recoverInterrupted env s row connections p now ∈ [.none, .refused] ∨
    (row.status = .exchanging ∧ ∃ c : Connection, recoverInterrupted env s row connections p now =
      .completed (markCompleted row c.id now)) ∨
    (row.status = .exchanging ∧ (∀ phone, row.phoneNumberId = some phone →
      connections.find? (Connection.isOf s phone p.intent.accountId) = none) ∧
      recoverInterrupted env s row connections p now =
        .released (restoreRetryable row "embedded_signup_interrupted_before_connection" now)) := by
  unfold recoverInterrupted
  by_cases hstatus : row.status ≠ .exchanging
  · rw [if_pos hstatus]
    exact Or.inl (by simp)
  rw [if_neg hstatus]
  by_cases hdigest : env.sha256 p.state ≠ s.stateDigest
  · rw [if_pos hdigest]
    exact Or.inl (by simp)
  rw [if_neg hdigest]
  rw [not_not] at hstatus
  cases hfind : row.phoneNumberId.bind fun phone =>
      connections.find? (Connection.isOf s phone p.intent.accountId) with
  | some c =>
    by_cases hmismatch : c.mismatches row = true
    · exact Or.inl (by simp [hmismatch])
    · exact Or.inr (Or.inl ⟨hstatus, c, if_neg hmismatch⟩)
  | none =>
    by_cases hstale : now - recoverAfter < row.updatedAt
    · exact Or.inl (by simp [hstale])
    · refine Or.inr (Or.inr ⟨hstatus, ?_, if_neg hstale⟩)
      intro phone hphone
      rw [hphone] at hfind
      exact hfind

lemma exchange_assets (h : exchangeAndValidate p resume answer = .ok a) :
    a.wabaId = p.wabaId ∧ a.phoneNumberId = p.phoneNumberId ∧
      (p.businessAccountId.isSome = true → a.businessAccountId = p.businessAccountId) := by
  unfold exchangeAndValidate at h
  split_ifs at h
  cases htoken : resolveToken resume answer with
  | error e =>
    rw [htoken] at h
    cases h
  | ok token =>
    cases howner : answer.owner with
    | error e =>
      rw [htoken, howner] at h
      cases h
    | ok observed =>
      rw [htoken, howner] at h
      dsimp only at h
      split_ifs at h
      cases h
      refine ⟨rfl, rfl, ?_⟩
      intro hsome
      obtain ⟨b, hb⟩ := Option.isSome_iff_exists.1 hsome
      rw [hb]
      rfl

/-! ## the steps -/

variable (env s) in
structure StepOk (w w' : SignupWorld) : Prop where
  inv : SignupInv env s w'
  kept : w.row.status = .completed → w'.row = w.row

lemma update_cases {held : InHand ℕ Call} {x : Option Call} {u : ℕ}
    (h : Function.update held t x u = some d) : (u = t ∧ x = some d) ∨ held u = some d := by
  by_cases hu : u = t
  · subst hu
    rw [Function.update_self] at h
    exact Or.inl ⟨rfl, h⟩
  · rw [Function.update_of_ne hu] at h
    exact Or.inr h

lemma SignupInv.refl (hw : SignupInv env s w) : StepOk env s w w := ⟨hw, fun _ => rfl⟩

lemma SignupInv.leave (hw : SignupInv env s w) (t : ℕ) : StepOk env s w (w.leave t) := by
  have hold : ∀ u d, (w.leave t).calls u = some d → w.calls u = some d := by
    intro u d h
    rcases update_cases h with ⟨-, hnone⟩ | hd
    · cases hnone
    · exact hd
  refine ⟨?_, fun _ => rfl⟩
  exact {
    own := fun c hc h => ⟨(hw.own c hc h).account, (hw.own c hc h).scope, (hw.own c hc h).row⟩
    one := hw.one
    status := hw.status
    token := hw.token
    failed := hw.failed
    known := fun u d hd => hw.known u d (hold u d hd)
    claimed := fun u d hd => hw.claimed u d (hold u d hd)
    unique := fun u v d e hd he => hw.unique u v d e (hold u d hd) (hold v e he)
    created := fun u d hd => hw.created u d (hold u d hd) }

variable {connections : List Connection} {k : Connection} {fault : Option CreateFault} {n : ℕ}

/-- a call that reads, or that goes on to another stage, with the connections as they are or with
its own beside them. -/
lemma SignupInv.took (hw : SignupInv env s w)
    (hown : ∀ k ∈ connections, k.bySession = true → OwnOk env s w k)
    (hone : (connections.filter (·.bySession)).length ≤ 1)
    (hknown : d.version ≤ w.version ∧ (UpToDate w d → d.copy = w.row))
    (hclaimed : d.stage.pastClaim = true → ClaimedOk env s d)
    (hunique : ∀ u e, w.calls u = some e → e.stage.pastClaim = true → d.stage.pastClaim = true →
      UpToDate w e → UpToDate w d → u = t)
    (hcreated : ∀ u e, u ≠ t → w.calls u = some e → e.stage.pastClaim = true → UpToDate w e →
      (∃ k ∈ connections, k.bySession = true) → ∃ id, e.stage = .created id)
    (hself : d.stage.pastClaim = true → UpToDate w d →
      (∃ k ∈ connections, k.bySession = true) → ∃ id, d.stage = .created id) :
    StepOk env s w { w with connections := connections, calls := w.calls.take t d } := by
  refine ⟨?_, fun _ => rfl⟩
  exact {
    own := fun c hc h => ⟨(hown c hc h).account, (hown c hc h).scope, (hown c hc h).row⟩
    one := hone
    status := hw.status
    token := hw.token
    failed := hw.failed
    known := by
      intro u e he
      rcases InHand.of_take he with ⟨-, rfl⟩ | ⟨-, hu⟩
      · exact hknown
      · exact hw.known u e hu
    claimed := by
      intro u e he
      rcases InHand.of_take he with ⟨-, rfl⟩ | ⟨-, hu⟩
      · exact hclaimed
      · exact hw.claimed u e hu
    unique := by
      intro u v e f he hf hepast hfpast hecur hfcur
      rcases InHand.of_take he with ⟨hu, rfl⟩ | ⟨-, hu⟩
      · rcases InHand.of_take hf with ⟨hv, -⟩ | ⟨-, hv⟩
        · exact hu.trans hv.symm
        · exact hu.trans (hunique v f hv hfpast hepast hfcur hecur).symm
      · rcases InHand.of_take hf with ⟨hv, rfl⟩ | ⟨-, hv⟩
        · exact (hunique u e hu hepast hfpast hecur hfcur).trans hv.symm
        · exact hw.unique u v e f hu hv hepast hfpast hecur hfcur
    created := by
      intro u e he hpast hcur hhas
      rcases InHand.of_take he with ⟨-, rfl⟩ | ⟨hne, hu⟩
      · exact hself hpast hcur hhas
      · exact hcreated u e hne hu hpast hcur hhas }

lemma SignupInv.goOn (hw : SignupInv env s w) (hc : w.calls t = some c) (stage : Stage)
    (hclaimed : stage.pastClaim = true → ClaimedOk env s { c with stage := stage })
    (hpast : stage.pastClaim = true → c.stage.pastClaim = true)
    (hnew : stage.pastClaim = true → ∀ id, c.stage ≠ .created id) :
    StepOk env s w (w.goOn t c stage) := by
  refine hw.took hw.own hw.one (hw.known t c hc) hclaimed ?_ ?_ ?_
  · intro u e he hepast hstage hecur hcur
    exact hw.unique u t e c he hc hepast (hpast hstage) hecur hcur
  · intro u e _ he hepast hecur hhas
    exact hw.created u e he hepast hecur hhas
  · intro hstage hcur hhas
    obtain ⟨id, hid⟩ := hw.created t c hc (hpast hstage) hcur hhas
    exact absurd hid (hnew hstage id)

lemma SignupInv.wrote (hw : SignupInv env s w) (hc : w.calls t = some c) (hcur : UpToDate w c)
    (hopen : w.row.status ≠ .completed) (next : Option Stage)
    (hstatus : row.status ∈ [.pending, .exchanging, .completed, .failed])
    (hown : ∀ k ∈ w.connections, k.bySession = true → row.status = .completed ∨ Found row k)
    (htoken : ∀ k, checkpoint = some k → (row.status = .pending ∨ row.status = .exchanging) ∧
      row.codeFingerprint = some (env.sha256 k.code))
    (hfailed : row.status = .failed → row.codeFingerprint ≠ none ∧ CodeSpent env row w.accepts)
    (hnext : ∀ stage, next = some stage → stage.pastClaim = true →
      ClaimedOk env s ⟨c.payload, row, w.version + 1, stage⟩ ∧ ¬ HasOwn w) :
    StepOk env s w (w.write t c row checkpoint next) := by
  have hover : row.over c.copy w.row = row := by
    rw [(hw.known t c hc).2 hcur]
    exact SignupRow.over_self row w.row
  have hwrite : w.write t c row checkpoint next = { w with
      row := row
      version := w.version + 1
      checkpoint := checkpoint
      calls := Function.update w.calls t
        (next.map fun stage => ⟨c.payload, row, w.version + 1, stage⟩) } := by
    unfold SignupWorld.write
    rw [hover]
  rw [hwrite]
  refine ⟨?_, fun h => absurd h hopen⟩
  -- every other call now has an old row
  have hold : ∀ u d, w.calls u = some d → d.version ≠ w.version + 1 := by
    intro u d hd
    have hle := (hw.known u d hd).1
    omega
  have hnew : ∀ d : Call, (next.map fun stage => (⟨c.payload, row, w.version + 1, stage⟩ : Call)) =
      some d → ∃ stage, next = some stage ∧ d = ⟨c.payload, row, w.version + 1, stage⟩ := by
    intro d hd
    obtain ⟨stage, hstage, rfl⟩ := Option.map_eq_some_iff.1 hd
    exact ⟨stage, hstage, rfl⟩
  exact {
    own := fun k hk h => ⟨(hw.own k hk h).account, (hw.own k hk h).scope, hown k hk h⟩
    one := hw.one
    status := hstatus
    token := htoken
    failed := hfailed
    known := by
      intro u d hd
      rcases update_cases hd with ⟨-, hd⟩ | hd
      · obtain ⟨stage, -, rfl⟩ := hnew d hd
        exact ⟨le_refl _, fun _ => rfl⟩
      · exact ⟨(hw.known u d hd).1.trans (Nat.le_succ _), fun h => absurd h (hold u d hd)⟩
    claimed := by
      intro u d hd hpast
      rcases update_cases hd with ⟨-, hd⟩ | hd
      · obtain ⟨stage, hstage, rfl⟩ := hnew d hd
        exact (hnext stage hstage hpast).1
      · exact hw.claimed u d hd hpast
    unique := by
      intro u v d e hd he _ _ hdcur hecur
      rcases update_cases hd with ⟨hu, -⟩ | hd
      · rcases update_cases he with ⟨hv, -⟩ | he
        · exact hu.trans hv.symm
        · exact absurd hecur (hold v e he)
      · exact absurd hdcur (hold u d hd)
    created := by
      intro u d hd hpast hdcur hhas
      rcases update_cases hd with ⟨-, hd⟩ | hd
      · obtain ⟨stage, hstage, rfl⟩ := hnew d hd
        exact absurd hhas (hnext stage hstage hpast).2
      · exact absurd hdcur (hold u d hd) }

lemma OwnOk.isOf (hk : OwnOk env s w k) (hfound : Found w.row k)
    (haccount : p.intent.accountId = k.accountId) :
    ∃ phone, w.row.phoneNumberId = some phone ∧ k.isOf s phone p.intent.accountId = true := by
  obtain ⟨phone, hphone⟩ := Option.isSome_iff_exists.1 hfound.some_phone
  obtain ⟨htenant, hmeta, hcreator⟩ := hk.scope
  refine ⟨phone, hphone, ?_⟩
  unfold Connection.isOf
  rw [htenant, hmeta, hcreator, hfound.phone, hphone, haccount]
  simp

section
variable (hw : SignupInv env s w) (hc : w.calls t = some c)
include hw hc

lemma SignupInv.recover (hi : Current env s w (.recover t now)) :
    StepOk env s w (callStep env s w t c (.recover t now)) := by
  cases hstage : c.stage with
  | ready | claimed resume | exchanged a | exchangeFailed e | created id | createFailed =>
    simp only [callStep, hstage]
    exact hw.refl
  | begun =>
    have hact := hi c hc hstage
    simp only [callStep, hstage]
    rcases recover_cases env s c.payload now c.copy w.connections with
      hnone | ⟨hstatus, k, hk⟩ | ⟨hstatus, hfind, hk⟩
    · rcases List.mem_pair.1 hnone with h | h
      · rw [h]
        exact hw.goOn hc .ready (fun h => by cases h) (fun h => by cases h) (fun h => by cases h)
      · rw [h]
        exact hw.leave t
    · rw [hk] at hact ⊢
      obtain ⟨hcur, -⟩ := hact (by simp)
      have hcopy := (hw.known t c hc).2 hcur
      rw [hcopy] at hstatus
      refine hw.wrote hc hcur (by simp [hstatus]) none (by simp [markCompleted]) ?_ ?_ ?_ ?_
      · exact fun _ _ _ => Or.inl rfl
      · exact fun _ h => by cases h
      · exact fun h => by cases h
      · exact fun _ h => by cases h
    · rw [hk] at hact ⊢
      obtain ⟨hcur, haccount⟩ := hact (by simp)
      have hcopy := (hw.known t c hc).2 hcur
      rw [hcopy] at hstatus hfind ⊢
      refine hw.wrote hc hcur (by simp [hstatus]) (some .ready) (by simp [restoreRetryable])
        ?_ ?_ ?_ ?_
      · -- the connection of the session would have been found
        intro d hd hown
        rcases (hw.own d hd hown).row with hdone | hfound
        · rw [hstatus] at hdone
          cases hdone
        · obtain ⟨phone, hphone, hof⟩ := (hw.own d hd hown).isOf hfound (haccount d hd hown)
          exact absurd hof (List.find?_eq_none.1 (hfind phone hphone) d hd)
      · exact fun k hk => ⟨Or.inl rfl, (hw.token k hk).2⟩
      · exact fun h => by cases h
      · intro stage hstage hpast
        cases hstage
        cases hpast

lemma SignupInv.claim (hi : Current env s w (.claim t now)) :
    StepOk env s w (callStep env s w t c (.claim t now)) := by
  cases hstage : c.stage with
  | begun | claimed resume | exchanged a | exchangeFailed e | created id | createFailed =>
    simp only [callStep, hstage]
    exact hw.refl
  | ready =>
    have hact := hi c hc hstage
    simp only [callStep, hstage]
    cases hclaim : claimSession env s c.copy w.checkpoint c.payload now with
    | error e => exact hw.leave t
    | ok claimed =>
      obtain ⟨row, resume⟩ := claimed
      rw [hclaim] at hact
      have hcur := hact rfl
      have hcopy := (hw.known t c hc).2 hcur
      obtain ⟨hstatus, hadmits, rfl, hcode⟩ := claimSession_ok hclaim
      rw [hcopy] at hstatus hcode
      have hnone : ¬ HasOwn w := by
        rintro ⟨k, hk, hown⟩
        rcases (hw.own k hk hown).row with hdone | hfound
        · rw [hstatus] at hdone
          cases hdone
        · have hexchanging := hfound.exchanging
          rw [hstatus] at hexchanging
          cases hexchanging
      refine hw.wrote hc hcur (by simp [hstatus]) (some (.claimed resume))
        (by simp [markExchanging]) ?_ ?_ ?_ ?_
      · exact fun k hk hown => absurd ⟨k, hk, hown⟩ hnone
      · intro k hk
        exact ⟨Or.inr rfl, (hcode k hk).symm.trans (hw.token k hk).2⟩
      · exact fun h => by cases h
      · intro stage hstage _
        cases hstage
        exact ⟨⟨hadmits, rfl, rfl, rfl, rfl, rfl, fun a h => by cases h⟩, hnone⟩

lemma SignupInv.live (hpast : c.stage.pastClaim = true) (hcur : UpToDate w c) :
    c.copy = w.row ∧ w.row.status = .exchanging ∧
      w.row.codeFingerprint = some (env.sha256 c.payload.code) := by
  have hcopy := (hw.known t c hc).2 hcur
  have hclaimed := hw.claimed t c hc hpast
  exact ⟨hcopy, hcopy ▸ hclaimed.exchanging, hcopy ▸ hclaimed.fingerprint⟩

lemma SignupInv.exchange :
    StepOk env s w (callStep env s w t c (.exchange t answer)) := by
  cases hstage : c.stage with
  | begun | ready | exchanged a | exchangeFailed e | created id | createFailed =>
    simp only [callStep, hstage]
    exact hw.refl
  | claimed resume =>
    have hpast : c.stage.pastClaim = true := by
      rw [hstage]
      rfl
    have hclaimed := hw.claimed t c hc hpast
    have hnot : ∀ id, c.stage ≠ .created id := by
      intro id
      rw [hstage]
      exact fun h => by cases h
    simp only [callStep, hstage]
    cases hexchange : exchangeAndValidate c.payload resume answer with
    | error e =>
      exact hw.goOn hc _ (fun _ => { hclaimed with assets := fun a h => by cases h })
        (fun _ => hpast) (fun _ => hnot)
    | ok assets =>
      refine hw.goOn hc _ (fun _ => { hclaimed with assets := ?_ }) (fun _ => hpast) (fun _ => hnot)
      intro a ha
      cases ha
      exact exchange_assets hexchange

lemma SignupInv.recordFailure (hi : Current env s w (.recordFailure t now)) :
    StepOk env s w (callStep env s w t c (.recordFailure t now)) := by
  cases hstage : c.stage with
  | begun | ready | claimed resume | exchanged a | created id | createFailed =>
    simp only [callStep, hstage]
    exact hw.refl
  | exchangeFailed e =>
    obtain ⟨hcur, hspent⟩ := hi c e hc hstage
    have hpast : c.stage.pastClaim = true := by
      rw [hstage]
      rfl
    obtain ⟨hcopy, hstatus, hcode⟩ := hw.live hc hpast hcur
    have hnone : ¬ HasOwn w := by
      intro hhas
      obtain ⟨id, hid⟩ := hw.created t c hc hpast hcur hhas
      rw [hstage] at hid
      cases hid
    have hown : ∀ {row : SignupRow}, ∀ k ∈ w.connections, k.bySession = true →
        row.status = .completed ∨ Found row k := fun k hk hown => absurd ⟨k, hk, hown⟩ hnone
    simp only [callStep, hstage, failureWrite]
    cases hretry : e.retryable with
    | true =>
      refine hw.wrote hc hcur (by simp [hstatus]) none (by simp [restoreRetryable]) hown ?_
        (fun h => by cases h) (fun _ h => by cases h)
      intro k hk
      refine ⟨Or.inl rfl, ?_⟩
      show c.copy.codeFingerprint = _
      rw [hcopy, hcode]
      cases htoken : e.resumeAccessToken with
      | some token =>
        rw [htoken] at hk
        cases hk
        rfl
      | none =>
        rw [htoken] at hk
        exact hcode.symm.trans (hw.token k hk).2
    | false =>
      refine hw.wrote hc hcur (by simp [hstatus]) none (by simp [markFailed]) hown
        (fun _ h => by cases h) ?_ (fun _ h => by cases h)
      show _ → c.copy.codeFingerprint ≠ none ∧ CodeSpent env c.copy w.accepts
      rw [hcopy, hcode]
      exact fun _ => ⟨by simp, hspent hretry⟩

lemma SignupInv.recordRefusal (hi : Current env s w (.recordRefusal t now)) :
    StepOk env s w (callStep env s w t c (.recordRefusal t now)) := by
  cases hstage : c.stage with
  | begun | ready | claimed resume | exchanged a | exchangeFailed e | created id =>
    simp only [callStep, hstage]
    exact hw.refl
  | createFailed =>
    obtain ⟨hcur, hspent⟩ := hi c hc hstage
    have hpast : c.stage.pastClaim = true := by
      rw [hstage]
      rfl
    obtain ⟨hcopy, hstatus, hcode⟩ := hw.live hc hpast hcur
    have hnone : ¬ HasOwn w := by
      intro hhas
      obtain ⟨id, hid⟩ := hw.created t c hc hpast hcur hhas
      rw [hstage] at hid
      cases hid
    simp only [callStep, hstage]
    refine hw.wrote hc hcur (by simp [hstatus]) none (by simp [markFailed]) ?_
      (fun _ h => by cases h) ?_ (fun _ h => by cases h)
    · exact fun k hk hown => absurd ⟨k, hk, hown⟩ hnone
    · show _ → c.copy.codeFingerprint ≠ none ∧ CodeSpent env c.copy w.accepts
      rw [hcopy, hcode]
      exact fun _ => ⟨by simp, hspent⟩

lemma SignupInv.complete (hi : Current env s w (.complete t now)) :
    StepOk env s w (callStep env s w t c (.complete t now)) := by
  cases hstage : c.stage with
  | begun | ready | claimed resume | exchanged a | exchangeFailed e | createFailed =>
    simp only [callStep, hstage]
    exact hw.refl
  | created id =>
    have hcur := hi c id hc hstage
    have hpast : c.stage.pastClaim = true := by
      rw [hstage]
      rfl
    obtain ⟨-, hstatus, -⟩ := hw.live hc hpast hcur
    simp only [callStep, hstage]
    refine hw.wrote hc hcur (by simp [hstatus]) none (by simp [markCompleted]) ?_ ?_ ?_ ?_
    · exact fun _ _ _ => Or.inl rfl
    · exact fun _ h => by cases h
    · exact fun h => by cases h
    · exact fun _ h => by cases h

end

lemma createConnection_ok (h : createConnection s connections p a fault = .ok k) :
    k = ⟨connections.length, s.tenantId, p.intent.accountId, true, a.businessAccountId,
      some a.wabaId, some a.phoneNumberId, s.requestedBy, true⟩ := by
  unfold createConnection at h
  cases fault with
  | some f => split_ifs at h
  | none =>
    split_ifs at h
    exact (Except.ok.inj h).symm

lemma filter_append_own (hnone : connections.filter (·.bySession) = []) :
    ((connections ++ [k]).filter (·.bySession)).length ≤ 1 := by
  rw [List.filter_append, hnone, List.nil_append]
  exact List.length_filter_le _ [k]

lemma SignupInv.create (hw : SignupInv env s w) (hc : w.calls t = some c)
    (hi : Current env s w (.create t fault)) :
    StepOk env s w (callStep env s w t c (.create t fault)) := by
  cases hstage : c.stage with
  | begun | ready | claimed resume | exchangeFailed e | created id | createFailed =>
    simp only [callStep, hstage]
    exact hw.refl
  | exchanged a =>
    have hcur := hi c a hc hstage
    have hpast : c.stage.pastClaim = true := by
      rw [hstage]
      rfl
    have hclaimed := hw.claimed t c hc hpast
    obtain ⟨hcopy, hstatus, -⟩ := hw.live hc hpast hcur
    have hnone : ¬ HasOwn w := by
      intro hhas
      obtain ⟨id, hid⟩ := hw.created t c hc hpast hcur hhas
      rw [hstage] at hid
      cases hid
    have hnot : ∀ id, c.stage ≠ .created id := by
      intro id
      rw [hstage]
      exact fun h => by cases h
    simp only [callStep, hstage]
    cases hcreate : createConnection s w.connections c.payload a fault with
    | error f =>
      cases f with
      | refuses =>
        exact hw.goOn hc _ (fun _ => { hclaimed with assets := fun a h => by cases h })
          (fun _ => hpast) (fun _ => hnot)
      | crashes => exact hw.leave t
    | ok k =>
      have hk := createConnection_ok hcreate
      obtain ⟨hwaba, hphone, hbusiness⟩ := hclaimed.assets a hstage
      have hfound : Found w.row k := by
        rw [← hcopy, hk]
        exact {
          exchanging := hclaimed.exchanging
          phone := (congrArg some hphone).trans hclaimed.phone.symm
          some_phone := by
            rw [hclaimed.phone]
            rfl
          waba := (congrArg some hwaba).trans hclaimed.waba.symm
          business := by
            rw [hclaimed.business]
            exact fun hsome _ => hbusiness hsome }
      have hfilter : w.connections.filter (·.bySession) = [] := by
        by_contra h
        exact hnone (hasOwn_iff.2 h)
      refine hw.took (t := t) (d := { c with stage := .created k.id }) ?_
        (filter_append_own hfilter) (hw.known t c hc)
        (fun _ => { hclaimed with assets := fun a h => by cases h }) ?_ ?_
        (fun _ _ _ => ⟨k.id, rfl⟩)
      · intro d hd hown
        rcases List.mem_append.1 hd with hd | hd
        · exact hw.own d hd hown
        · obtain rfl := List.mem_singleton.1 hd
          refine ⟨⟨c.payload, hclaimed.admitted, ?_⟩, ?_, Or.inr hfound⟩
          · rw [hk]
          · rw [hk]
            exact ⟨rfl, rfl, rfl⟩
      · intro u e he hepast _ hecur _
        exact hw.unique u t e c he hc hepast hpast hecur hcur
      · intro u e hne he hepast hecur _
        exact absurd (hw.unique u t e c he hc hepast hpast hecur hcur) hne

lemma SignupInv.outside (hw : SignupInv env s w) {others : List Connection} {accepts : Text → Bool}
    (hothers : ∀ k ∈ others, k.bySession = false)
    (hfailed : w.row.status = .failed →
      w.row.codeFingerprint ≠ none ∧ CodeSpent env w.row accepts) :
    StepOk env s w { w with connections := w.connections ++ others, accepts := accepts } := by
  have hold : ∀ k ∈ w.connections ++ others, k.bySession = true → k ∈ w.connections := by
    intro k hk hown
    rcases List.mem_append.1 hk with hk | hk
    · exact hk
    · rw [hothers k hk] at hown
      cases hown
  have hnone : others.filter (·.bySession) = [] := by
    rw [List.filter_eq_nil_iff]
    intro k hk
    simp [hothers k hk]
  refine ⟨?_, fun _ => rfl⟩
  exact {
    own := fun k hk h => by
      have hk := hw.own k (hold k hk h) h
      exact ⟨hk.account, hk.scope, hk.row⟩
    one := by
      show ((w.connections ++ others).filter (·.bySession)).length ≤ 1
      rw [List.filter_append, hnone, List.append_nil]
      exact hw.one
    status := hw.status
    token := hw.token
    failed := hfailed
    known := hw.known
    claimed := hw.claimed
    unique := hw.unique
    created := by
      rintro u d hd hpast hcur ⟨k, hk, hown⟩
      exact hw.created u d hd hpast hcur ⟨k, hold k hk hown, hown⟩ }

lemma SignupInv.step (hw : SignupInv env s w) (i : SignupStep) (hi : Current env s w i) :
    StepOk env s w (signupStep env s i w) := by
  cases i with
  | begin t p =>
    refine hw.took hw.own hw.one ⟨le_refl _, fun _ => rfl⟩ (fun h => by cases h)
      (fun _ _ _ _ h => by cases h) ?_ (fun h => by cases h)
    exact fun u e _ he hpast hcur hhas => hw.created u e he hpast hcur hhas
  | recover t now =>
    simp only [signupStep]
    split
    · exact hw.recover ‹_› hi
    · exact hw.refl
  | claim t now =>
    simp only [signupStep]
    split
    · exact hw.claim ‹_› hi
    · exact hw.refl
  | exchange t answer =>
    simp only [signupStep]
    split
    · exact hw.exchange ‹_›
    · exact hw.refl
  | recordFailure t now =>
    simp only [signupStep]
    split
    · exact hw.recordFailure ‹_› hi
    · exact hw.refl
  | create t fault =>
    simp only [signupStep]
    split
    · exact hw.create ‹_› hi
    · exact hw.refl
  | recordRefusal t now =>
    simp only [signupStep]
    split
    · exact hw.recordRefusal ‹_› hi
    · exact hw.refl
  | complete t now =>
    simp only [signupStep]
    split
    · exact hw.complete ‹_› hi
    · exact hw.refl
  | crash t => exact hw.leave t
  | other c =>
    simp only [signupStep]
    split_ifs with htaken
    · exact hw.refl
    · refine hw.outside ?_ hw.failed
      intro k hk
      rw [List.mem_singleton.1 hk]
  | acceptCodes accepts =>
    have hnil : ∀ k ∈ ([] : List Connection), k.bySession = false := fun k hk => by cases hk
    have h := hw.outside hnil fun hrow => ⟨(hw.failed hrow).1, hi hrow⟩
    rw [List.append_nil] at h
    exact h

/-! ## a later call -/

def restOfCall (t : ℕ) (now : Instant) (answer : MetaAnswer) : List SignupStep :=
  [.claim t now, .exchange t answer, .create t none, .complete t now]

lemma run_gone (h : w.calls t = none) :
    run (signupStep env s) w (restOfCall t now answer) = w := by
  simp only [restOfCall, run, signupStep, SignupStep.call, h]

lemma claimSession_of (hrow : row.status = .pending) (hnow : now < s.expiresAt)
    (hp : Admits env s p)
    (hcode : ∀ k, checkpoint = some k → row.codeFingerprint = some (env.sha256 p.code)) :
    claimSession env s row checkpoint p now =
      .ok (markExchanging env row p now, checkpoint.map (·.accessToken)) := by
  have hload : loadCheckpoint env row checkpoint p.code =
      .ok (checkpoint.map (·.accessToken)) := by
    cases checkpoint with
    | none => rfl
    | some k => exact if_neg (not_not.2 (hcode k rfl))
  unfold claimSession
  rw [requirePending_of hrow hnow hp, hload]
  rfl

lemma run_pending (hc : w.calls t = some ⟨p, w.row, n, .ready⟩) (hrow : w.row.status = .pending)
    (hnow : now < s.expiresAt) (hp : Admits env s p)
    (hcode : ∀ k, w.checkpoint = some k → w.row.codeFingerprint = some (env.sha256 p.code))
    (ha : exchangeAndValidate p (w.checkpoint.map (·.accessToken)) answer = .ok a)
    (hfree : ∀ k ∈ w.connections, k.accountId ≠ p.intent.accountId ∧
      k.phoneNumberId ≠ some p.phoneNumberId) :
    (run (signupStep env s) w (restOfCall t now answer)).row.status = .completed := by
  have hclaim := claimSession_of hrow hnow hp hcode
  have hcreate : ∃ k, createConnection s w.connections p a none = .ok k := by
    have haccount : ¬ w.connections.any (·.accountId == p.intent.accountId) = true := by
      simp only [List.any_eq_true, beq_iff_eq]
      rintro ⟨k, hk, h⟩
      exact (hfree k hk).1 h
    have hphone : ¬ w.connections.any (·.phoneNumberId == some a.phoneNumberId) = true := by
      simp only [List.any_eq_true, beq_iff_eq]
      rintro ⟨k, hk, h⟩
      rw [(exchange_assets ha).2.1] at h
      exact (hfree k hk).2 h
    exact ⟨_, (if_neg haccount).trans (if_neg hphone)⟩
  obtain ⟨k, hk⟩ := hcreate
  simp only [restOfCall, run, signupStep, SignupStep.call, hc, callStep, hclaim,
    SignupWorld.write, SignupWorld.goOn, Option.map_some, Function.update_self, InHand.take_self,
    ha, hk]
  rfl

lemma recover_open (h : row.status ≠ .exchanging) :
    recoverInterrupted env s row connections p now = .none := if_pos h

lemma run_completed (hc : w.calls t = some ⟨p, w.row, n, .ready⟩)
    (hrow : w.row.status = .completed) :
    (run (signupStep env s) w (restOfCall t now answer)).row.status = .completed := by
  have hclaim : claimSession env s w.row w.checkpoint p now =
      .error (signupError "embedded_signup_session_not_pending") := by
    have hpending : requirePending env s w.row p now =
        .error (signupError "embedded_signup_session_not_pending") := by
      unfold requirePending
      rw [if_pos (by simp [hrow])]
    unfold claimSession
    rw [hpending]
    rfl
  have hstep : signupStep env s (.claim t now) w = w.leave t := by
    simp only [signupStep, SignupStep.call, hc, callStep, hclaim]
  have hgone : (w.leave t).calls t = none := InHand.release_self ..
  show (run (signupStep env s) (signupStep env s (.claim t now) w) _).row.status = _
  rw [hstep]
  simp only [run, signupStep, SignupStep.call, hgone]
  exact hrow

lemma SignupInv.recovers (hinj : Function.Injective env.sha256) (hw : SignupInv env s w)
    (hrow : w.row.status = .exchanging) (hl : Later env s w p now answer) :
    (∃ id, recoverInterrupted env s w.row w.connections p now =
      .completed (markCompleted w.row id now)) ∨
    ¬ HasOwn w ∧ recoverInterrupted env s w.row w.connections p now =
      .released
        (restoreRetryable w.row "embedded_signup_interrupted_before_connection" now) := by
  -- a connection with the account is the one of the session
  have hown : ∀ k ∈ w.connections, k.accountId = p.intent.accountId → k.bySession = true := by
    intro k hk haccount
    by_contra hnot
    exact (hl.free k hk (Bool.eq_false_iff.2 hnot)).1 haccount
  have hfound : ∀ k ∈ w.connections, k.bySession = true → Found w.row k := by
    intro k hk h
    rcases (hw.own k hk h).row with hdone | hfound
    · rw [hrow] at hdone
      cases hdone
    · exact hfound
  by_cases hhas : HasOwn w
  · obtain ⟨k, hk, hkown⟩ := hhas
    obtain ⟨q, hq, haccount⟩ := (hw.own k hk hkown).account
    rw [admits_unique hinj hq hl.admitted] at haccount
    obtain ⟨phone, hphone, hof⟩ := (hw.own k hk hkown).isOf (hfound k hk hkown) haccount.symm
    obtain ⟨c, hc⟩ := Option.isSome_iff_exists.1
      (List.find?_isSome.2 ⟨k, hk, hof⟩)
    have hmem := List.mem_of_find?_eq_some hc
    have hcof := List.find?_some hc
    simp only [Connection.isOf, Bool.and_eq_true, beq_iff_eq] at hcof
    have hcfound := hfound c hmem (hown c hmem hcof.2)
    have hmismatch : ¬ c.mismatches w.row = true := by
      unfold Connection.mismatches
      rw [hcfound.waba]
      simp only [bne_self_eq_false, Bool.and_false, Bool.false_or, Bool.and_eq_true, bne_iff_ne,
        not_and, not_not]
      exact fun h => hcfound.business h.1 h.2
    refine Or.inl ⟨c.id, ?_⟩
    unfold recoverInterrupted
    rw [if_neg (not_not.2 hrow), if_neg (not_not.2 hl.admitted.1), hphone, Option.bind_some, hc]
    exact if_neg hmismatch
  · refine Or.inr ⟨hhas, ?_⟩
    have hnone : (w.row.phoneNumberId.bind fun phone =>
        w.connections.find? (Connection.isOf s phone p.intent.accountId)) = none := by
      cases w.row.phoneNumberId with
      | none => rfl
      | some phone =>
        refine List.find?_eq_none.2 ?_
        intro k hk hof
        simp only [Connection.isOf, Bool.and_eq_true, beq_iff_eq] at hof
        exact hhas ⟨k, hk, hown k hk hof.2⟩
    unfold recoverInterrupted
    rw [if_neg (not_not.2 hrow), if_neg (not_not.2 hl.admitted.1), hnone]
    refine if_neg (not_lt.2 ?_)
    rcases hl.released hrow with h | h
    · exact absurd h hhas
    · exact h

lemma SignupInv.completes (hinj : Function.Injective env.sha256) (hw : SignupInv env s w)
    (hl : Later env s w p now answer) :
    (run (signupStep env s) w (wholeCall t p now answer)).row.status = .completed := by
  obtain ⟨a, ha⟩ := hl.answered
  let w₁ : SignupWorld := { w with calls := w.calls.take t ⟨p, w.row, w.version, .begun⟩ }
  have hc : w₁.calls t = some ⟨p, w.row, w.version, .begun⟩ := InHand.take_self ..
  show (run (signupStep env s) (signupStep env s (.recover t now) w₁)
    (restOfCall t now answer)).row.status = .completed
  have hcode : ∀ k, w.checkpoint = some k → w.row.codeFingerprint = some (env.sha256 p.code) := by
    intro k hk
    rcases hl.sameCode with h | h
    · rw [(hw.token k hk).2] at h
      cases h
    · exact h
  have hstatus := hw.status
  simp only [List.mem_cons, List.not_mem_nil, or_false] at hstatus
  have hopen : w.row.status ≠ .exchanging → signupStep env s (.recover t now) w₁ =
      w₁.goOn t ⟨p, w.row, w.version, .begun⟩ .ready := by
    intro hrow
    have hrecover : recoverInterrupted env s w.row w₁.connections p now = .none :=
      recover_open hrow
    simp only [signupStep, SignupStep.call, hc, callStep, hrecover]
  rcases hstatus with hrow | hrow | hrow | hrow
  · -- pending, and so without a connection
    have hfree : ∀ k ∈ w.connections, k.accountId ≠ p.intent.accountId ∧
        k.phoneNumberId ≠ some p.phoneNumberId := by
      intro k hk
      refine hl.free k hk (Bool.eq_false_iff.2 fun hown => ?_)
      rcases (hw.own k hk hown).row with h | h
      · rw [hrow] at h
        cases h
      · have hexchanging := h.exchanging
        rw [hrow] at hexchanging
        cases hexchanging
    rw [hopen (by simp [hrow])]
    exact run_pending (InHand.take_self ..) hrow hl.inTime hl.admitted hcode ha hfree
  · rcases hw.recovers hinj hrow hl with ⟨id, h⟩ | ⟨hnone, h⟩
    · have hstep : signupStep env s (.recover t now) w₁ =
          w₁.write t ⟨p, w.row, w.version, .begun⟩ (markCompleted w.row id now) none none := by
        have hw₁ : recoverInterrupted env s w.row w₁.connections p now =
            .completed (markCompleted w.row id now) := h
        simp only [signupStep, SignupStep.call, hc, callStep, hw₁]
      rw [hstep, run_gone (Function.update_self ..)]
      show ((markCompleted w.row id now).over w.row w.row).status = .completed
      rw [SignupRow.over_self]
      rfl
    · have hstep : signupStep env s (.recover t now) w₁ =
          w₁.write t ⟨p, w.row, w.version, .begun⟩
            (restoreRetryable w.row "embedded_signup_interrupted_before_connection" now)
            w.checkpoint (some .ready) := by
        have hw₁ : recoverInterrupted env s w.row w₁.connections p now = .released
          (restoreRetryable w.row "embedded_signup_interrupted_before_connection" now) := h
        simp only [signupStep, SignupStep.call, hc, callStep, hw₁]
        rfl
      rw [hstep]
      have hover := SignupRow.over_self
        (restoreRetryable w.row "embedded_signup_interrupted_before_connection" now) w.row
      have hnew : (w₁.write t ⟨p, w.row, w.version, .begun⟩
          (restoreRetryable w.row "embedded_signup_interrupted_before_connection" now)
          w.checkpoint (some .ready)).row =
          restoreRetryable w.row "embedded_signup_interrupted_before_connection" now := hover
      refine run_pending (n := w.version + 1) (a := a) ?_ ?_ hl.inTime hl.admitted ?_ ha ?_
      · rw [hnew]
        exact Function.update_self ..
      · rw [hnew]
        rfl
      · rw [hnew]
        exact hcode
      · intro k hk
        exact hl.free k hk (Bool.eq_false_iff.2 fun hown => hnone ⟨k, hk, hown⟩)
  · rw [hopen (by simp [hrow])]
    exact run_completed (InHand.take_self ..) hrow
  · -- failed, and so Meta accepts the code no more
    exfalso
    have hcheckpoint : w.checkpoint = none := by
      cases hk : w.checkpoint with
      | none => rfl
      | some k =>
        rcases (hw.token k hk).1 with h | h
        · rw [hrow] at h
          cases h
        · rw [hrow] at h
          cases h
    rcases hl.sameCode with h | h
    · exact (hw.failed hrow).1 h
    · rcases hl.accepted with haccept | ⟨k, hk, -⟩
      · rw [(hw.failed hrow).2 _ h] at haccept
        cases haccept
      · rw [hcheckpoint] at hk
        cases hk

/-! ## the result -/

lemma signupInv_start (now : Instant) (others : List Connection) (accepts : Text → Bool) :
    SignupInv env s (.start now others accepts) := by
  have hnone : ∀ k ∈ (SignupWorld.start now others accepts).connections, k.bySession = false := by
    intro k hk
    obtain ⟨c, -, rfl⟩ := List.mem_map.1 hk
    rfl
  have hfilter : (SignupWorld.start now others accepts).connections.filter (·.bySession) = [] := by
    rw [List.filter_eq_nil_iff]
    intro k hk
    simp [hnone k hk]
  exact {
    own := by
      intro k hk h
      rw [hnone k hk] at h
      cases h
    one := by simp [hfilter]
    status := by simp [SignupWorld.start]
    token := fun k hk => by cases hk
    failed := fun h => by cases h
    known := fun t c hc => by cases hc
    claimed := fun t c hc => by cases hc
    unique := fun t u c d hc => by cases hc
    created := fun t c hc => by cases hc }

lemma SignupInv.ok (hinj : Function.Injective env.sha256) (hw : SignupInv env s w) :
    SignupOk env s w where
  oneConnection := hw.one
  notFailed := by
    rintro ⟨k, hk, hown⟩ hrow
    rcases (hw.own k hk hown).row with h | h
    · rw [hrow] at h
      cases h
    · have hexchanging := h.exchanging
      rw [hrow] at hexchanging
      cases hexchanging
  noToken := by
    intro hended
    cases hk : w.checkpoint with
    | none => rfl
    | some k =>
      rcases (hw.token k hk).1 with h | h
      · rw [h] at hended
        simp at hended
      · rw [h] at hended
        simp at hended
  completes := fun t p now answer hl => hw.completes hinj hl

variable (env s) in
theorem ends_right (hinj : Function.Injective env.sha256) (now : Instant)
    (others : List Connection) (accepts : Text → Bool) (l : List SignupStep)
    (hl : Along (signupStep env s) (Current env s) (.start now others accepts) l) :
    Along (signupStep env s) (EndsRight env s) (.start now others accepts) l := by
  refine Along.imp (I := SignupInv env s) ?_ ?_ (signupInv_start now others accepts) hl
  · intro w i hw hi
    exact (hw.step i hi).inv
  · intro w i hw hi
    have hstep := hw.step i hi
    exact ⟨hstep.inv.ok hinj, hstep.kept⟩

end EndsRight

namespace Samples

def intent : AccountIntent := ⟨"Meta".toList, "wa-1".toList, none, 100⟩

def env : SignupEnv := ⟨fun t => 'h' :: t, fun _ => some ⟨"s".toList, 7, 3, intent⟩⟩

def session : SignupSession := ⟨"s".toList, 7, 3, "hstate".toList, minutes 30⟩

def request : CompleteRequest :=
  ⟨"state".toList, "code".toList, none, "23456".toList, "34567".toList, intent⟩

def answer : MetaAnswer := ⟨.ok "token".toList, .ok none⟩

def lateAnswer : MetaAnswer :=
  ⟨.ok "token".toList, .error ⟨"embedded_signup_token_debug_failed", true, none⟩⟩

def start : SignupWorld := .start 0 [] fun _ => true

lemma env_injective : Function.Injective env.sha256 := fun _ _ h => (List.cons.inj h).2

end Samples

open Samples in
/-- a call that fails once the token is exchanged, and a call that completes the session. -/
theorem resumed_ends_right : Along (signupStep env session) (EndsRight env session) start
    ([.begin 1 request, .recover 1 0, .claim 1 0, .exchange 1 lateAnswer, .recordFailure 1 1] ++
      wholeCall 2 request 2 answer) := by
  refine ends_right env session env_injective 0 [] _ _ ⟨trivial, ?_, ?_, trivial, ?_, trivial, ?_,
    ?_, trivial, ?_, ?_, trivial⟩
  · intro c hc _ _
    cases hc
    exact ⟨rfl, fun k hk => by cases hk⟩
  · intro c hc _ _
    cases hc
    rfl
  · intro c e hc he
    cases hc
    cases he
    exact ⟨rfl, fun h => by cases h⟩
  · intro c hc _ _
    cases hc
    exact ⟨rfl, fun k hk => by cases hk⟩
  · intro c hc _ _
    cases hc
    rfl
  · intro c a hc _
    cases hc
    rfl
  · intro c id hc _
    cases hc
    rfl

open Samples in
theorem refusal_fails_completed : ¬ Along (signupStep env session) (EndsRight env session) start
    [.begin 1 request, .recover 1 0, .claim 1 0, .begin 2 request, .recover 2 (minutes 6),
      .claim 2 (minutes 6), .exchange 1 answer, .exchange 2 answer, .create 1 none,
      .complete 1 (minutes 7), .create 2 none, .recordRefusal 2 (minutes 7)] := by
  rintro ⟨-, -, -, -, -, -, -, -, -, -, -, ⟨hok, -⟩, -⟩
  exact hok.notFailed ⟨_, List.mem_cons_self, rfl⟩ rfl

end NexusHelpdesk.Signup
