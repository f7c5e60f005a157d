import NexusHelpdesk.Cases.Payload
import NexusHelpdesk.Lib.Except
import NexusHelpdesk.Lib.Once
import NexusHelpdesk.Lib.Run
import NexusHelpdesk.Lib.UtcTime

/-!
# The case ledger (`case_outcome_service.append_case_outcome`)

A call looks for a record under its idempotency key, waits for the lock of the ticket and inserts
its record under the next number.

* `checkOutcome`: the part of a call before the lock;
* `insertOutcome`: the part behind it;
* `OutcomeStep`: a call up to its lock, or the rest of a call, in any order;
* `Settled`: the records of every ticket are numbered from one without gap, a key occurs once in
  a ticket, and a call that succeeded finds its record again;
* `KeepsSource`, `SafeInsert`: when a call finds what it inserted;
* `ledger_settled_iff`: **the ledger is settled in all states of a run if and only if all inserts are
  safe**;
* `ledger_chained`: **what holds in every run: numbers, keys, parents and answers**;
* `spelled_source_conflicts`: **a source that the ledger spells differently conflicts with itself**.
-/

namespace NexusHelpdesk.Cases

open Lib

/-! ## records and calls -/

structure OutcomeRecord where
  ticketId : ℕ
  sequence : ℕ
  recordType : Text
  state : Text
  idempotencyKey : Text
  parentRecordId : Option ℕ
  sourceKind : Option Text
  sourceId : Option Text
  payload : Json
  occurredAt : UtcTime
  createdBy : Option ℕ

abbrev OutcomeLedger := Table OutcomeRecord

structure OutcomeCall where
  ticketId : ℕ
  recordType : Text
  state : Text
  idempotencyKey : Text
  /-- `ensure_utc` of the argument. -/
  occurredAt : Option UtcTime
  createdBy : Option ℕ
  payload : Option (List (Text × PyValue))
  parentRecordId : Option ℕ
  sourceKind : Option Text
  sourceId : Option Text

/-- the functions of the language, and the rows that foreign keys refer to. -/
structure OutcomeEnv where
  py : PyText
  ticketExists : ℕ → Bool
  userExists : ℕ → Bool

def outcomeTypes : List Text :=
  ["action_intent", "execution_attempt", "provider_receipt", "operational_outcome",
    "customer_notification", "closure_assessment"].map String.toList

def outcomeStates : List Text :=
  ["requested", "accepted", "processing", "succeeded", "failed", "waived", "delivered", "confirmed",
    "repair_required", "blocked", "eligible", "closed", "reopened"].map String.toList

def normalized (value : Text) (limit : ℕ) (code : String) : Except String Text :=
  let text := PyStr.collapse (PyStr.stripChars value)
  if text = [] then .error code else .ok (text.take limit)

section Code
variable (env : OutcomeEnv)

/-- the source of a call as its record keeps it. -/
def storedSourceKind (source : Option Text) : Option Text :=
  (source.filter (· ≠ [])).map fun s => (env.py.lower (PyStr.stripChars s)).take 80

def storedSourceId (source : Option Text) : Option Text :=
  (source.filter (· ≠ [])).map fun s => (PyStr.stripChars s).take 180

/-- the checks of the arguments; the record has no number yet. -/
def prepareOutcome (c : OutcomeCall) : Except String OutcomeRecord := do
  let recordType ← normalized c.recordType 40 "case_outcome_type_required"
  let state ← normalized c.state 40 "case_outcome_state_required"
  let key ← normalized c.idempotencyKey 180 "case_outcome_idempotency_required"
  if env.py.lower recordType ∉ outcomeTypes then .error "case_outcome_type_invalid"
  else if env.py.lower state ∉ outcomeStates then .error "case_outcome_state_invalid"
  else
    match c.occurredAt with
    | none => .error "case_outcome_occurred_at_required"
    | some occurredAt => do
      let safe ← sanitizeCaseLedgerPayload env.py c.payload
      .ok
        { ticketId := c.ticketId
          sequence := 0
          recordType := env.py.lower recordType
          state := env.py.lower state
          idempotencyKey := key
          parentRecordId := c.parentRecordId
          sourceKind := storedSourceKind env c.sourceKind
          sourceId := storedSourceId c.sourceId
          payload := safe
          occurredAt := occurredAt
          createdBy := c.createdBy }

/-- `occurred_at.isoformat()`. -/
def isoformat (t : UtcTime) : Text := t.text.dropLast ++ "+00:00".toList

def optionalText : Option Text → Json
  | none => .null
  | some s => .str s

/-- what is compared on a replay, with the keys in order. -/
def outcomeIdentity (r : OutcomeRecord) (sourceKind sourceId : Option Text) : Json :=
  .obj [("occurred_at".toList, .str (isoformat r.occurredAt)),
    ("parent_record_id".toList, match r.parentRecordId with
      | none => .null
      | some i => .num i),
    ("payload".toList, sorted r.payload), ("record_type".toList, .str r.recordType),
    ("source_id".toList, optionalText sourceId), ("source_kind".toList, optionalText sourceKind),
    ("state".toList, .str r.state)]

def identityDigest (r : OutcomeRecord) (sourceKind sourceId : Option Text) : Text :=
  env.py.sha256 (outcomeIdentity r sourceKind sourceId).text

def OutcomeRecord.digest (r : OutcomeRecord) : Text :=
  identityDigest env r r.sourceKind r.sourceId

def underKey (ledger : OutcomeLedger) (ticketId : ℕ) (key : Text) : Option (ℕ × OutcomeRecord) :=
  (ledger.select fun _ r => r.ticketId = ticketId && r.idempotencyKey = key).head?

/-- a call up to the lock of its ticket: the record it found, or the one to be inserted. -/
def checkOutcome (ledger : OutcomeLedger) (c : OutcomeCall) :
    Except String (Option ℕ × OutcomeRecord) := do
  let prepared ← prepareOutcome env c
  match underKey ledger c.ticketId prepared.idempotencyKey with
  | some (i, existing) =>
    if identityDigest env prepared c.sourceKind c.sourceId = existing.digest env then
      return (some i, prepared)
    else throw "case_outcome_idempotency_conflict"
  | none => return (none, prepared)

def nextSequence (ledger : OutcomeLedger) (ticketId : ℕ) : ℕ :=
  (((ledger.select fun _ r => r.ticketId = ticketId).map (·.2.sequence)).max?).getD 0 + 1

def parentValid (ledger : OutcomeLedger) (r : OutcomeRecord) : Bool :=
  r.parentRecordId.all fun i => (ledger.get? i).any (·.ticketId = r.ticketId)

/-- the rest of a call: the record it found or inserted, and the ledger. -/
def insertOutcome (ledger : OutcomeLedger) (prepared : OutcomeRecord) :
    Except String (ℕ × OutcomeLedger) :=
  if env.ticketExists prepared.ticketId = false then .error "case_ticket_not_found"
  else if parentValid ledger prepared = false then .error "case_outcome_parent_invalid"
  else
    match underKey ledger prepared.ticketId prepared.idempotencyKey with
    | some (i, _) => .ok (i, ledger)
    | none =>
      if prepared.createdBy.all env.userExists then
        .ok (ledger.next,
          ledger.insert { prepared with sequence := nextSequence ledger prepared.ticketId })
      else .error "case_outcome_concurrent_conflict"

/-! ## runs -/

structure OutcomeRun where
  ledger : OutcomeLedger
  waiting : List (OutcomeCall × OutcomeRecord)
  /-- the calls that succeeded, with the records they returned. -/
  succeeded : List (OutcomeCall × ℕ)

def OutcomeRun.empty : OutcomeRun := ⟨Table.empty, [], []⟩

inductive OutcomeStep where
  | call (c : OutcomeCall)
  | lock (i : ℕ)

def outcomeStep (e : OutcomeStep) (s : OutcomeRun) : OutcomeRun :=
  match e with
  | .call c =>
    match checkOutcome env s.ledger c with
    | .error _ => s
    | .ok (some i, _) => { s with succeeded := (c, i) :: s.succeeded }
    | .ok (none, prepared) => { s with waiting := s.waiting ++ [(c, prepared)] }
  | .lock i =>
    match s.waiting[i]? with
    | none => s
    | some (c, prepared) =>
      match insertOutcome env s.ledger prepared with
      | .error _ => { s with waiting := s.waiting.eraseIdx i }
      | .ok (j, ledger) =>
        { ledger := ledger
          waiting := s.waiting.eraseIdx i
          succeeded := (c, j) :: s.succeeded }

/-! ## settled ledgers -/

/-- the numbers of the records of a ticket, in the order of their ids. -/
def sequences (ledger : OutcomeLedger) (ticketId : ℕ) : List ℕ :=
  (ledger.select fun _ r => r.ticketId = ticketId).map (·.2.sequence)

def recordKey (r : OutcomeRecord) : ℕ × Text := (r.ticketId, r.idempotencyKey)

structure Settled (s : OutcomeRun) : Prop where
  numbered : ∀ ticketId, ∃ n, sequences s.ledger ticketId = List.range' 1 n
  distinct : Table.KeysDistinct recordKey s.ledger
  repeated : ∀ c i, (c, i) ∈ s.succeeded →
    ∃ prepared, checkOutcome env s.ledger c = .ok (some i, prepared)

def KeepsSource (c : OutcomeCall) : Prop :=
  storedSourceKind env c.sourceKind = c.sourceKind ∧ storedSourceId c.sourceId = c.sourceId

/-- the source is spelled differently and the digests collide. -/
def Collides (c : OutcomeCall) (r : OutcomeRecord) : Prop :=
  ¬KeepsSource env c ∧
    identityDigest env r c.sourceKind c.sourceId = identityDigest env r r.sourceKind r.sourceId

/-- a call that gets the lock finds its own record later: it keeps its source, and where another
call was first under its key, that one had the same arguments. -/
def SafeInsert (ledger : OutcomeLedger) (c : OutcomeCall) (r : OutcomeRecord) : Prop :=
  env.ticketExists r.ticketId = true → parentValid ledger r = true →
    match underKey ledger r.ticketId r.idempotencyKey with
    | some (_, first) => identityDigest env r c.sourceKind c.sourceId = first.digest env
    | none => r.createdBy.all env.userExists = true → KeepsSource env c ∨ Collides env c r

def SafeOutcome (s : OutcomeRun) : OutcomeStep → Prop
  | .call _ => True
  | .lock i =>
    match s.waiting[i]? with
    | none => True
    | some (c, prepared) => SafeInsert env s.ledger c prepared

/-! ## what a call finds -/

section Lemmas
variable {env} {ledger : OutcomeLedger} {c : OutcomeCall} {r first prepared : OutcomeRecord}
  {i ticketId : ℕ} {key : Text} {s : OutcomeRun}

lemma get?_of_underKey (h : underKey ledger ticketId key = some (i, first)) :
    ledger.get? i = some first ∧ first.ticketId = ticketId ∧ first.idempotencyKey = key := by
  have hmem := List.mem_of_head? h
  obtain ⟨hget, hp⟩ := (ledger.mem_select).1 hmem
  rw [Bool.and_eq_true, decide_eq_true_iff, decide_eq_true_iff] at hp
  exact ⟨hget, hp.1, hp.2⟩

lemma underKey_eq_none (h : underKey ledger ticketId key = none) (hget : ledger.get? i = some r) :
    recordKey r ≠ (ticketId, key) := by
  intro heq
  obtain ⟨hticket, hkey⟩ := Prod.mk.inj heq
  have hmem : (i, r) ∈ ledger.select fun _ r => r.ticketId = ticketId && r.idempotencyKey = key := by
    refine (ledger.mem_select).2 ⟨hget, ?_⟩
    rw [Bool.and_eq_true, decide_eq_true_iff, decide_eq_true_iff]
    exact ⟨hticket, hkey⟩
  rw [List.head?_eq_none_iff.1 h] at hmem
  cases hmem

lemma underKey_of_get? (hd : Table.KeysDistinct recordKey ledger) (hget : ledger.get? i = some r) :
    underKey ledger r.ticketId r.idempotencyKey = some (i, r) := by
  cases hfound : underKey ledger r.ticketId r.idempotencyKey with
  | none => exact absurd rfl (underKey_eq_none hfound hget)
  | some x =>
    obtain ⟨j, r'⟩ := x
    obtain ⟨hget', hticket, hkey⟩ := get?_of_underKey hfound
    obtain rfl := hd j i r' r hget' hget (Prod.ext hticket hkey)
    obtain rfl := Option.some.inj (hget'.symm.trans hget)
    rfl

lemma checkOutcome_of_prepare (h : prepareOutcome env c = .ok prepared) :
    checkOutcome env ledger c =
      match underKey ledger c.ticketId prepared.idempotencyKey with
      | some (i, existing) =>
        if identityDigest env prepared c.sourceKind c.sourceId = existing.digest env then
          .ok (some i, prepared)
        else .error "case_outcome_idempotency_conflict"
      | none => .ok (none, prepared) := by
  unfold checkOutcome
  rw [h]
  rfl

lemma prepare_of_checkOutcome {found : Option ℕ} (h : checkOutcome env ledger c = .ok (found, r)) :
    prepareOutcome env c = .ok r := by
  cases hp : prepareOutcome env c with
  | error e =>
    unfold checkOutcome at h
    rw [hp] at h
    cases h
  | ok prepared =>
    rw [checkOutcome_of_prepare hp] at h
    split at h
    · split at h
      · cases h
        rfl
      · cases h
    · cases h
      rfl

lemma prepareOutcome_fields (h : prepareOutcome env c = .ok r) : r.ticketId = c.ticketId ∧
    r.sourceKind = storedSourceKind env c.sourceKind ∧ r.sourceId = storedSourceId c.sourceId := by
  unfold prepareOutcome at h
  obtain ⟨recordType, -, h⟩ := bind_eq_ok.1 h
  obtain ⟨state, -, h⟩ := bind_eq_ok.1 h
  obtain ⟨key, -, h⟩ := bind_eq_ok.1 h
  split at h
  · cases h
  · split at h
    · cases h
    · split at h
      · cases h
      · obtain ⟨safe, -, h⟩ := bind_eq_ok.1 h
        cases h
        exact ⟨rfl, rfl, rfl⟩

lemma checkOutcome_found_iff (hd : Table.KeysDistinct recordKey ledger)
    (hp : prepareOutcome env c = .ok prepared) (hget : ledger.get? i = some r)
    (hkey : recordKey r = recordKey prepared) :
    (∃ found, checkOutcome env ledger c = .ok (some i, found)) ↔
      identityDigest env prepared c.sourceKind c.sourceId = r.digest env := by
  obtain ⟨hticket, hidempotency⟩ := Prod.mk.inj hkey
  have hfound : underKey ledger c.ticketId prepared.idempotencyKey = some (i, r) := by
    rw [← (prepareOutcome_fields hp).1, ← hticket, ← hidempotency]
    exact underKey_of_get? hd hget
  rw [checkOutcome_of_prepare hp, hfound]
  dsimp only
  constructor
  · rintro ⟨found, h⟩
    by_contra hne
    rw [if_neg hne] at h
    cases h
  · intro heq
    exact ⟨prepared, if_pos heq⟩

lemma outcomeIdentity_inj {sourceKind sourceId sourceKind' sourceId' : Option Text}
    (h : outcomeIdentity r sourceKind sourceId = outcomeIdentity r sourceKind' sourceId') :
    sourceKind = sourceKind' ∧ sourceId = sourceId' := by
  have hoptional : ∀ {a b : Option Text}, optionalText a = optionalText b → a = b := by
    intro a b hab
    cases a with
    | none =>
      cases b with
      | none => rfl
      | some b => cases hab
    | some a =>
      cases b with
      | none => cases hab
      | some b =>
        cases hab
        rfl
  unfold outcomeIdentity at h
  simp only [Json.obj.injEq, List.cons.injEq, Prod.mk.injEq, true_and, and_true] at h
  exact ⟨hoptional h.2, hoptional h.1⟩

lemma sequences_insert (a : OutcomeRecord) : sequences (ledger.insert a) ticketId =
    sequences ledger ticketId ++ if a.ticketId = ticketId then [a.sequence] else [] := by
  unfold sequences
  rw [Table.select_insert, List.map_append]
  congr 1
  by_cases h : a.ticketId = ticketId
  · rw [if_pos (by simpa using h), if_pos h]
    rfl
  · rw [if_neg (by simpa using h), if_neg h]
    rfl

lemma nextSequence_eq {n : ℕ} (h : sequences ledger ticketId = List.range' 1 n) :
    nextSequence ledger ticketId = n + 1 := by
  have hmax : (List.range' 1 n).max?.getD 0 = n := by
    cases n with
    | zero => rfl
    | succ n =>
      have hm : (List.range' 1 (n + 1)).max? = some (n + 1) := by
        rw [List.max?_eq_some_iff]
        constructor
        · rw [List.mem_range'_1]
          omega
        · intro b hb
          rw [List.mem_range'_1] at hb
          omega
      rw [hm]
      rfl
  unfold nextSequence
  unfold sequences at h
  rw [h, hmax]

lemma numbered_insert (h : ∀ ticketId, ∃ n, sequences ledger ticketId = List.range' 1 n) :
    ∀ ticketId, ∃ n, sequences (ledger.insert
      { prepared with sequence := nextSequence ledger prepared.ticketId }) ticketId =
        List.range' 1 n := by
  intro ticketId
  obtain ⟨n, hn⟩ := h ticketId
  rw [sequences_insert]
  by_cases hticket : prepared.ticketId = ticketId
  · refine ⟨n + 1, ?_⟩
    rw [if_pos hticket, hn, hticket, nextSequence_eq hn, List.range'_1_concat, Nat.add_comm 1 n]
  · refine ⟨n, ?_⟩
    rw [if_neg hticket, hn, List.append_nil]

/-! ## steps -/

/-- a settled ledger whose waiting calls are prepared. -/
structure Sound (env : OutcomeEnv) (s : OutcomeRun) : Prop extends Settled env s where
  prepared : ∀ c r, (c, r) ∈ s.waiting → prepareOutcome env c = .ok r

lemma sound_empty : Sound env OutcomeRun.empty where
  numbered := fun ticketId => ⟨0, rfl⟩
  distinct := Table.keysDistinct_empty
  repeated := by
    intro c i h
    cases h
  prepared := by
    intro c r h
    cases h

lemma sound_call (h : Sound env s) (c : OutcomeCall) :
    Sound env (outcomeStep env (.call c) s) := by
  unfold outcomeStep
  dsimp only
  split
  · exact h
  · rename_i i prepared hc
    refine ⟨⟨h.numbered, h.distinct, ?_⟩, h.prepared⟩
    intro c' j hmem
    rcases List.mem_cons.1 hmem with heq | hold
    · cases heq
      exact ⟨prepared, hc⟩
    · exact h.repeated c' j hold
  · rename_i prepared hc
    refine ⟨⟨h.numbered, h.distinct, h.repeated⟩, ?_⟩
    intro c' r' hmem
    rcases List.mem_append.1 hmem with hold | hnew
    · exact h.prepared c' r' hold
    · cases List.mem_singleton.1 hnew
      exact prepare_of_checkOutcome hc

lemma checkOutcome_insert {a : OutcomeRecord} {found : OutcomeRecord}
    (hd : Table.KeysDistinct recordKey (ledger.insert a))
    (h : checkOutcome env ledger c = .ok (some i, found)) :
    ∃ found, checkOutcome env (ledger.insert a) c = .ok (some i, found) := by
  have hp := prepare_of_checkOutcome h
  rw [checkOutcome_of_prepare hp] at h
  split at h
  · rename_i j existing hfound
    split at h
    · rename_i hdigest
      cases h
      obtain ⟨hget, hticket, hkey⟩ := get?_of_underKey hfound
      refine (checkOutcome_found_iff hd hp (Table.get?_insert_of_some _ hget) ?_).2 hdigest
      exact Prod.ext (hticket.trans (prepareOutcome_fields hp).1.symm) hkey
    · cases h
  · cases h

lemma identityDigest_stored_iff (hp : prepareOutcome env c = .ok r) :
    identityDigest env r c.sourceKind c.sourceId = r.digest env ↔
      KeepsSource env c ∨ Collides env c r := by
  obtain ⟨-, hkind, hid⟩ := prepareOutcome_fields hp
  constructor
  · intro h
    by_cases hkeeps : KeepsSource env c
    · exact .inl hkeeps
    · exact .inr ⟨hkeeps, h⟩
  · rintro (⟨hkeepsKind, hkeepsId⟩ | ⟨-, h⟩)
    · unfold OutcomeRecord.digest
      rw [hkind, hid, hkeepsKind, hkeepsId]
    · exact h

lemma Collides.texts (hp : prepareOutcome env c = .ok r) (h : Collides env c r) :
    ∃ a b : Text, a ≠ b ∧ env.py.sha256 a = env.py.sha256 b := by
  refine ⟨_, _, ?_, h.2⟩
  intro heq
  have hparse := congrArg Json.parse heq
  rw [Json.parse_text, Json.parse_text] at hparse
  obtain ⟨hkind, hid⟩ := outcomeIdentity_inj (Option.some.inj hparse)
  obtain ⟨-, hkind', hid'⟩ := prepareOutcome_fields hp
  exact h.1 ⟨hkind'.symm.trans hkind.symm, hid'.symm.trans hid.symm⟩

/-- what the rest of a call does. -/
inductive Inserts (env : OutcomeEnv) (ledger : OutcomeLedger) (r : OutcomeRecord) :
    Except String (ℕ × OutcomeLedger) → Prop where
  | refused (e : String) (h : env.ticketExists r.ticketId = true → parentValid ledger r = true →
      underKey ledger r.ticketId r.idempotencyKey = none ∧
        r.createdBy.all env.userExists = false) : Inserts env ledger r (.error e)
  | found (i : ℕ) (first : OutcomeRecord) (hticket : env.ticketExists r.ticketId = true)
      (hparent : parentValid ledger r = true)
      (hfirst : underKey ledger r.ticketId r.idempotencyKey = some (i, first)) :
      Inserts env ledger r (.ok (i, ledger))
  | inserted (hticket : env.ticketExists r.ticketId = true)
      (hparent : parentValid ledger r = true)
      (hnew : underKey ledger r.ticketId r.idempotencyKey = none)
      (huser : r.createdBy.all env.userExists = true) :
      Inserts env ledger r
        (.ok (ledger.next, ledger.insert { r with sequence := nextSequence ledger r.ticketId }))

lemma insertOutcome_spec (ledger : OutcomeLedger) (r : OutcomeRecord) :
    Inserts env ledger r (insertOutcome env ledger r) := by
  unfold insertOutcome
  split
  · rename_i hticket
    refine .refused _ fun h => ?_
    rw [hticket] at h
    cases h
  · rename_i hticket
    split
    · rename_i hparent
      refine .refused _ fun _ h => ?_
      rw [hparent] at h
      cases h
    · rename_i hparent
      rw [Bool.not_eq_false] at hticket hparent
      split
      · rename_i i first hfirst
        exact .found i first hticket hparent hfirst
      · rename_i hnew
        split
        · rename_i huser
          exact .inserted hticket hparent hnew huser
        · rename_i huser
          exact .refused _ fun _ _ => ⟨hnew, Bool.eq_false_iff.2 huser⟩

lemma settled_lock_iff (h : Sound env s) (i : ℕ) :
    Settled env (outcomeStep env (.lock i) s) ↔ SafeOutcome env s (.lock i) := by
  show Settled env (match s.waiting[i]? with
    | none => s
    | some (c, prepared) => _) ↔ (match s.waiting[i]? with
    | none => True
    | some (c, prepared) => SafeInsert env s.ledger c prepared)
  cases hw : s.waiting[i]? with
  | none => exact iff_of_true h.toSettled trivial
  | some x =>
    obtain ⟨c, r⟩ := x
    have hp : prepareOutcome env c = .ok r := h.prepared c r (List.mem_of_getElem? hw)
    have hticket : r.ticketId = c.ticketId := (prepareOutcome_fields hp).1
    dsimp only
    unfold SafeInsert
    have hspec : Inserts env s.ledger r (insertOutcome env s.ledger r) := insertOutcome_spec _ _
    generalize insertOutcome env s.ledger r = result at hspec ⊢
    cases hspec with
    | refused e hrefused =>
      refine iff_of_true ⟨h.numbered, h.distinct, h.repeated⟩ ?_
      intro hexists hparent
      obtain ⟨hnew, huser⟩ := hrefused hexists hparent
      rw [hnew]
      dsimp only
      rw [huser]
      exact fun hc => Bool.noConfusion hc
    | found j first hexists hparent hfirst =>
      obtain ⟨hget, hticket', hkey⟩ := get?_of_underKey hfirst
      have hiff := checkOutcome_found_iff h.distinct hp hget
        (Prod.ext hticket' hkey : recordKey first = recordKey r)
      rw [hfirst]
      dsimp only
      constructor
      · intro hsettled _ _
        exact hiff.1 (hsettled.repeated c j (List.mem_cons_self ..))
      · intro hsafe
        refine ⟨h.numbered, h.distinct, ?_⟩
        intro c' j' hmem
        rcases List.mem_cons.1 hmem with heq | hold
        · cases heq
          exact hiff.2 (hsafe hexists hparent)
        · exact h.repeated c' j' hold
    | inserted hexists hparent hnew huser =>
      let a : OutcomeRecord := { r with sequence := nextSequence s.ledger r.ticketId }
      have hd : Table.KeysDistinct recordKey (s.ledger.insert a) :=
        h.distinct.insert fun i r' hget => underKey_eq_none hnew hget
      have hget : (s.ledger.insert a).get? s.ledger.next = some a := Table.get?_insert_self _ _
      have hiff := checkOutcome_found_iff hd hp hget rfl
      have hsame : a.digest env = r.digest env := rfl
      rw [hsame, identityDigest_stored_iff hp] at hiff
      rw [hnew]
      dsimp only
      constructor
      · intro hsettled _ _ _
        exact hiff.1 (hsettled.repeated c _ (List.mem_cons_self ..))
      · intro hsafe
        refine ⟨numbered_insert h.numbered, hd, ?_⟩
        intro c' j' hmem
        rcases List.mem_cons.1 hmem with heq | hold
        · cases heq
          exact hiff.2 (hsafe hexists hparent huser)
        · obtain ⟨found, hfound⟩ := h.repeated c' j' hold
          exact checkOutcome_insert hd hfound

lemma sound_lock (h : Sound env s) (i : ℕ) (hsafe : SafeOutcome env s (.lock i)) :
    Sound env (outcomeStep env (.lock i) s) := by
  refine ⟨(settled_lock_iff h i).2 hsafe, ?_⟩
  unfold outcomeStep
  dsimp only
  split
  · exact h.prepared
  · split
    · exact fun c' r' hmem => h.prepared c' r' (List.mem_of_mem_eraseIdx hmem)
    · exact fun c' r' hmem => h.prepared c' r' (List.mem_of_mem_eraseIdx hmem)

end Lemmas

end Code

theorem ledger_settled_iff (env : OutcomeEnv) (l : List OutcomeStep) :
    (∀ p, p <+: l → Settled env (run (outcomeStep env) OutcomeRun.empty p)) ↔
      Along (outcomeStep env) (SafeOutcome env) OutcomeRun.empty l := by
  have hempty : Sound env OutcomeRun.empty := sound_empty
  rw [forall_prefix_iff, and_iff_right hempty.toSettled]
  refine Along.congr (I := Sound env) (A := fun _ _ => True) ?_ ?_ hempty
    (along_true _ _)
  · intro s e h _
    cases e with
    | call c => exact iff_of_true (sound_call h c).toSettled trivial
    | lock i => exact settled_lock_iff h i
  · intro s e h _ hsafe
    cases e with
    | call c => exact sound_call h c
    | lock i => exact sound_lock h i hsafe

/-! ## every interleaving -/

section Chained
variable {env : OutcomeEnv} {s : OutcomeRun}

/-- what holds in every run: rows are numbered, a key names one, and a parent comes before its child. -/
structure Chained (env : OutcomeEnv) (s : OutcomeRun) : Prop where
  numbered : ∀ ticketId, ∃ n, sequences s.ledger ticketId = List.range' 1 n
  distinct : Table.KeysDistinct recordKey s.ledger
  parents : ∀ i r p, s.ledger.get? i = some r → r.parentRecordId = some p →
    p < i ∧ ∃ parent, s.ledger.get? p = some parent ∧ parent.ticketId = r.ticketId
  prepared : ∀ c r, (c, r) ∈ s.waiting → prepareOutcome env c = .ok r
  answered : ∀ c i, (c, i) ∈ s.succeeded → ∃ prepared r, prepareOutcome env c = .ok prepared ∧
    s.ledger.get? i = some r ∧ recordKey r = recordKey prepared

lemma chained_empty : Chained env OutcomeRun.empty where
  numbered := fun ticketId => ⟨0, rfl⟩
  distinct := Table.keysDistinct_empty
  parents := fun i r p h => by cases h
  prepared := sound_empty.prepared
  answered := fun c i h => by cases h

lemma chained_call (h : Chained env s) (c : OutcomeCall) :
    Chained env (outcomeStep env (.call c) s) := by
  unfold outcomeStep
  dsimp only
  split
  · exact h
  · rename_i i prepared hc
    have hp := prepare_of_checkOutcome hc
    refine { h with answered := ?_ }
    intro c' j hmem
    rcases List.mem_cons.1 hmem with heq | hold
    · cases heq
      rw [checkOutcome_of_prepare hp] at hc
      split at hc
      · rename_i j existing hfound
        obtain ⟨hget, hticket, hkey⟩ := get?_of_underKey hfound
        split at hc
        · cases hc
          exact ⟨prepared, existing, hp, hget,
            Prod.ext (hticket.trans (prepareOutcome_fields hp).1.symm) hkey⟩
        · cases hc
      · cases hc
    · exact h.answered c' j hold
  · rename_i prepared hc
    refine { h with prepared := ?_ }
    intro c' r' hmem
    rcases List.mem_append.1 hmem with hold | hnew
    · exact h.prepared c' r' hold
    · cases List.mem_singleton.1 hnew
      exact prepare_of_checkOutcome hc

lemma chained_lock (h : Chained env s) (i : ℕ) :
    Chained env (outcomeStep env (.lock i) s) := by
  unfold outcomeStep
  dsimp only
  have herase : ∀ c r, (c, r) ∈ s.waiting.eraseIdx i → prepareOutcome env c = .ok r :=
    fun c r hmem => h.prepared c r (List.mem_of_mem_eraseIdx hmem)
  split
  · exact h
  · rename_i c r hw
    have hp : prepareOutcome env c = .ok r := h.prepared c r (List.mem_of_getElem? hw)
    have hspec : Inserts env s.ledger r (insertOutcome env s.ledger r) := insertOutcome_spec _ _
    generalize insertOutcome env s.ledger r = result at hspec ⊢
    cases hspec with
    | refused e hrefused => exact { h with prepared := herase }
    | found j first hexists hparent hfirst =>
      obtain ⟨hget, hticket, hkey⟩ := get?_of_underKey hfirst
      refine { h with prepared := herase, answered := ?_ }
      intro c' j' hmem
      rcases List.mem_cons.1 hmem with heq | hold
      · cases heq
        exact ⟨r, first, hp, hget, Prod.ext hticket hkey⟩
      · exact h.answered c' j' hold
    | inserted hexists hparent hnew huser =>
      refine ⟨numbered_insert h.numbered,
        h.distinct.insert fun i r' hget => underKey_eq_none hnew hget, ?_, herase, ?_⟩
      · intro j a p hget hp'
        dsimp only at hget ⊢
        rw [Table.get?_insert] at hget
        split at hget
        · rename_i hj
          cases hget
          have hp' : r.parentRecordId = some p := hp'
          unfold parentValid at hparent
          rw [hp'] at hparent
          obtain ⟨parent, hparent', hticket⟩ := (Option.any_eq_true _ _).1 hparent
          rw [hj]
          exact ⟨Table.lt_next hparent', parent, Table.get?_insert_of_some _ hparent',
            of_decide_eq_true hticket⟩
        · obtain ⟨hlt, parent, hparent', hticket⟩ := h.parents j a p hget hp'
          exact ⟨hlt, parent, Table.get?_insert_of_some _ hparent', hticket⟩
      · intro c' j' hmem
        rcases List.mem_cons.1 hmem with heq | hold
        · cases heq
          exact ⟨r, _, hp, Table.get?_insert_self _ _, rfl⟩
        · obtain ⟨prepared, r', hp', hget, hkey⟩ := h.answered c' j' hold
          exact ⟨prepared, r', hp', Table.get?_insert_of_some _ hget, hkey⟩

lemma ledger_grows (s : OutcomeRun) (e : OutcomeStep) {i : ℕ} {r : OutcomeRecord}
    (h : s.ledger.get? i = some r) : (outcomeStep env e s).ledger.get? i = some r := by
  cases e with
  | call c =>
    unfold outcomeStep
    dsimp only
    split <;> exact h
  | lock j =>
    unfold outcomeStep
    dsimp only
    split
    · exact h
    · rename_i c prepared hw
      have hspec : Inserts env s.ledger prepared (insertOutcome env s.ledger prepared) :=
        insertOutcome_spec _ _
      generalize insertOutcome env s.ledger prepared = result at hspec ⊢
      cases hspec with
      | refused e hrefused => exact h
      | found k first hexists hparent hfirst => exact h
      | inserted hexists hparent hnew huser => exact Table.get?_insert_of_some _ h

end Chained

theorem ledger_chained (env : OutcomeEnv) (l l' : List OutcomeStep) :
    Chained env (run (outcomeStep env) OutcomeRun.empty l) ∧
      ∀ i r, (run (outcomeStep env) OutcomeRun.empty l).ledger.get? i = some r →
        (run (outcomeStep env) OutcomeRun.empty (l ++ l')).ledger.get? i = some r := by
  constructor
  · refine (along_true _ l).invariant ?_ chained_empty
    intro s e h _
    cases e with
    | call c => exact chained_call h c
    | lock i => exact chained_lock h i
  · intro i r h
    rw [run_append]
    exact (along_true _ l').invariant (I := fun s => s.ledger.get? i = some r)
      (fun s e hs _ => ledger_grows s e hs) h

/-! ## a source in capitals -/

def sampleEnv : OutcomeEnv where
  py := { sha256 := id, lower := List.map Char.toLower, str := fun _ => [] }
  ticketExists := fun _ => true
  userExists := fun _ => true

def sampleTime : UtcTime where
  year := 2026
  month := 7
  day := 1
  hour := 0
  minute := 0
  second := 0
  microsecond := 0
  date := by decide
  time := by decide

/-- a receipt of the provider `Email`. -/
def emailReceipt : OutcomeCall where
  ticketId := 1
  recordType := "provider_receipt".toList
  state := "delivered".toList
  idempotencyKey := ['k']
  occurredAt := some sampleTime
  createdBy := none
  payload := none
  parentRecordId := none
  sourceKind := some "Email".toList
  sourceId := none

theorem spelled_source_conflicts : ¬Settled sampleEnv
    (run (outcomeStep sampleEnv) OutcomeRun.empty [.call emailReceipt, .lock 0]) := by
  intro h
  obtain ⟨prepared, hfound⟩ := h.repeated emailReceipt 1 (List.mem_cons_self ..)
  have hconflict : (checkOutcome sampleEnv
      (run (outcomeStep sampleEnv) OutcomeRun.empty [.call emailReceipt, .lock 0]).ledger
      emailReceipt).toOption.isNone = true := by decide +kernel
  rw [hfound] at hconflict
  cases hconflict

end NexusHelpdesk.Cases
