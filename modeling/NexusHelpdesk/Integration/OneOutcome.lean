import NexusHelpdesk.Integration.Task

/-!
# One outcome for an Idempotency-Key

* `OneOutcome`: one ticket at most, a request that was answered with a ticket is answered with it
  again, and a request with another payload is a conflict that changes nothing;
* `KeyOk`: a step leads to such a state, and a request that was refused before it reserved the key
  does not change what the key answers;
* `Harmless`: the recording of an error overwrites no answer;
* `one_outcome_iff`: **a run has one outcome exactly if every recorded error is harmless**;
* `rate_limit_overwrites`: a refusal for the rate limit takes the place of the created ticket.
-/

namespace NexusHelpdesk.Integration

open Lib

section Outcome
variable (env : TaskEnv)

/-! ## the property -/

/-- what the session of request `r` answers without an effect. -/
def Answers (row : Option LogRow) (r : TaskRequest) (a : Answer) : Prop :=
  ∀ v, checkRequest env v r = .ok () → taskSession env row v r = .found (some a)

def conflictAnswer : Answer := refusal 409 "idempotency_key_reused_with_different_payload"

structure OneOutcome (w : TaskWorld) : Prop where
  oneTicket : w.tickets.length ≤ 1
  again : ∀ r no, (r, no) ∈ w.answered →
    ∃ a, Answers env w.row r a ∧ a.caseRef = some (.str no)
  conflict : ∀ row q, w.row = some row → row.requestHash = some (env.requestHash q) →
    ∀ r, r ≠ q → Answers env w.row r conflictAnswer ∧
      ∀ e, recordIntegrationError w.row (env.requestHash r) e = row

def SameAnswers (row row' : Option LogRow) : Prop :=
  ∀ h, beginResponse (beginIntegrationIdempotency row h) =
    beginResponse (beginIntegrationIdempotency row' h)

/-- the step is one of a request that was refused before it reserved the key. -/
def OfRefused (w : TaskWorld) (i : TaskStep) : Prop :=
  match i with
  | .session t r v => ∃ e, checkRequest env v r = .error e
  | .recordError t => ∃ x, w.rejected t = some x ∧ x.refused = true
  | .crash t => True

def KeyOk (w : TaskWorld) (i : TaskStep) : Prop :=
  OneOutcome env (taskStep env i w) ∧
    (OfRefused env w i → SameAnswers w.row (taskStep env i w).row)

def Holds (row : Option LogRow) (requestHash : Text) (response : Payload) : Prop :=
  ∃ row', row = some row' ∧ row'.requestHash = some requestHash ∧
    row'.responseJson = some response

def Foreign (row : Option LogRow) (requestHash : Text) : Prop :=
  ∃ row', row = some row' ∧ row'.requestHash ≠ some requestHash

/-- the error of a refused request meets the row of another payload or the same error; that of a
request that had reserved the key meets no payload that was answered with a ticket. -/
def Harmless (w : TaskWorld) (i : TaskStep) : Prop :=
  match i with
  | .recordError t => ∀ x, w.rejected t = some x →
      if x.refused = true then
        Foreign w.row (env.requestHash x.request) ∨
          Holds w.row (env.requestHash x.request) (safeLogPayload (errorPayload x.error))
      else ∀ no, (x.request, no) ∉ w.answered
  | _ => True

/-! ## the row -/

/-- the response of a session, as the log keeps it. -/
inductive Success (no : Text) : Payload → Prop
  | existing : Success no (safeLogPayload (existingResponse no))
  | created : Success no (safeLogPayload (createdResponse no))

structure KeyInv (w : TaskWorld) : Prop where
  row : ∀ row, w.row = some row →
    ∃ q response, row.requestHash = some (env.requestHash q) ∧ row.responseJson = some response
  answered : ∀ r no, (r, no) ∈ w.answered →
    ∃ response, Success no response ∧ Holds w.row (env.requestHash r) response
  noTicket : w.row = none → w.tickets = []
  oneTicket : w.tickets.length ≤ 1

variable {env} {w : TaskWorld} {row : LogRow} {r q : TaskRequest} {no : Text} {response : Payload}
  {e : HTTPException} {v : TaskView} {h : Text}

lemma keyInv_start : KeyInv env TaskWorld.start where
  row := fun row hrow => by cases hrow
  answered := fun r no hr => by cases hr
  noTicket := fun _ => rfl
  oneTicket := Nat.zero_le 1

lemma requestHash_injective (hsha : Function.Injective env.sha256) :
    Function.Injective env.requestHash := by
  have hopt : Function.Injective optional := by
    intro s t hst
    cases s <;> cases t <;> simp_all [optional]
  intro r q hrq
  have hdump : r.dump = q.dump := Json.text_injective (hsha hrq)
  obtain ⟨rc, rch, rs, rt, rp, rd, rm, rco, rma, rte⟩ := r
  obtain ⟨qc, qch, qs, qt, qp, qd, qm, qco, qma, qte⟩ := q
  have hmeta : rm = qm := by
    cases rm <;> cases qm <;> simp_all [TaskRequest.dump]
  simp only [TaskRequest.dump, Json.obj.injEq, List.cons.injEq, Prod.mk.injEq, Json.str.injEq,
    true_and, and_true] at hdump
  obtain ⟨h1, h2, h3, h4, h5, -, h7, h8, h9, h10⟩ := hdump
  simp_all [hopt.eq_iff]

lemma isOther_iff (hq : row.requestHash = some (env.requestHash q))
    (hne : env.requestHash q ≠ []) : row.isOther h = true ↔ env.requestHash q ≠ h := by
  unfold LogRow.isOther
  rw [hq]
  simp [hne]

lemma begin_other (hq : row.requestHash = some (env.requestHash q)) (hne : env.requestHash q ≠ [])
    (hh : env.requestHash q ≠ h) : beginIntegrationIdempotency (some row) h = .conflict := by
  have hother : row.isOther h = true := (isOther_iff hq hne).2 hh
  show classifyIdempotencyRow row h = .conflict
  unfold classifyIdempotencyRow
  rw [if_pos hother]

lemma begin_same (hq : row.requestHash = some h) (hresponse : row.responseJson = some response) :
    beginIntegrationIdempotency (some row) h = .replay response := by
  have hother : ¬ row.isOther h = true := by
    unfold LogRow.isOther
    rw [hq]
    simp
  show classifyIdempotencyRow row h = .replay response
  unfold classifyIdempotencyRow
  rw [if_neg hother, hresponse]

lemma classify_not_owner {row' : LogRow} : classifyIdempotencyRow row h ≠ .owner row' := by
  unfold classifyIdempotencyRow
  split_ifs with hother hstatus
  · exact fun h => by cases h
  · cases row.responseJson <;> exact fun h => by cases h
  · cases row.responseJson <;> exact fun h => by cases h

lemma session_found {a : Answer} {b : IdempotencyBegin} {row : Option LogRow}
    (hb : beginIntegrationIdempotency row (env.requestHash r) = b) (ha : beginResponse b = some a) :
    Answers env row r a := by
  intro v hv
  unfold taskSession
  rw [hv, hb]
  cases b with
  | owner row' => cases ha
  | _ => exact congrArg SessionEnd.found ha

lemma caseRef_success (hs : Success no response) :
    (Answer.dict (response ++ [("idempotent".toList, .bool true)])).caseRef = some (.str no) := by
  cases hs <;> rfl

lemma caseRef_error (e : HTTPException) :
    (Answer.dict (safeLogPayload (errorPayload e) ++ [("idempotent".toList, .bool true)])).caseRef =
      none := rfl

lemma record_foreign (hq : row.requestHash = some (env.requestHash q))
    (hne : env.requestHash q ≠ []) (hresponse : row.responseJson = some response)
    (hh : env.requestHash q ≠ h) (hh' : h ≠ []) :
    recordIntegrationError (some row) h e = row := by
  have hother : row.isOther h = true := (isOther_iff hq hne).2 hh
  have hsome : row.responseJson.isSome = true := by
    rw [hresponse]
    rfl
  unfold recordIntegrationError recordIntegrationResponse
  exact if_pos ⟨hh', hother, hsome⟩

lemma record_step {t : ℕ} {x : Rejected} (hx : w.rejected t = some x) :
    taskStep env (.recordError t) w = { w with
      row := some (recordIntegrationError w.row (env.requestHash x.request) x.error)
      rejected := w.rejected.release t } := by
  rw [taskStep, hx]

def errorRow (h : Text) (e : HTTPException) : LogRow :=
  ⟨some h, some e.statusCode, some (errorCodeFromStatus e.statusCode),
    some (safeLogPayload (errorPayload e))⟩

lemma record_reserved {n : ℕ} {code : Option String} :
    recordIntegrationResponse (some ⟨some h, none, none, none⟩) h n response code =
      ⟨some h, some n, code, some (safeLogPayload response)⟩ := by
  unfold recordIntegrationResponse LogRow.isOther
  exact if_neg (by simp)

lemma begin_errorRow :
    beginIntegrationIdempotency (some (errorRow h e)) h =
      .replay (safeLogPayload (errorPayload e)) := begin_same rfl rfl

lemma record_none : recordIntegrationError none h e = errorRow h e := rfl

lemma record_same (hq : row.requestHash = some h) :
    recordIntegrationError (some row) h e = errorRow h e := by
  have hother : ¬ (h ≠ [] ∧ row.isOther h = true ∧ row.responseJson.isSome = true) := by
    unfold LogRow.isOther
    rw [hq]
    simp
  unfold recordIntegrationError recordIntegrationResponse
  exact if_neg hother

lemma exists_checked (env : TaskEnv) (r : TaskRequest) : ∃ v, checkRequest env v r = .ok () := by
  let key := env.lower (PyStr.stripChars (r.tenantKey.getD []))
  refine ⟨⟨⟨["task.write"], 0, .tenant, some 1⟩, 0, [⟨1, key, true⟩], .crashes⟩, ?_⟩
  have htenant : principalTenant env ⟨["task.write"], 0, .tenant, some 1⟩ [⟨1, key, true⟩]
      r.tenantKey = .ok ⟨1, key, true⟩ := by
    show (if key ≠ [] ∧ key ≠ key then _ else _) = _
    rw [if_neg (fun hkey => hkey.2 rfl)]
  have hscope : requireScope ⟨["task.write"], 0, .tenant, some 1⟩ = .ok () := by
    unfold requireScope
    exact if_pos (by simp)
  have hlimit : enforceRateLimit ⟨["task.write"], 0, .tenant, some 1⟩ 0 = .ok () := by
    unfold enforceRateLimit
    exact if_pos (le_refl 0)
  unfold checkRequest
  rw [htenant, hscope, hlimit]
  rfl

variable (hinj : Function.Injective env.sha256) (hne : ∀ t, env.sha256 t ≠ [])
include hinj hne

lemma KeyInv.oneOutcome (hw : KeyInv env w) : OneOutcome env w where
  oneTicket := hw.oneTicket
  again := by
    intro r no hr
    obtain ⟨response, hs, row, hrow, hhash, hresponse⟩ := hw.answered r no hr
    refine ⟨_, ?_, caseRef_success hs⟩
    rw [hrow]
    exact session_found (begin_same hhash hresponse) rfl
  conflict := by
    intro row q hrow hq r hrq
    have hhash : env.requestHash q ≠ env.requestHash r := fun h =>
      hrq (requestHash_injective hinj h).symm
    obtain ⟨-, response, -, hresponse⟩ := hw.row row hrow
    rw [hrow]
    refine ⟨session_found (begin_other hq (hne _) hhash) rfl, ?_⟩
    intro e
    exact record_foreign hq (hne _) hresponse hhash (hne _)

/-! ## the steps -/

omit hinj hne in
lemma KeyInv.done (hw : KeyInv env w) (hrow : w.row = none) {isNew : Bool}
    (hhash : row.requestHash = some (env.requestHash r))
    (hresponse : row.responseJson = some response) (hs : Success no response) :
    KeyInv env { w with
      row := some row
      tickets := if isNew then no :: w.tickets else w.tickets
      answered := (r, no) :: w.answered } where
  row := by
    intro row' hrow'
    cases hrow'
    exact ⟨r, response, hhash, hresponse⟩
  answered := by
    intro r' no' hmem
    rcases List.mem_cons.1 hmem with heq | hold
    · cases heq
      exact ⟨response, hs, row, rfl, hhash, hresponse⟩
    · -- nothing was answered while the key had no row
      obtain ⟨-, -, row', hrow', -⟩ := hw.answered r' no' hold
      rw [hrow] at hrow'
      cases hrow'
  noTicket := fun h => by cases h
  oneTicket := by
    show (if isNew then no :: w.tickets else w.tickets).length ≤ 1
    rw [hw.noTicket hrow]
    cases isNew <;> simp

omit hinj hne in
lemma session_cases (row : Option LogRow) (v : TaskView) (r : TaskRequest) :
    (∃ row' response no a isNew,
      taskSession env row v r = .done row' a no isNew ∧ row = none ∧
      row'.requestHash = some (env.requestHash r) ∧ row'.responseJson = some response ∧
      Success no response) ∨
    ∀ row' a no isNew, taskSession env row v r ≠ .done row' a no isNew := by
  unfold taskSession
  cases checkRequest env v r with
  | error e => exact Or.inr fun _ _ _ _ h => by cases h
  | ok u =>
    cases row with
    | some row =>
      refine Or.inr fun row' a no isNew h => ?_
      cases hb : beginIntegrationIdempotency (some row) (env.requestHash r) with
      | owner reserved => exact classify_not_owner hb
      | _ =>
        rw [hb] at h
        cases h
    | none =>
      rw [show beginIntegrationIdempotency none (env.requestHash r) = .owner _ from rfl]
      dsimp only
      cases v.work with
      | existing no =>
        refine Or.inl ⟨_, safeLogPayload (existingResponse no), no, _, false, rfl, rfl, ?_⟩
        rw [record_reserved]
        exact ⟨rfl, rfl, .existing⟩
      | created no =>
        refine Or.inl ⟨_, safeLogPayload (createdResponse no), no, _, true, rfl, rfl, ?_⟩
        rw [record_reserved]
        exact ⟨rfl, rfl, .created⟩
      | fails e => exact Or.inr fun _ _ _ _ h => by cases h
      | crashes => exact Or.inr fun _ _ _ _ h => by cases h

omit hinj hne in
lemma KeyInv.session (hw : KeyInv env w) (t : ℕ) (r : TaskRequest) (v : TaskView) :
    KeyInv env (taskStep env (.session t r v) w) := by
  rcases session_cases w.row v r with
    ⟨row, response, no, a, isNew, hdone, hrow, hhash, hresponse, hs⟩ | hother
  · rw [taskStep, hdone]
    exact hw.done hrow hhash hresponse hs
  · rw [taskStep]
    cases hend : taskSession env w.row v r with
    | found a => exact hw
    | done row a no isNew => exact absurd hend (hother row a no isNew)
    | raised e => exact ⟨hw.row, hw.answered, hw.noTicket, hw.oneTicket⟩
    | crashed => exact hw

omit hinj in
lemma KeyInv.record_cases (hw : KeyInv env w) (x : Rejected) :
    (Foreign w.row (env.requestHash x.request) ∧
      some (recordIntegrationError w.row (env.requestHash x.request) x.error) = w.row) ∨
    (¬ Foreign w.row (env.requestHash x.request) ∧
      recordIntegrationError w.row (env.requestHash x.request) x.error =
        errorRow (env.requestHash x.request) x.error) := by
  cases hrow : w.row with
  | none =>
    refine Or.inr ⟨?_, record_none⟩
    rintro ⟨row, h, -⟩
    cases h
  | some row =>
    obtain ⟨q, response, hq, hresponse⟩ := hw.row row hrow
    by_cases hhash : env.requestHash q = env.requestHash x.request
    · rw [hhash] at hq
      refine Or.inr ⟨?_, record_same hq⟩
      rintro ⟨row', h, hdiff⟩
      cases h
      exact hdiff hq
    · refine Or.inl ⟨⟨row, rfl, ?_⟩, ?_⟩
      · rw [hq]
        exact fun h => hhash (Option.some.inj h)
      · rw [record_foreign hq (hne _) hresponse hhash (hne _)]

omit hne in
lemma KeyInv.overwritten (hw : KeyInv env w) (x : Rejected)
    (hno : ∀ no, (x.request, no) ∉ w.answered)
    (hforeign : ¬ Foreign w.row (env.requestHash x.request)) :
    KeyInv env { w with row := some (errorRow (env.requestHash x.request) x.error) } where
  row := by
    intro row hrow
    cases hrow
    exact ⟨x.request, _, rfl, rfl⟩
  answered := by
    intro r no hr
    obtain ⟨response, -, row, hrow, hhash, -⟩ := hw.answered r no hr
    have hsame : row.requestHash = some (env.requestHash x.request) := by
      by_contra h
      exact hforeign ⟨row, hrow, h⟩
    have heq : env.requestHash r = env.requestHash x.request :=
      Option.some.inj (hhash.symm.trans hsame)
    rw [requestHash_injective hinj heq] at hr
    exact absurd hr (hno no)
  noTicket := fun h => by cases h
  oneTicket := hw.oneTicket

omit hinj hne in
lemma KeyInv.withRejected (hw : KeyInv env w) (rejected : InHand ℕ Rejected) :
    KeyInv env { w with rejected := rejected } :=
  ⟨hw.row, hw.answered, hw.noTicket, hw.oneTicket⟩

omit hinj hne in
lemma sameAnswers_errorRow {row : Option LogRow} (hh : h ≠ [])
    (hold : Holds row h (safeLogPayload (errorPayload e))) :
    SameAnswers row (some (errorRow h e)) := by
  obtain ⟨row', rfl, hhash, hresponse⟩ := hold
  intro k
  by_cases hk : h = k
  · subst hk
    rw [begin_same hhash hresponse, begin_errorRow]
  · have hother : ∀ row'' : LogRow, row''.requestHash = some h →
        beginIntegrationIdempotency (some row'') k = .conflict := by
      intro row'' hrow
      show classifyIdempotencyRow row'' k = _
      unfold classifyIdempotencyRow LogRow.isOther
      rw [hrow]
      simp [hh, hk]
    rw [hother row' hhash, hother (errorRow h e) rfl]

omit hinj hne in
lemma holds_of_sameAnswers {row : Option LogRow} (hforeign : ¬ Foreign row h)
    (hresponse : ∀ row', row = some row' → ∃ response, row'.responseJson = some response)
    (hsame : SameAnswers row (some (errorRow h e))) :
    Holds row h (safeLogPayload (errorPayload e)) := by
  have hat := hsame h
  rw [begin_errorRow] at hat
  cases row with
  | none => cases hat
  | some row =>
    have hhash : row.requestHash = some h := by
      by_contra hdiff
      exact hforeign ⟨row, rfl, hdiff⟩
    obtain ⟨response, hold⟩ := hresponse row rfl
    rw [begin_same hhash hold] at hat
    have hlist : response ++ [("idempotent".toList, Json.bool true)] =
        safeLogPayload (errorPayload e) ++ [("idempotent".toList, Json.bool true)] :=
      Answer.dict.inj (Option.some.inj hat)
    exact ⟨row, rfl, hhash, hold.trans (congrArg some (List.append_cancel_right hlist))⟩

lemma KeyInv.step (hw : KeyInv env w) (i : TaskStep) (hi : Harmless env w i) :
    KeyInv env (taskStep env i w) := by
  cases i with
  | session t r v => exact hw.session t r v
  | crash t => exact hw.withRejected _
  | recordError t =>
    cases hx : w.rejected t with
    | none =>
      rw [taskStep, hx]
      exact hw
    | some x =>
      have hall := hi x hx
      rw [record_step hx]
      rcases hw.record_cases hne x with ⟨-, hkept⟩ | ⟨hforeign, herror⟩
      · rw [hkept]
        exact hw.withRejected _
      · rw [herror]
        refine (hw.overwritten hinj x ?_ hforeign).withRejected _
        intro no hno
        cases hrefused : x.refused with
        | false =>
          rw [hrefused] at hall
          exact hall no hno
        | true =>
          -- the row has a ticket, and so neither the same error nor another payload
          rw [hrefused, if_pos rfl] at hall
          obtain ⟨response, hs, row, hrow, hhash, hresponse⟩ := hw.answered x.request no hno
          rcases hall with hother | ⟨row', hrow', -, hresponse'⟩
          · exact hforeign hother
          · have heq : row = row' := Option.some.inj (hrow.symm.trans hrow')
            rw [← heq, hresponse] at hresponse'
            have hcase := caseRef_success hs
            rw [Option.some.inj hresponse', caseRef_error] at hcase
            cases hcase

omit hinj hne in
lemma not_oneOutcome_overwritten {tickets : List Text}
    {answered : List (TaskRequest × Text)} {rejected : InHand ℕ Rejected}
    (hno : (r, no) ∈ answered) :
    ¬ OneOutcome env ⟨some (errorRow (env.requestHash r) e), tickets, answered, rejected⟩ := by
  intro h
  obtain ⟨a, ha, hcase⟩ := h.again r no hno
  obtain ⟨v, hv⟩ := exists_checked env r
  have herror : Answers env (some (errorRow (env.requestHash r) e)) r
      (.dict (safeLogPayload (errorPayload e) ++ [("idempotent".toList, .bool true)])) :=
    session_found (begin_same rfl rfl) rfl
  have hfound := (ha v hv).symm.trans (herror v hv)
  have hans : a = .dict (safeLogPayload (errorPayload e) ++ [("idempotent".toList, .bool true)]) :=
    Option.some.inj (SessionEnd.found.inj hfound)
  rw [hans, caseRef_error] at hcase
  cases hcase

lemma keyOk_iff (hw : KeyInv env w) (i : TaskStep) : KeyOk env w i ↔ Harmless env w i := by
  constructor
  · rintro ⟨hone, hkeeps⟩
    cases i with
    | session t r v => trivial
    | crash t => trivial
    | recordError t =>
      intro x hx
      rw [record_step hx] at hone hkeeps
      rcases hw.record_cases hne x with ⟨hforeign, -⟩ | ⟨hforeign, herror⟩
      · cases hrefused : x.refused with
        | true => exact Or.inl hforeign
        | false =>
          intro no hno
          obtain ⟨-, -, row, hrow, hhash, -⟩ := hw.answered x.request no hno
          obtain ⟨row', hrow', hdiff⟩ := hforeign
          rw [hrow] at hrow'
          cases hrow'
          exact hdiff hhash
      · rw [herror] at hone hkeeps
        cases hrefused : x.refused with
        | true =>
          have hsame := hkeeps ⟨x, hx, hrefused⟩
          refine Or.inr (holds_of_sameAnswers hforeign ?_ hsame)
          intro row hrow
          obtain ⟨-, response, -, hresponse⟩ := hw.row row hrow
          exact ⟨response, hresponse⟩
        | false =>
          intro no hno
          exact not_oneOutcome_overwritten hno hone
  · intro hi
    refine ⟨(hw.step hinj hne i hi).oneOutcome hinj hne, ?_⟩
    intro hrefused
    cases i with
    | session t r v =>
      obtain ⟨e, he⟩ := hrefused
      have hraised : taskSession env w.row v r = .raised e := by
        unfold taskSession
        rw [he]
      rw [taskStep, hraised]
      exact fun _ => rfl
    | crash t => exact fun _ => rfl
    | recordError t =>
      obtain ⟨x, hx, hflag⟩ := hrefused
      have hall := hi x hx
      rw [hflag, if_pos rfl] at hall
      rw [record_step hx]
      show SameAnswers w.row
        (some (recordIntegrationError w.row (env.requestHash x.request) x.error))
      rcases hw.record_cases hne x with ⟨-, hkept⟩ | ⟨hforeign, herror⟩
      · rw [hkept]
        exact fun _ => rfl
      · rw [herror]
        rcases hall with hother | hold
        · exact absurd hother hforeign
        · exact sameAnswers_errorRow (hne _) hold

omit hinj hne in
theorem one_outcome_iff (hinj : Function.Injective env.sha256) (hne : ∀ t, env.sha256 t ≠ [])
    (l : List TaskStep) :
    Along (taskStep env) (KeyOk env) TaskWorld.start l ↔
      Along (taskStep env) (Harmless env) TaskWorld.start l :=
  Along.congr (I := KeyInv env) (A := fun _ _ => True)
    (fun w i hw _ => keyOk_iff hinj hne hw i)
    (fun w i hw _ hi => hw.step hinj hne i hi) keyInv_start (along_true _ l)

end Outcome

namespace Samples

def env : TaskEnv := ⟨fun t => 'h' :: t, id⟩

def task : TaskRequest :=
  { contactId := "c-1".toList
    channel := "whatsapp".toList
    summary := "parcel".toList
    trackingNumber := none
    priority := "medium".toList
    description := none
    metadata := none
    countryCode := none
    marketCode := none
    tenantKey := none }

def view (recent : ℕ) (work : TaskWork) : TaskView :=
  ⟨⟨["task.write"], 60, .tenant, some 7⟩, recent, [⟨7, "acme".toList, true⟩], work⟩

lemma env_injective : Function.Injective env.sha256 := fun _ _ h => (List.cons.inj h).2

lemma env_ne_nil (t : Text) : env.sha256 t ≠ [] := List.cons_ne_nil 'h' t

end Samples

open Samples in
/-- a request that crashes, its retry, and the retry again. -/
theorem retried_one_outcome : Along (taskStep env) (KeyOk env) TaskWorld.start
    [.session 1 task (view 0 .crashes), .crash 1, .session 2 task (view 0 (.created "T-1".toList)),
      .session 3 task (view 1 .crashes)] :=
  (one_outcome_iff env_injective env_ne_nil _).2 ⟨trivial, trivial, trivial, trivial, trivial⟩

open Samples in
theorem rate_limit_overwrites : ¬ Along (taskStep env) (KeyOk env) TaskWorld.start
    [.session 1 task (view 0 (.created "T-1".toList)), .session 2 task (view 60 .crashes),
      .recordError 2] := by
  intro h
  have hchecked : checkRequest env (view 0 (.created "T-1".toList)) task = .ok () := rfl
  have hrefused : checkRequest env (view 60 .crashes) task =
      .error ⟨429, "Integration rate limit exceeded"⟩ := rfl
  have hcreated : ∀ w : TaskWorld, w.row = none →
      taskSession env w.row (view 0 (.created "T-1".toList)) task =
        .done ⟨some (env.requestHash task), some 200, none,
          some (safeLogPayload (createdResponse "T-1".toList))⟩
          (.dict (createdResponse "T-1".toList)) "T-1".toList true := by
    intro w hw
    rw [taskSession, hchecked, hw]
    show SessionEnd.done (recordIntegrationResponse _ _ _ _ _) _ _ _ = _
    rw [record_reserved]
  have hraised : ∀ row, taskSession env row (view 60 .crashes) task =
      .raised ⟨429, "Integration rate limit exceeded"⟩ := by
    intro row
    rw [taskSession, hrefused]
  simp only [Along, KeyOk, taskStep, hcreated TaskWorld.start rfl, hraised,
    InHand.take_self] at h
  obtain ⟨-, -, ⟨hone, -⟩, -⟩ := h
  rw [record_same rfl] at hone
  exact not_oneOutcome_overwritten (List.mem_cons_self : (task, "T-1".toList) ∈ _) hone

end NexusHelpdesk.Integration
