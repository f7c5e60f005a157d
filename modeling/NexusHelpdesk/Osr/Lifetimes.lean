import NexusHelpdesk.Desk.Text
import NexusHelpdesk.Osr.ContextRows

/-!
# The case contexts as a map with lifetimes (`nexus_osr/case_context_persistence.py`)

* `contextStep`: `save_case_context`, `close_case_context`, `expire_case_context` on the rows;
* `lifetimeStep`: the same on a map from identities to contexts with their end;
* `Simulates`, `simulates_step`: the active rows are the entries of the map that have not ended;
* `context_store_is_map`: **what is loaded after every sequence of steps**.
-/

namespace NexusHelpdesk.Osr

open Lib

/-! ## what is stored and loaded -/

@[irreducible] def canonicalCaseIssueType (value : Option Text) : Option Text :=
  let normalized := PyStr.lower (PyStr.strip (String.ofList (value.getD [])))
  if normalized = "" then none
  else if normalized = "tracking" then some "tracking_inquiry".toList
  else some normalized.toList

def CaseContext.postInit (c : CaseContext) : CaseContext :=
  { c with issueType := canonicalCaseIssueType c.issueType }

def orUnknown (value : Text) : Text := if value = [] then "unknown".toList else value

def ContactMethod.restored (m : ContactMethod) : ContactMethod :=
  { m with channel := orUnknown m.channel, source := orUnknown m.source }

def CaseContext.restored (c : CaseContext) : CaseContext :=
  { c with contactMethods := c.contactMethods.map ContactMethod.restored }

def CaseContextRecord.toContext (r : CaseContextRecord) : CaseContext :=
  r.toCaseContext.restored.postInit

/-- the tenant, the conversation and the ticket of a context. -/
abbrev Identity := Text × Option ℤ × Option ℤ

def CaseContextRecord.identity (r : CaseContextRecord) : Identity :=
  (r.tenantId, r.conversationId, r.ticketId)

/-- `load_case_context` of a conversation and a ticket, in its tenant. -/
def loadExact (rows : Table CaseContextRecord) (now : Instant) (tenantId : Text)
    (conversationId ticketId : ℤ) : Option CaseContext :=
  (lastRow (rows.select fun _ r =>
    r.isFor tenantId (some conversationId) (some ticketId) && r.readable now)).map (·.2.toContext)

/-! ## the steps on the rows -/

inductive ContextStep where
  | save (now : Instant) (tenantId : Text) (context : CaseContext) (expiresAt : Option Instant)
  | close (now : Instant) (tenantId : Text) (conversationId ticketId : Option ℤ)
  | expire (now : Instant) (tenantId : Text) (conversationId ticketId : Option ℤ)

def ContextStep.now : ContextStep → Instant
  | .save now .. | .close now .. | .expire now .. => now

section Rows
variable (rows : Table CaseContextRecord) (now : Instant) (tenantId : Text)

def CaseContext.activeUntil (c : CaseContext) (expiresAt : Option Instant) : Bool :=
  c.incomingActive && expiresAt.all (now < ·)

/-- the unique indexes on active rows refuse a row of this identity. -/
def indexTaken (id : Identity) : Bool :=
  rows.rows.any fun r => r.2.isActive && r.2.identity = id

/-- the rows that `save_case_context` looks through. -/
def rowsForSave (c : CaseContext) : Table CaseContextRecord :=
  if c.conversationId = none ∧ c.ticketId = none then rows
  else deactivate rows now tenantId c.conversationId c.ticketId

/-- `save_case_context` in a normalized tenant: the rows after it, or what it raises. -/
def saveUntil (c : CaseContext) (expiresAt : Option Instant) :
    Except OsrError (Table CaseContextRecord) :=
  let found := rowsForSave rows now tenantId c
  match activeExactRow found now tenantId c.conversationId c.ticketId with
  | some (i, _) => .ok (found.modify i (.applyValues c (c.activeUntil now expiresAt) expiresAt))
  | none =>
    if c.activeUntil now expiresAt = true ∧
        indexTaken found (tenantId, c.conversationId, c.ticketId) = true then
      -- the row that has won is looked for as the first one was, and is not there either
      .error (.integrity false)
    else .ok (found.insert ⟨c, tenantId, c.activeUntil now expiresAt, expiresAt⟩)

/-- `expire_case_context` in a normalized tenant. -/
def expireRows (conversationId ticketId : Option ℤ) : Table CaseContextRecord :=
  match activeExactRow rows now tenantId conversationId ticketId with
  | some (i, _) => rows.modify i fun r => { r with expiresAt := some now, isActive := false }
  | none => rows

end Rows

def ContextStep.run (rows : Table CaseContextRecord) :
    ContextStep → Except OsrError (Table CaseContextRecord)
  | .save now tenantId c expiresAt =>
    saveUntil rows now (normalizeTenant tenantId) c.postInit expiresAt
  | .close now tenantId conversationId ticketId =>
    .ok (closeRows now (normalizeTenant tenantId) conversationId ticketId rows)
  | .expire now tenantId conversationId ticketId =>
    .ok (expireRows rows now (normalizeTenant tenantId) conversationId ticketId)

def contextStep (i : ContextStep) (rows : Table CaseContextRecord) : Table CaseContextRecord :=
  match i.run rows with
  | .ok rows' => rows'
  | .error _ => rows

/-! ## the map -/

abbrev Lifetimes := Identity → Option (CaseContext × Option Instant)

def ContextStep.identity : ContextStep → Identity
  | .save _ tenantId c _ => (normalizeTenant tenantId, c.conversationId, c.ticketId)
  | .close _ tenantId conversationId ticketId | .expire _ tenantId conversationId ticketId =>
    (normalizeTenant tenantId, conversationId, ticketId)

def ContextStep.left : ContextStep → Option (CaseContext × Option Instant)
  | .save now _ c expiresAt =>
    if c.postInit.activeUntil now expiresAt = true then some (c.postInit, expiresAt) else none
  | .close .. | .expire .. => none

def lifetimeStep (i : ContextStep) (m : Lifetimes) : Lifetimes :=
  Function.update m i.identity i.left

def Lifetimes.live (m : Lifetimes) (now : Instant) (id : Identity) : Option CaseContext :=
  ((m id).filter fun held => held.2.all (now < ·)).map Prod.fst

/-! ## the simulation -/

section Simulation
variable {rows rows' : Table CaseContextRecord} {now now' : Instant} {m : Lifetimes} {id : Identity}
  {r : CaseContextRecord}

lemma readable_iff : r.readable now = true ↔ r.isActive = true ∧
    r.closedAt = none ∧ r.status.terminal = false ∧ r.expiresAt.all (now < ·) = true := by
  unfold CaseContextRecord.readable
  simp [and_assoc]

lemma all_mono {expiry : Option Instant} (hnow : now ≤ now') (h : expiry.all (now' < ·) = true) :
    expiry.all (now < ·) = true := by
  cases expiry with
  | none => rfl
  | some e => exact decide_eq_true (hnow.trans_lt (of_decide_eq_true h))

/-- the active rows are those of the map, one for an identity. -/
structure Simulates (now : Instant) (rows : Table CaseContextRecord) (m : Lifetimes) : Prop where
  unique : ∀ i j r r', rows.get? i = some r → rows.get? j = some r' → r.isActive = true →
    r'.isActive = true → r.identity = r'.identity → i = j
  holds : ∀ id c e, e.all (now < ·) = true → (m id = some (c, e) ↔ ∃ i r, rows.get? i = some r ∧
    r.identity = id ∧ r.readable now = true ∧ r.toCaseContext = c ∧ r.expiresAt = e)
  named : ∀ i r, rows.get? i = some r → r.isActive = true → r.identity.2 ≠ (none, none)

lemma simulates_empty : Simulates now Table.empty fun _ => none where
  unique := fun i j r r' h => by cases h
  holds := fun id c e he => ⟨nofun, fun ⟨i, r, h, _⟩ => by cases h⟩
  named := fun i r h => by cases h

lemma Simulates.later (h : Simulates now rows m) (hnow : now ≤ now') : Simulates now' rows m where
  unique := h.unique
  holds id c e he := by
    rw [h.holds id c e (all_mono hnow he)]
    refine exists_congr fun i => exists_congr fun r => and_congr_right fun _ =>
      and_congr_right fun _ => ?_
    rw [readable_iff, readable_iff]
    constructor
    · rintro ⟨⟨hactive, hclosed, hstatus, -⟩, hc, rfl⟩
      exact ⟨⟨hactive, hclosed, hstatus, he⟩, hc, rfl⟩
    · rintro ⟨⟨hactive, hclosed, hstatus, -⟩, hc, rfl⟩
      exact ⟨⟨hactive, hclosed, hstatus, all_mono hnow he⟩, hc, rfl⟩
  named := h.named

lemma Simulates.placed (h : Simulates now rows m) {i₀ : ℕ} {r₀ : CaseContextRecord}
    (hnew : rows'.get? i₀ = some r₀) (hid : r₀.identity = id)
    (hrest : ∀ i, i ≠ i₀ → rows'.get? i = rows.get? i)
    (hold : ∀ r, rows.get? i₀ = some r → r.identity = id)
    (hquiet : ∀ i r, i ≠ i₀ → rows.get? i = some r → r.identity = id → r.isActive = false)
    (hreadable : r₀.isActive = true → r₀.readable now = true)
    (hname : r₀.isActive = true → id.2 ≠ (none, none)) :
    Simulates now rows' (Function.update m id
      (if r₀.isActive = true then some (r₀.toCaseContext, r₀.expiresAt) else none)) where
  unique i j r r' hr hr' hactive hactive' hsame := by
    have hplace : ∀ i r, rows'.get? i = some r → r.isActive = true → r.identity = id → i = i₀ := by
      intro i r hr hactive hrid
      by_contra hi
      rw [hrest i hi] at hr
      rw [hquiet i r hi hr hrid] at hactive
      cases hactive
    by_cases hrid : r.identity = id
    · rw [hplace i r hr hactive hrid, hplace j r' hr' hactive' (hsame ▸ hrid)]
    · have hother : ∀ k q, rows'.get? k = some q → q.identity ≠ id → rows.get? k = some q := by
        intro k q hq hqid
        rw [← hq, hrest k]
        rintro rfl
        rw [hnew] at hq
        cases hq
        exact hqid hid
      exact h.unique i j r r' (hother i r hr hrid) (hother j r' hr' (hsame ▸ hrid)) hactive
        hactive' hsame
  holds id' c e he := by
    by_cases hid' : id' = id
    · subst hid'
      rw [Function.update_self]
      constructor
      · intro hsome
        split at hsome
        · rename_i hactive
          cases hsome
          exact ⟨i₀, r₀, hnew, hid, hreadable hactive, rfl, rfl⟩
        · cases hsome
      · rintro ⟨i, r, hr, hrid, hread, rfl, rfl⟩
        have hi : i = i₀ := by
          by_contra hi
          rw [hrest i hi] at hr
          have hactive := isActive_of_readable hread
          rw [hquiet i r hi hr hrid] at hactive
          cases hactive
        rw [hi, hnew] at hr
        cases hr
        rw [if_pos (isActive_of_readable hread)]
    · rw [Function.update_of_ne hid', h.holds id' c e he]
      refine exists_congr fun i => exists_congr fun r => ⟨?_, ?_⟩
      · rintro ⟨hr, rfl, hrow⟩
        refine ⟨?_, rfl, hrow⟩
        rw [hrest i, hr]
        rintro rfl
        exact hid' (hold r hr)
      · rintro ⟨hr, rfl, hrow⟩
        refine ⟨?_, rfl, hrow⟩
        rw [← hrest i, hr]
        rintro rfl
        rw [hnew] at hr
        cases hr
        exact hid' hid
  named i r hr hactive := by
    by_cases hi : i = i₀
    · rw [hi, hnew] at hr
      cases hr
      rw [hid]
      exact hname hactive
    · rw [hrest i hi] at hr
      exact h.named i r hr hactive

lemma Simulates.forgotten (h : Simulates now rows m)
    (hnone : ∀ i r, rows.get? i = some r → r.identity = id → r.readable now = false) :
    Simulates now rows (Function.update m id none) where
  unique := h.unique
  holds id' c e he := by
    by_cases hid : id' = id
    · subst hid
      rw [Function.update_self]
      refine ⟨nofun, ?_⟩
      rintro ⟨i, r, hr, hrid, hread, -⟩
      rw [hnone i r hr hrid] at hread
      cases hread
    · rw [Function.update_of_ne hid, h.holds id' c e he]
  named := h.named

/-! ## the rows that a step looks at -/

variable {tenantId : Text} {conversationId ticketId : Option ℤ} {c : CaseContext}
  {x : ℕ × CaseContextRecord} {i : ℕ} {k : ℕ}

lemma activeExactRow_found (h : activeExactRow rows now tenantId conversationId ticketId = some x) :
    rows.get? x.1 = some x.2 ∧ x.2.identity = (tenantId, conversationId, ticketId) ∧
      x.2.readable now = true := by
  unfold activeExactRow lastRow at h
  split_ifs at h
  obtain ⟨hrow, hfits⟩ := rows.mem_select.1 (List.mem_of_mem_getLast? h)
  obtain ⟨hfor, hread⟩ := Bool.and_eq_true_iff.1 hfits
  obtain ⟨htenant, hconversation, hticket⟩ := isFor_iff.1 hfor
  refine ⟨hrow, ?_, hread⟩
  unfold CaseContextRecord.identity
  rw [htenant, hconversation, hticket]

lemma Simulates.missing (h : Simulates now rows m)
    (hnone : activeExactRow rows now tenantId conversationId ticketId = none) :
    ∀ i r, rows.get? i = some r → r.identity = (tenantId, conversationId, ticketId) →
      r.readable now = false := by
  intro i r hr hid
  by_contra hne
  have hread : r.readable now = true := by simpa using hne
  unfold activeExactRow at hnone
  split at hnone
  · rename_i hnameless
    refine h.named i r hr (isActive_of_readable hread) ?_
    rw [hid, hnameless.1, hnameless.2]
  · obtain ⟨htenant, hconversation, hticket⟩ := (Prod.ext_iff.trans (and_congr_right fun _ =>
      Prod.ext_iff)).1 hid
    have hmem : (i, r) ∈ rows.select fun _ r =>
        r.isFor tenantId conversationId ticketId && r.readable now :=
      rows.mem_select.2 ⟨hr, Bool.and_eq_true_iff.2
        ⟨isFor_iff.2 ⟨htenant, hconversation, hticket⟩, hread⟩⟩
    unfold lastRow at hnone
    rw [List.getLast?_eq_none_iff.1 hnone] at hmem
    cases hmem

lemma Simulates.ended (h : Simulates now rows m)
    (hfound : activeExactRow rows now tenantId conversationId ticketId = some x)
    {f : CaseContextRecord → CaseContextRecord}
    (hf : (f x.2).identity = x.2.identity ∧ (f x.2).isActive = false) :
    Simulates now (rows.modify x.1 f)
      (Function.update m (tenantId, conversationId, ticketId) none) := by
  obtain ⟨hrow, hid, hread⟩ := activeExactRow_found hfound
  have hself : (rows.modify x.1 f).get? x.1 = some (f x.2) := by
    rw [Table.get?_modify_self, hrow]
    rfl
  have hplaced := h.placed hself (hf.1.trans hid) (fun i hi => Table.get?_modify_of_ne _ _ hi)
    (fun r hr => ?_) (fun i r hi hr hrid => ?_) (fun hactive => ?_) (fun hactive => ?_)
  · rwa [if_neg (by rw [hf.2]; nofun)] at hplaced
  · rw [hrow] at hr
    cases hr
    exact hid
  · by_contra hne
    exact hi (h.unique i x.1 r x.2 hr hrow (by simpa using hne) (isActive_of_readable hread)
      (hrid.trans hid.symm))
  · rw [hf.2] at hactive
    cases hactive
  · rw [hf.2] at hactive
    cases hactive

lemma rowsForSave_get {r' : CaseContextRecord}
    (h : (rowsForSave rows now tenantId c).get? i = some r') :
    ∃ r, rows.get? i = some r ∧ r'.identity = r.identity ∧ (r'.isActive = true → r' = r) := by
  unfold rowsForSave at h
  split at h
  · exact ⟨r', h, rfl, fun _ => rfl⟩
  · unfold deactivate at h
    rw [Table.get?_mapRows] at h
    obtain ⟨r, hr, rfl⟩ := Option.map_eq_some_iff.1 h
    refine ⟨r, hr, ?_, ?_⟩
    · split <;> rfl
    · split
      · nofun
      · exact fun _ => rfl

lemma rowsForSave_readable (hr : rows.get? i = some r) (hread : r.readable now = true) :
    (rowsForSave rows now tenantId c).get? i = some r := by
  unfold rowsForSave
  split
  · exact hr
  · unfold deactivate
    rw [Table.get?_mapRows, hr]
    refine congrArg some (if_neg ?_)
    rw [hread]
    simp

lemma Simulates.rowsForSave (h : Simulates now rows m) :
    Simulates now (rowsForSave rows now tenantId c) m where
  unique i j r r' hr hr' hactive hactive' hsame := by
    obtain ⟨q, hq, -, heq⟩ := rowsForSave_get hr
    obtain ⟨q', hq', -, heq'⟩ := rowsForSave_get hr'
    rw [← heq hactive] at hq
    rw [← heq' hactive'] at hq'
    exact h.unique i j r r' hq hq' hactive hactive' hsame
  holds id c' e he := by
    rw [h.holds id c' e he]
    refine exists_congr fun i => exists_congr fun r => ⟨?_, ?_⟩
    · rintro ⟨hr, hid, hread, hrest⟩
      exact ⟨rowsForSave_readable hr hread, hid, hread, hrest⟩
    · rintro ⟨hr, hid, hread, hrest⟩
      obtain ⟨q, hq, -, heq⟩ := rowsForSave_get hr
      rw [← heq (isActive_of_readable hread)] at hq
      exact ⟨hq, hid, hread, hrest⟩
  named i r hr hactive := by
    obtain ⟨q, hq, -, heq⟩ := rowsForSave_get hr
    rw [← heq hactive] at hq
    exact h.named i r hq hactive

lemma rowsForSave_active (hname : ¬(c.conversationId = none ∧ c.ticketId = none))
    (hr : (rowsForSave rows now tenantId c).get? i = some r)
    (hid : r.identity = (tenantId, c.conversationId, c.ticketId)) (hactive : r.isActive = true) :
    r.readable now = true := by
  unfold rowsForSave at hr
  rw [if_neg hname] at hr
  unfold deactivate at hr
  rw [Table.get?_mapRows] at hr
  obtain ⟨q, -, rfl⟩ := Option.map_eq_some_iff.1 hr
  split at hactive
  · cases hactive
  · rename_i hkept
    rw [if_neg hkept] at hid ⊢
    obtain ⟨htenant, hconversation, hticket⟩ := (Prod.ext_iff.trans (and_congr_right fun _ =>
      Prod.ext_iff)).1 hid
    have hfor : q.isFor tenantId c.conversationId c.ticketId = true :=
      isFor_iff.2 ⟨htenant, hconversation, hticket⟩
    simpa [hfor, hactive] using hkept

lemma activeUntil_iff {e : Option Instant} : c.activeUntil now e = true ↔
    (c.conversationId.isSome || c.ticketId.isSome) = true ∧ c.status.terminal = false ∧
      c.closedAt = none ∧ e.all (now < ·) = true := by
  unfold CaseContext.activeUntil CaseContext.incomingActive
  simp [and_assoc]

lemma Simulates.saved (h : Simulates now rows m) (e : Option Instant) :
    ∃ rows', saveUntil rows now tenantId c e = .ok rows' ∧
      Simulates now rows' (Function.update m (tenantId, c.conversationId, c.ticketId)
        (if c.activeUntil now e = true then some (c, e) else none)) := by
  have hsim : Simulates now (Osr.rowsForSave rows now tenantId c) m := h.rowsForSave
  have hread : ∀ r : CaseContextRecord, r.toCaseContext = c → r.expiresAt = e →
      r.isActive = c.activeUntil now e → r.isActive = true → r.readable now = true := by
    rintro r rfl rfl hrow hactive
    rw [hrow] at hactive
    obtain ⟨-, hstatus, hclosed, hend⟩ := activeUntil_iff.1 hactive
    exact readable_iff.2 ⟨hrow.trans hactive, hclosed, hstatus, hend⟩
  have hname : c.activeUntil now e = true → ¬(c.conversationId = none ∧ c.ticketId = none) := by
    rintro hactive ⟨hconversation, hticket⟩
    have hsome := (activeUntil_iff.1 hactive).1
    rw [hconversation, hticket] at hsome
    cases hsome
  unfold saveUntil
  dsimp only
  cases hfound : activeExactRow (Osr.rowsForSave rows now tenantId c) now tenantId c.conversationId
      c.ticketId with
  | some x =>
    obtain ⟨hrow, hid, hxread⟩ := activeExactRow_found hfound
    have htenant : x.2.tenantId = tenantId := (Prod.mk.inj hid).1
    refine ⟨_, rfl, ?_⟩
    have hself := Table.get?_modify_self (Osr.rowsForSave rows now tenantId c) x.1
      fun r => r.applyValues c (c.activeUntil now e) e
    rw [hrow] at hself
    refine hsim.placed hself ?_ (fun i hi => Table.get?_modify_of_ne _ _ hi) ?_ ?_
      (hread _ rfl rfl rfl) ?_
    · show (x.2.tenantId, c.conversationId, c.ticketId) = _
      rw [htenant]
    · intro r hr
      rw [hrow] at hr
      cases hr
      exact hid
    · intro i r hi hr hrid
      by_contra hne
      exact hi (hsim.unique i x.1 r x.2 hr hrow (by simpa using hne) (isActive_of_readable hxread)
        (hrid.trans hid.symm))
    · intro hactive heq
      exact hname hactive (Prod.mk.inj heq)
  | none =>
    have hmissing := hsim.missing hfound
    dsimp only
    have htaken : ¬(c.activeUntil now e = true ∧ indexTaken (Osr.rowsForSave rows now tenantId c)
        (tenantId, c.conversationId, c.ticketId) = true) := by
      rintro ⟨hactive, htaken⟩
      obtain ⟨⟨i, r⟩, hmem, hr⟩ := List.any_eq_true.1 htaken
      rw [Bool.and_eq_true, decide_eq_true_eq] at hr
      have hrow := (Table.mem_rows _).1 hmem
      have hno := hmissing i r hrow hr.2
      rw [rowsForSave_active (hname hactive) hrow hr.2 hr.1] at hno
      cases hno
    rw [if_neg htaken]
    refine ⟨_, rfl, ?_⟩
    refine hsim.placed (Table.get?_insert_self _ _) rfl
      (fun i hi => Table.get?_insert_of_ne _ _ hi) ?_ ?_ (hread _ rfl rfl rfl) ?_
    · intro r hr
      rw [Table.get?_eq_none_of_le _ le_rfl] at hr
      cases hr
    · intro i r hi hr hrid
      by_contra hne
      have hactive : r.isActive = true := by simpa using hne
      have hnamed := hsim.named i r hr hactive
      rw [hrid] at hnamed
      have hno := hmissing i r hr hrid
      rw [rowsForSave_active (fun hnone => hnamed (Prod.ext hnone.1 hnone.2)) hr hrid hactive] at hno
      cases hno
    · intro hactive heq
      exact hname hactive (Prod.mk.inj heq)

lemma Simulates.step (h : Simulates now rows m) (i : ContextStep) (hnow : now ≤ i.now) :
    Simulates i.now (contextStep i rows) (lifetimeStep i m) := by
  have hlater := h.later hnow
  cases i with
  | save now' tenantId c e =>
    have hsaved : ∃ rows', saveUntil rows now' (normalizeTenant tenantId) c.postInit e = .ok rows' ∧
        Simulates now' rows' (lifetimeStep (.save now' tenantId c e) m) :=
      Simulates.saved hlater e
    obtain ⟨rows', hok, hsim⟩ := hsaved
    have hstep : contextStep (.save now' tenantId c e) rows = rows' := by
      unfold contextStep ContextStep.run
      dsimp only
      rw [hok]
    rw [hstep]
    exact hsim
  | close now' tenantId conversationId ticketId =>
    show Simulates now' (closeRows now' (normalizeTenant tenantId) conversationId ticketId rows) _
    unfold closeRows
    split
    · rename_i hfound
      exact hlater.ended hfound ⟨rfl, rfl⟩
    · rename_i hnone
      exact hlater.forgotten (hlater.missing hnone)
  | expire now' tenantId conversationId ticketId =>
    show Simulates now' (expireRows rows now' (normalizeTenant tenantId) conversationId ticketId) _
    unfold expireRows
    split
    · rename_i hfound
      exact hlater.ended hfound ⟨rfl, rfl⟩
    · rename_i hnone
      exact hlater.forgotten (hlater.missing hnone)

lemma simulates_run {l : List ContextStep} (h : Simulates now rows m)
    (hclock : (l.map ContextStep.now).Pairwise (· ≤ ·)) (hfrom : ∀ i ∈ l, now ≤ i.now)
    (hnow : now ≤ now') (hto : ∀ i ∈ l, i.now ≤ now') :
    Simulates now' (run contextStep rows l) (run lifetimeStep m l) := by
  induction l generalizing now rows m with
  | nil => exact h.later hnow
  | cons i l ih =>
    obtain ⟨hle, hrest⟩ := List.pairwise_cons.1 hclock
    exact ih (h.step i (hfrom i (List.mem_cons_self ..))) hrest
      (fun j hj => hle _ (List.mem_map_of_mem hj)) (hto i (List.mem_cons_self ..))
      fun j hj => hto j (List.mem_cons_of_mem _ hj)

/-! ## what is loaded -/

lemma canonicalCaseIssueType_idem (value : Option Text) :
    canonicalCaseIssueType (canonicalCaseIssueType value) = canonicalCaseIssueType value := by
  have hnormal := PyStr.normal_normal (String.ofList (value.getD []))
  unfold canonicalCaseIssueType
  generalize PyStr.lower (PyStr.strip (String.ofList (value.getD []))) = normalized at hnormal ⊢
  dsimp only
  by_cases hempty : normalized = ""
  · rw [if_pos hempty]
    decide +kernel
  · rw [if_neg hempty]
    by_cases halias : normalized = "tracking"
    · rw [if_pos halias]
      decide +kernel
    · rw [if_neg halias, Option.getD_some, String.ofList_toList, hnormal, if_neg hempty,
        if_neg halias]

lemma postInit_run (h : ∀ id c e, m id = some (c, e) → c.postInit = c) (l : List ContextStep) :
    ∀ id c e, run lifetimeStep m l id = some (c, e) → c.postInit = c := by
  induction l generalizing m with
  | nil => exact h
  | cons i l ih =>
    refine ih ?_
    intro id c e hc
    unfold lifetimeStep at hc
    by_cases hid : id = i.identity
    · rw [hid, Function.update_self] at hc
      cases i with
      | save now' tenantId c' e' =>
        change (if c'.postInit.activeUntil now' e' = true then some (c'.postInit, e') else none) =
          some (c, e) at hc
        split at hc
        · cases hc
          unfold CaseContext.postInit
          rw [canonicalCaseIssueType_idem]
        · cases hc
      | close now' tenantId conversationId ticketId => cases hc
      | expire now' tenantId conversationId ticketId => cases hc
    · rw [Function.update_of_ne hid] at hc
      exact h id c e hc

lemma Simulates.load (h : Simulates now rows m) (hinit : ∀ id c e, m id = some (c, e) →
    c.postInit = c) (tenantId : Text) (conversation ticket : ℤ) :
    loadExact rows now tenantId conversation ticket =
      (m.live now (tenantId, some conversation, some ticket)).map CaseContext.restored := by
  have hload : loadExact rows now tenantId conversation ticket = (activeExactRow rows now tenantId
      (some conversation) (some ticket)).map (·.2.toContext) := by
    unfold loadExact activeExactRow
    rw [if_neg (by nofun)]
  rw [hload]
  cases hfound : activeExactRow rows now tenantId (some conversation) (some ticket) with
  | some x =>
    obtain ⟨hrow, hid, hread⟩ := activeExactRow_found hfound
    have hend := (readable_iff.1 hread).2.2.2
    have hheld := (h.holds _ _ _ hend).2 ⟨x.1, x.2, hrow, hid, hread, rfl, rfl⟩
    have hkept : x.2.toCaseContext.restored.postInit = x.2.toCaseContext.restored :=
      congrArg CaseContext.restored (hinit _ _ _ hheld)
    unfold Lifetimes.live
    rw [hheld, Option.filter_some, if_pos hend]
    exact congrArg some hkept
  | none =>
    have hmissing := h.missing hfound
    unfold Lifetimes.live
    cases hheld : m (tenantId, some conversation, some ticket) with
    | none => rfl
    | some held =>
      rw [Option.filter_some, if_neg]
      · rfl
      · intro hend
        obtain ⟨i, r, hr, hid, hread, -⟩ := (h.holds _ held.1 held.2 hend).1 hheld
        rw [hmissing i r hr hid] at hread
        cases hread

lemma inactive_step (i : ContextStep) (hr : rows.get? k = some r) (hactive : r.isActive = false) :
    ∃ r', (contextStep i rows).get? k = some r' ∧ r'.isActive = false := by
  have hmodify : ∀ {rows : Table CaseContextRecord} {now tenantId conversationId ticketId x}
      {f : CaseContextRecord → CaseContextRecord}, rows.get? k = some r →
      activeExactRow rows now tenantId conversationId ticketId = some x →
      (rows.modify x.1 f).get? k = some r := by
    intro rows now tenantId conversationId ticketId x f hr hfound
    obtain ⟨hrow, -, hread⟩ := activeExactRow_found hfound
    rw [Table.get?_modify_of_ne, hr]
    rintro rfl
    rw [hr] at hrow
    cases hrow
    rw [isActive_of_readable hread] at hactive
    cases hactive
  cases i with
  | save now' tenantId c e =>
    have hkept : (rowsForSave rows now' (normalizeTenant tenantId) c.postInit).get? k = some r := by
      unfold rowsForSave
      split
      · exact hr
      · unfold deactivate
        rw [Table.get?_mapRows, hr, Option.map_some, if_neg (by simp [hactive])]
    unfold contextStep ContextStep.run saveUntil
    dsimp only
    cases hfound : activeExactRow (rowsForSave rows now' (normalizeTenant tenantId) c.postInit) now'
        (normalizeTenant tenantId) c.postInit.conversationId c.postInit.ticketId with
    | some x => exact ⟨r, hmodify hkept hfound, hactive⟩
    | none =>
      dsimp only
      split
      · rename_i hok
        split at hok
        · cases hok
        · cases hok
          exact ⟨r, Table.get?_insert_of_some _ hkept, hactive⟩
      · exact ⟨r, hr, hactive⟩
  | close now' tenantId conversationId ticketId =>
    show ∃ r', (closeRows now' (normalizeTenant tenantId) conversationId ticketId rows).get? k = _ ∧ _
    unfold closeRows
    split
    · exact ⟨r, hmodify hr ‹_›, hactive⟩
    · exact ⟨r, hr, hactive⟩
  | expire now' tenantId conversationId ticketId =>
    show ∃ r', (expireRows rows now' (normalizeTenant tenantId) conversationId ticketId).get? k = _ ∧ _
    unfold expireRows
    split
    · exact ⟨r, hmodify hr ‹_›, hactive⟩
    · exact ⟨r, hr, hactive⟩

lemma inactive_run (l : List ContextStep) (hr : rows.get? k = some r)
    (hactive : r.isActive = false) :
    ∃ r', (run contextStep rows l).get? k = some r' ∧ r'.isActive = false := by
  induction l generalizing rows r with
  | nil => exact ⟨r, hr, hactive⟩
  | cons i l ih =>
    obtain ⟨r', hr', hactive'⟩ := inactive_step i hr hactive
    exact ih hr' hactive'

end Simulation

theorem context_store_is_map (l : List ContextStep)
    (hclock : (l.map ContextStep.now).Pairwise (· ≤ ·)) :
    (∀ now tenantId conversation ticket, (∀ i ∈ l, i.now ≤ now) →
      loadExact (run contextStep .empty l) now (normalizeTenant tenantId) conversation ticket =
        ((run lifetimeStep (fun _ => none) l).live now
          (normalizeTenant tenantId, some conversation, some ticket)).map CaseContext.restored) ∧
    (∀ i j r r', (run contextStep .empty l).get? i = some r →
      (run contextStep .empty l).get? j = some r' → r.isActive = true → r'.isActive = true →
      r.identity = r'.identity → i = j) ∧
    ∀ before after, l = before ++ after → ∀ i r, (run contextStep .empty before).get? i = some r →
      r.isActive = false →
      ∃ r', (run contextStep .empty l).get? i = some r' ∧ r'.isActive = false := by
  have hsim : ∀ now, (∀ i ∈ l, i.now ≤ now) →
      Simulates now (run contextStep .empty l) (run lifetimeStep (fun _ => none) l) := by
    intro now hto
    cases l with
    | nil => exact simulates_empty
    | cons i l =>
      refine simulates_run simulates_empty hclock ?_ (hto i (List.mem_cons_self ..)) hto
      intro j hj
      rcases List.mem_cons.1 hj with rfl | hj
      · exact le_rfl
      · exact (List.pairwise_cons.1 hclock).1 _ (List.mem_map_of_mem hj)
  refine ⟨fun now tenantId conversation ticket hto => ?_, ?_, ?_⟩
  · exact (hsim now hto).load (postInit_run (fun _ _ _ h => by cases h) l) _ _ _
  · obtain ⟨last, hlast⟩ : ∃ now, ∀ i ∈ l, i.now ≤ now := by
      obtain ⟨last, hlast⟩ := (l.map ContextStep.now).toFinset.bddAbove
      exact ⟨last, fun i hi => hlast (by simpa using ⟨i, hi, rfl⟩)⟩
    exact (hsim last hlast).unique
  · rintro before after rfl i r hr hactive
    rw [run_append]
    exact inactive_run after hr hactive

def acme : Text := "acme".toList

def contactedOn (channel : Text) : CaseContext :=
  { conversationId := some 4
    ticketId := some 7
    contactMethods := [⟨channel, "a***".toList, "visitor".toList, true⟩] }

/-- a context is loaded until it is closed. -/
theorem closed_context_gone :
    loadExact (run contextStep .empty [.save 1 acme (contactedOn "email".toList) none]) 2 acme 4 7 =
      some (contactedOn "email".toList) ∧
    loadExact (run contextStep .empty [.save 1 acme (contactedOn "email".toList) none,
      .close 3 acme (some 4) (some 7)]) 3 acme 4 7 = none := by
  refine ⟨?_, ?_⟩
  · have hload := (context_store_is_map [.save 1 acme (contactedOn "email".toList) none]
      (by decide)).1 2 acme 4 7 (by decide)
    exact hload.trans (by decide +kernel)
  · have hload := (context_store_is_map [.save 1 acme (contactedOn "email".toList) none,
      .close 3 acme (some 4) (some 7)] (by decide)).1 3 acme 4 7 (by decide)
    exact hload.trans (by decide +kernel)

/-- a channel without a name is read back as `unknown`, and a save that has expired, although it is
not terminal, takes the context of the save before it away. -/
theorem unnamed_channel_not_kept :
    loadExact (run contextStep .empty [.save 1 acme (contactedOn []) none]) 2 acme 4 7 =
      some (contactedOn "unknown".toList) ∧
    contactedOn "unknown".toList ≠ contactedOn [] ∧
    (contactedOn []).status.terminal = false ∧
    loadExact (run contextStep .empty [.save 1 acme (contactedOn "email".toList) none,
      .save 3 acme (contactedOn []) (some 2)]) 3 acme 4 7 = none := by
  decide +kernel

end NexusHelpdesk.Osr
