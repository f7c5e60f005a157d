import NexusHelpdesk.Privacy.Lifecycle

/-!
# Holds and retention

* `Erasable`: no active hold names the customer or a ticket of the customer, none of the tickets is
  active, and no attachment is left;
* `Planned`: the customer is in the dry run of the execution, untouched since its cutoff, and the
  policy of the execution is approved;
* `Consistent`: tickets and holds carry the tenant of their customer;
* `anonymize_ok`, `applyAll_ok`: what an anonymisation and an application have seen;
* `retention_safe`: **in every run, every customer was anonymised in such a state only**.
-/

namespace NexusHelpdesk.Privacy

open Lib

variable {ρ : Type}

/-! ## the property -/

structure Erasable (db : LifecycleDb ρ) (c : ℕ) : Prop where
  noHold : ∀ i h, db.holds.get? i = some h → h.active = true → h.customerId ≠ some c ∧
    ∀ t row, h.ticketId = some t → db.tickets.get? t = some row → row.customerId ≠ some c
  noActive : ∀ t row, db.tickets.get? t = some row → row.customerId = some c →
    activeTicket row.status = false
  noAttachment : ∀ i t row, db.attachments.get? i = some t → db.tickets.get? t = some row →
    row.customerId ≠ some c

structure Planned (db : LifecycleDb ρ) (x c : ℕ) (e : LifecycleExecution) (r : DryRunReceipt) :
    Prop where
  execution : db.executions.get? x = some e
  dryRun : e.receipt = .dryRun r
  candidate : c ∈ r.candidateIds
  approved : ∃ p, db.policies.get? e.policyVersionId = some p ∧ p.status = .approved
  untouched : ∃ row, db.customers.get? c = some row ∧ row.updatedAt ≤ r.cutoffAt

/-- a customer was anonymised in the right state. -/
structure ErasureOk (e : Erasure ρ) : Prop where
  erasable : Erasable e.db e.customerId
  planned : ∀ x, e.by' = .execution x → ∃ row r, Planned e.db x e.customerId row r

def LifecycleStep.editsCustomer : LifecycleStep ρ → Bool
  | .createCustomer _ | .touchCustomer .. => true
  | _ => false

structure LifecycleOk (env : LifecycleEnv ρ) (w : LifecycleWorld ρ) : Prop where
  erasures : ∀ e ∈ w.erasures, ErasureOk e
  /-- no customer changes but by an anonymisation. -/
  logged : ∀ i : LifecycleStep ρ, i.editsCustomer = false →
    ∃ new, (lifecycleStep env i w).erasures = new ++ w.erasures ∧
      ∀ c, (lifecycleStep env i w).db.customers.get? c ≠ w.db.customers.get? c →
        ∃ e ∈ new, e.customerId = c
  /-- an application that raises leaves every customer. -/
  failed : ∀ actor x now f, applyExecution env w.db now actor x = .error f →
    ∀ c, (lifecycleStep env (.apply actor x now) w).db.customers.get? c = w.db.customers.get? c
  applied : ∀ actor x now o, applyExecution env w.db now actor x = .ok o →
    ∃ e, o.db.executions.get? x = some e ∧ e.status = .applied
  stays : ∀ (i : LifecycleStep ρ) x e, w.db.executions.get? x = some e → e.status = .applied →
    ∃ e', (lifecycleStep env i w).db.executions.get? x = some e' ∧ e'.status = .applied
  /-- and applying it again changes nothing. -/
  again : ∀ x e, w.db.executions.get? x = some e → e.status = .applied →
    ∀ actor now, lifecycleStep env (.apply actor x now) w = w

/-! ## tenants -/

structure Consistent (db : LifecycleDb ρ) : Prop where
  tickets : ∀ t row c, db.tickets.get? t = some row → row.customerId = some c →
    ∃ cust, db.customers.get? c = some cust ∧ cust.tenantId = row.tenantId
  holdCustomer : ∀ i h c, db.holds.get? i = some h → h.customerId = some c →
    ∃ cust, db.customers.get? c = some cust ∧ cust.tenantId = some h.tenantId
  holdTicket : ∀ i h t, db.holds.get? i = some h → h.ticketId = some t →
    ∃ row, db.tickets.get? t = some row ∧ row.tenantId = some h.tenantId

/-- what the tenants rest on stays. -/
structure Keeps (db db' : LifecycleDb ρ) : Prop where
  customers : ∀ c cust, db.customers.get? c = some cust →
    ∃ cust', db'.customers.get? c = some cust' ∧ cust'.tenantId = cust.tenantId
  tickets : ∀ t row, db.tickets.get? t = some row →
    ∃ row', db'.tickets.get? t = some row' ∧ row'.tenantId = row.tenantId ∧
      row'.customerId = row.customerId
  noTicket : ∀ t, db.tickets.get? t = none → db'.tickets.get? t = none
  holds : ∀ i h', db'.holds.get? i = some h' → ∃ h, db.holds.get? i = some h ∧
    h.tenantId = h'.tenantId ∧ h.customerId = h'.customerId ∧ h.ticketId = h'.ticketId

section Tenants
variable {db db' db'' : LifecycleDb ρ}

lemma Keeps.of_tables (hc : db'.customers = db.customers) (ht : db'.tickets = db.tickets)
    (hh : db'.holds = db.holds) : Keeps db db' := by
  constructor
  · intro c cust h
    exact ⟨cust, by rw [hc, h], rfl⟩
  · intro t row h
    exact ⟨row, by rw [ht, h], rfl, rfl⟩
  · intro t h
    rw [ht, h]
  · intro i h' h
    exact ⟨h', by rw [← hh, h], rfl, rfl, rfl⟩

lemma Keeps.trans (h : Keeps db db') (h' : Keeps db' db'') : Keeps db db'' := by
  constructor
  · intro c cust hc
    obtain ⟨cust', hc', heq⟩ := h.customers c cust hc
    obtain ⟨cust'', hc'', heq'⟩ := h'.customers c cust' hc'
    exact ⟨cust'', hc'', heq'.trans heq⟩
  · intro t row ht
    obtain ⟨row', ht', htenant, hcust⟩ := h.tickets t row ht
    obtain ⟨row'', ht'', htenant', hcust'⟩ := h'.tickets t row' ht'
    exact ⟨row'', ht'', htenant'.trans htenant, hcust'.trans hcust⟩
  · exact fun t ht => h'.noTicket t (h.noTicket t ht)
  · intro i h₂ hi
    obtain ⟨h₁, hi₁, htenant, hcust, hticket⟩ := h'.holds i h₂ hi
    obtain ⟨h₀, hi₀, htenant', hcust', hticket'⟩ := h.holds i h₁ hi₁
    exact ⟨h₀, hi₀, htenant'.trans htenant, hcust'.trans hcust, hticket'.trans hticket⟩

lemma Consistent.keeps (h : Consistent db) (hk : Keeps db db') : Consistent db' := by
  constructor
  · intro t row' c ht' hc'
    cases ht : db.tickets.get? t with
    | none =>
      rw [hk.noTicket t ht] at ht'
      cases ht'
    | some row =>
      obtain ⟨row'', ht'', htenant, hcust⟩ := hk.tickets t row ht
      rw [ht'] at ht''
      cases ht''
      obtain ⟨cust, hc, heq⟩ := h.tickets t row c ht (hcust.symm.trans hc')
      obtain ⟨cust', hcust', heq'⟩ := hk.customers c cust hc
      exact ⟨cust', hcust', heq'.trans (heq.trans htenant.symm)⟩
  · intro i h' c hi' hc'
    obtain ⟨h₀, hi, htenant, hcust, _⟩ := hk.holds i h' hi'
    obtain ⟨cust, hc, heq⟩ := h.holdCustomer i h₀ c hi (hcust.trans hc')
    obtain ⟨cust', hc'', heq'⟩ := hk.customers c cust hc
    exact ⟨cust', hc'', heq'.trans (heq.trans (congrArg some htenant))⟩
  · intro i h' t hi' ht'
    obtain ⟨h₀, hi, htenant, _, hticket⟩ := hk.holds i h' hi'
    obtain ⟨row, ht, heq⟩ := h.holdTicket i h₀ t hi (hticket.trans ht')
    obtain ⟨row', ht'', heq', _⟩ := hk.tickets t row ht
    exact ⟨row', ht'', heq'.trans (heq.trans (congrArg some htenant))⟩

end Tenants

/-! ## one anonymisation -/

section Anonymize
variable {env : LifecycleEnv ρ} {db new : LifecycleDb ρ} {now : Instant} {tenantId c : ℕ}
  {receipt : AnonymizationReceipt} {b : Bool} {code : String} {u : Unit} {cust : Customer}

lemma guardThat_ok (h : guardThat b code = .ok u) :
    b = true := by
  cases b with
  | false => cases h
  | true => rfl

lemma guardThat_not_ok (h : guardThat (!b) code = .ok u) :
    b = false := by
  cases b with
  | false => rfl
  | true => cases h

structure Anonymized (env : LifecycleEnv ρ) (now : Instant) (tenantId c : ℕ)
    (db new : LifecycleDb ρ) : Prop where
  noAttachment : attachmentIds db tenantId c = []
  noActive : hasActiveTicket db tenantId c = false
  noHold : activeHold db tenantId c = false
  customers : new.customers = db.customers.modify c (erased env now c)
  tickets : new.tickets = db.tickets.mapRows fun i t =>
    if i ∈ ticketIds db tenantId c then { t with updatedAt := now } else t
  holds : new.holds = db.holds
  executions : new.executions = db.executions
  policies : new.policies = db.policies

lemma anonymize_ok (h : anonymizeSubjectGraph env db now tenantId c = .ok (receipt, new)) :
    Anonymized env now tenantId c db new := by
  unfold anonymizeSubjectGraph at h
  obtain ⟨_, hatt, h⟩ := bind_eq_ok.1 h
  obtain ⟨_, hact, h⟩ := bind_eq_ok.1 h
  obtain ⟨_, hhold, h⟩ := bind_eq_ok.1 h
  obtain ⟨r, _, h⟩ := bind_eq_ok.1 h
  cases h
  exact ⟨List.isEmpty_iff.1 (guardThat_ok hatt), guardThat_not_ok hact, guardThat_not_ok hhold, rfl,
    rfl, rfl, rfl, rfl⟩

lemma Anonymized.keeps (h : Anonymized env now tenantId c db new) : Keeps db new := by
  constructor
  · intro c' cust hc
    rw [h.customers, Table.get?_modify, hc]
    by_cases hcc : c' = c
    · rw [if_pos hcc]
      exact ⟨_, rfl, rfl⟩
    · rw [if_neg hcc]
      exact ⟨_, rfl, rfl⟩
  · intro t row ht
    rw [h.tickets, Table.get?_mapRows, ht]
    refine ⟨_, rfl, ?_, ?_⟩
    · dsimp only
      split
      · rfl
      · rfl
    · dsimp only
      split
      · rfl
      · rfl
  · intro t ht
    rw [h.tickets, Table.get?_mapRows, ht]
    rfl
  · intro i h' hi
    rw [h.holds] at hi
    exact ⟨h', hi, rfl, rfl, rfl⟩

lemma Anonymized.other (h : Anonymized env now tenantId c db new) {c' : ℕ} (hne : c' ≠ c) :
    new.customers.get? c' = db.customers.get? c' := by
  rw [h.customers, Table.get?_modify_of_ne _ _ hne]

lemma mem_subjectTickets (hcons : Consistent db) (hc : db.customers.get? c = some cust)
    (htenant : cust.tenantId = some tenantId) {t : ℕ} {row : SubjectTicket}
    (ht : db.tickets.get? t = some row) (hrow : row.customerId = some c) :
    (t, row) ∈ subjectTickets db tenantId c := by
  obtain ⟨cust', hc', heq⟩ := hcons.tickets t row c ht hrow
  rw [hc] at hc'
  cases hc'
  refine db.tickets.mem_select.2 ⟨ht, ?_⟩
  rw [Bool.and_eq_true, decide_eq_true_iff, decide_eq_true_iff]
  exact ⟨heq.symm.trans htenant, hrow⟩

lemma Anonymized.erasable (h : Anonymized env now tenantId c db new) (hcons : Consistent db)
    (hc : db.customers.get? c = some cust) (htenant : cust.tenantId = some tenantId) :
    Erasable db c := by
  have hids : ∀ t row, db.tickets.get? t = some row → row.customerId = some c →
      t ∈ ticketIds db tenantId c := by
    intro t row ht hrow
    exact List.mem_map.2 ⟨(t, row), mem_subjectTickets hcons hc htenant ht hrow, rfl⟩
  have hhold : ∀ i hold, db.holds.get? i = some hold → hold.active = true →
      hold.tenantId = tenantId →
        ¬((hold.customerId = some c) ∨ hold.ticketId.any (· ∈ ticketIds db tenantId c) = true) := by
    intro i hold hi hactive htn hnames
    have hmem : (i, hold) ∈ db.holds.select fun _ h => h.tenantId = tenantId && h.active &&
        (h.customerId = some c || h.ticketId.any (· ∈ ticketIds db tenantId c)) := by
      refine db.holds.mem_select.2 ⟨hi, ?_⟩
      rw [Bool.and_eq_true, Bool.and_eq_true, Bool.or_eq_true, decide_eq_true_iff,
        decide_eq_true_iff]
      exact ⟨⟨htn, hactive⟩, hnames⟩
    have hnone := h.noHold
    unfold activeHold at hnone
    rw [Bool.not_eq_false', List.isEmpty_iff] at hnone
    rw [hnone] at hmem
    cases hmem
  constructor
  · intro i hold hi hactive
    refine ⟨?_, ?_⟩
    · intro hcust
      obtain ⟨cust', hc', heq⟩ := hcons.holdCustomer i hold c hi hcust
      rw [hc] at hc'
      cases hc'
      exact hhold i hold hi hactive (Option.some.inj (heq.symm.trans htenant)) (Or.inl hcust)
    · intro t row hticket ht hrow
      obtain ⟨row', ht', heq⟩ := hcons.holdTicket i hold t hi hticket
      rw [ht] at ht'
      cases ht'
      obtain ⟨cust', hc', heq'⟩ := hcons.tickets t row c ht hrow
      rw [hc] at hc'
      cases hc'
      refine hhold i hold hi hactive
        (Option.some.inj (heq.symm.trans (heq'.symm.trans htenant))) (Or.inr ?_)
      rw [hticket, Option.any_some]
      exact decide_eq_true (hids t row ht hrow)
  · intro t row ht hrow
    have hnone := h.noActive
    unfold hasActiveTicket at hnone
    exact Bool.eq_false_iff.2 fun hact => Bool.eq_false_iff.1 hnone
      (List.any_eq_true.2 ⟨_, mem_subjectTickets hcons hc htenant ht hrow, hact⟩)
  · intro i t row hi ht hrow
    have hmem : i ∈ attachmentIds db tenantId c := by
      refine List.mem_map.2 ⟨(i, t), db.attachments.mem_select.2 ⟨hi, ?_⟩, rfl⟩
      exact decide_eq_true (hids t row ht hrow)
    rw [h.noAttachment] at hmem
    cases hmem

end Anonymize

/-- what an operation leaves behind. -/
structure OutcomeOk (db : LifecycleDb ρ) (o : Outcome ρ) : Prop where
  keeps : Keeps db o.db
  erasures : ∀ e ∈ o.erasures, ErasureOk e
  logged : ∀ c, o.db.customers.get? c ≠ db.customers.get? c → ∃ e ∈ o.erasures, e.customerId = c

section Operations
variable {env : LifecycleEnv ρ} {db db' new : LifecycleDb ρ} {now : Instant} {tenantId c : ℕ}
  {actor : Option ℕ} {o : Outcome ρ}

lemma OutcomeOk.of_keeps (hk : Keeps db db') (hc : db'.customers = db.customers) :
    OutcomeOk db ⟨db', []⟩ := by
  refine ⟨hk, fun e he => ?_, fun c hne => ?_⟩
  · cases he
  · exact absurd (by rw [hc]) hne

/-! ### deletion -/

lemma keeps_setRequest (id : ℕ) (f : DataSubjectRequest → DataSubjectRequest) :
    Keeps db (setRequest db id f) := Keeps.of_tables rfl rfl rfl

/-- the preflight writes the request only. -/
structure Untouched (db db' : LifecycleDb ρ) : Prop where
  customers : db'.customers = db.customers
  tickets : db'.tickets = db.tickets
  holds : db'.holds = db.holds
  executions : db'.executions = db.executions
  policies : db'.policies = db.policies

lemma Untouched.keeps (h : Untouched db db') : Keeps db db' :=
  Keeps.of_tables h.customers h.tickets h.holds

variable {requestId x : ℕ} {r : DryRunReceipt} {storage : ℕ → Bool} {u : Unit} {ids : List ℕ}
  {e : LifecycleExecution}

lemma preflight_untouched
    (h : subjectDeletionPreflight db tenantId requestId = .ok (c, db')) : Untouched db db' := by
  unfold subjectDeletionPreflight at h
  obtain ⟨r, _, h⟩ := bind_eq_ok.1 h
  by_cases hdone : r.status = .completed ∧ r.manifest.isSome = true
  · rw [if_pos hdone] at h
    cases h
    exact ⟨rfl, rfl, rfl, rfl, rfl⟩
  · rw [if_neg hdone] at h
    obtain ⟨_, _, h⟩ := bind_eq_ok.1 h
    obtain ⟨_, _, h⟩ := bind_eq_ok.1 h
    obtain ⟨_, _, h⟩ := bind_eq_ok.1 h
    obtain ⟨_, _, h⟩ := bind_eq_ok.1 h
    cases h
    exact ⟨rfl, rfl, rfl, rfl, rfl⟩

lemma deleteAttachments_untouched {n : ℕ}
    (h : deleteAttachmentBlobs db storage tenantId c = .ok (n, db')) : Untouched db db' := by
  unfold deleteAttachmentBlobs at h
  obtain ⟨id, _, h⟩ := bind_eq_ok.1 h
  cases id with
  | none => cases h
  | some requestId =>
    obtain ⟨⟨_, db₁⟩, hpre, h⟩ := bind_eq_ok.1 h
    obtain ⟨_, _, h⟩ := bind_eq_ok.1 h
    cases h
    have hsame := preflight_untouched hpre
    exact ⟨hsame.customers, hsame.tickets, hsame.holds, hsame.executions, hsame.policies⟩

lemma requestCustomer_ok (h : requestCustomer db tenantId c = .ok u) :
    ∃ cust, db.customers.get? c = some cust ∧ cust.tenantId = some tenantId := by
  obtain ⟨cust, hc, htenant⟩ := (Option.any_eq_true _ _).1 (guardThat_ok h)
  exact ⟨cust, hc, of_decide_eq_true htenant⟩

lemma executeDeletion_ok (hcons : Consistent db)
    (h : executeDeletion env db now tenantId requestId = .ok o) :
    OutcomeOk db o ∧ o.db.executions = db.executions := by
  unfold executeDeletion at h
  obtain ⟨r, _, h⟩ := bind_eq_ok.1 h
  by_cases hdone : r.status = .completed ∧ r.manifest.isSome = true
  · rw [if_pos hdone] at h
    cases h
    exact ⟨OutcomeOk.of_keeps (Keeps.of_tables rfl rfl rfl) rfl, rfl⟩
  · rw [if_neg hdone] at h
    obtain ⟨_, _, h⟩ := bind_eq_ok.1 h
    obtain ⟨_, hcust, h⟩ := bind_eq_ok.1 h
    obtain ⟨⟨receipt, new⟩, hanon, h⟩ := bind_eq_ok.1 h
    cases h
    obtain ⟨cust, hc, htenant⟩ := requestCustomer_ok hcust
    have hanon := anonymize_ok hanon
    refine ⟨⟨hanon.keeps.trans (keeps_setRequest _ _), ?_, ?_⟩, hanon.executions⟩
    · intro e he
      rw [List.mem_singleton.1 he]
      refine ⟨hanon.erasable hcons hc htenant, ?_⟩
      intro x hx
      cases hx
    · intro c' hne
      refine ⟨_, List.mem_singleton.2 rfl, ?_⟩
      by_contra hne'
      exact hne (hanon.other (Ne.symm hne'))

lemma deleteSubject_ok (hcons : Consistent db)
    (h : deleteSubject env db storage now actor requestId = .ok o) :
    OutcomeOk db o ∧ o.db.executions = db.executions := by
  unfold deleteSubject at h
  obtain ⟨tenantId, _, h⟩ := bind_eq_ok.1 h
  obtain ⟨⟨c, db₁⟩, hpre, h⟩ := bind_eq_ok.1 h
  obtain ⟨⟨n, db₂⟩, hatt, h⟩ := bind_eq_ok.1 h
  obtain ⟨o', hexec, h⟩ := bind_eq_ok.1 h
  cases h
  have hone := preflight_untouched hpre
  have htwo := deleteAttachments_untouched hatt
  have hkeeps := hone.keeps.trans htwo.keeps
  obtain ⟨hok, hx⟩ := executeDeletion_ok (hcons.keeps hkeeps) hexec
  refine ⟨⟨(hkeeps.trans hok.keeps).trans (keeps_setRequest _ _), hok.erasures, ?_⟩, ?_⟩
  · intro c' hne
    refine hok.logged c' ?_
    rw [htwo.customers, hone.customers]
    exact hne
  · exact hx.trans (htwo.executions.trans hone.executions)

/-! ### retention -/

structure Preflighted (db : LifecycleDb ρ) (tenantId x : ℕ) (e : LifecycleExecution)
    (r : DryRunReceipt) : Prop where
  execution : db.executions.get? x = some e
  dryRun : e.receipt = .dryRun r
  distinct : r.candidateIds.Nodup
  approved : ∃ p, db.policies.get? e.policyVersionId = some p ∧ p.status = .approved
  untouched : ∀ c ∈ r.candidateIds, ∃ row, db.customers.get? c = some row ∧
    row.updatedAt ≤ r.cutoffAt

lemma candidateIdsOf_ok (h : candidateIdsOf r = .ok ids) :
    ids = r.candidateIds ∧ r.candidateIds.Nodup := by
  unfold candidateIdsOf at h
  obtain ⟨_, _, h⟩ := bind_eq_ok.1 h
  obtain ⟨_, hnodup, h⟩ := bind_eq_ok.1 h
  obtain ⟨_, _, h⟩ := bind_eq_ok.1 h
  obtain ⟨_, _, h⟩ := bind_eq_ok.1 h
  cases h
  exact ⟨rfl, of_decide_eq_true (guardThat_ok hnodup)⟩

lemma preflightExecution_ok {pre : Option (LifecycleExecution × List ℕ)}
    (h : preflightExecution env db tenantId x = .ok pre) :
    (pre = none ∧ ∃ e, db.executions.get? x = some e ∧ e.status = .applied) ∨
      ∃ e r, pre = some (e, r.candidateIds) ∧ Preflighted db tenantId x e r := by
  unfold preflightExecution at h
  cases hx : db.executions.get? x with
  | none =>
    rw [hx] at h
    cases h
  | some e' =>
    rw [hx] at h
    dsimp only at h
    by_cases htenant : e'.tenantId ≠ tenantId
    · rw [if_pos htenant] at h
      cases h
    · rw [if_neg htenant] at h
      by_cases happlied : e'.status = .applied
      · rw [if_pos happlied] at h
        cases h
        exact Or.inl ⟨rfl, e', rfl, happlied⟩
      · rw [if_neg happlied] at h
        refine Or.inr ?_
        cases hr : e'.receipt with
        | applied r =>
          rw [hr] at h
          cases h
        | dryRun r =>
          rw [hr] at h
          obtain ⟨_, _, h⟩ := bind_eq_ok.1 h
          obtain ⟨_, hpolicy, h⟩ := bind_eq_ok.1 h
          obtain ⟨_, _, h⟩ := bind_eq_ok.1 h
          obtain ⟨_, _, h⟩ := bind_eq_ok.1 h
          obtain ⟨_, _, h⟩ := bind_eq_ok.1 h
          obtain ⟨ids', hids, h⟩ := bind_eq_ok.1 h
          obtain ⟨_, hpresent, h⟩ := bind_eq_ok.1 h
          obtain ⟨_, hdrift, h⟩ := bind_eq_ok.1 h
          cases h
          obtain ⟨rfl, hnodup⟩ := candidateIdsOf_ok hids
          refine ⟨e', r, rfl, hx, hr, hnodup, ?_, ?_⟩
          · obtain ⟨p, hp, happroved⟩ := (Option.any_eq_true _ _).1 (guardThat_ok hpolicy)
            rw [Bool.and_eq_true, Bool.and_eq_true, decide_eq_true_iff, decide_eq_true_iff]
              at happroved
            exact ⟨p, hp, happroved.1.2⟩
          · intro c hc
            have hthere := List.all_eq_true.1 (guardThat_ok hpresent) c hc
            obtain ⟨row, hrow, _⟩ := (Option.any_eq_true _ _).1 hthere
            have hchecked := forM_eq_ok.1 hdrift c hc
            unfold candidateUndrifted at hchecked
            obtain ⟨_, hfresh, _⟩ := bind_eq_ok.1 hchecked
            have hfresh := guardThat_ok hfresh
            rw [hrow, Option.all_some] at hfresh
            exact ⟨row, hrow, of_decide_eq_true hfresh⟩

/-- the application in progress: what it has seen, and what it has not yet touched. -/
structure ApplyInv (db : LifecycleDb ρ) (rest : List ℕ) (s : Applying ρ) : Prop where
  keeps : Keeps db s.db
  executions : s.db.executions = db.executions
  policies : s.db.policies = db.policies
  rest : ∀ c ∈ rest, s.db.customers.get? c = db.customers.get? c
  erasures : ∀ e ∈ s.erasures, ErasureOk e
  logged : ∀ c, s.db.customers.get? c ≠ db.customers.get? c → ∃ e ∈ s.erasures, e.customerId = c

lemma applyCandidate_ok (hcons : Consistent db) (hpre : Preflighted db tenantId x e r)
    {rest : List ℕ} {s s' : Applying ρ} (hc : c ∈ r.candidateIds) (hnot : c ∉ rest)
    (hs : ApplyInv db (c :: rest) s) (h : applyCandidate env now tenantId x s c = .ok s') :
    ApplyInv db rest s' := by
  have hrest : ∀ c' ∈ rest, s.db.customers.get? c' = db.customers.get? c' :=
    fun c' hc' => hs.rest c' (List.mem_cons_of_mem _ hc')
  unfold applyCandidate at h
  by_cases hmine : (s.db.customers.get? c).any (·.tenantId = some tenantId) = true
  · rw [if_pos hmine] at h
    obtain ⟨cust, hcust, htenant⟩ := (Option.any_eq_true _ _).1 hmine
    cases hanon : anonymizeSubjectGraph env s.db now tenantId c with
    | error f =>
      rw [hanon] at h
      cases f with
      | other => cases h
      | lifecycle err =>
        dsimp only at h
        by_cases hcode : err.code = legalHoldBlocks
        · rw [if_pos hcode] at h
          cases h
          exact ⟨hs.keeps, hs.executions, hs.policies, hrest, hs.erasures, hs.logged⟩
        · rw [if_neg hcode] at h
          cases h
    | ok res =>
      obtain ⟨receipt, new⟩ := res
      rw [hanon] at h
      cases h
      have hanon := anonymize_ok hanon
      refine ⟨hs.keeps.trans hanon.keeps, hanon.executions.trans hs.executions,
        hanon.policies.trans hs.policies, ?_, ?_, ?_⟩
      · intro c' hc'
        have hne : c' ≠ c := by
          rintro rfl
          exact hnot hc'
        exact (hanon.other hne).trans (hrest c' hc')
      · intro e' he'
        rcases List.mem_cons.1 he' with rfl | he'
        · refine ⟨hanon.erasable (hcons.keeps hs.keeps) hcust (of_decide_eq_true htenant), ?_⟩
          intro x' hx'
          cases hx'
          refine ⟨e, r, ?_, hpre.dryRun, hc, ?_, ?_⟩
          · exact (congrArg (·.get? x) hs.executions).trans hpre.execution
          · obtain ⟨p, hp, happroved⟩ := hpre.approved
            exact ⟨p, (congrArg (·.get? e.policyVersionId) hs.policies).trans hp, happroved⟩
          · obtain ⟨row, hrow, hfresh⟩ := hpre.untouched c hc
            exact ⟨row, (hs.rest c (List.mem_cons_self ..)).trans hrow, hfresh⟩
        · exact hs.erasures e' he'
      · intro c' hne
        by_cases hcc : c' = c
        · exact ⟨_, List.mem_cons_self .., hcc.symm⟩
        · have hne' : s.db.customers.get? c' ≠ db.customers.get? c' := by
            intro heq
            exact hne ((hanon.other hcc).trans heq)
          obtain ⟨e', he', hid⟩ := hs.logged c' hne'
          exact ⟨e', List.mem_cons_of_mem _ he', hid⟩
  · rw [if_neg hmine] at h
    cases h
    exact ⟨hs.keeps, hs.executions, hs.policies, hrest, hs.erasures, hs.logged⟩

lemma applyAll_ok (hcons : Consistent db) (hpre : Preflighted db tenantId x e r)
    (hids : ∀ c ∈ ids, c ∈ r.candidateIds) (hnodup : ids.Nodup) {s s' : Applying ρ}
    (hs : ApplyInv db ids s) (h : ids.foldlM (applyCandidate env now tenantId x) s = .ok s') :
    ApplyInv db [] s' := by
  induction ids generalizing s with
  | nil =>
    cases h
    exact hs
  | cons c ids ih =>
    rw [List.foldlM_cons] at h
    obtain ⟨s₁, hone, h⟩ := bind_eq_ok.1 h
    obtain ⟨hnot, hnodup⟩ := List.nodup_cons.1 hnodup
    have hs₁ := applyCandidate_ok hcons hpre (hids c (List.mem_cons_self ..)) hnot hs hone
    exact ih (fun c' hc' => hids c' (List.mem_cons_of_mem _ hc')) hnodup hs₁ h

lemma applyExecution_ok (hcons : Consistent db) (h : applyExecution env db now actor x = .ok o) :
    OutcomeOk db o ∧ (∃ e, o.db.executions.get? x = some e ∧ e.status = .applied) ∧
      ∀ y, y ≠ x → o.db.executions.get? y = db.executions.get? y := by
  unfold applyExecution at h
  obtain ⟨tenantId, _, h⟩ := bind_eq_ok.1 h
  obtain ⟨pre, hpre, h⟩ := bind_eq_ok.1 h
  rcases preflightExecution_ok hpre with ⟨rfl, happlied⟩ | ⟨e, r, rfl, hseen⟩
  · cases h
    exact ⟨OutcomeOk.of_keeps (Keeps.of_tables rfl rfl rfl) rfl, happlied, fun _ _ => rfl⟩
  · obtain ⟨s, hall, h⟩ := bind_eq_ok.1 h
    cases h
    have hstart : ApplyInv db r.candidateIds ⟨db, 0, e.heldCount, [], []⟩ := by
      refine ⟨Keeps.of_tables rfl rfl rfl, rfl, rfl, fun _ _ => rfl, ?_, ?_⟩
      · intro e' he'
        cases he'
      · intro c' hne
        exact absurd rfl hne
    have hend := applyAll_ok hcons hseen (fun _ hc => hc) hseen.distinct hstart hall
    refine ⟨⟨hend.keeps.trans (Keeps.of_tables rfl rfl rfl), hend.erasures, hend.logged⟩, ?_, ?_⟩
    · refine ⟨appliedExecution env ⟨e.receiptSha, s.affected, s.held, s.receipts, now⟩ e, ?_, rfl⟩
      show (s.db.executions.modify x _).get? x = _
      rw [Table.get?_modify_self, hend.executions, hseen.execution]
      rfl
    · intro y hy
      show (s.db.executions.modify x _).get? y = _
      rw [Table.get?_modify_of_ne _ _ hy, hend.executions]

end Operations

/-! ## runs -/

structure LifecycleInv (w : LifecycleWorld ρ) : Prop where
  consistent : Consistent w.db
  erasures : ∀ e ∈ w.erasures, ErasureOk e

section Runs
variable {env : LifecycleEnv ρ} {w : LifecycleWorld ρ} {db : LifecycleDb ρ} {actor : Option ℕ}
  {x : ℕ} {e : LifecycleExecution}

structure StepOk (w w' : LifecycleWorld ρ) : Prop where
  consistent : Consistent w'.db
  erasures : ∀ e ∈ w'.erasures, ErasureOk e
  logged : ∃ new, w'.erasures = new ++ w.erasures ∧
    ∀ c, w'.db.customers.get? c ≠ w.db.customers.get? c → ∃ e ∈ new, e.customerId = c

lemma StepOk.quiet (h : LifecycleInv w) (hcons : Consistent db)
    (hc : db.customers = w.db.customers) : StepOk w { w with db := db } := by
  refine ⟨hcons, h.erasures, [], rfl, ?_⟩
  intro c hne
  exact absurd (by rw [hc]) hne

lemma StepOk.refl (h : LifecycleInv w) : StepOk w w := StepOk.quiet h h.consistent rfl

lemma StepOk.attempt (h : LifecycleInv w) {r : Except Failure (Outcome ρ)}
    (hr : ∀ o, r = .ok o → OutcomeOk w.db o) : StepOk w (w.attempt r) := by
  cases r with
  | error f => exact StepOk.refl h
  | ok o =>
    have ho := hr o rfl
    refine ⟨h.consistent.keeps ho.keeps, ?_, o.erasures, rfl, ho.logged⟩
    intro e he
    rcases List.mem_append.1 he with he | he
    · exact ho.erasures e he
    · exact h.erasures e he

lemma StepOk.write (h : LifecycleInv w) {r : Except Failure (LifecycleDb ρ)}
    (hr : ∀ db, r = .ok db → Consistent db ∧ db.customers = w.db.customers) :
    StepOk w (w.write r) := by
  cases r with
  | error f => exact StepOk.refl h
  | ok db =>
    obtain ⟨hcons, hc⟩ := hr db rfl
    exact StepOk.quiet h hcons hc

lemma Consistent.openTicket (h : Consistent db) {c : ℕ} {cust : Customer}
    (hc : db.customers.get? c = some cust) (status : TicketStatus) (now : Instant) :
    Consistent { db with
      tickets := db.tickets.insert ⟨cust.tenantId, some c, status, now⟩ } := by
  constructor
  · intro t row c' ht hrow
    dsimp only at ht ⊢
    rw [Table.get?_insert] at ht
    by_cases hnew : t = db.tickets.next
    · rw [if_pos hnew] at ht
      cases ht
      cases hrow
      exact ⟨cust, hc, rfl⟩
    · rw [if_neg hnew] at ht
      exact h.tickets t row c' ht hrow
  · exact h.holdCustomer
  · intro i hold t hi ht
    obtain ⟨row, hrow, htenant⟩ := h.holdTicket i hold t hi ht
    exact ⟨row, db.tickets.get?_insert_of_some hrow, htenant⟩

lemma placeHold_ok (h : Consistent w.db) {actor customerId ticketId : Option ℕ}
    (hok : placeHold w.db actor customerId ticketId = .ok db) :
    Consistent db ∧ db.customers = w.db.customers ∧ db.executions = w.db.executions := by
  unfold placeHold at hok
  obtain ⟨tenantId, _, hok⟩ := bind_eq_ok.1 hok
  obtain ⟨_, _, hok⟩ := bind_eq_ok.1 hok
  have hcust : ∀ c, customerId = some c →
      ∃ cust, w.db.customers.get? c = some cust ∧ cust.tenantId = some tenantId := by
    rintro c rfl
    obtain ⟨_, hthere, _⟩ := bind_eq_ok.1 hok
    obtain ⟨cust, hc, htenant⟩ := (Option.any_eq_true _ _).1 (guardThat_ok hthere)
    exact ⟨cust, hc, of_decide_eq_true htenant⟩
  have hticket : ∀ t, ticketId = some t →
      ∃ row, w.db.tickets.get? t = some row ∧ row.tenantId = some tenantId := by
    rintro t rfl
    have hthere : ∃ u, guardThat ((w.db.tickets.get? t).any (·.tenantId = some tenantId))
        "legal_hold_subject_not_found" = .ok u := by
      cases customerId with
      | none =>
        obtain ⟨u, hu, _⟩ := bind_eq_ok.1 hok
        exact ⟨u, hu⟩
      | some c =>
        obtain ⟨_, _, hok⟩ := bind_eq_ok.1 hok
        obtain ⟨u, hu, _⟩ := bind_eq_ok.1 hok
        exact ⟨u, hu⟩
    obtain ⟨u, hu⟩ := hthere
    obtain ⟨row, hrow, htenant⟩ := (Option.any_eq_true _ _).1 (guardThat_ok hu)
    exact ⟨row, hrow, of_decide_eq_true htenant⟩
  have hdb : db = { w.db with
      holds := w.db.holds.insert ⟨tenantId, customerId, ticketId, true⟩ } := by
    cases customerId with
    | none =>
      cases ticketId with
      | none =>
        cases hok
        rfl
      | some t =>
        obtain ⟨_, _, hok⟩ := bind_eq_ok.1 hok
        cases hok
        rfl
    | some c =>
      obtain ⟨_, _, hok⟩ := bind_eq_ok.1 hok
      cases ticketId with
      | none =>
        cases hok
        rfl
      | some t =>
        obtain ⟨_, _, hok⟩ := bind_eq_ok.1 hok
        obtain ⟨_, _, hok⟩ := bind_eq_ok.1 hok
        cases hok
        rfl
  subst hdb
  refine ⟨⟨h.tickets, ?_, ?_⟩, rfl, rfl⟩
  · intro i hold c hi hc
    dsimp only at hi
    rw [Table.get?_insert] at hi
    by_cases hnew : i = w.db.holds.next
    · rw [if_pos hnew] at hi
      cases hi
      exact hcust c hc
    · rw [if_neg hnew] at hi
      exact h.holdCustomer i hold c hi hc
  · intro i hold t hi ht
    dsimp only at hi
    rw [Table.get?_insert] at hi
    by_cases hnew : i = w.db.holds.next
    · rw [if_pos hnew] at hi
      cases hi
      exact hticket t ht
    · rw [if_neg hnew] at hi
      exact h.holdTicket i hold t hi ht

lemma releaseHold_ok (h : Consistent w.db) {holdId : ℕ}
    (hok : releaseHold w.db actor holdId = .ok db) :
    Consistent db ∧ db.customers = w.db.customers ∧ db.executions = w.db.executions := by
  unfold releaseHold at hok
  obtain ⟨_, _, hok⟩ := bind_eq_ok.1 hok
  obtain ⟨_, _, hok⟩ := bind_eq_ok.1 hok
  cases hok
  refine ⟨h.keeps ⟨fun c cust hc => ⟨cust, hc, rfl⟩, fun t row ht => ⟨row, ht, rfl, rfl⟩,
    fun _ ht => ht, ?_⟩, rfl, rfl⟩
  intro i h' hi
  dsimp only at hi
  rw [Table.get?_modify] at hi
  by_cases hid : i = holdId
  · rw [if_pos hid] at hi
    obtain ⟨h₀, hh₀, rfl⟩ := Option.map_eq_some_iff.1 hi
    exact ⟨h₀, hh₀, rfl, rfl, rfl⟩
  · rw [if_neg hid] at hi
    exact ⟨h', hi, rfl, rfl, rfl⟩

lemma createPolicy_ok {resource : String} {n : ℕ}
    (hok : createPolicy w.db actor resource n = .ok db) :
    Keeps w.db db ∧ db.customers = w.db.customers ∧ db.executions = w.db.executions := by
  unfold createPolicy at hok
  obtain ⟨_, _, hok⟩ := bind_eq_ok.1 hok
  obtain ⟨_, _, hok⟩ := bind_eq_ok.1 hok
  cases hok
  exact ⟨Keeps.of_tables rfl rfl rfl, rfl, rfl⟩

lemma planExecution_ok {now : Instant} {policyId : ℕ} {key : String}
    (hok : planExecution env w.db now actor policyId key = .ok db) :
    (Keeps w.db db ∧ db.customers = w.db.customers) ∧
      ∀ x e, w.db.executions.get? x = some e → db.executions.get? x = some e := by
  unfold planExecution at hok
  obtain ⟨tenantId, _, hok⟩ := bind_eq_ok.1 hok
  cases hp : w.db.policies.get? policyId with
  | none =>
    rw [hp] at hok
    cases hok
  | some p =>
    rw [hp] at hok
    dsimp only at hok
    by_cases hbad : p.tenantId ≠ some tenantId ∨ p.status ≠ .approved
    · rw [if_pos hbad] at hok
      cases hok
    · rw [if_neg hbad] at hok
      obtain ⟨_, _, hok⟩ := bind_eq_ok.1 hok
      obtain ⟨_, _, hok⟩ := bind_eq_ok.1 hok
      split at hok
      · obtain ⟨_, _, hok⟩ := bind_eq_ok.1 hok
        cases hok
        exact ⟨⟨Keeps.of_tables rfl rfl rfl, rfl⟩, fun _ _ h => h⟩
      · cases hok
        exact ⟨⟨Keeps.of_tables rfl rfl rfl, rfl⟩,
          fun x e h => w.db.executions.get?_insert_of_some h⟩

lemma step_ok (h : LifecycleInv w) (i : LifecycleStep ρ) :
    LifecycleInv (lifecycleStep env i w) ∧
      (i.editsCustomer = false → StepOk w (lifecycleStep env i w)) := by
  have hof : ∀ {w'}, StepOk w w' → LifecycleInv w' ∧ (i.editsCustomer = false → StepOk w w') :=
    fun hs => ⟨⟨hs.consistent, hs.erasures⟩, fun _ => hs⟩
  cases i with
  | createCustomer c =>
    refine ⟨⟨?_, h.erasures⟩, fun hedit => by cases hedit⟩
    refine h.consistent.keeps ⟨?_, fun t row ht => ⟨row, ht, rfl, rfl⟩, fun _ ht => ht,
      fun i h' hi => ⟨h', hi, rfl, rfl, rfl⟩⟩
    intro c' cust hc
    exact ⟨cust, w.db.customers.get?_insert_of_some hc, rfl⟩
  | touchCustomer id name email phone externalRef now =>
    refine ⟨⟨?_, h.erasures⟩, fun hedit => by cases hedit⟩
    refine h.consistent.keeps ⟨?_, fun t row ht => ⟨row, ht, rfl, rfl⟩, fun _ ht => ht,
      fun i h' hi => ⟨h', hi, rfl, rfl, rfl⟩⟩
    intro c' cust hc
    show ∃ cust', (w.db.customers.modify id _).get? c' = some cust' ∧ _
    rw [Table.get?_modify, hc]
    by_cases hid : c' = id
    · rw [if_pos hid]
      exact ⟨_, rfl, rfl⟩
    · rw [if_neg hid]
      exact ⟨_, rfl, rfl⟩
  | openTicket customerId status now =>
    unfold lifecycleStep
    dsimp only
    cases hc : w.db.customers.get? customerId with
    | none => exact hof (StepOk.refl h)
    | some cust => exact hof (StepOk.quiet h (h.consistent.openTicket hc status now) rfl)
  | setStatus ticketId status now =>
    refine hof (StepOk.quiet h (h.consistent.keeps ?_) rfl)
    refine ⟨fun c cust hc => ⟨cust, hc, rfl⟩, ?_, ?_, fun i h' hi => ⟨h', hi, rfl, rfl, rfl⟩⟩
    · intro t row ht
      show ∃ row', (w.db.tickets.modify ticketId _).get? t = some row' ∧ _
      rw [Table.get?_modify, ht]
      by_cases hid : t = ticketId
      · rw [if_pos hid]
        exact ⟨_, rfl, rfl, rfl⟩
      · rw [if_neg hid]
        exact ⟨_, rfl, rfl, rfl⟩
    · intro t ht
      show (w.db.tickets.modify ticketId _).get? t = none
      rw [Table.get?_modify, ht]
      exact ite_self none
  | attach ticketId =>
    exact hof (StepOk.quiet h (h.consistent.keeps (Keeps.of_tables rfl rfl rfl)) rfl)
  | receiveRequest r =>
    exact hof (StepOk.quiet h (h.consistent.keeps (Keeps.of_tables rfl rfl rfl)) rfl)
  | qualifyRequest id =>
    exact hof (StepOk.quiet h (h.consistent.keeps (keeps_setRequest _ _)) rfl)
  | delete actor requestId storage now =>
    exact hof (StepOk.attempt h fun o ho => (deleteSubject_ok h.consistent ho).1)
  | placeHold actor customerId ticketId =>
    refine hof (StepOk.write h fun db hdb => ?_)
    obtain ⟨hcons, hc, _⟩ := placeHold_ok h.consistent hdb
    exact ⟨hcons, hc⟩
  | releaseHold actor holdId =>
    refine hof (StepOk.write h fun db hdb => ?_)
    obtain ⟨hcons, hc, _⟩ := releaseHold_ok h.consistent hdb
    exact ⟨hcons, hc⟩
  | createPolicy actor resource n =>
    refine hof (StepOk.write h fun db hdb => ?_)
    obtain ⟨hk, hc, _⟩ := createPolicy_ok hdb
    exact ⟨h.consistent.keeps hk, hc⟩
  | plan actor policyId key now =>
    refine hof (StepOk.write h fun db hdb => ?_)
    obtain ⟨⟨hk, hc⟩, _⟩ := planExecution_ok hdb
    exact ⟨h.consistent.keeps hk, hc⟩
  | apply actor executionId now =>
    exact hof (StepOk.attempt h fun o ho => (applyExecution_ok h.consistent ho).1)
  | relate r =>
    exact hof (StepOk.quiet h (h.consistent.keeps (Keeps.of_tables rfl rfl rfl)) rfl)

lemma applied_stays (h : LifecycleInv w) (i : LifecycleStep ρ)
    (hx : w.db.executions.get? x = some e) (happlied : e.status = .applied) :
    ∃ e', (lifecycleStep env i w).db.executions.get? x = some e' ∧ e'.status = .applied := by
  have hsame : ∀ {w' : LifecycleWorld ρ}, w'.db.executions = w.db.executions →
      ∃ e', w'.db.executions.get? x = some e' ∧ e'.status = .applied :=
    fun heq => ⟨e, by rw [heq, hx], happlied⟩
  cases i with
  | openTicket customerId status now =>
    refine hsame ?_
    unfold lifecycleStep
    dsimp only
    cases w.db.customers.get? customerId with
    | none => rfl
    | some cust => rfl
  | delete actor requestId storage now =>
    refine hsame ?_
    unfold lifecycleStep
    dsimp only
    cases hr : deleteSubject env w.db storage now actor requestId with
    | error f => rfl
    | ok o => exact (deleteSubject_ok h.consistent hr).2
  | placeHold actor customerId ticketId =>
    refine hsame ?_
    unfold lifecycleStep
    dsimp only
    cases hr : placeHold w.db actor customerId ticketId with
    | error f => rfl
    | ok db => exact (placeHold_ok h.consistent hr).2.2
  | releaseHold actor holdId =>
    refine hsame ?_
    unfold lifecycleStep
    dsimp only
    cases hr : releaseHold w.db actor holdId with
    | error f => rfl
    | ok db => exact (releaseHold_ok h.consistent hr).2.2
  | createPolicy actor resource n =>
    refine hsame ?_
    unfold lifecycleStep
    dsimp only
    cases hr : createPolicy w.db actor resource n with
    | error f => rfl
    | ok db => exact (createPolicy_ok hr).2.2
  | plan actor policyId key now =>
    unfold lifecycleStep
    dsimp only
    cases hr : planExecution env w.db now actor policyId key with
    | error f => exact hsame rfl
    | ok db => exact ⟨e, (planExecution_ok hr).2 x e hx, happlied⟩
  | apply actor executionId now =>
    unfold lifecycleStep
    dsimp only
    cases hr : applyExecution env w.db now actor executionId with
    | error f => exact hsame rfl
    | ok o =>
      obtain ⟨_, hdone, hother⟩ := applyExecution_ok h.consistent hr
      by_cases hxe : x = executionId
      · rw [hxe]
        exact hdone
      · exact ⟨e, (hother x hxe).trans hx, happlied⟩
  | createCustomer _ | touchCustomer _ _ _ _ _ _ | setStatus _ _ _ | attach _ | receiveRequest _
  | qualifyRequest _ | relate _ => exact hsame rfl

lemma apply_applied (hx : w.db.executions.get? x = some e) (happlied : e.status = .applied)
    (actor : Option ℕ) (now : Instant) :
    lifecycleStep env (.apply actor x now) w = w := by
  unfold lifecycleStep applyExecution actorTenant
  dsimp only
  cases actor with
  | none => rfl
  | some tenantId =>
    have hpre : preflightExecution env w.db tenantId x = .ok none ∨
        ∃ f, preflightExecution env w.db tenantId x = .error f := by
      unfold preflightExecution
      rw [hx]
      dsimp only
      by_cases htenant : e.tenantId ≠ tenantId
      · rw [if_pos htenant]
        exact Or.inr ⟨_, rfl⟩
      · rw [if_neg htenant, if_pos happlied]
        exact Or.inl rfl
    rcases hpre with hpre | ⟨f, hpre⟩
    · show w.attempt (preflightExecution env w.db tenantId x >>= _) = w
      rw [hpre]
      rfl
    · show w.attempt (preflightExecution env w.db tenantId x >>= _) = w
      rw [hpre]
      rfl

lemma LifecycleInv.ok (h : LifecycleInv w) : LifecycleOk env w where
  erasures := h.erasures
  logged := fun i hedit => ((step_ok h i).2 hedit).logged
  failed := by
    intro actor x now f hfail c
    unfold lifecycleStep
    dsimp only
    rw [hfail]
    rfl
  applied := fun actor x now o ho => (applyExecution_ok h.consistent ho).2.1
  stays := fun i x e hx happlied => applied_stays h i hx happlied
  again := fun x e hx happlied actor now => apply_applied hx happlied actor now

end Runs

end NexusHelpdesk.Privacy
