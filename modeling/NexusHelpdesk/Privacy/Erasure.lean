import NexusHelpdesk.Privacy.Subject

/-!
# When an erasure goes through

The redaction writes rows that listeners and unique indexes guard.

* `Hidden`: what the binding listener accepts once the payload is gone;
* `Assignable`: a ticket whose update does not raise for its scenario;
* `Writable`: every row of the subject can be rewritten.

`erasure_goes_through`: **a deletion that nothing blocks completes exactly if every row of the
subject can be rewritten**.
-/

namespace NexusHelpdesk.Privacy

open Lib

section Erasure
variable (env : ErasureEnv) (db : SubjectDb) (now : Instant)

/-! ## the claim's setting -/

/-- no active ticket, no active hold and no attachment. -/
structure Unblocked (tenantId customerId : ℕ) : Prop where
  attachments : (subjectGraph db tenantId customerId).attachmentIds = []
  tickets : ∀ r ∈ subjectCases db tenantId customerId, activeTicket r.2.status = false
  holds : subjectHeld db tenantId customerId (subjectGraph db tenantId customerId).ticketIds = false

def BlobsDeleted (g : SubjectGraph) : Prop :=
  ∀ i a, db.media.get? i = some a → subjectMedia db g a = true →
    PyStr.strip (a.storageKey.getD "") ≠ "" →
      ∃ receipt, env.delete (PyStr.strip (a.storageKey.getD "")) = some receipt ∧
        (receipt.deleted || receipt.alreadyAbsent) = true

/-- no AI reply, or no stored hash. -/
def Hidden (m : Outbound.OutboundMessage) : Prop :=
  Outbound.normalized (m.origin.getD "") ∉ aiOrigins ∨
    given m.runtimeContractPayloadSha256 = none

/-- the ticket has a scenario, or its fields do not name two in an active catalogue. -/
def Assignable (r : ℕ × TicketCase) : Prop :=
  hasScenario db.assignments r.1 = true ∨
    ∃ catalog, env.catalog = some catalog ∧ catalog.all (scenarioIsRuntimeActive now) = true ∧
      (candidateMatches env catalog r.2).dedup.length ≤ 1

structure Writable (tenantId customerId : ℕ) : Prop where
  customer : (db.customers.get? customerId).any (·.tenantId = some tenantId) = true
  /-- every outbound message passes the two listeners. -/
  outbound : ∀ i r, db.outbound.get? i = some r →
    r.message.ticketId ∈ (subjectGraph db tenantId customerId).ticketIds →
      Hidden r.message ∧ guardOutboundEffect db r.message = false
  scenarios : ∀ r ∈ subjectCases db tenantId customerId, Assignable env db now r
  /-- no pseudonym is in use. -/
  bindings : Table.FreshKeys bindingKey (redactedBinding env now)
    ((db.bindings.select fun _ => ownBinding tenantId customerId).map (·.1)) db.bindings
  inbound : Table.FreshKeys inboundKey (erasedWhatsApp env)
    ((db.whatsappInbound.select fun _ => inWhatsAppScope
      (subjectGraph db tenantId customerId).ticketIds
      (subjectGraph db tenantId customerId).conversationIds).map (·.1)) db.whatsappInbound
  media : Table.FreshKeys mediaKey (erasedMedia env now)
    ((db.media.select fun _ => subjectMedia db (subjectGraph db tenantId customerId)).map (·.1))
    db.media

def Completes (tenantId requestId : ℕ) : Prop :=
  ∃ receipt new r, executeDataSubjectDeletion env db now tenantId requestId = .ok (receipt, new) ∧
    new.requests.get? requestId = some r ∧ r.status = .completed

/-! ## single steps -/

section Steps
variable {env} {db} {now}

lemma demand_eq_ok {b : Bool} {code : String} {u : Unit} : demand b code = .ok u ↔ b = true := by
  unfold demand
  cases b with
  | true => exact ⟨fun _ => rfl, fun _ => rfl⟩
  | false =>
    constructor
    · intro h
      cases h
    · intro h
      cases h

lemma rewriteUnique_eq_ok {α κ : Type} [DecidableEq κ] {key : α → κ} {t t' : Table α}
    {p : ℕ → α → Bool} {f : ℕ → α → α} :
    rewriteUnique key t p f = .ok t' ↔
      Table.FreshKeys key f ((t.select p).map (·.1)) t ∧
        t' = Table.updated f ((t.select p).map (·.1)) t := by
  rw [← Table.updateEach_eq_some (Table.pairwise_ids p)]
  unfold rewriteUnique
  cases hu : Table.updateEach key f ((t.select p).map (·.1)) t with
  | none =>
    constructor
    · intro h
      cases h
    · intro h
      cases h
  | some t₁ =>
    constructor
    · intro h
      cases h
      rfl
    · intro h
      cases h
      rfl

lemma deleteBlob_eq_ok {a : WhatsAppMediaAsset} :
    deleteBlob env a = .ok () ↔
      (PyStr.strip (a.storageKey.getD "") ≠ "" →
        ∃ receipt, env.delete (PyStr.strip (a.storageKey.getD "")) = some receipt ∧
          (receipt.deleted || receipt.alreadyAbsent) = true) := by
  unfold deleteBlob
  dsimp only
  by_cases hkey : PyStr.strip (a.storageKey.getD "") = ""
  · rw [if_pos hkey]
    exact ⟨fun _ hne => absurd hkey hne, fun _ => rfl⟩
  · rw [if_neg hkey]
    cases hdelete : env.delete (PyStr.strip (a.storageKey.getD "")) with
    | none =>
      constructor
      · intro h
        cases h
      · intro h
        obtain ⟨receipt, hnone, -⟩ := h hkey
        cases hnone
    | some receipt =>
      dsimp only
      rw [demand_eq_ok]
      constructor
      · intro h _
        exact ⟨receipt, rfl, h⟩
      · intro h
        obtain ⟨receipt', hsome, hdone⟩ := h hkey
        cases hsome
        exact hdone

lemma binding_erased {r : OutboundRow} :
    validatePersistedAiPayloadBinding env (erasedOutbound r).message = none ↔ Hidden r.message := by
  unfold validatePersistedAiPayloadBinding Hidden
  change (if Outbound.normalized (r.message.origin.getD "") ∉ aiOrigins then none else _) = none ↔ _
  by_cases horigin : Outbound.normalized (r.message.origin.getD "") ∈ aiOrigins
  · rw [if_neg (not_not.2 horigin)]
    cases hsha : given r.message.runtimeContractPayloadSha256 with
    | none =>
      have hpass : validateContractPayloadHash env
          (erasedOutbound r).message.runtimeContractPayloadJson
          (erasedOutbound r).message.runtimeContractPayloadSha256 = none := by
        show validateContractPayloadHash env none r.message.runtimeContractPayloadSha256 = none
        unfold validateContractPayloadHash
        rw [hsha]
        rfl
      rw [hpass]
      exact ⟨fun _ => Or.inr rfl, fun _ => rfl⟩
    | some sha =>
      have hfail : validateContractPayloadHash env
          (erasedOutbound r).message.runtimeContractPayloadJson
          (erasedOutbound r).message.runtimeContractPayloadSha256 =
            some "runtime_contract_payload_hash_missing" := by
        show validateContractPayloadHash env none r.message.runtimeContractPayloadSha256 = _
        unfold validateContractPayloadHash
        rw [hsha]
        rfl
      rw [hfail]
      constructor
      · intro h
        cases h
      · rintro (h | h)
        · exact absurd horigin h
        · cases h
  · rw [if_pos horigin]
    exact ⟨fun _ => Or.inl horigin, fun _ => rfl⟩

lemma outboundListeners_eq_ok {m : Outbound.OutboundMessage} :
    outboundListeners env db m = .ok () ↔
      validatePersistedAiPayloadBinding env m = none ∧ guardOutboundEffect db m = false := by
  unfold outboundListeners
  cases hb : validatePersistedAiPayloadBinding env m with
  | some code =>
    constructor
    · intro h
      cases h
    · rintro ⟨h, -⟩
      cases h
  | none =>
    dsimp only
    cases hg : guardOutboundEffect db m with
    | true =>
      constructor
      · intro h
        cases h
      · rintro ⟨-, h⟩
        cases h
    | false => exact ⟨fun _ => ⟨rfl, rfl⟩, fun _ => rfl⟩

variable {assignments : Table ScenarioAssignment} {r : ℕ × TicketCase}

lemma hasScenario_insert {i j : ℕ} {k : String} (h : j ≠ i) :
    hasScenario (assignments.insert ⟨i, k, none⟩) j = hasScenario assignments j := by
  unfold hasScenario
  rw [Table.select_insert, if_neg, List.append_nil]
  rw [Bool.and_eq_true_iff]
  rintro ⟨hi, -⟩
  exact h (of_decide_eq_true hi).symm

lemma insertAutomaticAssignment_isOk :
    (∃ t, insertAutomaticAssignment env now assignments r = .ok t) ↔
      (hasScenario assignments r.1 = true ∨
        ∃ catalog, env.catalog = some catalog ∧ catalog.all (scenarioIsRuntimeActive now) = true ∧
          (candidateMatches env catalog r.2).dedup.length ≤ 1) := by
  unfold insertAutomaticAssignment
  cases hscenario : hasScenario assignments r.1 with
  | true =>
    rw [if_pos rfl]
    exact ⟨fun _ => Or.inl rfl, fun _ => ⟨assignments, rfl⟩⟩
  | false =>
    rw [if_neg Bool.false_ne_true]
    unfold loadRuntimeScenarioCatalog
    cases hcatalog : env.catalog with
    | none =>
      constructor
      · rintro ⟨t, h⟩
        cases h
      · rintro (h | ⟨catalog, h, -⟩)
        · cases h
        · cases h
    | some catalog =>
      dsimp only
      by_cases hactive : catalog.all (scenarioIsRuntimeActive now) = true
      · rw [if_pos hactive]
        have hiff : (∃ k, resolveCandidateScenario env catalog r.2 = .ok k) ↔
            (candidateMatches env catalog r.2).dedup.length ≤ 1 := by
          unfold resolveCandidateScenario
          match (candidateMatches env catalog r.2).dedup with
          | [] => exact ⟨fun _ => Nat.zero_le 1, fun _ => ⟨none, rfl⟩⟩
          | [k] => exact ⟨fun _ => le_refl 1, fun _ => ⟨some k, rfl⟩⟩
          | k :: l :: rest =>
            constructor
            · rintro ⟨k', h⟩
              cases h
            · intro h
              have htwo : 2 ≤ (k :: l :: rest).length := Nat.le_add_left 2 rest.length
              omega
        constructor
        · rintro ⟨t, h⟩
          obtain ⟨catalog', hsame, h⟩ := bind_eq_ok.1 h
          cases hsame
          obtain ⟨k, hk, -⟩ := bind_eq_ok.1 h
          exact Or.inr ⟨catalog, rfl, hactive, hiff.1 ⟨k, hk⟩⟩
        · rintro (h | ⟨catalog', hsame, -, hone⟩)
          · cases h
          · cases hsame
            obtain ⟨k, hk⟩ := hiff.2 hone
            cases k with
            | none =>
              exact ⟨assignments, bind_eq_ok.2 ⟨catalog, rfl, bind_eq_ok.2 ⟨none, hk, rfl⟩⟩⟩
            | some k =>
              exact ⟨_, bind_eq_ok.2 ⟨catalog, rfl, bind_eq_ok.2 ⟨some k, hk, rfl⟩⟩⟩
      · rw [if_neg hactive]
        constructor
        · rintro ⟨t, h⟩
          cases h
        · rintro (h | ⟨catalog', hsame, hall, -⟩)
          · cases h
          · cases hsame
            exact absurd hall hactive

lemma hasScenario_of_insert {t : Table ScenarioAssignment} {j : ℕ}
    (h : insertAutomaticAssignment env now assignments r = .ok t) (hj : j ≠ r.1) :
    hasScenario t j = hasScenario assignments j := by
  unfold insertAutomaticAssignment at h
  split at h
  · cases h
    rfl
  · obtain ⟨catalog, -, h⟩ := bind_eq_ok.1 h
    obtain ⟨k, -, h⟩ := bind_eq_ok.1 h
    cases k with
    | none =>
      cases h
      rfl
    | some k =>
      cases h
      exact hasScenario_insert hj

lemma flushTickets_isOk {rows : List (ℕ × TicketCase)}
    (hrows : rows.Pairwise fun r s => r.1 < s.1) :
    (∃ t, flushTickets env now rows assignments = .ok t) ↔
      ∀ r ∈ rows, ∃ t, insertAutomaticAssignment env now assignments r = .ok t := by
  unfold flushTickets
  induction rows generalizing assignments with
  | nil =>
    constructor
    · intro _ r hr
      cases hr
    · intro _
      exact ⟨assignments, rfl⟩
  | cons r rows ih =>
    obtain ⟨hlt, htail⟩ := List.pairwise_cons.1 hrows
    rw [List.forall_mem_cons]
    have hsame : ∀ t, insertAutomaticAssignment env now assignments r = .ok t →
        ((∀ s ∈ rows, ∃ t', insertAutomaticAssignment env now t s = .ok t') ↔
          ∀ s ∈ rows, ∃ t', insertAutomaticAssignment env now assignments s = .ok t') := by
      intro t ht
      have hrow : ∀ s ∈ rows, ((∃ t', insertAutomaticAssignment env now t s = .ok t') ↔
          ∃ t', insertAutomaticAssignment env now assignments s = .ok t') := by
        intro s hs
        rw [insertAutomaticAssignment_isOk, insertAutomaticAssignment_isOk,
          hasScenario_of_insert ht (hlt s hs).ne']
      exact forall₂_congr hrow
    constructor
    · rintro ⟨t, h⟩
      rw [List.foldlM_cons] at h
      obtain ⟨t₁, ht₁, hrest⟩ := bind_eq_ok.1 h
      exact ⟨⟨t₁, ht₁⟩, (hsame t₁ ht₁).1 ((ih htail).1 ⟨t, hrest⟩)⟩
    · rintro ⟨⟨t₁, ht₁⟩, hrest⟩
      obtain ⟨t, ht⟩ := (ih htail).2 ((hsame t₁ ht₁).2 hrest)
      exact ⟨t, bind_eq_ok.2 ⟨t₁, ht₁, ht⟩⟩

end Steps

end Erasure

section Walk
variable {env : ErasureEnv} {db : SubjectDb} {now : Instant} {tenantId customerId : ℕ}
  {g : SubjectGraph} {receipt : AnonymizationReceipt} {new : SubjectDb}

/-! ## the walk -/

lemma idsWhere_rewriteRows {α : Type} {t : Table α} {p : ℕ → α → Bool} {f : ℕ → α → α}
    {q : α → Bool} (h : ∀ i a, q (f i a) = q a) : idsWhere (rewriteRows t p f) q = idsWhere t q := by
  have hfilter : (fun i a => q (if p i a then f i a else a)) = fun (_ : ℕ) a => q a := by
    funext i a
    cases p i a with
    | true => exact h i a
    | false => rfl
  unfold idsWhere rewriteRows
  rw [Table.select_mapRows, hfilter, List.map_map]
  rfl

lemma select_subjectCases (tenantId customerId : ℕ) :
    (db.tickets.select fun i _ => i ∈ (subjectGraph db tenantId customerId).ticketIds) =
      subjectCases db tenantId customerId := by
  unfold subjectCases Table.select
  apply List.filter_congr
  rintro ⟨i, t⟩ hmem
  have hrow := db.tickets.mem_rows.1 hmem
  rw [Bool.eq_iff_iff, decide_eq_true_iff]
  constructor
  · intro hi
    obtain ⟨⟨j, t'⟩, hmem', rfl⟩ := List.mem_map.1 hi
    obtain ⟨hrow', hown⟩ := db.tickets.mem_select.1 hmem'
    rw [hrow] at hrow'
    cases hrow'
    exact hown
  · intro hown
    exact List.mem_map.2 ⟨(i, t), db.tickets.mem_select.2 ⟨hrow, hown⟩, rfl⟩

lemma redactChannelIdentity_eq_ok {r : ℕ × SubjectDb}
    (hcustomer : (db.customers.get? customerId).any (·.tenantId = some tenantId) = true) :
    redactChannelIdentity env db now tenantId customerId = .ok r ↔
      Table.FreshKeys bindingKey (redactedBinding env now)
        ((db.bindings.select fun _ => ownBinding tenantId customerId).map (·.1)) db.bindings ∧
      r = ((db.bindings.select fun _ => ownBinding tenantId customerId).length +
          (db.quarantine.select fun _ =>
            fromSubject env tenantId (emailValues env db tenantId customerId)).length,
        { db with
          bindings := Table.updated (redactedBinding env now)
            ((db.bindings.select fun _ => ownBinding tenantId customerId).map (·.1)) db.bindings
          quarantine := rewriteRows db.quarantine
            (fun _ => fromSubject env tenantId (emailValues env db tenantId customerId))
            (redactedQuarantine env now) }) := by
  unfold redactChannelIdentity
  rw [bind_eq_ok]
  constructor
  · rintro ⟨_, -, h⟩
    obtain ⟨bindings, hb, h⟩ := bind_eq_ok.1 h
    obtain ⟨hfresh, rfl⟩ := rewriteUnique_eq_ok.1 hb
    cases h
    exact ⟨hfresh, rfl⟩
  · rintro ⟨hfresh, rfl⟩
    refine ⟨(), demand_eq_ok.2 hcustomer, ?_⟩
    exact bind_eq_ok.2 ⟨_, rewriteUnique_eq_ok.2 ⟨hfresh, rfl⟩, rfl⟩

structure Flushes (env : ErasureEnv) (db : SubjectDb) (now : Instant) (g : SubjectGraph) :
    Prop where
  blobs : BlobsDeleted env db g
  scenarios : ∀ r ∈ db.tickets.select fun i _ => i ∈ g.ticketIds, Assignable env db now r
  outbound : ∀ r ∈ db.outbound.select fun _ r => r.message.ticketId ∈ g.ticketIds,
    outboundListeners env db r.2.message = .ok ()
  inbound : Table.FreshKeys inboundKey (erasedWhatsApp env)
    ((db.whatsappInbound.select fun _ => inWhatsAppScope g.ticketIds g.conversationIds).map (·.1))
    db.whatsappInbound
  media : Table.FreshKeys mediaKey (erasedMedia env now)
    ((db.media.select fun _ => subjectMedia db g).map (·.1)) db.media

lemma blobs_eq_ok {u : Unit} :
    ((db.media.select fun _ => subjectMedia db g).map (·.2)).forM (deleteBlob env) = .ok u ↔
      BlobsDeleted env db g := by
  rw [forM_eq_ok, List.forall_mem_map, Table.forall_select]
  constructor
  · intro h i a hrow hmine
    exact deleteBlob_eq_ok.1 (h i a hrow hmine)
  · intro h i a hrow hmine
    exact deleteBlob_eq_ok.2 (h i a hrow hmine)

lemma redactWhatsApp_isOk :
    (∃ r, redactWhatsApp env db now g = .ok r) ↔ Flushes env db now g := by
  have hflush : (∃ t, flushTickets env now (db.tickets.select fun i _ => i ∈ g.ticketIds)
      db.assignments = .ok t) ↔
      ∀ r ∈ db.tickets.select fun i _ => i ∈ g.ticketIds, Assignable env db now r := by
    rw [flushTickets_isOk (db.tickets.pairwise_select _)]
    exact forall₂_congr fun r _ => insertAutomaticAssignment_isOk
  unfold redactWhatsApp
  dsimp only
  constructor
  · rintro ⟨r, h⟩
    obtain ⟨_, hblobs, h⟩ := bind_eq_ok.1 h
    obtain ⟨assignments, hassign, h⟩ := bind_eq_ok.1 h
    obtain ⟨_, houtbound, h⟩ := bind_eq_ok.1 h
    obtain ⟨inbound, hinbound, h⟩ := bind_eq_ok.1 h
    obtain ⟨media, hmedia, -⟩ := bind_eq_ok.1 h
    exact ⟨blobs_eq_ok.1 hblobs, hflush.1 ⟨assignments, hassign⟩, forM_eq_ok.1 houtbound,
      (rewriteUnique_eq_ok.1 hinbound).1, (rewriteUnique_eq_ok.1 hmedia).1⟩
  · intro h
    obtain ⟨assignments, hassign⟩ := hflush.2 h.scenarios
    refine bind_isOk.2 ⟨(), blobs_eq_ok.2 h.blobs, ?_⟩
    refine bind_isOk.2 ⟨assignments, hassign, ?_⟩
    refine bind_isOk.2 ⟨(), forM_eq_ok.2 h.outbound, ?_⟩
    refine bind_isOk.2 ⟨_, rewriteUnique_eq_ok.2 ⟨h.inbound, rfl⟩, ?_⟩
    exact bind_isOk.2 ⟨_, rewriteUnique_eq_ok.2 ⟨h.media, rfl⟩, _, rfl⟩

/-! ### the rows as they are flushed -/

section Flush
variable (env : ErasureEnv) (db : SubjectDb) (now : Instant) (tenantId customerId : ℕ)

/-- the tables when the ticket graph is flushed. -/
def assigned (bindings : Table CustomerIdentityBinding) (quarantine : Table EmailIntakeQuarantine) :
    SubjectDb :=
  redactTicketGraph env { db with bindings := bindings, quarantine := quarantine } now customerId
    (subjectGraph db tenantId customerId).ticketIds

variable {env db now tenantId customerId} {bindings : Table CustomerIdentityBinding}
  {quarantine : Table EmailIntakeQuarantine}

lemma subjectMedia_assigned {g : SubjectGraph} :
    subjectMedia (assigned env db now tenantId customerId bindings quarantine) g =
      subjectMedia db g := by
  have hids : outboundIds (assigned env db now tenantId customerId bindings quarantine)
      g.ticketIds = outboundIds db g.ticketIds := idsWhere_rewriteRows fun _ _ => rfl
  unfold subjectMedia
  rw [hids]
  rfl

lemma tickets_assigned :
    (assigned env db now tenantId customerId bindings quarantine).tickets =
      rewriteRows db.tickets (fun i _ => i ∈ (subjectGraph db tenantId customerId).ticketIds)
        fun _ t => erasedCase now t := rfl

lemma assignable_erased {db' : SubjectDb} {i : ℕ} {t : TicketCase} {p : Prop} [Decidable p]
    (h : db'.assignments = db.assignments) :
    Assignable env db' now (i, if p then erasedCase now t else t) ↔
      Assignable env db now (i, t) := by
  unfold Assignable
  rw [h]
  split
  · exact Iff.rfl
  · exact Iff.rfl

lemma assignable_assigned :
    (∀ r ∈ (assigned env db now tenantId customerId bindings quarantine).tickets.select
        fun i _ => i ∈ (subjectGraph db tenantId customerId).ticketIds,
      Assignable env (assigned env db now tenantId customerId bindings quarantine) now r) ↔
    ∀ r ∈ subjectCases db tenantId customerId, Assignable env db now r := by
  rw [← select_subjectCases, tickets_assigned]
  unfold rewriteRows
  rw [Table.select_mapRows, List.forall_mem_map]
  exact forall₂_congr fun r _ => assignable_erased rfl

lemma guardOutboundEffect_assigned {r : OutboundRow} :
    guardOutboundEffect (assigned env db now tenantId customerId bindings quarantine)
      (erasedOutbound r).message = guardOutboundEffect db r.message := by
  have hticket : (((assigned env db now tenantId customerId bindings quarantine).tickets.get?
      r.message.ticketId).bind (·.customerId)) =
      (db.tickets.get? r.message.ticketId).bind (·.customerId) := by
    show ((rewriteRows db.tickets _ _).get? _).bind _ = _
    unfold rewriteRows
    rw [Table.get?_mapRows]
    cases db.tickets.get? r.message.ticketId with
    | none => rfl
    | some t =>
      show (if _ then erasedCase now t else t : TicketCase).customerId = _
      split
      · rfl
      · rfl
  unfold guardOutboundEffect
  change (_ && Outbound.activeRestriction db.restrictions ((Table.get? _ r.message.ticketId).bind
    _)) = _
  rw [hticket]
  rfl

lemma outbound_assigned :
    (∀ r ∈ (assigned env db now tenantId customerId bindings quarantine).outbound.select
        fun _ r => r.message.ticketId ∈ (subjectGraph db tenantId customerId).ticketIds,
      outboundListeners env (assigned env db now tenantId customerId bindings quarantine)
        r.2.message = .ok ()) ↔
    ∀ i r, db.outbound.get? i = some r →
      r.message.ticketId ∈ (subjectGraph db tenantId customerId).ticketIds →
        Hidden r.message ∧ guardOutboundEffect db r.message = false := by
  rw [Table.forall_select]
  have hrow : ∀ r : OutboundRow, r.message.ticketId ∈
      (subjectGraph db tenantId customerId).ticketIds →
      (outboundListeners env (assigned env db now tenantId customerId bindings quarantine)
        (erasedOutbound r).message = .ok () ↔
        Hidden r.message ∧ guardOutboundEffect db r.message = false) := by
    intro r _
    rw [outboundListeners_eq_ok, binding_erased, guardOutboundEffect_assigned]
  change (∀ i a, (rewriteRows db.outbound _ _).get? i = some a → _) ↔ _
  unfold rewriteRows
  constructor
  · intro h i r hget hmine
    refine (hrow r hmine).1 (h i (erasedOutbound r) ?_ (decide_eq_true hmine))
    rw [Table.get?_mapRows, hget]
    exact congrArg some (if_pos (decide_eq_true hmine))
  · intro h i r' hget hmine'
    rw [Table.get?_mapRows] at hget
    obtain ⟨r, hr, rfl⟩ := Option.map_eq_some_iff.1 hget
    by_cases hmine : r.message.ticketId ∈ (subjectGraph db tenantId customerId).ticketIds
    · dsimp only
      rw [if_pos (decide_eq_true hmine)]
      exact (hrow r hmine).2 (h i r hr hmine)
    · exfalso
      dsimp only at hmine'
      rw [if_neg (fun hc => hmine (of_decide_eq_true hc))] at hmine'
      exact hmine (of_decide_eq_true hmine')

lemma flushes_assigned
    (hblobs : BlobsDeleted env db (subjectGraph db tenantId customerId)) :
    Flushes env (assigned env db now tenantId customerId bindings quarantine) now
        (subjectGraph db tenantId customerId) ↔
      (∀ r ∈ subjectCases db tenantId customerId, Assignable env db now r) ∧
      (∀ i r, db.outbound.get? i = some r →
        r.message.ticketId ∈ (subjectGraph db tenantId customerId).ticketIds →
          Hidden r.message ∧ guardOutboundEffect db r.message = false) ∧
      Table.FreshKeys inboundKey (erasedWhatsApp env)
        ((db.whatsappInbound.select fun _ => inWhatsAppScope
          (subjectGraph db tenantId customerId).ticketIds
          (subjectGraph db tenantId customerId).conversationIds).map (·.1)) db.whatsappInbound ∧
      Table.FreshKeys mediaKey (erasedMedia env now)
        ((db.media.select fun _ => subjectMedia db (subjectGraph db tenantId customerId)).map
          (·.1)) db.media := by
  constructor
  · intro h
    have hmedia := h.media
    rw [subjectMedia_assigned] at hmedia
    exact ⟨assignable_assigned.1 h.scenarios, outbound_assigned.1 h.outbound, h.inbound, hmedia⟩
  · rintro ⟨hscenarios, houtbound, hinbound, hmedia⟩
    refine ⟨?_, assignable_assigned.2 hscenarios, outbound_assigned.2 houtbound, hinbound, ?_⟩
    · intro i a hrow hmine
      rw [subjectMedia_assigned] at hmine
      exact hblobs i a hrow hmine
    · rw [subjectMedia_assigned]
      exact hmedia

end Flush

/-! ## the erasure -/

lemma anonymizeSubject_isOk (hopen : Unblocked db tenantId customerId)
    (hblobs : BlobsDeleted env db (subjectGraph db tenantId customerId))
    (hcustomer : (db.customers.get? customerId).any (·.tenantId = some tenantId) = true) :
    (∃ r, anonymizeSubject env db now tenantId customerId = .ok r) ↔
      Writable env db now tenantId customerId := by
  have hactive : ((subjectCases db tenantId customerId).any fun r => activeTicket r.2.status) =
      false := by
    rw [List.any_eq_false]
    intro r hr
    rw [hopen.tickets r hr]
    exact Bool.false_ne_true
  unfold anonymizeSubject
  dsimp only
  rw [hopen.attachments, hactive, hopen.holds]
  constructor
  · rintro ⟨r, h⟩
    obtain ⟨_, -, h⟩ := bind_eq_ok.1 h
    obtain ⟨_, -, h⟩ := bind_eq_ok.1 h
    obtain ⟨_, -, h⟩ := bind_eq_ok.1 h
    obtain ⟨s, hs, h⟩ := bind_eq_ok.1 h
    obtain ⟨hbindings, rfl⟩ := (redactChannelIdentity_eq_ok hcustomer).1 hs
    obtain ⟨s, hs, -⟩ := bind_eq_ok.1 h
    obtain ⟨hscenarios, houtbound, hinbound, hmedia⟩ :=
      (flushes_assigned hblobs).1 (redactWhatsApp_isOk.1 ⟨s, hs⟩)
    exact ⟨hcustomer, houtbound, hscenarios, hbindings, hinbound, hmedia⟩
  · intro h
    obtain ⟨s, hs⟩ := redactWhatsApp_isOk.2 ((flushes_assigned hblobs).2
      ⟨h.scenarios, h.outbound, h.inbound, h.media⟩)
    refine bind_isOk.2 ⟨(), rfl, bind_isOk.2 ⟨(), rfl, bind_isOk.2 ⟨(), rfl, ?_⟩⟩⟩
    refine bind_isOk.2 ⟨_, (redactChannelIdentity_eq_ok hcustomer).2 ⟨h.bindings, rfl⟩, ?_⟩
    exact bind_isOk.2 ⟨s, hs, _, rfl⟩

lemma anonymizeSubject_frame
    (h : anonymizeSubject env db now tenantId customerId = .ok (receipt, new)) :
    new.requests = db.requests ∧ new.controls = db.controls ∧
      (∃ ids : List ℕ, new.conversations =
        rewriteRows db.conversations (fun i _ => decide (i ∈ ids)) (erasedConversation env now)) ∧
      ∃ ids : List ℕ, new.messages =
        rewriteRows db.messages (fun _ m => decide (m.conversationId ∈ ids))
          fun _ m => erasedMessage m := by
  unfold anonymizeSubject at h
  obtain ⟨_, -, h⟩ := bind_eq_ok.1 h
  obtain ⟨_, -, h⟩ := bind_eq_ok.1 h
  obtain ⟨_, -, h⟩ := bind_eq_ok.1 h
  obtain ⟨s, hs, h⟩ := bind_eq_ok.1 h
  obtain ⟨w, hw, h⟩ := bind_eq_ok.1 h
  cases h
  unfold redactChannelIdentity at hs
  obtain ⟨_, -, hs⟩ := bind_eq_ok.1 hs
  obtain ⟨_, -, hs⟩ := bind_eq_ok.1 hs
  cases hs
  unfold redactWhatsApp at hw
  obtain ⟨_, -, hw⟩ := bind_eq_ok.1 hw
  obtain ⟨_, -, hw⟩ := bind_eq_ok.1 hw
  obtain ⟨_, -, hw⟩ := bind_eq_ok.1 hw
  obtain ⟨_, -, hw⟩ := bind_eq_ok.1 hw
  obtain ⟨_, -, hw⟩ := bind_eq_ok.1 hw
  cases hw
  exact ⟨rfl, rfl, ⟨_, rfl⟩, ⟨_, rfl⟩⟩

lemma executeDataSubjectDeletion_frame {requestId : ℕ}
    (h : executeDataSubjectDeletion env db now tenantId requestId = .ok (receipt, new)) :
    new.controls = db.controls ∧
      (∃ ids : List ℕ, new.conversations =
        rewriteRows db.conversations (fun i _ => decide (i ∈ ids)) (erasedConversation env now)) ∧
      ∃ ids : List ℕ, new.messages =
        rewriteRows db.messages (fun _ m => decide (m.conversationId ∈ ids))
          fun _ m => erasedMessage m := by
  have hnone : ∀ {α : Type} (t : Table α) (p : ℕ → α → Bool) (f : ℕ → α → α),
      (∀ i a, p i a = false) → t = rewriteRows t p f := by
    intro α t p f hp
    unfold rewriteRows
    ext i : 1
    · rfl
    · rw [Table.get?_mapRows]
      cases t.get? i with
      | none => rfl
      | some a => rw [Option.map_some, hp i a]; rfl
  unfold executeDataSubjectDeletion at h
  split at h
  · cases h
  · split at h
    · cases h
    · split at h
      · cases h
      · split at h
        · cases h
          exact ⟨rfl, ⟨[], hnone _ _ _ fun _ _ => rfl⟩, ⟨[], hnone _ _ _ fun _ _ => rfl⟩⟩
        · obtain ⟨_, -, h⟩ := bind_eq_ok.1 h
          obtain ⟨_, -, h⟩ := bind_eq_ok.1 h
          obtain ⟨s, hs, h⟩ := bind_eq_ok.1 h
          cases h
          exact (anonymizeSubject_frame hs).2

variable {requestId : ℕ} {r : DataSubjectRequest}

lemma completes_iff (hrow : db.requests.get? requestId = some r) (htenant : r.tenantId = tenantId)
    (hkind : r.kind = .delete) (hstatus : r.status = .qualified ∨ r.status = .processing) :
    Completes env db now tenantId requestId ↔
      (db.customers.get? r.customerId).any (·.tenantId = some tenantId) = true ∧
        ∃ s, anonymizeSubject env db now tenantId r.customerId = .ok s := by
  have hopen : (decide (r.status = .qualified) || decide (r.status = .processing)) = true := by
    rcases hstatus with h | h
    · rw [h]; rfl
    · rw [h]; rfl
  have hexecute : executeDataSubjectDeletion env db now tenantId requestId = (do
      demand (r.status = .qualified || r.status = .processing) "dsar_not_qualified"
      demand ((db.customers.get? r.customerId).any (·.tenantId = some tenantId))
        "dsar_customer_authority_conflict"
      let s ← anonymizeSubject env db now tenantId r.customerId
      return (s.1,
        { s.2 with requests := s.2.requests.modify requestId (completedRequest s.1) })) := by
    unfold executeDataSubjectDeletion
    rw [hrow]
    dsimp only
    rw [if_neg (not_not.2 htenant), if_neg (not_not.2 hkind)]
    rcases hstatus with h | h
    · rw [h]
    · rw [h]
  unfold Completes
  rw [hexecute]
  constructor
  · rintro ⟨receipt, new, r', h, -, -⟩
    obtain ⟨_, -, h⟩ := bind_eq_ok.1 h
    obtain ⟨_, hcustomer, h⟩ := bind_eq_ok.1 h
    obtain ⟨s, hs, -⟩ := bind_eq_ok.1 h
    exact ⟨demand_eq_ok.1 hcustomer, s, hs⟩
  · rintro ⟨hcustomer, ⟨receipt, new⟩, hs⟩
    refine ⟨receipt, _, completedRequest receipt r, bind_eq_ok.2 ⟨(), demand_eq_ok.2 hopen,
      bind_eq_ok.2 ⟨(), demand_eq_ok.2 hcustomer, bind_eq_ok.2 ⟨_, hs, rfl⟩⟩⟩, ?_, rfl⟩
    rw [Table.get?_modify_self, (anonymizeSubject_frame hs).1, hrow]
    rfl

end Walk

theorem erasure_goes_through (env : ErasureEnv) (db : SubjectDb) (now : Instant)
    (tenantId requestId : ℕ) (r : DataSubjectRequest)
    (hrow : db.requests.get? requestId = some r) (htenant : r.tenantId = tenantId)
    (hkind : r.kind = .delete) (hstatus : r.status = .qualified ∨ r.status = .processing)
    (hopen : Unblocked db tenantId r.customerId)
    (hblobs : BlobsDeleted env db (subjectGraph db tenantId r.customerId)) :
    Completes env db now tenantId requestId ↔ Writable env db now tenantId r.customerId := by
  rw [completes_iff hrow htenant hkind hstatus]
  constructor
  · rintro ⟨hcustomer, h⟩
    exact (anonymizeSubject_isOk hopen hblobs hcustomer).1 h
  · intro h
    exact ⟨h.customer, (anonymizeSubject_isOk hopen hblobs h.customer).2 h⟩
/-! ## samples -/

namespace Samples

def payload : String :=
  "\x7b\"origin\":\"provider_runtime\",\"reply\":\x7b\"text\":\"Hello\",\"type\":\"answer\"\x7d\x7d"

def payloadSha : String := "dc56f889df637ce5fae2bcf06c892a33ed93c14cd4fc4d255847d220e829fff3"

/-- the digests of the texts below. -/
def sha256 (s : String) : String :=
  if s = payload then payloadSha
  else if s = "customer:1:Ana" then "527b9aa3ef9f19450a249dba2af75d83b610c5b15943f70465f30dfa1897043f"
  else ""

def env : ErasureEnv where
  sha256 := sha256
  subjectSha := fun _ _ _ => ""
  lower := PyStr.lower
  sqlLower := PyStr.lower
  delete := fun _ => none
  catalog := some []

def ana : CustomerProfile where
  tenantId := some 7
  name := "Ana"
  email := none
  phone := none
  externalRef := none
  updatedAt := 0
  emailNormalized := none
  phoneNormalized := none
  createdAt := 0

def parcel : TicketCase where
  tenantId := some 7
  customerId := some 1
  status := .closed
  updatedAt := 0
  ticketNo := "T-1"
  title := "Parcel"
  description := "Where is it?"
  source := "manual"
  sourceChannel := .email
  priority := "medium"
  category := none
  subCategory := none
  caseType := none
  aiClassification := none
  trackingNumber := none
  aiSummary := none
  issueSummary := none
  customerRequest := none
  sourceChatId := none
  sourceDedupeKey := none
  requiredAction := none
  missingFields := none
  lastCustomerMessage := none
  customerUpdate := none
  resolutionSummary := none
  lastHumanUpdate := none
  lastAiUpdate := none
  requestedTime := none
  destination := none
  preferredReplyChannel := none
  preferredReplyContact := none
  createdAt := 0
  closedAt := some 0

def reply (origin : String) (payloadJson sha : Option String) (createdBy : Option ℕ) :
    OutboundRow where
  message := {
    ticketId := 1
    channel := .email
    status := .sent
    body := "Hello"
    origin := some origin
    runtimeTraceId := none
    runtimeContractVersion := none
    runtimeSignature := none
    runtimeContractPayloadJson := payloadJson
    runtimeContractPayloadSha256 := sha
    runtimeReplyType := none
    safetyStatus := none
    providerStatus := none
    errorMessage := none
    createdBy := createdBy
    sentAt := some 0
    retryCount := 0
    maxRetries := 3
    lastAttemptAt := none
    nextRetryAt := none
    lockedAt := none
    lockedBy := none
    providerMessageId := none
    mailboxThreadId := none
    mailboxMessageId := none
    mailboxReferences := none
    failureCode := none
    failureReason := none
    deliveryStatus := none
    deliveryEventType := none
    deliveryReceiptProvider := none
    deliveryReceiptId := none
    deliveryReceiptAt := none
    createdAt := 0 }
  subject := none
  deliveryDetail := none
  deliveryPayloadJson := none

def aiReply : OutboundRow := reply "provider_runtime" (some payload) (some payloadSha) none

def humanReply : OutboundRow := reply "human_agent" none none (some 3)

def request : DataSubjectRequest := ⟨7, 1, .delete, .qualified, none, none⟩

/-- Ana with one closed ticket, one message and a qualified deletion. -/
def db (row : OutboundRow) : SubjectDb :=
  { SubjectDb.empty with
    customers := Table.empty.insert ana
    tickets := Table.empty.insert parcel
    assignments := Table.empty.insert ⟨1, "delivery_delay", none⟩
    requests := Table.empty.insert request
    outbound := Table.empty.insert row }

end Samples

lemma sample_unblocked {row : OutboundRow} (h : row = Samples.humanReply ∨ row = Samples.aiReply) :
    Unblocked (Samples.db row) 7 1 := by
  rcases h with rfl | rfl
  · exact ⟨by decide +kernel, by decide +kernel, by decide +kernel⟩
  · exact ⟨by decide +kernel, by decide +kernel, by decide +kernel⟩

lemma sample_blobs (row : OutboundRow) (g : SubjectGraph) :
    BlobsDeleted Samples.env (Samples.db row) g := by
  intro i a hrow
  cases hrow

/-- the deletion of a customer whose only message was written by a person. -/
theorem erasure_goes_through_human : Completes Samples.env (Samples.db Samples.humanReply) 0 7 1 := by
  have hunique : ∀ {α κ : Type} [DecidableEq κ] (key : α → κ) (f : ℕ → α → α),
      Table.FreshKeys key f [] Table.empty := fun _ _ i hi => absurd hi List.not_mem_nil
  refine (erasure_goes_through Samples.env (Samples.db Samples.humanReply) 0 7 1 Samples.request
    rfl rfl rfl (Or.inl rfl) (sample_unblocked (Or.inl rfl)) (sample_blobs _ _)).2 ?_
  refine ⟨rfl, ?_, ?_, hunique _ _, hunique _ _, hunique _ _⟩
  · intro i r hrow _
    have hrow' : (if i = 1 then some Samples.humanReply else none) = some r := hrow
    by_cases hi : i = 1
    · rw [if_pos hi] at hrow'
      cases hrow'
      exact ⟨Or.inl (by decide +kernel), by decide +kernel⟩
    · rw [if_neg hi] at hrow'
      cases hrow'
  · have hall : ∀ r ∈ subjectCases (Samples.db Samples.humanReply) 7 1,
        hasScenario (Samples.db Samples.humanReply).assignments r.1 = true := by decide +kernel
    exact fun r hr => Or.inl (hall r hr)

/-- one sent AI reply, which the listener accepts as it is stored, and the deletion raises. -/
theorem erasure_refused :
    validatePersistedAiPayloadBinding Samples.env Samples.aiReply.message = none ∧
      Unblocked (Samples.db Samples.aiReply) 7 1 ∧
      (∀ g, BlobsDeleted Samples.env (Samples.db Samples.aiReply) g) ∧
      (executeDataSubjectDeletion Samples.env (Samples.db Samples.aiReply) 0 7 1).map (fun _ => ()) =
        .error (.binding "runtime_contract_payload_hash_missing") ∧
      ¬ Completes Samples.env (Samples.db Samples.aiReply) 0 7 1 := by
  have hraises : (executeDataSubjectDeletion Samples.env (Samples.db Samples.aiReply) 0 7 1).map
      (fun _ => ()) = .error (.binding "runtime_contract_payload_hash_missing") := by decide +kernel
  refine ⟨by decide +kernel, sample_unblocked (Or.inr rfl), sample_blobs _, hraises, ?_⟩
  rintro ⟨receipt, new, r, h, -, -⟩
  rw [h] at hraises
  cases hraises

end NexusHelpdesk.Privacy
