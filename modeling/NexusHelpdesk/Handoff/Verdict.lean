import NexusHelpdesk.Handoff.Frames
import NexusHelpdesk.Desk.Text

/-!
# The verdict on a candidate

Asking whether an agent may serve a request writes: the plan of the request is derived and a due
generation is activated.  Asked again at the same moment, the answer is the same.

* `Desk.verdict`: the answer, `none` where the plan is refused;
* `verdict_verified`, `verdict_activated`: **the two writes do not change it**;
* `askCandidate_eq`: the answer of the code.
-/

namespace NexusHelpdesk.Handoff
open Lib

/-! ## contracts are normalized once -/

lemma normalizedCapabilities_normal {raw : List String} {w : String}
    (h : w ∈ normalizedCapabilities raw) :
    PyStr.strip w ≠ "" ∧ PyStr.lower (PyStr.strip w) = w := by
  unfold normalizedCapabilities at h
  rw [List.mem_insertionSort, List.mem_dedup] at h
  obtain ⟨s, hs, rfl⟩ := List.mem_map.1 h
  have hne : PyStr.strip s ≠ "" := by simpa using (List.mem_filter.1 hs).2
  refine ⟨?_, PyStr.normal_normal s⟩
  rw [PyStr.strip_lower, PyStr.strip_strip]
  intro hnil
  apply hne
  unfold PyStr.lower at hnil
  have hchars := congrArg String.toList hnil
  rw [String.toList_ofList] at hchars
  exact String.toList_eq_nil_iff.1 (List.map_eq_nil_iff.1 hchars)

lemma normalizedCapabilities_idem (raw : List String) :
    normalizedCapabilities (normalizedCapabilities raw) = normalizedCapabilities raw := by
  have hkeep : (normalizedCapabilities raw).filter (fun s => PyStr.strip s != "") =
      normalizedCapabilities raw := by
    rw [List.filter_eq_self]
    intro w hw
    simpa using (normalizedCapabilities_normal hw).1
  have hmap : (normalizedCapabilities raw).map (fun s => PyStr.lower (PyStr.strip s)) =
      normalizedCapabilities raw := by
    conv_rhs => rw [← List.map_id (normalizedCapabilities raw)]
    exact List.map_congr_left fun w hw => (normalizedCapabilities_normal hw).2
  have hnodup : (normalizedCapabilities raw).Nodup := by
    unfold normalizedCapabilities
    exact (List.perm_insertionSort _ _).nodup_iff.2 (List.nodup_dedup _)
  have hsorted : (normalizedCapabilities raw).Pairwise (· ≤ ·) := by
    unfold normalizedCapabilities
    exact List.pairwise_insertionSort _ _
  have hunfold : normalizedCapabilities (normalizedCapabilities raw) =
      (((normalizedCapabilities raw).filter (fun s => PyStr.strip s != "")).map fun s =>
        PyStr.lower (PyStr.strip s)).dedup.insertionSort (· ≤ ·) := rfl
  rw [hunfold, hkeep, hmap, List.Nodup.dedup hnodup]
  exact hsorted.insertionSort_eq

section Contract
variable {d : Desk} {rid tid uid : ℕ} {r : HandoffRequest} {k : PlanContract} {p : RoutingPlan}

lemma planContract_normal {a : ScenarioAssignment} (h : planContract rid tid a = .ok k) :
    normalizedCapabilities k.requiredCapabilities = k.requiredCapabilities := by
  unfold planContract at h
  repeat' split at h
  all_goals cases h
  all_goals exact normalizedCapabilities_idem _

lemma verifiedPlan_some : verifiedPlan d rid r = .ok (some p) ↔
    ∃ tid a k, r.ticketId = some tid ∧ (d.tickets.get? tid).bind (·.scenario) = some a ∧
      planContract rid tid a = .ok k ∧
      ((r.plan = none ∧ p = RoutingPlan.new k) ∨
        (r.plan = some p ∧ p.digest = k ∧ p.observed = k)) := by
  unfold verifiedPlan
  cases ht : r.ticketId with
  | none => simp
  | some tid =>
    cases ha : (d.tickets.get? tid).bind (·.scenario) with
    | none => simp [ha]
    | some a =>
      cases hk : planContract rid tid a with
      | error e => simp [ha, hk]
      | ok k =>
        cases hp : r.plan with
        | none => simp [ha, hk, eq_comm]
        | some q =>
          by_cases hq : q.digest ≠ k ∨ q.observed ≠ k
          · simp only [ha, hk, hq, if_true]
            constructor
            · intro h
              cases h
            · rintro ⟨tid', a', k', h1, h2, h3, h4⟩
              cases h1
              rw [ha] at h2
              cases h2
              rw [hk] at h3
              cases h3
              rcases h4 with ⟨h4, -⟩ | ⟨h4, h5, h6⟩
              · cases h4
              · cases h4
                rcases hq with hq | hq
                · exact absurd h5 hq
                · exact absurd h6 hq
          · simp only [ha, hk, hq, if_false]
            rw [not_or, not_not, not_not] at hq
            constructor
            · intro h
              cases h
              exact ⟨tid, a, k, rfl, ha, hk, Or.inr ⟨rfl, hq⟩⟩
            · rintro ⟨tid', a', k', h1, h2, h3, h4⟩
              rcases h4 with ⟨h4, -⟩ | ⟨h4, -⟩
              · cases h4
              · rw [Option.some.inj h4]

lemma verifiedPlan_stored (h : verifiedPlan d rid r = .ok (some p)) :
    verifiedPlan d rid { r with plan := some p } = .ok (some p) := by
  obtain ⟨tid, a, k, ht, ha, hk, hp⟩ := verifiedPlan_some.1 h
  refine verifiedPlan_some.2 ⟨tid, a, k, ht, ha, hk, Or.inr ⟨rfl, ?_⟩⟩
  rcases hp with ⟨-, rfl⟩ | ⟨-, hd⟩
  · refine ⟨rfl, ?_⟩
    unfold RoutingPlan.observed RoutingPlan.new
    simp only [planContract_normal hk]
  · exact hd

end Contract

lemma verifiedPlan_map {d : Desk} {rid : ℕ} {r : HandoffRequest} {f : RoutingPlan → RoutingPlan}
    (hc : ∀ p, (f p).contract = p.contract) (hg : ∀ p, (f p).digest = p.digest) :
    verifiedPlan d rid { r with plan := r.plan.map f } =
      match r.plan with
      | none => verifiedPlan d rid r
      | some _ => (verifiedPlan d rid r).map (Option.map f) := by
  unfold verifiedPlan
  cases hp : r.plan with
  | none => rfl
  | some p =>
    dsimp only [Option.map_some]
    cases r.ticketId with
    | none => rfl
    | some tid =>
      dsimp only
      cases (d.tickets.get? tid).bind (·.scenario) with
      | none => rfl
      | some a =>
        dsimp only
        cases planContract rid tid a with
        | error e => rfl
        | ok k =>
          dsimp only
          have hobs : (f p).observed = p.observed := by
            unfold RoutingPlan.observed
            rw [hc]
          rw [hg, hobs]
          split_ifs <;> rfl

lemma contract_activateDue (p : RoutingPlan) (now : Instant) :
    (p.activateDue now).1.contract = p.contract := by
  unfold RoutingPlan.activateDue
  repeat' split
  all_goals rfl

lemma digest_activateDue (p : RoutingPlan) (now : Instant) :
    (p.activateDue now).1.digest = p.digest := by
  unfold RoutingPlan.activateDue
  repeat' split
  all_goals rfl

lemma activateDue_activateDue (p : RoutingPlan) (now : Instant) :
    (p.activateDue now).1.activateDue now = p.activateDue now := by
  unfold RoutingPlan.activateDue
  by_cases hst : p.status ≠ .retryScheduled
  · simp [hst]
  · rw [not_not] at hst
    cases hdue : p.nextRetryAt with
    | none => simp [hst, hdue]
    | some due =>
      by_cases hlt : now < due
      · simp [hst, hdue, hlt]
      · by_cases hmax : p.contract.maxGenerations ≤ p.currentGeneration
        · simp [hst, hlt, hmax]
        · simp [hst, hlt, hmax]

/-! ## verdicts -/

/-- the plan of the request, once its due generation is active, admits the agent. -/
def RoutingPlan.serves (p : RoutingPlan) (now : Instant) (k : ConversationControl) (uid : ℕ)
    (u : User) (b : Bool) : Bool :=
  (p.activateDue now).2 && (p.activateDue now).1.admits k uid u .text b

/-- whether the agent is an authorised candidate for a text request, `b` without those who were
tried; `none` if the plan of the request is refused. -/
def Desk.verdict (d : Desk) (uid rid : ℕ) (r : HandoffRequest) (k : ConversationControl)
    (b : Bool) : Option Bool :=
  match verifiedPlan d rid r with
  | .error _ => none
  | .ok none => some ((d.user uid).isActive && k.hasCountry &&
      (d.user uid).grants.any fun g => g.covers k && g.queueKey = "legacy")
  | .ok (some p) => some ((d.user uid).isActive && k.hasCountry &&
      p.serves d.now k uid (d.user uid) b)

section Verdict
variable {d t : Desk} {rid uid : ℕ} {r : HandoffRequest} {k : ConversationControl}
  {p : RoutingPlan} {b : Bool}

lemma verdict_verified (h : verifiedPlan d rid r = .ok (some p)) :
    d.verdict uid rid { r with plan := some p } k b = d.verdict uid rid r k b := by
  unfold Desk.verdict
  rw [verifiedPlan_stored h, h]

lemma verdict_activated :
    d.verdict uid rid { r with plan := r.plan.map fun p => (p.activateDue d.now).1 } k b =
      d.verdict uid rid r k b := by
  unfold Desk.verdict
  rw [verifiedPlan_map (fun p => contract_activateDue p _) fun p => digest_activateDue p _]
  cases r.plan with
  | none => rfl
  | some p =>
    dsimp only
    cases verifiedPlan d rid r with
    | error e => rfl
    | ok o =>
      cases o with
      | none => rfl
      | some q =>
        show some (_ && _ && RoutingPlan.serves (q.activateDue d.now).1 d.now k uid _ b) = _
        unfold RoutingPlan.serves
        rw [activateDue_activateDue]

lemma verdict_of_exclude (h : d.verdict uid rid r k true = some true) :
    d.verdict uid rid r k false = some true := by
  unfold Desk.verdict at h ⊢
  cases hv : verifiedPlan d rid r with
  | error e =>
    rw [hv] at h
    cases h
  | ok o =>
    rw [hv] at h
    cases o with
    | none => exact h
    | some p =>
      simp only [Option.some.injEq, Bool.and_eq_true] at h ⊢
      refine ⟨h.1, ?_⟩
      unfold RoutingPlan.serves RoutingPlan.admits at h ⊢
      simp only [Bool.and_eq_true] at h ⊢
      exact ⟨h.2.1, ⟨h.2.2.1.1, by simp⟩, h.2.2.2⟩

lemma verdict_isSome {v : Bool} (k' : ConversationControl) (b' : Bool)
    (h : d.verdict uid rid r k b = some v) : (d.verdict uid rid r k' b').isSome = true := by
  unfold Desk.verdict at h ⊢
  cases hv : verifiedPlan d rid r with
  | error e =>
    rw [hv] at h
    cases h
  | ok o => cases o <;> rfl

lemma hasScope_of_verdict (h : d.verdict uid rid r k b = some true) :
    (d.user uid).hasScope k = true := by
  have hany : ∀ q : String, ((d.user uid).grants.any fun g => g.covers k && g.queueKey = q) = true →
      (d.user uid).grants.any (·.covers k) = true := by
    intro q hq
    obtain ⟨g, hg, hc⟩ := List.any_eq_true.1 hq
    exact List.any_eq_true.2 ⟨g, hg, (Bool.and_eq_true_iff.1 hc).1⟩
  unfold Desk.verdict at h
  unfold User.hasScope
  rw [Bool.and_eq_true]
  cases hv : verifiedPlan d rid r with
  | error e =>
    rw [hv] at h
    cases h
  | ok o =>
    rw [hv] at h
    cases o with
    | none =>
      simp only [Option.some.injEq, Bool.and_eq_true] at h
      exact ⟨h.1.2, hany _ h.2⟩
    | some p =>
      unfold RoutingPlan.serves RoutingPlan.admits at h
      simp only [Option.some.injEq, Bool.and_eq_true] at h
      exact ⟨h.1.2, hany _ h.2.2.2⟩

end Verdict

/-! ## asking -/

/-- the question `_eligible_text_request_for_agent` and `assign_handoff_to_agent` ask. -/
def askCandidate (uid rid : ℕ) (k : ConversationControl) (b : Bool) : Op (Option ℕ × Bool) := do
  let plan ← ensureHandoffRoutingPlan rid
  let authorized ← candidateAuthorized plan k uid .text b
  pure (plan, authorized)

section Ask
variable {d t : Desk} {rid uid : ℕ} {r : HandoffRequest} {k : ConversationControl} {b : Bool}

lemma ensureHandoffRoutingPlan_error {e : Refusal} (hr : d.requests.get? rid = some r)
    (h : verifiedPlan d rid r = .error e) : ensureHandoffRoutingPlan rid d = (.error e, d) := by
  unfold ensureHandoffRoutingPlan
  simp only [Txn.run_bind, Txn.run_read, hr, Txn.run_check, h]

lemma ensureHandoffRoutingPlan_none (hr : d.requests.get? rid = some r)
    (h : verifiedPlan d rid r = .ok none) : ensureHandoffRoutingPlan rid d = (.ok none, d) := by
  unfold ensureHandoffRoutingPlan
  simp only [Txn.run_bind, Txn.run_read, hr, Txn.run_check, h, Txn.run_pure]

lemma ensureHandoffRoutingPlan_some {p : RoutingPlan} (hr : d.requests.get? rid = some r)
    (h : verifiedPlan d rid r = .ok (some p)) :
    ensureHandoffRoutingPlan rid d =
      (.ok (some rid), d.setRequest rid fun r => { r with plan := some p }) := by
  unfold ensureHandoffRoutingPlan
  simp only [Txn.run_bind, Txn.run_read, hr, Txn.run_check, h, Txn.run_write, Txn.run_pure]

lemma askCandidate_eq (uid : ℕ) (k : ConversationControl) (b : Bool)
    (hr : d.requests.get? rid = some r) :
    match d.verdict uid rid r k b with
    | none => ∃ e, (askCandidate uid rid k b d).1 = .error e
    | some v => ∃ plan, (askCandidate uid rid k b d).1 = .ok (plan, v) ∧
        plan = if r.ticketId.isSome then some rid else none := by
  unfold Desk.verdict
  cases hv : verifiedPlan d rid r with
  | error e =>
    refine ⟨e, ?_⟩
    unfold askCandidate
    rw [Txn.run_bind, ensureHandoffRoutingPlan_error hr hv]
  | ok o =>
    cases o with
    | none =>
      have ht : r.ticketId = none := by
        unfold verifiedPlan at hv
        repeat' split at hv
        all_goals first
          | assumption
          | cases hv
      refine ⟨none, ?_, by rw [ht]; rfl⟩
      unfold askCandidate
      rw [Txn.run_bind, ensureHandoffRoutingPlan_none hr hv]
      rfl
    | some p =>
      obtain ⟨tid, -, -, ht, -⟩ := verifiedPlan_some.1 hv
      refine ⟨some rid, ?_, by rw [ht]; rfl⟩
      have hplan : (d.setRequest rid fun r => { r with plan := some p }).plan? rid = some p := by
        unfold Desk.plan? Desk.setRequest
        rw [Table.get?_modify_self, hr]
        rfl
      have hmoved : ((d.setRequest rid fun r => { r with plan := some p }).setPlan rid fun p =>
          (p.activateDue d.now).1).plan? rid = some (p.activateDue d.now).1 := by
        unfold Desk.plan? Desk.setPlan Desk.setRequest
        rw [Table.get?_modify_self, Table.get?_modify_self, hr]
        rfl
      have huser : (d.setRequest rid fun r => { r with plan := some p }).user uid = d.user uid :=
        rfl
      unfold askCandidate
      rw [Txn.run_bind, ensureHandoffRoutingPlan_some hr hv]
      unfold candidateAuthorized candidateIsAuthorized activateDueGeneration RoutingPlan.serves
      simp only [Txn.run_bind, Txn.run_read, huser]
      cases hc : (d.user uid).isActive && k.hasCountry with
      | false => rfl
      | true =>
        simp only [Txn.run_bind, Txn.run_read, hplan, Txn.run_write, Txn.run_pure, if_true]
        have hnow : (d.setRequest rid fun r => { r with plan := some p }).now = d.now := rfl
        rw [hnow]
        cases hdue : (p.activateDue d.now).2 with
        | false => rfl
        | true =>
          simp only [if_true, Txn.run_read, hmoved]
          rfl

end Ask

end NexusHelpdesk.Handoff
