import NexusHelpdesk.Scenario.Assignments
import NexusHelpdesk.Lib.Except
import NexusHelpdesk.Lib.Run

/-!
# The chain of a ticket

`_guard_scenario_identity_update` returns early where no identity field changed.
`_assign_scenario_after_ticket_update` runs on every update and looks at all four fields.

* `Linked`, `Store.Chained`: every assignment of a ticket but the last is superseded by the next;
* `Advances`: what a command leaves of the assignments;
* `Upheld`: what is to hold of a command;
* `assignments_chain_iff`: **the commands of a run are upheld exactly if each update that leaves the
  identity fields of an unassigned ticket meets an active catalog in which they name at most one
  scenario.**
-/

namespace NexusHelpdesk.Scenario
open Lib

/-! ## chains -/

def Assignment.isCurrent (a : Assignment) : Prop := a.supersededAt = none ∧ a.supersededById = none

def Assignment.stamp (a : Assignment) (at' : Instant) : Assignment :=
  { a with supersededAt := some at' }

def Assignment.pointTo (a : Assignment) (i : ℕ) : Assignment := { a with supersededById := some i }

/-- every row but the last is superseded by the next one, and the last is current. -/
def Linked : List (ℕ × Assignment) → Prop
  | [] => True
  | [r] => r.2.isCurrent
  | r :: s :: rows => r.2.supersededAt.isSome ∧ r.2.supersededById = some s.1 ∧ Linked (s :: rows)

variable {rows : List (ℕ × Assignment)}

lemma Linked.snoc {r : ℕ × Assignment} (h : Linked (rows ++ [r])) :
    r.2.isCurrent ∧ ∀ x ∈ rows, x.2.supersededAt.isSome := by
  induction rows with
  | nil => exact ⟨h, by simp⟩
  | cons x rows ih =>
    cases rows with
    | nil =>
      obtain ⟨hx, -, hr⟩ := h
      exact ⟨hr, by simpa using hx⟩
    | cons y rows =>
      obtain ⟨hx, -, hrows⟩ := h
      obtain ⟨hr, hall⟩ := ih hrows
      refine ⟨hr, fun z hz => ?_⟩
      rcases List.mem_cons.1 hz with rfl | hz
      · exact hx
      · exact hall z hz

lemma Linked.push {r r' s : ℕ × Assignment}
    (h : Linked (rows ++ [r])) (hkey : r'.1 = r.1) (hat : r'.2.supersededAt.isSome)
    (hby : r'.2.supersededById = some s.1) (hs : s.2.isCurrent) :
    Linked (rows ++ [r', s]) := by
  induction rows with
  | nil => exact ⟨hat, hby, hs⟩
  | cons x rows ih =>
    cases rows with
    | nil =>
      obtain ⟨hx, hnext, hr⟩ := h
      refine ⟨hx, ?_, ih hr⟩
      rw [hnext, hkey]
    | cons y rows =>
      obtain ⟨hx, hnext, hrows⟩ := h
      exact ⟨hx, hnext, ih hrows⟩

lemma Linked.current (h : Linked rows) :
    rows.filter (fun r => r.2.supersededAt.isNone) = rows.getLast?.toList := by
  rcases List.eq_nil_or_concat rows with rfl | ⟨l, r, rfl⟩
  · rfl
  · rw [List.concat_eq_append] at h ⊢
    obtain ⟨hr, hall⟩ := h.snoc
    have hold : l.filter (fun r => r.2.supersededAt.isNone) = [] := by
      rw [List.filter_eq_nil_iff]
      intro x hx
      have hsome := hall x hx
      rw [Option.isSome_iff_ne_none] at hsome
      rw [Option.isNone_iff_eq_none]
      exact hsome
    rw [List.filter_append, hold, List.getLast?_concat, List.nil_append]
    simp [hr.1]

/-! ## the rows of a ticket -/

/-- a row with the key `i` changed by `f`. -/
def changeRow (i : ℕ) (f : Assignment → Assignment) (r : ℕ × Assignment) : ℕ × Assignment :=
  if r.1 = i then (r.1, f r.2) else r

lemma map_changeRow_of_ne {i : ℕ} {f : Assignment → Assignment}
    (h : ∀ r ∈ rows, r.1 ≠ i) : rows.map (changeRow i f) = rows := by
  conv_rhs => rw [← List.map_id rows]
  apply List.map_congr_left
  intro r hr
  exact if_neg (h r hr)

namespace Store
variable {d d' : Store} {tid i : ℕ} {a row : Assignment} {f : Assignment → Assignment}
  {F : ℕ → Prop} {l : List (ℕ × Assignment)}

def rowsOf (d : Store) (tid : ℕ) : List (ℕ × Assignment) :=
  d.assignments.select fun _ a => a.contract.ticketId = tid

def Chained (d : Store) : Prop := ∀ tid, Linked (d.rowsOf tid)

def currentScenario (d : Store) (tid : ℕ) : Option String :=
  (d.currentCaseScenarioAssignment tid).map (·.2.contract.scenarioKey)

lemma mem_rowsOf : (i, a) ∈ d.rowsOf tid ↔
    d.assignments.get? i = some a ∧ a.contract.ticketId = tid := by
  unfold rowsOf
  rw [Table.mem_select, decide_eq_true_iff]

lemma currentRows_eq (d : Store) (tid : ℕ) :
    d.currentRows tid = (d.rowsOf tid).filter fun r => r.2.supersededAt.isNone := by
  unfold currentRows rowsOf Table.select
  rw [List.filter_filter]
  apply List.filter_congr
  intro r hr
  exact Bool.and_comm _ _

lemma Chained.currentRows (h : d.Chained) (tid : ℕ) :
    d.currentRows tid = (d.rowsOf tid).getLast?.toList := by
  rw [currentRows_eq, (h tid).current]

lemma Chained.current (h : d.Chained) (tid : ℕ) :
    d.currentCaseScenarioAssignment tid = (d.rowsOf tid).getLast? := by
  unfold currentCaseScenarioAssignment
  rw [h.currentRows]
  cases (d.rowsOf tid).getLast? <;> rfl

lemma Chained.connectionCurrent (h : d.Chained) (tid : ℕ) :
    d.connectionCurrentAssignment tid = (d.rowsOf tid).getLast? := by
  unfold connectionCurrentAssignment
  rw [h.currentRows]
  cases (d.rowsOf tid).getLast? <;> rfl

lemma Chained.scenario (h : d.Chained) (tid : ℕ) :
    d.currentScenario tid = (d.rowsOf tid).getLast?.map (·.2.contract.scenarioKey) := by
  unfold currentScenario
  rw [h.current]

lemma Chained.rowsOf_eq_nil (h : d.Chained) (hcur : d.currentRows tid = []) :
    d.rowsOf tid = [] := by
  rw [h.currentRows] at hcur
  cases hlast : (d.rowsOf tid).getLast? with
  | none => exact List.getLast?_eq_none_iff.1 hlast
  | some r =>
    rw [hlast] at hcur
    cases hcur

lemma rowsOf_insert (d : Store) (a : Assignment) (tid : ℕ) :
    { d with assignments := d.assignments.insert a }.rowsOf tid =
      d.rowsOf tid ++ if a.contract.ticketId = tid then [(d.assignments.next, a)] else [] := by
  unfold rowsOf
  rw [Table.select_insert]
  simp only [decide_eq_true_eq]

lemma rowsOf_modify (d : Store) (i : ℕ) (hf : ∀ a, (f a).contract = a.contract) (tid : ℕ) :
    { d with assignments := d.assignments.modify i f }.rowsOf tid =
      (d.rowsOf tid).map (changeRow i f) := by
  unfold rowsOf
  rw [Table.modify_eq_mapRows, Table.select_mapRows]
  have hp : ∀ (j : ℕ) (a : Assignment), (if j = i then f a else a).contract = a.contract := by
    intro j a
    split_ifs
    · exact hf a
    · rfl
  simp only [hp]
  apply List.map_congr_left
  intro r hr
  unfold changeRow
  split_ifs
  · rfl
  · rfl

/-! ## what a command leaves of the assignments -/

/-- chains are kept, contracts do not change, and a current scenario changes only for `free`. -/
structure Advances (d d' : Store) (free : ℕ → Prop) : Prop where
  chained : d'.Chained
  contracts : ∀ i a, d.assignments.get? i = some a →
    ∃ a', d'.assignments.get? i = some a' ∧ a'.contract = a.contract
  keeps : ∀ tid key, d.currentScenario tid = some key → ¬free tid →
    d'.currentScenario tid = some key

lemma Advances.of_eq (hd : d.Chained) (h : d'.assignments = d.assignments) :
    Advances d d' F where
  chained := by
    intro tid
    unfold rowsOf
    rw [h]
    exact hd tid
  contracts i a hrow := ⟨a, by rw [h, hrow], rfl⟩
  keeps tid key hkey _ := by
    unfold currentScenario currentCaseScenarioAssignment Store.currentRows at hkey ⊢
    rw [h]
    exact hkey

lemma Advances.of_assignments {e : Store} (h : Advances e d' F)
    (he : e.assignments = d.assignments) : Advances d d' F := by
  obtain ⟨hch, hcon, hkeep⟩ := h
  refine ⟨hch, ?_, ?_⟩
  · rw [← he]
    exact hcon
  · unfold currentScenario currentCaseScenarioAssignment Store.currentRows at hkeep ⊢
    rw [← he]
    exact hkeep

lemma insertAssignment_eq_ok : d.insertAssignment a = .ok d' ↔
    d.currentRows a.contract.ticketId = [] ∧
      d' = { d with assignments := d.assignments.insert a } := by
  unfold insertAssignment
  split_ifs with h
  · rw [List.isEmpty_iff] at h
    simp [h, eq_comm]
  · rw [List.isEmpty_iff] at h
    simp [h]

lemma insertAssignment_advances (hd : d.Chained) (ha : a.isCurrent)
    (h : d.insertAssignment a = .ok d') : Advances d d' F := by
  obtain ⟨hcur, rfl⟩ := insertAssignment_eq_ok.1 h
  have hnil := hd.rowsOf_eq_nil hcur
  have hch : ({ d with assignments := d.assignments.insert a } : Store).Chained := by
    intro tid
    rw [rowsOf_insert]
    split_ifs with ht
    · rw [← ht, hnil]
      exact ha
    · rw [List.append_nil]
      exact hd tid
  refine ⟨hch, fun i b hrow => ⟨b, Table.get?_insert_of_some _ hrow, rfl⟩, ?_⟩
  intro tid key hkey _
  rw [hd.scenario] at hkey
  rw [hch.scenario, rowsOf_insert]
  split_ifs with ht
  · rw [← ht, hnil] at hkey
    cases hkey
  · rw [List.append_nil]
    exact hkey

lemma insertAssignment_current (hd : d.Chained) (ha : a.isCurrent)
    (h : d.insertAssignment a = .ok d') :
    d'.currentScenario a.contract.ticketId = some a.contract.scenarioKey := by
  have hch := (insertAssignment_advances (F := fun _ => False) hd ha h).chained
  obtain ⟨hcur, rfl⟩ := insertAssignment_eq_ok.1 h
  rw [hch.scenario, rowsOf_insert, if_pos rfl, List.getLast?_concat]
  rfl

lemma updateAssignment_eq_ok (hf : ∀ a, (f a).contract = a.contract) :
    d.updateAssignment i f = .ok { d with assignments := d.assignments.modify i f } := by
  unfold updateAssignment
  apply if_pos
  cases d.assignments.get? i with
  | none => rfl
  | some a => simpa using hf a

/-- the current assignment is stamped, and points to the new one behind it. -/
def superseded (d : Store) (i : ℕ) (row : Assignment) : Store :=
  { d with
    assignments := ((d.assignments.modify i (·.stamp d.now)).insert row).modify i
      (·.pointTo d.assignments.next) }

lemma supersede_eq (h : d.supersede tid i row = .ok d') : d' = d.superseded i row := by
  unfold supersede at h
  obtain ⟨d₁, h₁, h⟩ := bind_eq_ok.1 h
  obtain ⟨d₂, h₂, h⟩ := bind_eq_ok.1 h
  have hstamp := updateAssignment_eq_ok (d := d) (i := i) (f := (·.stamp d.now)) fun _ => rfl
  cases h₁.symm.trans hstamp
  obtain ⟨-, rfl⟩ := insertAssignment_eq_ok.1 h₂
  cases h.symm.trans (updateAssignment_eq_ok (f := (·.pointTo d.assignments.next)) fun _ => rfl)
  rfl

lemma rowsOf_superseded (d : Store) (i : ℕ) (row : Assignment) (tid : ℕ) :
    (d.superseded i row).rowsOf tid =
      ((d.rowsOf tid).map (changeRow i (·.stamp d.now)) ++
        if row.contract.ticketId = tid then [(d.assignments.next, row)] else []).map
          (changeRow i (·.pointTo d.assignments.next)) := by
  have h1 := rowsOf_modify d i (f := (·.stamp d.now)) (fun _ => rfl) tid
  have h2 := rowsOf_insert { d with assignments := d.assignments.modify i (·.stamp d.now) } row tid
  rw [h1] at h2
  have h3 := rowsOf_modify
    { d with assignments := (d.assignments.modify i (·.stamp d.now)).insert row } i
    (f := (·.pointTo d.assignments.next)) (fun _ => rfl) tid
  rw [h2] at h3
  exact h3

lemma superseded_contracts {j : ℕ} (hj : d.assignments.get? j = some a) :
    ∃ a', (d.superseded i row).assignments.get? j = some a' ∧ a'.contract = a.contract := by
  have hne : j ≠ (d.assignments.modify i (·.stamp d.now)).next := (Table.lt_next hj).ne
  unfold superseded
  by_cases hji : j = i
  · refine ⟨(a.stamp d.now).pointTo d.assignments.next, ?_, rfl⟩
    rw [hji] at hj hne ⊢
    rw [Table.get?_modify_self, Table.get?_insert_of_ne _ _ hne, Table.get?_modify_self, hj]
    rfl
  · refine ⟨a, ?_, rfl⟩
    rw [Table.get?_modify_of_ne _ _ hji, Table.get?_insert_of_ne _ _ hne,
      Table.get?_modify_of_ne _ _ hji, hj]

lemma key_ne_of_ticket (hrow : d.assignments.get? i = some a) {t : ℕ}
    (ht : a.contract.ticketId ≠ t) : ∀ r ∈ d.rowsOf t, r.1 ≠ i := by
  rintro ⟨j, b⟩ hmem rfl
  obtain ⟨hb, hbt⟩ := mem_rowsOf.1 hmem
  rw [hrow] at hb
  cases hb
  exact ht hbt

lemma key_ne_of_older (hl : d.rowsOf tid = l ++ [(i, a)]) :
    ∀ r ∈ l, r.1 ≠ i := by
  intro r hr
  have hsorted := d.assignments.pairwise_select fun _ a => a.contract.ticketId = tid
  change (d.rowsOf tid).Pairwise _ at hsorted
  rw [hl, List.pairwise_append] at hsorted
  exact (hsorted.2.2 r hr (i, a) (List.mem_singleton_self _)).ne

lemma rowsOf_superseded_of_ne (hget : d.assignments.get? i = some a)
    (hat : a.contract.ticketId = tid) (ht : row.contract.ticketId = tid) {t : ℕ} (hne : t ≠ tid) :
    (d.superseded i row).rowsOf t = d.rowsOf t := by
  have hkeys := key_ne_of_ticket hget (t := t) (by rw [hat]; exact hne.symm)
  rw [rowsOf_superseded, if_neg (by rw [ht]; exact hne.symm), List.append_nil,
    map_changeRow_of_ne hkeys, map_changeRow_of_ne hkeys]

lemma rowsOf_superseded_self (hl : d.rowsOf tid = l ++ [(i, a)])
    (hget : d.assignments.get? i = some a) (ht : row.contract.ticketId = tid) :
    (d.superseded i row).rowsOf tid =
      l ++ [(i, (a.stamp d.now).pointTo d.assignments.next), (d.assignments.next, row)] := by
  have hkeys := key_ne_of_older hl
  have hnext : d.assignments.next ≠ i := (Table.lt_next hget).ne'
  rw [rowsOf_superseded, if_pos ht, hl, List.map_append, List.map_append, List.map_append,
    map_changeRow_of_ne hkeys, map_changeRow_of_ne hkeys]
  simp [changeRow, hnext]

lemma supersede_advances (hd : d.Chained) (hcur : d.currentCaseScenarioAssignment tid = some (i, a))
    (hrow : row.isCurrent) (ht : row.contract.ticketId = tid)
    (h : d.supersede tid i row = .ok d') : Advances d d' (· = tid) := by
  rw [hd.current] at hcur
  obtain ⟨l, hl⟩ := List.getLast?_eq_some_iff.1 hcur
  have hmem : (i, a) ∈ d.rowsOf tid := by
    rw [hl]
    exact List.mem_append_right l (List.mem_singleton_self _)
  obtain ⟨hget, hat⟩ := mem_rowsOf.1 hmem
  have heq := supersede_eq h
  subst heq
  have hch : (d.superseded i row).Chained := by
    intro t
    by_cases hne : t = tid
    · have hlinked := hd tid
      rw [hl] at hlinked
      rw [hne, rowsOf_superseded_self hl hget ht]
      exact hlinked.push rfl rfl rfl hrow
    · rw [rowsOf_superseded_of_ne hget hat ht hne]
      exact hd t
  refine ⟨hch, fun j b hb => superseded_contracts hb, ?_⟩
  intro t key hkey hne
  rw [hd.scenario] at hkey
  rw [hch.scenario, rowsOf_superseded_of_ne hget hat ht hne]
  exact hkey

end Store

/-! ## candidates -/

lemma eq_of_not_ambiguous {ms : List (IdentityField × String)} (h : ambiguous ms = false)
    {m n : IdentityField × String} (hm : m ∈ ms) (hn : n ∈ ms) : m.2 = n.2 := by
  have hlen : (ms.map (·.2)).dedup.length ≤ 1 := by
    unfold ambiguous at h
    rw [decide_eq_false_iff_not] at h
    omega
  have hmem : ∀ {x}, x ∈ ms → x.2 ∈ (ms.map (·.2)).dedup := by
    intro x hx
    rw [List.mem_dedup]
    exact List.mem_map_of_mem hx
  have hm' := hmem hm
  have hn' := hmem hn
  cases hk : (ms.map (·.2)).dedup with
  | nil =>
    rw [hk] at hm'
    cases hm'
  | cons k rest =>
    rw [hk] at hm' hn' hlen
    have hrest : rest = [] := List.length_eq_zero_iff.1 (by simpa using hlen)
    subst hrest
    rw [List.mem_singleton.1 hm', List.mem_singleton.1 hn']

variable {t : TicketRow} {c : Catalog} {key : String} {now : Instant} {f : IdentityField}
  {s : ScenarioDefinition}

lemma mem_candidateMatches (h : c.named (t.identity f) = some key) :
    (f, key) ∈ candidateMatches t c := by
  refine List.mem_filterMap.2 ⟨f, ?_, by rw [h]; rfl⟩
  cases f <;> simp [scenarioIdentityFields]

lemma mem_changedCandidateMatches {old : TicketRow} (hf : t.identity f ≠ old.identity f)
    (h : c.named (t.identity f) = some key) : (f, key) ∈ changedCandidateMatches old t c := by
  refine List.mem_filterMap.2 ⟨f, ?_, by rw [h]; rfl⟩
  refine List.mem_filter.2 ⟨?_, decide_eq_true hf⟩
  cases f <;> simp [scenarioIdentityFields]

lemma Catalog.byKey_scenarioKey (h : c.byKey key = some s) :
    s.scenarioKey = key ∧ s ∈ c.scenarios := by
  have hkey := List.find?_some h
  have hmem := List.mem_of_find?_eq_some h
  exact ⟨of_decide_eq_true hkey, List.mem_reverse.1 hmem⟩

lemma Catalog.byKey_of_named {v : Option String}
    (h : c.named v = some key) : ∃ s, c.byKey key = some s := by
  obtain ⟨name, -, hname⟩ := Option.bind_eq_some_iff.1 h
  obtain ⟨s, hs, rfl⟩ := Option.map_eq_some_iff.1 hname
  have hmem := List.mem_of_find?_eq_some hs
  refine Option.isSome_iff_exists.1 (List.find?_isSome.2 ⟨s, hmem, ?_⟩)
  exact decide_eq_true rfl

lemma resolveCandidateScenario_some (h : resolveCandidateScenario t c now = .ok (some s)) :
    ambiguous (candidateMatches t c) = false ∧ ∃ f, (f, s.scenarioKey) ∈ candidateMatches t c := by
  unfold resolveCandidateScenario at h
  repeat' split at h
  all_goals cases h
  rename_i hamb _ f key rest hms _ hbyKey hactive
  refine ⟨by simpa using hamb, f, ?_⟩
  rw [hms, (Catalog.byKey_scenarioKey hbyKey).1]
  exact List.mem_cons_self ..

lemma resolveCandidateScenario_none
    (h : resolveCandidateScenario t c now = .ok none) : candidateMatches t c = [] := by
  unfold resolveCandidateScenario at h
  split_ifs at h
  cases hms : candidateMatches t c with
  | nil => rfl
  | cons m rest =>
    rw [hms] at h
    dsimp only at h
    cases hkey : c.byKey m.2 with
    | none =>
      rw [hkey] at h
      cases h
    | some s =>
      rw [hkey] at h
      dsimp only at h
      split_ifs at h
      cases h

lemma resolveCandidateScenario_ok (hc : c.scenarios.all (scenarioIsRuntimeActive · now) = true)
    (h : ambiguous (candidateMatches t c) = false) :
    ∃ s, resolveCandidateScenario t c now = .ok s := by
  unfold resolveCandidateScenario
  rw [h, if_neg Bool.false_ne_true]
  cases hms : candidateMatches t c with
  | nil => exact ⟨none, rfl⟩
  | cons m rest =>
    obtain ⟨f, key⟩ := m
    have hmem : (f, key) ∈ candidateMatches t c := by
      rw [hms]
      exact List.mem_cons_self ..
    obtain ⟨f', -, hf'⟩ := List.mem_filterMap.1 hmem
    obtain ⟨k, hk, heq⟩ := Option.map_eq_some_iff.1 hf'
    cases heq
    obtain ⟨s, hs⟩ := Catalog.byKey_of_named hk
    have hactive := List.all_eq_true.1 hc s (Catalog.byKey_scenarioKey hs).2
    refine ⟨some s, ?_⟩
    simp only [hs, hactive, if_true]

/-! ## the commands -/

namespace Store
variable {d d' : Store} {tid : ℕ} {t old : TicketRow} {source : String}

lemma assignmentValues_isCurrent (tid : ℕ) (c : Catalog) (s : ScenarioDefinition) (source : String)
    (reason : Option String) (actor : Option ℕ) (now : Instant) :
    (assignmentValues tid c s source reason actor now).isCurrent := ⟨rfl, rfl⟩

lemma loadRuntimeScenarioCatalog_eq_ok {c : Catalog} :
    loadRuntimeScenarioCatalog d = .ok c ↔
      d.catalog.scenarios.all (scenarioIsRuntimeActive · d.now) = true ∧ c = d.catalog := by
  unfold loadRuntimeScenarioCatalog
  split_ifs with h
  · simp [h, eq_comm]
  · simp [h]

lemma insertAutomaticAssignment_cases
    (h : d.insertAutomaticAssignment tid t source = .ok d') :
    (d.connectionCurrentAssignment tid).isSome ∧ d' = d ∨
      resolveCandidateScenario t d.catalog d.now = .ok none ∧ d' = d ∨
      ∃ s, resolveCandidateScenario t d.catalog d.now = .ok (some s) ∧
        d.insertAssignment (assignmentValues tid d.catalog s source none t.createdBy
          (t.createdAt.getD d.now)) = .ok d' := by
  unfold insertAutomaticAssignment at h
  split_ifs at h with hcur
  · cases h
    exact Or.inl ⟨hcur, rfl⟩
  · obtain ⟨c, hc, h⟩ := bind_eq_ok.1 h
    obtain ⟨-, rfl⟩ := loadRuntimeScenarioCatalog_eq_ok.1 hc
    obtain ⟨o, ho, h⟩ := bind_eq_ok.1 h
    cases o with
    | none =>
      cases h
      exact Or.inr (Or.inl ⟨ho, rfl⟩)
    | some s => exact Or.inr (Or.inr ⟨s, ho, h⟩)

lemma insertAutomaticAssignment_advances {F : ℕ → Prop} (hd : d.Chained)
    (h : d.insertAutomaticAssignment tid t source = .ok d') : Advances d d' F := by
  rcases insertAutomaticAssignment_cases h with ⟨-, rfl⟩ | ⟨-, rfl⟩ | ⟨s, -, h⟩
  · exact Advances.of_eq hd rfl
  · exact Advances.of_eq hd rfl
  · exact insertAssignment_advances hd (assignmentValues_isCurrent ..) h

variable {f : IdentityField} {key : String}

lemma insertAutomaticAssignment_named (hd : d.Chained) (hcur : d.currentScenario tid = none)
    (h : d.insertAutomaticAssignment tid t source = .ok d')
    (hf : d.catalog.named (t.identity f) = some key) : d'.currentScenario tid = some key := by
  have hmem := mem_candidateMatches hf
  rcases insertAutomaticAssignment_cases h with ⟨hsome, -⟩ | ⟨hnone, -⟩ | ⟨s, hs, h⟩
  · rw [hd.scenario, Option.map_eq_none_iff] at hcur
    rw [hd.connectionCurrent, hcur] at hsome
    cases hsome
  · rw [resolveCandidateScenario_none hnone] at hmem
    cases hmem
  · obtain ⟨hamb, f', hf'⟩ := resolveCandidateScenario_some hs
    have hkey : s.scenarioKey = key := eq_of_not_ambiguous hamb hf' hmem
    rw [← hkey]
    exact insertAssignment_current hd (assignmentValues_isCurrent ..) h

lemma insertAutomaticAssignment_ok_iff (hd : d.Chained) (hcur : d.currentRows tid = []) :
    (∃ d', d.insertAutomaticAssignment tid t source = .ok d') ↔
      d.catalog.scenarios.all (scenarioIsRuntimeActive · d.now) = true ∧
        ambiguous (candidateMatches t d.catalog) = false := by
  have hnone : (d.connectionCurrentAssignment tid).isSome = false := by
    unfold connectionCurrentAssignment
    rw [hcur]
    rfl
  unfold insertAutomaticAssignment
  rw [hnone, if_neg Bool.false_ne_true]
  constructor
  · rintro ⟨d', h⟩
    obtain ⟨c, hc, h⟩ := bind_eq_ok.1 h
    obtain ⟨hactive, rfl⟩ := loadRuntimeScenarioCatalog_eq_ok.1 hc
    obtain ⟨o, ho, -⟩ := bind_eq_ok.1 h
    refine ⟨hactive, ?_⟩
    by_contra hamb
    unfold resolveCandidateScenario at ho
    rw [if_pos (by simpa using hamb)] at ho
    cases ho
  · rintro ⟨hactive, hamb⟩
    obtain ⟨o, ho⟩ := resolveCandidateScenario_ok hactive hamb
    have hload : loadRuntimeScenarioCatalog d = .ok d.catalog :=
      loadRuntimeScenarioCatalog_eq_ok.2 ⟨hactive, rfl⟩
    refine bind_isOk.2 ⟨_, hload, bind_isOk.2 ⟨o, ho, ?_⟩⟩
    cases o with
    | none => exact ⟨d, rfl⟩
    | some s => exact ⟨_, insertAssignment_eq_ok.2 ⟨hcur, rfl⟩⟩

lemma insertAutomaticAssignment_assigned (hcur : d.currentRows tid ≠ []) :
    d.insertAutomaticAssignment tid t source = .ok d := by
  have hsome : (d.connectionCurrentAssignment tid).isSome = true := by
    unfold connectionCurrentAssignment
    cases hrows : d.currentRows tid with
    | nil => exact absurd hrows hcur
    | cons r rows => rfl
  unfold insertAutomaticAssignment
  rw [if_pos hsome]

lemma guardScenarioIdentityUpdate_same (h : ∀ f, t.identity f = old.identity f) :
    d.guardScenarioIdentityUpdate tid old t = .ok () := by
  unfold guardScenarioIdentityUpdate
  apply if_neg
  rw [Bool.not_eq_true, List.any_eq_false]
  intro f hf
  rw [h f]
  simp

lemma guardScenarioIdentityUpdate_named (hd : d.Chained) (hcur : d.currentScenario tid = some key)
    (h : d.guardScenarioIdentityUpdate tid old t = .ok ())
    (hf : t.identity f ≠ old.identity f) {k : String}
    (hk : d.catalog.named (t.identity f) = some k) : k = key := by
  have hchanged : scenarioIdentityFields.any (fun f => t.identity f ≠ old.identity f) = true := by
    refine List.any_eq_true.2 ⟨f, ?_, decide_eq_true hf⟩
    cases f <;> simp [scenarioIdentityFields]
  unfold guardScenarioIdentityUpdate at h
  rw [if_pos hchanged] at h
  obtain ⟨c, hc, h⟩ := bind_eq_ok.1 h
  obtain ⟨-, rfl⟩ := loadRuntimeScenarioCatalog_eq_ok.1 hc
  rw [hd.scenario] at hcur
  obtain ⟨⟨i, a⟩, hlast, hkey⟩ := Option.map_eq_some_iff.1 hcur
  rw [hd.connectionCurrent, hlast] at h
  dsimp only at h
  split_ifs at h with hany
  rw [Bool.not_eq_true, List.any_eq_false] at hany
  have hne := hany (f, k) (mem_changedCandidateMatches hf hk)
  rw [← hkey]
  simpa using hne

lemma flushTicket_eq_ok (h : d.flushTicket tid old t = .ok d') :
    d.guardScenarioIdentityUpdate tid old t = .ok () ∧
      { d with tickets := d.tickets.set tid t }.insertAutomaticAssignment tid t
        "ticket_identity_update" = .ok d' := by
  obtain ⟨u, hguard, h⟩ := bind_eq_ok.1 h
  exact ⟨hguard, h⟩

lemma flushTicket_named (hd : d.Chained) (h : d.flushTicket tid old t = .ok d')
    (hf : t.identity f ≠ old.identity f)
    (hkey : d.catalog.named (t.identity f) = some key) : d'.currentScenario tid = some key := by
  obtain ⟨hguard, h⟩ := flushTicket_eq_ok h
  have hd₁ : ({ d with tickets := d.tickets.set tid t } : Store).Chained := hd
  cases hcur : d.currentScenario tid with
  | none => exact insertAutomaticAssignment_named hd₁ hcur h hkey
  | some k =>
    rw [guardScenarioIdentityUpdate_named hd hcur hguard hf hkey]
    exact (insertAutomaticAssignment_advances (F := fun _ => False) hd₁ h).keeps tid k hcur id

lemma reclassifyCaseScenario_advances {scenarioKey reason : String} {actor : Option ℕ}
    (hd : d.Chained) (h : d.reclassifyCaseScenario tid scenarioKey reason actor = .ok d') :
    Advances d d' (· = tid) := by
  unfold reclassifyCaseScenario at h
  split_ifs at h
  obtain ⟨c, -, h⟩ := bind_eq_ok.1 h
  obtain ⟨s, -, h⟩ := bind_eq_ok.1 h
  cases hcur : d.currentCaseScenarioAssignment tid with
  | none =>
    rw [hcur] at h
    exact insertAssignment_advances hd (assignmentValues_isCurrent ..) h
  | some r =>
    rw [hcur] at h
    dsimp only at h
    split_ifs at h
    · cases h
      exact Advances.of_eq hd rfl
    · exact supersede_advances hd hcur (assignmentValues_isCurrent ..) rfl h

/-- the tickets a command may give another scenario. -/
def reclassifies : Command → ℕ → Prop
  | .reclassify tid _ _ _, t => t = tid
  | _, _ => False

lemma perform_advances {c : Command} (hd : d.Chained) (h : d.perform c = .ok d') :
    Advances d d' (reclassifies c) := by
  cases c with
  | insertTicket t =>
    exact (insertAutomaticAssignment_advances
      (d := { d with tickets := d.tickets.insert t }) hd h).of_assignments rfl
  | updateTicket tid t =>
    change d.updateTicket tid t = _ at h
    unfold updateTicket at h
    cases hrow : d.tickets.get? tid with
    | none =>
      rw [hrow] at h
      cases h
    | some old =>
      rw [hrow] at h
      exact (insertAutomaticAssignment_advances
        (d := { d with tickets := d.tickets.set tid t }) hd (flushTicket_eq_ok h).2).of_assignments
          rfl
  | reclassify tid scenarioKey reason actor => exact reclassifyCaseScenario_advances hd h
  | replaceCatalog c =>
    cases h
    exact Advances.of_eq hd rfl

lemma step_advances (hd : d.Chained) (e : Instant × Command) :
    Advances d (step e d) (reclassifies e.2) := by
  unfold step
  cases h : ({ d with now := e.1 } : Store).perform e.2 with
  | error r => exact Advances.of_eq hd rfl
  | ok d' => exact (perform_advances (d := { d with now := e.1 }) hd h).of_assignments rfl

lemma updateTicket_same (hrow : d.tickets.get? tid = some old)
    (h : ∀ f, t.identity f = old.identity f) :
    d.updateTicket tid t = { d with tickets := d.tickets.set tid t }.insertAutomaticAssignment tid t
      "ticket_identity_update" := by
  unfold updateTicket flushTicket
  rw [hrow]
  dsimp only
  rw [guardScenarioIdentityUpdate_same h]
  rfl

end Store

/-! ## runs -/

open Store

structure Upheld (d : Store) (e : Instant × Command) : Prop where
  unique : ∀ tid, ((step e d).currentRows tid).length ≤ 1
  chained : (step e d).Chained
  contracts : ∀ i a, d.assignments.get? i = some a →
    ∃ a', (step e d).assignments.get? i = some a' ∧ a'.contract = a.contract
  keeps : ∀ tid key, d.currentScenario tid = some key → ¬reclassifies e.2 tid →
    (step e d).currentScenario tid = some key
  named : ∀ tid t old d', e.2 = .updateTicket tid t → d.tickets.get? tid = some old →
    { d with now := e.1 }.updateTicket tid t = .ok d' → ∀ f, t.identity f ≠ old.identity f →
    ∀ key, d.catalog.named (t.identity f) = some key → d'.currentScenario tid = some key
  accepted : ∀ tid t old, e.2 = .updateTicket tid t → d.tickets.get? tid = some old →
    (∀ f, t.identity f = old.identity f) →
    ∃ d', { d with now := e.1 }.updateTicket tid t = .ok d'

/-- an update that leaves the identity fields of an unassigned ticket meets an active catalog in
which they name at most one scenario. -/
def NamesOne (d : Store) (e : Instant × Command) : Prop :=
  ∀ tid t old, e.2 = .updateTicket tid t → d.tickets.get? tid = some old →
    (∀ f, t.identity f = old.identity f) → d.currentRows tid = [] →
    d.catalog.scenarios.all (scenarioIsRuntimeActive · e.1) = true ∧
      ambiguous (candidateMatches t d.catalog) = false

lemma upheld_iff {d : Store} (hd : d.Chained) (e : Instant × Command) :
    Upheld d e ↔ NamesOne d e := by
  constructor
  · intro h tid t old he hrow hsame hcur
    obtain ⟨d', hd'⟩ := h.accepted tid t old he hrow hsame
    rw [updateTicket_same (d := { d with now := e.1 }) hrow hsame] at hd'
    exact (insertAutomaticAssignment_ok_iff (d := { d with
      now := e.1, tickets := d.tickets.set tid t }) hd hcur).1 ⟨d', hd'⟩
  · intro h
    have hstep := step_advances hd e
    refine ⟨?_, hstep.chained, hstep.contracts, hstep.keeps, ?_, ?_⟩
    · intro tid
      rw [hstep.chained.currentRows]
      cases ((step e d).rowsOf tid).getLast? <;> simp
    · intro tid t old d' he hrow hd' f hf key hkey
      unfold updateTicket at hd'
      rw [hrow] at hd'
      exact flushTicket_named (d := { d with now := e.1 }) hd hd' hf hkey
    · intro tid t old he hrow hsame
      rw [updateTicket_same (d := { d with now := e.1 }) hrow hsame]
      by_cases hcur : d.currentRows tid = []
      · exact (insertAutomaticAssignment_ok_iff (d := { d with
          now := e.1, tickets := d.tickets.set tid t }) hd hcur).2 (h tid t old he hrow hsame hcur)
      · exact ⟨_, insertAutomaticAssignment_assigned (d := { d with
          now := e.1, tickets := d.tickets.set tid t }) hcur⟩

def Store.initial (now : Instant) (c : Catalog) : Store := ⟨now, c, .empty, .empty⟩

lemma Store.initial_chained (now : Instant) (c : Catalog) : (Store.initial now c).Chained :=
  fun _ => trivial

theorem assignments_chain_iff (now : Instant) (c : Catalog) (es : List (Instant × Command)) :
    Along step Upheld (Store.initial now c) es ↔ Along step NamesOne (Store.initial now c) es := by
  refine Along.congr (I := Store.Chained) (A := fun _ _ => True) ?_ ?_
    (Store.initial_chained now c) (along_true _ _)
  · intro d e hd _
    exact upheld_iff hd e
  · intro d e hd _ _
    exact (step_advances hd e).chained

/-! ### a ticket older than the catalog -/

def approvedScenario (key : String) : ScenarioDefinition := ⟨key, [], "", ⟨"approved", 0, none⟩⟩

def firstCatalog : Catalog where
  catalogVersion := "v1"
  sourceSha256 := "a1"
  scenarios := [approvedScenario "address_change"]
  nodup_keys := by decide
  names_unique := by decide

def nextCatalog : Catalog where
  catalogVersion := "v2"
  sourceSha256 := "b2"
  scenarios := [approvedScenario "address_change", approvedScenario "lost_parcel",
    approvedScenario "late_parcel"]
  nodup_keys := by decide
  names_unique := by decide

/-- its category and its case type name scenarios that come later. -/
def oldTicket (other : String) : TicketRow where
  identity
    | .caseType => some "lost_parcel"
    | .category => some "late_parcel"
    | _ => none
  createdBy := none
  createdAt := none
  other := other

/-- the priority of the ticket is changed after the new catalog came. -/
theorem priority_edit_refused : ¬Along step Upheld (Store.initial 0 firstCatalog)
    [(1, .insertTicket (oldTicket "low")), (2, .replaceCatalog nextCatalog),
      (3, .updateTicket 1 (oldTicket "high"))] := by
  rintro ⟨-, -, h, -⟩
  obtain ⟨d', hd'⟩ := h.accepted 1 (oldTicket "high") (oldTicket "low") rfl (by rfl) fun _ => rfl
  have hclash : (({ (Store.initial 0 firstCatalog) with
      now := 3, catalog := nextCatalog, tickets := Table.empty.insert (oldTicket "low") } :
      Store).updateTicket 1 (oldTicket "high")).isOk = false := by
    decide +kernel
  change ({ (Store.initial 0 firstCatalog) with
      now := 3, catalog := nextCatalog, tickets := Table.empty.insert (oldTicket "low") } :
      Store).updateTicket 1 (oldTicket "high") = _ at hd'
  rw [hd'] at hclash
  cases hclash

end NexusHelpdesk.Scenario
