import NexusHelpdesk.Sidecar.Registry

/-!
# Desired and running accounts

* `Agrees`: the accounts that are not stopped are those of the connections that are binding or
  active, each under its desired generation;
* `Spares`: the step stops no account of a binding;
* `Orderly`: the steps that keep to both, by the state before them.  The list leaves out the
  connections that are binding, and nothing looks again at what happened while `stop` was awaited;
* `RegistryInv`: the invariant;
* `reconciled`: **in a run of orderly steps no cycle stops the account of a binding, and after two
  cycles without an admin step the accounts agree**;
* `cycle_stops_binding`: a cycle stops the account of a binding.
-/

namespace NexusHelpdesk.Sidecar

open Lib

/-! ## the property -/

def SidecarWorld.Started (w : SidecarWorld) (a : AccountId) : Prop :=
  (w.account a).account.stopped = false

structure Wanted (t : Table SidecarConnection) (i : ℕ) (row : SidecarConnection) : Prop where
  found : t.get? i = some row
  desired : row.desiredState ≠ .disabled

def SidecarConnection.Has (row : SidecarConnection) (a : AccountId) : Prop :=
  assertSafeAccountId row.sidecarSessionKey = .ok a

structure Agrees (w : SidecarWorld) : Prop where
  every : ∀ i row, Wanted w.connections i row → ∃ a, row.Has a ∧ w.Started a ∧
    (w.account a).account.generation = row.desiredGeneration
  only : ∀ a, w.Started a → ∃ i row, Wanted w.connections i row ∧ row.Has a

/-- a binding of the account was started and has not ended. -/
def SidecarWorld.Bound (w : SidecarWorld) (a : AccountId) : Prop :=
  ∃ i row, w.connections.get? i = some row ∧ row.bound = true ∧ row.Has a

def stopsAccount (w : SidecarWorld) : SidecarStep → Option AccountId
  | .reconcile _ i =>
    w.cycle.bind fun c =>
      match c.phase with
      | .stops todo => todo[i]?
      | _ => none
  | _ => none

def Spares (w : SidecarWorld) (s : SidecarStep) : Prop :=
  ∀ a, stopsAccount w s = some a → ¬ w.Bound a

/-! ## the condition -/

def ReconcileCycle.WillStop (c : ReconcileCycle) (a : AccountId) : Prop :=
  match c.phase with
  | .entries _ => c.next.get? a = none
  | .stops todo | .stopping _ todo => a ∈ todo

def SidecarWorld.WillStop (w : SidecarWorld) (a : AccountId) : Prop :=
  ∃ c, w.cycle = some c ∧ c.WillStop a

/-- every connection that is to be started is in the list, under its own generation. -/
structure ListsAll (t : Table SidecarConnection) : Prop where
  active : ∀ i row, Wanted t i row → row.isActive = true
  key : ∀ i row, Wanted t i row → row.sidecarSessionKey ≠ []
  generation : ∀ i j row other a, Wanted t i row → Wanted t j other → row.Has a → other.Has a →
    row.desiredGeneration = other.desiredGeneration

/-- the step of a cycle: no stopped account is passed over, and none that was started again while
`stop` was awaited is forgotten. -/
def OrderlyPhase (w : SidecarWorld) (i : ℕ) : CyclePhase → Prop
  | .entries todo => ∀ a generation, todo[i]? = some (a, generation) →
    w.desiredAccounts.get? a = some generation →
    (w.account a).account.status.status ∈ keptStatuses → w.Started a
  | .stops _ => True
  | .stopping a _ => ¬ w.Started a

def Orderly (w : SidecarWorld) : SidecarStep → Prop
  | .admin (.call worker _ outcome) => ∀ i sessionKey generation a,
    w.requests worker = some (i, .start sessionKey generation) →
    reached sessionKey outcome = some a → ¬ w.WillStop a
  | .admin _ => True
  | .fetch => w.cycle = none → ListsAll w.connections
  | .reconcile _ i => ∀ c, w.cycle = some c → OrderlyPhase w i c.phase
  -- a `restart` goes on only while the registry knows the account
  | .event a _ (.ends j _) => (w.account a).pending[j]? = some .restarting →
    w.desiredAccounts.get? a ≠ none
  | .event _ _ _ => True

/-! ## the list -/

structure Lists (t : Table SidecarConnection) (m : Dir AccountId ℕ) : Prop where
  every : ∀ i row, Wanted t i row → ∃ a, row.Has a ∧ m.get? a = some row.desiredGeneration
  only : ∀ a generation, m.get? a = some generation →
    ∃ i row, Wanted t i row ∧ row.Has a ∧ row.desiredGeneration = generation

lemma parseDesiredAccount_ok {e : Text × ℕ} {r : AccountId × ℕ}
    (h : parseDesiredAccount e = .ok r) : assertSafeAccountId e.1 = .ok r.1 ∧ r.2 = e.2 := by
  unfold parseDesiredAccount at h
  obtain ⟨a, ha, h⟩ := bind_eq_ok.1 h
  split at h
  · cases h
    exact ⟨ha, rfl⟩
  · cases h

lemma has_unique {row : SidecarConnection} {a b : AccountId} (ha : row.Has a) (hb : row.Has b) :
    a = b := by
  unfold SidecarConnection.Has at ha hb
  rw [ha] at hb
  cases hb
  rfl

section List
variable {t : Table SidecarConnection} {accounts : List (AccountId × ℕ)}

lemma mem_desiredAccountList {e : Text × ℕ} : e ∈ desiredAccountList t ↔
    ∃ i row, Wanted t i row ∧ row.isActive = true ∧ row.sidecarSessionKey ≠ [] ∧
      e = (row.sidecarSessionKey, row.desiredGeneration) := by
  have hlisted : ∀ row : SidecarConnection, row.isListed = true ↔
      row.desiredState ≠ .disabled ∧ row.isActive = true := by
    intro row
    unfold SidecarConnection.isListed
    rw [Bool.and_eq_true, decide_eq_true_eq]
    cases row.desiredState <;> simp
  unfold desiredAccountList
  rw [List.map_map, List.mem_map]
  constructor
  · rintro ⟨⟨i, row⟩, hmem, rfl⟩
    obtain ⟨hrow, hp⟩ := t.mem_select.1 hmem
    rw [Bool.and_eq_true, hlisted, decide_eq_true_eq] at hp
    exact ⟨i, row, ⟨hrow, hp.1.1⟩, hp.1.2, hp.2, rfl⟩
  · rintro ⟨i, row, hrow, hactive, hkey, rfl⟩
    refine ⟨(i, row), t.mem_select.2 ⟨hrow.found, ?_⟩, rfl⟩
    rw [Bool.and_eq_true, hlisted, decide_eq_true_eq]
    exact ⟨⟨hrow.desired, hactive⟩, hkey⟩

lemma lists_fetch (hl : ListsAll t) (h : fetchDesiredAccounts t = .ok accounts) :
    Lists t (Dir.ofList accounts) := by
  obtain ⟨hevery, honly⟩ := mem_mapM_ok h
  have hof : ∀ a generation, (a, generation) ∈ accounts →
      ∃ i row, Wanted t i row ∧ row.Has a ∧ row.desiredGeneration = generation := by
    intro a generation hmem
    obtain ⟨e, he, hparse⟩ := honly _ hmem
    obtain ⟨i, row, hrow, -, -, rfl⟩ := mem_desiredAccountList.1 he
    obtain ⟨hhas, hgen⟩ := parseDesiredAccount_ok hparse
    exact ⟨i, row, hrow, hhas, hgen.symm⟩
  constructor
  · intro i row hrow
    have hlist : (row.sidecarSessionKey, row.desiredGeneration) ∈ desiredAccountList t :=
      mem_desiredAccountList.2 ⟨i, row, hrow, hl.active i row hrow, hl.key i row hrow, rfl⟩
    obtain ⟨⟨a, generation⟩, hmem, hparse⟩ := hevery _ hlist
    obtain ⟨hhas, -⟩ := parseDesiredAccount_ok hparse
    obtain ⟨last, hlast⟩ := Option.ne_none_iff_exists'.1 (Dir.get?_ofList_ne_none hmem)
    obtain ⟨j, other, hother, hhas', hgen⟩ := hof a last (Dir.mem_of_get?_ofList hlast)
    refine ⟨a, hhas, ?_⟩
    rw [hlast, ← hgen, hl.generation i j row other a hrow hother hhas hhas']
  · intro a generation hget
    exact hof a generation (Dir.mem_of_get?_ofList hget)

lemma Lists.unique {m m' : Dir AccountId ℕ} (h : Lists t m) (h' : Lists t m') (a : AccountId) :
    m.get? a = m'.get? a := by
  have hsub : ∀ {m m' : Dir AccountId ℕ}, Lists t m → Lists t m' → ∀ generation,
      m.get? a = some generation → m'.get? a = some generation := by
    intro m m' h h' generation hget
    obtain ⟨i, row, hrow, hhas, rfl⟩ := h.only a generation hget
    obtain ⟨b, hb, hget'⟩ := h'.every i row hrow
    rw [has_unique hhas hb]
    exact hget'
  refine Option.ext fun generation => ?_
  exact ⟨hsub h h' generation, hsub h' h generation⟩

end List

/-! ## the invariant -/

def CyclePhase.toApply : CyclePhase → List (AccountId × ℕ)
  | .entries todo => todo
  | _ => []

def CyclePhase.toStop : CyclePhase → List AccountId
  | .entries _ => []
  | .stops todo => todo
  | .stopping a todo => a :: todo

/-- how far a cycle with a list that is not stale has come. -/
structure Progress (w : SidecarWorld) (c : ReconcileCycle) : Prop where
  lists : Lists w.connections c.next
  listed : ∀ a generation, (a, generation) ∈ c.phase.toApply → c.next.get? a = some generation
  applied : ∀ a generation, c.next.get? a = some generation →
    (a, generation) ∈ c.phase.toApply ∨
      w.Started a ∧ w.desiredAccounts.get? a = some generation
  unlisted : ∀ a ∈ c.phase.toStop, c.next.get? a = none
  stopped : (∃ todo, c.phase = .entries todo) ∨ ∀ a, w.desiredAccounts.get? a ≠ none →
    c.next.get? a = none → a ∈ c.phase.toStop

structure Settled (w : SidecarWorld) : Prop where
  lists : Lists w.connections w.desiredAccounts
  started : ∀ a, w.desiredAccounts.get? a ≠ none → w.Started a

structure RegistryCore (w : SidecarWorld) : Prop where
  tidy : ∀ a, Tidy (w.account a)
  tracked : ∀ a, w.Started a → w.desiredAccounts.get? a ≠ none
  generation : ∀ a generation, w.desiredAccounts.get? a = some generation →
    (w.account a).account.generation = generation
  wanted : ∀ i row, w.connections.get? i = some row → row.bound = true →
    row.desiredState ≠ .disabled
  spared : ∀ a, w.Bound a → ¬ w.WillStop a

structure RegistryInv (w : SidecarWorld) : Prop extends RegistryCore w where
  current : ∀ c, w.cycle = some c → 1 ≤ w.cycles → c.fresh = true
  progress : ∀ c, w.cycle = some c → c.fresh = true → Progress w c
  settled : 1 ≤ w.cycles → Settled w

section Inv
variable {cfg : ConnectorConfig} {now : ℕ} {w : SidecarWorld} {d : Connector} {generation : ℕ}
  {t : Table SidecarConnection} {f : SidecarConnection → SidecarConnection} {sessionKey : Text}
  {outcome : CallOutcome} {s : AdminStep}

lemma Settled.agrees (h : Settled w) (hw : RegistryCore w) : Agrees w where
  every := by
    intro i row hrow
    obtain ⟨a, hhas, hget⟩ := h.lists.every i row hrow
    refine ⟨a, hhas, h.started a ?_, hw.generation a _ hget⟩
    rw [hget]
    exact nofun
  only := by
    intro a ha
    obtain ⟨generation, hget⟩ := Option.ne_none_iff_exists'.1 (hw.tracked a ha)
    obtain ⟨i, row, hrow, hhas, -⟩ := h.lists.only a generation hget
    exact ⟨i, row, hrow, hhas⟩

/-! ### the account of one entry -/

lemma setAccount_self (a : AccountId) (d : Connector) : (w.setAccount a d).account a = d :=
  Function.update_self ..

lemma setAccount_of_ne {a b : AccountId} (h : b ≠ a) (d : Connector) :
    (w.setAccount a d).account b = w.account b :=
  Function.update_of_ne h ..

lemma RegistryCore.replace (h : RegistryCore w) (a : AccountId) {desired : Dir AccountId ℕ}
    (hother : ∀ b, b ≠ a → desired.get? b = w.desiredAccounts.get? b) (hd : Tidy d)
    (hg : ∀ n, desired.get? a = some n → d.account.generation = n)
    (ht : d.account.stopped = false → desired.get? a ≠ none) :
    RegistryCore ({ w with desiredAccounts := desired }.setAccount a d) where
  tidy := by
    intro b
    by_cases hb : b = a
    · subst hb
      rw [setAccount_self]
      exact hd
    · rw [setAccount_of_ne hb]
      exact h.tidy b
  tracked := by
    intro b hstarted
    show desired.get? b ≠ none
    unfold SidecarWorld.Started at hstarted
    by_cases hb : b = a
    · subst hb
      rw [setAccount_self] at hstarted
      exact ht hstarted
    · rw [setAccount_of_ne hb] at hstarted
      rw [hother b hb]
      exact h.tracked b hstarted
  generation := by
    intro b n hn
    by_cases hb : b = a
    · subst hb
      rw [setAccount_self]
      exact hg n hn
    · rw [setAccount_of_ne hb]
      refine h.generation b n ?_
      rw [← hother b hb]
      exact hn
  wanted := h.wanted
  spared := h.spared

lemma RegistryCore.write (h : RegistryCore w) (a : AccountId) (hd : Tidy d)
    (hg : d.account.generation = generation) :
    RegistryCore ({ w with
      desiredAccounts := w.desiredAccounts.write a generation }.setAccount a d) := by
  have hself : (w.desiredAccounts.write a generation).get? a = some generation := by
    rw [Dir.get?_write, if_pos rfl]
  refine h.replace a ?_ hd ?_ ?_
  · intro b hb
    rw [Dir.get?_write, if_neg hb]
  · intro n hn
    rw [hself] at hn
    cases hn
    exact hg
  · intro _
    rw [hself]
    exact nofun

lemma RegistryCore.remove (h : RegistryCore w) (a : AccountId) (hd : Tidy d)
    (hs : d.account.stopped = true) :
    RegistryCore ({ w with
      desiredAccounts := w.desiredAccounts.remove a }.setAccount a d) := by
  have hself : (w.desiredAccounts.remove a).get? a = none := by
    rw [Dir.get?_remove, if_pos rfl]
  refine h.replace a ?_ hd ?_ ?_
  · intro b hb
    rw [Dir.get?_remove, if_neg hb]
  · intro n hn
    rw [hself] at hn
    cases hn
  · intro hstarted
    rw [hs] at hstarted
    cases hstarted

/-- the account changes under its generation, and is started only if the registry knows it. -/
lemma RegistryCore.setAccount (h : RegistryCore w) (a : AccountId) (hd : Tidy d)
    (hg : d.account.generation = (w.account a).account.generation)
    (ht : d.account.stopped = false → w.desiredAccounts.get? a ≠ none) :
    RegistryCore (w.setAccount a d) := by
  refine h.replace a (fun b _ => rfl) hd ?_ ht
  intro n hn
  rw [hg]
  exact h.generation a n hn

lemma RegistryCore.start (h : RegistryCore w) (cfg : ConnectorConfig) (now : ℕ) (a : AccountId)
    (n : ℕ) : RegistryCore (registryStart cfg now w a n) :=
  have hstart : StartedUnder n (Sidecar.start cfg now (w.account a) (some n) none) :=
    startedUnder_start (h.tidy a) n
  h.write a hstart.tidy hstart.generation

/-! ### admin steps -/

/-- the connections change, and no binding of another account or another binding shows up. -/
lemma RegistryCore.connections (h : RegistryCore w)
    (ht : ∀ i row, t.get? i = some row → row.bound = true →
      w.connections.get? i = some row ∨
        row.desiredState ≠ .disabled ∧ ∀ a, row.Has a → ¬ w.WillStop a) :
    RegistryCore { w with connections := t } where
  tidy := h.tidy
  tracked := h.tracked
  generation := h.generation
  wanted := by
    intro i row hrow hbound
    rcases ht i row hrow hbound with hold | hnew
    · exact h.wanted i row hold hbound
    · exact hnew.1
  spared := by
    rintro a ⟨i, row, hrow, hbound, hhas⟩
    rcases ht i row hrow hbound with hold | hnew
    · exact h.spared a ⟨i, row, hold, hbound, hhas⟩
    · exact hnew.2 a hhas

lemma RegistryCore.requests (h : RegistryCore w) (r : InHand ℕ (ℕ × InFlight)) :
    RegistryCore { w with requests := r } :=
  ⟨h.tidy, h.tracked, h.generation, h.wanted, h.spared⟩

lemma RegistryCore.beginRequest (h : RegistryCore w) (worker i : ℕ)
    (f : SidecarConnection → InFlight) : RegistryCore (beginRequest w worker i f) := by
  unfold Sidecar.beginRequest
  split
  · exact h
  · exact h.requests _

lemma bound_modify {i : ℕ} (hf : ∀ row, (f row).bound = true → f row = row) {j : ℕ}
    {row : SidecarConnection} (hrow : (t.modify i f).get? j = some row)
    (hbound : row.bound = true) :
    t.get? j = some row := by
  by_cases hj : j = i
  · subst hj
    rw [Table.get?_modify_self] at hrow
    obtain ⟨old, hold, rfl⟩ := Option.map_eq_some_iff.1 hrow
    rw [hold, hf old hbound]
  · rwa [Table.get?_modify_of_ne t f hj] at hrow

lemma RegistryCore.modify (h : RegistryCore w) (i : ℕ)
    (hf : ∀ row, (f row).bound = true → f row = row) :
    RegistryCore { w with connections := w.connections.modify i f } :=
  h.connections fun j row hrow hbound => Or.inl (bound_modify hf hrow hbound)

lemma startBinding_bound (row : SidecarConnection) (h : row.startBinding.bound = true) :
    row.startBinding = row := by
  cases h

lemma logoutPart_bound (read row : SidecarConnection) (h : (read.logoutPart row).bound = true) :
    read.logoutPart row = row := by
  cases h

lemma update_bound (sessionKey : Option (Option Text)) (row : SidecarConnection)
    (h : (row.update sessionKey).bound = true) : row.update sessionKey = row := by
  unfold SidecarConnection.update at h ⊢
  split at h
  · rfl
  · rfl
  · cases h

lemma setDesiredState_bound (active canActivate : Bool) (row : SidecarConnection)
    (h : (row.setDesiredState active canActivate).bound = true) :
    row.setDesiredState active canActivate = row := by
  unfold SidecarConnection.setDesiredState at h ⊢
  split at h
  · rw [if_pos ‹_›]
  · cases h

lemma RegistryCore.create (h : RegistryCore w) (sessionKey : Text) :
    RegistryCore { w with connections := create sessionKey w.connections } := by
  unfold Sidecar.create
  split
  · exact h
  · refine h.connections fun i row hrow hbound => Or.inl ?_
    rw [Table.get?_insert] at hrow
    split at hrow
    · cases hrow
      cases hbound
    · exact hrow

lemma RegistryCore.markBound (h : RegistryCore w) (i : ℕ) {a : AccountId}
    (ha : assertSafeAccountId sessionKey = .ok a) (hw : ¬ w.WillStop a) :
    RegistryCore { w with connections := markBound i sessionKey generation w.connections } := by
  refine h.connections fun j row hrow hbound => ?_
  unfold Sidecar.markBound at hrow
  by_cases hj : j = i
  · subst hj
    rw [Table.get?_modify_self] at hrow
    obtain ⟨old, hold, rfl⟩ := Option.map_eq_some_iff.1 hrow
    dsimp only at hbound
    cases hwas : old.bound with
    | true =>
      refine Or.inl (hold.trans ?_)
      cases old
      cases hwas
      rfl
    | false =>
      rw [hwas, Bool.false_or, decide_eq_true_eq] at hbound
      refine Or.inr ⟨?_, ?_⟩
      · show old.desiredState ≠ .disabled
        rw [hbound.1]
        exact nofun
      intro b hb
      have hab : assertSafeAccountId sessionKey = .ok b := by
        rw [← hbound.2.1]
        exact hb
      rw [ha] at hab
      cases hab
      exact hw
  · rw [Table.get?_modify_of_ne _ _ hj] at hrow
    exact Or.inl hrow

lemma reached_ok {a : AccountId} (h : reached sessionKey outcome = some a) :
    assertSafeAccountId sessionKey = .ok a := by
  unfold reached at h
  split at h
  · cases h
  · cases hs : assertSafeAccountId sessionKey with
    | error e =>
      rw [hs] at h
      cases h
    | ok b =>
      rw [hs] at h
      cases h
      rfl

lemma RegistryCore.call (h : RegistryCore w) {worker : ℕ}
    (hw : Orderly w (.admin (.call worker now outcome))) :
    RegistryCore (call cfg now w worker outcome) := by
  unfold Sidecar.call
  split
  · exact h
  · exact h
  · rename_i i request hlogged hrequest
    split
    · exact h.requests _
    · rename_i a ha
      have hdone := h.requests (w.requests.release worker)
      cases request with
      | start sessionKey generation =>
        have hstart := hdone.start cfg now a generation
        show RegistryCore (ite _ _ _)
        split
        · exact hstart.markBound i (reached_ok ha) (hw i sessionKey generation a hrequest ha)
        · exact hstart
      | restart sessionKey generation =>
        have hrestart := stoppedUnder_restart (h.tidy a) generation
        exact hdone.write a hrestart.tidy hrestart.generation
      | logout read =>
        have hlogout := stoppedUnder_logout (h.tidy a)
        have hgone := hdone.remove a hlogout.tidy hlogout.stopped
        show RegistryCore (ite _ _ _)
        split
        · exact hgone.requests _
        · exact hgone
      | loggedOut read => exact h

lemma RegistryCore.adminPart (h : RegistryCore w) (hw : Orderly w (.admin s)) :
    RegistryCore (adminPart cfg w s) := by
  cases s with
  | create sessionKey => exact h.create sessionKey
  | update i sessionKey => exact h.modify i (update_bound sessionKey)
  | setDesiredState i active canActivate =>
    exact h.modify i (setDesiredState_bound active canActivate)
  | startBinding worker i => exact (h.modify i startBinding_bound).beginRequest worker i _
  | restart worker i => exact h.beginRequest worker i _
  | logout worker i => exact h.beginRequest worker i _
  | call worker now outcome => exact h.call hw
  | logoutPart worker =>
    unfold Sidecar.adminPart
    dsimp only
    split
    · rename_i i read hrequest
      exact (h.modify i (logoutPart_bound read)).requests _
    · exact h

lemma RegistryInv.adminStep (h : RegistryInv w) (hw : Orderly w (.admin s)) :
    RegistryInv (adminStep cfg w s) := by
  have hcore : RegistryCore (Sidecar.adminPart cfg w s) := h.toRegistryCore.adminPart hw
  have hstale : ∀ c, (Sidecar.adminStep cfg w s).cycle = some c → c.fresh = false := by
    intro c hc
    obtain ⟨old, -, rfl⟩ := Option.map_eq_some_iff.1 hc
    rfl
  refine ⟨⟨hcore.tidy, hcore.tracked, hcore.generation, hcore.wanted, ?_⟩, ?_, ?_, nofun⟩
  · rintro a hbound ⟨c, hc, hstop⟩
    obtain ⟨old, hold, rfl⟩ := Option.map_eq_some_iff.1 hc
    exact hcore.spared a hbound ⟨old, hold, hstop⟩
  · intro c hc hcycles
    cases hcycles
  · intro c hc hfresh
    rw [hstale c hc] at hfresh
    cases hfresh

/-! ### cycles -/

lemma RegistryInv.fetch (h : RegistryInv w) (hw : Orderly w .fetch) : RegistryInv (fetch w) := by
  unfold Sidecar.fetch
  split
  · rename_i accounts hidle haccounts
    have hlists := lists_fetch (hw hidle) haccounts
    refine ⟨⟨h.tidy, h.tracked, h.generation, h.wanted, ?_⟩, ?_, ?_, ?_⟩
    · -- a binding is in the list
      rintro a ⟨i, row, hrow, hbound, hhas⟩ ⟨c, hc, hstop⟩
      cases hc
      obtain ⟨b, hb, hget⟩ := hlists.every i row ⟨hrow, h.wanted i row hrow hbound⟩
      cases has_unique hhas hb
      rw [show (Dir.ofList accounts).get? a = none from hstop] at hget
      cases hget
    · intro c hc _
      cases hc
      rfl
    · intro c hc _
      cases hc
      refine ⟨hlists, ?_, ?_, nofun, Or.inl ⟨_, rfl⟩⟩
      · intro a n hmem
        exact (Dir.mem_entries _).1 hmem
      · intro a n hget
        exact Or.inl ((Dir.mem_entries _).2 hget)
    · intro hcycles
      exact ⟨(h.settled hcycles).lists, (h.settled hcycles).started⟩
  · exact h

variable {c : ReconcileCycle} {a : AccountId} {i n : ℕ} {w' : SidecarWorld} {phase : CyclePhase}
  {todo : List (AccountId × ℕ)}

lemma Lists.congr {m m' : Dir AccountId ℕ} (h : Lists t m) (hm : ∀ b, m'.get? b = m.get? b) :
    Lists t m' where
  every := by
    intro i row hrow
    rw [funext hm]
    exact h.every i row hrow
  only := by
    intro b n hget
    rw [hm] at hget
    exact h.only b n hget

lemma RegistryInv.next_eq (h : RegistryInv w) (hc : w.cycle = some c) (hcycles : 1 ≤ w.cycles)
    (b : AccountId) : c.next.get? b = w.desiredAccounts.get? b :=
  (h.progress c hc (h.current c hc hcycles)).lists.unique (h.settled hcycles).lists b

lemma RegistryCore.inPhase (h : RegistryCore w') (hc : w'.cycle = some c)
    (hp : ∀ b, ({ c with phase := phase } : ReconcileCycle).WillStop b → c.WillStop b) :
    RegistryCore (w'.inPhase c phase) where
  tidy := h.tidy
  tracked := h.tracked
  generation := h.generation
  wanted := h.wanted
  spared := by
    rintro b hbound ⟨d, hd, hstop⟩
    cases hd
    exact h.spared b hbound ⟨c, hc, hp b hstop⟩

lemma mem_eraseIdx_or {α : Type} {l : List α} {x : α} (h : x ∈ l) (i : ℕ) :
    x ∈ l.eraseIdx i ∨ l[i]? = some x := by
  obtain ⟨j, hj⟩ := List.mem_iff_getElem?.1 h
  by_cases hji : j = i
  · exact Or.inr (hji ▸ hj)
  · exact Or.inl (List.mem_eraseIdx_iff_getElem?.2 ⟨j, hji, hj⟩)

section
variable (h : RegistryInv w)
include h

lemma RegistryInv.entry (hc : w.cycle = some c) (hphase : c.phase = .entries todo)
    (hi : todo[i]? = some (a, n)) (hcore : RegistryCore w') (hcycle : w'.cycle = w.cycle)
    (hcycles : w'.cycles = w.cycles) (hrows : w'.connections = w.connections)
    (hstarted : w'.Started a) (hdesired : w'.desiredAccounts.get? a = some n)
    (hother : ∀ b, b ≠ a → (w.Started b → w'.Started b) ∧
      w'.desiredAccounts.get? b = w.desiredAccounts.get? b) :
    RegistryInv (w'.inPhase c (.entries (todo.eraseIdx i))) where
  toRegistryCore := by
    refine hcore.inPhase (hcycle.trans hc) ?_
    intro b hb
    unfold ReconcileCycle.WillStop
    rw [hphase]
    exact hb
  current := by
    intro d hd hd'
    cases hd
    exact h.current c hc (hcycles ▸ hd')
  progress := by
    intro d hd hfresh
    cases hd
    have hp := h.progress c hc hfresh
    have hmem : ∀ b m, (b, m) ∈ todo → c.next.get? b = some m := by
      have hlisted := hp.listed
      rw [hphase] at hlisted
      exact hlisted
    refine ⟨?_, ?_, ?_, nofun, Or.inl ⟨_, rfl⟩⟩
    · show Lists w'.connections c.next
      rw [hrows]
      exact hp.lists
    · intro b m hbm
      exact hmem b m (List.mem_of_mem_eraseIdx hbm)
    · intro b m hget
      by_cases hb : b = a
      · subst hb
        have hn := hmem b n (List.mem_of_getElem? hi)
        rw [show c.next.get? b = some m from hget] at hn
        cases hn
        exact Or.inr ⟨hstarted, hdesired⟩
      · rcases hp.applied b m hget with htodo | ⟨hold, hdes⟩
        · rw [hphase] at htodo
          refine Or.inl ((mem_eraseIdx_or htodo i).resolve_right ?_)
          intro hbi
          have hbi' : todo[i]? = some (b, m) := hbi
          rw [hi] at hbi'
          cases hbi'
          exact hb rfl
        · exact Or.inr ⟨(hother b hb).1 hold, (hother b hb).2.trans hdes⟩
  settled := by
    intro hpos
    have hpos' : 1 ≤ w.cycles := hcycles ▸ hpos
    have hs := h.settled hpos'
    have hsame : ∀ b, w'.desiredAccounts.get? b = w.desiredAccounts.get? b := by
      intro b
      by_cases hb : b = a
      · subst hb
        have hp := h.progress c hc (h.current c hc hpos')
        have hlisted := hp.listed
        rw [hphase] at hlisted
        have hn := hlisted b n (List.mem_of_getElem? hi)
        rw [hdesired, ← h.next_eq hc hpos' b, hn]
      · exact (hother b hb).2
    constructor
    · show Lists w'.connections w'.desiredAccounts
      rw [hrows]
      exact hs.lists.congr hsame
    · intro b hb
      by_cases hba : b = a
      · subst hba
        exact hstarted
      · refine (hother b hba).1 (hs.started b ?_)
        rw [← hsame b]
        exact hb

lemma RegistryInv.applyEntry (hc : w.cycle = some c) (hphase : c.phase = .entries todo)
    (hi : todo[i]? = some (a, n)) (hw : OrderlyPhase w i c.phase) :
    RegistryInv ((applyEntry cfg now w a n).inPhase c (.entries (todo.eraseIdx i))) := by
  rw [hphase] at hw
  unfold Sidecar.applyEntry
  split
  · rename_i hskip
    exact h.entry hc hphase hi h.toRegistryCore rfl rfl rfl (hw a n hi hskip.1 hskip.2) hskip.1
      fun b hb => ⟨id, rfl⟩
  · have hstart : StartedUnder n (Sidecar.start cfg now (w.account a) (some n) none) :=
      startedUnder_start (h.tidy a) n
    refine h.entry hc hphase hi (h.toRegistryCore.start cfg now a n) rfl rfl rfl ?_ ?_ ?_
    · show ((registryStart cfg now w a n).account a).account.stopped = false
      unfold registryStart
      rw [setAccount_self]
      exact hstart.started
    · show (w.desiredAccounts.write a n).get? a = some n
      rw [Dir.get?_write, if_pos rfl]
    · intro b hb
      constructor
      · intro hold
        show ((registryStart cfg now w a n).account b).account.stopped = false
        unfold registryStart
        rw [setAccount_of_ne hb]
        exact hold
      · show (w.desiredAccounts.write a n).get? b = _
        rw [Dir.get?_write, if_neg hb]

lemma RegistryInv.leaveOut (hc : w.cycle = some c) (hcore : RegistryCore w')
    (hcycle : w'.cycle = w.cycle) (hcycles : w'.cycles = w.cycles)
    (hrows : w'.connections = w.connections) (ha : a ∈ c.phase.toStop)
    (happly : ∀ todo, c.phase ≠ .entries todo)
    (hother : ∀ b, b ≠ a → (w.Started b → w'.Started b) ∧
      w'.desiredAccounts.get? b = w.desiredAccounts.get? b)
    (hself : w'.desiredAccounts.get? a = w.desiredAccounts.get? a ∧ a ∈ phase.toStop ∨
      w'.desiredAccounts.get? a = none) (hsub : ∀ b ∈ phase.toStop, b ∈ c.phase.toStop)
    (hsup : ∀ b ∈ c.phase.toStop, b ≠ a → b ∈ phase.toStop) (happly' : phase.toApply = [])
    (hwill : ∀ b, ({ c with phase := phase } : ReconcileCycle).WillStop b → c.WillStop b) :
    RegistryInv (w'.inPhase c phase) where
  toRegistryCore := hcore.inPhase (hcycle.trans hc) hwill
  current := by
    intro d hd hd'
    cases hd
    exact h.current c hc (hcycles ▸ hd')
  progress := by
    intro d hd hfresh
    cases hd
    have hp := h.progress c hc hfresh
    have hnone : c.next.get? a = none := hp.unlisted a ha
    refine ⟨?_, ?_, ?_, ?_, Or.inr ?_⟩
    · show Lists w'.connections c.next
      rw [hrows]
      exact hp.lists
    · intro b m hbm
      rw [show phase.toApply = [] from happly'] at hbm
      cases hbm
    · intro b m hget
      have hba : b ≠ a := by
        rintro rfl
        rw [show c.next.get? b = some m from hget] at hnone
        cases hnone
      rcases hp.applied b m hget with htodo | ⟨hold, hdes⟩
      · cases hphase : c.phase with
        | entries todo => exact absurd hphase (happly todo)
        | stops todo => rw [hphase] at htodo; cases htodo
        | stopping x todo => rw [hphase] at htodo; cases htodo
      · exact Or.inr ⟨(hother b hba).1 hold, (hother b hba).2.trans hdes⟩
    · intro b hb
      exact hp.unlisted b (hsub b hb)
    · intro b hdes hget
      by_cases hba : b = a
      · subst hba
        rcases hself with ⟨-, hmem⟩ | hgone
        · exact hmem
        · exact absurd hgone hdes
      · have hdes' : w.desiredAccounts.get? b ≠ none := by
          rw [← (hother b hba).2]
          exact hdes
        rcases hp.stopped with ⟨todo, hphase⟩ | hstopped
        · exact absurd hphase (happly todo)
        · exact hsup b (hstopped b hdes' hget) hba
  settled := by
    intro hpos
    have hpos' : 1 ≤ w.cycles := hcycles ▸ hpos
    have hs := h.settled hpos'
    have hp := h.progress c hc (h.current c hc hpos')
    have hnone : w.desiredAccounts.get? a = none := by
      rw [← h.next_eq hc hpos' a]
      exact hp.unlisted a ha
    have hsame : ∀ b, w'.desiredAccounts.get? b = w.desiredAccounts.get? b := by
      intro b
      by_cases hb : b = a
      · subst hb
        rcases hself with ⟨hself, -⟩ | hgone
        · exact hself
        · rw [hgone, hnone]
      · exact (hother b hb).2
    constructor
    · show Lists w'.connections w'.desiredAccounts
      rw [hrows]
      exact hs.lists.congr hsame
    · intro b hb
      have hb' : w.desiredAccounts.get? b ≠ none := by
        rw [← hsame b]
        exact hb
      have hba : b ≠ a := by
        rintro rfl
        exact hb' hnone
      exact (hother b hba).1 (hs.started b hb')

lemma RegistryInv.finish (hc : w.cycle = some c) (hphase : c.phase = .stops []) :
    RegistryInv { w with cycle := none, cycles := if c.fresh then w.cycles + 1 else w.cycles } where
  tidy := h.tidy
  tracked := h.tracked
  generation := h.generation
  wanted := h.wanted
  spared := by
    rintro b hbound ⟨d, hd, -⟩
    cases hd
  current := nofun
  progress := nofun
  settled := by
    intro hpos
    have hfresh : c.fresh = true := by
      by_contra hstale
      have hpos' : 1 ≤ w.cycles := by
        have hpos'' : 1 ≤ (if c.fresh then w.cycles + 1 else w.cycles) := hpos
        rwa [if_neg hstale] at hpos''
      exact hstale (h.current c hc hpos')
    have hp := h.progress c hc hfresh
    have happlied := hp.applied
    have hstopped := hp.stopped
    rw [hphase] at happlied hstopped
    have hin : ∀ b m, c.next.get? b = some m →
        w.Started b ∧ w.desiredAccounts.get? b = some m := by
      intro b m hget
      exact (happlied b m hget).resolve_left nofun
    have hout : ∀ b, c.next.get? b = none → w.desiredAccounts.get? b = none := by
      intro b hget
      by_contra hdes
      rcases hstopped with ⟨todo, htodo⟩ | hall
      · cases htodo
      · cases hall b hdes hget
    constructor
    · refine hp.lists.congr fun b => ?_
      cases hget : c.next.get? b with
      | none => exact hout b hget
      | some m => exact (hin b m hget).2
    · intro b hdes
      cases hget : c.next.get? b with
      | none => exact absurd (hout b hget) hdes
      | some m => exact (hin b m hget).1

lemma RegistryInv.turn (hc : w.cycle = some c) (hphase : c.phase = .entries []) :
    RegistryInv (w.inPhase c
      (.stops (w.desiredAccounts.names.filter fun b => c.next.get? b = none))) where
  toRegistryCore := by
    refine h.toRegistryCore.inPhase hc ?_
    intro b hb
    have hmem : b ∈ w.desiredAccounts.names.filter fun b => c.next.get? b = none := hb
    rw [List.mem_filter, decide_eq_true_eq] at hmem
    unfold ReconcileCycle.WillStop
    rw [hphase]
    exact hmem.2
  current := by
    intro d hd hpos
    cases hd
    exact h.current c hc hpos
  progress := by
    intro d hd hfresh
    cases hd
    have hp := h.progress c hc hfresh
    refine ⟨hp.lists, nofun, ?_, ?_, Or.inr ?_⟩
    · intro b m hget
      have happlied := hp.applied b m hget
      rw [hphase] at happlied
      exact Or.inr (happlied.resolve_left nofun)
    · intro b hb
      have hmem : b ∈ w.desiredAccounts.names.filter fun b => c.next.get? b = none := hb
      rw [List.mem_filter, decide_eq_true_eq] at hmem
      exact hmem.2
    · intro b hdes hget
      show b ∈ w.desiredAccounts.names.filter fun b => c.next.get? b = none
      rw [List.mem_filter, decide_eq_true_eq]
      exact ⟨(Dir.mem_names _).2 hdes, hget⟩
  settled := fun hpos => ⟨(h.settled hpos).lists, (h.settled hpos).started⟩

/-- `connector.stop` of an account that the list leaves out. -/
lemma RegistryInv.stopOne {todo : List AccountId} (hc : w.cycle = some c)
    (hphase : c.phase = .stops todo) (hi : todo[i]? = some a) :
    RegistryInv ((w.setAccount a (stop (w.account a))).inPhase c
      (.stopping a (todo.eraseIdx i))) := by
  have hstop := stoppedUnder_stop (h.tidy a)
  have hmem : a ∈ todo := List.mem_of_getElem? hi
  have hcore : RegistryCore (w.setAccount a (stop (w.account a))) := by
    refine h.toRegistryCore.setAccount a hstop.tidy hstop.generation ?_
    intro hstarted
    rw [hstop.stopped] at hstarted
    cases hstarted
  have herase : ∀ b ∈ todo.eraseIdx i, b ∈ todo := fun b hb => List.mem_of_mem_eraseIdx hb
  refine h.leaveOut hc hcore rfl rfl rfl (a := a) ?_ ?_ ?_ (Or.inl ⟨rfl, List.mem_cons_self ..⟩)
    ?_ ?_ rfl ?_
  · rw [hphase]
    exact hmem
  · rw [hphase]
    exact nofun
  · intro b hb
    refine ⟨?_, rfl⟩
    intro hold
    unfold SidecarWorld.Started
    rw [setAccount_of_ne hb]
    exact hold
  · intro b hb
    rw [hphase]
    rcases List.mem_cons.1 hb with rfl | hb
    · exact hmem
    · exact herase b hb
  · intro b hb hba
    rw [hphase] at hb
    refine List.mem_cons_of_mem _ ((mem_eraseIdx_or hb i).resolve_right ?_)
    intro hbi
    have hbi' : todo[i]? = some b := hbi
    rw [hi] at hbi'
    cases hbi'
    exact hba rfl
  · intro b hb
    unfold ReconcileCycle.WillStop
    rw [hphase]
    exact herase b hb

lemma RegistryInv.forget {todo : List AccountId} (hc : w.cycle = some c)
    (hphase : c.phase = .stopping a todo) (hw : ¬ w.Started a) :
    RegistryInv ({ w with desiredAccounts := w.desiredAccounts.remove a }.inPhase c
      (.stops todo)) := by
  have hstopped : (w.account a).account.stopped = true := Bool.eq_true_of_not_eq_false hw
  have hcore := h.toRegistryCore.remove a (h.tidy a) hstopped
  have hsame : ({ w with desiredAccounts := w.desiredAccounts.remove a }.setAccount a
      (w.account a)) = { w with desiredAccounts := w.desiredAccounts.remove a } := by
    unfold SidecarWorld.setAccount
    rw [Function.update_eq_self]
  rw [hsame] at hcore
  refine h.leaveOut hc hcore rfl rfl rfl (a := a) ?_ ?_ ?_ (Or.inr ?_) ?_ ?_ rfl ?_
  · rw [hphase]
    exact List.mem_cons_self ..
  · rw [hphase]
    exact nofun
  · intro b hb
    refine ⟨id, ?_⟩
    show (w.desiredAccounts.remove a).get? b = _
    rw [Dir.get?_remove, if_neg hb]
  · show (w.desiredAccounts.remove a).get? a = none
    rw [Dir.get?_remove, if_pos rfl]
  · intro b hb
    rw [hphase]
    exact List.mem_cons_of_mem _ hb
  · intro b hb hba
    rw [hphase] at hb
    exact (List.mem_cons.1 hb).resolve_left hba
  · intro b hb
    unfold ReconcileCycle.WillStop
    rw [hphase]
    exact hb

lemma RegistryInv.reconcile (hc : w.cycle = some c) (hw : OrderlyPhase w i c.phase) :
    RegistryInv (reconcile cfg now w c i) := by
  unfold Sidecar.reconcile
  split
  · rename_i hphase
    exact h.turn hc hphase
  · rename_i todo hne hphase
    split
    · exact h
    · rename_i a n hi
      exact h.applyEntry hc hphase hi hw
  · rename_i hphase
    exact h.finish hc hphase
  · rename_i todo hne hphase
    split
    · exact h
    · rename_i a hi
      exact h.stopOne hc hphase hi
  · rename_i a todo hphase
    rw [hphase] at hw
    exact h.forget hc hphase hw

lemma RegistryInv.event {e : ConnectorEvent} (he : e.isCall = false)
    (hw : Restarts (w.account a) e → w.desiredAccounts.get? a ≠ none) :
    RegistryInv (w.setAccount a (step cfg (now, e) (w.account a))) := by
  have hgoes : Goes (w.account a) (step cfg (now, e) (w.account a)) (Restarts (w.account a) e) :=
    goes_step (h.tidy a) he
  have hgen : (step cfg (now, e) (w.account a)).account.generation =
      (w.account a).account.generation := hgoes.generation
  have htidy : Tidy (step cfg (now, e) (w.account a)) := hgoes.tidy (h.tidy a)
  have hkept : w.Started a → (step cfg (now, e) (w.account a)).account.stopped = false := by
    intro hold
    rcases hgoes with hsteady | ⟨-, hstarted⟩
    · exact hsteady.stopped.trans hold
    · exact hstarted.started
  have hknown : (step cfg (now, e) (w.account a)).account.stopped = false →
      w.desiredAccounts.get? a ≠ none := by
    intro hnow
    rcases hgoes with hsteady | ⟨hold | hrestarts, -⟩
    · exact h.tracked a (hsteady.stopped.symm.trans hnow)
    · exact h.tracked a hold
    · exact hw hrestarts
  have hall : ∀ b, w.Started b → (w.setAccount a (step cfg (now, e) (w.account a))).Started b := by
    intro b hold
    unfold SidecarWorld.Started
    by_cases hb : b = a
    · subst hb
      rw [setAccount_self]
      exact hkept hold
    · rw [setAccount_of_ne hb]
      exact hold
  refine ⟨h.toRegistryCore.setAccount a htidy hgen hknown, h.current, ?_, ?_⟩
  · intro c hc hfresh
    have hp := h.progress c hc hfresh
    refine ⟨hp.lists, hp.listed, ?_, hp.unlisted, hp.stopped⟩
    intro b m hget
    exact (hp.applied b m hget).imp_right fun hb => ⟨hall b hb.1, hb.2⟩
  · intro hpos
    exact ⟨(h.settled hpos).lists, fun b hb => hall b ((h.settled hpos).started b hb)⟩

lemma registryInv_step {s : SidecarStep} (hw : Orderly w s) :
    RegistryInv (sidecarStep cfg s w) := by
  cases s with
  | admin s => exact h.adminStep hw
  | fetch => exact h.fetch hw
  | reconcile now i =>
    cases hc : w.cycle with
    | none =>
      simp only [sidecarStep, hc]
      exact h
    | some c =>
      simp only [sidecarStep, hc]
      exact h.reconcile hc (hw c hc)
  | event a now e =>
    cases he : e.isCall with
    | true =>
      simp only [sidecarStep, he, if_true]
      exact h
    | false =>
      simp only [sidecarStep, he, Bool.false_eq_true, if_false]
      refine h.event he ?_
      rintro ⟨j, o, rfl, hj⟩
      exact hw hj

end

lemma registryInv_initial
    (files : AccountId → Bool × Option OwnerLease × (Text → Option SendRecord)) :
    RegistryInv (SidecarWorld.initial files) where
  tidy := by
    intro a
    refine ⟨?_, ?_⟩
    · intro h
      cases h
    · intro f hf
      cases hf
  tracked := by
    intro a h
    cases h
  generation := by
    intro a n h
    cases h
  wanted := by
    intro i row hrow
    cases hrow
  spared := by
    rintro a ⟨i, row, hrow, -⟩
    cases hrow
  current := by
    intro c hc
    cases hc
  progress := by
    intro c hc
    cases hc
  settled := by
    intro hpos
    cases hpos

lemma RegistryInv.spares (h : RegistryInv w) (s : SidecarStep) : Spares w s := by
  intro a ha hbound
  refine h.spared a hbound ?_
  cases s with
  | reconcile now i =>
    obtain ⟨c, hc, hstop⟩ := Option.bind_eq_some_iff.1 ha
    refine ⟨c, hc, ?_⟩
    unfold ReconcileCycle.WillStop
    split at hstop
    · rename_i todo hphase
      rw [hphase]
      exact List.mem_of_getElem? hstop
    · cases hstop
  | admin s => cases ha
  | fetch => cases ha
  | event b now e => cases ha

end Inv

theorem reconciled (cfg : ConnectorConfig)
    (files : AccountId → Bool × Option OwnerLease × (Text → Option SendRecord))
    (l : List SidecarStep) (h : Along (sidecarStep cfg) Orderly (SidecarWorld.initial files) l) :
    Along (sidecarStep cfg) Spares (SidecarWorld.initial files) l ∧
      ∀ p, p <+: l → 2 ≤ (run (sidecarStep cfg) (SidecarWorld.initial files) p).cycles →
        Agrees (run (sidecarStep cfg) (SidecarWorld.initial files) p) := by
  have hinit := registryInv_initial files
  have hstep : ∀ w s, RegistryInv w → Orderly w s → RegistryInv (sidecarStep cfg s w) :=
    fun w s hw hs => registryInv_step hw hs
  constructor
  · exact h.imp hstep (fun w s hw _ => hw.spares s) hinit
  · rintro p ⟨q, rfl⟩ hcycles
    have hp := ((along_append _ p q).1 h).1
    have hinv := hp.invariant hstep hinit
    exact (hinv.settled (by omega)).agrees hinv.toRegistryCore

/-! ## two runs -/

def emptyDisk : AccountId → Bool × Option OwnerLease × (Text → Option SendRecord) :=
  fun _ => (false, none, fun _ => none)

def accountA : AccountId := ⟨"a".toList, rfl⟩

def oneCycle : List SidecarStep := [.fetch, .reconcile 0 0, .reconcile 0 0, .reconcile 0 0]

/-- the connection `1` is activated, and two cycles follow. -/
def activeRun : List SidecarStep :=
  [.admin (.create "a".toList), .admin (.setDesiredState 1 true true)] ++ oneCycle ++ oneCycle

lemma listsAll_one {t : Table SidecarConnection} {row : SidecarConnection}
    (h : ∀ i r, t.get? i = some r → i = 1 ∧ r = row) (ha : row.isActive = true)
    (hk : row.sidecarSessionKey ≠ []) : ListsAll t where
  active := by
    intro i r hr
    rw [(h i r hr.found).2]
    exact ha
  key := by
    intro i r hr
    rw [(h i r hr.found).2]
    exact hk
  generation := by
    intro i j r other a hr hother _ _
    rw [(h i r hr.found).2, (h j other hother.found).2]

lemma one_row (i : ℕ) (r : SidecarConnection)
    (h : ((create "a".toList Table.empty).modify 1 (·.setDesiredState true true)).get? i = some r) :
    i = 1 ∧ r = ⟨"a".toList, .active, 1, true, false⟩ := by
  by_cases hi : i = 1
  · subst hi
    cases h
    exact ⟨rfl, rfl⟩
  · rw [Table.get?_modify_of_ne _ _ hi] at h
    have hnone : (create "a".toList Table.empty).get? i = none :=
      (Table.get?_insert_of_ne _ _ hi).trans rfl
    rw [hnone] at h
    cases h

/-- two cycles start and keep the account of an active connection. -/
theorem active_account_runs :
    2 ≤ (run (sidecarStep registryConfig) (SidecarWorld.initial emptyDisk) activeRun).cycles ∧
      Agrees (run (sidecarStep registryConfig) (SidecarWorld.initial emptyDisk) activeRun) := by
  have hcycles : 2 ≤
      (run (sidecarStep registryConfig) (SidecarWorld.initial emptyDisk) activeRun).cycles := by
    decide
  refine ⟨hcycles, (reconciled registryConfig emptyDisk activeRun ?_).2 activeRun
    (List.prefix_refl _) hcycles⟩
  have hlists := listsAll_one one_row rfl (by decide)
  refine ⟨trivial, trivial, fun _ => hlists, ?_, ?_, ?_, fun _ => hlists, ?_, ?_, ?_, trivial⟩
  · intro c hc
    cases hc
    intro a n hi hget
    cases hget
  · intro c hc
    cases hc
    intro a n hi
    cases hi
  · intro c hc
    cases hc
    trivial
  · intro c hc
    cases hc
    intro a n hi _ _
    cases hi
    rfl
  · intro c hc
    cases hc
    intro a n hi
    cases hi
  · intro c hc
    cases hc
    trivial

def bindingRun : List SidecarStep :=
  [.admin (.create "a".toList), .admin (.startBinding 0 1), .admin (.call 0 0 .answered)]

theorem cycle_stops_binding :
    (∃ a, stopsAccount (run (sidecarStep registryConfig) (SidecarWorld.initial emptyDisk)
        (bindingRun ++ [.fetch, .reconcile 0 0])) (.reconcile 0 0) = some a ∧
      (run (sidecarStep registryConfig) (SidecarWorld.initial emptyDisk)
        (bindingRun ++ [.fetch, .reconcile 0 0])).Bound a) ∧
    2 ≤ (run (sidecarStep registryConfig) (SidecarWorld.initial emptyDisk)
      (bindingRun ++ oneCycle ++ [.reconcile 0 0] ++ oneCycle)).cycles ∧
    ¬ Agrees (run (sidecarStep registryConfig) (SidecarWorld.initial emptyDisk)
      (bindingRun ++ oneCycle ++ [.reconcile 0 0] ++ oneCycle)) := by
  refine ⟨⟨accountA, rfl, 1, ⟨"a".toList, .binding, 1, false, true⟩, rfl, rfl, rfl⟩, by decide, ?_⟩
  intro h
  obtain ⟨a, hhas, hstarted, -⟩ :=
    h.every 1 ⟨"a".toList, .binding, 1, false, true⟩ ⟨rfl, nofun⟩
  cases has_unique hhas (b := accountA) rfl
  cases hstarted

end NexusHelpdesk.Sidecar
