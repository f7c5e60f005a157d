import NexusHelpdesk.Sidecar.Observed

/-!
# Activation and readiness

* `Right`: an activation takes effect with the next cycle and its callbacks, the observed side is
  current when nothing is under way, and a ready connection was tested since its last change;
* `Meets`: the steps that keep to it, by the state before them.  An answer that comes late is
  written over what callbacks have brought since, and a test that began before a change of the
  configuration still counts;
* `ReadinessInv`: the invariant;
* `activation_takes_effect`: **a run of such steps is right in all its states, if the row that is
  created has the state of its transport, and finitely many automatic steps bring an activation into
  effect**;
* `activated_meta_not_ready`: a Meta connection that is activated does not become ready.
-/

namespace NexusHelpdesk.Sidecar

open Lib

/-! ## the property -/

def Observed.Live (o : Observed) : Prop :=
  o.state = .connected ∧ o.authentication = .linked ∧ o.listener = .active

structure Right (w : ReadinessWorld) : Prop where
  effect : w.activated = true → w.cycled = true → w.account.callbacks = [] → w.latest.Live →
    w.row.Ready
  current : (∀ worker, w.requests worker = none) → w.account.callbacks = [] →
    w.row.observed = w.latest
  tested : w.row.Ready → w.inbound = true ∧ w.outbound = true

def TakesEffect (cfg : ConnectorConfig) (w : ReadinessWorld) : Prop :=
  w.activated = true → ∃ q : List ReadinessStep, (∀ s ∈ q, s.isAutomatic = true) ∧
    ((run (readinessStep cfg) w q).latest.Live → (run (readinessStep cfg) w q).row.Ready)

/-- each column that the answer changes in the copy gets the value of the latest state. -/
structure Timely (seen read latest : Observed) : Prop where
  state : seen.state = read.state ∨ seen.state = latest.state
  authentication : seen.authentication = read.authentication ∨
    seen.authentication = latest.authentication
  listener : seen.listener = read.listener ∨ seen.listener = latest.listener
  generation : seen.generation = read.generation ∨ seen.generation = latest.generation

/-- no test was recorded since the copy was loaded. -/
structure SameTests (read row : WhatsAppConnection) : Prop where
  inbound : read.inboundTestedAt = row.inboundTestedAt
  outbound : read.outboundTestedAt = row.outboundTestedAt
  verified : read.verificationState = row.verificationState

def Meets (w : ReadinessWorld) : ReadinessStep → Prop
  | .update (some account) => account.callbacks = [] → w.row.observed = account.status.observed
  | .apply worker => ∀ kind seen read, w.requests worker = some ⟨kind, .answered seen, read⟩ →
    (w.account.callbacks = [] → Timely seen read.observed w.latest) ∧
      (kind = .logout → SameTests read w.row)
  | .recordTest worker _ => ∀ read version, w.tests worker = some (read, version) →
    version = w.version
  | _ => True

/-! ## the invariant -/

def Current (w : ReadinessWorld) : Prop :=
  w.account.callbacks = [] → w.row.observed = w.account.status.observed

structure TestedInv (w : ReadinessWorld) : Prop where
  inbound : w.row.inboundTestedAt ≠ none → w.inbound = true
  outbound : w.row.outboundTestedAt ≠ none → w.outbound = true
  verified : w.row.verificationState = .verified → w.inbound = true ∧ w.outbound = true
  tests : ∀ worker read version, w.tests worker = some (read, version) →
    version ≤ w.version ∧ (version = w.version → read.inboundTestedAt ≠ none → w.inbound = true)

def ReadinessWorld.Applied (w : ReadinessWorld) : Prop :=
  w.account.connector.account.generation = w.row.desiredGeneration

structure ActiveInv (w : ReadinessWorld) : Prop where
  active : w.activated = true →
    w.row.desiredState = .active ∧ w.row.isActive = true ∧ w.row.verificationState = .verified
  fresh : w.cycled = true → ∀ c, w.cycle = some c → c.fresh = true
  listed : ∀ c, w.cycle = some c → c.fresh = true → w.activated = true →
    c.listed = some w.row.desiredGeneration ∧ (c.phase ≠ .entry → w.Applied)
  cycled : w.cycled = true → w.activated = true → w.Applied

structure ReadinessInv (w : ReadinessWorld) : Prop where
  transport : w.transport = .baileysSidecar
  current : Current w
  tested : TestedInv w
  active : ActiveInv w

section Inv
variable {cfg : ConnectorConfig} {now : ℕ} {w : ReadinessWorld} {a : SidecarAccount}

lemma ReadinessInv.latest (h : ReadinessInv w) : w.latest = w.account.status.observed := by
  unfold ReadinessWorld.latest ReadinessWorld.seen
  rw [h.transport]

lemma ReadinessInv.right (h : ReadinessInv w) : Right w where
  effect := by
    intro hactivated hcycled hidle hlive
    obtain ⟨hdesired, hactive, hverified⟩ := h.active.active hactivated
    have hobserved := h.current hidle
    rw [h.latest, ← hobserved] at hlive
    refine ⟨hactive, hdesired, hlive.1, hlive.2.1, hlive.2.2, hverified, ?_⟩
    have happlied : w.account.connector.account.generation = w.row.desiredGeneration :=
      h.active.cycled hcycled hactivated
    rw [hobserved, ← happlied]
    exact w.account.synced
  current := by
    intro _ hidle
    rw [h.latest]
    exact h.current hidle
  tested := fun hready => h.tested.verified hready.verified

/-! ### the account -/

section Account
variable {a : SidecarAccount}

lemma status_become {d : Connector} {tracked : Option ℕ} {again : Bool} {ht : Tidy d}
    {hs : Synced d} {hk : ∀ n, tracked = some n → d.account.generation = n}
    (h : (a.become d tracked again ht hs hk).callbacks = []) :
    a.callbacks = [] ∧ (a.become d tracked again ht hs hk).status = a.status := by
  change emitted a.callbacks a.status d.account.status again = [] at h
  unfold emitted at h
  split at h
  · exact absurd h (List.append_ne_nil_of_right_ne_nil _ (List.cons_ne_nil _ _))
  · rename_i hsame
    rw [not_or, not_not] at hsame
    exact ⟨h, hsame.2⟩

lemma status_applyEntry {n : ℕ} (h : (a.applyEntry cfg now n).callbacks = []) :
    a.callbacks = [] ∧ (a.applyEntry cfg now n).status = a.status := by
  unfold SidecarAccount.applyEntry at h ⊢
  split
  · rename_i hskip
    rw [if_pos hskip] at h
    exact ⟨h, rfl⟩
  · rename_i hskip
    rw [if_neg hskip] at h
    exact status_become h

lemma status_event {e : ConnectorEvent} {again : Bool}
    (h : (a.event cfg now e again).callbacks = []) :
    a.callbacks = [] ∧ (a.event cfg now e again).status = a.status := by
  unfold SidecarAccount.event at h ⊢
  split
  · rename_i he
    rw [dif_pos he] at h
    exact status_become h
  · rename_i he
    rw [dif_neg he] at h
    exact ⟨h, rfl⟩

lemma generation_event (e : ConnectorEvent) (again : Bool) :
    (a.event cfg now e again).connector.account.generation = a.connector.account.generation := by
  unfold SidecarAccount.event
  split
  · rename_i he
    exact (goes_step a.tidy he).generation
  · rfl

lemma generation_applyEntry (n : ℕ) :
    (a.applyEntry cfg now n).connector.account.generation = n := by
  unfold SidecarAccount.applyEntry
  split
  · rename_i hskip
    exact a.known n hskip.1
  · exact (startedUnder_start a.tidy n).generation

end Account

lemma Current.account (h : Current w)
    (ha : a.callbacks = [] → w.account.callbacks = [] ∧ a.status = w.account.status) :
    Current { w with account := a } := by
  intro hidle
  obtain ⟨hold, hstatus⟩ := ha hidle
  show w.row.observed = a.status.observed
  rw [hstatus]
  exact h hold

/-! ### admin steps -/

lemma activeInv_outdate : ActiveInv w.outdate where
  active := nofun
  fresh := nofun
  listed := by
    intro c hc hfresh hactivated
    cases hactivated
  cycled := nofun

lemma ReadinessInv.outdate (ht : w.transport = .baileysSidecar) (hc : Current w)
    (htested : TestedInv w) : ReadinessInv w.outdate :=
  ⟨ht, hc, ⟨htested.inbound, htested.outbound, htested.verified, htested.tests⟩,
    activeInv_outdate⟩

lemma TestedInv.reconfigure (h : TestedInv w) {row : WhatsAppConnection}
    {r : InHand ℕ TransportRequest} (hin : row.inboundTestedAt = none)
    (hout : row.outboundTestedAt = none) (hver : row.verificationState = .pending) :
    TestedInv ({ w with row := row, account := a, requests := r }.reconfigure) where
  inbound := fun hne => absurd hin hne
  outbound := fun hne => absurd hout hne
  verified := by
    intro hv
    have hv' : row.verificationState = .verified := hv
    rw [hver] at hv'
    cases hv'
  tests := by
    intro worker read version hread
    have hle := (h.tests worker read version hread).1
    show version ≤ w.version + 1 ∧ (version = w.version + 1 → _)
    refine ⟨by omega, ?_⟩
    intro heq
    omega

lemma TestedInv.row (h : TestedInv w) {row : WhatsAppConnection}
    (hin : row.inboundTestedAt = w.row.inboundTestedAt)
    (hout : row.outboundTestedAt = w.row.outboundTestedAt)
    (hver : row.verificationState = w.row.verificationState) :
    TestedInv { w with row := row } where
  inbound := by
    show row.inboundTestedAt ≠ none → _
    rw [hin]
    exact h.inbound
  outbound := by
    show row.outboundTestedAt ≠ none → _
    rw [hout]
    exact h.outbound
  verified := by
    show row.verificationState = .verified → _
    rw [hver]
    exact h.verified
  tests := h.tests

lemma ReadinessInv.update (h : ReadinessInv w) {rekey : Option SidecarAccount}
    (hw : Meets w (.update rekey)) : ReadinessInv (updateConnection w rekey) := by
  refine ReadinessInv.outdate h.transport ?_ (h.tested.reconfigure (r := w.requests) rfl rfl rfl)
  cases rekey with
  | none => exact h.current
  | some account => exact hw

lemma setDesiredState_ok {active : Bool} {row row' : WhatsAppConnection}
    (h : row.setDesiredState active = .ok row') :
    (active = true → row.verificationState = .verified) ∧
      row'.desiredState = (if active then .active else .disabled) ∧ row'.isActive = active ∧
      row'.observed = row.observed ∧ row'.verificationState = row.verificationState ∧
      row'.inboundTestedAt = row.inboundTestedAt ∧
      row'.outboundTestedAt = row.outboundTestedAt := by
  unfold WhatsAppConnection.setDesiredState at h
  cases active with
  | false =>
    cases h
    exact ⟨nofun, rfl, rfl, rfl, rfl, rfl, rfl⟩
  | true =>
    obtain ⟨u, hassert, h⟩ := bind_eq_ok.1 h
    cases h
    refine ⟨fun _ => ?_, rfl, rfl, rfl, rfl, rfl, rfl⟩
    unfold WhatsAppConnection.assertCanActivate at hassert
    split at hassert
    · cases hassert
    · rename_i hverified
      exact not_not.1 hverified

lemma ReadinessInv.activate (h : ReadinessInv w) (active : Bool) :
    ReadinessInv (activate w active) := by
  unfold Sidecar.activate
  split
  · exact h
  · rename_i row hrow
    obtain ⟨hwas, hdesired, hactive, hobserved, hver, hin, hout⟩ := setDesiredState_ok hrow
    refine ⟨h.transport, ?_, ?_, ?_⟩
    · intro hidle
      show row.observed = _
      rw [hobserved]
      exact h.current hidle
    · have htested := h.tested.row hin hout hver
      exact ⟨htested.inbound, htested.outbound, htested.verified, htested.tests⟩
    · refine ⟨?_, nofun, ?_, nofun⟩
      · intro hactivated
        have hactive' : active = true := hactivated
        subst hactive'
        exact ⟨hdesired, hactive, hver.trans (hwas rfl)⟩
      · intro c hc hfresh
        obtain ⟨old, -, rfl⟩ := Option.map_eq_some_iff.1 hc
        cases hfresh

/-! ### requests -/

lemma ReadinessInv.requests (h : ReadinessInv w) (r : InHand ℕ TransportRequest) :
    ReadinessInv { w with requests := r } :=
  ⟨h.transport, h.current, ⟨h.tested.inbound, h.tested.outbound, h.tested.verified, h.tested.tests⟩,
    ⟨h.active.active, h.active.fresh, h.active.listed, h.active.cycled⟩⟩

lemma ReadinessInv.beginTransport (h : ReadinessInv w) (worker : ℕ) (kind : RequestKind) :
    ReadinessInv (beginTransport w worker kind) := by
  have hloaded : ∀ k, ReadinessInv
      { w with requests := w.requests.take worker ⟨k, .loaded, w.row⟩ }.outdate := by
    intro k
    have hr := h.requests (w.requests.take worker ⟨k, .loaded, w.row⟩)
    exact ReadinessInv.outdate hr.transport hr.current hr.tested
  cases kind with
  | probe => exact h.requests _
  | binding =>
    exact ReadinessInv.outdate h.transport h.current
      (h.tested.reconfigure (a := w.account) rfl rfl rfl)
  | restart => exact hloaded .restart
  | logout => exact hloaded .logout

lemma status_calledAccount {r : TransportRequest} (h : (calledAccount cfg now w r).callbacks = []) :
    w.account.callbacks = [] ∧ (calledAccount cfg now w r).status = w.account.status := by
  unfold calledAccount at h ⊢
  split at h
  · exact status_become h
  · exact status_become h
  · exact status_become h
  · exact ⟨h, rfl⟩

lemma ReadinessInv.callTransport (h : ReadinessInv w) (worker : ℕ) :
    ReadinessInv (callTransport cfg now w worker) := by
  unfold Sidecar.callTransport
  split
  · rename_i kind read hrequest
    have hr := h.requests (w.requests.take worker ⟨kind, .called, read⟩)
    have hcurrent := hr.current.account
      (a := calledAccount cfg now w ⟨kind, .loaded, read⟩) status_calledAccount
    exact ReadinessInv.outdate h.transport hcurrent
      ⟨h.tested.inbound, h.tested.outbound, h.tested.verified, h.tested.tests⟩
  · exact h

lemma ReadinessInv.answerTransport (h : ReadinessInv w) (worker : ℕ) :
    ReadinessInv (answerTransport w worker) := by
  unfold Sidecar.answerTransport
  split
  · exact h.requests _
  · exact h

section Flush
variable {α : Type} [DecidableEq α]

lemma changed_self (read stored : α) : changed read read stored = stored := changed_of_eq rfl

lemma changed_latest {read new latest : α} (h : new = read ∨ new = latest) :
    changed read new latest = latest := by
  unfold changed
  split
  · rfl
  · rename_i hne
    exact h.resolve_left hne

end Flush

variable {read : WhatsAppConnection} {seen : Observed} {worker : ℕ} {c : AccountCycle}
  {s : ReadinessStep}

lemma flush_observed {new row : WhatsAppConnection} {latest : Observed}
    (hnew : new.observed = seen) (hrow : row.observed = latest)
    (h : Timely seen read.observed latest) :
    (WhatsAppConnection.flush read new row).observed = latest := by
  subst hnew hrow
  unfold WhatsAppConnection.flush
  show Observed.mk _ _ _ _ = row.observed
  rw [changed_latest h.state, changed_latest h.authentication, changed_latest h.listener,
    changed_latest h.generation]

lemma ReadinessInv.applied (h : ReadinessInv w) (worker : ℕ) (kind : RequestKind)
    (hw : w.account.callbacks = [] → Timely seen read.observed w.latest) :
    Current { w with
      row := WhatsAppConnection.flush read
        (TransportRequest.outcome w.transport ⟨kind, .answered seen, read⟩ seen) w.row
      requests := w.requests.release worker } := by
  intro hidle
  have htimely := hw hidle
  rw [h.latest] at htimely
  refine flush_observed ?_ (h.current hidle) htimely
  rw [h.transport]
  cases kind <;> rfl

lemma ReadinessInv.observe (h : ReadinessInv w) {new : WhatsAppConnection}
    (hnew : new = { read with observed := seen })
    (hc : Current { w with
      row := WhatsAppConnection.flush read new w.row
      requests := w.requests.release worker }) :
    ReadinessInv { w with
      row := WhatsAppConnection.flush read new w.row
      requests := w.requests.release worker } := by
  subst hnew
  have hin : (WhatsAppConnection.flush read { read with observed := seen } w.row).inboundTestedAt =
      w.row.inboundTestedAt := changed_self ..
  have hout :
      (WhatsAppConnection.flush read { read with observed := seen } w.row).outboundTestedAt =
        w.row.outboundTestedAt := changed_self ..
  have hver :
      (WhatsAppConnection.flush read { read with observed := seen } w.row).verificationState =
        w.row.verificationState := changed_self ..
  have hdesired :
      (WhatsAppConnection.flush read { read with observed := seen } w.row).desiredState =
        w.row.desiredState := changed_self ..
  have hactive : (WhatsAppConnection.flush read { read with observed := seen } w.row).isActive =
      w.row.isActive := changed_self ..
  have hgen :
      (WhatsAppConnection.flush read { read with observed := seen } w.row).desiredGeneration =
        w.row.desiredGeneration := changed_self ..
  have htested := h.tested.row hin hout hver
  refine ⟨h.transport, hc,
    ⟨htested.inbound, htested.outbound, htested.verified, htested.tests⟩,
    ?_, h.active.fresh, ?_, ?_⟩
  · show _ → (WhatsAppConnection.flush read _ w.row).desiredState = _ ∧ _ ∧ _
    rw [hdesired, hactive, hver]
    exact h.active.active
  · intro c hcycle hfresh hactivated
    have hlisted := h.active.listed c hcycle hfresh hactivated
    unfold ReadinessWorld.Applied at hlisted ⊢
    show _ = some (WhatsAppConnection.flush read _ w.row).desiredGeneration ∧ (_ → _ = _)
    rw [hgen]
    exact hlisted
  · intro hcycled hactivated
    have happlied := h.active.cycled hcycled hactivated
    unfold ReadinessWorld.Applied at happlied ⊢
    show _ = (WhatsAppConnection.flush read _ w.row).desiredGeneration
    rw [hgen]
    exact happlied

lemma flush_logout (transport : WhatsAppTransport) {row : WhatsAppConnection}
    (seen : Observed) (h : SameTests read row) :
    (WhatsAppConnection.flush read
      (TransportRequest.outcome transport ⟨.logout, .answered seen, read⟩ seen) row).inboundTestedAt
        = none ∧
    (WhatsAppConnection.flush read
      (TransportRequest.outcome transport ⟨.logout, .answered seen, read⟩ seen)
        row).outboundTestedAt = none ∧
    (WhatsAppConnection.flush read
      (TransportRequest.outcome transport ⟨.logout, .answered seen, read⟩ seen)
        row).verificationState = .pending := by
  have hclear : ∀ {α : Type} [DecidableEq α] {r new s : α}, r = s → changed r new s = new := by
    intro α _ r new s hrs
    subst hrs
    unfold changed
    split
    · rename_i heq
      exact heq.symm
    · rfl
  exact ⟨hclear h.inbound, hclear h.outbound, hclear h.verified⟩

lemma ReadinessInv.applyAnswer (h : ReadinessInv w) (hw : Meets w (.apply worker)) :
    ReadinessInv (applyAnswer w worker) := by
  unfold Sidecar.applyAnswer
  split
  · rename_i kind seen read hrequest
    obtain ⟨htimely, hsame⟩ := hw kind seen read hrequest
    have hcurrent := h.applied worker kind htimely
    cases kind with
    | probe => exact h.observe rfl hcurrent
    | binding | restart =>
      have hdone := h.observe rfl hcurrent
      exact ReadinessInv.outdate hdone.transport hdone.current hdone.tested
    | logout =>
      obtain ⟨hin, hout, hver⟩ := flush_logout w.transport seen (hsame rfl)
      exact ReadinessInv.outdate h.transport hcurrent
        (h.tested.reconfigure (a := w.account) hin hout hver)
  · exact h

lemma verificationOf_verified {a b : Option ℕ}
    (h : WhatsAppConnection.verificationOf a b = .verified) : a ≠ none ∧ b ≠ none := by
  cases a with
  | none =>
    cases b with
    | none => cases h
    | some n => cases h
  | some m =>
    cases b with
    | none => cases h
    | some n => exact ⟨Option.some_ne_none m, Option.some_ne_none n⟩

lemma ReadinessInv.testInbound (h : ReadinessInv w) :
    ReadinessInv { w with row := w.row.recordInbound now, inbound := true }.outdate := by
  refine ReadinessInv.outdate h.transport h.current ⟨fun _ => rfl, h.tested.outbound, ?_, ?_⟩
  · intro hverified
    exact ⟨rfl, h.tested.outbound (verificationOf_verified hverified).2⟩
  · intro worker read version hread
    exact ⟨(h.tested.tests worker read version hread).1, fun _ _ => rfl⟩

lemma ReadinessInv.beginTest (h : ReadinessInv w) (worker : ℕ) :
    ReadinessInv { w with tests := w.tests.take worker (w.row, w.version) }.outdate := by
  refine ReadinessInv.outdate h.transport h.current
    ⟨h.tested.inbound, h.tested.outbound, h.tested.verified, ?_⟩
  intro v read version hread
  rcases InHand.of_take hread with ⟨-, hnew⟩ | ⟨-, hold⟩
  · cases hnew
    exact ⟨le_refl _, fun _ => h.tested.inbound⟩
  · exact h.tested.tests v read version hold

lemma ReadinessInv.recordTest (h : ReadinessInv w)
    (hw : Meets w (.recordTest worker now)) : ReadinessInv (recordTest now w worker) := by
  unfold Sidecar.recordTest
  split
  · exact h
  · rename_i read version hread
    have hsame : version = w.version := hw read version hread
    have hin := (h.tested.tests worker read version hread).2 hsame
    have hflag : (w.outbound || decide (version = w.version)) = true := by
      rw [decide_eq_true hsame, Bool.or_true]
    have hcol : (WhatsAppConnection.flush read (read.recordOutbound now) w.row).inboundTestedAt =
        w.row.inboundTestedAt := changed_self ..
    have hobserved : (WhatsAppConnection.flush read (read.recordOutbound now) w.row).observed =
        w.row.observed :=
      flush_observed rfl rfl ⟨Or.inl rfl, Or.inl rfl, Or.inl rfl, Or.inl rfl⟩
    refine ReadinessInv.outdate h.transport ?_ ⟨?_, fun _ => hflag, ?_, ?_⟩
    · intro hidle
      show (WhatsAppConnection.flush read (read.recordOutbound now) w.row).observed = _
      rw [hobserved]
      exact h.current hidle
    · show (WhatsAppConnection.flush read (read.recordOutbound now) w.row).inboundTestedAt ≠ none →
        _
      rw [hcol]
      exact h.tested.inbound
    · intro hverified
      refine ⟨?_, hflag⟩
      have hver : changed read.verificationState
          (WhatsAppConnection.verificationOf read.inboundTestedAt (some now))
          w.row.verificationState = .verified := hverified
      unfold changed at hver
      split at hver
      · exact (h.tested.verified hver).1
      · exact hin (verificationOf_verified hver).1
    · intro v other n hother
      obtain ⟨-, hold⟩ := InHand.of_release hother
      exact h.tested.tests v other n hold

/-! ### cycles, callbacks and events -/

section
variable (h : ReadinessInv w)
include h

lemma ReadinessInv.event (e : ConnectorEvent) (again : Bool) :
    ReadinessInv { w with account := w.account.event cfg now e again } := by
  have hgen : (w.account.event cfg now e again).connector.account.generation =
      w.account.connector.account.generation := generation_event e again
  refine ⟨h.transport, h.current.account status_event,
    ⟨h.tested.inbound, h.tested.outbound, h.tested.verified, h.tested.tests⟩,
    h.active.active, h.active.fresh, ?_, ?_⟩
  · intro c hc hfresh hactivated
    obtain ⟨hlisted, happlied⟩ := h.active.listed c hc hfresh hactivated
    exact ⟨hlisted, fun hphase => hgen.trans (happlied hphase)⟩
  · intro hcycled hactivated
    exact hgen.trans (h.active.cycled hcycled hactivated)

lemma ReadinessInv.deliverCallback : ReadinessInv (deliverCallback w) := by
  unfold Sidecar.deliverCallback
  split
  · exact h
  · rename_i s rest hcallbacks
    refine ⟨h.transport, ?_,
      ⟨h.tested.inbound, h.tested.outbound, h.tested.verified, h.tested.tests⟩,
      ⟨h.active.active, h.active.fresh, h.active.listed, h.active.cycled⟩⟩
    intro hidle
    have hrest : w.account.callbacks.tail = [] := hidle
    rw [hcallbacks] at hrest
    cases hrest
    have hlast := w.account.last s (by rw [hcallbacks]; rfl)
    show s.observed = w.account.status.observed
    rw [hlast]
    rfl

lemma ReadinessInv.fetchList : ReadinessInv (fetchList w) := by
  unfold Sidecar.fetchList
  split
  · exact h
  · refine ⟨h.transport, h.current,
      ⟨h.tested.inbound, h.tested.outbound, h.tested.verified, h.tested.tests⟩,
      h.active.active, ?_, ?_, h.active.cycled⟩
    · intro _ c hc
      cases hc
      rfl
    · intro c hc _ hactivated
      cases hc
      obtain ⟨hdesired, hactive, -⟩ := h.active.active hactivated
      refine ⟨?_, fun hne => absurd rfl hne⟩
      exact if_pos ⟨h.transport, Or.inr hdesired, hactive⟩

/-- the cycle `c` goes on. -/
lemma ReadinessInv.advance (hc : w.cycle = some c) {phase : AccountPhase}
    (ha : a.callbacks = [] → w.account.callbacks = [] ∧ a.status = w.account.status)
    (happlied : c.fresh = true → w.activated = true →
      a.connector.account.generation = w.row.desiredGeneration) :
    ReadinessInv { w with account := a, cycle := some { c with phase := phase } } where
  transport := h.transport
  current := h.current.account ha
  tested := ⟨h.tested.inbound, h.tested.outbound, h.tested.verified, h.tested.tests⟩
  active := by
    refine ⟨h.active.active, ?_, ?_, ?_⟩
    · intro hcycled d hd
      cases hd
      exact h.active.fresh hcycled c hc
    · intro d hd hfresh hactivated
      cases hd
      exact ⟨(h.active.listed c hc hfresh hactivated).1, fun _ => happlied hfresh hactivated⟩
    · intro hcycled hactivated
      exact happlied (h.active.fresh hcycled c hc) hactivated

lemma ReadinessInv.endCycle (hc : w.cycle = some c) (hphase : c.phase ≠ .entry) :
    ReadinessInv (w.endCycle c) where
  transport := h.transport
  current := h.current
  tested := ⟨h.tested.inbound, h.tested.outbound, h.tested.verified, h.tested.tests⟩
  active := by
    refine ⟨h.active.active, nofun, nofun, ?_⟩
    intro hcycled hactivated
    have hfresh : c.fresh = true := by
      rcases Bool.or_eq_true_iff.1 hcycled with hwas | hfresh
      · exact h.active.fresh hwas c hc
      · exact hfresh
    exact (h.active.listed c hc hfresh hactivated).2 hphase

lemma ReadinessInv.cycleStep : ReadinessInv (cycleStep cfg now w) := by
  unfold Sidecar.cycleStep
  split
  · exact h
  · rename_i c hc
    -- a fresh list has the account
    have hunlisted : c.listed = none → c.fresh = true → w.activated = true → False := by
      intro hnone hfresh hactivated
      have hlisted := (h.active.listed c hc hfresh hactivated).1
      rw [hnone] at hlisted
      cases hlisted
    split
    · rename_i n hphase hlisted
      refine h.advance hc status_applyEntry ?_
      intro hfresh hactivated
      have hn := (h.active.listed c hc hfresh hactivated).1
      rw [hlisted] at hn
      rw [generation_applyEntry]
      exact Option.some.inj hn
    · rename_i hphase hlisted
      exact h.advance hc (fun hidle => ⟨hidle, rfl⟩)
        (fun hfresh hactivated => (hunlisted hlisted hfresh hactivated).elim)
    · rename_i n hphase hlisted
      exact h.endCycle hc (by rw [hphase]; exact nofun)
    · rename_i hphase hlisted
      split
      · exact h.endCycle hc (by rw [hphase]; exact nofun)
      · exact h.advance hc (fun hidle => status_become hidle)
          (fun hfresh hactivated => (hunlisted hlisted hfresh hactivated).elim)
    · rename_i hphase
      have hne : c.phase ≠ .entry := by
        rw [hphase]
        exact nofun
      have hforget : ReadinessInv { w with account := w.account.forget } :=
        ⟨h.transport, h.current,
          ⟨h.tested.inbound, h.tested.outbound, h.tested.verified, h.tested.tests⟩,
          ⟨h.active.active, h.active.fresh, h.active.listed, h.active.cycled⟩⟩
      exact hforget.endCycle hc hne

lemma readinessInv_step (hw : Meets w s) :
    ReadinessInv (readinessStep cfg s w) := by
  cases s with
  | update rekey => exact h.update hw
  | setDesiredState active => exact h.activate active
  | begin worker kind => exact h.beginTransport worker kind
  | call worker now => exact h.callTransport worker
  | answer worker => exact h.answerTransport worker
  | apply worker => exact h.applyAnswer hw
  | abandon worker => exact h.requests _
  | testInbound now => exact h.testInbound
  | beginTest worker => exact h.beginTest worker
  | recordTest worker now => exact h.recordTest hw
  | fetch => exact h.fetchList
  | cycle now => exact h.cycleStep
  | deliver => exact h.deliverCallback
  | event now e again => exact h.event e again
  | metaChanges codeActive =>
    exact ⟨h.transport, h.current,
      ⟨h.tested.inbound, h.tested.outbound, h.tested.verified, h.tested.tests⟩,
      ⟨h.active.active, h.active.fresh, h.active.listed, h.active.cycled⟩⟩

end

/-! ### automatic steps -/

lemma deliver_all (cfg : ConnectorConfig) (w : ReadinessWorld) (n : ℕ)
    (hn : w.account.callbacks.length ≤ n) :
    ∃ q : List ReadinessStep, (∀ s ∈ q, s.isAutomatic = true) ∧
      (run (readinessStep cfg) w q).account.callbacks = [] ∧
      (run (readinessStep cfg) w q).activated = w.activated ∧
      (run (readinessStep cfg) w q).cycled = w.cycled := by
  induction n generalizing w with
  | zero =>
    have hempty := List.length_eq_zero_iff.1 (Nat.le_zero.1 hn)
    exact ⟨[], List.forall_mem_nil _, hempty, rfl, rfl⟩
  | succ n ih =>
    cases hc : w.account.callbacks with
    | nil => exact ⟨[], List.forall_mem_nil _, hc, rfl, rfl⟩
    | cons s rest =>
      have hnext : readinessStep cfg .deliver w =
          { w with
            row := { w.row with observed := s.observed }
            account := w.account.delivered } := by
        show deliverCallback w = _
        unfold deliverCallback
        rw [hc]
      have hlen : (readinessStep cfg .deliver w).account.callbacks.length ≤ n := by
        rw [hnext]
        show w.account.callbacks.tail.length ≤ n
        rw [List.length_tail]
        omega
      obtain ⟨q, hq, hempty, hactivated, hcycled⟩ := ih _ hlen
      refine ⟨.deliver :: q, List.forall_mem_cons.2 ⟨rfl, hq⟩, hempty, ?_, ?_⟩
      · exact hactivated.trans (by rw [hnext])
      · exact hcycled.trans (by rw [hnext])

/-- how far a cycle is from its end. -/
def AccountPhase.rank : AccountPhase → ℕ
  | .entry => 2
  | .stop => 1
  | .stopping => 0

lemma cycleStep_cases (cfg : ConnectorConfig) (now : ℕ) (hc : w.cycle = some c) :
    (cycleStep cfg now w).activated = w.activated ∧
      (((cycleStep cfg now w).cycle = none ∧
          (cycleStep cfg now w).cycled = (w.cycled || c.fresh)) ∨
        (cycleStep cfg now w).cycled = w.cycled ∧ ∃ phase : AccountPhase,
          (cycleStep cfg now w).cycle = some { c with phase := phase } ∧
            phase.rank < c.phase.rank) := by
  obtain ⟨listed, phase, fresh⟩ := c
  simp only [cycleStep, hc]
  cases phase with
  | entry =>
    cases listed with
    | none => exact ⟨rfl, Or.inr ⟨rfl, .stop, rfl, Nat.one_lt_two⟩⟩
    | some n => exact ⟨rfl, Or.inr ⟨rfl, .stop, rfl, Nat.one_lt_two⟩⟩
  | stop =>
    cases listed with
    | none =>
      by_cases ht : w.account.tracked = none
      · rw [if_pos ht]
        exact ⟨rfl, Or.inl ⟨rfl, rfl⟩⟩
      · rw [if_neg ht]
        exact ⟨rfl, Or.inr ⟨rfl, .stopping, rfl, Nat.zero_lt_one⟩⟩
    | some n => exact ⟨rfl, Or.inl ⟨rfl, rfl⟩⟩
  | stopping => exact ⟨rfl, Or.inl ⟨rfl, rfl⟩⟩

lemma cycle_ends (cfg : ConnectorConfig) (n : ℕ) (hc : w.cycle = some c) (hn : c.phase.rank ≤ n) :
    ∃ q : List ReadinessStep, (∀ s ∈ q, s.isAutomatic = true) ∧
      (run (readinessStep cfg) w q).cycle = none ∧
      (run (readinessStep cfg) w q).activated = w.activated ∧
      (run (readinessStep cfg) w q).cycled = (w.cycled || c.fresh) := by
  induction n generalizing w c with
  | zero =>
    obtain ⟨hactivated, ⟨hend, hcycled⟩ | ⟨-, phase, -, hlt⟩⟩ :=
      cycleStep_cases cfg 0 hc
    · exact ⟨[.cycle 0], List.forall_mem_singleton.2 rfl, hend, hactivated, hcycled⟩
    · omega
  | succ n ih =>
    obtain ⟨hactivated, ⟨hend, hcycled⟩ | ⟨hcycled, phase, hnext, hlt⟩⟩ :=
      cycleStep_cases cfg 0 hc
    · exact ⟨[.cycle 0], List.forall_mem_singleton.2 rfl, hend, hactivated, hcycled⟩
    · obtain ⟨q, hq, hend, hactivated', hcycled'⟩ := ih hnext (show phase.rank ≤ n by omega)
      refine ⟨.cycle 0 :: q, List.forall_mem_cons.2 ⟨rfl, hq⟩, hend, ?_, ?_⟩
      · exact hactivated'.trans hactivated
      · refine hcycled'.trans ?_
        rw [hcycled]

lemma fresh_cycle_ends (cfg : ConnectorConfig) (w : ReadinessWorld) :
    ∃ q : List ReadinessStep, (∀ s ∈ q, s.isAutomatic = true) ∧
    (run (readinessStep cfg) w q).activated = w.activated ∧
    (run (readinessStep cfg) w q).cycled = true := by
  have hidle : ∃ q : List ReadinessStep, (∀ s ∈ q, s.isAutomatic = true) ∧
      (run (readinessStep cfg) w q).cycle = none ∧
      (run (readinessStep cfg) w q).activated = w.activated := by
    cases hc : w.cycle with
    | none => exact ⟨[], List.forall_mem_nil _, hc, rfl⟩
    | some c =>
      obtain ⟨q, hq, hend, hactivated, -⟩ := cycle_ends cfg _ hc (le_refl _)
      exact ⟨q, hq, hend, hactivated⟩
  obtain ⟨p, hp, hnone, hactivated⟩ := hidle
  have hfetch : fetchList (run (readinessStep cfg) w p) =
      { run (readinessStep cfg) w p with
        cycle := some ⟨(run (readinessStep cfg) w p).listed, .entry, true⟩ } := by
    unfold fetchList
    rw [hnone]
  have hrunning : (fetchList (run (readinessStep cfg) w p)).cycle =
      some ⟨(run (readinessStep cfg) w p).listed, .entry, true⟩ := by rw [hfetch]
  obtain ⟨q, hq, -, hactivated', hcycled⟩ := cycle_ends cfg _ hrunning (le_refl _)
  refine ⟨p ++ .fetch :: q, ?_, ?_, ?_⟩
  · intro s hs
    rcases List.mem_append.1 hs with hs | hs
    · exact hp s hs
    · rcases List.mem_cons.1 hs with rfl | hs
      · rfl
      · exact hq s hs
  · rw [run_append]
    refine hactivated'.trans ?_
    rw [hfetch]
    exact hactivated
  · rw [run_append]
    exact hcycled.trans (Bool.or_true _)

lemma meets_automatic (h : s.isAutomatic = true) : Meets w s := by
  cases s with
  | fetch => trivial
  | cycle now => trivial
  | deliver => trivial
  | _ => cases h

lemma ReadinessInv.automatic (h : ReadinessInv w) {q : List ReadinessStep}
    (hq : ∀ s ∈ q, s.isAutomatic = true) : ReadinessInv (run (readinessStep cfg) w q) := by
  induction q generalizing w with
  | nil => exact h
  | cons s q ih =>
    have hone : ReadinessInv (readinessStep cfg s w) :=
      readinessInv_step h (meets_automatic (hq s (List.mem_cons_self ..)))
    exact ih hone fun t ht => hq t (List.mem_cons_of_mem _ ht)

lemma ReadinessInv.takesEffect (h : ReadinessInv w) : TakesEffect cfg w := by
  intro hactivated
  obtain ⟨p, hp, hactivated₁, hcycled₁⟩ := fresh_cycle_ends cfg w
  obtain ⟨q, hq, hempty, hactivated₂, hcycled₂⟩ :=
    deliver_all cfg (run (readinessStep cfg) w p) _ (le_refl _)
  have hauto : ∀ s ∈ p ++ q, s.isAutomatic = true := by
    intro s hs
    rcases List.mem_append.1 hs with hs | hs
    · exact hp s hs
    · exact hq s hs
  refine ⟨p ++ q, hauto, ?_⟩
  have hright : Right (run (readinessStep cfg) w (p ++ q)) := (h.automatic hauto).right
  rw [run_append] at hright ⊢
  exact hright.effect ((hactivated₂.trans hactivated₁).trans hactivated)
    (hcycled₂.trans hcycled₁) hempty

end Inv

theorem activation_takes_effect (cfg : ConnectorConfig) (transport : WhatsAppTransport)
    (account : SidecarAccount) (codeActive : Bool) (l : List ReadinessStep)
    (h₀ : (ReadinessWorld.initial transport account codeActive).row.observed =
      (ReadinessWorld.initial transport account codeActive).latest)
    (h : Along (readinessStep cfg) Meets (ReadinessWorld.initial transport account codeActive) l) :
    ∀ p, p <+: l →
      Right (run (readinessStep cfg) (ReadinessWorld.initial transport account codeActive) p) ∧
      TakesEffect cfg
        (run (readinessStep cfg) (ReadinessWorld.initial transport account codeActive) p) := by
  have htransport : transport = .baileysSidecar := by
    cases transport with
    | baileysSidecar => rfl
    | metaCloudApi => cases congrArg Observed.authentication h₀
  subst htransport
  have hinit : ReadinessInv (ReadinessWorld.initial .baileysSidecar account codeActive) := by
    refine ⟨rfl, fun _ => h₀, ⟨?_, ?_, ?_, ?_⟩, ⟨nofun, nofun, nofun, nofun⟩⟩
    · exact fun hne => absurd rfl hne
    · exact fun hne => absurd rfl hne
    · intro hverified
      cases hverified
    · intro worker read version hread
      cases hread
  rintro p ⟨q, rfl⟩
  have hinv := (((along_append _ p q).1 h).1).invariant
    (fun w s hw hs => readinessInv_step hw hs) hinit
  exact ⟨hinv.right, hinv.takesEffect⟩

/-! ## two activations -/

def unusedAccount : SidecarAccount := .unused false none fun _ => none

def socketOpens : List ReadinessStep :=
  [.event 0 (.ends 0 .resolved) false, .event 0 (.ends 0 .resolved) false,
    .event 0 (.ends 0 .resolved) false, .event 0 (.update 0 ⟨false, some .opened, none⟩) false,
    .event 0 (.ends 0 .resolved) false, .event 0 (.ends 0 (.persisted true)) false]

def testsAndActivation : List ReadinessStep :=
  [.testInbound 1, .beginTest 0, .recordTest 0 2, .setDesiredState true]

/-- a sidecar connection is bound, tested and activated. -/
def sidecarActivation : List ReadinessStep :=
  [.begin 0 .binding, .call 0 0, .answer 0, .apply 0] ++ socketOpens ++
    [.deliver, .deliver, .deliver] ++ testsAndActivation

def readySidecar : List ReadinessStep :=
  sidecarActivation ++ [.fetch, .cycle 0, .cycle 0, .deliver]

lemma readySidecar_meets : Along (readinessStep registryConfig) Meets
    (ReadinessWorld.initial .baileysSidecar unusedAccount true) readySidecar := by
  refine ⟨trivial, trivial, trivial, ?_, trivial, trivial, trivial, trivial, trivial, trivial,
    trivial, trivial, trivial, trivial, trivial, ?_, trivial, trivial, trivial, trivial, trivial,
    trivial⟩
  · -- the answer to the binding comes while a callback is under way
    intro kind seen read hrequest
    have hkind : Option.map (·.kind) (some (TransportRequest.mk kind (.answered seen) read)) =
        some .binding := by
      rw [← hrequest]
      decide +kernel
    cases hkind
    exact ⟨fun hidle => absurd hidle (by decide +kernel), nofun⟩
  · intro read version hread
    have hversion : Option.map (·.2) (some (read, version)) = some 1 := by
      rw [← hread]
      decide +kernel
    cases hversion
    decide +kernel

/-- the next cycle and its callback make the connection ready. -/
theorem activated_sidecar_ready :
    (run (readinessStep registryConfig)
      (ReadinessWorld.initial .baileysSidecar unusedAccount true) readySidecar).row.Ready := by
  have hright : Right (run (readinessStep registryConfig)
      (ReadinessWorld.initial .baileysSidecar unusedAccount true) readySidecar) :=
    (activation_takes_effect registryConfig .baileysSidecar unusedAccount true readySidecar rfl
      readySidecar_meets readySidecar (List.prefix_refl _)).1
  exact hright.effect (by decide +kernel) (by decide +kernel) (by decide +kernel)
    ⟨by decide +kernel, by decide +kernel, by decide +kernel⟩

def metaActivation : List ReadinessStep :=
  [.begin 0 .probe, .answer 0, .apply 0] ++ testsAndActivation

structure MetaIdle (row : WhatsAppConnection) (w : ReadinessWorld) : Prop where
  row : w.row = row
  transport : w.transport = .metaCloudApi
  tracked : w.account.tracked = none
  callbacks : w.account.callbacks = []
  cycle : ∀ c, w.cycle = some c → c.listed = none

variable {cfg : ConnectorConfig} {row : WhatsAppConnection} {w : ReadinessWorld}

lemma MetaIdle.automatic (h : MetaIdle row w) {s : ReadinessStep} (hs : s.isAutomatic = true) :
    MetaIdle row (readinessStep cfg s w) := by
  cases s with
  | fetch =>
    show MetaIdle row (fetchList w)
    unfold fetchList
    split
    · exact h
    · refine ⟨h.row, h.transport, h.tracked, h.callbacks, ?_⟩
      intro c hc
      cases hc
      refine if_neg ?_
      rintro ⟨ht, -⟩
      rw [h.transport] at ht
      cases ht
  | cycle now =>
    show MetaIdle row (cycleStep cfg now w)
    unfold cycleStep
    split
    · exact h
    · rename_i c hc
      have hlisted := h.cycle c hc
      rw [hlisted]
      have hend : ∀ a : SidecarAccount, a.tracked = none → a.callbacks = [] →
          MetaIdle row ({ w with account := a }.endCycle c) :=
        fun a ht hcallbacks => ⟨h.row, h.transport, ht, hcallbacks, nofun⟩
      split
      · rename_i heq
        cases heq
      · refine ⟨h.row, h.transport, h.tracked, h.callbacks, ?_⟩
        intro d hd
        cases hd
        rfl
      · rename_i heq
        cases heq
      · rw [if_pos h.tracked]
        exact hend w.account h.tracked h.callbacks
      · exact hend w.account.forget rfl h.callbacks
  | deliver =>
    show MetaIdle row (deliverCallback w)
    unfold deliverCallback
    rw [h.callbacks]
    exact h
  | _ => cases hs

lemma MetaIdle.run (h : MetaIdle row w) {q : List ReadinessStep}
    (hq : ∀ s ∈ q, s.isAutomatic = true) :
    (run (readinessStep cfg) w q).row = row := by
  induction q generalizing w with
  | nil => exact h.row
  | cons s q ih =>
    exact ih (h.automatic (hq s (List.mem_cons_self ..)))
      fun t ht => hq t (List.mem_cons_of_mem _ ht)

theorem activated_meta_not_ready :
    (run (readinessStep registryConfig) (ReadinessWorld.initial .metaCloudApi unusedAccount true)
      metaActivation).activated = true ∧
    (run (readinessStep registryConfig) (ReadinessWorld.initial .metaCloudApi unusedAccount true)
      metaActivation).latest.Live ∧
    ∀ q : List ReadinessStep, (∀ s ∈ q, s.isAutomatic = true) →
      ¬ (run (readinessStep registryConfig)
        (ReadinessWorld.initial .metaCloudApi unusedAccount true)
        (metaActivation ++ q)).row.Ready := by
  refine ⟨rfl, ⟨rfl, rfl, rfl⟩, ?_⟩
  intro q hq hready
  have hidle : MetaIdle (run (readinessStep registryConfig)
      (ReadinessWorld.initial .metaCloudApi unusedAccount true) metaActivation).row
      (run (readinessStep registryConfig)
        (ReadinessWorld.initial .metaCloudApi unusedAccount true) metaActivation) :=
    ⟨rfl, rfl, rfl, rfl, nofun⟩
  rw [run_append] at hready
  have hgen := hready.generation
  rw [hidle.run hq] at hgen
  cases hgen

end NexusHelpdesk.Sidecar
