import NexusHelpdesk.Sidecar.Connector

/-!
# What starts and stops an account

* `Tidy`: the timer of a reconnect runs only while the account is started, and nothing pairs;
* `Steady`: nothing starts or stops the account, and its generation stays;
* `StartedUnder`, `StoppedUnder`: what `start`, `stop`, `logout` and `restart` leave;
* `Synced`: the status is under the generation of the account;
* `goes_step`: an event leaves the account as it was, or starts it under its generation.
-/

namespace NexusHelpdesk.Sidecar

open Lib

/-- waits of `requestPairingCode`. -/
def Frame.isPairing : Frame → Bool
  | .starting attempt | .authenticating attempt | .fetchingVersion attempt
  | .startFailed attempt => attempt.isSome
  | .pairStopped _ | .pairStarted _ | .pairReady _ _ | .pairCode _ _ | .pairSleeping _
  | .pairGivenUp => true
  | _ => false

/-- a timer runs only while the account is started, and nothing pairs. -/
structure Tidy (c : Connector) : Prop where
  timer : c.account.reconnectTimer = true → c.account.stopped = false
  pending : ∀ f ∈ c.pending, f.isPairing = false

structure Steady (c d : Connector) : Prop where
  stopped : d.account.stopped = c.account.stopped
  generation : d.account.generation = c.account.generation
  timer : d.account.reconnectTimer = true →
    c.account.reconnectTimer = true ∨ c.account.stopped = false
  pending : ∀ f ∈ d.pending, f ∈ c.pending ∨ f.isPairing = false
  status : d.account.status.generation = c.account.status.generation ∨
    d.account.status.generation = c.account.generation

section Account
variable {cfg : ConnectorConfig} {now : ℕ} {c d e : Connector} {f : Frame} {n : ℕ} {p : Prop}

lemma Steady.refl : Steady c c := ⟨rfl, rfl, Or.inl, fun f => Or.inl, Or.inl rfl⟩

lemma Steady.trans (h : Steady c d) (h' : Steady d e) : Steady c e where
  stopped := h'.stopped.trans h.stopped
  generation := h'.generation.trans h.generation
  timer := by
    intro he
    rcases h'.timer he with hd | hd
    · exact h.timer hd
    · exact Or.inr (h.stopped ▸ hd)
  pending := by
    intro f hf
    rcases h'.pending f hf with hd | hpair
    · exact h.pending f hd
    · exact Or.inr hpair
  status := by
    rcases h'.status with hd | hd
    · rw [hd]
      exact h.status
    · rw [hd, h.generation]
      exact Or.inr rfl

lemma Steady.tidy (h : Steady c d) (hc : Tidy c) : Tidy d where
  timer := by
    intro hd
    rw [h.stopped]
    exact (h.timer hd).elim hc.timer id
  pending := by
    intro f hf
    exact (h.pending f hf).elim (hc.pending f) id

lemma Steady.of_eq (hs : d.account.stopped = c.account.stopped)
    (hg : d.account.generation = c.account.generation)
    (ht : d.account.reconnectTimer = c.account.reconnectTimer) (hp : d.pending = c.pending)
    (hst : d.account.status.generation = c.account.status.generation ∨
      d.account.status.generation = c.account.generation) : Steady c d := by
  refine ⟨hs, hg, ?_, ?_, hst⟩
  · intro h
    exact Or.inl (ht ▸ h)
  · intro f hf
    exact Or.inl (hp ▸ hf)

lemma steady_setStatus (f : Snapshot → Snapshot) : Steady c (c.setStatus f).emitStatus :=
  Steady.of_eq rfl rfl rfl rfl (Or.inr rfl)

lemma steady_await (h : f.isPairing = false) : Steady c (c.await f) := by
  refine ⟨rfl, rfl, Or.inl, ?_, Or.inl rfl⟩
  intro g hg
  rcases List.mem_append.1 hg with hc | hf
  · exact Or.inl hc
  · rw [List.mem_singleton.1 hf]
    exact Or.inr h

lemma steady_expireQr : Steady c (expireQr c) := by
  unfold expireQr
  split
  · exact steady_setStatus _
  · exact Steady.refl

lemma steady_abort (s : ℕ) : Steady c (abortForCredentialFailure c s) :=
  Steady.of_eq rfl rfl rfl rfl (Or.inr rfl)

lemma steady_scheduleReconnect : Steady c (scheduleReconnect cfg c) := by
  unfold scheduleReconnect
  split
  · exact Steady.refl
  · rename_i hopen
    have hstarted : c.account.stopped = false := by
      rw [Bool.or_eq_true] at hopen
      exact Bool.eq_false_iff.2 fun h => hopen (Or.inl h)
    split
    · exact Steady.of_eq rfl rfl rfl rfl (Or.inr rfl)
    · exact ⟨rfl, rfl, fun _ => Or.inr hstarted, fun f => Or.inl, Or.inl rfl⟩

lemma steady_handleConnection (s : ℕ) (update : ConnectionUpdate) :
    Steady c (handleConnection c s update) := by
  have hopen : ∀ f : Snapshot → Snapshot,
      Steady c ((c.clearQrTimer.setStatus f).emitStatus.await (.opened s)) := by
    intro f
    have hone : Steady c (c.clearQrTimer.setStatus f).emitStatus :=
      Steady.of_eq rfl rfl rfl rfl (Or.inr rfl)
    exact hone.trans (steady_await rfl)
  unfold handleConnection
  split
  · exact hopen _
  · dsimp only
    split
    · refine Steady.trans ?_ (steady_await rfl)
      exact Steady.of_eq rfl rfl rfl rfl (Or.inr rfl)
    · exact Steady.of_eq rfl rfl rfl rfl (Or.inl rfl)
  · exact Steady.refl

lemma steady_update (s : ℕ) (update : ConnectionUpdate) :
    Steady c (handleConnectionUpdate c s update) := by
  unfold handleConnectionUpdate
  split
  · exact steady_await rfl
  · exact steady_handleConnection s update

lemma steady_readSendResult (key : Text) : Steady c (readSendResult cfg now c key).2 := by
  unfold readSendResult
  split
  · exact Steady.refl
  · split
    · exact Steady.of_eq rfl rfl rfl rfl (Or.inl rfl)
    · exact Steady.refl

lemma steady_send (request : SendRequest) : Steady c (send cfg now c request).2 := by
  unfold send sendUnlessCached
  have hread : Steady c (readSendResult cfg now c request.idempotencyKey).2 :=
    steady_readSendResult request.idempotencyKey
  revert hread
  cases readSendResult cfg now c request.idempotencyKey with
  | mk result d =>
    intro hread
    have hsettle : ∀ r, Steady c (settle now d request r).2 := by
      intro r
      exact hread.trans (Steady.of_eq rfl rfl rfl rfl (Or.inl rfl))
    cases result with
    | some r => exact hread
    | none =>
      show Steady c (ite _ _ _ : Option SendResult × Connector).2
      split
      · exact hsettle _
      · split
        · exact hsettle _
        · split
          · exact hsettle _
          · exact hread.trans (steady_await rfl)

lemma steady_sendEnds (request : SendRequest) (result : SendResult) :
    Steady c (sendEnds now c request result) := by
  unfold sendEnds
  cases result <;> exact Steady.of_eq rfl rfl rfl rfl (Or.inl rfl)

lemma steady_startOwned : Steady c (startOwned c none) :=
  (steady_setStatus _).trans (steady_await rfl)

lemma steady_startCaught (err : ThrownError) : Steady c (startCaught c none err) :=
  (steady_setStatus _).trans (steady_await rfl)

structure StartedUnder (n : ℕ) (d : Connector) : Prop where
  started : d.account.stopped = false
  generation : d.account.generation = n
  status : d.account.status.generation = n
  tidy : Tidy d

lemma StartedUnder.steady (h : StartedUnder n c) (hd : Steady c d) : StartedUnder n d where
  started := hd.stopped.trans h.started
  generation := hd.generation.trans h.generation
  status := hd.status.elim (fun hs => hs.trans h.status) (fun hs => hs.trans h.generation)
  tidy := hd.tidy h.tidy

lemma StartedUnder.clear (h : StartedUnder n c) : StartedUnder n c.clearReconnectTimer :=
  h.steady ⟨rfl, rfl, nofun, fun f => Or.inl, Or.inl rfl⟩

lemma steady_acquireOwner (h : acquireOwner cfg now c = some d) : Steady c d := by
  unfold acquireOwner at h
  split at h
  · cases h
  · cases h
    exact Steady.of_eq rfl rfl rfl rfl (Or.inl rfl)

lemma startedUnder_owned (h : StartedUnder n c) : StartedUnder n
    (if c.account.owner.isSome then startOwned c none
    else
      match acquireOwner cfg now c with
      | none => (startBusy c).started none
      | some c => startOwned c none) := by
  split
  · exact h.steady steady_startOwned
  · split
    · exact h.steady (steady_setStatus _)
    · rename_i owned howned
      exact (h.steady (steady_acquireOwner howned)).steady steady_startOwned

lemma startedUnder_start (h : Tidy c) (n : ℕ) :
    StartedUnder n (start cfg now c (some n) none) := by
  have hc : StartedUnder n { c with
      account := { c.account with
        generation := n
        stopped := false
        status := { c.account.status with generation := n } } } :=
    ⟨rfl, rfl, rfl, fun _ => rfl, h.pending⟩
  unfold start
  show StartedUnder n (ite _ _ _)
  split
  · exact hc
  · exact startedUnder_owned hc.clear

/-- what `stop` and the calls that begin with it leave. -/
structure StoppedUnder (n : ℕ) (d : Connector) : Prop where
  stopped : d.account.stopped = true
  generation : d.account.generation = n
  tidy : Tidy d

lemma pending_closeSocket : (c.closeSocket).pending = c.pending := by
  unfold Connector.closeSocket
  split <;> rfl

lemma timer_closeSocket :
    (c.closeSocket).account.reconnectTimer = c.account.reconnectTimer := by
  unfold Connector.closeSocket
  split <;> rfl

lemma stopped_closeSocket : (c.closeSocket).account.stopped = c.account.stopped := by
  unfold Connector.closeSocket
  split <;> rfl

lemma generation_closeSocket : (c.closeSocket).account.generation = c.account.generation := by
  unfold Connector.closeSocket
  split <;> rfl

lemma status_closeSocket : (c.closeSocket).account.status = c.account.status := by
  unfold Connector.closeSocket
  split <;> rfl

lemma steady_closeSocket : Steady c c.closeSocket :=
  Steady.of_eq stopped_closeSocket generation_closeSocket timer_closeSocket pending_closeSocket
    (Or.inl (congrArg Snapshot.generation status_closeSocket))

lemma StoppedUnder.steady (h : StoppedUnder n c) (hd : Steady c d) : StoppedUnder n d where
  stopped := hd.stopped.trans h.stopped
  generation := hd.generation.trans h.generation
  tidy := hd.tidy h.tidy

lemma stoppedUnder_clear (h : Tidy c) : StoppedUnder c.account.generation
    ({ c with account := { c.account with stopped := true } } :
      Connector).clearQrTimer.clearReconnectTimer :=
  ⟨rfl, rfl, ⟨nofun, h.pending⟩⟩

lemma stoppedUnder_stop (h : Tidy c) : StoppedUnder c.account.generation (stop c) := by
  have hclosed := (stoppedUnder_clear h).steady steady_closeSocket
  unfold stop
  exact (hclosed.steady (d := Connector.releaseOwner _)
    (Steady.of_eq rfl rfl rfl rfl (Or.inl rfl))).steady
    (steady_setStatus _)

lemma steady_finishLogout : Steady c (finishLogout c) := by
  unfold finishLogout
  have hclosed : Steady c c.closeSocket.clearCredentials.releaseOwner :=
    steady_closeSocket.trans (Steady.of_eq rfl rfl rfl rfl (Or.inl rfl))
  exact hclosed.trans (steady_setStatus _)

lemma steady_logoutSocket : Steady c
    (match c.account.socket with
    | some s =>
      { c with account := { c.account with suppressReconnectFor := some s } }.await .loggingOut
    | none => finishLogout c) := by
  split
  · refine Steady.trans ?_ (steady_await rfl)
    exact Steady.of_eq rfl rfl rfl rfl (Or.inl rfl)
  · exact steady_finishLogout

lemma stoppedUnder_logout (h : Tidy c) : StoppedUnder c.account.generation (logout c) :=
  (stoppedUnder_clear h).steady steady_logoutSocket

lemma stoppedUnder_restart (h : Tidy c) (n : ℕ) : StoppedUnder n (restart c (some n)) := by
  have hstop := stoppedUnder_stop
    (c := { c with account := { c.account with generation := n } }) ⟨h.timer, h.pending⟩
  exact hstop.steady (steady_await rfl)

/-! ## events -/

def ConnectorEvent.isCall : ConnectorEvent → Bool
  | .start _ | .stop | .restart _ | .logout | .requestPairingCode _ => true
  | _ => false

/-- what an event does to the account: it goes on as it was, or starts under its generation where it
was started or a `restart` waited. -/
def Goes (c d : Connector) (restarting : Prop) : Prop :=
  Steady c d ∨
    (c.account.stopped = false ∨ restarting) ∧ StartedUnder c.account.generation d

lemma goes_resume (hc : Tidy c) (hf : f.isPairing = false) (o : Outcome) :
    Goes c (resume cfg now c f o) (f = .restarting) := by
  have hnone : ∀ attempt : Option ℕ, attempt.isSome = false → attempt = none := by
    intro attempt h
    cases attempt with
    | none => rfl
    | some n => cases h
  cases f with
  | starting attempt =>
    cases hnone attempt hf
    cases o with
    | resolved => exact Or.inl (steady_await rfl)
    | _ => exact Or.inl Steady.refl
  | authenticating attempt =>
    cases hnone attempt hf
    cases o with
    | resolved => exact Or.inl (steady_await rfl)
    | rejected err => exact Or.inl (steady_startCaught err)
    | _ => exact Or.inl Steady.refl
  | fetchingVersion attempt =>
    cases hnone attempt hf
    cases o with
    | resolved => exact Or.inl (Steady.of_eq rfl rfl rfl rfl (Or.inl rfl))
    | rejected err => exact Or.inl (steady_startCaught err)
    | _ => exact Or.inl Steady.refl
  | startFailed attempt =>
    cases hnone attempt hf
    cases o with
    | resolved => exact Or.inl steady_scheduleReconnect
    | _ => exact Or.inl Steady.refl
  | restarting =>
    cases o with
    | resolved => exact Or.inr ⟨Or.inr rfl, startedUnder_start hc _⟩
    | _ => exact Or.inl Steady.refl
  | loggingOut =>
    cases o with
    | resolved => exact Or.inl steady_finishLogout
    | rejected err => exact Or.inl steady_finishLogout
    | _ => exact Or.inl Steady.refl
  | qrImage s update captured =>
    cases o with
    | resolved =>
      refine Or.inl (Steady.trans ?_ (steady_await rfl))
      exact Steady.of_eq rfl rfl rfl rfl (Or.inr rfl)
    | _ => exact Or.inl Steady.refl
  | qrShown s update =>
    cases o with
    | resolved => exact Or.inl (steady_handleConnection s update)
    | _ => exact Or.inl Steady.refl
  | opened s =>
    cases o with
    | resolved => exact Or.inl (steady_await rfl)
    | _ => exact Or.inl Steady.refl
  | persisting s =>
    cases o with
    | persisted yes =>
      cases yes with
      | true => exact Or.inl (Steady.of_eq rfl rfl rfl rfl (Or.inr rfl))
      | false => exact Or.inl (steady_abort s)
    | _ => exact Or.inl Steady.refl
  | closed s loggedOut suppressed =>
    cases o with
    | resolved =>
      refine Or.inl ?_
      show Steady c (ite _ _ _)
      split
      · exact Steady.of_eq rfl rfl rfl rfl (Or.inl rfl)
      · exact steady_scheduleReconnect
    | _ => exact Or.inl Steady.refl
  | sending request =>
    cases o with
    | messageId id => exact Or.inl (steady_sendEnds request _)
    | rejected err => exact Or.inl (steady_sendEnds request (sendFailure err))
    | _ => exact Or.inl Steady.refl
  | _ => cases hf

def Restarts (c : Connector) (e : ConnectorEvent) : Prop :=
  ∃ j o, e = .ends j o ∧ c.pending[j]? = some .restarting

lemma goes_step (hc : Tidy c) {e : ConnectorEvent} (he : e.isCall = false) :
    Goes c (step cfg (now, e) c) (Restarts c e) := by
  cases e with
  | start generation => cases he
  | stop => cases he
  | restart generation => cases he
  | logout => cases he
  | requestPairingCode phoneNumber => cases he
  | send request => exact Or.inl (steady_send request)
  | reconnectTimer =>
    show Goes c (ite _ _ _) _
    split
    · rename_i htimer
      have hcleared : Tidy c.clearReconnectTimer := ⟨nofun, hc.pending⟩
      exact Or.inr ⟨Or.inl (hc.timer htimer), startedUnder_start hcleared _⟩
    · exact Or.inl Steady.refl
  | qrTimer =>
    show Goes c (ite _ _ _) _
    split
    · have hcleared : Steady c c.clearQrTimer := Steady.of_eq rfl rfl rfl rfl (Or.inl rfl)
      exact Or.inl (hcleared.trans steady_expireQr)
    · exact Or.inl Steady.refl
  | statusExpired => exact Or.inl steady_expireQr
  | heartbeat => exact Or.inl (Steady.of_eq rfl rfl rfl rfl (Or.inl rfl))
  | update s update =>
    show Goes c (ite _ _ _) _
    split
    · exact Or.inl (steady_update s update)
    · exact Or.inl Steady.refl
  | credentialFailure s =>
    show Goes c (ite _ _ _) _
    split
    · exact Or.inl (steady_abort s)
    · exact Or.inl Steady.refl
  | credentialsSaved => exact Or.inl (Steady.of_eq rfl rfl rfl rfl (Or.inl rfl))
  | otherAcquires token =>
    show Goes c (ite _ _ _) _
    split
    · exact Or.inl Steady.refl
    · exact Or.inl (Steady.of_eq rfl rfl rfl rfl (Or.inl rfl))
  | otherReleases token => exact Or.inl (Steady.of_eq rfl rfl rfl rfl (Or.inl rfl))
  | ends j o =>
    cases hj : c.pending[j]? with
    | none =>
      refine Or.inl ?_
      simp only [step, hj]
      exact Steady.refl
    | some f =>
      have htaken : Steady c { c with pending := c.pending.eraseIdx j } :=
        ⟨rfl, rfl, Or.inl, fun g hg => Or.inl (List.mem_of_mem_eraseIdx hg), Or.inl rfl⟩
      have hf := hc.pending f (List.mem_of_getElem? hj)
      simp only [step, hj]
      have hresume : Goes { c with pending := c.pending.eraseIdx j }
          (resume cfg now { c with pending := c.pending.eraseIdx j } f o) (f = .restarting) :=
        goes_resume (htaken.tidy hc) hf o
      rcases hresume with hsteady | ⟨hwhy, hd⟩
      · exact Or.inl (htaken.trans hsteady)
      · refine Or.inr ⟨hwhy.imp_right ?_, hd⟩
        rintro rfl
        exact ⟨j, o, rfl, hj⟩

/-! ## the generation of the status -/

def Synced (c : Connector) : Prop := c.account.status.generation = c.account.generation

lemma Steady.synced (h : Steady c d) (hc : Synced c) : Synced d := by
  unfold Synced at hc ⊢
  rw [h.generation]
  exact h.status.elim (fun hs => hs.trans hc) id

lemma StartedUnder.synced (h : StartedUnder n c) : Synced c :=
  h.status.trans h.generation.symm

lemma synced_stop : Synced (stop c) := rfl

lemma synced_restart (n : ℕ) : Synced (restart c (some n)) :=
  synced_stop (c := { c with account := { c.account with generation := n } })

lemma synced_logout (hc : Synced c) : Synced (logout c) := by
  have hclear : Synced ({ c with account := { c.account with stopped := true } } :
      Connector).clearQrTimer.clearReconnectTimer := hc
  exact steady_logoutSocket.synced hclear

lemma Goes.synced (h : Goes c d p) (hc : Synced c) : Synced d :=
  h.elim (fun hsteady => hsteady.synced hc) (fun hstarted => hstarted.2.synced)

lemma Goes.generation (h : Goes c d p) :
    d.account.generation = c.account.generation :=
  h.elim (fun hsteady => hsteady.generation) (fun hstarted => hstarted.2.generation)

lemma Goes.tidy (h : Goes c d p) (hc : Tidy c) : Tidy d :=
  h.elim (fun hsteady => hsteady.tidy hc) (fun hstarted => hstarted.2.tidy)

end Account

end NexusHelpdesk.Sidecar
