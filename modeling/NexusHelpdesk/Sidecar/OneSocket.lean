import NexusHelpdesk.Sidecar.Connector

/-!
# One owned socket per account

* `OneOwnedSocket`: one socket at most that has not ended, only with the lease and while the account
  is not stopped, and `connected` only while `account.socket` is the one that reported `open`;
* `Safe`: the steps that keep to it, by the state before them.  `start` does not look again at what
  happened while it waited, nor does `handleConnectionUpdate`;
* `Kept`: the invariant;
* `one_socket_iff`: **a run keeps to one owned socket in all its states if and only if every step is
  safe**;
* `stop_during_start`: **a `stop` while `start` waits leaves a socket without owner**.
-/

namespace NexusHelpdesk.Sidecar

open Lib

structure OneOwnedSocket (c : Connector) : Prop where
  one : c.live.length ≤ 1
  owned : c.live ≠ [] → HoldsLease c ∧ c.account.stopped = false
  connected : c.account.status.status = .connected →
    ∃ s, c.account.socket = some s ∧ c.reporter = some s

/-! ## safe steps -/

/-- `scheduleReconnect` gives up. -/
def Exhausted (cfg : ConnectorConfig) (c : Connector) : Prop :=
  (c.account.stopped || c.account.reconnectTimer) = false ∧
    cfg.reconnectMaxAttempts ≤ c.account.reconnectAttempts

instance (cfg : ConnectorConfig) (c : Connector) : Decidable (Exhausted cfg c) :=
  inferInstanceAs (Decidable (_ ∧ _))

def SafeEnd (cfg : ConnectorConfig) (c : Connector) (f : Frame) (o : Outcome) : Prop :=
  match f, o with
  -- `start` makes its socket
  | .fetchingVersion _, .resolved =>
    c.live = [] ∧ HoldsLease c ∧ c.account.stopped = false ∧ c.account.status.status ≠ .connected
  -- the credentials of an open socket are persisted
  | .persisting s, .persisted true => c.account.socket = some s
  -- the lease is given back
  | .startFailed _, .resolved => Exhausted cfg c → c.live = []
  | .closed _ loggedOut suppressed, .resolved =>
    (loggedOut = true ∨ suppressed = true ∨ c.account.stopped = true ∨ Exhausted cfg c) →
      c.live = []
  -- the socket is closed between two attempts
  | .pairCode attempt _, .rejected e =>
    isRetryablePairingError e = true → attempt < pairingCodeAttempts →
      c.account.status.status ≠ .connected
  | _, _ => True

def Safe (cfg : ConnectorConfig) (c : Connector) (e : ℕ × ConnectorEvent) : Prop :=
  match e.2 with
  -- the socket stays open while `socket.logout()` is awaited
  | .logout => c.live = []
  -- the lease is stale
  | .otherAcquires _ => c.live = [] ∨ ownerBusy cfg e.1 c = true
  | .ends i o =>
    match c.pending[i]? with
    | none => True
    | some f => SafeEnd cfg c f o
  | _ => True

/-! ## the invariant -/

structure Kept (c : Connector) : Prop extends OneOwnedSocket c where
  current : ∀ s ∈ c.live, c.account.socket = some s
  created : ∀ s, c.account.socket = some s → s < c.sockets

/-- nothing happens to the sockets or the lease, and the status becomes `connected` nowhere. -/
structure Calm (c d : Connector) : Prop where
  live : d.live = c.live
  socket : d.account.socket = c.account.socket
  sockets : d.sockets = c.sockets
  stopped : c.account.stopped = false → d.account.stopped = false
  lease : HoldsLease c → HoldsLease d
  status : d.account.status.status = .connected →
    c.account.status.status = .connected ∧ d.reporter = c.reporter

section Invariant
variable {cfg : ConnectorConfig} {now : ℕ} {c d e : Connector}

lemma Calm.trans (h : Calm c d) (h' : Calm d e) : Calm c e where
  live := h'.live.trans h.live
  socket := h'.socket.trans h.socket
  sockets := h'.sockets.trans h.sockets
  stopped := fun hc => h'.stopped (h.stopped hc)
  lease := fun hc => h'.lease (h.lease hc)
  status := by
    intro he
    obtain ⟨hd, hreporter⟩ := h'.status he
    obtain ⟨hc, hreporter'⟩ := h.status hd
    exact ⟨hc, hreporter.trans hreporter'⟩

lemma Kept.calm (h : Kept c) (hd : Calm c d) : Kept d where
  one := by
    rw [hd.live]
    exact h.one
  owned := by
    rw [hd.live]
    intro hne
    obtain ⟨hlease, hstopped⟩ := h.owned hne
    exact ⟨hd.lease hlease, hd.stopped hstopped⟩
  connected := by
    intro hstatus
    obtain ⟨hc, hreporter⟩ := hd.status hstatus
    rw [hd.socket, hreporter]
    exact h.connected hc
  current := by
    rw [hd.live, hd.socket]
    exact h.current
  created := by
    rw [hd.socket, hd.sockets]
    exact h.created

lemma Kept.of_idle (hlive : c.live = []) (hstatus : c.account.status.status ≠ .connected)
    (hcreated : ∀ s, c.account.socket = some s → s < c.sockets) : Kept c where
  one := by
    rw [hlive]
    exact Nat.zero_le 1
  owned := fun hne => absurd hlive hne
  connected := fun h => absurd h hstatus
  current := by
    rw [hlive]
    intro s hs
    cases hs
  created := hcreated

lemma calm_await (f : Frame) : Calm c (c.await f) := ⟨rfl, rfl, rfl, id, id, fun h => ⟨h, rfl⟩⟩

lemma calm_setStatus {f : Snapshot → Snapshot} (h : (f c.account.status).status ≠ .connected) :
    Calm c (c.setStatus f).emitStatus :=
  ⟨rfl, rfl, rfl, id, id, fun hf => absurd hf h⟩

lemma calm_expireQr : Calm c (expireQr c) := by
  unfold expireQr
  split
  · exact calm_setStatus nofun
  · exact ⟨rfl, rfl, rfl, id, id, fun h => ⟨h, rfl⟩⟩

lemma calm_started (attempt : Option ℕ) : Calm c (c.started attempt) := by
  cases attempt with
  | none => exact ⟨rfl, rfl, rfl, id, id, fun h => ⟨h, rfl⟩⟩
  | some n => exact calm_await _

/-! ## sockets that end -/

lemma Kept.endSocket (h : Kept c) (s : ℕ) : Kept (c.endSocket s) where
  one := (List.length_filter_le _ _).trans h.one
  owned := by
    intro hne
    refine h.owned ?_
    intro hnil
    refine hne ?_
    show c.live.filter _ = []
    rw [hnil]
    rfl
  connected := h.connected
  current := fun t ht => h.current t (List.mem_of_mem_filter ht)
  created := h.created

lemma filter_eq_nil_of_current {live : List ℕ} {socket : Option ℕ} {s : ℕ}
    (hcurrent : ∀ t ∈ live, socket = some t) (hs : socket = some s) :
    live.filter (· ≠ s) = [] := by
  refine List.filter_eq_nil_iff.2 ?_
  intro t ht
  have htwice := hcurrent t ht
  rw [hs] at htwice
  simp [Option.some.inj htwice]

lemma live_eq_nil (hcurrent : ∀ t ∈ c.live, c.account.socket = some t)
    (hs : c.account.socket = none) : c.live = [] := by
  refine List.eq_nil_iff_forall_not_mem.2 ?_
  intro t ht
  have := hcurrent t ht
  rw [hs] at this
  cases this

lemma closeSocket_closes (hcurrent : ∀ t ∈ c.live, c.account.socket = some t) :
    c.closeSocket.live = [] ∧ c.closeSocket.account.socket = none := by
  unfold Connector.closeSocket
  cases hs : c.account.socket with
  | none => exact ⟨live_eq_nil hcurrent hs, hs⟩
  | some s =>
    exact ⟨filter_eq_nil_of_current hcurrent hs, rfl⟩

lemma closeSocket_fields : c.closeSocket.sockets = c.sockets ∧
    c.closeSocket.account.status = c.account.status := by
  unfold Connector.closeSocket
  cases c.account.socket with
  | none => exact ⟨rfl, rfl⟩
  | some s => exact ⟨rfl, rfl⟩

lemma kept_stop (hcurrent : ∀ t ∈ c.live, c.account.socket = some t) : Kept (stop c) := by
  let b := ({ c with account := { c.account with stopped := true } } : Connector).clearQrTimer
  obtain ⟨hlive, hsocket⟩ := closeSocket_closes (c := b.clearReconnectTimer) hcurrent
  refine Kept.of_idle hlive nofun ?_
  intro s hs
  have hnone : (stop c).account.socket = none := hsocket
  rw [hnone] at hs
  cases hs

lemma kept_finishLogout (hcurrent : ∀ t ∈ c.live, c.account.socket = some t) :
    Kept (finishLogout c) := by
  obtain ⟨hlive, hsocket⟩ := closeSocket_closes hcurrent
  refine Kept.of_idle hlive nofun ?_
  intro s hs
  have hnone : (finishLogout c).account.socket = none := hsocket
  rw [hnone] at hs
  cases hs

lemma kept_abort (h : Kept c) (s : ℕ) : Kept (abortForCredentialFailure c s) := by
  have hend := h.endSocket s
  have hstatus : (abortForCredentialFailure c s).account.status.status ≠ .connected := nofun
  by_cases hs : c.account.socket = some s
  · refine Kept.of_idle (filter_eq_nil_of_current h.current hs) hstatus ?_
    intro t ht
    have hnone : (abortForCredentialFailure c s).account.socket = none := if_pos hs
    rw [hnone] at ht
    cases ht
  · refine hend.calm ⟨rfl, if_neg hs, rfl, id, id, fun h => absurd h hstatus⟩

lemma kept_handleConnection (h : Kept c) (s : ℕ) (update : ConnectionUpdate) :
    Kept (handleConnection c s update) := by
  unfold handleConnection
  split
  · exact h.calm ⟨rfl, rfl, rfl, id, id, fun h => by cases h⟩
  · rename_i loggedOut _
    dsimp only
    split
    · rename_i hs
      refine Kept.of_idle (filter_eq_nil_of_current h.current hs) ?_ ?_
      · cases loggedOut <;> nofun
      · intro t ht
        cases ht
    · exact (h.endSocket s).calm ⟨rfl, rfl, rfl, id, id, fun h => ⟨h, rfl⟩⟩
  · exact h

lemma kept_handleConnectionUpdate (h : Kept c) (s : ℕ) (update : ConnectionUpdate) :
    Kept (handleConnectionUpdate c s update) := by
  unfold handleConnectionUpdate
  split
  · exact h.calm (calm_await _)
  · exact kept_handleConnection h s update

/-! ## the lease -/

lemma not_holdsLease_releaseOwner : ¬HoldsLease c.releaseOwner := by
  rintro ⟨token, htoken, -⟩
  cases htoken

lemma Kept.releaseOwner (h : Kept c) (hlive : c.live = []) : Kept c.releaseOwner where
  one := h.one
  owned := fun hne => absurd hlive hne
  connected := h.connected
  current := h.current
  created := h.created

lemma live_of_released (h : OneOwnedSocket d) (hd : ¬HoldsLease d) : d.live = [] := by
  by_contra hne
  exact hd (h.owned hne).1

lemma kept_scheduleReconnect (h : Kept c) (hsafe : Exhausted cfg c → c.live = []) :
    Kept (scheduleReconnect cfg c) := by
  unfold scheduleReconnect
  split
  · exact h
  · rename_i hgo
    split
    · rename_i hmax
      have hlive := hsafe ⟨Bool.eq_false_iff.2 hgo, hmax⟩
      exact Kept.of_idle hlive nofun h.created
    · exact h.calm ⟨rfl, rfl, rfl, id, id, fun h => ⟨h, rfl⟩⟩

lemma live_of_scheduleReconnect (h : OneOwnedSocket (scheduleReconnect cfg c))
    (he : Exhausted cfg c) : c.live = [] := by
  have heq : (scheduleReconnect cfg c).live = c.live := by
    unfold scheduleReconnect
    rw [if_neg (by rw [he.1]; exact Bool.false_ne_true), if_pos he.2]
    rfl
  rw [← heq]
  refine live_of_released h ?_
  unfold scheduleReconnect
  rw [if_neg (by rw [he.1]; exact Bool.false_ne_true), if_pos he.2]
  exact not_holdsLease_releaseOwner

/-! ## start -/

lemma calm_startOwned (attempt : Option ℕ) : Calm c (startOwned c attempt) :=
  ⟨rfl, rfl, rfl, id, id, nofun⟩

lemma calm_startBusy : Calm c (startBusy c) := calm_setStatus nofun

lemma calm_acquireOwner (h : acquireOwner cfg now c = some d) (ho : c.account.owner = none) :
    Calm c d := by
  unfold acquireOwner at h
  split at h
  · cases h
  · cases h
    refine ⟨rfl, rfl, rfl, id, ?_, fun h => ⟨h, rfl⟩⟩
    rintro ⟨token, htoken, -⟩
    rw [ho] at htoken
    cases htoken

lemma calm_start (generation : Option ℤ) (attempt : Option ℕ) :
    Calm c (start cfg now c generation attempt) := by
  let n := (generation.map Int.toNat).getD c.account.generation
  let b : Connector := { c with
    account := { c.account with
      generation := n
      stopped := false
      status := { c.account.status with generation := n } } }
  have hb : Calm c b := ⟨rfl, rfl, rfl, fun _ => rfl, id, fun h => ⟨h, rfl⟩⟩
  have hclear : Calm b b.clearReconnectTimer := ⟨rfl, rfl, rfl, id, id, fun h => ⟨h, rfl⟩⟩
  refine hb.trans ?_
  show Calm b (if _ then _ else _)
  split
  · exact calm_started attempt
  · refine hclear.trans ?_
    split
    · exact calm_startOwned attempt
    · rename_i hnone
      split
      · exact calm_startBusy.trans (calm_started attempt)
      · rename_i d hd
        have howner : b.clearReconnectTimer.account.owner = none :=
          Option.not_isSome_iff_eq_none.1 hnone
        exact (calm_acquireOwner hd howner).trans (calm_startOwned attempt)

lemma calm_startCaught (attempt : Option ℕ) (e : ThrownError) :
    Calm c (startCaught c attempt e) := ⟨rfl, rfl, rfl, id, id, nofun⟩

lemma kept_createSocket (hlive : c.live = []) (hlease : HoldsLease c)
    (hstopped : c.account.stopped = false) (hstatus : c.account.status.status ≠ .connected) :
    Kept c.createSocket where
  one := by
    show (c.sockets :: c.live).length ≤ 1
    rw [hlive]
    exact le_refl 1
  owned := fun _ => ⟨hlease, hstopped⟩
  connected := fun h => absurd h hstatus
  current := by
    intro s hs
    have hmem : s ∈ c.sockets :: c.live := hs
    rw [hlive, List.mem_singleton] at hmem
    rw [hmem]
    rfl
  created := by
    intro s hs
    cases hs
    exact Nat.lt_succ_self _

lemma safe_of_createSocket (h : Kept c) (hone : OneOwnedSocket c.createSocket) :
    c.live = [] ∧ HoldsLease c ∧ c.account.stopped = false ∧
      c.account.status.status ≠ .connected := by
  have hlength : (c.sockets :: c.live).length ≤ 1 := hone.one
  have hlive : c.live = [] := by
    rw [List.length_cons] at hlength
    exact List.length_eq_zero_iff.1 (by omega)
  obtain ⟨hlease, hstopped⟩ := hone.owned (List.cons_ne_nil _ _)
  refine ⟨hlive, hlease, hstopped, ?_⟩
  intro hconnected
  obtain ⟨s, hs, hreporter⟩ := hone.connected hconnected
  obtain ⟨t, ht, hreporter'⟩ := h.connected hconnected
  -- the reporter is an older socket
  have hold := h.created t ht
  have hnew : c.sockets = s := Option.some.inj hs
  have hsame : c.reporter = some s := hreporter
  rw [hsame] at hreporter'
  rw [← Option.some.inj hreporter'] at hold
  omega

/-! ## pairing -/

lemma kept_pairingAttempt (hcurrent : ∀ t ∈ c.live, c.account.socket = some t) (attempt : ℕ) :
    Kept (pairingAttempt c attempt) := by
  unfold pairingAttempt
  split
  · exact (kept_stop hcurrent).calm (calm_await _)
  · exact (kept_stop hcurrent).calm (calm_await _)

lemma kept_pairingDelay (h : Kept c) (attempt : ℕ) : Kept (pairingDelay c attempt) := by
  unfold pairingDelay
  split
  · exact h.calm (calm_await _)
  · exact kept_pairingAttempt h.current _

lemma kept_requestPairingCode (h : Kept c) (phoneNumber : Text) :
    Kept (requestPairingCode c phoneNumber) := by
  unfold requestPairingCode
  dsimp only
  split
  · exact h
  · split
    · exact h
    · exact kept_pairingAttempt h.current 1

lemma kept_closeSocket (h : Kept c) (hstatus : c.account.status.status ≠ .connected) :
    Kept c.closeSocket := by
  obtain ⟨hlive, hsocket⟩ := closeSocket_closes h.current
  refine Kept.of_idle hlive ?_ ?_
  · rw [closeSocket_fields.2]
    exact hstatus
  · intro s hs
    rw [hsocket] at hs
    cases hs

lemma current_closeSocket (h : Kept c) :
    ∀ t ∈ c.closeSocket.live, c.closeSocket.account.socket = some t := by
  rw [(closeSocket_closes h.current).1]
  intro t ht
  cases ht

lemma calm_writeSendResult (key : Text) (result : SendResult) :
    Calm c (writeSendResult now c key result) := ⟨rfl, rfl, rfl, id, id, fun h => ⟨h, rfl⟩⟩

lemma calm_readSendResult (key : Text) : Calm c (readSendResult cfg now c key).2 := by
  unfold readSendResult
  split
  · exact ⟨rfl, rfl, rfl, id, id, fun h => ⟨h, rfl⟩⟩
  · split
    · exact ⟨rfl, rfl, rfl, id, id, fun h => ⟨h, rfl⟩⟩
    · exact ⟨rfl, rfl, rfl, id, id, fun h => ⟨h, rfl⟩⟩

lemma calm_send (request : SendRequest) : Calm c (send cfg now c request).2 := by
  have hread : Calm c (readSendResult cfg now c request.idempotencyKey).2 := calm_readSendResult _
  unfold send sendUnlessCached
  split
  · rename_i d hd
    rw [hd] at hread
    exact hread
  · rename_i d hd
    rw [hd] at hread
    refine hread.trans ?_
    split
    · exact calm_writeSendResult _ _
    · split
      · exact calm_writeSendResult _ _
      · split
        · exact calm_writeSendResult _ _
        · exact calm_await _

lemma calm_sendEnds (request : SendRequest) (result : SendResult) :
    Calm c (sendEnds now c request result) := by
  cases result with
  | sent messageId sentAt => exact ⟨rfl, rfl, rfl, id, id, fun h => ⟨h, rfl⟩⟩
  | failed code retryable => exact ⟨rfl, rfl, rfl, id, id, fun h => ⟨h, rfl⟩⟩

/-! ## steps -/

lemma kept_resume (h : Kept c) (f : Frame) (o : Outcome) (hsafe : SafeEnd cfg c f o) :
    Kept (resume cfg now c f o) := by
  cases f with
  | starting attempt =>
    cases o with
    | resolved => exact h.calm (calm_await _)
    | _ => exact h
  | authenticating attempt =>
    cases o with
    | resolved => exact h.calm (calm_await _)
    | rejected e => exact h.calm (calm_startCaught attempt e)
    | _ => exact h
  | fetchingVersion attempt =>
    cases o with
    | resolved =>
      obtain ⟨hlive, hlease, hstopped, hstatus⟩ := hsafe
      exact (kept_createSocket hlive hlease hstopped hstatus).calm (calm_started attempt)
    | rejected e => exact h.calm (calm_startCaught attempt e)
    | _ => exact h
  | startFailed attempt =>
    cases o with
    | resolved => exact (kept_scheduleReconnect h hsafe).calm (calm_started attempt)
    | _ => exact h
  | restarting =>
    cases o with
    | resolved => exact h.calm (calm_start _ _)
    | _ => exact h
  | loggingOut =>
    cases o with
    | resolved => exact kept_finishLogout h.current
    | rejected e => exact kept_finishLogout h.current
    | _ => exact h
  | qrImage s update captured =>
    cases o with
    | resolved => exact h.calm ⟨rfl, rfl, rfl, id, id, nofun⟩
    | _ => exact h
  | qrShown s update =>
    cases o with
    | resolved => exact kept_handleConnection h s update
    | _ => exact h
  | opened s =>
    cases o with
    | resolved => exact h.calm (calm_await _)
    | _ => exact h
  | persisting s =>
    cases o with
    | persisted yes =>
      cases yes with
      | true =>
        -- the status becomes `connected`
        exact { one := h.one, owned := h.owned, connected := fun _ => ⟨s, hsafe, rfl⟩,
                current := h.current, created := h.created }
      | false => exact kept_abort h s
    | _ => exact h
  | closed s loggedOut suppressed =>
    cases o with
    | resolved =>
      show Kept (if _ then _ else _)
      split
      · rename_i hrelease
        refine h.releaseOwner (hsafe ?_)
        rw [Bool.or_eq_true, Bool.or_eq_true] at hrelease
        tauto
      · refine kept_scheduleReconnect h fun he => hsafe ?_
        exact .inr (.inr (.inr he))
    | _ => exact h
  | pairStopped attempt =>
    cases o with
    | resolved =>
      have hclear : Calm c c.clearCredentials := ⟨rfl, rfl, rfl, id, id, fun h => ⟨h, rfl⟩⟩
      exact h.calm (hclear.trans (calm_start _ _))
    | _ => exact h
  | pairStarted attempt =>
    cases o with
    | resolved =>
      unfold resume
      dsimp only
      split
      · exact h.calm (calm_await _)
      · exact kept_pairingDelay h attempt
    | _ => exact h
  | pairReady attempt s =>
    cases o with
    | resolved =>
      show Kept (if _ then _ else _)
      split
      · exact h.calm (calm_await _)
      · exact kept_pairingAttempt h.current _
    | _ => exact h
  | pairCode attempt s =>
    cases o with
    | resolved => exact h.calm (calm_setStatus nofun)
    | rejected e =>
      show Kept (if _ then pairingDelay c.closeSocket attempt else _)
      split
      · rename_i hretry
        unfold pairingDelay
        split
        · rename_i hmore
          exact (kept_closeSocket h (hsafe hretry hmore)).calm (calm_await _)
        · exact kept_pairingAttempt (current_closeSocket h) _
      · exact (kept_stop (current_closeSocket h)).calm (calm_await _)
    | _ => exact h
  | pairSleeping attempt =>
    cases o with
    | resolved => exact kept_pairingAttempt h.current _
    | _ => exact h
  | pairGivenUp =>
    cases o with
    | resolved => exact h.calm ⟨rfl, rfl, rfl, id, id, fun h => ⟨h, rfl⟩⟩
    | _ => exact h
  | sending request =>
    cases o with
    | messageId id =>
      have hends : Calm c (sendEnds now c request (sendResult id now)) := calm_sendEnds _ _
      exact h.calm hends
    | rejected e =>
      have hends : Calm c (sendEnds now c request (sendFailure e)) := calm_sendEnds _ _
      exact h.calm hends
    | _ => exact h

lemma safe_of_resume (h : Kept c) (f : Frame) (o : Outcome)
    (hone : OneOwnedSocket (resume cfg now c f o)) : SafeEnd cfg c f o := by
  unfold SafeEnd
  split
  · rename_i attempt
    have hcreated : OneOwnedSocket c.createSocket := by
      cases attempt with
      | none => exact hone
      | some n => exact ⟨hone.one, hone.owned, hone.connected⟩
    exact safe_of_createSocket h hcreated
  · rename_i s
    obtain ⟨t, ht, hreporter⟩ := hone.connected rfl
    have hsocket : c.account.socket = some t := ht
    rw [hsocket, ← hreporter]
    rfl
  · rename_i attempt
    intro he
    have hscheduled : OneOwnedSocket (scheduleReconnect cfg c) := by
      cases attempt with
      | none => exact hone
      | some n => exact ⟨hone.one, hone.owned, hone.connected⟩
    exact live_of_scheduleReconnect hscheduled he
  · rename_i s loggedOut suppressed
    intro hcase
    change OneOwnedSocket (if _ then _ else _) at hone
    split at hone
    · have hlive : c.releaseOwner.live = [] :=
        live_of_released hone not_holdsLease_releaseOwner
      exact hlive
    · rename_i hkeep
      rw [Bool.or_eq_true, Bool.or_eq_true] at hkeep
      have he : Exhausted cfg c := by tauto
      exact live_of_scheduleReconnect hone he
  · rename_i attempt s e
    intro hretry hmore hconnected
    have hresult : resume cfg now c (.pairCode attempt s) (.rejected e) =
        c.closeSocket.await (.pairSleeping attempt) := by
      show (if _ then pairingDelay c.closeSocket attempt else _) = _
      rw [if_pos hretry]
      exact if_pos hmore
    rw [hresult] at hone
    have hstatus : c.closeSocket.account.status.status = .connected := by
      rw [closeSocket_fields.2]
      exact hconnected
    obtain ⟨t, ht, -⟩ := hone.connected hstatus
    have hnone := (closeSocket_closes h.current).2
    have hsome : c.closeSocket.account.socket = some t := ht
    rw [hnone] at hsome
    cases hsome
  · trivial

lemma calm_heartbeat : Calm c (step cfg (now, .heartbeat) c) := by
  refine ⟨rfl, rfl, rfl, id, ?_, fun h => ⟨h, rfl⟩⟩
  rintro ⟨token, howner, hlease⟩
  refine ⟨token, howner, ?_⟩
  show (c.lease.map _).map _ = _
  rw [Option.map_map, ← hlease]
  refine congrArg (Option.map · c.lease) ?_
  funext lease
  show (if _ then _ else _ : OwnerLease).token = lease.token
  split <;> rfl

lemma calm_otherReleases (token : ℕ) : Calm c (step cfg (now, .otherReleases token) c) := by
  refine ⟨rfl, rfl, rfl, id, ?_, fun h => ⟨h, rfl⟩⟩
  rintro ⟨own, howner, hlease⟩
  refine ⟨own, howner, ?_⟩
  obtain ⟨lease, hfile, htoken⟩ := Option.map_eq_some_iff.1 hlease
  show (c.lease.filter _).map _ = _
  rw [hfile, Option.filter_some_pos (by rw [htoken]; rfl), Option.map_some, htoken]

lemma kept_step (h : Kept c) (x : ℕ × ConnectorEvent) (hsafe : Safe cfg c x) :
    Kept (step cfg x c) := by
  obtain ⟨now, x⟩ := x
  cases x with
  | start generation => exact h.calm (calm_start _ _)
  | stop => exact kept_stop h.current
  | restart generation =>
    have hstop : Kept (stop { c with account := { c.account with
        generation := (generation.map Int.toNat).getD c.account.generation } }) :=
      kept_stop h.current
    exact hstop.calm (calm_await _)
  | logout =>
    show Kept (Sidecar.logout c)
    unfold Sidecar.logout
    dsimp only [Connector.clearQrTimer, Connector.clearReconnectTimer]
    split
    · exact
        { one := h.one, owned := fun hne => absurd hsafe hne, connected := h.connected,
          current := h.current, created := h.created }
    · exact kept_finishLogout h.current
  | requestPairingCode phoneNumber => exact kept_requestPairingCode h phoneNumber
  | send request => exact h.calm (calm_send request)
  | reconnectTimer =>
    have hclear : Calm c c.clearReconnectTimer := ⟨rfl, rfl, rfl, id, id, fun h => ⟨h, rfl⟩⟩
    show Kept (if _ then _ else _)
    split
    · exact h.calm (hclear.trans (calm_start _ _))
    · exact h
  | qrTimer =>
    have hclear : Calm c c.clearQrTimer := ⟨rfl, rfl, rfl, id, id, fun h => ⟨h, rfl⟩⟩
    show Kept (if _ then _ else _)
    split
    · exact h.calm (hclear.trans calm_expireQr)
    · exact h
  | statusExpired => exact h.calm calm_expireQr
  | heartbeat => exact h.calm calm_heartbeat
  | update s update =>
    show Kept (if _ then _ else _)
    split
    · exact kept_handleConnectionUpdate h s update
    · exact h
  | credentialFailure s =>
    show Kept (if _ then _ else _)
    split
    · exact kept_abort h s
    · exact h
  | credentialsSaved => exact h.calm ⟨rfl, rfl, rfl, id, id, fun h => ⟨h, rfl⟩⟩
  | otherAcquires token =>
    show Kept (if _ then _ else _)
    split
    · exact h
    · rename_i hfree
      have hlive : c.live = [] := hsafe.resolve_right hfree
      exact
        { one := h.one, owned := fun hne => absurd hlive hne, connected := h.connected,
          current := h.current, created := h.created }
  | otherReleases token => exact h.calm (calm_otherReleases token)
  | ends i o =>
    show Kept (match c.pending[i]? with
      | none => c
      | some f => resume cfg now { c with pending := c.pending.eraseIdx i } f o)
    change (match c.pending[i]? with
      | none => True
      | some f => SafeEnd cfg c f o) at hsafe
    split
    · exact h
    · rename_i f hf
      rw [hf] at hsafe
      have herase : Kept { c with pending := c.pending.eraseIdx i } :=
        h.calm ⟨rfl, rfl, rfl, id, id, fun h => ⟨h, rfl⟩⟩
      exact kept_resume herase f o hsafe

lemma safe_of_step (h : Kept c) (x : ℕ × ConnectorEvent) (hone : OneOwnedSocket (step cfg x c)) :
    Safe cfg c x := by
  obtain ⟨now, x⟩ := x
  unfold Safe
  dsimp only
  split
  · -- the account is stopped
    by_contra hne
    have hsocket : c.account.socket ≠ none := fun hnone => hne (live_eq_nil h.current hnone)
    obtain ⟨s, hs⟩ := Option.ne_none_iff_exists'.1 hsocket
    change OneOwnedSocket (logout c) at hone
    unfold logout at hone
    dsimp only [Connector.clearQrTimer, Connector.clearReconnectTimer] at hone
    rw [hs] at hone
    exact Bool.noConfusion (hone.owned hne).2
  · rename_i token
    rw [or_iff_not_imp_right]
    intro hfree
    change OneOwnedSocket (if _ then _ else _) at hone
    rw [if_neg hfree] at hone
    refine live_of_released (d := { c with lease := some ⟨.other token, now⟩ }) hone ?_
    rintro ⟨own, -, hlease⟩
    cases hlease
  · rename_i i o
    split
    · trivial
    · rename_i f hf
      have herase : Kept { c with pending := c.pending.eraseIdx i } :=
        h.calm ⟨rfl, rfl, rfl, id, id, fun h => ⟨h, rfl⟩⟩
      change OneOwnedSocket (match c.pending[i]? with
        | none => c
        | some f => resume cfg now { c with pending := c.pending.eraseIdx i } f o) at hone
      rw [hf] at hone
      exact safe_of_resume herase f o hone
  · trivial

lemma kept_initial (credentials : Bool) (lease : Option OwnerLease)
    (records : Text → Option SendRecord) : Kept (Connector.initial credentials lease records) :=
  Kept.of_idle rfl nofun nofun

end Invariant

theorem one_socket_iff (cfg : ConnectorConfig) (credentials : Bool) (lease : Option OwnerLease)
    (records : Text → Option SendRecord) (l : List (ℕ × ConnectorEvent)) :
    (∀ p, p <+: l →
      OneOwnedSocket (run (step cfg) (Connector.initial credentials lease records) p)) ↔
      Along (step cfg) (Safe cfg) (Connector.initial credentials lease records) l := by
  have hinit := kept_initial credentials lease records
  rw [forall_prefix_iff, and_iff_right hinit.toOneOwnedSocket]
  refine Along.congr (I := Kept) (A := fun _ _ => True) ?_ ?_ hinit (along_true _ _)
  · intro c x h _
    exact ⟨safe_of_step h x, fun hsafe => (kept_step h x hsafe).toOneOwnedSocket⟩
  · intro c x h _ hsafe
    exact kept_step h x hsafe

def sampleConfig : ConnectorConfig where
  ownerStaleMs := 300000
  reconnectMaxAttempts := 12
  idempotencyTtlMs := 86400000

/-- `stop` between the version and the socket of `start`. -/
def stopDuringStart : List (ℕ × ConnectorEvent) :=
  [(0, .start none), (1, .ends 0 .resolved), (2, .ends 0 .resolved), (3, .stop),
    (4, .ends 0 .resolved)]

/-- the socket is open although the account is stopped and its lease given back. -/
theorem stop_during_start : ¬OneOwnedSocket (run (step sampleConfig)
    (Connector.initial false none fun _ => none) stopDuringStart) := by
  intro h
  have hopen : (run (step sampleConfig) (Connector.initial false none fun _ => none)
      stopDuringStart).live ≠ [] := by decide
  obtain ⟨-, hstopped⟩ := h.owned hopen
  revert hstopped
  decide

end NexusHelpdesk.Sidecar
