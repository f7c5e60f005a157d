import NexusHelpdesk.Sidecar.Connector

/-!
# A send is made once

`send` looks for a stored result, waits for the network and stores the result.

* `SentOnce`: `socket.sendMessage` was resolved with one message id at most for a key, and from then
  on a request for the key gets this id;
* `Undisturbed`: the steps that keep to it, by the state before them.  Once there is an id, no other
  send of the key comes back from the network, and the files of the account are not cleared;
* `Recorded`: the invariant;
* `sent_once_iff`: **a run sends once in all its states if and only if every step is undisturbed**;
* `overlapping_sends`: **two requests that overlap are both sent**.
-/

namespace NexusHelpdesk.Sidecar

open Lib

/-- the stored result of a key has not expired. -/
def InTime (cfg : ConnectorConfig) (now : ℕ) (c : Connector) (key : Text) : Prop :=
  ∀ r ∈ c.records key, now - r.createdAt ≤ cfg.idempotencyTtlMs

instance (cfg : ConnectorConfig) (now : ℕ) (c : Connector) (key : Text) :
    Decidable (InTime cfg now c key) :=
  inferInstanceAs (Decidable (∀ r ∈ c.records key, _))

structure SentOnce (cfg : ConnectorConfig) (key : Text) (c : Connector) : Prop where
  once : (c.sent.filter (·.1 = key)).length ≤ 1
  repeated : ∀ id, (key, id) ∈ c.sent → ∀ request now, request.idempotencyKey = key →
    InTime cfg now c key → ∃ sentAt, (send cfg now c request).1 = some (.sent id sentAt)

/-! ## undisturbed steps -/

/-- the requests for the key come before its result expires. -/
def OnTime (cfg : ConnectorConfig) (key : Text) (c : Connector) (e : ℕ × ConnectorEvent) : Prop :=
  match e.2 with
  | .send request => request.idempotencyKey = key → InTime cfg e.1 c key
  | _ => True

instance (cfg : ConnectorConfig) (key : Text) (c : Connector) :
    ∀ e, Decidable (OnTime cfg key c e)
  | (now, .send request) =>
    inferInstanceAs (Decidable (request.idempotencyKey = key → InTime cfg now c key))
  | (_, .start _) | (_, .stop) | (_, .restart _) | (_, .logout) | (_, .requestPairingCode _) |
    (_, .reconnectTimer) | (_, .qrTimer) | (_, .statusExpired) | (_, .heartbeat) |
    (_, .update _ _) | (_, .credentialFailure _) | (_, .credentialsSaved) |
    (_, .otherAcquires _) | (_, .otherReleases _) | (_, .ends _ _) =>
    inferInstanceAs (Decidable True)

/-- a send of the key comes back, or the files of the account are cleared. -/
def disturbingEnd (key : Text) : Frame → Outcome → Bool
  | .sending request, .messageId _ => request.idempotencyKey = key
  | .sending request, .rejected _ => request.idempotencyKey = key
  | .loggingOut, .resolved => true
  | .loggingOut, .rejected _ => true
  | .pairStopped _, .resolved => true
  | .pairGivenUp, .resolved => true
  | _, _ => false

def disturbs (key : Text) (c : Connector) (e : ℕ × ConnectorEvent) : Bool :=
  match e.2 with
  | .logout => c.account.socket.isNone
  | .ends i o => c.pending[i]?.any (disturbingEnd key · o)
  | _ => false

/-- nothing disturbs a key with a message id. -/
def Undisturbed (key : Text) (c : Connector) (e : ℕ × ConnectorEvent) : Prop :=
  key ∈ c.sent.map Prod.fst → disturbs key c e = false

instance (key : Text) (c : Connector) (e : ℕ × ConnectorEvent) : Decidable (Undisturbed key c e) :=
  inferInstanceAs (Decidable (_ → _))

/-- the one message id of the key is stored. -/
structure Recorded (key : Text) (c : Connector) : Prop where
  once : (c.sent.filter (·.1 = key)).length ≤ 1
  stored : ∀ id, (key, id) ∈ c.sent →
    ∃ createdAt sentAt, c.records key = some ⟨createdAt, .sent id sentAt⟩

section Invariant
variable {cfg : ConnectorConfig} {now : ℕ} {key : Text} {c d : Connector}
variable {request : SendRequest}

lemma send_stored {createdAt sentAt : ℕ} {id : Text}
    (hkey : request.idempotencyKey = key) (h : c.records key = some ⟨createdAt, .sent id sentAt⟩)
    (hnow : InTime cfg now c key) : send cfg now c request = (some (.sent id sentAt), c) := by
  have htime : now - createdAt ≤ cfg.idempotencyTtlMs := hnow _ h
  have hread : readSendResult cfg now c request.idempotencyKey = (some (.sent id sentAt), c) := by
    unfold readSendResult
    rw [hkey, h]
    dsimp only
    rw [if_neg]
    rintro (hlate | hretry)
    · omega
    · cases hretry
  unfold send sendUnlessCached
  rw [hread]

lemma stored_of_send {sentAt : ℕ} {id : Text} (hkey : request.idempotencyKey = key)
    (h : (send cfg now c request).1 = some (.sent id sentAt)) :
    ∃ createdAt, c.records key = some ⟨createdAt, .sent id sentAt⟩ := by
  have hread : (readSendResult cfg now c request.idempotencyKey).1 = some (.sent id sentAt) := by
    unfold send sendUnlessCached at h
    split at h
    · rename_i hr
      rw [hr]
      exact h
    · rename_i d hr
      rw [hr]
      split at h
      · cases h
      · split at h
        · rename_i refused hrefused
          obtain ⟨m, hm, hsize⟩ := Option.bind_eq_some_iff.1 hrefused
          unfold mediaRefused at hsize
          split at hsize
          · cases hsize
            cases h
          · cases hsize
        · split at h
          · cases h
          · cases h
  unfold readSendResult at hread
  rw [hkey] at hread
  split at hread
  · cases hread
  · rename_i r hr
    split at hread
    · cases hread
    · rw [hr, ← Option.some.inj hread]
      exact ⟨r.createdAt, rfl⟩

lemma sentOnce_iff : SentOnce cfg key c ↔ Recorded key c := by
  constructor
  · intro h
    refine ⟨h.once, ?_⟩
    intro id hid
    have hnow : InTime cfg 0 c key := by
      intro r hr
      omega
    obtain ⟨sentAt, hsend⟩ := h.repeated id hid ⟨key, none, none, none⟩ 0 rfl hnow
    obtain ⟨createdAt, hstored⟩ := stored_of_send rfl hsend
    exact ⟨createdAt, sentAt, hstored⟩
  · intro h
    refine ⟨h.once, ?_⟩
    intro id hid request now hkey hnow
    obtain ⟨createdAt, sentAt, hstored⟩ := h.stored id hid
    rw [send_stored hkey hstored hnow]
    exact ⟨sentAt, rfl⟩

/-! ## steps that leave the files alone -/

/-- the message ids and the stored results. -/
def Connector.files (c : Connector) : List (Text × Text) × (Text → Option SendRecord) :=
  (c.sent, c.records)

lemma files_closeSocket : c.closeSocket.files = c.files := by
  unfold Connector.closeSocket
  cases c.account.socket with
  | none => rfl
  | some s => rfl

lemma files_expireQr : (expireQr c).files = c.files := by
  unfold expireQr
  split
  · rfl
  · rfl

lemma files_scheduleReconnect : (scheduleReconnect cfg c).files = c.files := by
  unfold scheduleReconnect
  split
  · rfl
  · split
    · rfl
    · rfl

lemma files_started (attempt : Option ℕ) : (c.started attempt).files = c.files := by
  cases attempt with
  | none => rfl
  | some n => rfl

lemma files_start (generation : Option ℤ) (attempt : Option ℕ) :
    (start cfg now c generation attempt).files = c.files := by
  unfold start
  dsimp only
  split
  · exact files_started attempt
  · split
    · rfl
    · split
      · exact files_started attempt
      · rename_i d hd
        unfold acquireOwner at hd
        split at hd
        · cases hd
        · cases hd
          rfl

lemma files_stop : (stop c).files = c.files :=
  files_closeSocket (c := ({ c with account := { c.account with
    stopped := true } } : Connector).clearQrTimer.clearReconnectTimer)

lemma files_handleConnection (s : ℕ) (update : ConnectionUpdate) :
    (handleConnection c s update).files = c.files := by
  unfold handleConnection
  split
  · rfl
  · dsimp only
    split
    · rfl
    · rfl
  · rfl

lemma files_pairingAttempt (attempt : ℕ) : (pairingAttempt c attempt).files = c.files := by
  unfold pairingAttempt
  split
  · exact files_stop
  · exact files_stop

lemma files_pairingDelay (attempt : ℕ) : (pairingDelay c attempt).files = c.files := by
  unfold pairingDelay
  split
  · rfl
  · exact files_pairingAttempt _

lemma files_requestPairingCode (phoneNumber : Text) :
    (requestPairingCode c phoneNumber).files = c.files := by
  unfold requestPairingCode
  dsimp only
  split
  · rfl
  · split
    · rfl
    · exact files_pairingAttempt 1

/-! ## results that change -/

structure SameResult (key : Text) (c d : Connector) : Prop where
  sent : d.sent = c.sent
  records : d.records key = c.records key

lemma sameResult_of_files (h : d.files = c.files) : SameResult key c d := by
  obtain ⟨hsent, hrecords⟩ := Prod.mk.inj h
  exact ⟨hsent, congrFun hrecords key⟩

lemma SameResult.trans {e : Connector} (h : SameResult key c d) (h' : SameResult key d e) :
    SameResult key c e := ⟨h'.sent.trans h.sent, h'.records.trans h.records⟩

lemma Recorded.same (h : Recorded key c) (hd : SameResult key c d) : Recorded key d := by
  refine ⟨by rw [hd.sent]; exact h.once, ?_⟩
  rw [hd.sent, hd.records]
  exact h.stored

lemma recorded_of_not_sent (h : key ∉ c.sent.map Prod.fst) : Recorded key c := by
  have hnone : ∀ id, (key, id) ∉ c.sent := fun id hid =>
    h (List.mem_map.2 ⟨(key, id), hid, rfl⟩)
  refine ⟨?_, fun id hid => absurd hid (hnone id)⟩
  rw [List.filter_eq_nil_iff.2]
  · exact Nat.zero_le 1
  · rintro ⟨k, id⟩ hmem hk
    obtain rfl : k = key := by simpa using hk
    exact hnone id hmem

lemma sameResult_write {key' : Text} (hkey : key' ≠ key) (result : SendResult) :
    SameResult key c (writeSendResult now c key' result) :=
  ⟨rfl, Function.update_of_ne hkey.symm _ _⟩

lemma sent_send (request : SendRequest) : (send cfg now c request).2.sent = c.sent := by
  have hread : (readSendResult cfg now c request.idempotencyKey).2.sent = c.sent := by
    unfold readSendResult
    split
    · rfl
    · split
      · rfl
      · rfl
  unfold send sendUnlessCached
  split
  · rename_i hr
    rw [hr] at hread
    exact hread
  · rename_i hr
    rw [hr] at hread
    rw [← hread]
    split
    · rfl
    · split
      · rfl
      · split
        · rfl
        · rfl

lemma sameResult_send (hkey : request.idempotencyKey ≠ key) :
    SameResult key c (send cfg now c request).2 := by
  have hread : SameResult key c (readSendResult cfg now c request.idempotencyKey).2 := by
    unfold readSendResult
    split
    · exact ⟨rfl, rfl⟩
    · split
      · exact ⟨rfl, Function.update_of_ne hkey.symm _ _⟩
      · exact ⟨rfl, rfl⟩
  unfold send sendUnlessCached
  split
  · rename_i hr
    rw [hr] at hread
    exact hread
  · rename_i hr
    rw [hr] at hread
    refine hread.trans ?_
    split
    · exact sameResult_write hkey _
    · split
      · exact sameResult_write hkey _
      · split
        · exact sameResult_write hkey _
        · exact ⟨rfl, rfl⟩

lemma once_sendEnds (hkey : request.idempotencyKey ≠ key)
    (h : Recorded key c) (result : SendResult) : Recorded key (sendEnds now c request result) := by
  have hrecords : (sendEnds now c request result).records key = c.records key := by
    unfold sendEnds
    cases result with
    | sent id sentAt => exact Function.update_of_ne hkey.symm _ _
    | failed code retryable => exact Function.update_of_ne hkey.symm _ _
  cases result with
  | failed code retryable => exact h.same ⟨rfl, hrecords⟩
  | sent id sentAt =>
    constructor
    · show (((request.idempotencyKey, id) :: c.sent).filter _).length ≤ 1
      rw [List.filter_cons_of_neg (by simpa using hkey)]
      exact h.once
    · intro id' hid'
      rw [hrecords]
      have hmem : (key, id') ∈ (request.idempotencyKey, id) :: c.sent := hid'
      rcases List.mem_cons.1 hmem with heq | hold
      · exact absurd (congrArg Prod.fst heq).symm hkey
      · exact h.stored id' hold

lemma first_sendEnds (hkey : request.idempotencyKey = key)
    (h : key ∉ c.sent.map Prod.fst) (result : SendResult) :
    Recorded key (sendEnds now c request result) := by
  cases result with
  | failed code retryable => exact recorded_of_not_sent h
  | sent id sentAt =>
    have hnone := (recorded_of_not_sent h).once
    have hfilter : c.sent.filter (·.1 = key) = [] := by
      refine List.filter_eq_nil_iff.2 ?_
      rintro ⟨k, id'⟩ hmem hk
      obtain rfl : k = key := by simpa using hk
      exact h (List.mem_map.2 ⟨(k, id'), hmem, rfl⟩)
    constructor
    · show (((request.idempotencyKey, id) :: c.sent).filter _).length ≤ 1
      rw [List.filter_cons_of_pos (by simpa using hkey), hfilter]
      exact le_refl 1
    · intro id' hid'
      have hmem : (key, id') ∈ (request.idempotencyKey, id) :: c.sent := hid'
      rcases List.mem_cons.1 hmem with heq | hold
      · obtain ⟨-, rfl⟩ := Prod.mk.inj heq
        refine ⟨now, sentAt, ?_⟩
        show Function.update c.records request.idempotencyKey _ key = _
        rw [hkey, Function.update_self]
        rfl
      · exact absurd (List.mem_map.2 ⟨(key, id'), hold, rfl⟩) h

/-- a second send of a key that comes back with a message id, or not to be kept, disturbs it. -/
lemma not_recorded_sendEnds (hkey : request.idempotencyKey = key)
    (h : key ∈ c.sent.map Prod.fst) {result : SendResult}
    (hresult : (∃ id sentAt, result = .sent id sentAt) ∨ result.retryable = true) :
    ¬Recorded key (sendEnds now c request result) := by
  intro hrec
  obtain ⟨⟨k, id⟩, hmem, rfl⟩ := List.mem_map.1 h
  rcases hresult with ⟨id', sentAt, rfl⟩ | hretry
  · have hlength : (((request.idempotencyKey, id') :: c.sent).filter (·.1 = k)).length ≤ 1 :=
      hrec.once
    rw [List.filter_cons_of_pos (by simpa using hkey), List.length_cons] at hlength
    have hin : (k, id) ∈ c.sent.filter (·.1 = k) := List.mem_filter.2 ⟨hmem, by simp⟩
    have hpos := List.length_pos_of_mem hin
    omega
  · have hsent : (k, id) ∈ (sendEnds now c request result).sent := by
      cases result with
      | sent _ _ => cases hretry
      | failed _ _ => exact hmem
    obtain ⟨createdAt, sentAt, hstored⟩ := hrec.stored id hsent
    have hnone : (sendEnds now c request result).records k = none := by
      unfold sendEnds
      cases result with
      | sent _ _ => cases hretry
      | failed _ _ =>
        show Function.update c.records request.idempotencyKey (if _ then _ else _) k = none
        rw [hkey, Function.update_self, if_pos hretry]
    rw [hnone] at hstored
    cases hstored

lemma not_recorded_cleared (h : key ∈ c.sent.map Prod.fst) (hsent : d.sent = c.sent)
    (hcleared : d.records key = none) : ¬Recorded key d := by
  intro hrec
  obtain ⟨⟨k, id⟩, hmem, rfl⟩ := List.mem_map.1 h
  rw [← hsent] at hmem
  obtain ⟨createdAt, sentAt, hstored⟩ := hrec.stored id hmem
  rw [hcleared] at hstored
  cases hstored

/-! ## steps -/

lemma files_resume (f : Frame) (o : Outcome)
    (hsend : ∀ request, f ≠ .sending request) (h : disturbingEnd key f o = false) :
    (resume cfg now c f o).files = c.files := by
  unfold resume
  split
  · rfl
  · rfl
  · rfl
  · exact files_started (c := c.createSocket) _
  · rfl
  · exact (files_started _).trans files_scheduleReconnect
  · exact files_start _ _
  · cases h
  · cases h
  · rfl
  · exact files_handleConnection _ _
  · rfl
  · rfl
  · rfl
  · split
    · rfl
    · exact files_scheduleReconnect
  · cases h
  · split
    · rfl
    · exact files_pairingDelay _
  · split
    · rfl
    · exact files_pairingAttempt _
  · rfl
  · split
    · exact (files_pairingDelay _).trans files_closeSocket
    · exact (files_stop (c := c.closeSocket)).trans files_closeSocket
  · exact files_pairingAttempt _
  · cases h
  · exact absurd rfl (hsend _)
  · exact absurd rfl (hsend _)
  · rfl

lemma recorded_resume_iff (h : Recorded key c) (f : Frame) (o : Outcome) :
    Recorded key (resume cfg now c f o) ↔
      (key ∈ c.sent.map Prod.fst → disturbingEnd key f o = false) := by
  have hends : ∀ request result, ((∃ id sentAt, result = .sent id sentAt) ∨
      result.retryable = true) → (Recorded key (sendEnds now c request result) ↔
        (key ∈ c.sent.map Prod.fst → decide (request.idempotencyKey = key) = false)) := by
    intro request result hresult
    rw [decide_eq_false_iff_not]
    constructor
    · intro hrec hmem hkey
      exact not_recorded_sendEnds hkey hmem hresult hrec
    · intro hfree
      by_cases hkey : request.idempotencyKey = key
      · exact first_sendEnds hkey (fun hmem => hfree hmem hkey) result
      · exact once_sendEnds hkey h result
  have hcleared : ∀ d : Connector, d.sent = c.sent → d.records key = none →
      (Recorded key d ↔ (key ∈ c.sent.map Prod.fst → true = false)) := by
    intro d hsent hnone
    constructor
    · intro hrec hmem
      exact absurd hrec (not_recorded_cleared hmem hsent hnone)
    · intro hfree
      refine recorded_of_not_sent ?_
      rw [hsent]
      exact fun hmem => Bool.noConfusion (hfree hmem)
  by_cases hsend : ∃ request, f = .sending request
  · obtain ⟨request, rfl⟩ := hsend
    cases o with
    | messageId id =>
      refine hends request (sendResult id now) ?_
      unfold sendResult
      split
      · exact .inr rfl
      · exact .inl ⟨_, _, rfl⟩
    | rejected e => exact hends request (sendFailure e) (.inr rfl)
    | resolved => exact iff_of_true h fun _ => rfl
    | persisted yes => exact iff_of_true h fun _ => rfl
  · by_cases hd : disturbingEnd key f o = false
    · have hfiles : (resume cfg now c f o).files = c.files :=
        files_resume f o (fun request hf => hsend ⟨request, hf⟩) hd
      exact iff_of_true (h.same (sameResult_of_files hfiles)) fun _ => hd
    · rw [Bool.not_eq_false] at hd
      rw [hd]
      refine hcleared _ ?_ ?_
      · unfold disturbingEnd at hd
        split at hd
        · exact absurd ⟨_, rfl⟩ hsend
        · exact absurd ⟨_, rfl⟩ hsend
        · exact congrArg Prod.fst (files_closeSocket (c := c))
        · exact congrArg Prod.fst (files_closeSocket (c := c))
        · exact congrArg Prod.fst (files_start (c := c.clearCredentials) _ _)
        · rfl
        · cases hd
      · unfold disturbingEnd at hd
        split at hd
        · exact absurd ⟨_, rfl⟩ hsend
        · exact absurd ⟨_, rfl⟩ hsend
        · rfl
        · rfl
        · exact congrFun (congrArg Prod.snd (files_start (c := c.clearCredentials) _ _)) key
        · rfl
        · cases hd

lemma recorded_send (h : Recorded key c)
    (htime : request.idempotencyKey = key → InTime cfg now c key) :
    Recorded key (send cfg now c request).2 := by
  by_cases hkey : request.idempotencyKey = key
  · by_cases hmem : key ∈ c.sent.map Prod.fst
    · obtain ⟨⟨k, id⟩, hin, hk⟩ := List.mem_map.1 hmem
      obtain rfl : k = key := hk
      obtain ⟨createdAt, sentAt, hstored⟩ := h.stored id hin
      rw [send_stored hkey hstored (htime hkey)]
      exact h
    · refine recorded_of_not_sent ?_
      rw [sent_send]
      exact hmem
  · exact h.same (sameResult_send hkey)

lemma recorded_step_iff (h : Recorded key c) (x : ℕ × ConnectorEvent)
    (htime : OnTime cfg key c x) : Recorded key (step cfg x c) ↔ Undisturbed key c x := by
  obtain ⟨now, x⟩ := x
  have hquiet : ∀ {d : Connector}, d.files = c.files → Recorded key d := fun hd =>
    h.same (sameResult_of_files hd)
  cases x with
  | start generation => exact iff_of_true (hquiet (files_start _ _)) fun _ => rfl
  | stop => exact iff_of_true (hquiet files_stop) fun _ => rfl
  | restart generation =>
    refine iff_of_true (hquiet ?_) fun _ => rfl
    exact files_stop (c := { c with account := { c.account with
      generation := (generation.map Int.toNat).getD c.account.generation } })
  | logout =>
    show Recorded key (logout c) ↔ (_ → c.account.socket.isNone = false)
    unfold logout
    dsimp only [Connector.clearQrTimer, Connector.clearReconnectTimer]
    cases hs : c.account.socket with
    | some s => exact iff_of_true (hquiet rfl) fun _ => rfl
    | none =>
      show Recorded key (finishLogout _) ↔ _
      have hsent : ∀ d : Connector, (finishLogout d).sent = d.sent := fun d =>
        congrArg Prod.fst (files_closeSocket (c := d))
      constructor
      · intro hrec hmem
        exact absurd hrec (not_recorded_cleared hmem (hsent _) rfl)
      · intro hfree
        refine recorded_of_not_sent ?_
        rw [hsent]
        exact fun hmem => Bool.noConfusion (hfree hmem)
  | requestPairingCode phoneNumber =>
    exact iff_of_true (hquiet (files_requestPairingCode _)) fun _ => rfl
  | send request => exact iff_of_true (recorded_send h htime) fun _ => rfl
  | reconnectTimer =>
    refine iff_of_true ?_ fun _ => rfl
    show Recorded key (if _ then _ else _)
    split
    · exact hquiet (files_start (c := c.clearReconnectTimer) _ _)
    · exact h
  | qrTimer =>
    refine iff_of_true ?_ fun _ => rfl
    show Recorded key (if _ then _ else _)
    split
    · exact hquiet (files_expireQr (c := c.clearQrTimer))
    · exact h
  | statusExpired => exact iff_of_true (hquiet files_expireQr) fun _ => rfl
  | heartbeat => exact iff_of_true (hquiet rfl) fun _ => rfl
  | update s update =>
    refine iff_of_true ?_ fun _ => rfl
    show Recorded key (if _ then handleConnectionUpdate c s update else _)
    split
    · unfold handleConnectionUpdate
      split
      · exact hquiet rfl
      · exact hquiet (files_handleConnection _ _)
    · exact h
  | credentialFailure s =>
    refine iff_of_true ?_ fun _ => rfl
    show Recorded key (if _ then _ else _)
    split
    · exact hquiet rfl
    · exact h
  | credentialsSaved => exact iff_of_true (hquiet rfl) fun _ => rfl
  | otherAcquires token =>
    refine iff_of_true ?_ fun _ => rfl
    show Recorded key (if _ then _ else _)
    split
    · exact h
    · exact hquiet rfl
  | otherReleases token => exact iff_of_true (hquiet rfl) fun _ => rfl
  | ends i o =>
    show _ ↔ (_ → c.pending[i]?.any (disturbingEnd key · o) = false)
    unfold step
    dsimp only
    cases hf : c.pending[i]? with
    | none => exact iff_of_true h fun _ => rfl
    | some f =>
      have herase : Recorded key { c with pending := c.pending.eraseIdx i } := h.same ⟨rfl, rfl⟩
      exact recorded_resume_iff herase f o

end Invariant

theorem sent_once_iff (cfg : ConnectorConfig) (key : Text) (credentials : Bool)
    (lease : Option OwnerLease) (records : Text → Option SendRecord)
    (l : List (ℕ × ConnectorEvent))
    (htime : Along (step cfg) (OnTime cfg key) (Connector.initial credentials lease records) l) :
    (∀ p, p <+: l →
      SentOnce cfg key (run (step cfg) (Connector.initial credentials lease records) p)) ↔
      Along (step cfg) (Undisturbed key) (Connector.initial credentials lease records) l := by
  have hinit : Recorded key (Connector.initial credentials lease records) :=
    recorded_of_not_sent List.not_mem_nil
  rw [forall_prefix_iff, and_iff_right (sentOnce_iff.2 hinit)]
  refine Along.congr (I := Recorded key) (A := OnTime cfg key) ?_ ?_ hinit htime
  · intro c x h hx
    exact sentOnce_iff.trans (recorded_step_iff h x hx)
  · intro c x h hx hfree
    exact (recorded_step_iff h x hx).2 hfree

/-! ## requests one after the other, and at once -/

def sendConfig : ConnectorConfig where
  ownerStaleMs := 300000
  reconnectMaxAttempts := 12
  idempotencyTtlMs := 86400000

/-- `start` up to the status `connected`. -/
def connecting : List (ℕ × ConnectorEvent) :=
  [(0, .start none), (1, .ends 0 .resolved), (2, .ends 0 .resolved), (3, .ends 0 .resolved),
    (4, .update 0 ⟨false, some .opened, none⟩), (5, .ends 0 .resolved),
    (6, .ends 0 (.persisted true))]

def sampleRequest : SendRequest where
  idempotencyKey := ['k']
  target := some ['1']
  chatJid := none
  media := none

def sendTwice : List (ℕ × ConnectorEvent) :=
  connecting ++ [(7, .send sampleRequest), (8, .ends 0 (.messageId (some ['a']))),
    (9, .send sampleRequest)]

theorem sent_once_sendTwice : SentOnce sendConfig ['k']
    (run (step sendConfig) (Connector.initial false none fun _ => none) sendTwice) := by
  refine (sent_once_iff sendConfig ['k'] false none (fun _ => none) sendTwice ?_).2 ?_ _
    List.prefix_rfl
  · decide +kernel
  · decide +kernel

def overlappingSends : List (ℕ × ConnectorEvent) :=
  connecting ++ [(7, .send sampleRequest), (8, .send sampleRequest),
    (9, .ends 0 (.messageId (some ['a']))), (10, .ends 0 (.messageId (some ['b'])))]

theorem overlapping_sends : ¬SentOnce sendConfig ['k']
    (run (step sendConfig) (Connector.initial false none fun _ => none) overlappingSends) := by
  intro h
  have hboth : 1 < ((run (step sendConfig) (Connector.initial false none fun _ => none)
      overlappingSends).sent.filter (·.1 = ['k'])).length := by decide +kernel
  exact absurd h.once (not_le_of_gt hboth)

end NexusHelpdesk.Sidecar
