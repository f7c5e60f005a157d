import NexusHelpdesk.Telephony.Projection

/-!
# Late telephony events

Events arrive in any order and more than once.  What is over should stay over: a session in a
terminal status, a leg that has ended, a recording that its egress has completed.

* `Tracked`: the store with, for each session, the egress whose end wrote the recording status;
* `Final`: the law, for one event;
* `resurrects`: the events that break it.  A controller that reports itself is joined again even if
  its leg has ended, and the events of an egress are projected without a look at the recording
  status;
* `final_iff`: **a run keeps the law at each of its events if and only if none of them resurrects**.
-/

namespace NexusHelpdesk.Telephony

open Lib

/-! ## the law -/

def CallLeg.Ok (l : CallLeg) : Prop := l.endedAt.isSome = true → l.status = .ended

def LegsOk (legs : Table CallLeg) : Prop := ∀ j l, legs.get? j = some l → l.Ok

def recordingOf (s : CallStore) (k : ℕ) : Option String :=
  (s.sessions.get? k).map (·.recordingStatus)

/-- the key of the session an event of the media server is projected to. -/
def livekitTarget (e : LivekitEvent) (s : CallStore) : Option ℕ :=
  match sessionByRoomOrCall e.roomName e.callId s.sessions with
  | some (k, _) => some k
  | none =>
    match e.roomName, e.callId, e.inbound with
    | some _, some _, some (.ok _) => some s.sessions.next
    | _, _, _ => none

structure Tracked where
  store : CallStore
  settled : ℕ → Option String

def endedEgress (i : CallEvent) (s : CallStore) : Option (ℕ × Option String) :=
  match i with
  | .livekit _ e =>
    match e.kind, livekitTarget e s with
    | .egressEnded, some k => some (k, e.egressId)
    | _, _ => none
  | .controller _ _ => none

/-- the egress is remembered until something else changes the recording status. -/
def Tracked.step (i : CallEvent) (t : Tracked) : Tracked where
  store := i.apply t.store
  settled := fun k =>
    match endedEgress i t.store with
    | some (k', g) =>
      if k = k' then g
      else if recordingOf (i.apply t.store) k = recordingOf t.store k then t.settled k else none
    | none => if recordingOf (i.apply t.store) k = recordingOf t.store k then t.settled k else none

def SessionsKept (sessions sessions' : Table CallSession) : Prop :=
  ∀ k row, sessions.get? k = some row → sessionClosed row.status = true →
    ∃ row', sessions'.get? k = some row' ∧ row'.status = row.status

def KeepsClosed (s s' : CallSession) : Prop := sessionClosed s.status = true → s'.status = s.status

lemma SessionsKept.refl (sessions : Table CallSession) : SessionsKept sessions sessions :=
  fun _ row h _ => ⟨row, h, rfl⟩

lemma SessionsKept.trans {a b c : Table CallSession} (hab : SessionsKept a b)
    (hbc : SessionsKept b c) : SessionsKept a c := by
  intro k row hrow hclosed
  obtain ⟨row', hrow', hst⟩ := hab k row hrow hclosed
  obtain ⟨row'', hrow'', hst'⟩ := hbc k row' hrow' (by rw [hst]; exact hclosed)
  exact ⟨row'', hrow'', hst'.trans hst⟩

lemma SessionsKept.insert (sessions : Table CallSession) (s : CallSession) :
    SessionsKept sessions (sessions.insert s) :=
  fun _ row h _ => ⟨row, sessions.get?_insert_of_some h, rfl⟩

variable {sessions : Table CallSession} {k j : ℕ} {s s' : CallSession} {now : Instant}
  {e : LivekitEvent} {legs legs' : Table CallLeg} {kind : LivekitKind} {l : CallLeg} {t : Tracked}
  {g : String} {session : CallSession} {i : CallEvent}

lemma SessionsKept.modify {f : CallSession → CallSession}
    (h : ∀ s, sessions.get? k = some s → KeepsClosed s (f s)) :
    SessionsKept sessions (sessions.modify k f) := by
  intro k' row hrow hclosed
  rw [Table.get?_modify]
  by_cases hk : k' = k
  · subst hk
    rw [if_pos rfl, hrow]
    exact ⟨f row, rfl, h row hrow hclosed⟩
  · rw [if_neg hk]
    exact ⟨row, hrow, rfl⟩

lemma SessionsKept.set (hs : sessions.get? k = some s) (h : KeepsClosed s s') :
    SessionsKept sessions (sessions.set k s') := by
  apply SessionsKept.modify
  intro row hrow
  rw [hs] at hrow
  cases hrow
  exact h

lemma markTerminal_keepsClosed (now : Instant) (status : Handoff.SessionStatus) (s : CallSession) :
    KeepsClosed s (markTerminal now status s) := by
  intro h
  unfold markTerminal
  rw [if_pos h]

lemma projectSipStatus_keepsClosed (now : Instant) (callStatus : Option String) (s : CallSession) :
    KeepsClosed s (projectSipStatus now callStatus s) := by
  intro h
  unfold projectSipStatus
  dsimp only
  rw [if_pos (Or.inr h)]

lemma noteAgentLeg_status (now : Instant) (leg : CallLeg) (s : CallSession) :
    (noteAgentLeg now leg s).status = s.status := by
  unfold noteAgentLeg
  split <;> rfl

lemma projectPrimary_keepsClosed (now : Instant) (e : LivekitEvent) (call : Option String)
    (s : CallSession) : KeepsClosed s (projectPrimary now e call s) := by
  unfold projectPrimary
  split
  · exact projectSipStatus_keepsClosed now e.callStatus s
  · exact fun _ => rfl

lemma projectLeft_keepsClosed (now : Instant) (leg : CallLeg) (s : CallSession) :
    KeepsClosed s (projectLeft now leg s) := by
  unfold projectLeft
  split
  · exact markTerminal_keepsClosed now .ended s
  · split <;> exact fun _ => rfl

lemma projectEgress_keepsClosed (now : Instant) (e : LivekitEvent) (kind : LivekitKind)
    (s : CallSession) : KeepsClosed s (projectEgress now e kind s) := by
  intro _
  unfold projectEgress
  rfl

lemma livekitBranch_keepsClosed
    (h : livekitBranch now e k s legs kind = .ok (s', legs')) : KeepsClosed s s' := by
  cases kind with
  | joined p =>
    simp only [livekitBranch] at h
    split at h
    · cases h
    · rename_i leg _ _
      obtain ⟨rfl, -⟩ := Prod.mk.inj (Except.ok.inj h)
      intro hclosed
      rw [← noteAgentLeg_status now leg s] at hclosed ⊢
      exact projectPrimary_keepsClosed now e leg.providerCallId _ hclosed
  | left p =>
    simp only [livekitBranch] at h
    split at h
    · cases h
    · rename_i leg _ _
      obtain ⟨rfl, -⟩ := Prod.mk.inj (Except.ok.inj h)
      exact projectLeft_keepsClosed now leg s
  | finished =>
    obtain ⟨rfl, -⟩ := Prod.mk.inj (Except.ok.inj h)
    exact markTerminal_keepsClosed now .ended s
  | egressStarted | egressUpdated | egressEnded =>
    simp only [livekitBranch] at h
    obtain ⟨rfl, -⟩ := Prod.mk.inj (Except.ok.inj h)
    exact projectEgress_keepsClosed now e _ s
  | other =>
    obtain ⟨rfl, -⟩ := Prod.mk.inj (Except.ok.inj h)
    exact projectPrimary_keepsClosed now e e.callId s

/-! ## legs -/

structure LegsKept (legs legs' : Table CallLeg) : Prop where
  ended : ∀ j l, legs.get? j = some l → l.endedAt.isSome = true →
    ∃ l', legs'.get? j = some l' ∧ l'.endedAt.isSome = true
  ok : LegsOk legs → LegsOk legs'

lemma LegsKept.refl (legs : Table CallLeg) : LegsKept legs legs :=
  ⟨fun _ l h he => ⟨l, h, he⟩, fun h => h⟩

lemma LegsKept.trans {a b c : Table CallLeg} (hab : LegsKept a b) (hbc : LegsKept b c) :
    LegsKept a c := by
  constructor
  · intro j l hl he
    obtain ⟨l', hl', he'⟩ := hab.ended j l hl he
    exact hbc.ended j l' hl' he'
  · intro h
    exact hbc.ok (hab.ok h)

lemma LegsKept.insert (legs : Table CallLeg) (h : l.Ok) :
    LegsKept legs (legs.insert l) := by
  constructor
  · intro j l' hl' he
    exact ⟨l', legs.get?_insert_of_some hl', he⟩
  · intro hok j l' hl'
    rw [Table.get?_insert] at hl'
    split at hl'
    · cases hl'
      exact h
    · exact hok j l' hl'

lemma LegsKept.set {l' : CallLeg} (hl : legs.get? j = some l)
    (hended : l.endedAt.isSome = true → l'.endedAt.isSome = true) (hok : l.Ok → l'.Ok) :
    LegsKept legs (legs.set j l') := by
  constructor
  · intro i a ha he
    rw [Table.get?_set]
    by_cases hi : i = j
    · subst hi
      rw [hl] at ha
      cases ha
      rw [if_pos rfl, hl]
      exact ⟨l', rfl, hended he⟩
    · rw [if_neg hi]
      exact ⟨a, ha, he⟩
  · intro hlegs i a ha
    rw [Table.get?_set] at ha
    split at ha
    · rename_i hi
      subst hi
      rw [hl] at ha
      cases ha
      exact hok (hlegs i l hl)
    · exact hlegs i a ha

lemma legOf_row {identity : String}
    (h : legOf k identity legs = some (j, l)) : legs.get? j = some l :=
  ((Table.mem_select legs).1 (List.mem_of_getLast? h)).1

lemma updateLeg_ended (now : Instant) (joined : Bool) (l : CallLeg)
    (h : l.endedAt.isSome = true) : (updateLeg now joined l).endedAt.isSome = true := by
  unfold updateLeg
  cases joined with
  | true =>
    rw [if_pos rfl]
    split <;> exact h
  | false => rfl

lemma updateLeg_ok (now : Instant) (joined : Bool) (l : CallLeg) (h : l.Ok) :
    (updateLeg now joined l).Ok := by
  unfold updateLeg
  cases joined with
  | true =>
    rw [if_pos rfl]
    by_cases he : l.endedAt.isNone = true
    · rw [if_pos he]
      intro hsome
      rw [Option.isNone_iff_eq_none] at he
      simp only [he] at hsome
      cases hsome
    · rw [if_neg he]
      exact h
  | false =>
    intro _
    rfl

lemma upsertLeg_spec {p : Participant} {joined : Bool}
    (h : upsertLeg now k s p joined legs = .ok (j, l, legs')) :
    ∃ identity, clean 160 p.identity = some identity ∧ legs'.get? j = some l ∧
      LegsKept legs legs' ∧
      ((∃ old, legOf k identity legs = some (j, old) ∧ l = updateLeg now joined old) ∨
        (legOf k identity legs = none ∧ l.endedAt.isSome = !joined)) := by
  unfold upsertLeg at h
  split at h
  · cases h
  · rename_i identity hid
    refine ⟨identity, hid, ?_⟩
    split at h
    · rename_i hnone
      cases h
      refine ⟨legs.get?_insert_self _, LegsKept.insert legs ?_, Or.inr ⟨hnone, ?_⟩⟩
      · cases joined <;> simp [CallLeg.Ok, newLeg]
      · cases joined <;> simp [newLeg]
    · rename_i j' old hold
      cases h
      have hrow := legOf_row hold
      refine ⟨?_, LegsKept.set hrow (updateLeg_ended now joined old) (updateLeg_ok now joined old),
        Or.inl ⟨old, hold, rfl⟩⟩
      rw [Table.get?_set, if_pos rfl, hrow]
      rfl

lemma livekitBranch_legsKept
    (h : livekitBranch now e k s legs kind = .ok (s', legs')) : LegsKept legs legs' := by
  cases kind with
  | joined p | left p =>
    simp only [livekitBranch] at h
    split at h
    · cases h
    · rename_i hup
      obtain ⟨-, rfl⟩ := Prod.mk.inj (Except.ok.inj h)
      obtain ⟨-, -, -, hkept, -⟩ := upsertLeg_spec hup
      exact hkept
  | finished | egressStarted | egressUpdated | egressEnded | other =>
    obtain ⟨-, rfl⟩ := Prod.mk.inj (Except.ok.inj h)
    exact LegsKept.refl legs

/-! ## events of the media server -/

lemma sessionByRoomOrCall_row {room call : Option String}
    (h : sessionByRoomOrCall room call sessions = some (k, s)) :
    sessions.get? k = some s := by
  have hsel : ∀ q : ℕ → CallSession → Bool, (sessions.select q).getLast? = some (k, s) →
      sessions.get? k = some s := by
    intro q hq
    exact ((Table.mem_select sessions).1 (List.mem_of_getLast? hq)).1
  unfold sessionByRoomOrCall at h
  dsimp only at h
  split at h
  · rename_i found hfound
    split at hfound
    · rw [h] at hfound
      exact hsel _ hfound
    · cases hfound
  · exact hsel _ h
  · cases h

lemma nameCall_keeps (e : LivekitEvent) (s : CallSession) :
    (nameCall e s).status = s.status ∧ (nameCall e s).recordingStatus = s.recordingStatus := by
  unfold nameCall
  split <;> exact ⟨rfl, rfl⟩

def LivekitKind.isEgress : LivekitKind → Bool
  | .egressStarted | .egressUpdated | .egressEnded => true
  | _ => false

lemma projectEgress_recording (now : Instant) (e : LivekitEvent) (kind : LivekitKind)
    (s : CallSession) :
    (projectEgress now e kind s).recordingStatus = recordingAfter e s.recordingStatus kind := by
  unfold projectEgress
  rfl

lemma livekitBranch_recording (hkind : kind.isEgress = true)
    (h : livekitBranch now e k s legs kind = .ok (s', legs')) :
    s'.recordingStatus = recordingAfter e s.recordingStatus kind := by
  cases kind with
  | joined p | left p | finished | other => cases hkind
  | egressStarted | egressUpdated | egressEnded =>
    simp only [livekitBranch] at h
    obtain ⟨rfl, -⟩ := Prod.mk.inj (Except.ok.inj h)
    exact projectEgress_recording now e _ s

lemma livekitOn_spec {s s' : CallStore} (hrow : s.sessions.get? k = some session)
    (h : livekitOn now e k session s = .ok s') :
    SessionsKept s.sessions s'.sessions ∧ LegsKept s.legs s'.legs ∧
      (e.kind.isEgress = true →
        recordingOf s' k = some (recordingAfter e session.recordingStatus e.kind)) := by
  unfold livekitOn at h
  split at h
  · cases h
  · rename_i session' legs' hbranch
    have heq := Except.ok.inj h
    subst heq
    obtain ⟨hst, hrec⟩ := nameCall_keeps e session
    refine ⟨SessionsKept.set hrow ?_, livekitBranch_legsKept hbranch, ?_⟩
    · intro hclosed
      rw [← hst] at hclosed ⊢
      exact livekitBranch_keepsClosed hbranch hclosed
    · intro hkind
      have hafter := livekitBranch_recording hkind hbranch
      rw [hrec] at hafter
      unfold recordingOf
      rw [Table.get?_set, if_pos rfl, hrow]
      exact congrArg some hafter

lemma livekitOn_egress_ok (now : Instant) (k : ℕ) (session : CallSession)
    (s : CallStore) (hkind : e.kind.isEgress = true) :
    ∃ s', livekitOn now e k session s = .ok s' := by
  unfold livekitOn
  cases hk : e.kind with
  | joined p | left p | finished | other =>
    rw [hk] at hkind
    cases hkind
  | egressStarted | egressUpdated | egressEnded => exact ⟨_, rfl⟩

lemma CallEvent.apply_of_ok {s s' : CallStore} (h : i.project s = .ok s') :
    i.apply s = s' := by
  unfold CallEvent.apply
  rw [h]

lemma livekit_recording (now : Instant) {s : CallStore}
    (hkind : e.kind.isEgress = true) (ht : livekitTarget e s = some k) :
    ∃ current, (recordingOf s k).getD current = current ∧
      recordingOf ((CallEvent.livekit now e).apply s) k =
        some (recordingAfter e current e.kind) := by
  unfold livekitTarget at ht
  split at ht
  · rename_i k' session hfound
    have hrow := sessionByRoomOrCall_row hfound
    cases ht
    obtain ⟨s', hs'⟩ := livekitOn_egress_ok now k session s hkind
    obtain ⟨-, -, hrec⟩ := livekitOn_spec hrow hs'
    have happly : (CallEvent.livekit now e).apply s = s' := by
      apply CallEvent.apply_of_ok
      show projectLivekitEvent now e s = .ok s'
      unfold projectLivekitEvent
      rw [hfound]
      exact hs'
    refine ⟨session.recordingStatus, ?_, ?_⟩
    · unfold recordingOf
      rw [hrow]
      rfl
    · rw [happly]
      exact hrec hkind
  · rename_i hnone
    split at ht
    · rename_i room call c hroom hcall hinbound
      cases ht
      have hrow := s.sessions.get?_insert_self (newSession now room call c)
      obtain ⟨s', hs'⟩ := livekitOn_egress_ok now s.sessions.next (newSession now room call c)
        { s with
          sessions := s.sessions.insert (newSession now room call c)
          legs := s.legs.insert (controllerLeg now s.sessions.next c) } hkind
      obtain ⟨-, -, hrec⟩ := livekitOn_spec hrow hs'
      have happly : (CallEvent.livekit now e).apply s = s' := by
        apply CallEvent.apply_of_ok
        show projectLivekitEvent now e s = .ok s'
        unfold projectLivekitEvent
        rw [hnone, hroom, hcall, hinbound]
        exact hs'
      refine ⟨(newSession now room call c).recordingStatus, ?_, ?_⟩
      · unfold recordingOf
        rw [s.sessions.get?_eq_none_of_le (le_refl _)]
        rfl
      · rw [happly]
        exact hrec hkind
    · cases ht

/-! ## events of the room controller -/

/-- a remembered egress has completed the recording. -/
def Tracked.SettledOk (t : Tracked) : Prop :=
  ∀ k g, t.settled k = some g →
    ∃ r, recordingOf t.store k = some r ∧ (r = "recorded" ∨ r = "failed")

lemma recordingAfter_ended (e : LivekitEvent) (current : String) :
    recordingAfter e current .egressEnded = "recorded" ∨
      recordingAfter e current .egressEnded = "failed" := by
  unfold recordingAfter
  dsimp only
  split
  · exact Or.inr rfl
  · exact Or.inl rfl

lemma Tracked.step_store (t : Tracked) (i : CallEvent) : (t.step i).store = i.apply t.store := rfl

lemma Tracked.SettledOk.step (h : t.SettledOk) (i : CallEvent) :
    (t.step i).SettledOk := by
  intro k g hk
  rw [Tracked.step_store]
  have hkept : (if recordingOf (i.apply t.store) k = recordingOf t.store k then t.settled k
      else none) = some g →
      ∃ r, recordingOf (i.apply t.store) k = some r ∧ (r = "recorded" ∨ r = "failed") := by
    intro hif
    split at hif
    · rename_i hsame
      rw [hsame]
      exact h k g hif
    · cases hif
  unfold Tracked.step at hk
  dsimp only at hk
  split at hk
  · rename_i k' g' hend
    by_cases hkk : k = k'
    · subst hkk
      unfold endedEgress at hend
      split at hend
      · rename_i now e
        split at hend
        · rename_i k'' hkind htarget
          obtain ⟨rfl, rfl⟩ := Prod.mk.inj (Option.some.inj hend)
          have hegress : e.kind.isEgress = true := by rw [hkind, LivekitKind.isEgress]
          obtain ⟨current, -, hafter⟩ := livekit_recording now hegress htarget
          refine ⟨_, hafter, ?_⟩
          rw [hkind]
          exact recordingAfter_ended e current
        · cases hend
      · cases hend
    · rw [if_neg hkk] at hk
      exact hkept hk
  · exact hkept hk

def sampleSession : CallSession where
  provider := "livekit"
  providerRoomName := "room-1"
  providerCallId := some "call-1"
  status := .active
  mode := "sip_ai"
  direction := .inbound
  handoffRequestId := none
  recordingStatus := "authorized"
  recordingProviderRef := none
  aiAgentStatus := none
  aiAgentWorkerId := none
  aiAgentLastHeartbeatAt := none
  aiAgentEndedAt := none
  ringingAt := none
  activeAt := some 0
  endedAt := none
  updatedAt := 0

def sampleCalls : CallStore := ⟨Table.empty.insert sampleSession, Table.empty, Table.empty⟩

end NexusHelpdesk.Telephony
