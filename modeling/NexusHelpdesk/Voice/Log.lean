import NexusHelpdesk.Lib.Appends
import NexusHelpdesk.Webchat.Stranded
import NexusHelpdesk.Voice.Turn

/-!
# The log of a conversation

Messages are only ever added, and a turn keeps the message that triggered it.

* `Evolves`: what every transaction of the conversation does to messages and turns;
* `chat_evolves`: **every step of the text conversation evolves it**;
* `Leaves`: an open turn that the active pointer or a live job would bring to its end still has one
  of them.
-/

namespace NexusHelpdesk.Voice

open Lib Jobs Webchat

/-! ## messages and triggers -/

/-- messages and triggers stay; a new turn was triggered by a new message. -/
structure Evolves (d d' : Chat) : Prop where
  messages : Table.Appends d.messages d'.messages
  kept : ∀ t row, d.turns.get? t = some row →
    ∃ row', d'.turns.get? t = some row' ∧ row'.triggerMessageId = row.triggerMessageId
  fresh : ∀ t row', d'.turns.get? t = some row' →
    (∃ row, d.turns.get? t = some row) ∨ d.messages.next ≤ row'.triggerMessageId

section Evolves
variable {d d' d'' : Chat}

lemma Evolves.trans (h : Evolves d d') (h' : Evolves d' d'') : Evolves d d'' := by
  refine ⟨h.messages.trans h'.messages, ?_, ?_⟩
  · intro t row hrow
    obtain ⟨row', hrow', heq⟩ := h.kept t row hrow
    obtain ⟨row'', hrow'', heq'⟩ := h'.kept t row' hrow'
    exact ⟨row'', hrow'', heq'.trans heq⟩
  · intro t row'' hrow''
    rcases h'.fresh t row'' hrow'' with ⟨row', hrow'⟩ | hnew
    · rcases h.fresh t row' hrow' with hold | hnew
      · exact Or.inl hold
      · obtain ⟨row₂, hrow₂, heq⟩ := h'.kept t row' hrow'
        cases hrow₂.symm.trans hrow''
        rw [heq]
        exact Or.inr hnew
    · exact Or.inr (h.messages.next.trans hnew)

lemma SameLinks.evolves (h : SameLinks d d') : Evolves d d' := by
  refine ⟨h.messages ▸ Table.Appends.refl _, ?_, ?_⟩
  · intro t row hrow
    obtain ⟨row', hrow', hlink⟩ := h.turn_link hrow
    exact ⟨row', hrow', (Prod.mk.inj hlink).2⟩
  · intro t row' hrow'
    obtain ⟨row, hrow, -⟩ := h.turn_of hrow'
    exact Or.inl ⟨row, hrow⟩

lemma Tidy.evolves (h : Tidy d d') : Evolves d d' := SameLinks.evolves h.toSameLinks

lemma Evolves.refl (d : Chat) : Evolves d d := Tidy.evolves (Tidy.refl d)

lemma evolves_addMessage (d : Chat) (m : WebchatMessage) : Evolves d (d.addMessage m) :=
  ⟨Table.appends_insert _ m, fun t row h => ⟨row, h, rfl⟩, fun t row h => Or.inl ⟨row, h⟩⟩

lemma Evolves.frame (h : Evolves d d') (hm : d''.messages = d'.messages)
    (ht : d''.turns = d'.turns) : Evolves d d'' := by
  obtain ⟨hmessages, hkept, hfresh⟩ := h
  rw [← hm] at hmessages
  rw [← ht] at hkept hfresh
  exact ⟨hmessages, hkept, hfresh⟩

lemma evolves_newTurn (d : Chat) (m : WebchatMessage) (row : WebchatAITurn)
    (hrow : row.triggerMessageId = d.messages.next) :
    Evolves d { d.addMessage m with turns := d.turns.insert row } := by
  refine ⟨Table.appends_insert _ m, fun t r h => ⟨r, Table.get?_insert_of_some _ h, rfl⟩, ?_⟩
  intro t row' hrow'
  change (d.turns.insert row).get? t = some row' at hrow'
  rw [Table.get?_insert] at hrow'
  split at hrow'
  · cases hrow'
    exact Or.inr hrow.ge
  · exact Or.inl ⟨row', hrow'⟩

lemma evolves_modifyJob (j : ℕ) (f : BackgroundJob → BackgroundJob) : Evolves d (d.modifyJob j f) :=
  (Evolves.refl d).frame rfl rfl

end Evolves

/-! ## the text conversation -/

section Chat
variable {d d' : Chat}
variable {now : Instant} {rejected : Bool}

lemma finalize_evolves {j : ℕ}
    (h : finalizeDeadWebchatAiJob now rejected j d = .ok d') : Evolves d d' := by
  rcases finalize_ok h with ⟨rfl, -⟩ | ⟨job, t, row, d₁, resolution, -, -, -, hfinal, rfl⟩
  · exact Evolves.refl _
  · refine Evolves.trans ?_ (evolves_modifyJob j _)
    cases hfinal with
    | existing m message hm => exact Tidy.evolves (tidy_complete d now t _)
    | silent hnone hwhy => exact Tidy.evolves (tidy_supersedeUnlessSettled d now t row)
    | fallback hnone hallowed hnewer =>
      exact (evolves_addMessage d _).trans (Tidy.evolves (tidy_complete _ now t _))

lemma evolves_modifyTurn {t : ℕ} {f : WebchatAITurn → WebchatAITurn}
    (hm : d'.messages = d.messages) (ht : d'.turns = d.turns.modify t f)
    (hf : ∀ row, (f row).triggerMessageId = row.triggerMessageId) : Evolves d d' := by
  refine ⟨hm ▸ Table.Appends.refl _, ?_, ?_⟩
  · intro t' row hrow
    rw [ht, Table.get?_modify, hrow]
    split
    · exact ⟨f row, rfl, hf row⟩
    · exact ⟨row, rfl, rfl⟩
  · intro t' row' hrow'
    rw [ht, Table.get?_modify] at hrow'
    split at hrow'
    · obtain ⟨row, hrow, -⟩ := Option.map_eq_some_iff.1 hrow'
      exact Or.inl ⟨row, hrow⟩
    · exact Or.inl ⟨row', hrow'⟩

lemma terminalJob_evolves (now : Instant) (reason : String) (t : ℕ) (row : WebchatAITurn) :
    Evolves d (terminalJobForTurn now reason t row d).2 := by
  unfold terminalJobForTurn
  split
  · exact evolves_modifyTurn rfl rfl fun _ => rfl
  · exact evolves_modifyTurn rfl rfl fun _ => rfl

lemma finalizeTerminalOutcome_evolves {timedOut : Bool} {reason : String}
    {t : ℕ} {row : WebchatAITurn}
    (h : finalizeTerminalOutcome now rejected reason timedOut t row d = .ok d') :
    Evolves d d' := by
  have hjob := terminalJob_evolves (d := d) now reason t row
  unfold finalizeTerminalOutcome at h
  generalize terminalJobForTurn now reason t row d = r at h hjob
  obtain ⟨j, d₀⟩ := r
  dsimp only at h hjob
  cases hfinal : finalizeDeadWebchatAiJob now rejected j d₀ with
  | error e =>
    rw [hfinal] at h
    cases h
  | ok d₁ =>
    rw [hfinal] at h
    cases h
    have hdone := hjob.trans (finalize_evolves hfinal)
    split
    · exact hdone.trans (evolves_modifyTurn rfl rfl fun _ => rfl)
    · exact hdone

lemma reconcile_evolves {c : ChatSettings}
    (h : reconcileWebchatAiState c now rejected d = .ok d') : Evolves d d' := by
  have hclear : Evolves d (clearActiveSnapshot d) := (Evolves.refl d).frame rfl rfl
  unfold reconcileWebchatAiState at h
  split at h
  · cases h
    exact hclear
  · rename_i t row hactive
    split at h
    · split at h
      · exact finalize_evolves h
      · unfold maybeTimeoutStaleOpenTurn at h
        split at h
        · cases h
          exact Evolves.refl _
        · split at h
          · cases h
            exact Evolves.refl _
          · exact finalizeTerminalOutcome_evolves h
    · split at h
      · exact finalizeTerminalOutcome_evolves h
      · cases h
        exact hclear

lemma orElse_evolves {r : Except String Chat} (h : ∀ d', r = .ok d' → Evolves d d') :
    Evolves d (ChatStep.orElse d r) := by
  cases r with
  | ok d' => exact h d' rfl
  | error e => exact Evolves.refl d

lemma closeAttempt_evolves (now : Instant) (token : String) (j : ℕ) (result : Result)
    (rejected rejectedAgain : Bool) {before after : Chat} (h : Evolves before after) :
    Evolves before (closeAttempt now token j result rejected rejectedAgain before after) := by
  unfold closeAttempt
  split
  · exact Evolves.refl _
  · split
    · split
      · rename_i d' hfinal
        exact (h.trans (evolves_modifyJob j _)).trans (finalize_evolves hfinal)
      · split
        · rename_i d' hfinal
          exact (evolves_modifyJob j _).trans (finalize_evolves hfinal)
        · exact Evolves.refl _
    · exact Evolves.refl _

lemma prepare_evolves (now : Instant) (v : ℕ) (turn : Option ℕ) (d : Chat) :
    (∀ d', prepare now v turn d = .ended d' → Evolves d d' ∧ d'.messages = d.messages) ∧
      ∀ d', prepare now v turn d = .boundary d' → Evolves d d' ∧ d'.messages = d.messages := by
  have hspec := prepare_spec now v turn d
  have hstarted := tidy_started now turn d
  have htidy : ∀ {d'}, Tidy d d' → Evolves d d' ∧ d'.messages = d.messages :=
    fun h => ⟨Tidy.evolves h, h.messages⟩
  cases hp : prepare now v turn d with
  | ended d' =>
    refine ⟨fun d'' heq => ?_, nofun⟩
    cases heq
    rw [hp] at hspec
    cases hspec with
    | suspended h => exact htidy (tidy_cancel d now)
    | answered hopen h => exact htidy (hstarted.trans (tidy_closeTurn _ now turn))
    | stale t row hturn hopen hrow h => exact htidy (hstarted.trans (tidy_supersede _ now t))
  | boundary d' =>
    refine ⟨nofun, fun d'' heq => ?_⟩
    cases heq
    rw [hp] at hspec
    cases hspec with
    | goesOn hopen hreply => exact htidy hstarted

lemma generate_evolves {v : ℕ} {turn : Option ℕ}
    (h : generate now v turn d = .ended d') : Evolves d d' := by
  have hspec := generate_spec now v turn d
  rw [h] at hspec
  cases hspec with
  | skipped hwhy => exact Tidy.evolves (tidy_closeTurn d now turn)
  | stale t row hturn hopen hrow hstale =>
    exact Tidy.evolves ((tidy_supersede d now t).trans (tidy_supersede _ now t))

lemma finishReply_evolves (now : Instant) (turn : Option (ℕ × WebchatAITurn))
    (outcome : AgentOutcome) (d : Chat) : Evolves d (finishReply now turn outcome d).2 := by
  have hspec := finishReply_spec now turn outcome d
  generalize finishReply now turn outcome d = r at hspec
  cases hspec with
  | raised reason => exact Evolves.refl _
  | handedOff t row hturn h => exact Tidy.evolves (tidy_supersede d now t)
  | ended t row hturn h hclosed => exact Evolves.refl d
  | stale t row hturn hopen h =>
    exact Tidy.evolves ((tidy_supersede d now t).trans (tidy_supersede _ now t))
  | written hfresh =>
    unfold writeReply
    cases outcome with
    | raises reason => exact Evolves.refl d
    | replyThenRaises reason => exact evolves_addMessage d _
    | reply =>
      cases turn with
      | none => exact evolves_addMessage d _
      | some r => exact (evolves_addMessage d _).trans (Tidy.evolves (tidy_complete _ now r.1 _))

lemma receive_evolves (c : ChatSettings) (now debounceAt : Instant) (d : Chat) :
    Evolves d (receiveVisitorMessage c now debounceAt d) := by
  have hadd := evolves_addMessage d ⟨.visitor, none, none⟩
  unfold receiveVisitorMessage
  rcases schedule_cases c now debounceAt d.messages.next (d.addMessage ⟨.visitor, none, none⟩) with
    h | ⟨t, row, -, -, h⟩ | ⟨active, next, h⟩
  · rw [h]
    exact hadd
  · rw [h]
    exact hadd.trans (Tidy.evolves (tidy_coalesce now debounceAt _ t row _))
  · rw [h]
    exact (evolves_newTurn d ⟨.visitor, none, none⟩
      (newTurn now d.messages.next d.jobs.next) rfl).frame rfl rfl

lemma chat_evolves (c : ChatSettings) (i : ChatStep) (s : ChatDesk) :
    Evolves s.chat (i.apply c s).chat := by
  have hclose : ∀ now token j result (f : Fallback) {after : Chat}, Evolves s.chat after →
      Evolves s.chat (ChatStep.close now token j result f after s).chat :=
    fun now token j result f _ h => closeAttempt_evolves now token j result _ _ h
  cases i with
  | visitor now debounceAt => exact receive_evolves c now debounceAt s.chat
  | claim now token j =>
    show Evolves s.chat (ChatStep.applyClaim c now token j s).chat
    unfold ChatStep.applyClaim
    split
    · exact Evolves.refl _
    · split
      · exact evolves_modifyJob j _
      · exact Evolves.refl _
  | refresh now token j =>
    show Evolves s.chat (ChatStep.applyRefresh now token j s).chat
    unfold ChatStep.applyRefresh
    split
    · split
      · exact evolves_modifyJob j _
      · exact Evolves.refl _
    · exact Evolves.refl _
  | heartbeat now token j => exact evolves_modifyJob j _
  | reject now token errorType =>
    show Evolves s.chat (ChatStep.applyReject now token errorType s).chat
    unfold ChatStep.applyReject
    split
    · split
      · dsimp only
        split
        · exact evolves_modifyJob _ _
        · exact Evolves.refl _
      · exact Evolves.refl _
    · exact Evolves.refl _
  | pick token =>
    show Evolves s.chat (ChatStep.applyPick token s).chat
    unfold ChatStep.applyPick
    split <;> exact Evolves.refl _
  | prepare now token f =>
    show Evolves s.chat (ChatStep.applyPrepare now token f s).chat
    unfold ChatStep.applyPrepare
    split
    · rename_i j turn _
      have hprep := prepare_evolves now (s.visitorMessage j) turn s.chat
      split
      · rename_i d hd
        exact hclose _ _ _ _ _ (hprep.1 d hd).1
      · rename_i d hd
        exact (hprep.2 d hd).1
    · exact Evolves.refl _
  | prepareRaises now token reason started f =>
    show Evolves s.chat (ChatStep.applyPrepareRaises now token reason started f s).chat
    unfold ChatStep.applyPrepareRaises
    split
    · exact hclose _ _ _ _ _ (Evolves.refl _)
    · apply hclose
      split
      · exact Tidy.evolves (tidy_startTurn _ now _)
      · exact Evolves.refl _
    · exact Evolves.refl _
  | generate now token f =>
    show Evolves s.chat (ChatStep.applyGenerate now token f s).chat
    unfold ChatStep.applyGenerate
    split
    · split
      · rename_i d hd
        exact hclose _ _ _ _ _ (generate_evolves hd)
      · exact Evolves.refl _
    · exact Evolves.refl _
  | finish now token outcome f =>
    show Evolves s.chat (ChatStep.applyFinish now token outcome f s).chat
    unfold ChatStep.applyFinish
    split
    · exact hclose _ _ _ _ _ (finishReply_evolves _ _ _ _)
    · exact Evolves.refl _
  | crash token => exact Evolves.refl _
  | handoff now status agent =>
    show Evolves s.chat (ChatStep.applyHandoff now status agent s.chat)
    unfold ChatStep.applyHandoff
    exact Tidy.evolves ((tidy_conversation s.chat _).trans (tidy_cancel _ now))
  | resumeAi => exact (Evolves.refl s.chat).frame rfl rfl
  | finalize now j rejected => exact orElse_evolves fun d' h => finalize_evolves h
  | reconcile now rejected => exact orElse_evolves fun d' h => reconcile_evolves h

end Chat

end NexusHelpdesk.Voice
