import NexusHelpdesk.Webchat.Links

/-!
# One public outcome for a turn

A worker decides from what it read before the call of the Agent, the watchdog and the finaliser from
what is committed when they run.  Whoever adds the outcome of a turn takes the lease from its job.

* `Settles`: a transaction leaves the outcome of a turn alone, or adds the first one and takes the
  lease from the job of the turn;
* `Once`: an attempt that waits for the Agent and still holds its lease has no outcome to compete
  with;
* `one_public_outcome`: **in every run whose attempts at a turn are attempts of its job, the turn has
  at most one outcome, and the finaliser adds none to it**.
-/

namespace NexusHelpdesk.Webchat

open Lib Jobs

/-! ## messages -/

lemma outcomes_addMessage (t : ℕ) (d : Chat) (m : WebchatMessage) :
    outcomes t (d.addMessage m) =
      outcomes t d ++ if m.direction == .agent && m.aiTurnId == some t then [(d.messages.next, m)]
        else [] := by
  unfold outcomes Chat.addMessage
  exact Table.select_insert _ _ _

lemma outcomes_addMessage_of_ne {t : ℕ} {m : WebchatMessage} (h : m.aiTurnId ≠ some t) (d : Chat) :
    outcomes t (d.addMessage m) = outcomes t d := by
  have hne : (m.aiTurnId == some t) = false := beq_eq_false_iff_ne.2 h
  rw [outcomes_addMessage, hne, Bool.and_false, if_neg Bool.false_ne_true, List.append_nil]

lemma length_outcomes_addMessage {t : ℕ} {d : Chat} (h : outcomes t d = []) :
    (outcomes t (d.addMessage ⟨.agent, some t, some .aiAssistant⟩)).length = 1 := by
  have hpos : (Direction.agent == Direction.agent && some t == some t) = true := by simp
  rw [outcomes_addMessage, h]
  dsimp only
  rw [hpos, if_pos rfl]
  rfl

/-! ## transactions -/

/-- the outcome of turn `t` is as before, or it is its first and the job of `t` has no lease. -/
structure Settles (t : ℕ) (d d' : Chat) : Prop where
  linked : Linked d'
  leases : ∀ token j, Own token j d' → Own token j d
  kept : ∀ t' row, d.turns.get? t' = some row →
    ∃ row', d'.turns.get? t' = some row' ∧ row'.jobId = row.jobId
  outcome : outcomes t d' = outcomes t d ∨ (outcomes t d = [] ∧ (outcomes t d').length = 1 ∧
    ∀ token j row, d.turns.get? t = some row → row.jobId = some j → ¬ Own token j d')

/-- what an attempt of job `j` has worked out before its job is marked. -/
structure Writes (t j : ℕ) (d d' : Chat) : Prop where
  linked : Linked d'
  leases : ∀ token j, Own token j d' → Own token j d
  kept : ∀ t' row, d.turns.get? t' = some row →
    ∃ row', d'.turns.get? t' = some row' ∧ row'.jobId = row.jobId
  outcome : outcomes t d' = outcomes t d ∨ (outcomes t d = [] ∧ (outcomes t d').length = 1 ∧
    ∀ row, d.turns.get? t = some row → row.jobId = some j)

section Transactions
variable {t j : ℕ} {d d' d'' : Chat}

lemma Tidy.settles (h : Tidy d d') (hd : Linked d) (t : ℕ) : Settles t d d' :=
  ⟨h.linked hd, h.leases, fun _ _ hrow => h.turn hrow, Or.inl (h.outcomes t)⟩

lemma Tidy.writes (h : Tidy d d') (hd : Linked d) (t j : ℕ) : Writes t j d d' :=
  ⟨h.linked hd, h.leases, fun _ _ hrow => h.turn hrow, Or.inl (h.outcomes t)⟩

lemma Settles.refl (hd : Linked d) (t : ℕ) : Settles t d d := (Tidy.refl d).settles hd t

lemma kept_trans
    (h : ∀ t' row, d.turns.get? t' = some row →
      ∃ row', d'.turns.get? t' = some row' ∧ row'.jobId = row.jobId)
    (h' : ∀ t' row, d'.turns.get? t' = some row →
      ∃ row', d''.turns.get? t' = some row' ∧ row'.jobId = row.jobId) :
    ∀ t' row, d.turns.get? t' = some row →
      ∃ row', d''.turns.get? t' = some row' ∧ row'.jobId = row.jobId := by
  intro t' row hrow
  obtain ⟨row₁, hrow₁, hid₁⟩ := h t' row hrow
  obtain ⟨row₂, hrow₂, hid₂⟩ := h' t' row₁ hrow₁
  exact ⟨row₂, hrow₂, hid₂.trans hid₁⟩

lemma Settles.trans (h : Settles t d d') (h' : Settles t d' d'') : Settles t d d'' := by
  refine ⟨h'.linked, fun token j hown => h.leases token j (h'.leases token j hown),
    kept_trans h.kept h'.kept, ?_⟩
  rcases h.outcome with heq | ⟨hnone, hone, hlost⟩
  · rcases h'.outcome with heq' | ⟨hnone', hone', hlost'⟩
    · exact Or.inl (heq'.trans heq)
    · right
      refine ⟨heq.symm.trans hnone', hone', ?_⟩
      intro token j row hrow hj
      obtain ⟨row', hrow', hid⟩ := h.kept t row hrow
      exact hlost' token j row' hrow' (hid.trans hj)
  · rcases h'.outcome with heq' | ⟨hnone', -, -⟩
    · right
      refine ⟨hnone, ?_, ?_⟩
      · rw [heq', hone]
      · intro token j row hrow hj hown
        exact hlost token j row hrow hj (h'.leases token j hown)
    · rw [hnone'] at hone
      cases hone

lemma Writes.mark (h : Writes t j d d') {f : BackgroundJob → BackgroundJob}
    (hf : ∀ job, (f job).lockedBy = none) : Settles t d (d'.modifyJob j f) := by
  have htidy := tidy_unlock d' j hf
  refine ⟨htidy.linked h.linked,
    fun token j' hown => h.leases token j' (htidy.leases token j' hown),
    kept_trans h.kept fun t' row hrow => htidy.turn hrow, ?_⟩
  rw [htidy.outcomes t]
  rcases h.outcome with heq | ⟨hnone, hone, hjob⟩
  · exact Or.inl heq
  · right
    refine ⟨hnone, hone, ?_⟩
    intro token j' row hrow hj' hown
    have hjj : j' = j := Option.some.inj (hj'.symm.trans (hjob row hrow))
    rw [hjj] at hown
    exact not_own_unlock d' j hf token hown

end Transactions

variable {now : Instant} {rejected : Bool} {j t : ℕ} {d d' : Chat} {outcome : AgentOutcome}

lemma finalize_settles (hd : Linked d)
    (h : finalizeDeadWebchatAiJob now rejected j d = .ok d') (t : ℕ) : Settles t d d' := by
  rcases finalize_ok h with ⟨rfl, -⟩ | ⟨job, t₀, row, d₁, resolution, hjob, -, hturn, hfinal, rfl⟩
  · exact Settles.refl hd t
  · obtain ⟨-, hrow, hj⟩ := turnOfJob_linked hd hjob hturn
    have hlock : ∀ job, (markTerminalJobResolved now resolution job).lockedBy = none :=
      fun _ => rfl
    rcases hfinal.eq_or_new with htidy | ⟨hnone, htidy⟩
    · exact (htidy.writes hd t j).mark hlock
    · have hadd : Linked (d.addMessage ⟨.agent, some t₀, some .aiAssistant⟩) := by
        apply hd.addMessage
        intro t' ht'
        cases ht'
        exact ⟨by rw [hrow]; rfl, rfl⟩
      apply Writes.mark _ hlock
      refine ⟨htidy.linked hadd, htidy.leases, fun t' row' hrow' => htidy.turn hrow', ?_⟩
      rw [htidy.outcomes t]
      by_cases ht : t = t₀
      · subst ht
        right
        refine ⟨hnone, length_outcomes_addMessage hnone, ?_⟩
        intro row' hrow'
        rw [hrow] at hrow'
        cases hrow'
        exact hj
      · left
        apply outcomes_addMessage_of_ne
        intro heq
        exact ht (Option.some.inj heq).symm

lemma givenUp_settles (hd : Linked d) (h : GivenUp now rejected d d') (t : ℕ) : Settles t d d' := by
  obtain ⟨t₀, row, j, reason, d₁, timedOut, hrow, hj, hfinal, rfl⟩ := h
  have htidy : Tidy d ((d.modifyJob j (failJob now reason)).modifyTurn t₀ fun row =>
      { row with updatedAt := now }) :=
    (tidy_unlock d j fun _ => rfl).trans (tidy_modifyTurn _ t₀ fun _ => rfl)
  have hsettles := (htidy.settles hd t).trans (finalize_settles (htidy.linked hd) hfinal t)
  split
  · have hlate : Tidy d₁ (d₁.modifyTurn t₀ fun row =>
        { row with status := .timeout, updatedAt := now }) :=
      tidy_modifyTurn d₁ t₀ fun _ => rfl
    exact hsettles.trans (hlate.settles hsettles.linked t)
  · exact hsettles

lemma reconcile_settles {c : ChatSettings}
    (hd : Linked d) (h : reconcileWebchatAiState c now rejected d = .ok d') (t : ℕ) :
    Settles t d d' := by
  rcases reconcile_ok hd h with rfl | rfl | ⟨j, hfinal⟩ | hgiven
  · exact Settles.refl hd t
  · exact (tidy_point d none _).settles hd t
  · exact finalize_settles hd hfinal t
  · exact givenUp_settles hd hgiven t

lemma orElse_settles (hd : Linked d) {r : Except String Chat}
    (h : ∀ d', r = .ok d' → Settles t d d') : Settles t d (ChatStep.orElse d r) := by
  cases r with
  | error err => exact Settles.refl hd t
  | ok d' => exact h d' rfl

lemma result_mark_unlocked (now : Instant) (result : Result) (job : BackgroundJob) :
    (result.mark now job).lockedBy = none := by
  cases result <;> rfl

lemma closeAttempt_settles {token : String} {result : Result}
    {rejectedAgain : Bool} {before after : Chat} (hd : Linked before)
    (h : Own token j before → Writes t j before after) :
    Settles t before (closeAttempt now token j result rejected rejectedAgain before after) := by
  unfold closeAttempt
  split
  · exact Settles.refl hd t
  · rename_i job hjob
    split
    · rename_i hown
      have hmark := (h ⟨job, hjob, hown⟩).mark (result_mark_unlocked now result)
      split
      · rename_i d hfinal
        exact hmark.trans (finalize_settles hmark.linked hfinal t)
      · have hretry : Settles t before (before.modifyJob j
            (markRetry now "Unhandled background job exception: RuntimeError")) :=
          (tidy_unlock before j fun _ => rfl).settles hd t
        split
        · rename_i d hfinal
          exact hretry.trans (finalize_settles hretry.linked hfinal t)
        · exact Settles.refl hd t
    · exact Settles.refl hd t

lemma writeReply_writes {turn : Option ℕ} (hd : Linked d)
    (hrow : ∀ t', turn = some t' → (d.turns.get? t').isSome = true)
    (hjob : turn = some t → ∀ row, d.turns.get? t = some row → row.jobId = some j)
    (hnone : turn = some t → outcomes t d = []) :
    Writes t j d (writeReply now turn outcome d).2 := by
  have hadd : Linked (d.addMessage ⟨.agent, turn, some .aiAssistant⟩) :=
    hd.addMessage fun t' ht' => ⟨hrow t' ht', rfl⟩
  have hwritten : ∀ d', Tidy (d.addMessage ⟨.agent, turn, some .aiAssistant⟩) d' →
      Writes t j d d' := by
    intro d' htidy
    refine ⟨htidy.linked hadd, htidy.leases, fun t' row' hrow' => htidy.turn hrow', ?_⟩
    rw [htidy.outcomes t]
    by_cases hturn : turn = some t
    · subst hturn
      exact Or.inr ⟨hnone rfl, length_outcomes_addMessage (hnone rfl), hjob rfl⟩
    · exact Or.inl (outcomes_addMessage_of_ne hturn d)
  cases outcome with
  | raises reason => exact (Tidy.refl d).writes hd t j
  | replyThenRaises reason => exact hwritten _ (Tidy.refl _)
  | reply =>
    cases turn with
    | none => exact hwritten _ (Tidy.refl _)
    | some t' => exact hwritten _ (tidy_complete _ now t' _)

lemma finishReply_writes {turn : Option (ℕ × WebchatAITurn)} (hd : Linked d)
    (hrow : ∀ t' row, turn = some (t', row) → (d.turns.get? t').isSome = true)
    (hjob : ∀ row, turn = some (t, row) → ∀ row', d.turns.get? t = some row' →
      row'.jobId = some j) (hnone : ∀ row, turn = some (t, row) → outcomes t d = []) :
    Writes t j d (finishReply now turn outcome d).2 := by
  have hwrite : ∀ turn' outcome', (∀ t', turn' = some t' → ∃ row, turn = some (t', row)) →
      Writes t j d (writeReply now turn' outcome' d).2 := by
    intro turn' outcome' hturn
    apply writeReply_writes hd
    · intro t' ht'
      obtain ⟨row, hr⟩ := hturn t' ht'
      exact hrow t' row hr
    · intro ht
      obtain ⟨row, hr⟩ := hturn t ht
      exact hjob row hr
    · intro ht
      obtain ⟨row, hr⟩ := hturn t ht
      exact hnone row hr
  have hspec := finishReply_spec now turn outcome d
  generalize finishReply now turn outcome d = r at hspec ⊢
  cases hspec with
  | raised reason => exact (Tidy.refl d).writes hd t j
  | handedOff t' row hturn h => exact (tidy_supersede d now t').writes hd t j
  | ended t' row hturn h hclosed => exact (Tidy.refl d).writes hd t j
  | stale t' row hturn hopen h =>
    exact ((tidy_supersede d now t').trans (tidy_supersede _ now t')).writes hd t j
  | written hfresh =>
    apply hwrite
    intro t' ht'
    obtain ⟨⟨t'', row⟩, hturn, rfl⟩ := Option.map_eq_some_iff.1 ht'
    exact ⟨row, hturn⟩

/-! ## runs -/

/-- the job of a worker and the turn it is about to look up. -/
def ChatDesk.lookup (s : ChatDesk) (token : String) : Option (ℕ × ℕ × WebchatAITurn) :=
  match s.workers token with
  | some (.working j) => (openTurnForMessage (s.visitorMessage j) s.chat).map (j, ·)
  | _ => none

/-- an attempt that looks up turn `t` is one of the job of `t`. -/
def OwnAttempts (t : ℕ) (s : ChatDesk) : ChatStep → Prop
  | .pick token => ∀ x ∈ s.lookup token, x.2.1 = t → x.2.2.jobId = some x.1
  | _ => True

instance (t : ℕ) (s : ChatDesk) : ∀ i, Decidable (OwnAttempts t s i)
  | .pick token => inferInstanceAs (Decidable (∀ x ∈ s.lookup token, x.2.1 = t → _ = _))
  | .visitor _ _ | .claim _ _ _ | .refresh _ _ _ | .heartbeat _ _ _ | .reject _ _ _
  | .prepare _ _ _ | .prepareRaises _ _ _ _ _ | .generate _ _ _ | .finish _ _ _ _ | .crash _
  | .handoff _ _ _ | .resumeAi | .finalize _ _ _ | .reconcile _ _ =>
    inferInstanceAs (Decidable True)

/-- an attempt at `t` that waits for the Agent under its lease has read that `t` has no outcome, and
that is still so. -/
structure Once (t : ℕ) (s : ChatDesk) : Prop where
  linked : Linked s.chat
  drawn : ∀ token phase, s.workers token = some phase → token ∈ s.tokens
  locks : ∀ token j, Own token j s.chat → token ∈ s.tokens
  turns : ∀ token phase t', s.workers token = some phase → phase.turn = some t' →
    ∃ row, s.chat.turns.get? t' = some row ∧ (t' = t → row.jobId = some phase.job)
  replying : ∀ token j row, s.workers token = some (.replying j (some (t, row))) →
    Own token j s.chat → outcomes t s.chat = []
  single : (outcomes t s.chat).length ≤ 1

lemma once_empty (t : ℕ) : Once t ChatDesk.empty := by
  constructor
  · exact linked_empty
  · intro token phase h
    cases h
  · rintro token j ⟨job, hjob, -⟩
    cases hjob
  · intro token phase t' h
    cases h
  · intro token j row h
    cases h
  · exact Nat.zero_le _

section Once
variable {t : ℕ} {s : ChatDesk}

section
variable (h : Once t s)
include h

lemma Once.settles {d' : Chat} (hd : Settles t s.chat d') :
    Once t { s with chat := d' } := by
  refine ⟨hd.linked, h.drawn, fun token j hown => h.locks token j (hd.leases token j hown), ?_, ?_,
    ?_⟩
  · intro token phase t' hphase hturn
    obtain ⟨row, hrow, hjob⟩ := h.turns token phase t' hphase hturn
    obtain ⟨row', hrow', hid⟩ := hd.kept t' row hrow
    exact ⟨row', hrow', fun ht => hid.trans (hjob ht)⟩
  · intro token j row hphase hown
    have hnone := h.replying token j row hphase (hd.leases token j hown)
    rcases hd.outcome with heq | ⟨-, -, hlost⟩
    · exact heq.trans hnone
    · obtain ⟨row', hrow', hjob⟩ := h.turns token _ t hphase rfl
      exact absurd hown (hlost token j row' hrow' (hjob rfl))
  · rcases hd.outcome with heq | ⟨-, hone, -⟩
    · rw [heq]
      exact h.single
    · exact hone.le

lemma Once.release (token : String) :
    Once t { s with workers := s.workers.release token } := by
  refine ⟨h.linked, ?_, h.locks, ?_, ?_, h.single⟩
  · intro token' phase hphase
    exact h.drawn token' phase (InHand.of_release hphase).2
  · intro token' phase t' hphase
    exact h.turns token' phase t' (InHand.of_release hphase).2
  · intro token' j row hphase
    exact h.replying token' j row (InHand.of_release hphase).2

lemma Once.take {token : String} (hdrawn : token ∈ s.tokens) {phase : Phase}
    (hturns : ∀ t', phase.turn = some t' →
      ∃ row, s.chat.turns.get? t' = some row ∧ (t' = t → row.jobId = some phase.job))
    (hreplying : ∀ j row, phase = .replying j (some (t, row)) → outcomes t s.chat = []) :
    Once t { s with workers := s.workers.take token phase } := by
  refine ⟨h.linked, ?_, h.locks, ?_, ?_, h.single⟩
  · intro token' phase' hphase
    rcases InHand.of_take hphase with ⟨rfl, -⟩ | ⟨-, hold⟩
    · exact hdrawn
    · exact h.drawn token' phase' hold
  · intro token' phase' t' hphase
    rcases InHand.of_take hphase with ⟨-, rfl⟩ | ⟨-, hold⟩
    · exact hturns t'
    · exact h.turns token' phase' t' hold
  · intro token' j row hphase hown
    rcases InHand.of_take hphase with ⟨-, heq⟩ | ⟨-, hold⟩
    · exact hreplying j row heq.symm
    · exact h.replying token' j row hold hown

lemma Once.close (now : Instant) (token : String) {j : ℕ} {result : Result} (f : Fallback)
    {after : Chat} (hw : Own token j s.chat → Writes t j s.chat after) :
    Once t (ChatStep.close now token j result f after s) :=
  (h.settles (closeAttempt_settles h.linked hw)).release token

lemma Once.claim (c : ChatSettings) (now : Instant) (token : String) (j : ℕ) :
    Once t (ChatStep.applyClaim c now token j s) := by
  unfold ChatStep.applyClaim
  split
  · exact h
  · rename_i job hjob
    split
    · rename_i hfresh
      have hlinks := sameLinks_modifyJob s.chat j (takeLease now token)
      have hlease : ∀ token' j', Own token' j' (s.chat.modifyJob j (takeLease now token)) →
          token' = token ∨ Own token' j' s.chat := by
        intro token' j' hown
        rcases own_modifyJob s.chat hown with hold | ⟨job', -, -, hnew⟩
        · exact Or.inr hold
        · left
          simp only [ownsJobLease, takeLease, Bool.and_eq_true, beq_iff_eq] at hnew
          exact (Option.some.inj hnew.1).symm
      refine ⟨hlinks.linked h.linked, ?_, ?_, ?_, ?_, ?_⟩
      · intro token' phase hphase
        exact List.mem_cons_of_mem _ (h.drawn token' phase hphase)
      · intro token' j' hown
        rcases hlease token' j' hown with rfl | hold
        · exact List.mem_cons_self ..
        · exact List.mem_cons_of_mem _ (h.locks token' j' hold)
      · intro token' phase t' hphase hturn
        exact h.turns token' phase t' hphase hturn
      · intro token' j' row hphase hown
        rcases hlease token' j' hown with rfl | hold
        · exact absurd (h.drawn token' _ hphase) hfresh.1
        · exact h.replying token' j' row hphase hold
      · exact h.single
    · exact h

lemma Once.refresh (now : Instant) (token : String) (j : ℕ) :
    Once t (ChatStep.applyRefresh now token j s) := by
  unfold ChatStep.applyRefresh
  split
  · rename_i job _ hjob
    split
    · rename_i hown
      have hrenew := h.settles ((tidy_renew s.chat now token j).settles h.linked t)
      apply hrenew.take (h.locks token j ⟨job, hjob, hown⟩)
      · intro t' ht'
        cases ht'
      · intro j' row heq
        cases heq
    · exact h
  · exact h

lemma Once.reject (now : Instant) (token errorType : String) :
    Once t (ChatStep.applyReject now token errorType s) := by
  unfold ChatStep.applyReject
  split
  · rename_i j _
    split
    · split
      · exact (h.settles ((tidy_unlock s.chat j fun _ => rfl).settles h.linked t)).release token
      · exact h.release token
    · exact h.release token
  · exact h

lemma Once.pick {token : String} (hown : OwnAttempts t s (.pick token)) :
    Once t (ChatStep.applyPick token s) := by
  unfold ChatStep.applyPick
  split
  · rename_i j hphase
    dsimp only
    apply h.take (h.drawn token _ hphase)
    · intro t' ht'
      obtain ⟨⟨t'', row⟩, hfound, rfl⟩ := Option.map_eq_some_iff.1 ht'
      refine ⟨row, openTurn_row hfound, ?_⟩
      intro ht
      refine hown (j, t'', row) ?_ ht
      unfold ChatDesk.lookup
      rw [hphase]
      dsimp only
      rw [hfound]
      rfl
    · intro j' row heq
      cases heq
  · exact h

lemma Once.prepare (now : Instant) (token : String) (f : Fallback) :
    Once t (ChatStep.applyPrepare now token f s) := by
  unfold ChatStep.applyPrepare
  split
  · rename_i j turn hphase
    have hstart := tidy_started now turn s.chat
    have hclose : ∀ d, Tidy s.chat d → Once t (ChatStep.close now token j .done f d s) := by
      intro d htidy
      exact h.close now token f fun _ => htidy.writes h.linked t j
    have hspec := prepare_spec now (s.visitorMessage j) turn s.chat
    generalize Webchat.prepare now (s.visitorMessage j) turn s.chat = r at hspec ⊢
    cases hspec with
    | suspended hsuspended => exact hclose _ (tidy_cancel s.chat now)
    | answered hopen hreply => exact hclose _ (hstart.trans (tidy_closeTurn _ now turn))
    | stale t' row hturn hopen hrow hstale => exact hclose _ (hstart.trans (tidy_supersede _ now t'))
    | goesOn hopen hreply =>
      have hnext := h.settles (hstart.settles h.linked t)
      apply hnext.take (h.drawn token _ hphase)
      · intro t' ht'
        exact hnext.turns token (.picked j turn) t' hphase ht'
      · intro j' row heq
        cases heq
  · exact h

lemma Once.prepareRaises (now : Instant) (token reason : String) (started : Bool) (f : Fallback) :
    Once t (ChatStep.applyPrepareRaises now token reason started f s) := by
  unfold ChatStep.applyPrepareRaises
  split
  · rename_i j _
    exact h.close now token f fun _ => (Tidy.refl s.chat).writes h.linked t j
  · rename_i j turn _
    apply h.close now token f
    intro _
    split
    · exact (tidy_startTurn s.chat now _).writes h.linked t j
    · exact (Tidy.refl s.chat).writes h.linked t j
  · exact h

end

lemma outcomes_nil_of_no_reply {d : Chat} (hd : Linked d) {j : ℕ} {job : ReplyJob}
    (hjob : d.jobs.get? j = some job) (hturn : job.aiTurnId = some t)
    (h : agentReplyExists job.visitorMessageId d = false) : outcomes t d = [] := by
  rw [List.eq_nil_iff_forall_not_mem]
  rintro ⟨m, message⟩ hmem
  obtain ⟨hrow, hp⟩ := (Table.mem_select _).1 hmem
  rw [Bool.and_eq_true, beq_iff_eq, beq_iff_eq] at hp
  obtain ⟨-, hlabel, hlt⟩ := hd.labelled t m message hrow hp.2
  have hreply : agentReplyExists job.visitorMessageId d = true := by
    unfold agentReplyExists
    rw [List.any_eq_true]
    refine ⟨(m, message), (Table.mem_rows _).2 hrow, ?_⟩
    simp only [hp.1, hlabel, hlt j job hjob hturn, beq_self_eq_true, decide_true, Bool.and_self]
  rw [h] at hreply
  cases hreply

lemma Once.generate (h : Once t s) (now : Instant) (token : String) (f : Fallback) :
    Once t (ChatStep.applyGenerate now token f s) := by
  unfold ChatStep.applyGenerate
  split
  · rename_i j turn hphase
    have hclose : ∀ d, Tidy s.chat d → Once t (ChatStep.close now token j .done f d s) := by
      intro d htidy
      exact h.close now token f fun _ => htidy.writes h.linked t j
    -- the reads of the boundary: no reply is newer than the message of the job
    have hnext : agentReplyExists (s.visitorMessage j) s.chat = false →
        Once t { s with workers :=
          s.workers.take token (.replying j (turn.bind fun t => turnAt t s.chat)) } := by
      intro hreply
      apply h.take (h.drawn token _ hphase)
      · intro t' ht'
        obtain ⟨⟨t'', row⟩, hturn, rfl⟩ := Option.map_eq_some_iff.1 ht'
        exact h.turns token (.generating j turn) t'' hphase (turn_bind hturn).1
      · intro j' row heq
        obtain ⟨rfl, hturn⟩ := Phase.replying.inj heq
        obtain ⟨ht, -⟩ := turn_bind hturn
        obtain ⟨row', hrow', hown⟩ := h.turns token _ t hphase ht
        obtain ⟨j'', job, hj'', hjob, hback, -⟩ := h.linked.turnJob t row' hrow'
        have hjj : j'' = j := Option.some.inj (hj''.symm.trans (hown rfl))
        subst hjj
        apply outcomes_nil_of_no_reply h.linked hjob hback
        unfold ChatDesk.visitorMessage at hreply
        rw [hjob] at hreply
        exact hreply
    have hspec := generate_spec now (s.visitorMessage j) turn s.chat
    generalize Webchat.generate now (s.visitorMessage j) turn s.chat = r at hspec ⊢
    cases hspec with
    | skipped hskip => exact hclose _ (tidy_closeTurn s.chat now turn)
    | stale t' row hturn hopen hrow hstale =>
      exact hclose _ ((tidy_supersede s.chat now t').trans (tidy_supersede _ now t'))
    | goesOn hreply => exact hnext hreply
  · exact h

lemma Once.finish (h : Once t s) (now : Instant) (token : String) (outcome : AgentOutcome)
    (f : Fallback) : Once t (ChatStep.applyFinish now token outcome f s) := by
  unfold ChatStep.applyFinish
  split
  · rename_i j turn hphase
    dsimp only
    apply h.close now token f
    intro hown
    apply finishReply_writes h.linked
    · intro t' row ht'
      subst ht'
      obtain ⟨row', hrow', -⟩ := h.turns token _ t' hphase rfl
      rw [hrow']
      rfl
    · intro row ht row' hrow'
      subst ht
      obtain ⟨row'', hrow'', hjob⟩ := h.turns token _ t hphase rfl
      rw [hrow'] at hrow''
      cases hrow''
      exact hjob rfl
    · intro row ht
      subst ht
      exact h.replying token j row hphase hown
  · exact h

lemma receive_settles {d : Chat} (hd : Linked d) (c : ChatSettings) (now debounceAt : Instant)
    (t : ℕ) : Settles t d (receiveVisitorMessage c now debounceAt d) := by
  have hadd : Linked (d.addMessage ⟨.visitor, none, none⟩) := by
    apply hd.addMessage
    intro t' ht'
    cases ht'
  have hvisitor : Settles t d (d.addMessage ⟨.visitor, none, none⟩) := by
    refine ⟨hadd, fun _ _ hown => hown, fun _ row hrow => ⟨row, hrow, rfl⟩, Or.inl ?_⟩
    apply outcomes_addMessage_of_ne
    intro heq
    cases heq
  unfold receiveVisitorMessage
  rcases schedule_cases c now debounceAt d.messages.next (d.addMessage ⟨.visitor, none, none⟩) with
    hsame | ⟨t', row, -, -, hcoalesce⟩ | ⟨active, next, hcreate⟩
  · rw [hsame]
    exact hvisitor
  · rw [hcoalesce]
    exact hvisitor.trans ((tidy_coalesce now debounceAt _ t' row _).settles hadd t)
  · rw [hcreate]
    have hnew := hadd.createTurn c now debounceAt
      (show d.messages.next < d.messages.next + 1 from Nat.lt_succ_self _)
    refine hvisitor.trans (Settles.trans ?_ ((tidy_point _ active next).settles hnew t))
    refine ⟨hnew, ?_, ?_, Or.inl rfl⟩
    · rintro token j ⟨job, hjob, hown⟩
      change (d.jobs.insert _).get? j = some job at hjob
      rw [Table.get?_insert] at hjob
      split at hjob
      · cases hjob
        cases hown
      · exact ⟨job, hjob, hown⟩
    · intro t' row hrow
      exact ⟨row, Table.get?_insert_of_some _ hrow, rfl⟩

lemma Once.step (h : Once t s) (c : ChatSettings) {i : ChatStep} (hi : OwnAttempts t s i) :
    Once t (i.apply c s) := by
  cases i with
  | visitor now debounceAt => exact h.settles (receive_settles h.linked c now debounceAt t)
  | claim now token j => exact h.claim c now token j
  | refresh now token j => exact h.refresh now token j
  | heartbeat now token j => exact h.settles ((tidy_renew s.chat now token j).settles h.linked t)
  | reject now token errorType => exact h.reject now token errorType
  | pick token => exact h.pick hi
  | prepare now token f => exact h.prepare now token f
  | prepareRaises now token reason started f => exact h.prepareRaises now token reason started f
  | generate now token f => exact h.generate now token f
  | finish now token outcome f => exact h.finish now token outcome f
  | crash token => exact h.release token
  | handoff now status agent =>
    apply h.settles
    exact ((tidy_conversation s.chat _).trans (tidy_cancel _ now)).settles h.linked t
  | resumeAi =>
    apply h.settles
    exact (tidy_conversation s.chat _).settles h.linked t
  | finalize now j rejected =>
    exact h.settles (orElse_settles h.linked fun d' hd' => finalize_settles h.linked hd' t)
  | reconcile now rejected =>
    exact h.settles (orElse_settles h.linked fun d' hd' => reconcile_settles h.linked hd' t)

end Once

theorem one_public_outcome (c : ChatSettings) (t : ℕ) (l : List ChatStep)
    (h : Along (ChatStep.apply c) (OwnAttempts t) ChatDesk.empty l) :
    (outcomes t (run (ChatStep.apply c) ChatDesk.empty l).chat).length ≤ 1 ∧
    ∀ now rejected j d', outcomes t (run (ChatStep.apply c) ChatDesk.empty l).chat ≠ [] →
      finalizeDeadWebchatAiJob now rejected j (run (ChatStep.apply c) ChatDesk.empty l).chat =
        .ok d' →
      outcomes t d' = outcomes t (run (ChatStep.apply c) ChatDesk.empty l).chat := by
  have honce : Once t (run (ChatStep.apply c) ChatDesk.empty l) :=
    h.invariant (I := Once t) (fun s i hs hi => hs.step c hi) (once_empty t)
  refine ⟨honce.single, ?_⟩
  intro now rejected j d' hsome hfinal
  rcases (finalize_settles honce.linked hfinal t).outcome with heq | ⟨hnone, -, -⟩
  · exact heq
  · exact absurd hnone hsome

/-- the watchdog answers while worker `a` waits for the Agent; its reply comes too late. -/
def slowWorkerRun : List ChatStep :=
  [.visitor 0 (seconds 1), .claim (seconds 1) "a" 1, .refresh (seconds 1) "a" 1, .pick "a",
    .prepare (seconds 1) "a" ⟨false, false⟩, .generate (seconds 1) "a" ⟨false, false⟩,
    .reconcile (seconds 100) false, .finish (seconds 101) "a" .reply ⟨false, false⟩,
    .finalize (seconds 102) 1 false]

theorem one_public_outcome_slowWorker :
    (outcomes 1 (run (ChatStep.apply chatSettings) ChatDesk.empty slowWorkerRun).chat).length ≤ 1 ∧
      outcomes 1 (run (ChatStep.apply chatSettings) ChatDesk.empty slowWorkerRun).chat =
        [(2, ⟨.agent, some 1, some .aiAssistant⟩)] :=
  ⟨(one_public_outcome chatSettings 1 slowWorkerRun (by decide +kernel)).1, by decide +kernel⟩

end NexusHelpdesk.Webchat
