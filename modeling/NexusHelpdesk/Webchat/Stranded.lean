import NexusHelpdesk.Webchat.Links

/-!
# Open turns and their jobs

An open turn waits for its job.  The worker looks the turn up by the message of the job or by the
active pointer, lowest id first, so an attempt of the job of one turn may end another turn, and its
job is done all the same.

* `Closing`: no turn opens, and no job is done while its turn is open;
* `Overtaken`: an open turn with a lower id comes before the own turn of a job;
* `Housed`: the job of an open turn is live, and a worker sees the own turn of its job unless that
  turn has ended;
* `open_turn_has_job`: **in every run whose attempts start while their own turn is not overtaken,
  every open turn has a job that is pending, processing or dead**.
-/

namespace NexusHelpdesk.Webchat

open Lib Jobs

/-! ## turns that end -/

/-- a job that will be attempted again or finalised. -/
def isLive : JobStatus → Bool
  | .pending | .processing | .dead => true
  | _ => false

def Closed (t : ℕ) (d : Chat) : Prop :=
  ∀ row, d.turns.get? t = some row → row.status.isOpen = false

/-- every open turn was open, and a job that is over was over, or its turn has ended. -/
structure Closing (d d' : Chat) : Prop where
  turns : ∀ t row', d'.turns.get? t = some row' → row'.status.isOpen = true →
    ∃ row, d.turns.get? t = some row ∧ row.status.isOpen = true ∧ row.jobId = row'.jobId
  jobs : ∀ j job' t row', d'.jobs.get? j = some job' → isLive job'.status = false →
    d'.turns.get? t = some row' → row'.jobId = some j → row'.status.isOpen = true →
    ∃ job, d.jobs.get? j = some job ∧ isLive job.status = false

section Closing
variable {d d' d'' : Chat} {t j : ℕ} {f : WebchatAITurn → WebchatAITurn}

lemma Closing.refl (d : Chat) : Closing d d :=
  ⟨fun t row h hopen => ⟨row, h, hopen, rfl⟩, fun j job t row h hover _ _ _ => ⟨job, h, hover⟩⟩

lemma Closing.trans (h : Closing d d') (h' : Closing d' d'') : Closing d d'' := by
  constructor
  · intro t row'' hrow'' hopen
    obtain ⟨row', hrow', hopen', hid'⟩ := h'.turns t row'' hrow'' hopen
    obtain ⟨row, hrow, hopen₀, hid⟩ := h.turns t row' hrow' hopen'
    exact ⟨row, hrow, hopen₀, hid.trans hid'⟩
  · intro j job'' t row'' hjob'' hover hrow'' hj hopen
    obtain ⟨job', hjob', hover'⟩ := h'.jobs j job'' t row'' hjob'' hover hrow'' hj hopen
    obtain ⟨row', hrow', hopen', hid'⟩ := h'.turns t row'' hrow'' hopen
    exact h.jobs j job' t row' hjob' hover' hrow' (hid'.trans hj) hopen'

lemma Closing.closed (h : Closing d d') (hd : Closed t d) : Closed t d' := by
  intro row' hrow'
  by_contra hopen
  rw [Bool.not_eq_false] at hopen
  obtain ⟨row, hrow, hopen₀, -⟩ := h.turns t row' hrow' hopen
  rw [hd row hrow] at hopen₀
  cases hopen₀

lemma closing_modifyTurn (d : Chat) (t : ℕ) (hid : ∀ row, (f row).jobId = row.jobId)
    (hf : ∀ row, d.turns.get? t = some row → (f row).status.isOpen = true →
      row.status.isOpen = true) : Closing d (d.modifyTurn t f) := by
  have hback : ∀ t' row', (d.modifyTurn t f).turns.get? t' = some row' →
      row'.status.isOpen = true →
      ∃ row, d.turns.get? t' = some row ∧ row.status.isOpen = true ∧ row.jobId = row'.jobId := by
    intro t' row' hrow' hopen
    change (d.turns.modify t f).get? t' = some row' at hrow'
    rw [Table.get?_modify] at hrow'
    split at hrow'
    · rename_i ht
      subst ht
      obtain ⟨row, hrow, rfl⟩ := Option.map_eq_some_iff.1 hrow'
      exact ⟨row, hrow, hf row hrow hopen, (hid row).symm⟩
    · exact ⟨row', hrow', hopen, rfl⟩
  exact ⟨hback, fun j job t' row' hjob hover _ _ _ => ⟨job, hjob, hover⟩⟩

lemma closing_end (d : Chat) (t : ℕ) (hid : ∀ row, (f row).jobId = row.jobId)
    (hf : ∀ row, (f row).status.isOpen = false) :
    Closing d (d.modifyTurn t f) ∧ Closed t (d.modifyTurn t f) := by
  constructor
  · apply closing_modifyTurn d t hid
    intro row _ hopen
    rw [hf row] at hopen
    cases hopen
  · intro row' hrow'
    change (d.turns.modify t f).get? t = some row' at hrow'
    rw [Table.get?_modify_self] at hrow'
    obtain ⟨row, -, rfl⟩ := Option.map_eq_some_iff.1 hrow'
    exact hf row

lemma closing_conversation (d : Chat) (c : WebchatConversation) :
    Closing d { d with conversation := c } :=
  ⟨fun t row h hopen => ⟨row, h, hopen, rfl⟩, fun j job t row h hover _ _ _ => ⟨job, h, hover⟩⟩

lemma closing_addMessage (d : Chat) (m : WebchatMessage) : Closing d (d.addMessage m) :=
  ⟨fun t row h hopen => ⟨row, h, hopen, rfl⟩, fun j job t row h hover _ _ _ => ⟨job, h, hover⟩⟩

lemma closing_leaveTurn (d : Chat) (t : ℕ) : Closing d (leaveTurn t d) := by
  unfold leaveTurn promoteNextTurn clearActiveSnapshot
  split
  · split
    · split
      · split <;> exact closing_conversation d _
      · exact closing_conversation d _
    · exact closing_conversation d _
  · exact Closing.refl d

lemma closing_complete (d : Chat) (now : Instant) (t : ℕ) (reply : Option ℕ) :
    Closing d (completeAiTurnWithReply now t reply d) ∧
      Closed t (completeAiTurnWithReply now t reply d) := by
  have hend := closing_end d t (f := fun row =>
    { row with status := .completed, replyMessageId := reply, updatedAt := now })
    (fun _ => rfl) (fun _ => rfl)
  have hleave := closing_leaveTurn (d.modifyTurn t fun row =>
    { row with status := .completed, replyMessageId := reply, updatedAt := now }) t
  exact ⟨hend.1.trans hleave, hleave.closed hend.2⟩

lemma closing_supersede (d : Chat) (now : Instant) (t : ℕ) :
    Closing d (supersedeAiTurn now t d) ∧ Closed t (supersedeAiTurn now t d) := by
  have hend := closing_end d t (f := fun row =>
    { row with status := .superseded, isPublicReplyAllowed := false, updatedAt := now })
    (fun _ => rfl) (fun _ => rfl)
  have hleave := closing_leaveTurn (d.modifyTurn t fun row =>
    { row with status := .superseded, isPublicReplyAllowed := false, updatedAt := now }) t
  exact ⟨hend.1.trans hleave, hleave.closed hend.2⟩

lemma closing_supersedeUnlessSettled {d : Chat} (now : Instant) {t : ℕ} {row : WebchatAITurn}
    (hrow : d.turns.get? t = some row) :
    Closing d (supersedeUnlessSettled now t row d) ∧
      Closed t (supersedeUnlessSettled now t row d) := by
  unfold supersedeUnlessSettled
  split
  · rename_i hsettled
    refine ⟨Closing.refl d, ?_⟩
    intro row' hrow'
    rw [hrow] at hrow'
    cases hrow'
    rcases hsettled with hst | hst | hst <;> rw [hst] <;> rfl
  · exact closing_supersede d now t

lemma closing_modifyJob (d : Chat) (j : ℕ) {f : BackgroundJob → BackgroundJob}
    (hf : ∀ job, isLive (f job).status = false → isLive job.status = false) :
    Closing d (d.modifyJob j f) := by
  refine ⟨fun t row h hopen => ⟨row, h, hopen, rfl⟩, ?_⟩
  intro j' job' t row hjob' hover _ _ _
  change (d.jobs.modify j _).get? j' = some job' at hjob'
  rw [Table.get?_modify] at hjob'
  split at hjob'
  · obtain ⟨job, hjob, rfl⟩ := Option.map_eq_some_iff.1 hjob'
    exact ⟨job, hjob, hf _ hover⟩
  · exact ⟨job', hjob', hover⟩

lemma closing_modifyJob_of_closed {d : Chat} (hd : Linked d) {j t : ℕ} {job : ReplyJob}
    (hjob : d.jobs.get? j = some job) (hturn : job.aiTurnId = some t) (hclosed : Closed t d)
    (f : BackgroundJob → BackgroundJob) : Closing d (d.modifyJob j f) := by
  refine ⟨fun t row h hopen => ⟨row, h, hopen, rfl⟩, ?_⟩
  intro j' job' t' row hjob' hover hrow hj hopen
  change (d.jobs.modify j _).get? j' = some job' at hjob'
  rw [Table.get?_modify] at hjob'
  split at hjob'
  · rename_i hjj
    subst hjj
    exfalso
    obtain ⟨j'', job'', hj'', hjob'', hback, -⟩ := hd.turnJob t' row hrow
    have hsame : j'' = j' := Option.some.inj (hj''.symm.trans hj)
    subst hsame
    rw [hjob] at hjob''
    cases hjob''
    have htt : t' = t := Option.some.inj (hback.symm.trans hturn)
    subst htt
    rw [hclosed row hrow] at hopen
    cases hopen
  · exact ⟨job', hjob', hover⟩

lemma closing_cancel (d : Chat) (now : Instant) :
    Closing d (cancelOpenAiTurnsForHandoff now d) ∧
      ∀ t, Closed t (cancelOpenAiTurnsForHandoff now d) := by
  have hclosed : ∀ t, Closed t (cancelOpenAiTurnsForHandoff now d) := by
    intro t row' hrow'
    unfold cancelOpenAiTurnsForHandoff at hrow'
    dsimp only at hrow'
    rw [Table.get?_mapRows] at hrow'
    obtain ⟨row, -, rfl⟩ := Option.map_eq_some_iff.1 hrow'
    split
    · rfl
    · rename_i hopen
      rw [Bool.not_eq_true] at hopen
      exact hopen
  refine ⟨⟨?_, ?_⟩, hclosed⟩
  · intro t row' hrow' hopen
    rw [hclosed t row' hrow'] at hopen
    cases hopen
  · intro j job' t row' _ _ hrow' _ hopen
    rw [hclosed t row' hrow'] at hopen
    cases hopen

lemma closing_startTurn (d : Chat) (now : Instant) (turn : Option ℕ) :
    Closing d (startTurn now (turn.bind fun t => turnAt t d) d) := by
  unfold startTurn
  split
  · rename_i t row hturn
    obtain ⟨-, hrow⟩ := turn_bind hturn
    split
    · rename_i hqueued
      have hopen : row.status.isOpen = true := by rw [hqueued]; rfl
      have hfirst : Closing d (markAiTurnProcessing now t d) := by
        unfold markAiTurnProcessing
        apply closing_modifyTurn
        · intro _
          rfl
        · intro row' hrow' _
          rw [hrow] at hrow'
          cases hrow'
          exact hopen
      refine hfirst.trans ?_
      unfold markAiTurnBridgeCalling
      apply closing_modifyTurn
      · intro _
        rfl
      · intro row' hrow' _
        change (d.turns.modify t _).get? t = some row' at hrow'
        rw [Table.get?_modify_self, hrow] at hrow'
        cases hrow'
        rfl
    · exact Closing.refl d
  · exact Closing.refl d

lemma closing_closeTurn (d : Chat) (now : Instant) (turn : Option ℕ) :
    Closing d (closeTurn now turn d) ∧ ∀ t, turn = some t → Closed t (closeTurn now turn d) := by
  cases turn with
  | none => exact ⟨Closing.refl d, fun t ht => by cases ht⟩
  | some t =>
    have hcomplete := closing_complete d now t none
    refine ⟨hcomplete.1, ?_⟩
    intro t' ht'
    cases ht'
    exact hcomplete.2

lemma closing_coalesce {d : Chat} (now debounceAt : Instant) (v : ℕ) {t : ℕ} (row : WebchatAITurn) :
    Closing d (coalesce now debounceAt v t row d) := by
  have hturn : Closing d (d.modifyTurn t fun row =>
      { row with latestVisitorMessageId := v, updatedAt := now }) :=
    closing_modifyTurn d t (fun _ => rfl) fun _ _ hopen => hopen
  unfold coalesce
  dsimp only
  split
  · exact hturn.trans (closing_modifyJob _ _ fun _ hover => hover)
  · exact hturn

end Closing

/-! ## the finaliser and the watchdog -/

variable {t : ℕ} {row : WebchatAITurn}

lemma Finalized.closing {now : Instant} {d d₁ : Chat} (h : Finalized now t row d d₁)
    (hrow : d.turns.get? t = some row) :
    Closing d d₁ ∧ Closed t d₁ := by
  cases h with
  | existing m message h => exact closing_complete d now t (some m)
  | silent hnone h => exact closing_supersedeUnlessSettled now hrow
  | fallback hnone hallowed hnewer =>
    have hcomplete := closing_complete (d.addMessage ⟨.agent, some t, some .aiAssistant⟩) now t
      (some d.messages.next)
    exact ⟨(closing_addMessage d _).trans hcomplete.1, hcomplete.2⟩

/-- no turn opens, no link is new, and no job is over while its turn is open. -/
structure Keeps (d d' : Chat) : Prop where
  linked : Linked d'
  jobs : ∀ j, (d'.jobs.get? j).map ReplyJob.payload = (d.jobs.get? j).map ReplyJob.payload
  rows : ∀ t row, d.turns.get? t = some row → (d'.turns.get? t).isSome = true
  closing : Closing d d'

section Keeps
variable {d d' d'' : Chat}

lemma SameLinks.rows (h : SameLinks d d') (t : ℕ) (row : WebchatAITurn)
    (hrow : d.turns.get? t = some row) : (d'.turns.get? t).isSome = true := by
  obtain ⟨row', hrow', -⟩ := h.turn hrow
  rw [hrow']
  rfl

lemma SameLinks.keeps (h : SameLinks d d') (hd : Linked d) (hc : Closing d d') : Keeps d d' :=
  ⟨h.linked hd, h.jobs, h.rows, hc⟩

lemma Keeps.refl (hd : Linked d) : Keeps d d :=
  (Tidy.refl d).keeps hd (Closing.refl d)

lemma Keeps.trans (h : Keeps d d') (h' : Keeps d' d'') : Keeps d d'' := by
  refine ⟨h'.linked, fun j => (h'.jobs j).trans (h.jobs j), ?_, h.closing.trans h'.closing⟩
  intro t row hrow
  obtain ⟨row', hrow'⟩ := Option.isSome_iff_exists.1 (h.rows t row hrow)
  exact h'.rows t row' hrow'

lemma Keeps.payload (h : Keeps d d') {j : ℕ} {job : ReplyJob} (hjob : d.jobs.get? j = some job) :
    ∃ job', d'.jobs.get? j = some job' ∧ job'.aiTurnId = job.aiTurnId := by
  have hj := h.jobs j
  rw [hjob, Option.map_some] at hj
  obtain ⟨job', hjob', hpayload⟩ := Option.map_eq_some_iff.1 hj
  exact ⟨job', hjob', (Prod.mk.inj hpayload).2⟩

lemma Keeps.modifyJob (h : Keeps d d') {j t : ℕ} {job : ReplyJob}
    (hjob : d.jobs.get? j = some job) (hturn : job.aiTurnId = some t) (hclosed : Closed t d')
    (f : BackgroundJob → BackgroundJob) : Keeps d (d'.modifyJob j f) := by
  obtain ⟨job', hjob', hback⟩ := h.payload hjob
  refine h.trans ((sameLinks_modifyJob d' j f).keeps h.linked ?_)
  exact closing_modifyJob_of_closed h.linked hjob' (hback.trans hturn) hclosed f

end Keeps

variable {d d' : Chat} {now : Instant} {rejected : Bool} {j : ℕ} {result : Result}

lemma keeps_addMessage (hd : Linked d) {m : WebchatMessage}
    (hm : ∀ t, m.aiTurnId = some t → (d.turns.get? t).isSome = true ∧
      m.authorLabel = some .aiAssistant) : Keeps d (d.addMessage m) := by
  refine ⟨hd.addMessage hm, fun _ => rfl, ?_, closing_addMessage d _⟩
  intro t row h
  show (d.turns.get? t).isSome = true
  rw [h]
  rfl

lemma Finalized.keeps {d₁ : Chat} (h : Finalized now t row d d₁) (hd : Linked d)
    (hrow : d.turns.get? t = some row) :
    Keeps d d₁ ∧ Closed t d₁ := by
  obtain ⟨hclosing, hclosed⟩ := h.closing hrow
  refine ⟨?_, hclosed⟩
  obtain ⟨hlinked, hjobs⟩ := h.linked hd hrow
  refine ⟨hlinked, hjobs, ?_, hclosing⟩
  rcases h.eq_or_new with htidy | ⟨-, htidy⟩
  · exact htidy.rows
  · exact htidy.rows

lemma keeps_finalize (hd : Linked d)
    (h : finalizeDeadWebchatAiJob now rejected j d = .ok d') : Keeps d d' := by
  rcases finalize_ok h with ⟨rfl, -⟩ | ⟨job, t, row, d₁, resolution, hjob, -, hturn, hfinal, rfl⟩
  · exact Keeps.refl hd
  · obtain ⟨hback, hrow, -⟩ := turnOfJob_linked hd hjob hturn
    obtain ⟨hkeeps, hclosed⟩ := hfinal.keeps hd hrow
    exact hkeeps.modifyJob hjob hback hclosed _

lemma keeps_givenUp (hd : Linked d) (h : GivenUp now rejected d d') : Keeps d d' := by
  obtain ⟨t, row, j, reason, d₁, timedOut, hrow, hj, hfinal, rfl⟩ := h
  have hfailed : Keeps d ((d.modifyJob j (failJob now reason)).modifyTurn t fun row =>
      { row with updatedAt := now }) := by
    have htidy := (tidy_unlock d j (f := failJob now reason) fun _ => rfl).trans
      (tidy_modifyTurn _ t (f := fun row => { row with updatedAt := now }) fun _ => rfl)
    refine htidy.keeps hd ?_
    have hjob : Closing d (d.modifyJob j (failJob now reason)) := by
      apply closing_modifyJob
      intro job hover
      cases hover
    refine hjob.trans ?_
    apply closing_modifyTurn
    · intro _
      rfl
    · intro _ _ hopen
      exact hopen
  have hkeeps := hfailed.trans (keeps_finalize hfailed.linked hfinal)
  split
  · refine hkeeps.trans ?_
    have hend := closing_end d₁ t (f := fun row =>
      { row with status := .timeout, updatedAt := now }) (fun _ => rfl) (fun _ => rfl)
    have htidy := tidy_modifyTurn d₁ t (f := fun row =>
      { row with status := .timeout, updatedAt := now }) (fun _ => rfl)
    exact htidy.keeps hkeeps.linked hend.1
  · exact hkeeps

lemma keeps_reconcile {c : ChatSettings}
    (hd : Linked d) (h : reconcileWebchatAiState c now rejected d = .ok d') : Keeps d d' := by
  rcases reconcile_ok hd h with rfl | rfl | ⟨j, hfinal⟩ | hgiven
  · exact Keeps.refl hd
  · exact (tidy_point d none _).keeps hd (closing_conversation d _)
  · exact keeps_finalize hd hfinal
  · exact keeps_givenUp hd hgiven

lemma keeps_orElse (hd : Linked d) {r : Except String Chat}
    (h : ∀ d', r = .ok d' → Keeps d d') : Keeps d (ChatStep.orElse d r) := by
  cases r with
  | error err => exact Keeps.refl hd
  | ok d' => exact h d' rfl

/-- the rows an attempt has worked out; the turn of its job has ended if the job is done. -/
structure Ending (j : ℕ) (result : Result) (d d' : Chat) : Prop extends Keeps d d' where
  own : result = .done → ∀ job t, d.jobs.get? j = some job → job.aiTurnId = some t → Closed t d'

lemma isLive_mark (h : result ≠ .done) (job : BackgroundJob) :
    isLive (result.mark now job).status = true := by
  cases result with
  | done => exact absurd rfl h
  | retry reason =>
    simp only [Result.mark, markRetry]
    split <;> rfl
  | rejected errorType => rfl

lemma Ending.mark {before after : Chat}
    (hd : Linked before) {job : ReplyJob} (hjob : before.jobs.get? j = some job)
    (h : Ending j result before after) :
    Keeps before (after.modifyJob j fun job => result.mark now job) := by
  by_cases hdone : result = .done
  · obtain ⟨t, row, hback, -, -⟩ := hd.jobTurn j job hjob
    exact h.toKeeps.modifyJob hjob hback (h.own hdone job t hjob hback) _
  · refine h.toKeeps.trans ((sameLinks_modifyJob after j _).keeps h.linked ?_)
    apply closing_modifyJob
    intro job hover
    rw [isLive_mark hdone] at hover
    cases hover

lemma keeps_closeAttempt {token : String}
    {rejectedAgain : Bool} {before after : Chat} (hd : Linked before)
    (h : Ending j result before after) :
    Keeps before (closeAttempt now token j result rejected rejectedAgain before after) := by
  unfold closeAttempt
  split
  · exact Keeps.refl hd
  · rename_i job hjob
    split
    · have hmark : Keeps before (after.modifyJob j fun job => result.mark now job) :=
        h.mark hd hjob
      split
      · rename_i d hfinal
        exact hmark.trans (keeps_finalize hmark.linked hfinal)
      · have hretry : Keeps before (before.modifyJob j
            (markRetry now "Unhandled background job exception: RuntimeError")) := by
          refine (sameLinks_modifyJob before j _).keeps hd (closing_modifyJob before j ?_)
          intro job hover
          simp only [markRetry] at hover
          split at hover <;> cases hover
        split
        · rename_i d hfinal
          exact hretry.trans (keeps_finalize hretry.linked hfinal)
        · exact Keeps.refl hd
    · exact Keeps.refl hd

/-! ## runs -/

/-- another open turn is found before the open turn of job `j`. -/
def Chat.Overtaken (d : Chat) (j : ℕ) : Prop :=
  ∃ job ∈ d.jobs.get? j, ∃ t ∈ job.aiTurnId, ∃ own ∈ d.turns.get? t, own.status.isOpen = true ∧
    ∃ r ∈ d.turns.rows, r.1 < t ∧ r.2.status.isOpen = true ∧
      (r.2.triggerMessageId = job.visitorMessageId ∨
        r.2.latestVisitorMessageId = job.visitorMessageId ∨
        d.conversation.activeAiTurnId = some r.1)

instance (d : Chat) (j : ℕ) : Decidable (d.Overtaken j) :=
  inferInstanceAs (Decidable (∃ job ∈ d.jobs.get? j, ∃ t ∈ job.aiTurnId,
    ∃ own ∈ d.turns.get? t, own.status.isOpen = true ∧ ∃ r ∈ d.turns.rows, _ ∧ _ ∧ (_ ∨ _ ∨ _)))

/-- the job of a worker that has not looked up its turn. -/
def ChatDesk.startingJob (s : ChatDesk) (token : String) : Option ℕ :=
  match s.workers token with
  | some (.working j) => some j
  | _ => none

def OwnTurnFirst (s : ChatDesk) : ChatStep → Prop
  | .pick token => ∀ j ∈ s.startingJob token, ¬ s.chat.Overtaken j
  | _ => True

instance (s : ChatDesk) : ∀ i, Decidable (OwnTurnFirst s i)
  | .pick token => inferInstanceAs (Decidable (∀ j ∈ s.startingJob token, ¬ s.chat.Overtaken j))
  | .visitor _ _ | .claim _ _ _ | .refresh _ _ _ | .heartbeat _ _ _ | .reject _ _ _
  | .prepare _ _ _ | .prepareRaises _ _ _ _ _ | .generate _ _ _ | .finish _ _ _ _ | .crash _
  | .handoff _ _ _ | .resumeAi | .finalize _ _ _ | .reconcile _ _ =>
    inferInstanceAs (Decidable True)

lemma openTurn_own {job : ReplyJob} (hd : Linked d) (hjob : d.jobs.get? j = some job)
    (hback : job.aiTurnId = some t) (h : ¬ d.Overtaken j) (hclosed : ¬ Closed t d) :
    (openTurnForMessage job.visitorMessageId d).map Prod.fst = some t := by
  obtain ⟨t', own, ht', hown, hid⟩ := hd.jobTurn j job hjob
  have htt : t' = t := Option.some.inj (ht'.symm.trans hback)
  subst htt
  obtain ⟨j', job', hj', hjob', -, htrigger⟩ := hd.turnJob t' own hown
  have hjj : j' = j := Option.some.inj (hj'.symm.trans hid)
  subst hjj
  rw [hjob] at hjob'
  cases hjob'
  have hopen : own.status.isOpen = true := by
    by_contra hnot
    rw [Bool.not_eq_true] at hnot
    apply hclosed
    intro row hrow
    rw [hown] at hrow
    cases hrow
    exact hnot
  have hmem : (t', own) ∈ d.turns.select fun _ row => row.status.isOpen :=
    (Table.mem_select _).2 ⟨hown, hopen⟩
  have hmatch : (own.triggerMessageId == job.visitorMessageId ||
      own.latestVisitorMessageId == job.visitorMessageId ||
      d.conversation.activeAiTurnId == some t') = true := by
    rw [htrigger, beq_self_eq_true, Bool.true_or, Bool.true_or]
  unfold openTurnForMessage
  cases hfind : (d.turns.select fun _ row => row.status.isOpen).find? fun r =>
      r.2.triggerMessageId == job.visitorMessageId ||
        r.2.latestVisitorMessageId == job.visitorMessageId ||
        d.conversation.activeAiTurnId == some r.1 with
  | none =>
    have hnone := List.find?_eq_none.1 hfind (t', own) hmem
    exact absurd hmatch hnone
  | some r =>
    have hle := Table.find?_select_le _ hfind hmem hmatch
    have hr := (Table.mem_select _).1 (List.mem_of_find?_eq_some hfind)
    have hfound := List.find?_some hfind
    simp only [Bool.or_eq_true, beq_iff_eq] at hfound
    rw [Option.map_some, Option.some.injEq]
    by_contra hne
    apply h
    refine ⟨job, hjob, t', hback, own, hown, hopen, r, (Table.mem_rows _).2 hr.1, ?_, hr.2, ?_⟩
    · dsimp only at hle
      omega
    · rcases hfound with (h₁ | h₂) | h₃
      · exact Or.inl h₁
      · exact Or.inr (Or.inl h₂)
      · exact Or.inr (Or.inr h₃)

/-- the turn that phase `phase` is about: its job's own, unless that one has ended. -/
def Sees (d : Chat) (phase : Phase) : Prop :=
  (∃ job t, d.jobs.get? phase.job = some job ∧ job.aiTurnId = some t ∧
    ((∃ j, phase = .working j) ∨ Closed t d ∨ phase.turn = some t)) ∧
  ∀ t, phase.turn = some t → (d.turns.get? t).isSome = true

structure Housed (s : ChatDesk) : Prop where
  linked : Linked s.chat
  alive : ∀ t row j job, s.chat.turns.get? t = some row → row.status.isOpen = true →
    row.jobId = some j → s.chat.jobs.get? j = some job → isLive job.status = true
  sees : ∀ token phase, s.workers token = some phase → Sees s.chat phase

lemma housed_empty : Housed ChatDesk.empty := by
  constructor
  · exact linked_empty
  · intro t row j job h
    cases h
  · intro token phase h
    cases h

section Housed
variable {s : ChatDesk}
variable {d d' : Chat} {phase : Phase}

lemma Sees.keeps (h : Sees d phase) (hd : Keeps d d') :
    Sees d' phase := by
  obtain ⟨⟨job, t, hjob, hback, hturn⟩, hrows⟩ := h
  obtain ⟨job', hjob', hsame⟩ := hd.payload hjob
  constructor
  · refine ⟨job', t, hjob', hsame.trans hback, ?_⟩
    rcases hturn with hworking | hclosed | hown
    · exact Or.inl hworking
    · exact Or.inr (Or.inl (hd.closing.closed hclosed))
    · exact Or.inr (Or.inr hown)
  · intro t' ht'
    obtain ⟨row, hrow⟩ := Option.isSome_iff_exists.1 (hrows t' ht')
    exact hd.rows t' row hrow

lemma Housed.keeps (h : Housed s) (hd : Keeps s.chat d') :
    Housed { s with chat := d' } := by
  refine ⟨hd.linked, ?_, fun token phase hphase => (h.sees token phase hphase).keeps hd⟩
  intro t row' j job' hrow' hopen hj hjob'
  by_contra hover
  rw [Bool.not_eq_true] at hover
  obtain ⟨row, hrow, hopen₀, hid⟩ := hd.closing.turns t row' hrow' hopen
  obtain ⟨job, hjob, hover₀⟩ := hd.closing.jobs j job' t row' hjob' hover hrow' hj hopen
  rw [h.alive t row j job hrow hopen₀ (hid.trans hj) hjob] at hover₀
  cases hover₀

lemma Housed.release (h : Housed s) (token : String) :
    Housed { s with workers := s.workers.release token } := by
  refine ⟨h.linked, h.alive, ?_⟩
  intro token' phase hphase
  exact h.sees token' phase (InHand.of_release hphase).2

lemma Housed.take (h : Housed s) (token : String) (hsees : Sees s.chat phase) :
    Housed { s with workers := s.workers.take token phase } := by
  refine ⟨h.linked, h.alive, ?_⟩
  intro token' phase' hphase
  rcases InHand.of_take hphase with ⟨-, rfl⟩ | ⟨-, hold⟩
  · exact hsees
  · exact h.sees token' phase' hold

lemma Housed.close (h : Housed s) (now : Instant) (token : String) {j : ℕ} {result : Result}
    (f : Fallback) {after : Chat} (hw : Ending j result s.chat after) :
    Housed (ChatStep.close now token j result f after s) :=
  (h.keeps (keeps_closeAttempt h.linked hw)).release token

lemma Sees.own (h : Sees d phase) (hd : Keeps d d')
    (hphase : ∀ j, phase ≠ .working j) (hclosed : ∀ t, phase.turn = some t → Closed t d') :
    ∀ job t, d.jobs.get? phase.job = some job → job.aiTurnId = some t → Closed t d' := by
  intro job' t' hjob' hback'
  obtain ⟨⟨job, t, hjob, hback, hturn⟩, -⟩ := h
  rw [hjob] at hjob'
  cases hjob'
  rw [hback] at hback'
  cases hback'
  rcases hturn with ⟨j, hworking⟩ | hover | hown
  · exact absurd hworking (hphase j)
  · exact hd.closing.closed hover
  · exact hclosed t' hown

lemma Housed.claim (h : Housed s) (c : ChatSettings) (now : Instant) (token : String) (j : ℕ) :
    Housed (ChatStep.applyClaim c now token j s) := by
  unfold ChatStep.applyClaim
  split
  · exact h
  · split
    · have hkeeps : Keeps s.chat (s.chat.modifyJob j (takeLease now token)) := by
        refine (sameLinks_modifyJob s.chat j _).keeps h.linked (closing_modifyJob s.chat j ?_)
        intro job hover
        cases hover
      obtain ⟨hlinked, halive, hsees⟩ := h.keeps hkeeps
      exact ⟨hlinked, halive, hsees⟩
    · exact h

lemma keeps_renew (hd : Linked d) (now : Instant) (token : String) (j : ℕ) :
    Keeps d (d.modifyJob j (renewLease now token)) := by
  refine (tidy_renew d now token j).keeps hd (closing_modifyJob d j ?_)
  intro job hover
  unfold renewLease at hover
  split at hover <;> exact hover

lemma Housed.refresh (h : Housed s) (now : Instant) (token : String) (j : ℕ) :
    Housed (ChatStep.applyRefresh now token j s) := by
  unfold ChatStep.applyRefresh
  split
  · rename_i job _ hjob
    split
    · have hrenew := h.keeps (keeps_renew h.linked now token j)
      obtain ⟨t, row, hback, -, -⟩ := h.linked.jobTurn j job hjob
      obtain ⟨job', hjob', hsame⟩ := (keeps_renew h.linked now token j).payload hjob
      apply hrenew.take token
      refine ⟨⟨job', t, hjob', hsame.trans hback, Or.inl ⟨j, rfl⟩⟩, ?_⟩
      intro t' ht'
      cases ht'
    · exact h
  · exact h

lemma Housed.reject (h : Housed s) (now : Instant) (token errorType : String) :
    Housed (ChatStep.applyReject now token errorType s) := by
  unfold ChatStep.applyReject
  split
  · rename_i j _
    split
    · split
      · have hkeeps : Keeps s.chat (s.chat.modifyJob j (rejectScope now errorType)) := by
          refine (sameLinks_modifyJob s.chat j _).keeps h.linked (closing_modifyJob s.chat j ?_)
          intro job hover
          cases hover
        exact (h.keeps hkeeps).release token
      · exact h.release token
    · exact h.release token
  · exact h

lemma Housed.pick (h : Housed s) {token : String} (hown : OwnTurnFirst s (.pick token)) :
    Housed (ChatStep.applyPick token s) := by
  unfold ChatStep.applyPick
  split
  · rename_i j hphase
    apply h.take token
    obtain ⟨⟨job, t, hjob, hback, -⟩, -⟩ := h.sees token _ hphase
    have hjob : s.chat.jobs.get? j = some job := hjob
    have hmessage : s.visitorMessage j = job.visitorMessageId := by
      unfold ChatDesk.visitorMessage
      rw [hjob]
      rfl
    constructor
    · refine ⟨job, t, hjob, hback, Or.inr ?_⟩
      by_cases hclosed : Closed t s.chat
      · exact Or.inl hclosed
      · right
        show (openTurnForMessage (s.visitorMessage j) s.chat).map Prod.fst = some t
        rw [hmessage]
        apply openTurn_own h.linked hjob hback _ hclosed
        apply hown
        unfold ChatDesk.startingJob
        rw [hphase]
        rfl
    · intro t' ht'
      obtain ⟨⟨t'', row⟩, hfound, rfl⟩ := Option.map_eq_some_iff.1 ht'
      rw [openTurn_row hfound]
      rfl
  · exact h

lemma keeps_started (hd : Linked d) (now : Instant) (turn : Option ℕ) :
    Keeps d (started now turn d) :=
  (tidy_started now turn d).keeps hd (closing_startTurn d now turn)

lemma keeps_supersede (hd : Linked d) (now : Instant) (t : ℕ) :
    Keeps d (supersedeAiTurn now t d) :=
  (tidy_supersede d now t).keeps hd (closing_supersede d now t).1

lemma Sees.ending (h : Sees d phase) (hd : Keeps d d')
    (hphase : ∀ j, phase ≠ .working j) (hclosed : ∀ t, phase.turn = some t → Closed t d') :
    Ending phase.job .done d d' :=
  ⟨hd, fun _ => h.own hd hphase hclosed⟩

lemma ending_of_ne (hd : Keeps d d') (j : ℕ) {result : Result}
    (h : result ≠ .done) : Ending j result d d' :=
  ⟨hd, fun hdone => absurd hdone h⟩

lemma Housed.prepare (h : Housed s) (now : Instant) (token : String) (f : Fallback) :
    Housed (ChatStep.applyPrepare now token f s) := by
  unfold ChatStep.applyPrepare
  split
  · rename_i j turn hphase
    have hsees := h.sees token _ hphase
    have hstart := keeps_started h.linked now turn
    have hclose : ∀ d, Keeps s.chat d → (∀ t, turn = some t → Closed t d) →
        Housed (ChatStep.close now token j .done f d s) := by
      intro d hkeeps hclosed
      exact h.close now token f (hsees.ending hkeeps (fun _ heq => by cases heq) hclosed)
    have hspec := prepare_spec now (s.visitorMessage j) turn s.chat
    generalize Webchat.prepare now (s.visitorMessage j) turn s.chat = r at hspec ⊢
    cases hspec with
    | suspended hsuspended =>
      have hcancel := closing_cancel s.chat now
      exact hclose _ ((tidy_cancel s.chat now).keeps h.linked hcancel.1) fun t _ => hcancel.2 t
    | answered hopen hreply =>
      have hturn := closing_closeTurn (started now turn s.chat) now turn
      exact hclose _ (hstart.trans ((tidy_closeTurn _ now turn).keeps hstart.linked hturn.1)) hturn.2
    | stale t row hturn hopen hrow hstale =>
      apply hclose _ (hstart.trans (keeps_supersede hstart.linked now t))
      intro t' ht'
      rw [hturn] at ht'
      cases ht'
      exact (closing_supersede _ now t).2
    | goesOn hopen hreply =>
      have hnext := h.keeps hstart
      apply hnext.take token
      obtain ⟨⟨job, t, hjob, hback, hturn⟩, hrows⟩ := hnext.sees token (.picked j turn) hphase
      refine ⟨⟨job, t, hjob, hback, ?_⟩, hrows⟩
      rcases hturn with ⟨j', heq⟩ | hown
      · cases heq
      · exact Or.inr hown
  · exact h

lemma Housed.prepareRaises (h : Housed s) (now : Instant) (token reason : String) (started : Bool)
    (f : Fallback) : Housed (ChatStep.applyPrepareRaises now token reason started f s) := by
  have hretry : Result.retry reason ≠ .done := fun heq => by cases heq
  unfold ChatStep.applyPrepareRaises
  split
  · exact h.close now token f (ending_of_ne (Keeps.refl h.linked) _ hretry)
  · rename_i j turn _
    apply h.close now token f
    apply ending_of_ne _ _ hretry
    split
    · exact keeps_started h.linked now turn
    · exact Keeps.refl h.linked
  · exact h

lemma Housed.generate (h : Housed s) (now : Instant) (token : String) (f : Fallback) :
    Housed (ChatStep.applyGenerate now token f s) := by
  unfold ChatStep.applyGenerate
  split
  · rename_i j turn hphase
    have hsees := h.sees token _ hphase
    have hclose : ∀ d, Keeps s.chat d → (∀ t, turn = some t → Closed t d) →
        Housed (ChatStep.close now token j .done f d s) := by
      intro d hkeeps hclosed
      exact h.close now token f (hsees.ending hkeeps (fun _ heq => by cases heq) hclosed)
    have hnext : Housed { s with
        workers := s.workers.take token (.replying j (turn.bind fun t => turnAt t s.chat)) } := by
      apply h.take token
      obtain ⟨⟨job, t, hjob, hback, hturn⟩, hrows⟩ := hsees
      constructor
      · refine ⟨job, t, hjob, hback, ?_⟩
        rcases hturn with ⟨j', heq⟩ | hclosed | hown
        · cases heq
        · exact Or.inr (Or.inl hclosed)
        · right
          right
          obtain ⟨row, hrow⟩ := Option.isSome_iff_exists.1 (hrows t hown)
          have hturn : turn = some t := hown
          show (turn.bind fun t => turnAt t s.chat).map Prod.fst = some t
          rw [hturn, Option.bind_some]
          unfold turnAt
          rw [hrow]
          rfl
      · intro t' ht'
        obtain ⟨⟨t'', row⟩, hfound, rfl⟩ := Option.map_eq_some_iff.1 ht'
        rw [(turn_bind hfound).2]
        rfl
    have hspec := generate_spec now (s.visitorMessage j) turn s.chat
    generalize Webchat.generate now (s.visitorMessage j) turn s.chat = r at hspec ⊢
    cases hspec with
    | skipped hskip =>
      have hturn := closing_closeTurn s.chat now turn
      exact hclose _ ((tidy_closeTurn s.chat now turn).keeps h.linked hturn.1) hturn.2
    | stale t row hturn hopen hrow hstale =>
      have hfirst := keeps_supersede h.linked now t
      apply hclose _ (hfirst.trans (keeps_supersede hfirst.linked now t))
      intro t' ht'
      rw [hturn] at ht'
      cases ht'
      exact (closing_supersede _ now t).2
    | goesOn hreply => exact hnext
  · exact h

lemma keeps_writeReply (hd : Linked d) (now : Instant) {turn : Option ℕ}
    (outcome : AgentOutcome) (hrow : ∀ t, turn = some t → (d.turns.get? t).isSome = true) :
    Keeps d (writeReply now turn outcome d).2 ∧ ((writeReply now turn outcome d).1 = .done →
      ∀ t, turn = some t → Closed t (writeReply now turn outcome d).2) := by
  have hadd : Keeps d (d.addMessage ⟨.agent, turn, some .aiAssistant⟩) :=
    keeps_addMessage hd fun t ht => ⟨hrow t ht, rfl⟩
  cases outcome with
  | raises reason => exact ⟨Keeps.refl hd, fun hdone => by cases hdone⟩
  | replyThenRaises reason => exact ⟨hadd, fun hdone => by cases hdone⟩
  | reply =>
    cases turn with
    | none => exact ⟨hadd, fun _ t ht => by cases ht⟩
    | some t =>
      have hcomplete := closing_complete (d.addMessage ⟨.agent, some t, some .aiAssistant⟩) now t
        (some d.messages.next)
      refine ⟨hadd.trans ((tidy_complete _ now t _).keeps hadd.linked hcomplete.1), ?_⟩
      intro _ t' ht'
      cases ht'
      exact hcomplete.2

lemma Housed.finish (h : Housed s) (now : Instant) (token : String) (outcome : AgentOutcome)
    (f : Fallback) : Housed (ChatStep.applyFinish now token outcome f s) := by
  unfold ChatStep.applyFinish
  split
  · rename_i j turn hphase
    have hsees := h.sees token _ hphase
    have hending : ∀ result d, Keeps s.chat d →
        (result = .done → ∀ t, turn.map Prod.fst = some t → Closed t d) →
        Ending j result s.chat d := by
      intro result d hkeeps hclosed
      by_cases hdone : result = .done
      · subst hdone
        exact hsees.ending hkeeps (fun _ heq => by cases heq) (hclosed rfl)
      · exact ending_of_ne hkeeps j hdone
    dsimp only
    apply h.close now token f
    have hspec := finishReply_spec now turn outcome s.chat
    generalize finishReply now turn outcome s.chat = r at hspec ⊢
    cases hspec with
    | raised reason => exact hending _ _ (Keeps.refl h.linked) fun hdone => by cases hdone
    | handedOff t row hturn hsuspended =>
      apply hending _ _ (keeps_supersede h.linked now t)
      intro _ t' ht'
      rw [hturn] at ht'
      cases ht'
      exact (closing_supersede _ now t).2
    | ended t row hturn hsuspended hclosed =>
      apply hending _ _ (Keeps.refl h.linked)
      intro _ t' ht'
      rw [hturn] at ht'
      cases ht'
      exact hclosed
    | stale t row hturn hopen hstale =>
      have hfirst := keeps_supersede h.linked now t
      apply hending _ _ (hfirst.trans (keeps_supersede hfirst.linked now t))
      intro _ t' ht'
      rw [hturn] at ht'
      cases ht'
      exact (closing_supersede _ now t).2
    | written hfresh =>
      have hrows : ∀ t, turn.map Prod.fst = some t → (s.chat.turns.get? t).isSome = true := hsees.2
      obtain ⟨hkeeps, hclosed⟩ := keeps_writeReply h.linked now outcome hrows
      exact hending _ _ hkeeps hclosed
  · exact h

lemma Housed.createTurn (h : Housed s) (c : ChatSettings) (now debounceAt : Instant) {v : ℕ}
    (hv : v < s.chat.messages.next) (active next : Option ℕ) :
    Housed { s with chat := (createTurn c now debounceAt v s.chat).point active next } := by
  refine ⟨(tidy_point _ active next).linked (h.linked.createTurn c now debounceAt hv), ?_, ?_⟩
  · intro t row j job hrow hopen hj hjob
    change (s.chat.turns.insert _).get? t = some row at hrow
    change (s.chat.jobs.insert _).get? j = some job at hjob
    rw [Table.get?_insert] at hrow hjob
    split at hjob
    · cases hjob
      rfl
    · rename_i hne
      split at hrow
      · cases hrow
        exact absurd (Option.some.inj hj).symm hne
      · exact h.alive t row j job hrow hopen hj hjob
  · intro token phase hphase
    obtain ⟨⟨job, t, hjob, hback, hturn⟩, hrows⟩ := h.sees token phase hphase
    constructor
    · refine ⟨job, t, Table.get?_insert_of_some _ hjob, hback, ?_⟩
      rcases hturn with hworking | hclosed | hown
      · exact Or.inl hworking
      · right
        left
        intro row hrow
        change (s.chat.turns.insert _).get? t = some row at hrow
        obtain ⟨t', own, ht', hown, -⟩ := h.linked.jobTurn _ job hjob
        have htt : t' = t := Option.some.inj (ht'.symm.trans hback)
        subst htt
        rw [Table.get?_insert_of_some _ hown] at hrow
        cases hrow
        exact hclosed row hown
      · exact Or.inr (Or.inr hown)
    · intro t' ht'
      obtain ⟨row, hrow⟩ := Option.isSome_iff_exists.1 (hrows t' ht')
      show ((s.chat.turns.insert _).get? t').isSome = true
      rw [Table.get?_insert_of_some _ hrow]
      rfl

lemma Housed.visitor (h : Housed s) (c : ChatSettings) (now debounceAt : Instant) :
    Housed { s with chat := receiveVisitorMessage c now debounceAt s.chat } := by
  have hkeeps : Keeps s.chat (s.chat.addMessage ⟨.visitor, none, none⟩) := by
    apply keeps_addMessage h.linked
    intro t ht
    cases ht
  have hadd := h.keeps hkeeps
  unfold receiveVisitorMessage
  rcases schedule_cases c now debounceAt s.chat.messages.next
      (s.chat.addMessage ⟨.visitor, none, none⟩) with
    hsame | ⟨t, row, -, -, hcoalesce⟩ | ⟨active, next, hcreate⟩
  · rw [hsame]
    exact hadd
  · rw [hcoalesce]
    apply hadd.keeps
    exact (tidy_coalesce now debounceAt _ t row _).keeps hadd.linked
      (closing_coalesce now debounceAt _ row)
  · rw [hcreate]
    exact hadd.createTurn c now debounceAt (Nat.lt_succ_self _) active next

lemma Housed.step (h : Housed s) (c : ChatSettings) {i : ChatStep} (hi : OwnTurnFirst s i) :
    Housed (i.apply c s) := by
  cases i with
  | visitor now debounceAt => exact h.visitor c now debounceAt
  | claim now token j => exact h.claim c now token j
  | refresh now token j => exact h.refresh now token j
  | heartbeat now token j => exact h.keeps (keeps_renew h.linked now token j)
  | reject now token errorType => exact h.reject now token errorType
  | pick token => exact h.pick hi
  | prepare now token f => exact h.prepare now token f
  | prepareRaises now token reason started f => exact h.prepareRaises now token reason started f
  | generate now token f => exact h.generate now token f
  | finish now token outcome f => exact h.finish now token outcome f
  | crash token => exact h.release token
  | handoff now status agent =>
    have howner := (tidy_conversation s.chat
      { s.chat.conversation with
        aiSuspended := true
        handoffStatus := status
        activeAgentId := agent }).keeps h.linked (closing_conversation s.chat _)
    exact h.keeps (howner.trans ((tidy_cancel _ now).keeps howner.linked (closing_cancel _ now).1))
  | resumeAi =>
    exact h.keeps ((tidy_conversation s.chat _).keeps h.linked (closing_conversation s.chat _))
  | finalize now j rejected =>
    exact h.keeps (keeps_orElse h.linked fun d' hd' => keeps_finalize h.linked hd')
  | reconcile now rejected =>
    exact h.keeps (keeps_orElse h.linked fun d' hd' => keeps_reconcile h.linked hd')

end Housed

/-- an open turn has a job that is pending, processing or dead; the turn of a job that is done has
ended. -/
def Chat.Unstranded (d : Chat) : Prop :=
  (∀ r ∈ d.turns.rows, r.2.status.isOpen = true → ∃ j ∈ r.2.jobId, ∃ job ∈ d.jobs.get? j,
    job.status = .pending ∨ job.status = .processing ∨ job.status = .dead) ∧
  ∀ r ∈ d.jobs.rows, r.2.status = .done → ∀ t ∈ r.2.aiTurnId, ∀ row ∈ d.turns.get? t,
    row.status.isOpen = false

instance (d : Chat) : Decidable d.Unstranded :=
  inferInstanceAs (Decidable (_ ∧ _))

lemma Housed.unstranded {s : ChatDesk} (h : Housed s) : s.chat.Unstranded := by
  constructor
  · rintro ⟨t, row⟩ hmem hopen
    have hrow := (Table.mem_rows _).1 hmem
    obtain ⟨j, job, hj, hjob, -⟩ := h.linked.turnJob t row hrow
    refine ⟨j, hj, job, hjob, ?_⟩
    have hlive := h.alive t row j job hrow hopen hj hjob
    cases hst : job.status with
    | pending => exact Or.inl rfl
    | processing => exact Or.inr (Or.inl rfl)
    | dead => exact Or.inr (Or.inr rfl)
    | done | failed =>
      rw [hst] at hlive
      cases hlive
  · rintro ⟨j, job⟩ hmem hdone t hback row hrow
    have hjob := (Table.mem_rows _).1 hmem
    by_contra hopen
    rw [Bool.not_eq_false] at hopen
    obtain ⟨t', own, ht', hown, hj⟩ := h.linked.jobTurn j job hjob
    have htt : t' = t := Option.some.inj (ht'.symm.trans hback)
    subst htt
    rw [Option.mem_def.1 hrow] at hown
    cases hown
    have hlive := h.alive t' row j job hrow hopen hj hjob
    dsimp only at hdone
    rw [hdone] at hlive
    cases hlive

theorem open_turn_has_job (c : ChatSettings) (l : List ChatStep)
    (h : Along (ChatStep.apply c) OwnTurnFirst ChatDesk.empty l) :
    (run (ChatStep.apply c) ChatDesk.empty l).chat.Unstranded := by
  have hhoused : Housed (run (ChatStep.apply c) ChatDesk.empty l) :=
    h.invariant (I := Housed) (fun s i hs hi => hs.step c hi) housed_empty
  exact hhoused.unstranded

/-- the first attempt at turn 1 fails, and a second message gets turn 2. -/
def retriedRun : List ChatStep :=
  [.visitor 0 (seconds 1), .claim (seconds 1) "a" 1, .refresh (seconds 1) "a" 1, .pick "a",
    .prepare (seconds 1) "a" ⟨false, false⟩, .generate (seconds 1) "a" ⟨false, false⟩,
    .finish (seconds 2) "a" (.raises "agent_turn_timeout") ⟨false, false⟩,
    .visitor (seconds 3) (seconds 4)]

/-- the retry of job 1 comes first and supersedes turn 1; turn 2 is answered by its own job. -/
def answeredRun : List ChatStep :=
  retriedRun ++ [.claim (seconds 62) "b" 1, .refresh (seconds 62) "b" 1, .pick "b",
    .prepare (seconds 62) "b" ⟨false, false⟩, .claim (seconds 63) "c" 2,
    .refresh (seconds 63) "c" 2, .pick "c", .prepare (seconds 63) "c" ⟨false, false⟩,
    .generate (seconds 63) "c" ⟨false, false⟩, .finish (seconds 64) "c" .reply ⟨false, false⟩]

theorem open_turn_has_job_answered :
    (run (ChatStep.apply chatSettings) ChatDesk.empty answeredRun).chat.Unstranded ∧
      outcomes 2 (run (ChatStep.apply chatSettings) ChatDesk.empty answeredRun).chat =
        [(3, ⟨.agent, some 2, some .aiAssistant⟩)] :=
  ⟨open_turn_has_job chatSettings answeredRun (by decide +kernel), by decide +kernel⟩

/-- job 2 runs first: it finds turn 1, supersedes it and is done, while turn 2 is queued. -/
def crossedRun : List ChatStep :=
  retriedRun ++ [.claim (seconds 5) "b" 2, .refresh (seconds 5) "b" 2, .pick "b",
    .prepare (seconds 5) "b" ⟨false, false⟩]

theorem crossed_not_unstranded :
    ¬ (run (ChatStep.apply chatSettings) ChatDesk.empty crossedRun).chat.Unstranded ∧
      ((run (ChatStep.apply chatSettings) ChatDesk.empty crossedRun).chat.turns.get? 2).map
        (fun row => (row.status, row.jobId)) = some (.queued, some 2) ∧
      ((run (ChatStep.apply chatSettings) ChatDesk.empty crossedRun).chat.jobs.get? 2).map
        (·.status) = some .done := by
  decide +kernel

end NexusHelpdesk.Webchat
