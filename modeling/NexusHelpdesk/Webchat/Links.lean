import NexusHelpdesk.Webchat.Attempts

/-!
# What the operations on turns leave alone

* `Own`: the lease of a job; `Linked`: a turn and its job refer to each other, and an Agent's message
  refers to a turn and is newer than the message of its job;
* `Tidy`: no message, no link and no lease is new.  Every operation is tidy but the creation of a
  turn, a new message and a claim;
* `finalize_ok`, `reconcile_ok`: **the results of the finaliser and of the watchdog, case by case**.
-/

namespace NexusHelpdesk.Webchat

open Lib Jobs

/-! ## leases and links -/

/-- job `j` carries the lease `token`. -/
def Own (token : String) (j : ℕ) (d : Chat) : Prop :=
  ∃ job, d.jobs.get? j = some job ∧ ownsJobLease token job.toBackgroundJob = true

def ReplyJob.payload (job : ReplyJob) : ℕ × Option ℕ := (job.visitorMessageId, job.aiTurnId)

def WebchatAITurn.link (row : WebchatAITurn) : Option ℕ × ℕ := (row.jobId, row.triggerMessageId)

structure Linked (d : Chat) : Prop where
  turnJob : ∀ t row, d.turns.get? t = some row → ∃ j job, row.jobId = some j ∧
    d.jobs.get? j = some job ∧ job.aiTurnId = some t ∧
    job.visitorMessageId = row.triggerMessageId
  jobTurn : ∀ j job, d.jobs.get? j = some job → ∃ t row, job.aiTurnId = some t ∧
    d.turns.get? t = some row ∧ row.jobId = some j
  visitor : ∀ j job, d.jobs.get? j = some job → job.visitorMessageId < d.messages.next
  labelled : ∀ t m row, d.messages.get? m = some row → row.aiTurnId = some t →
    (d.turns.get? t).isSome = true ∧ row.authorLabel = some .aiAssistant ∧
      ∀ j job, d.jobs.get? j = some job → job.aiTurnId = some t → job.visitorMessageId < m

lemma linked_empty : Linked Chat.empty := by
  constructor
  · intro t row h
    cases h
  · intro j job h
    cases h
  · intro j job h
    cases h
  · intro t m row h
    cases h

structure SameLinks (d d' : Chat) : Prop where
  messages : d'.messages = d.messages
  turns : ∀ t, (d'.turns.get? t).map WebchatAITurn.link = (d.turns.get? t).map WebchatAITurn.link
  jobs : ∀ j, (d'.jobs.get? j).map ReplyJob.payload = (d.jobs.get? j).map ReplyJob.payload

structure Tidy (d d' : Chat) : Prop extends SameLinks d d' where
  leases : ∀ token j, Own token j d' → Own token j d

lemma Tidy.refl (d : Chat) : Tidy d d :=
  ⟨⟨rfl, fun _ => rfl, fun _ => rfl⟩, fun _ _ h => h⟩

lemma Tidy.trans {d d' d'' : Chat} (h : Tidy d d') (h' : Tidy d' d'') : Tidy d d'' :=
  ⟨⟨h'.messages.trans h.messages, fun t => (h'.turns t).trans (h.turns t),
    fun j => (h'.jobs j).trans (h.jobs j)⟩,
    fun token j hj => h.leases token j (h'.leases token j hj)⟩

section SameLinks
variable {d d' : Chat}

section
variable (h : SameLinks d d')
include h

lemma SameLinks.turn_link {t : ℕ} {row : WebchatAITurn} (hrow : d.turns.get? t = some row) :
    ∃ row', d'.turns.get? t = some row' ∧ row'.link = row.link := by
  have ht := h.turns t
  rw [hrow, Option.map_some] at ht
  exact Option.map_eq_some_iff.1 ht

lemma SameLinks.turn {t : ℕ} {row : WebchatAITurn} (hrow : d.turns.get? t = some row) :
    ∃ row', d'.turns.get? t = some row' ∧ row'.jobId = row.jobId := by
  obtain ⟨row', hrow', hlink⟩ := h.turn_link hrow
  exact ⟨row', hrow', (Prod.mk.inj hlink).1⟩

lemma SameLinks.turn_of {t : ℕ} {row' : WebchatAITurn} (hrow : d'.turns.get? t = some row') :
    ∃ row, d.turns.get? t = some row ∧ row.link = row'.link := by
  have ht := h.turns t
  rw [hrow, Option.map_some] at ht
  exact Option.map_eq_some_iff.1 ht.symm

lemma SameLinks.job {j : ℕ} {job : ReplyJob} (hjob : d.jobs.get? j = some job) :
    ∃ job', d'.jobs.get? j = some job' ∧ job'.payload = job.payload := by
  have hj := h.jobs j
  rw [hjob, Option.map_some] at hj
  exact Option.map_eq_some_iff.1 hj

lemma SameLinks.job_of {j : ℕ} {job' : ReplyJob} (hjob : d'.jobs.get? j = some job') :
    ∃ job, d.jobs.get? j = some job ∧ job.payload = job'.payload := by
  have hj := h.jobs j
  rw [hjob, Option.map_some] at hj
  exact Option.map_eq_some_iff.1 hj.symm

lemma SameLinks.outcomes (t : ℕ) : outcomes t d' = outcomes t d := by
  unfold Webchat.outcomes
  rw [h.messages]

lemma SameLinks.linked (hd : Linked d) : Linked d' := by
  constructor
  · intro t row' hrow'
    obtain ⟨row, hrow, hlink⟩ := h.turn_of hrow'
    obtain ⟨j, job, hj, hjob, hturn, htrigger⟩ := hd.turnJob t row hrow
    obtain ⟨job', hjob', hpayload⟩ := h.job hjob
    obtain ⟨hid, htrigger'⟩ := Prod.mk.inj hlink
    obtain ⟨hmessage, hback⟩ := Prod.mk.inj hpayload
    refine ⟨j, job', hid.symm.trans hj, hjob', hback.trans hturn, ?_⟩
    exact hmessage.trans (htrigger.trans htrigger')
  · intro j job' hjob'
    obtain ⟨job, hjob, hpayload⟩ := h.job_of hjob'
    obtain ⟨t, row, hturn, hrow, hj⟩ := hd.jobTurn j job hjob
    obtain ⟨row', hrow', hid⟩ := h.turn hrow
    exact ⟨t, row', (Prod.mk.inj hpayload).2.symm.trans hturn, hrow', hid.trans hj⟩
  · intro j job' hjob'
    obtain ⟨job, hjob, hpayload⟩ := h.job_of hjob'
    have hlt := hd.visitor j job hjob
    rw [(Prod.mk.inj hpayload).1] at hlt
    rw [h.messages]
    exact hlt
  · intro t m row hm hturn
    rw [h.messages] at hm
    obtain ⟨hsome, hlabel, hlt⟩ := hd.labelled t m row hm hturn
    refine ⟨?_, hlabel, ?_⟩
    · obtain ⟨row₀, hrow₀⟩ := Option.isSome_iff_exists.1 hsome
      obtain ⟨row', hrow', -⟩ := h.turn hrow₀
      rw [hrow']
      rfl
    · intro j job' hjob' ht
      obtain ⟨job, hjob, hpayload⟩ := h.job_of hjob'
      have hlt' := hlt j job hjob ((Prod.mk.inj hpayload).2.trans ht)
      rw [(Prod.mk.inj hpayload).1] at hlt'
      exact hlt'

end

end SameLinks

/-! ## tidy operations -/

section Operations
variable (d : Chat)

lemma tidy_modifyTurn (t : ℕ) {f : WebchatAITurn → WebchatAITurn}
    (hf : ∀ row, (f row).link = row.link) : Tidy d (d.modifyTurn t f) := by
  refine ⟨⟨rfl, ?_, fun _ => rfl⟩, fun _ _ h => h⟩
  intro t'
  show ((d.turns.modify t f).get? t').map WebchatAITurn.link = _
  rw [Table.get?_modify]
  split
  · rw [Option.map_map]
    congr 1
    funext row
    exact hf row
  · rfl

lemma sameLinks_modifyJob (j : ℕ) (f : BackgroundJob → BackgroundJob) :
    SameLinks d (d.modifyJob j f) := by
  refine ⟨rfl, fun _ => rfl, ?_⟩
  intro j'
  show ((d.jobs.modify j _).get? j').map ReplyJob.payload = _
  rw [Table.get?_modify]
  split
  · rw [Option.map_map]
    rfl
  · rfl

variable {f : BackgroundJob → BackgroundJob}

lemma own_modifyJob {token : String} {j j' : ℕ} (h : Own token j' (d.modifyJob j f)) :
    Own token j' d ∨ ∃ job, d.jobs.get? j = some job ∧ j' = j ∧
      ownsJobLease token (f job.toBackgroundJob) = true := by
  obtain ⟨job', hjob', hown⟩ := h
  change (d.jobs.modify j _).get? j' = some job' at hjob'
  rw [Table.get?_modify] at hjob'
  split at hjob'
  · rename_i hj
    subst hj
    obtain ⟨job, hjob, rfl⟩ := Option.map_eq_some_iff.1 hjob'
    exact Or.inr ⟨job, hjob, rfl, hown⟩
  · exact Or.inl ⟨job', hjob', hown⟩

lemma tidy_modifyJob (j : ℕ)
    (hf : ∀ job token, ownsJobLease token (f job) = true → ownsJobLease token job = true) :
    Tidy d (d.modifyJob j f) := by
  refine ⟨sameLinks_modifyJob d j f, ?_⟩
  intro token j' h
  rcases own_modifyJob d h with hold | ⟨job, hjob, rfl, hown⟩
  · exact hold
  · exact ⟨job, hjob, hf _ token hown⟩

lemma tidy_renew (now : Instant) (token : String) (j : ℕ) :
    Tidy d (d.modifyJob j (renewLease now token)) := by
  apply tidy_modifyJob
  intro job token' hown
  unfold renewLease at hown
  split at hown <;> exact hown

lemma tidy_conversation (c : WebchatConversation) : Tidy d { d with conversation := c } :=
  ⟨⟨rfl, fun _ => rfl, fun _ => rfl⟩, fun _ _ h => h⟩

lemma tidy_point (active next : Option ℕ) : Tidy d (d.point active next) := tidy_conversation d _

lemma tidy_leaveTurn (t : ℕ) : Tidy d (leaveTurn t d) := by
  unfold leaveTurn promoteNextTurn clearActiveSnapshot
  split
  · split
    · split
      · split <;> exact tidy_point d _ _
      · exact tidy_point d _ _
    · exact tidy_point d _ _
  · exact Tidy.refl d

lemma tidy_complete (now : Instant) (t : ℕ) (reply : Option ℕ) :
    Tidy d (completeAiTurnWithReply now t reply d) :=
  (tidy_modifyTurn d t (by intro row; rfl)).trans (tidy_leaveTurn _ t)

lemma tidy_supersede (now : Instant) (t : ℕ) : Tidy d (supersedeAiTurn now t d) :=
  (tidy_modifyTurn d t (by intro row; rfl)).trans (tidy_leaveTurn _ t)

lemma tidy_supersedeUnlessSettled (now : Instant) (t : ℕ) (row : WebchatAITurn) :
    Tidy d (supersedeUnlessSettled now t row d) := by
  unfold supersedeUnlessSettled
  split
  · exact Tidy.refl d
  · exact tidy_supersede d now t

lemma ownsJobLease_unlocked {token : String} {job : BackgroundJob} (h : job.lockedBy = none) :
    ownsJobLease token job = false := by
  unfold ownsJobLease
  rw [h]
  rfl

lemma tidy_unlock (j : ℕ) (hf : ∀ job, (f job).lockedBy = none) : Tidy d (d.modifyJob j f) := by
  apply tidy_modifyJob
  intro job token hown
  rw [ownsJobLease_unlocked (hf job)] at hown
  cases hown

lemma not_own_unlock (j : ℕ)
    (hf : ∀ job, (f job).lockedBy = none) (token : String) : ¬ Own token j (d.modifyJob j f) := by
  rintro ⟨job', hjob', hown⟩
  change (d.jobs.modify j _).get? j = some job' at hjob'
  rw [Table.get?_modify_self] at hjob'
  obtain ⟨job, -, rfl⟩ := Option.map_eq_some_iff.1 hjob'
  rw [ownsJobLease_unlocked (hf _)] at hown
  cases hown

lemma tidy_cancel (now : Instant) : Tidy d (cancelOpenAiTurnsForHandoff now d) := by
  refine ⟨⟨rfl, ?_, ?_⟩, ?_⟩
  · intro t
    unfold cancelOpenAiTurnsForHandoff
    dsimp only
    rw [Table.get?_mapRows, Option.map_map]
    congr 1
    funext row
    simp only [Function.comp_apply]
    split <;> rfl
  · intro j
    unfold cancelOpenAiTurnsForHandoff
    dsimp only
    rw [Table.get?_mapRows, Option.map_map]
    congr 1
    funext job
    simp only [Function.comp_apply]
    split <;> rfl
  · rintro token j ⟨job', hjob', hown⟩
    unfold cancelOpenAiTurnsForHandoff at hjob'
    dsimp only at hjob'
    rw [Table.get?_mapRows] at hjob'
    obtain ⟨job, hjob, rfl⟩ := Option.map_eq_some_iff.1 hjob'
    split at hown
    · cases hown
    · exact ⟨job, hjob, hown⟩

lemma tidy_startTurn (now : Instant) (turn : Option (ℕ × WebchatAITurn)) :
    Tidy d (startTurn now turn d) := by
  unfold startTurn
  split
  · split
    · exact (tidy_modifyTurn d _ (by intro row; rfl)).trans
        (tidy_modifyTurn _ _ (by intro row; rfl))
    · exact Tidy.refl d
  · exact Tidy.refl d

lemma tidy_closeTurn (now : Instant) (turn : Option ℕ) : Tidy d (closeTurn now turn d) := by
  unfold closeTurn
  split
  · exact tidy_complete d now _ none
  · exact Tidy.refl d

end Operations

variable {d d' : Chat} {t : ℕ} {row : WebchatAITurn} {now : Instant} {rejected : Bool} {v : ℕ}
  {j : ℕ} {d₁ : Chat}

lemma turn_bind {turn : Option ℕ} (h : (turn.bind fun t => turnAt t d) = some (t, row)) :
    turn = some t ∧ d.turns.get? t = some row := by
  obtain ⟨t', ht', hat⟩ := Option.bind_eq_some_iff.1 h
  unfold turnAt at hat
  obtain ⟨row', hrow', hpair⟩ := Option.map_eq_some_iff.1 hat
  cases hpair
  exact ⟨ht', hrow'⟩

lemma openTurn_row (h : openTurnForMessage v d = some (t, row)) : d.turns.get? t = some row :=
  ((Table.mem_select _).1 (List.mem_of_find?_eq_some h)).1

lemma turnOfJob_linked (hd : Linked d) {job : ReplyJob} (hjob : d.jobs.get? j = some job)
    (h : turnOfJob j job d = some (t, row)) :
    job.aiTurnId = some t ∧ d.turns.get? t = some row ∧ row.jobId = some j := by
  obtain ⟨t', row', ht', hrow', hj'⟩ := hd.jobTurn j job hjob
  unfold turnOfJob at h
  rw [ht', Option.bind_some] at h
  have hat : turnAt t' d = some (t', row') := by
    unfold turnAt
    rw [hrow']
    rfl
  rw [hat] at h
  cases h
  exact ⟨ht', hrow', hj'⟩

lemma Linked.addMessage (hd : Linked d) {m : WebchatMessage}
    (hm : ∀ t, m.aiTurnId = some t → (d.turns.get? t).isSome = true ∧
      m.authorLabel = some .aiAssistant) : Linked (d.addMessage m) := by
  refine ⟨hd.turnJob, hd.jobTurn, ?_, ?_⟩
  · intro j job hjob
    have hlt := hd.visitor j job hjob
    show job.visitorMessageId < d.messages.next + 1
    omega
  · intro t i row hrow hturn
    change (d.messages.insert m).get? i = some row at hrow
    rw [Table.get?_insert] at hrow
    split at hrow
    · rename_i hi
      cases hrow
      refine ⟨(hm t hturn).1, (hm t hturn).2, ?_⟩
      intro j job hjob _
      rw [hi]
      exact hd.visitor j job hjob
    · exact hd.labelled t i row hrow hturn

/-- what the finaliser does with the turn of its job. -/
inductive Finalized (now : Instant) (t : ℕ) (row : WebchatAITurn) (d : Chat) : Chat → Prop
  | existing (m : ℕ) (message : WebchatMessage) (h : (m, message) ∈ outcomes t d) :
    Finalized now t row d (completeAiTurnWithReply now t (some m) d)
  | silent (hnone : outcomes t d = [])
    (h : row.isPublicReplyAllowed = false ∨ isAiSuspendedForHandoff d.conversation = true ∨
      newerMessage row d = true ∨ ∃ m message, d.messages.get? m = some message ∧
        message.direction = .agent ∧ row.latestVisitorMessageId < m) :
    Finalized now t row d (supersedeUnlessSettled now t row d)
  | fallback (hnone : outcomes t d = []) (hallowed : row.isPublicReplyAllowed = true)
    (hnewer : newerMessage row d = false) :
    Finalized now t row d (completeAiTurnWithReply now t (some d.messages.next)
      (d.addMessage ⟨.agent, some t, some .aiAssistant⟩))

lemma finalize_ok (h : finalizeDeadWebchatAiJob now rejected j d = .ok d') :
    (d' = d ∧ ∀ job, d.jobs.get? j = some job → job.status ≠ .dead) ∨
      ∃ job t row d₁ resolution, d.jobs.get? j = some job ∧ job.status = .dead ∧
        turnOfJob j job d = some (t, row) ∧ Finalized now t row d d₁ ∧
        d' = d₁.modifyJob j (markTerminalJobResolved now resolution) := by
  unfold finalizeDeadWebchatAiJob at h
  cases hjob : d.jobs.get? j with
  | none =>
    rw [hjob] at h
    left
    exact ⟨(Except.ok.inj h).symm, fun job hj => by cases hj⟩
  | some job =>
    rw [hjob] at h
    dsimp only at h
    by_cases hdead : job.status = .dead
    swap
    · rw [if_pos hdead] at h
      left
      refine ⟨(Except.ok.inj h).symm, ?_⟩
      intro job' hj
      cases hj
      exact hdead
    rw [if_neg (not_not.2 hdead)] at h
    right
    cases hturn : turnOfJob j job d with
    | none =>
      rw [hturn] at h
      cases h
    | some x =>
      obtain ⟨t, row⟩ := x
      rw [hturn] at h
      dsimp only at h
      split at h
      · cases h
      · cases hout : outcomes t d with
        | cons first rest =>
          obtain ⟨m, message⟩ := first
          rw [hout] at h
          dsimp only at h
          refine ⟨job, t, row, _, _, rfl, hdead, hturn,
            .existing m message ?_, (Except.ok.inj h).symm⟩
          rw [hout]
          exact List.mem_cons_self ..
        | nil =>
          rw [hout] at h
          dsimp only at h
          split at h
          · rename_i hhuman
            rw [Bool.or_eq_true, Bool.not_eq_true'] at hhuman
            refine ⟨job, t, row, _, _, rfl, hdead, hturn,
              .silent hout ?_, (Except.ok.inj h).symm⟩
            rcases hhuman with hnot | hsuspended
            · exact Or.inl hnot
            · exact Or.inr (Or.inl hsuspended)
          · rename_i hopen
            rw [Bool.or_eq_true, Bool.not_eq_true', not_or, Bool.not_eq_false,
              Bool.not_eq_true] at hopen
            split at h
            · rename_i hnewer
              exact ⟨job, t, row, _, _, rfl, hdead, hturn,
                .silent hout (Or.inr (Or.inr (Or.inl hnewer))), (Except.ok.inj h).symm⟩
            · rename_i hnewer
              rw [Bool.not_eq_true] at hnewer
              split at h
              · rename_i hlater
                obtain ⟨⟨m, message⟩, hmem, hm⟩ := List.any_eq_true.1 hlater
                rw [Bool.and_eq_true, beq_iff_eq, decide_eq_true_eq] at hm
                exact ⟨job, t, row, _, _, rfl, hdead, hturn,
                  .silent hout (Or.inr (Or.inr (Or.inr ⟨m, message, Table.mem_rows _ |>.1 hmem,
                    hm⟩))), (Except.ok.inj h).symm⟩
              · split at h
                · cases h
                · exact ⟨job, t, row, _, _, rfl, hdead, hturn,
                    .fallback hout hopen.1 hnewer, (Except.ok.inj h).symm⟩

lemma Finalized.linked (h : Finalized now t row d d₁) (hd : Linked d)
    (hrow : d.turns.get? t = some row) :
    Linked d₁ ∧ ∀ j, (d₁.jobs.get? j).map ReplyJob.payload =
      (d.jobs.get? j).map ReplyJob.payload := by
  cases h with
  | existing m message h =>
    have htidy := tidy_complete d now t (some m)
    exact ⟨htidy.linked hd, htidy.jobs⟩
  | silent hnone h =>
    have htidy := tidy_supersedeUnlessSettled d now t row
    exact ⟨htidy.linked hd, htidy.jobs⟩
  | fallback hnone hallowed hnewer =>
    have hadd : Linked (d.addMessage ⟨.agent, some t, some .aiAssistant⟩) := by
      apply hd.addMessage
      intro t' ht'
      cases ht'
      exact ⟨by rw [hrow]; rfl, rfl⟩
    have htidy := tidy_complete (d.addMessage ⟨.agent, some t, some .aiAssistant⟩) now t
      (some d.messages.next)
    exact ⟨htidy.linked hadd, htidy.jobs⟩

lemma Finalized.eq_or_new (h : Finalized now t row d d₁) : Tidy d d₁ ∨ (outcomes t d = [] ∧
      Tidy (d.addMessage ⟨.agent, some t, some .aiAssistant⟩) d₁) := by
  cases h with
  | existing m message h => exact Or.inl (tidy_complete d now t (some m))
  | silent hnone h => exact Or.inl (tidy_supersedeUnlessSettled d now t row)
  | fallback hnone hallowed hnewer =>
    exact Or.inr ⟨hnone, tidy_complete _ now t (some d.messages.next)⟩

/-! ## the watchdog -/

lemma terminalJobForTurn_eq (hd : Linked d) (now : Instant) (reason : String)
    (hrow : d.turns.get? t = some row) :
    ∃ j, row.jobId = some j ∧ terminalJobForTurn now reason t row d =
      (j, (d.modifyJob j (failJob now reason)).modifyTurn t fun row =>
        { row with updatedAt := now }) := by
  obtain ⟨j, job, hj, hjob, -⟩ := hd.turnJob t row hrow
  refine ⟨j, hj, ?_⟩
  unfold terminalJobForTurn
  rw [hj, Option.filter_some, hjob]
  rfl

lemma activeTurn_row (h : activeTurn d = some (t, row)) :
    d.turns.get? t = some row := by
  unfold activeTurn turnAt at h
  obtain ⟨t', -, ht'⟩ := Option.bind_eq_some_iff.1 h
  obtain ⟨row', hrow', heq⟩ := Option.map_eq_some_iff.1 ht'
  cases heq
  exact hrow'

def GivenUp (now : Instant) (rejected : Bool) (d d' : Chat) : Prop :=
  ∃ (t : ℕ) (row : WebchatAITurn) (j : ℕ) (reason : String) (d₁ : Chat) (timedOut : Bool),
    d.turns.get? t = some row ∧ row.jobId = some j ∧
    finalizeDeadWebchatAiJob now rejected j ((d.modifyJob j (failJob now reason)).modifyTurn t
      fun row => { row with updatedAt := now }) = .ok d₁ ∧
    d' = if timedOut then d₁.modifyTurn t fun row =>
      { row with status := .timeout, updatedAt := now } else d₁

lemma finalizeTerminalOutcome_ok {timedOut : Bool} {reason : String}
    (hd : Linked d) (hrow : d.turns.get? t = some row)
    (h : finalizeTerminalOutcome now rejected reason timedOut t row d = .ok d') :
    GivenUp now rejected d d' := by
  obtain ⟨j, hj, heq⟩ := terminalJobForTurn_eq hd now reason hrow
  unfold finalizeTerminalOutcome at h
  rw [heq] at h
  dsimp only at h
  split at h
  · cases h
  · rename_i d₁ hfinal
    exact ⟨t, row, j, reason, d₁, timedOut, hrow, hj, hfinal, (Except.ok.inj h).symm⟩

lemma reconcile_ok {c : ChatSettings}
    (hd : Linked d) (h : reconcileWebchatAiState c now rejected d = .ok d') :
    d' = d ∨ d' = clearActiveSnapshot d ∨
      (∃ j, finalizeDeadWebchatAiJob now rejected j d = .ok d') ∨ GivenUp now rejected d d' := by
  unfold reconcileWebchatAiState at h
  split at h
  · exact Or.inr (Or.inl (Except.ok.inj h).symm)
  · rename_i t row hactive
    have hrow := activeTurn_row hactive
    split at h
    · split at h
      · rename_i j _
        exact Or.inr (Or.inr (Or.inl ⟨j, h⟩))
      · unfold maybeTimeoutStaleOpenTurn at h
        split at h
        · exact Or.inl (Except.ok.inj h).symm
        · split at h
          · exact Or.inl (Except.ok.inj h).symm
          · exact Or.inr (Or.inr (Or.inr (finalizeTerminalOutcome_ok hd hrow h)))
    · split at h
      · exact Or.inr (Or.inr (Or.inr (finalizeTerminalOutcome_ok hd hrow h)))
      · exact Or.inr (Or.inl (Except.ok.inj h).symm)

/-! ## the stretches of an attempt -/

/-- the rows after the turn was started, if it was queued. -/
def started (now : Instant) (turn : Option ℕ) (d : Chat) : Chat :=
  startTurn now (turn.bind fun t => turnAt t d) d

lemma tidy_started (now : Instant) (turn : Option ℕ) (d : Chat) : Tidy d (started now turn d) :=
  tidy_startTurn d now _

inductive Prepared (now : Instant) (v : ℕ) (turn : Option ℕ) (d : Chat) : Stretch → Prop
  | suspended (h : isAiSuspendedForHandoff d.conversation = true) :
    Prepared now v turn d (.ended (cancelOpenAiTurnsForHandoff now d))
  | answered (hopen : isAiSuspendedForHandoff d.conversation = false)
    (h : agentReplyExists v d = true) :
    Prepared now v turn d (.ended (closeTurn now turn (started now turn d)))
  | stale (t : ℕ) (row : WebchatAITurn) (hturn : turn = some t)
    (hopen : isAiSuspendedForHandoff d.conversation = false)
    (hrow : (started now turn d).turns.get? t = some row)
    (h : shouldSuppressStaleReply row (started now turn d) = true) :
    Prepared now v turn d (.ended (supersedeAiTurn now t (started now turn d)))
  | goesOn (hopen : isAiSuspendedForHandoff d.conversation = false)
    (hreply : agentReplyExists v d = false) :
    Prepared now v turn d (.boundary (started now turn d))

lemma prepare_spec (now : Instant) (v : ℕ) (turn : Option ℕ) (d : Chat) :
    Prepared now v turn d (prepare now v turn d) := by
  have hreply : agentReplyExists v (started now turn d) = agentReplyExists v d := by
    unfold agentReplyExists
    rw [(tidy_started now turn d).messages]
  by_cases hsuspended : isAiSuspendedForHandoff d.conversation = true
  · have heq : prepare now v turn d = .ended (cancelOpenAiTurnsForHandoff now d) := by
      unfold prepare
      rw [if_pos hsuspended]
    rw [heq]
    exact .suspended hsuspended
  · rw [Bool.not_eq_true] at hsuspended
    unfold prepare
    rw [if_neg (by rw [hsuspended]; exact Bool.false_ne_true)]
    change Prepared now v turn d (if agentReplyExists v (started now turn d) then _ else _)
    rw [hreply]
    by_cases hanswered : agentReplyExists v d = true
    · rw [if_pos hanswered]
      exact .answered hsuspended hanswered
    · rw [if_neg hanswered]
      rw [Bool.not_eq_true] at hanswered
      split
      · rename_i t row hturn
        obtain ⟨hturn, hrow⟩ := turn_bind hturn
        split
        · rename_i hstale
          exact .stale t row hturn hsuspended hrow hstale
        · exact .goesOn hsuspended hanswered
      · exact .goesOn hsuspended hanswered

inductive Generated (now : Instant) (v : ℕ) (turn : Option ℕ) (d : Chat) : Stretch → Prop
  | skipped (h : isAiSuspendedForHandoff d.conversation = true ∨ agentReplyExists v d = true) :
    Generated now v turn d (.ended (closeTurn now turn d))
  | stale (t : ℕ) (row : WebchatAITurn) (hturn : turn = some t)
    (hopen : isAiSuspendedForHandoff d.conversation = false) (hrow : d.turns.get? t = some row)
    (h : shouldSuppressStaleReply row d = true) :
    Generated now v turn d (.ended (supersedeAiTurn now t (supersedeAiTurn now t d)))
  | goesOn (hreply : agentReplyExists v d = false) : Generated now v turn d (.boundary d)

lemma generate_spec (now : Instant) (v : ℕ) (turn : Option ℕ) (d : Chat) :
    Generated now v turn d (generate now v turn d) := by
  unfold generate
  by_cases hsuspended : isAiSuspendedForHandoff d.conversation = true
  · rw [if_pos hsuspended]
    exact .skipped (Or.inl hsuspended)
  · rw [if_neg hsuspended]
    rw [Bool.not_eq_true] at hsuspended
    by_cases hanswered : agentReplyExists v d = true
    · rw [if_pos hanswered]
      exact .skipped (Or.inr hanswered)
    · rw [if_neg hanswered]
      rw [Bool.not_eq_true] at hanswered
      split
      · rename_i t row hturn
        obtain ⟨hturn, hrow⟩ := turn_bind hturn
        split
        · rename_i hstale
          exact .stale t row hturn hsuspended hrow hstale
        · exact .goesOn hanswered
      · exact .goesOn hanswered

inductive Finished (now : Instant) (turn : Option (ℕ × WebchatAITurn)) (outcome : AgentOutcome)
    (d : Chat) : Result × Chat → Prop
  | raised (reason : String) : Finished now turn outcome d (.retry reason, d)
  | handedOff (t : ℕ) (row : WebchatAITurn) (hturn : turn = some (t, row))
    (h : isAiSuspendedForHandoff d.conversation = true) :
    Finished now turn outcome d (.done, supersedeAiTurn now t d)
  | ended (t : ℕ) (row : WebchatAITurn) (hturn : turn = some (t, row))
    (h : isAiSuspendedForHandoff d.conversation = true)
    (hclosed : ∀ row, d.turns.get? t = some row → row.status.isOpen = false) :
    Finished now turn outcome d (.done, d)
  | stale (t : ℕ) (row : WebchatAITurn) (hturn : turn = some (t, row))
    (hopen : isAiSuspendedForHandoff d.conversation = false)
    (h : shouldSuppressStaleReply row d = true) :
    Finished now turn outcome d (.done, supersedeAiTurn now t (supersedeAiTurn now t d))
  | written (hfresh : ∀ t row, turn = some (t, row) → shouldSuppressStaleReply row d = false) :
    Finished now turn outcome d (writeReply now (turn.map Prod.fst) outcome d)

lemma finishReply_spec (now : Instant) (turn : Option (ℕ × WebchatAITurn)) (outcome : AgentOutcome)
    (d : Chat) : Finished now turn outcome d (finishReply now turn outcome d) := by
  unfold finishReply
  split
  · exact .raised _
  · rename_i t row _
    split
    · rename_i hsuspended
      split
      · rename_i current hcurrent
        split
        · exact .handedOff t row rfl hsuspended
        · rename_i hclosed
          refine .ended t row rfl hsuspended ?_
          intro row' hrow'
          rw [hcurrent] at hrow'
          cases hrow'
          rw [Bool.not_eq_true] at hclosed
          exact hclosed
      · rename_i hnone
        refine .ended t row rfl hsuspended ?_
        intro row' hrow'
        rw [hnone] at hrow'
        cases hrow'
    · rename_i hopen
      rw [Bool.not_eq_true] at hopen
      split
      · rename_i hstale
        exact .stale t row rfl hopen hstale
      · rename_i hfresh
        rw [Bool.not_eq_true] at hfresh
        refine .written ?_
        intro t' row' heq
        cases heq
        exact hfresh
  · refine .written ?_
    intro t' row' heq
    cases heq

lemma Linked.createTurn (hd : Linked d) (c : ChatSettings) (now debounceAt : Instant)
    (hv : v < d.messages.next) : Linked (createTurn c now debounceAt v d) := by
  have hturn : ∀ t row, (d.turns.insert (newTurn now v d.jobs.next)).get? t = some row →
      (t = d.turns.next ∧ row = newTurn now v d.jobs.next) ∨ d.turns.get? t = some row := by
    intro t row h
    rw [Table.get?_insert] at h
    split at h
    · rename_i ht
      cases h
      exact Or.inl ⟨ht, rfl⟩
    · exact Or.inr h
  have hjob : ∀ j job,
      (d.jobs.insert (newJob c now (some debounceAt) v d.turns.next)).get? j = some job →
      (j = d.jobs.next ∧ job = newJob c now (some debounceAt) v d.turns.next) ∨
        d.jobs.get? j = some job := by
    intro j job h
    rw [Table.get?_insert] at h
    split at h
    · rename_i hj
      cases h
      exact Or.inl ⟨hj, rfl⟩
    · exact Or.inr h
  refine ⟨?_, ?_, ?_, ?_⟩
  · intro t row h
    rcases hturn t row h with ⟨rfl, rfl⟩ | hold
    · exact ⟨d.jobs.next, _, rfl, Table.get?_insert_self _ _, rfl, rfl⟩
    · obtain ⟨j, job, hj, hget, hback⟩ := hd.turnJob t row hold
      exact ⟨j, job, hj, Table.get?_insert_of_some _ hget, hback⟩
  · intro j job h
    rcases hjob j job h with ⟨rfl, rfl⟩ | hold
    · exact ⟨d.turns.next, _, rfl, Table.get?_insert_self _ _, rfl⟩
    · obtain ⟨t, row, ht, hget, hback⟩ := hd.jobTurn j job hold
      exact ⟨t, row, ht, Table.get?_insert_of_some _ hget, hback⟩
  · intro j job h
    rcases hjob j job h with ⟨-, rfl⟩ | hold
    · exact hv
    · exact hd.visitor j job hold
  · intro t m row hm ht
    obtain ⟨hsome, hlabel, hlt⟩ := hd.labelled t m row hm ht
    obtain ⟨old, hold⟩ := Option.isSome_iff_exists.1 hsome
    refine ⟨?_, hlabel, ?_⟩
    · show ((d.turns.insert _).get? t).isSome = true
      rw [Table.get?_insert_of_some _ hold]
      rfl
    · intro j job h hback
      rcases hjob j job h with ⟨-, rfl⟩ | hget
      · have heq : d.turns.next = t := Option.some.inj hback
        have hne := Table.lt_next hold
        omega
      · exact hlt j job hget hback

lemma schedule_cases (c : ChatSettings) (now debounceAt : Instant) (v : ℕ) (d : Chat) :
    scheduleWebchatAiTurn c now debounceAt v d = d ∨
      (∃ t row, d.turns.get? t = some row ∧ row.status = .queued ∧
        scheduleWebchatAiTurn c now debounceAt v d = coalesce now debounceAt v t row d) ∨
      ∃ active next, scheduleWebchatAiTurn c now debounceAt v d =
        (createTurn c now debounceAt v d).point active next := by
  unfold scheduleWebchatAiTurn
  dsimp only
  split
  · exact Or.inl rfl
  · split
    · rename_i t row hactive
      split
      · rename_i hqueued
        exact Or.inr (Or.inl ⟨t, row, activeTurn_row hactive, hqueued, rfl⟩)
      · split
        · exact Or.inr (Or.inr ⟨_, _, rfl⟩)
        · exact Or.inr (Or.inr ⟨_, _, rfl⟩)
    · exact Or.inr (Or.inr ⟨_, _, rfl⟩)

lemma tidy_coalesce (now debounceAt : Instant) (v t : ℕ) (row : WebchatAITurn) (d : Chat) :
    Tidy d (coalesce now debounceAt v t row d) := by
  unfold coalesce
  dsimp only
  split
  · exact (tidy_modifyTurn d t (by intro row; rfl)).trans
      (tidy_modifyJob _ _ (by intro job token h; exact h))
  · exact tidy_modifyTurn d t (by intro row; rfl)

end NexusHelpdesk.Webchat
