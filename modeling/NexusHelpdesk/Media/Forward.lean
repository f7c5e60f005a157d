import NexusHelpdesk.Media.Worker

/-!
# Media state only moves forward

* `MediaOk`: what is available, quarantined or deleted stays so, there is one blob and one
  attachment, none is stored behind an erasure, and what waits can be claimed;
* `InOrder`: a worker stores, commits and records under its lease, and commits what it stored; an
  erasure finds the blob that it read;
* `MediaInv`, `mediaInv_step`: what every such step preserves;
* `media_forward`: **in every run of such steps every state is in order**;
* `media_backward`: a worker with a lost lease takes an available asset back.
-/

namespace NexusHelpdesk.Media

open Lib

/-! ## the property -/

def isFinal (s : StorageStatus) : Bool := s = .available || s = .quarantined || s = .deleted

structure MediaOk (w : MediaWorld) : Prop where
  forward : ∀ c ∈ w.changes, isFinal c.before = true → c.after ≠ c.before → c.held = true
  oneBlob : w.blobs.length ≤ 1
  oneAttachment : w.attachments.length ≤ 1
  erased : w.erased = true → w.blobs = []
  backoff : w.asset.storageStatus = .pending → w.asset.attemptCount < w.asset.maxAttempts →
    ∀ now, w.asset.nextRetryAt.all (· ≤ now) = true → claimable w.asset now = true
  lease : w.asset.storageStatus = .downloading → w.asset.attemptCount < w.asset.maxAttempts →
    ∀ now, w.asset.lockedAt.all (· < now - mediaLock) = true → claimable w.asset now = true

/-- no worker is between storing the blob and its commit. -/
def NoneStored (w : MediaWorld) : Prop := ∀ v read key, w.workers v ≠ some (.stored read key)

def InOrder (w : MediaWorld) (i : MediaStep) : Prop :=
  match i with
  | .claim _ now => claimable w.asset now = true → NoneStored w
  | .store u _ => ∀ read, w.workers u = some (.working read) → holdsLease w.asset u = true
  | .complete u _ => ∀ read key, w.workers u = some (.stored read key) →
      holdsLease w.asset u = true
  | .fail u _ => ∀ read key, w.workers u ≠ some (.stored read key)
  | .crash u => ∀ read key, w.workers u ≠ some (.stored read key)
  | .recordCommit u _ => ∀ read f, w.workers u = some (.recording read f) →
      holdsLease w.asset u = true ∨
        (w.asset.storageStatus = .deleted ∧ read.storageStatus = .deleted ∧ f.malware = false)
  | .eraseCommit => ∀ read ∈ w.erasing, w.asset.storageKey = read.storageKey ∧ NoneStored w
  | _ => True

/-! ## the invariant -/

structure Loaded (u : ℕ) (read : MediaAsset) : Prop where
  status : read.storageStatus = .downloading
  key : read.storageKey = none
  attachment : read.ticketAttachmentId = none
  lockedBy : read.lockedBy = some u
  lockedAt : read.lockedAt.isSome = true

lemma holdsLease_iff {a : MediaAsset} {u : ℕ} :
    holdsLease a u = true ↔ a.storageStatus = .downloading ∧ a.lockedBy = some u := by
  unfold holdsLease
  rw [Bool.and_eq_true, decide_eq_true_iff, decide_eq_true_iff]

structure AssetOk (a : MediaAsset) (attachments : List ℕ) : Prop where
  key : a.storageKey.isSome = true → a.storageStatus = .available
  attachment : a.storageStatus ≠ .available → a.storageStatus ≠ .deleted →
    attachments = [] ∧ a.ticketAttachmentId = none
  one : attachments.length ≤ 1
  pending : a.storageStatus = .pending → a.lockedAt = none
  downloading : a.storageStatus = .downloading → a.lockedAt.isSome = true

structure MediaInv (w : MediaWorld) : Prop where
  asset : AssetOk w.asset w.attachments
  working : ∀ u read, w.workers u = some (.working read) → Loaded u read
  stored : ∀ u read key, w.workers u = some (.stored read key) → Loaded u read ∧
    holdsLease w.asset u = true ∧ w.blobs = [key]
  recording : ∀ u read f, w.workers u = some (.recording read f) → holdsLease w.asset u = true →
    read.storageStatus = .downloading ∧ read.lockedBy = some u ∧ read.lockedAt.isSome = true
  blobs : NoneStored w → ∀ k ∈ w.blobs, w.asset.storageKey = some k
  oneBlob : w.blobs.length ≤ 1
  erasing : ∀ read ∈ w.erasing, (read.storageStatus = .deleted → w.asset.storageStatus = .deleted) ∧
    ∀ k, read.storageKey = some k → k ∉ w.blobs ∧
      (w.asset.storageStatus = .available ∨ w.asset.storageStatus = .deleted)
  erased : w.erased = true → w.asset.storageStatus = .deleted ∧ w.blobs = []
  forward : ∀ c ∈ w.changes, isFinal c.before = true → c.after = c.before

section Invariant
variable {w : MediaWorld} {u v : ℕ} {read stored a : MediaAsset} {key : ℕ} {f : MediaFailure}
  {now : Instant}

lemma claimable_of_pending (hs : a.storageStatus = .pending) (hl : a.lockedAt = none)
    (hc : a.attemptCount < a.maxAttempts) (hn : a.nextRetryAt.all (· ≤ now) = true) :
    claimable a now = true := by
  unfold claimable
  rw [hs, hl, hn, decide_eq_true hc]
  rfl

lemma claimable_of_downloading (hs : a.storageStatus = .downloading)
    (hl : a.lockedAt.isSome = true) (hc : a.attemptCount < a.maxAttempts)
    (hn : a.lockedAt.all (· < now - mediaLock) = true) : claimable a now = true := by
  obtain ⟨l, hl⟩ := Option.isSome_iff_exists.1 hl
  unfold claimable
  rw [hl] at hn ⊢
  rw [Option.all_some] at hn
  rw [hs, Option.any_some, hn, decide_eq_true hc]
  rfl

lemma MediaInv.ok (h : MediaInv w) : MediaOk w where
  forward := fun c hc hfinal hne => absurd (h.forward c hc hfinal) hne
  oneBlob := h.oneBlob
  oneAttachment := h.asset.one
  erased := fun he => (h.erased he).2
  backoff := fun hs hc now hn => claimable_of_pending hs (h.asset.pending hs) hc hn
  lease := fun hs hc now hn => claimable_of_downloading hs (h.asset.downloading hs) hc hn

lemma mediaInv_start (n : ℕ) : MediaInv (MediaWorld.start n) := by
  constructor
  · refine ⟨?_, fun _ _ => ⟨rfl, rfl⟩, Nat.zero_le 1, fun _ => rfl, ?_⟩
    · intro h
      cases h
    · intro h
      cases h
  · intro u read h
    cases h
  · intro u read key h
    cases h
  · intro u read f h
    cases h
  · intro _ k hk
    cases hk
  · exact Nat.zero_le 1
  · intro read h
    cases h
  · intro h
    cases h
  · intro c hc
    cases hc

/-! ## the steps -/

/-- a phase that says something of the row has to fit it. -/
def PhaseOk (w : MediaWorld) (u : ℕ) : Phase → Prop
  | .working read => Loaded u read
  | .stored _ _ => False
  | .recording read _ => holdsLease w.asset u = true →
      read.storageStatus = .downloading ∧ read.lockedBy = some u ∧ read.lockedAt.isSome = true
  | _ => True

lemma noneStored_of_take {p : Phase} (hu : ∀ read key, w.workers u ≠ some (.stored read key))
    (h : NoneStored { w with workers := w.workers.take u p }) : NoneStored w := by
  intro v read key hv
  by_cases hvu : v = u
  · exact hu read key (hvu ▸ hv)
  · exact h v read key ((InHand.take_of_ne _ hvu p).trans hv)

lemma noneStored_of_release (hu : ∀ read key, w.workers u ≠ some (.stored read key))
    (h : NoneStored { w with workers := w.workers.release u }) : NoneStored w := by
  intro v read key hv
  by_cases hvu : v = u
  · exact hu read key (hvu ▸ hv)
  · exact h v read key ((InHand.release_of_ne _ hvu).trans hv)

lemma MediaInv.take (h : MediaInv w) {p : Phase} (hp : PhaseOk w u p)
    (hu : ∀ read key, w.workers u ≠ some (.stored read key)) :
    MediaInv { w with workers := w.workers.take u p } where
  asset := h.asset
  working := by
    intro v read hv
    rcases InHand.of_take hv with ⟨rfl, rfl⟩ | ⟨_, hv⟩
    · exact hp
    · exact h.working v read hv
  stored := by
    intro v read key hv
    rcases InHand.of_take hv with ⟨rfl, rfl⟩ | ⟨_, hv⟩
    · exact hp.elim
    · exact h.stored v read key hv
  recording := by
    intro v read f hv
    rcases InHand.of_take hv with ⟨rfl, rfl⟩ | ⟨_, hv⟩
    · exact hp
    · exact h.recording v read f hv
  blobs := fun hnone => h.blobs (noneStored_of_take hu hnone)
  oneBlob := h.oneBlob
  erasing := h.erasing
  erased := h.erased
  forward := h.forward

lemma MediaInv.release (h : MediaInv w)
    (hu : ∀ read key, w.workers u ≠ some (.stored read key)) :
    MediaInv { w with workers := w.workers.release u } where
  asset := h.asset
  working := fun v read hv => h.working v read (InHand.of_release hv).2
  stored := fun v read key hv => h.stored v read key (InHand.of_release hv).2
  recording := fun v read f hv => h.recording v read f (InHand.of_release hv).2
  blobs := fun hnone => h.blobs (noneStored_of_release hu hnone)
  oneBlob := h.oneBlob
  erasing := h.erasing
  erased := h.erased
  forward := h.forward

lemma eq_of_holdsLease (hu : holdsLease a u = true) (hv : holdsLease a v = true) : v = u :=
  Option.some.inj ((holdsLease_iff.1 hv).2.symm.trans (holdsLease_iff.1 hu).2)

lemma MediaInv.underway (h : MediaInv w) (hs : w.asset.storageStatus = .downloading) :
    w.asset.storageKey = none ∧ w.erased = false ∧
      ∀ read ∈ w.erasing, read.storageStatus ≠ .deleted ∧ read.storageKey = none := by
  refine ⟨?_, ?_, ?_⟩
  · cases hk : w.asset.storageKey with
    | none => rfl
    | some k =>
      have hav := h.asset.key (by rw [hk]; rfl)
      rw [hs] at hav
      cases hav
  · cases he : w.erased with
    | false => rfl
    | true =>
      have hdel := (h.erased he).1
      rw [hs] at hdel
      cases hdel
  · intro read hread
    refine ⟨?_, ?_⟩
    · intro hdel
      have hdel := (h.erasing read hread).1 hdel
      rw [hs] at hdel
      cases hdel
    · cases hk : read.storageKey with
      | none => rfl
      | some k =>
        have hend := ((h.erasing read hread).2 k hk).2
        rw [hs] at hend
        rcases hend with hend | hend <;> cases hend

lemma of_claimable (h : claimable a now = true) :
    a.storageStatus = .pending ∨ a.storageStatus = .downloading := by
  unfold claimable at h
  rw [Bool.and_eq_true, Bool.or_eq_true, Bool.and_eq_true, Bool.and_eq_true, Bool.and_eq_true,
    decide_eq_true_iff, decide_eq_true_iff, decide_eq_true_iff] at h
  exact h.2.imp (fun h => h.1.1) (fun h => h.1)

lemma MediaInv.open (h : MediaInv w)
    (hs : w.asset.storageStatus = .pending ∨ w.asset.storageStatus = .downloading) :
    w.asset.storageStatus ≠ .available ∧ w.asset.storageStatus ≠ .deleted := by
  rcases hs with hs | hs <;> rw [hs] <;> exact ⟨by decide, by decide⟩

lemma MediaInv.claim (h : MediaInv w) (hc : claimable w.asset now = true)
    (hnone : NoneStored w) :
    MediaInv { w with
      asset := claimed w.asset u now, workers := w.workers.take u .claimed } := by
  have hne := h.open (of_claimable hc)
  have hkey : w.asset.storageKey = none := by
    cases hk : w.asset.storageKey with
    | none => rfl
    | some k => exact absurd (h.asset.key (by rw [hk]; rfl)) hne.1
  have hatt := h.asset.attachment hne.1 hne.2
  constructor
  · refine ⟨?_, fun _ _ => hatt, h.asset.one, ?_, fun _ => rfl⟩
    · intro hsome
      change w.asset.storageKey.isSome = true at hsome
      rw [hkey] at hsome
      cases hsome
    · intro hp
      cases hp
  · intro v read hv
    rcases InHand.of_take hv with ⟨_, hp⟩ | ⟨_, hv⟩
    · cases hp
    · exact h.working v read hv
  · intro v read key hv
    rcases InHand.of_take hv with ⟨_, hp⟩ | ⟨_, hv⟩
    · cases hp
    · exact absurd hv (hnone v read key)
  · intro v read f hv hlease
    rcases InHand.of_take hv with ⟨_, hp⟩ | ⟨hvu, _⟩
    · cases hp
    · exact absurd (Option.some.inj (holdsLease_iff.1 hlease).2).symm hvu
  · intro _ k hk
    exact h.blobs hnone k hk
  · exact h.oneBlob
  · intro read hread
    refine ⟨fun hdel => absurd ((h.erasing read hread).1 hdel) hne.2, ?_⟩
    intro k hk
    rcases ((h.erasing read hread).2 k hk).2 with hend | hend
    · exact absurd hend hne.1
    · exact absurd hend hne.2
  · exact fun he => absurd (h.erased he).1 hne.2
  · exact h.forward

lemma MediaInv.load (h : MediaInv w) (hu : w.workers u = some .claimed) :
    MediaInv (mediaStep (.load u) w) := by
  have hstored : ∀ read key, w.workers u ≠ some (.stored read key) := by
    intro read key he
    rw [hu] at he
    cases he
  simp only [mediaStep, hu]
  by_cases hl : holdsLease w.asset u = true
  · rw [if_pos hl]
    obtain ⟨hs, hby⟩ := holdsLease_iff.1 hl
    have hne := h.open (Or.inr hs)
    refine h.take ?_ hstored
    exact ⟨hs, (h.underway hs).1, (h.asset.attachment hne.1 hne.2).2, hby, h.asset.downloading hs⟩
  · rw [if_neg hl]
    exact h.take (p := .failing leaseLost) trivial hstored

lemma MediaInv.store (h : MediaInv w) (key : ℕ) (hu : w.workers u = some (.working read))
    (hl : holdsLease w.asset u = true) :
    MediaInv { w with
      blobs := key :: w.blobs, workers := w.workers.take u (.stored read key) } := by
  obtain ⟨hs, hby⟩ := holdsLease_iff.1 hl
  obtain ⟨hkey, herased, herasing⟩ := h.underway hs
  have hnone : NoneStored w := by
    intro v read' key' hv
    have hvu := eq_of_holdsLease hl (h.stored v read' key' hv).2.1
    rw [hvu, hu] at hv
    cases hv
  have hblobs : w.blobs = [] := by
    refine List.eq_nil_iff_forall_not_mem.2 ?_
    intro k hk
    have hsome := h.blobs hnone k hk
    rw [hkey] at hsome
    cases hsome
  constructor
  · exact h.asset
  · intro v read' hv
    rcases InHand.of_take hv with ⟨_, hp⟩ | ⟨_, hv⟩
    · cases hp
    · exact h.working v read' hv
  · intro v read' key' hv
    rcases InHand.of_take hv with ⟨rfl, hp⟩ | ⟨_, hv⟩
    · cases hp
      refine ⟨h.working v read hu, hl, ?_⟩
      rw [hblobs]
    · exact absurd hv (hnone v read' key')
  · intro v read' f hv
    rcases InHand.of_take hv with ⟨_, hp⟩ | ⟨_, hv⟩
    · cases hp
    · exact h.recording v read' f hv
  · intro hnone'
    exact absurd (InHand.take_self _ _ _) (hnone' u read key)
  · show (key :: w.blobs).length ≤ 1
    rw [hblobs]
    exact le_refl 1
  · intro read' hread
    refine ⟨fun hdel => absurd hdel (herasing read' hread).1, ?_⟩
    intro k hk
    rw [(herasing read' hread).2] at hk
    cases hk
  · intro he
    rw [herased] at he
    cases he
  · exact h.forward

/-! ### commits -/

lemma commit_completed (stored : MediaAsset) (key : ℕ) (attachment : Option ℕ)
    (hl : Loaded u read) :
    (commitAsset read (completed read key attachment) stored).storageStatus = .available ∧
      (commitAsset read (completed read key attachment) stored).storageKey = some key ∧
      (commitAsset read (completed read key attachment) stored).lockedBy = none := by
  refine ⟨?_, ?_, ?_⟩
  · refine changed_of_ne ?_
    rw [hl.status]
    exact (by decide : StorageStatus.available ≠ .downloading)
  · refine changed_of_ne ?_
    rw [hl.key]
    exact Option.some_ne_none key
  · refine changed_of_ne ?_
    rw [hl.lockedBy]
    exact (Option.some_ne_none u).symm

lemma forward_cons (h : MediaInv w) {c : StatusChange}
    (hc : isFinal c.before = true → c.after = c.before) :
    ∀ d ∈ c :: w.changes, isFinal d.before = true → d.after = d.before := by
  intro d hd
  rcases List.mem_cons.1 hd with rfl | hd
  · exact hc
  · exact h.forward d hd

lemma MediaInv.complete (h : MediaInv w) (hu : w.workers u = some (.stored read key))
    (ticket : Option ℕ) : MediaInv (mediaStep (.complete u ticket) w) := by
  obtain ⟨hloaded, hl, hblobs⟩ := h.stored u read key hu
  obtain ⟨hs, hby⟩ := holdsLease_iff.1 hl
  obtain ⟨hkey, herased, herasing⟩ := h.underway hs
  have hne := h.open (Or.inr hs)
  have hatt := (h.asset.attachment hne.1 hne.2).1
  have hone : ((projectAttachment read ticket).2 ++ w.attachments).length ≤ 1 := by
    unfold projectAttachment
    rw [hatt, hloaded.attachment]
    cases ticket with
    | none => exact Nat.zero_le 1
    | some id => exact le_refl 1
  have hcommit := commit_completed w.asset key (projectAttachment read ticket).1 hloaded
  have hnolease : ∀ v, holdsLease (commitAsset read
      (completed read key (projectAttachment read ticket).1) w.asset) v ≠ true := by
    intro v hv
    have hnone := (holdsLease_iff.1 hv).2
    rw [hcommit.2.2] at hnone
    cases hnone
  simp only [mediaStep, hu, MediaWorld.workerCommit]
  constructor
  · refine ⟨fun _ => hcommit.1, ?_, hone, ?_, ?_⟩
    · exact fun hav _ => absurd hcommit.1 hav
    · intro hp
      rw [hcommit.1] at hp
      cases hp
    · intro hd
      rw [hcommit.1] at hd
      cases hd
  · exact fun v read' hv => h.working v read' (InHand.of_release hv).2
  · intro v read' key' hv
    obtain ⟨hvu, hv⟩ := InHand.of_release hv
    exact absurd (eq_of_holdsLease hl (h.stored v read' key' hv).2.1) hvu
  · exact fun v read' f _ hlease => absurd hlease (hnolease v)
  · intro _ k hk
    rw [show k = key from List.mem_singleton.1 (hblobs ▸ hk)]
    exact hcommit.2.1
  · exact h.oneBlob
  · intro read' hread
    refine ⟨fun hdel => absurd hdel (herasing read' hread).1, ?_⟩
    intro k hk
    rw [(herasing read' hread).2] at hk
    cases hk
  · intro he
    rw [herased] at he
    cases he
  · refine forward_cons h ?_
    intro hfinal
    change isFinal w.asset.storageStatus = true at hfinal
    rw [hs] at hfinal
    cases hfinal

variable (f) (now) in
lemma recorded_storageStatus (hs : read.storageStatus = .downloading) :
    (recorded read f now).storageStatus = .pending ∨
      (recorded read f now).storageStatus = .failed ∨
      (recorded read f now).storageStatus = .quarantined := by
  unfold recorded
  dsimp only
  rw [hs]
  cases f.malware <;> cases f.retryable <;> by_cases ha : read.maxAttempts ≤ read.attemptCount + 1 <;>
    simp [ha, settled]

variable (stored) (f) (now) in
lemma commit_recorded (hs : read.storageStatus = .downloading) (hby : read.lockedBy = some u)
    (hat : read.lockedAt.isSome = true) :
    (commitAsset read (recorded read f now) stored).storageStatus ≠ .downloading ∧
      (commitAsset read (recorded read f now) stored).storageStatus ≠ .available ∧
      (commitAsset read (recorded read f now) stored).storageStatus ≠ .deleted ∧
      (commitAsset read (recorded read f now) stored).lockedAt = none := by
  have hstatus := recorded_storageStatus f now hs
  have hcommit : (commitAsset read (recorded read f now) stored).storageStatus =
      (recorded read f now).storageStatus := by
    refine changed_of_ne ?_
    rw [hs]
    rcases hstatus with he | he | he <;> rw [he] <;> decide
  refine ⟨?_, ?_, ?_, ?_⟩
  · rw [hcommit]
    rcases hstatus with he | he | he <;> rw [he] <;> decide
  · rw [hcommit]
    rcases hstatus with he | he | he <;> rw [he] <;> decide
  · rw [hcommit]
    rcases hstatus with he | he | he <;> rw [he] <;> decide
  · refine changed_of_ne ?_
    intro he
    rw [← he] at hat
    cases hat

variable (read) (stored) (f) (now) in
lemma commit_recorded_key : (commitAsset read (recorded read f now) stored).storageKey =
    stored.storageKey ∧
      (commitAsset read (recorded read f now) stored).ticketAttachmentId =
        stored.ticketAttachmentId :=
  ⟨changed_of_eq rfl, changed_of_eq rfl⟩

lemma MediaInv.recordLeased (h : MediaInv w) (hu : w.workers u = some (.recording read f))
    (hl : holdsLease w.asset u = true) :
    MediaInv (w.workerCommit u read (recorded read f now)) := by
  obtain ⟨hs, hby⟩ := holdsLease_iff.1 hl
  obtain ⟨hkey, herased, herasing⟩ := h.underway hs
  have hne := h.open (Or.inr hs)
  have hatt := h.asset.attachment hne.1 hne.2
  obtain ⟨hread, hreadBy, hreadAt⟩ := h.recording u read f hu hl
  have hcommit := commit_recorded w.asset f now hread hreadBy hreadAt
  have hsame := commit_recorded_key read w.asset f now
  have hnone : NoneStored w := by
    intro v read' key' hv
    have hvu := eq_of_holdsLease hl (h.stored v read' key' hv).2.1
    rw [hvu, hu] at hv
    cases hv
  unfold MediaWorld.workerCommit
  constructor
  · refine ⟨?_, ?_, h.asset.one, fun _ => hcommit.2.2.2, fun hd => absurd hd hcommit.1⟩
    · intro hsome
      rw [hsame.1, hkey] at hsome
      cases hsome
    · intro _ _
      exact ⟨hatt.1, hsame.2.trans hatt.2⟩
  · exact fun v read' hv => h.working v read' (InHand.of_release hv).2
  · exact fun v read' key' hv => absurd (InHand.of_release hv).2 (hnone v read' key')
  · exact fun v read' f' _ hlease => absurd (holdsLease_iff.1 hlease).1 hcommit.1
  · intro _ k hk
    have hsome := h.blobs hnone k hk
    rw [hkey] at hsome
    cases hsome
  · exact h.oneBlob
  · intro read' hread'
    refine ⟨fun hdel => absurd hdel (herasing read' hread').1, ?_⟩
    intro k hk
    rw [(herasing read' hread').2] at hk
    cases hk
  · intro he
    rw [herased] at he
    cases he
  · refine forward_cons h ?_
    intro hfinal
    change isFinal w.asset.storageStatus = true at hfinal
    rw [hs] at hfinal
    cases hfinal

lemma MediaInv.recordDeleted (h : MediaInv w) (hs : w.asset.storageStatus = .deleted)
    (hread : read.storageStatus = .deleted) (hf : f.malware = false) :
    MediaInv (w.workerCommit u read (recorded read f now)) := by
  have hsame := commit_recorded_key read w.asset f now
  have hstatus : (commitAsset read (recorded read f now) w.asset).storageStatus = .deleted := by
    refine (changed_of_eq ?_).trans hs
    unfold recorded
    dsimp only
    rw [hf, hread]
    simp [settled]
  have hkey : w.asset.storageKey = none := by
    cases hk : w.asset.storageKey with
    | none => rfl
    | some k =>
      have hav := h.asset.key (by rw [hk]; rfl)
      rw [hs] at hav
      cases hav
  have hnone : NoneStored w := by
    intro v read' key' hv
    have hd := (holdsLease_iff.1 (h.stored v read' key' hv).2.1).1
    rw [hs] at hd
    cases hd
  unfold MediaWorld.workerCommit
  constructor
  · refine ⟨?_, fun _ hne => absurd hstatus hne, h.asset.one, ?_, ?_⟩
    · intro hsome
      rw [hsame.1, hkey] at hsome
      cases hsome
    · intro hp
      rw [hstatus] at hp
      cases hp
    · intro hd
      rw [hstatus] at hd
      cases hd
  · exact fun v read' hv => h.working v read' (InHand.of_release hv).2
  · exact fun v read' key' hv => absurd (InHand.of_release hv).2 (hnone v read' key')
  · intro v read' f' _ hlease
    have hd := (holdsLease_iff.1 hlease).1
    rw [hstatus] at hd
    cases hd
  · intro _ k hk
    have hsome := h.blobs hnone k hk
    rw [hkey] at hsome
    cases hsome
  · exact h.oneBlob
  · intro read' hread'
    refine ⟨fun _ => hstatus, ?_⟩
    intro k hk
    exact ⟨((h.erasing read' hread').2 k hk).1, Or.inr hstatus⟩
  · exact fun he => ⟨hstatus, (h.erased he).2⟩
  · refine forward_cons h ?_
    intro _
    exact hstatus.trans hs.symm

lemma MediaInv.eraseRead (h : MediaInv w) : MediaInv (mediaStep .eraseRead w) := by
  constructor
  · exact h.asset
  · exact h.working
  · intro v read key hv
    obtain ⟨hloaded, hl, hblobs⟩ := h.stored v read key hv
    have hkey := (h.underway (holdsLease_iff.1 hl).1).1
    refine ⟨hloaded, hl, ?_⟩
    show w.blobs.filter _ = [key]
    rw [hblobs, hkey]
    rfl
  · exact h.recording
  · exact fun hnone k hk => h.blobs hnone k (List.mem_of_mem_filter hk)
  · exact (List.length_filter_le _ _).trans h.oneBlob
  · intro read hread
    cases hread
    refine ⟨id, ?_⟩
    intro k hk
    refine ⟨?_, Or.inl (h.asset.key (by rw [hk]; rfl))⟩
    intro hmem
    exact of_decide_eq_true (List.mem_filter.1 hmem).2 hk
  · intro he
    refine ⟨(h.erased he).1, ?_⟩
    show w.blobs.filter _ = []
    rw [(h.erased he).2]
    rfl
  · exact h.forward

lemma MediaInv.eraseCommit (h : MediaInv w) (hread : read ∈ w.erasing)
    (hkey : w.asset.storageKey = read.storageKey) (hnone : NoneStored w) :
    MediaInv { w with
      asset := commitAsset read (redacted read) w.asset, erasing := none, erased := true } := by
  have hstatus : (commitAsset read (redacted read) w.asset).storageStatus = .deleted := by
    by_cases hd : read.storageStatus = .deleted
    · exact (changed_of_eq hd.symm).trans ((h.erasing read hread).1 hd)
    · exact changed_of_ne (Ne.symm hd)
  have hnokey : (commitAsset read (redacted read) w.asset).storageKey = none := by
    by_cases hk : read.storageKey = none
    · exact (changed_of_eq hk.symm).trans (hkey.trans hk)
    · exact changed_of_ne (Ne.symm hk)
  have hblobs : w.blobs = [] := by
    refine List.eq_nil_iff_forall_not_mem.2 ?_
    intro k hk
    have hsome := h.blobs hnone k hk
    exact ((h.erasing read hread).2 k (hkey ▸ hsome)).1 hk
  constructor
  · refine ⟨?_, fun _ hne => absurd hstatus hne, h.asset.one, ?_, ?_⟩
    · intro hsome
      rw [hnokey] at hsome
      cases hsome
    · intro hp
      rw [hstatus] at hp
      cases hp
    · intro hd
      rw [hstatus] at hd
      cases hd
  · exact h.working
  · exact fun v read' key' hv => absurd hv (hnone v read' key')
  · intro v read' f' _ hlease
    have hd := (holdsLease_iff.1 hlease).1
    rw [hstatus] at hd
    cases hd
  · intro _ k hk
    rw [hblobs] at hk
    cases hk
  · exact h.oneBlob
  · intro read' hread'
    cases hread'
  · exact fun _ => ⟨hstatus, hblobs⟩
  · exact h.forward

lemma mediaInv_step (i : MediaStep) (h : MediaInv w) (hok : InOrder w i) :
    MediaInv (mediaStep i w) := by
  cases i with
  | claim u now =>
    unfold mediaStep
    dsimp only
    by_cases hc : (claimable w.asset now && (w.workers u).isNone) = true
    · rw [if_pos hc]
      have hclaim := (Bool.and_eq_true_iff.1 hc).1
      exact h.claim hclaim (hok hclaim)
    · rw [if_neg hc]
      exact h
  | load u =>
    cases hu : w.workers u with
    | none => simpa only [mediaStep, hu] using h
    | some p =>
      cases p with
      | claimed => exact h.load hu
      | working _ | stored _ _ | failing _ | recording _ _ => simpa only [mediaStep, hu] using h
  | store u key =>
    cases hu : w.workers u with
    | none => simpa only [mediaStep, hu] using h
    | some p =>
      cases p with
      | working read =>
        have hstep := h.store key hu (hok read hu)
        simpa only [mediaStep, hu] using hstep
      | claimed | stored _ _ | failing _ | recording _ _ => simpa only [mediaStep, hu] using h
  | complete u ticket =>
    cases hu : w.workers u with
    | none => simpa only [mediaStep, hu] using h
    | some p =>
      cases p with
      | stored read key => exact h.complete hu ticket
      | claimed | working _ | failing _ | recording _ _ => simpa only [mediaStep, hu] using h
  | fail u f =>
    have hfail := h.take (p := .failing f) trivial hok
    cases hu : w.workers u with
    | none => simpa only [mediaStep, hu] using h
    | some p =>
      cases p with
      | claimed | working _ | stored _ _ => simpa only [mediaStep, hu] using hfail
      | failing _ | recording _ _ => simpa only [mediaStep, hu] using h
  | recordRead u =>
    cases hu : w.workers u with
    | none => simpa only [mediaStep, hu] using h
    | some p =>
      cases p with
      | failing f =>
        have hstored : ∀ read key, w.workers u ≠ some (.stored read key) := by
          intro read key he
          rw [hu] at he
          cases he
        simp only [mediaStep, hu]
        by_cases hby : w.asset.lockedBy = none ∨ w.asset.lockedBy = some u
        · rw [if_pos hby]
          refine h.take ?_ hstored
          intro hl
          obtain ⟨hs, hby⟩ := holdsLease_iff.1 hl
          exact ⟨hs, hby, h.asset.downloading hs⟩
        · rw [if_neg hby]
          exact h.release hstored
      | claimed | working _ | stored _ _ | recording _ _ => simpa only [mediaStep, hu] using h
  | recordCommit u now =>
    cases hu : w.workers u with
    | none => simpa only [mediaStep, hu] using h
    | some p =>
      cases p with
      | recording read f =>
        simp only [mediaStep, hu]
        rcases hok read f hu with hl | ⟨hs, hread, hf⟩
        · exact h.recordLeased hu hl
        · exact h.recordDeleted hs hread hf
      | claimed | working _ | stored _ _ | failing _ => simpa only [mediaStep, hu] using h
  | crash u => exact h.release hok
  | eraseRead => exact h.eraseRead
  | eraseCommit =>
    cases he : w.erasing with
    | none => simpa only [mediaStep, he] using h
    | some read =>
      have hread : read ∈ w.erasing := he
      have hstep := h.eraseCommit hread (hok read hread).1 (hok read hread).2
      simpa only [mediaStep, he] using hstep
  | eraseAbort =>
    refine ⟨h.asset, h.working, h.stored, h.recording, h.blobs, h.oneBlob, ?_, h.erased, h.forward⟩
    intro read hread
    cases hread

end Invariant

theorem media_forward (n : ℕ) (l : List MediaStep)
    (h : Along mediaStep InOrder (MediaWorld.start n) l) :
    ∀ p, p <+: l → MediaOk (run mediaStep (MediaWorld.start n) p) := by
  rintro p ⟨rest, rfl⟩
  have hprefix := ((along_append _ _ _).1 h).1
  have hinv := Along.invariant (I := MediaInv) (fun w i hw hok => mediaInv_step i hw hok)
    (mediaInv_start n) hprefix
  exact hinv.ok

/-! ## runs -/

def downloadedAndErased : List MediaStep :=
  [.claim 1 0, .load 1, .store 1 7, .complete 1 (some 3), .eraseRead, .eraseCommit]

lemma inOrder_downloadedAndErased :
    Along mediaStep InOrder (MediaWorld.start 5) downloadedAndErased := by
  refine ⟨?_, trivial, ?_, ?_, trivial, ?_, trivial⟩
  · intro _ v read key hv
    cases hv
  · intro read _
    rfl
  · intro read key _
    rfl
  · intro read hread
    cases hread
    refine ⟨rfl, ?_⟩
    intro v read key hv
    obtain ⟨hvu, hv⟩ := InHand.of_release hv
    obtain ⟨rfl, _⟩ | ⟨_, hv⟩ := InHand.of_take hv
    · exact hvu rfl
    · obtain ⟨rfl, _⟩ | ⟨_, hv⟩ := InHand.of_take hv
      · exact hvu rfl
      · obtain ⟨rfl, _⟩ | ⟨_, hv⟩ := InHand.of_take hv
        · exact hvu rfl
        · cases hv

theorem media_forward_downloadedAndErased :
    MediaOk (run mediaStep (MediaWorld.start 5) downloadedAndErased) :=
  media_forward 5 downloadedAndErased inOrder_downloadedAndErased downloadedAndErased
    (List.prefix_refl _)

/-- worker 1 claims a batch and comes to the asset after its lease: worker 2 has completed it. -/
def lateWorker : List MediaStep :=
  [.claim 1 0, .claim 2 (seconds 301), .load 2, .store 2 7, .complete 2 none,
    .load 1, .recordRead 1, .recordCommit 1 (seconds 310)]

/-- the customer is erased between the load and the store. -/
def erasedMeanwhile : List MediaStep :=
  [.claim 1 0, .load 1, .eraseRead, .eraseCommit, .store 1 7]

/-- the available asset waits again, and a blob is stored behind the erasure. -/
theorem media_backward :
    ¬MediaOk (run mediaStep (MediaWorld.start 5) lateWorker) ∧
      ¬MediaOk (run mediaStep (MediaWorld.start 5) erasedMeanwhile) := by
  constructor
  · intro h
    exact absurd h.forward (by decide +kernel)
  · intro h
    exact absurd (h.erased rfl) (by decide +kernel)

end NexusHelpdesk.Media
