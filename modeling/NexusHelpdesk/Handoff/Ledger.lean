import NexusHelpdesk.Handoff.Frames

/-!
# The handoff ledger

The abstract state behind the handoff services: who owns which request, what each conversation
shows of it, and which request each call is about.

* `Ledger`: snapshots, requests and calls; `Desk.ledger` reads it off the database;
* `Ledger.ConsistentAt L cid`: the snapshot of conversation `cid` says what its requests say;
* `Ledger.Sound`: every conversation is consistent, and conversations and calls name only their
  own requests;
* `Ledger.take`, `Ledger.ask`, `Ledger.requeue`, `Ledger.finish`: the moves of a handoff;
  **each of them keeps a sound ledger sound** (`Sound.take`, `Sound.ask`, `Sound.requeue`,
  `Sound.finish`).
-/

namespace NexusHelpdesk.Handoff
open Lib

/-! ## the abstract state -/

/-- what a conversation shows of its handoff. -/
structure Snapshot where
  current : Option ℕ
  status : HandoffStatus
  agent : Option ℕ

/-- a handoff request: whose it is and who has it. -/
structure Ownership where
  conversation : ℕ
  status : HandoffStatus
  agent : Option ℕ

/-- a call: the request it is about and the end of its after-call work. -/
structure CallEntry where
  conversation : ℕ
  request : Option ℕ
  wrapUp : Option Instant

structure Ledger where
  now : Instant
  snapshot : ℕ → Option Snapshot
  request : ℕ → Option Ownership
  call : ℕ → Option CallEntry

namespace Ledger

def setRequest (L : Ledger) (rid : ℕ) (f : Ownership → Ownership) : Ledger :=
  { L with request := fun i => if i = rid then (L.request i).map f else L.request i }

def setSnapshot (L : Ledger) (cid : ℕ) (f : Snapshot → Snapshot) : Ledger :=
  { L with snapshot := fun i => if i = cid then (L.snapshot i).map f else L.snapshot i }

def setCall (L : Ledger) (sid : ℕ) (f : CallEntry → CallEntry) : Ledger :=
  { L with call := fun i => if i = sid then (L.call i).map f else L.call i }

def addRequest (L : Ledger) (rid : ℕ) (r : Ownership) : Ledger :=
  { L with request := fun i => if i = rid then some r else L.request i }

def addCall (L : Ledger) (sid : ℕ) (x : CallEntry) : Ledger :=
  { L with call := fun i => if i = sid then some x else L.call i }

/-- the snapshot of `cid`, if there is one, is what its requests say. -/
structure ConsistentAt (L : Ledger) (cid : ℕ) : Prop where
  shown : ∀ c, L.snapshot cid = some c → c.status.isOpen = true →
    ∃ rid r, c.current = some rid ∧ L.request rid = some r ∧ r.conversation = cid ∧
      r.status = c.status ∧ (c.status = .accepted → r.agent = c.agent)
  open_shown : ∀ c, L.snapshot cid = some c → ∀ rid r, L.request rid = some r →
    r.conversation = cid → r.status.isOpen = true → c.current = some rid ∧ c.status = r.status

def Linked (L : Ledger) : Prop :=
  ∀ sid x rid, L.call sid = some x → x.request = some rid →
    ∃ r, L.request rid = some r ∧ r.conversation = x.conversation

def Belongs (L : Ledger) (rid cid : ℕ) : Prop :=
  ∃ r, L.request rid = some r ∧ r.conversation = cid

def Idle (L : Ledger) (cid : ℕ) : Prop :=
  ∀ i q, L.request i = some q → q.conversation = cid → q.status.isOpen = false

structure Sound (L : Ledger) : Prop where
  consistent : ∀ cid, L.ConsistentAt cid
  owned : ∀ cid c rid, L.snapshot cid = some c → c.current = some rid → L.Belongs rid cid
  linked : L.Linked

/-! ## consistency of one conversation -/

section Consistency
variable {L : Ledger} {cid rid : ℕ} {r : Ownership} {c : Snapshot}

lemma ConsistentAt.settled (hs : ∀ c, L.snapshot cid = some c → c.status.isOpen = false)
    (hr : ∀ i r, L.request i = some r → r.conversation = cid → r.status.isOpen = false) :
    L.ConsistentAt cid := by
  constructor
  · intro c hc ho
    rw [hs c hc] at ho
    cases ho
  · intro c hc i r hi hconv ho
    rw [hr i r hi hconv] at ho
    cases ho

lemma ConsistentAt.held (hrow : L.request rid = some r) (hconv : r.conversation = cid)
    (hs : ∀ c, L.snapshot cid = some c →
      c.current = some rid ∧ c.status = r.status ∧ (c.status = .accepted → r.agent = c.agent))
    (hother : ∀ i q, i ≠ rid → L.request i = some q → q.conversation = cid →
      q.status.isOpen = false) :
    L.ConsistentAt cid := by
  constructor
  · intro c hc ho
    obtain ⟨hcur, hst, hag⟩ := hs c hc
    exact ⟨rid, r, hcur, hrow, hconv, hst.symm, hag⟩
  · intro c hc i q hi hq ho
    obtain ⟨hcur, hst, -⟩ := hs c hc
    by_cases hne : i = rid
    · subst hne
      rw [hrow] at hi
      cases hi
      exact ⟨hcur, hst⟩
    · rw [hother i q hne hi hq] at ho
      cases ho

lemma ConsistentAt.unique (h : L.ConsistentAt cid) (hc : L.snapshot cid = some c)
    (hrow : L.request rid = some r) (hconv : r.conversation = cid) (ho : r.status.isOpen = true)
    {i : ℕ} {q : Ownership} (hne : i ≠ rid) (hi : L.request i = some q)
    (hq : q.conversation = cid) : q.status.isOpen = false := by
  by_contra hopen
  rw [Bool.not_eq_false] at hopen
  have h1 := (h.open_shown c hc rid r hrow hconv ho).1
  have h2 := (h.open_shown c hc i q hi hq hopen).1
  rw [h1] at h2
  exact hne (Option.some.inj h2).symm

lemma ConsistentAt.of_none (h : L.snapshot cid = none) : L.ConsistentAt cid := by
  constructor
  · intro c hc
    rw [h] at hc
    cases hc
  · intro c hc
    rw [h] at hc
    cases hc

lemma ConsistentAt.accepted_shown (h : L.ConsistentAt cid) (hc : L.snapshot cid = some c)
    (hrow : L.request rid = some r) (hconv : r.conversation = cid) (ha : r.status = .accepted) :
    c.agent = r.agent := by
  obtain ⟨hcur, hst⟩ := h.open_shown c hc rid r hrow hconv (by rw [ha]; rfl)
  obtain ⟨i, q, hi, hq, -, -, hag⟩ := h.shown c hc (by rw [hst, ha]; rfl)
  rw [hcur] at hi
  cases hi
  rw [hrow] at hq
  cases hq
  exact (hag (by rw [hst, ha])).symm

end Consistency

/-! ## changes inside one conversation -/

/-- `L'` differs from `L` at most in conversation `cid` and its requests. -/
structure Within (L L' : Ledger) (cid : ℕ) : Prop where
  snapshot : ∀ c, c ≠ cid → L'.snapshot c = L.snapshot c
  request : ∀ i q, L'.request i = some q → q.conversation = cid ∨ L.request i = some q
  kept : ∀ i q, L.request i = some q → ∃ q', L'.request i = some q' ∧
    q'.conversation = q.conversation

section Within
variable {L L' L'' : Ledger} {cid rid : ℕ} {r : Ownership} {c : ℕ}

lemma Within.refl (L : Ledger) (cid : ℕ) : Within L L cid :=
  ⟨fun _ _ => rfl, fun _ _ h => .inr h, fun _ q h => ⟨q, h, rfl⟩⟩

lemma Within.trans (h : Within L L' cid) (h' : Within L' L'' cid) : Within L L'' cid := by
  refine ⟨fun c hc => (h'.snapshot c hc).trans (h.snapshot c hc), ?_, ?_⟩
  · intro i q hq
    rcases h'.request i q hq with h1 | h1
    · exact .inl h1
    · exact h.request i q h1
  · intro i q hq
    obtain ⟨q', hq', hc⟩ := h.kept i q hq
    obtain ⟨q'', hq'', hc'⟩ := h'.kept i q' hq'
    exact ⟨q'', hq'', hc'.trans hc⟩

lemma Within.setSnapshot (L : Ledger) (f : Snapshot → Snapshot) :
    Within L (L.setSnapshot cid f) cid :=
  ⟨fun c hc => if_neg hc, fun _ _ h => .inr h, fun _ q h => ⟨q, h, rfl⟩⟩

lemma Within.setRequest {f : Ownership → Ownership}
    (hc : ∀ r, L.request rid = some r → r.conversation = cid)
    (hf : ∀ r, (f r).conversation = r.conversation) : Within L (L.setRequest rid f) cid := by
  refine ⟨fun _ _ => rfl, ?_, ?_⟩
  · intro i q hq
    by_cases hi : i = rid
    · subst hi
      change (if i = i then (L.request i).map f else L.request i) = some q at hq
      rw [if_pos rfl] at hq
      obtain ⟨r, hr, rfl⟩ := Option.map_eq_some_iff.1 hq
      exact .inl ((hf r).trans (hc r hr))
    · change (if i = rid then (L.request i).map f else L.request i) = some q at hq
      rw [if_neg hi] at hq
      exact .inr hq
  · intro i q hq
    by_cases hi : i = rid
    · subst hi
      refine ⟨f q, ?_, hf q⟩
      change (if i = i then (L.request i).map f else L.request i) = some (f q)
      rw [if_pos rfl, hq]
      rfl
    · exact ⟨q, (if_neg hi).trans hq, rfl⟩

lemma Within.addRequest (hr : L.request rid = none) (hc : r.conversation = cid) :
    Within L (L.addRequest rid r) cid := by
  refine ⟨fun _ _ => rfl, ?_, ?_⟩
  · intro i q hq
    by_cases hi : i = rid
    · subst hi
      change (if i = i then some r else L.request i) = some q at hq
      rw [if_pos rfl] at hq
      cases hq
      exact .inl hc
    · change (if i = rid then some r else L.request i) = some q at hq
      rw [if_neg hi] at hq
      exact .inr hq
  · intro i q hq
    have hi : i ≠ rid := by
      rintro rfl
      rw [hr] at hq
      cases hq
    exact ⟨q, (if_neg hi).trans hq, rfl⟩

lemma Within.belongs (hw : Within L L' cid) (h : L.Belongs rid c) : L'.Belongs rid c := by
  obtain ⟨r, hr, hc⟩ := h
  obtain ⟨r', hr', hc'⟩ := hw.kept rid r hr
  exact ⟨r', hr', hc'.trans hc⟩

lemma Within.same (hw : Within L L' cid) (hr : L.request rid = some r) (hc : r.conversation ≠ cid) :
    L'.request rid = some r := by
  obtain ⟨r', hr', hc'⟩ := hw.kept rid r hr
  rcases hw.request rid r' hr' with h1 | h1
  · exact absurd (hc'.symm.trans h1) hc
  · rw [hr] at h1
    cases h1
    exact hr'

lemma Within.idle (hw : Within L L' cid) (hc : c ≠ cid) (h : L.Idle c) : L'.Idle c := by
  intro i q hq hqc
  rcases hw.request i q hq with h1 | h1
  · exact absurd (hqc.symm.trans h1) hc
  · exact h i q h1 hqc

lemma Within.linked (hw : Within L L' cid) (hcall : L'.call = L.call) (h : L.Linked) :
    L'.Linked := by
  intro sid x i hx hi
  rw [hcall] at hx
  exact hw.belongs (h sid x i hx hi)

lemma Sound.within (h : L.Sound) (hw : Within L L' cid) (hl : L'.Linked) (hc : L'.ConsistentAt cid)
    (ho : ∀ c i, L'.snapshot cid = some c → c.current = some i → L'.Belongs i cid) :
    L'.Sound := by
  refine ⟨?_, ?_, hl⟩
  · intro c
    by_cases hcid : c = cid
    · subst hcid
      exact hc
    · have hold := h.consistent c
      constructor
      · intro s hs ho
        rw [hw.snapshot c hcid] at hs
        obtain ⟨i, r, hcur, hr, hconv, hst, hag⟩ := hold.shown s hs ho
        exact ⟨i, r, hcur, hw.same hr (hconv.trans_ne hcid), hconv, hst, hag⟩
      · intro s hs i r hr hconv ho
        rw [hw.snapshot c hcid] at hs
        rcases hw.request i r hr with h1 | h1
        · exact absurd (hconv.symm.trans h1) hcid
        · exact hold.open_shown s hs i r h1 hconv ho
  · intro c s i hs hi
    by_cases hcid : c = cid
    · subst hcid
      exact ho s i hs hi
    · rw [hw.snapshot c hcid] at hs
      exact hw.belongs (h.owned c s i hs hi)

lemma Sound.settle (h : L.Sound) (hw : Within L L' cid) (hl : L'.Linked)
    (hs : ∀ c, L'.snapshot cid = some c →
      c.status.isOpen = false ∧ c.current = none ∧ L'.Idle cid) : L'.Sound := by
  refine h.within hw hl ?_ ?_
  · cases hsn : L'.snapshot cid with
    | none => exact ConsistentAt.of_none hsn
    | some c =>
      refine ConsistentAt.settled ?_ (hs c hsn).2.2
      intro c' hc'
      exact (hs c' hc').1
  · intro c i hc hi
    rw [(hs c hc).2.1] at hi
    cases hi

end Within

/-! ## the moves -/

section Moves
variable {L : Ledger} {cid rid : ℕ}

/-- `uid` has request `rid` of conversation `cid`. -/
def take (L : Ledger) (rid cid uid : ℕ) : Ledger :=
  (L.setRequest rid fun r => { r with status := .accepted, agent := some uid }).setSnapshot cid
    fun _ => ⟨some rid, .accepted, some uid⟩

/-- conversation `cid` waits for a human with the new request `rid`. -/
def ask (L : Ledger) (rid cid : ℕ) : Ledger :=
  (L.addRequest rid ⟨cid, .requested, none⟩).setSnapshot cid fun _ => ⟨some rid, .requested, none⟩

def requeue (L : Ledger) (rid cid : ℕ) : Ledger :=
  (L.setRequest rid fun r => { r with status := .requested, agent := none }).setSnapshot cid
    fun _ => ⟨some rid, .requested, none⟩

/-- request `rid` of conversation `cid` is over: `f` and `g` say what is left of it. -/
def finish (L : Ledger) (rid cid : ℕ) (f : Ownership → Ownership) (g : Snapshot → Snapshot) :
    Ledger :=
  (L.setRequest rid f).setSnapshot cid g

lemma snapshot_setSnapshot_self (f : Snapshot → Snapshot) :
    (L.setSnapshot cid f).snapshot cid = (L.snapshot cid).map f := if_pos rfl

lemma request_setRequest_self (f : Ownership → Ownership) :
    (L.setRequest rid f).request rid = (L.request rid).map f := if_pos rfl

lemma request_setRequest_of_ne (f : Ownership → Ownership) {i : ℕ} (h : i ≠ rid) :
    (L.setRequest rid f).request i = L.request i := if_neg h

lemma request_addRequest_self (r : Ownership) : (L.addRequest rid r).request rid = some r :=
  if_pos rfl

lemma request_addRequest_of_ne (r : Ownership) {i : ℕ} (h : i ≠ rid) :
    (L.addRequest rid r).request i = L.request i := if_neg h

variable {f : Ownership → Ownership} {r : Ownership} {g : Snapshot → Snapshot}

lemma setRequest_eq_self (h : ∀ r, L.request rid = some r → f r = r) : L.setRequest rid f = L := by
  have hfun : (L.setRequest rid f).request = L.request := by
    funext i
    by_cases hi : i = rid
    · subst hi
      rw [request_setRequest_self]
      cases hr : L.request i with
      | none => rfl
      | some r => exact congrArg some (h r hr)
    · exact request_setRequest_of_ne _ hi
  change { L with request := (L.setRequest rid f).request } = L
  rw [hfun]

section
variable (h : L.Sound)
include h

/-- an open request of `cid` changes to another open state, and the snapshot shows it. -/
lemma Sound.change (hr : L.request rid = some r) (hc : r.conversation = cid)
    (ho : r.status.isOpen = true) (hf : ∀ q, (f q).conversation = q.conversation)
    (hg : ∀ c, L.snapshot cid = some c → (g c).current = some rid ∧ (g c).status = (f r).status ∧
      ((g c).status = .accepted → (f r).agent = (g c).agent)) :
    ((L.setRequest rid f).setSnapshot cid g).Sound := by
  have hown : ∀ q, L.request rid = some q → q.conversation = cid := by
    intro q hq
    rw [hr] at hq
    cases hq
    exact hc
  have hrow : ((L.setRequest rid f).setSnapshot cid g).request rid = some (f r) := by
    change (L.setRequest rid f).request rid = _
    rw [request_setRequest_self, hr]
    rfl
  have hshown : ∀ c', ((L.setRequest rid f).setSnapshot cid g).snapshot cid = some c' →
      ∃ c, L.snapshot cid = some c ∧ g c = c' := by
    intro c' hc'
    rw [snapshot_setSnapshot_self] at hc'
    exact Option.map_eq_some_iff.1 hc'
  have hw : Within L ((L.setRequest rid f).setSnapshot cid g) cid :=
    (Within.setRequest hown hf).trans (Within.setSnapshot _ _)
  refine h.within hw (hw.linked rfl h.linked) ?_ ?_
  · cases hsn : L.snapshot cid with
    | none =>
      refine ConsistentAt.of_none ?_
      rw [snapshot_setSnapshot_self]
      change (L.snapshot cid).map _ = none
      rw [hsn]
      rfl
    | some c =>
      refine ConsistentAt.held hrow ((hf r).trans hc) ?_ ?_
      · intro c' hc'
        obtain ⟨c'', h1, rfl⟩ := hshown c' hc'
        exact hg c'' h1
      · intro i q hi hq hconv
        change (L.setRequest rid f).request i = some q at hq
        rw [request_setRequest_of_ne f hi] at hq
        exact (h.consistent cid).unique hsn hr hc ho hi hq hconv
  · intro c' i hc' hi
    obtain ⟨c'', h1, rfl⟩ := hshown c' hc'
    rw [(hg c'' h1).1] at hi
    cases hi
    exact ⟨f r, hrow, (hf r).trans hc⟩

/-- the snapshot shows an open request of `cid` in another way. -/
lemma Sound.reshow (hr : L.request rid = some r) (hc : r.conversation = cid)
    (ho : r.status.isOpen = true)
    (hg : ∀ c, L.snapshot cid = some c → (g c).current = some rid ∧ (g c).status = r.status ∧
      ((g c).status = .accepted → r.agent = (g c).agent)) : (L.setSnapshot cid g).Sound := by
  have hsound := h.change (f := id) hr hc ho (fun _ => rfl) hg
  rwa [setRequest_eq_self (f := id) fun _ _ => rfl] at hsound

theorem Sound.take (hr : L.request rid = some r) (hc : r.conversation = cid)
    (ho : r.status.isOpen = true) (uid : ℕ) :
    (L.take rid cid uid).Sound :=
  h.change hr hc ho (fun _ => rfl) fun _ _ => ⟨rfl, rfl, fun _ => rfl⟩

theorem Sound.requeue (hr : L.request rid = some r) (hc : r.conversation = cid)
    (ho : r.status.isOpen = true) : (L.requeue rid cid).Sound :=
  h.change hr hc ho (fun _ => rfl) fun _ _ => ⟨rfl, rfl, fun hst => by cases hst⟩

theorem Sound.ask (hr : L.request rid = none) (hnone : L.Idle cid) :
    (L.ask rid cid).Sound := by
  have hrow : (L.ask rid cid).request rid = some ⟨cid, .requested, none⟩ :=
    request_addRequest_self _
  have hshown : ∀ c, (L.ask rid cid).snapshot cid = some c → c = ⟨some rid, .requested, none⟩ := by
    intro c hc
    change ((L.addRequest rid _).setSnapshot cid _).snapshot cid = some c at hc
    rw [snapshot_setSnapshot_self] at hc
    obtain ⟨-, -, rfl⟩ := Option.map_eq_some_iff.1 hc
    rfl
  have hw : Within L (L.ask rid cid) cid :=
    (Within.addRequest hr rfl).trans (Within.setSnapshot _ _)
  refine h.within hw (hw.linked rfl h.linked) ?_ ?_
  · refine ConsistentAt.held hrow rfl ?_ ?_
    · intro c hc
      rw [hshown c hc]
      exact ⟨rfl, rfl, fun hst => by cases hst⟩
    · intro i q hi hq hconv
      change (L.addRequest rid _).request i = some q at hq
      rw [request_addRequest_of_ne _ hi] at hq
      exact hnone i q hq hconv
  · intro c i hc hi
    rw [hshown c hc] at hi
    cases hi
    exact ⟨_, hrow, rfl⟩

lemma Sound.clear
    (hg : ∀ c, L.snapshot cid = some c →
      (g c).status.isOpen = false ∧ (g c).current = none ∧ L.Idle cid) :
    (L.setSnapshot cid g).Sound := by
  have hw : Within L (L.setSnapshot cid g) cid := Within.setSnapshot L g
  refine h.settle hw (hw.linked rfl h.linked) ?_
  intro c' hc'
  rw [snapshot_setSnapshot_self] at hc'
  obtain ⟨c, hc, rfl⟩ := Option.map_eq_some_iff.1 hc'
  exact hg c hc

/-- an open request of `cid` ends, and the snapshot shows no handoff any more. -/
theorem Sound.finish (hr : L.request rid = some r) (hc : r.conversation = cid)
    (hopen : r.status.isOpen = true) (hf : ∀ q, (f q).conversation = q.conversation)
    (hterm : (f r).status.isOpen = false)
    (hg : ∀ c, (g c).status.isOpen = false ∧ (g c).current = none) :
    (L.finish rid cid f g).Sound := by
  have hown : ∀ q, L.request rid = some q → q.conversation = cid := by
    intro q hq
    rw [hr] at hq
    cases hq
    exact hc
  have hw : Within L (L.finish rid cid f g) cid :=
    (Within.setRequest hown hf).trans (Within.setSnapshot _ _)
  refine h.settle hw (hw.linked rfl h.linked) ?_
  intro c' hc'
  change ((L.setRequest rid f).setSnapshot cid g).snapshot cid = some c' at hc'
  rw [snapshot_setSnapshot_self] at hc'
  obtain ⟨c, hsn, rfl⟩ := Option.map_eq_some_iff.1 hc'
  refine ⟨(hg c).1, (hg c).2, ?_⟩
  intro i q hq hconv
  change (L.setRequest rid f).request i = some q at hq
  by_cases hi : i = rid
  · subst hi
    rw [request_setRequest_self, hr] at hq
    cases hq
    exact hterm
  · rw [request_setRequest_of_ne f hi] at hq
    exact (h.consistent cid).unique hsn hr hc hopen hi hq hconv

lemma Sound.setCall {sid : ℕ} {f : CallEntry → CallEntry}
    (hf : ∀ x, L.call sid = some x → (f x).conversation = x.conversation ∧
      ∀ i, (f x).request = some i → x.request = some i ∨
        ∃ r, L.request i = some r ∧ r.conversation = x.conversation) :
    (L.setCall sid f).Sound := by
  refine ⟨fun cid => ⟨(h.consistent cid).shown, (h.consistent cid).open_shown⟩, h.owned, ?_⟩
  intro i x rid hx hrid
  by_cases hi : i = sid
  · subst hi
    change (if i = i then (L.call i).map f else L.call i) = some x at hx
    rw [if_pos rfl] at hx
    obtain ⟨y, hy, rfl⟩ := Option.map_eq_some_iff.1 hx
    obtain ⟨hconv, hlink⟩ := hf y hy
    rw [hconv]
    rcases hlink rid hrid with h1 | h1
    · exact h.linked i y rid hy h1
    · exact h1
  · change (if i = sid then (L.call i).map f else L.call i) = some x at hx
    rw [if_neg hi] at hx
    exact h.linked i x rid hx hrid

lemma Sound.addCall {sid : ℕ} {x : CallEntry} (hx : x.request = none) :
    (L.addCall sid x).Sound := by
  refine ⟨fun cid => ⟨(h.consistent cid).shown, (h.consistent cid).open_shown⟩, h.owned, ?_⟩
  intro i y rid hy hrid
  by_cases hi : i = sid
  · subst hi
    change (if i = i then some x else L.call i) = some y at hy
    rw [if_pos rfl] at hy
    cases hy
    rw [hx] at hrid
    cases hrid
  · change (if i = sid then some x else L.call i) = some y at hy
    rw [if_neg hi] at hy
    exact h.linked i y rid hy hrid

end

end Moves
/-! ## what never changes -/

/-- rows are never deleted and never move to another conversation. -/
structure Extends (L L' : Ledger) : Prop where
  request : ∀ i q, L.request i = some q →
    ∃ q', L'.request i = some q' ∧ q'.conversation = q.conversation
  call : ∀ i x, L.call i = some x → ∃ x', L'.call i = some x' ∧ x'.conversation = x.conversation

section Extends
variable {L L' L'' : Ledger} {cid rid sid : ℕ} {f : Ownership → Ownership}

lemma Extends.refl (L : Ledger) : Extends L L :=
  ⟨fun _ q h => ⟨q, h, rfl⟩, fun _ x h => ⟨x, h, rfl⟩⟩

lemma Extends.trans (h : Extends L L') (h' : Extends L' L'') : Extends L L'' := by
  constructor
  · intro i q hq
    obtain ⟨q', hq', hc⟩ := h.request i q hq
    obtain ⟨q'', hq'', hc'⟩ := h'.request i q' hq'
    exact ⟨q'', hq'', hc'.trans hc⟩
  · intro i x hx
    obtain ⟨x', hx', hc⟩ := h.call i x hx
    obtain ⟨x'', hx'', hc'⟩ := h'.call i x' hx'
    exact ⟨x'', hx'', hc'.trans hc⟩

lemma Extends.belongs (h : Extends L L') (hb : L.Belongs rid cid) : L'.Belongs rid cid := by
  obtain ⟨r, hr, hc⟩ := hb
  obtain ⟨r', hr', hc'⟩ := h.request rid r hr
  exact ⟨r', hr', hc'.trans hc⟩

lemma Extends.setSnapshot (L : Ledger) (f : Snapshot → Snapshot) :
    Extends L (L.setSnapshot cid f) :=
  ⟨fun _ q h => ⟨q, h, rfl⟩, fun _ x h => ⟨x, h, rfl⟩⟩

lemma Extends.setRequest (hf : ∀ q, (f q).conversation = q.conversation) :
    Extends L (L.setRequest rid f) := by
  refine ⟨?_, fun _ x h => ⟨x, h, rfl⟩⟩
  intro i q hq
  by_cases hi : i = rid
  · subst hi
    refine ⟨f q, ?_, hf q⟩
    rw [request_setRequest_self, hq]
    rfl
  · exact ⟨q, (request_setRequest_of_ne f hi).trans hq, rfl⟩

lemma Extends.setCall {f : CallEntry → CallEntry}
    (hf : ∀ x, (f x).conversation = x.conversation) : Extends L (L.setCall sid f) := by
  refine ⟨fun _ q h => ⟨q, h, rfl⟩, ?_⟩
  intro i x hx
  by_cases hi : i = sid
  · subst hi
    refine ⟨f x, ?_, hf x⟩
    change (if i = i then (L.call i).map f else L.call i) = some (f x)
    rw [if_pos rfl, hx]
    rfl
  · exact ⟨x, (if_neg hi).trans hx, rfl⟩

lemma Extends.addRequest {r : Ownership} (h : L.request rid = none) :
    Extends L (L.addRequest rid r) := by
  refine ⟨?_, fun _ x h => ⟨x, h, rfl⟩⟩
  intro i q hq
  have hi : i ≠ rid := by
    rintro rfl
    rw [h] at hq
    cases hq
  exact ⟨q, (request_addRequest_of_ne r hi).trans hq, rfl⟩

lemma Extends.addCall {x : CallEntry} (h : L.call sid = none) : Extends L (L.addCall sid x) := by
  refine ⟨fun _ q h => ⟨q, h, rfl⟩, ?_⟩
  intro i y hy
  have hi : i ≠ sid := by
    rintro rfl
    rw [h] at hy
    cases hy
  exact ⟨y, (if_neg hi).trans hy, rfl⟩

lemma Extends.finish (hf : ∀ q, (f q).conversation = q.conversation) (g : Snapshot → Snapshot) :
    Extends L (L.finish rid cid f g) :=
  (Extends.setRequest hf).trans (Extends.setSnapshot (L.setRequest rid f) g)

lemma Extends.take (uid : ℕ) : Extends L (L.take rid cid uid) :=
  Extends.finish (f := fun r => { r with status := .accepted, agent := some uid }) (fun _ => rfl) _

lemma Extends.requeue : Extends L (L.requeue rid cid) :=
  Extends.finish (f := fun r => { r with status := .requested, agent := none }) (fun _ => rfl) _

lemma Extends.ask (h : L.request rid = none) : Extends L (L.ask rid cid) :=
  (Extends.addRequest h).trans (Extends.setSnapshot (L.addRequest rid _) _)

end Extends

/-! ## the end of after-call work -/

section Release
variable {L : Ledger} {sid : ℕ} {x y : CallEntry}

def agentOf (L : Ledger) (x : CallEntry) : Option ℕ := (x.request.bind L.request).bind (·.agent)

def Ownership.closeAccepted (r : Ownership) : Ownership :=
  if r.status = .accepted then { r with status := .closed } else r

def closeAccepted (L : Ledger) (x : CallEntry) : Ledger :=
  match x.request with
  | none => L
  | some rid => L.setRequest rid Ownership.closeAccepted

/-- the after-call work of `x` is over: its accepted request is closed, and the snapshot with it if
it shows the same agent. -/
def release (L : Ledger) (sid : ℕ) (x : CallEntry) : Ledger :=
  ((L.closeAccepted x).setCall sid fun x => { x with wrapUp := none }).setSnapshot x.conversation
    fun c => if c.agent = L.agentOf x then ⟨none, .closed, none⟩ else c

/-- the release of `x` finds its request accepted, or no request of the conversation open, or the
snapshot with another agent. -/
def DueOk (L : Ledger) (x : CallEntry) : Prop :=
  (∃ rid r, x.request = some rid ∧ L.request rid = some r ∧ r.status = .accepted) ∨
    L.Idle x.conversation ∨
    ∀ c, L.snapshot x.conversation = some c → c.agent ≠ L.agentOf x

lemma closeAccepted_eq_self (h : ∀ rid r, x.request = some rid → L.request rid = some r →
    r.status ≠ .accepted) : L.closeAccepted x = L := by
  unfold closeAccepted
  cases hx : x.request with
  | none => rfl
  | some rid =>
    refine setRequest_eq_self fun r hr => ?_
    unfold Ownership.closeAccepted
    rw [if_neg (h rid r hx hr)]

lemma Ownership.closeAccepted_conversation (r : Ownership) :
    (Ownership.closeAccepted r).conversation = r.conversation := by
  unfold Ownership.closeAccepted
  by_cases h : r.status = .accepted
  · rw [if_pos h]
  · rw [if_neg h]

lemma Sound.idle_closeAccepted (h : L.Sound) (hx : L.call sid = some x) {rid : ℕ} {r : Ownership}
    (hreq : x.request = some rid) (hr : L.request rid = some r) (ha : r.status = .accepted)
    {c : Snapshot} (hc : L.snapshot x.conversation = some c) :
    (L.closeAccepted x).Idle x.conversation := by
  obtain ⟨r', hr', hconv⟩ := h.linked sid x rid hx hreq
  rw [hr] at hr'
  cases hr'
  intro i q hq hqc
  unfold closeAccepted at hq
  rw [hreq] at hq
  by_cases hi : i = rid
  · subst hi
    rw [request_setRequest_self, hr] at hq
    cases hq
    unfold Ownership.closeAccepted
    rw [if_pos ha]
    rfl
  · rw [request_setRequest_of_ne _ hi] at hq
    exact (h.consistent _).unique hc hr hconv (by rw [ha]; rfl) hi hq hqc

lemma Extends.closeAccepted (L : Ledger) (x : CallEntry) : Extends L (L.closeAccepted x) := by
  unfold Ledger.closeAccepted
  cases x.request with
  | none => exact Extends.refl L
  | some rid => exact Extends.setRequest Ownership.closeAccepted_conversation

lemma Extends.release (L : Ledger) (sid : ℕ) (x : CallEntry) : Extends L (L.release sid x) := by
  have h : Extends L ((L.closeAccepted x).setCall sid fun x => { x with wrapUp := none }) :=
    (Extends.closeAccepted L x).trans (Extends.setCall fun _ => rfl)
  exact h.trans (Extends.setSnapshot _ _)

lemma Sound.within_release (h : L.Sound) (hx : L.call sid = some x) :
    Within L (L.release sid x) x.conversation := by
  have hclose : Within L (L.closeAccepted x) x.conversation := by
    unfold Ledger.closeAccepted
    cases hreq : x.request with
    | none => exact Within.refl L _
    | some rid =>
      refine Within.setRequest ?_ Ownership.closeAccepted_conversation
      intro q hq
      obtain ⟨r, hr, hconv⟩ := h.linked sid x rid hx hreq
      rw [hr] at hq
      cases hq
      exact hconv
  refine hclose.trans (Within.trans ?_ (Within.setSnapshot _ _))
  exact ⟨fun _ _ => rfl, fun _ _ h => .inr h, fun _ q h => ⟨q, h, rfl⟩⟩

lemma call_release {i : ℕ} (h : (L.release sid x).call i = some y) :
    ∃ z, L.call i = some z ∧ y.request = z.request ∧ y.conversation = z.conversation := by
  change (if i = sid then ((L.closeAccepted x).call i).map _ else (L.closeAccepted x).call i) =
    some y at h
  have hcall : (L.closeAccepted x).call = L.call := by
    unfold Ledger.closeAccepted
    cases x.request <;> rfl
  rw [hcall] at h
  by_cases hi : i = sid
  · rw [if_pos hi] at h
    obtain ⟨z, hz, rfl⟩ := Option.map_eq_some_iff.1 h
    exact ⟨z, hz, rfl, rfl⟩
  · rw [if_neg hi] at h
    exact ⟨y, h, rfl, rfl⟩

lemma Sound.linked_release (h : L.Sound) (hx : L.call sid = some x) : (L.release sid x).Linked := by
  intro i y rid hy hrid
  obtain ⟨z, hz, hr, hc⟩ := call_release hy
  rw [hr] at hrid
  rw [hc]
  exact (h.within_release hx).belongs (h.linked i z rid hz hrid)

lemma snapshot_closeAccepted : (L.closeAccepted x).snapshot = L.snapshot := by
  unfold Ledger.closeAccepted
  cases x.request <;> rfl

/-- **Releasing after-call work keeps a sound ledger sound**, if the release is due rightly. -/
theorem Sound.release (h : L.Sound) (hx : L.call sid = some x) (hdue : L.DueOk x) :
    (L.release sid x).Sound := by
  have hshown : ∀ c', (L.release sid x).snapshot x.conversation = some c' →
      ∃ c, L.snapshot x.conversation = some c ∧
        (if c.agent = L.agentOf x then ⟨none, .closed, none⟩ else c) = c' := by
    intro c' hc'
    unfold Ledger.release at hc'
    rw [snapshot_setSnapshot_self] at hc'
    change ((L.closeAccepted x).snapshot _).map _ = _ at hc'
    rw [snapshot_closeAccepted] at hc'
    exact Option.map_eq_some_iff.1 hc'
  by_cases hacc : ∃ rid r, x.request = some rid ∧ L.request rid = some r ∧ r.status = .accepted
  · -- the request is accepted, so the snapshot shows it with its agent and is closed with it
    obtain ⟨rid, r, hreq, hr, ha⟩ := hacc
    obtain ⟨r', hr', hconv⟩ := h.linked sid x rid hx hreq
    rw [hr] at hr'
    cases hr'
    refine h.settle (h.within_release hx) (h.linked_release hx) ?_
    intro c' hc'
    obtain ⟨c, hc, rfl⟩ := hshown c' hc'
    have hagent : c.agent = L.agentOf x := by
      rw [(h.consistent _).accepted_shown hc hr hconv ha]
      unfold agentOf
      rw [hreq]
      change r.agent = (L.request rid).bind (·.agent)
      rw [hr]
      rfl
    rw [if_pos hagent]
    exact ⟨rfl, rfl, h.idle_closeAccepted hx hreq hr ha hc⟩
  · -- nothing is closed, and the snapshot changes only where no request is open
    have hsame : L.closeAccepted x = L := by
      refine closeAccepted_eq_self fun rid r hreq hr ha => hacc ⟨rid, r, hreq, hr, ha⟩
    have hreq : (L.release sid x).request = L.request := by
      unfold Ledger.release
      rw [hsame]
      rfl
    have hdue' : ∀ c, L.snapshot x.conversation = some c → c.agent = L.agentOf x →
        L.Idle x.conversation := by
      intro c hc hagent
      rcases hdue with h1 | h1 | h1
      · exact absurd h1 hacc
      · exact h1
      · exact absurd hagent (h1 c hc)
    cases hsn : L.snapshot x.conversation with
    | none =>
      refine h.settle (h.within_release hx) (h.linked_release hx) ?_
      intro c' hc'
      obtain ⟨c, hc, -⟩ := hshown c' hc'
      rw [hsn] at hc
      cases hc
    | some c =>
      by_cases hagent : c.agent = L.agentOf x
      · refine h.settle (h.within_release hx) (h.linked_release hx) ?_
        intro c' hc'
        obtain ⟨c'', hc'', rfl⟩ := hshown c' hc'
        rw [hsn] at hc''
        cases hc''
        rw [if_pos hagent]
        refine ⟨rfl, rfl, ?_⟩
        intro i q hq
        rw [hreq] at hq
        exact hdue' c hsn hagent i q hq
      · have hkeep : ∀ c', (L.release sid x).snapshot x.conversation = some c' → c' = c := by
          intro c' hc'
          obtain ⟨c'', hc'', rfl⟩ := hshown c' hc'
          rw [hsn] at hc''
          cases hc''
          rw [if_neg hagent]
        refine h.within (h.within_release hx) (h.linked_release hx) ?_ ?_
        · constructor
          · intro c' hc' ho
            rw [hkeep c' hc'] at ho ⊢
            obtain ⟨i, q, h1, h2, h3⟩ := (h.consistent _).shown c hsn ho
            exact ⟨i, q, h1, by rw [hreq]; exact h2, h3⟩
          · intro c' hc' i q hq hconv ho
            rw [hreq] at hq
            rw [hkeep c' hc']
            exact (h.consistent _).open_shown c hsn i q hq hconv ho
        · intro c' i hc' hi
          rw [hkeep c' hc'] at hi
          exact (h.within_release hx).belongs (h.owned _ c i hsn hi)

variable {L' : Ledger} {cid tid : ℕ}

lemma agentOf_within (hl : L.Linked) (hw : Within L L' cid)
    (hy : L.call tid = some y) (hne : y.conversation ≠ cid) : L'.agentOf y = L.agentOf y := by
  unfold agentOf
  cases hreq : y.request with
  | none => rfl
  | some rid =>
    obtain ⟨r, hr, hc⟩ := hl tid y rid hy hreq
    change (L'.request rid).bind _ = (L.request rid).bind _
    rw [hw.same hr (hc.trans_ne hne), hr]

lemma DueOk.within (hok : L.DueOk y) (hl : L.Linked)
    (hw : Within L L' cid) (hy : L.call tid = some y) (hne : y.conversation ≠ cid) :
    L'.DueOk y := by
  rcases hok with ⟨rid, r, h2, h3, h4⟩ | h2 | h2
  · obtain ⟨r', hr', hc⟩ := hl tid y rid hy h2
    rw [h3] at hr'
    cases hr'
    exact .inl ⟨rid, r, h2, hw.same h3 (hc.trans_ne hne), h4⟩
  · exact .inr (.inl (hw.idle hne h2))
  · refine .inr (.inr fun c hc => ?_)
    rw [hw.snapshot _ hne] at hc
    rw [agentOf_within hl hw hy hne]
    exact h2 c hc

theorem DueOk.release (h : L.Sound) (hx : L.call sid = some x) (hdue : L.DueOk x)
    (hy : L.call tid = some y) (hok : L.DueOk y) : (L.release sid x).DueOk y := by
  have hw := h.within_release hx
  by_cases hconv : y.conversation = x.conversation
  · by_cases hacc : ∃ rid r, x.request = some rid ∧ L.request rid = some r ∧ r.status = .accepted
    · obtain ⟨rid, r, hreq, hr, ha⟩ := hacc
      cases hsn : L.snapshot x.conversation with
      | none =>
        refine .inr (.inr fun c hc => ?_)
        unfold Ledger.release at hc
        rw [hconv, snapshot_setSnapshot_self] at hc
        change ((L.closeAccepted x).snapshot _).map _ = _ at hc
        rw [snapshot_closeAccepted, hsn] at hc
        cases hc
      | some c =>
        refine .inr (.inl ?_)
        rw [hconv]
        exact h.idle_closeAccepted hx hreq hr ha hsn
    · have hsame : L.closeAccepted x = L :=
        closeAccepted_eq_self fun rid r hreq hr ha => hacc ⟨rid, r, hreq, hr, ha⟩
      have hreq : (L.release sid x).request = L.request := by
        unfold Ledger.release
        rw [hsame]
        rfl
      rcases hdue with h1 | h1 | h1
      · exact absurd h1 hacc
      · refine .inr (.inl fun i q hq hqc => ?_)
        rw [hreq] at hq
        exact h1 i q hq (hqc.trans hconv)
      · rcases hok with ⟨rid, r, h2, h3, h4⟩ | h2 | h2
        · exact .inl ⟨rid, r, h2, by rw [hreq]; exact h3, h4⟩
        · refine .inr (.inl fun i q hq hqc => ?_)
          rw [hreq] at hq
          exact h2 i q hq hqc
        · refine .inr (.inr fun c hc => ?_)
          unfold Ledger.release at hc
          rw [hconv, snapshot_setSnapshot_self] at hc
          change ((L.closeAccepted x).snapshot _).map _ = _ at hc
          rw [snapshot_closeAccepted] at hc
          obtain ⟨c', hc', rfl⟩ := Option.map_eq_some_iff.1 hc
          rw [if_neg (h1 c' hc')]
          unfold agentOf
          rw [hreq]
          exact h2 c' (by rw [hconv]; exact hc')
  · exact hok.within h.linked hw hy hconv

/-- the after-call work of `x` is over, and its request was that of `uid` (or anybody's). -/
def Due (L : Ledger) (uid : Option ℕ) (x : CallEntry) : Prop :=
  (∃ t, x.wrapUp = some t ∧ t ≤ L.now) ∧ ∀ u, uid = some u → L.agentOf x = some u

def DueRight (L : Ledger) (uid : Option ℕ) : Prop :=
  ∀ sid x, L.call sid = some x → L.Due uid x → L.DueOk x

lemma DueOk.congr {z : CallEntry} (h : L.DueOk z) (hr : y.request = z.request)
    (hc : y.conversation = z.conversation) : L.DueOk y := by
  unfold DueOk agentOf at *
  rw [hr, hc]
  exact h

/-- every release that is due outside `cid` is so rightly. -/
def DueElsewhere (L : Ledger) (uid : Option ℕ) (cid : ℕ) : Prop :=
  ∀ sid x, L.call sid = some x → L.Due uid x → x.conversation ≠ cid → L.DueOk x

lemma DueElsewhere.right {uid : ℕ} (h : L.DueElsewhere (some uid) cid)
    (hl : L.Linked) (hw : Within L L' cid) (hnow : L'.now = L.now) (hcall : L'.call = L.call)
    (hs : ∀ c, L'.snapshot cid = some c → c.agent = none) : L'.DueRight (some uid) := by
  intro sid x hx hdue
  have hagent : L'.agentOf x = some uid := hdue.2 uid rfl
  by_cases hc : x.conversation = cid
  · refine .inr (.inr fun c hsn => ?_)
    rw [hc] at hsn
    rw [hs c hsn, hagent]
    exact (Option.some_ne_none uid).symm
  · rw [hcall] at hx
    have hdue' : L.Due (some uid) x := by
      refine ⟨?_, fun u hu => ?_⟩
      · rw [← hnow]
        exact hdue.1
      · rw [← agentOf_within hl hw hx hc]
        exact hdue.2 u hu
    exact (h sid x hx hdue' hc).within hl hw hx hc

end Release
end Ledger

end NexusHelpdesk.Handoff
