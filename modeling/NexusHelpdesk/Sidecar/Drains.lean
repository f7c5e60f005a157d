import NexusHelpdesk.Sidecar.Spool

/-!
# Drains and enqueues, interleaved

The spool between any two steps: which version of a callback is in its file, which one waits for the
sender, and which ones were delivered.

* `Fresh`: the random values and the digests of a run do not collide;
* `Outbox.Ok`: one drain at a time; a file holds the last version of its callback; what was delivered
  is in order and not newer than the file;
* `Outbox.Ok.step`: every step keeps it;
* `drainFiles_sub`, `drainFiles_waiting`: the loop only removes files, and stops at a file it has
  read.
-/

namespace NexusHelpdesk.Sidecar

open Lib

/-! ## assumptions on the random values -/

/-- the nonces do not repeat, and two callbacks share an id only if they share a key. -/
def Fresh (crypto : Crypto) (s : Outbox) : OutboxStep → Prop
  | .enqueue q => q.nonce ∉ s.drawn ∧
      ∀ a ∈ s.accepted, a.envelope.id = q.id crypto → a.dedupeKey = q.key ∧ q.key.isSome = true
  | .reject _ _ _ nonce _ => nonce ∉ s.drawn
  | _ => True

/-! ## the invariant -/

/-- version `v` is callback `a`. -/
def Outbox.IsVersion (s : Outbox) (v : ℕ) (a : Accepted) : Prop := s.accepted[v]? = some a

/-- the file holds version `f.version`, the last one of its callback. -/
def FileOk (c : Cipher) (s : Outbox) (file : Text) (f : SpoolFile) : Prop :=
  ∃ nonce e a, nonce ∈ s.drawn ∧ f.content = storedText c nonce e ∧ e.id = file ∧
    s.IsVersion f.version a ∧ a.envelope.Same e ∧
    ∀ w b, f.version < w → s.IsVersion w b → b.envelope.id ≠ file

/-- what waits for the sender is a version that was in the file; if the file still has the text, it
still has the version. -/
def SendingOk (c : Cipher) (s : Outbox) (x : Sending) : Prop :=
  ∃ nonce a, nonce ∈ s.drawn ∧ x.serialized = storedText c nonce x.envelope ∧
    x.envelope.id = x.file ∧ s.IsVersion x.version a ∧ a.envelope.Same x.envelope ∧
    ∀ f, s.dir.get? x.file = some f →
      x.version ≤ f.version ∧ (f.content = x.serialized → f.version = x.version)

/-- what was delivered is a version that was accepted, and not newer than what is in the file or
waits for the sender. -/
def DeliveryOk (s : Outbox) (d : Delivery) : Prop :=
  (∃ a, s.IsVersion d.version a ∧ a.envelope.Same d.envelope) ∧
    (∀ f, s.dir.get? d.envelope.id = some f → d.version ≤ f.version) ∧
    ∀ r ∈ s.running, r.2.sending.file = d.envelope.id → d.version ≤ r.2.sending.version

structure Outbox.Ok (c : Cipher) (s : Outbox) : Prop where
  exclusive : s.running = [] ∨ ∃ k op, s.running = [(k, op)] ∧ s.drainInFlight = some k
  files : ∀ file f, s.dir.get? file = some f → FileOk c s file f
  sending : ∀ r ∈ s.running, SendingOk c s r.2.sending
  delivered : ∀ d ∈ s.deliveries, DeliveryOk s d
  ordered : s.deliveries.Pairwise fun d d' =>
    d.envelope.id = d'.envelope.id → d.version ≤ d'.version
  keys : ∀ v w a b, v < w → s.IsVersion v a → s.IsVersion w b → a.envelope.id = b.envelope.id →
    a.dedupeKey = b.dedupeKey ∧ b.dedupeKey.isSome = true

lemma Outbox.ok_empty (c : Cipher) : Outbox.empty.Ok c where
  exclusive := Or.inl rfl
  files := by
    intro file f h
    cases h
  sending := by
    intro r hr
    cases hr
  delivered := by
    intro d hd
    cases hd
  ordered := List.Pairwise.nil
  keys := by
    intro v w a b _ hv
    cases hv

/-! ## stored texts -/

variable {c : Cipher} {e : CallbackEnvelope} {op : DrainOp} {s : Outbox} {k : ℕ} {crypto : Crypto}
  {α : Type} {v : ℕ} {q : Enqueue}

lemma storedText_nonce {n n' : Nonce} {e' : CallbackEnvelope}
    (h : storedText c n e = storedText c n' e') : n = n' := by
  unfold storedText at h
  dsimp only at h
  have hjson := congrArg Json.parse h
  rw [Json.parse_text, Json.parse_text, Option.some.injEq] at hjson
  have hfield := congrArg (fun v => Json.field "nonce" v) hjson
  have hbase : base64 n.bytes = base64 n'.bytes := Json.str.inj (Option.some.inj hfield)
  have hbytes := congrArg ofBase64 hbase
  rw [ofBase64_base64, ofBase64_base64, Option.some.injEq] at hbytes
  obtain ⟨bytes, hsize⟩ := n
  obtain ⟨bytes', hsize'⟩ := n'
  dsimp only at hbytes
  subst hbytes
  rfl

lemma readBoundedFile_ok {content serialized : Text} (h : readBoundedFile content = .ok serialized) :
    serialized = content := by
  unfold readBoundedFile at h
  split at h
  · cases h
  · exact (Except.ok.inj h).symm

lemma write_ok {nonce : Nonce} {content : Text} (h : write c nonce e = .ok content) :
    content = storedText c nonce e ∧ byteLength e.plaintext ≤ maxCallbackFileBytes := by
  unfold write at h
  split at h
  · cases h
  · rename_i hsize
    exact ⟨(Except.ok.inj h).symm, by omega⟩

lemma isCurrentVersion_true {fails : Bool} {file serialized : Text} {dir : Dir Text SpoolFile}
    (h : isCurrentVersion fails file serialized dir = true) :
    ∃ f, dir.get? file = some f ∧ f.content = serialized := by
  unfold isCurrentVersion at h
  have hany := ((Bool.and_eq_true _ _).mp h).2
  obtain ⟨f, hf, hmatch⟩ := (Option.any_eq_true _ _).1 hany
  refine ⟨f, hf, ?_⟩
  cases hread : readBoundedFile f.content with
  | ok content =>
    rw [hread] at hmatch
    have heq := readBoundedFile_ok hread
    subst heq
    exact beq_iff_eq.1 hmatch
  | error err =>
    rw [hread] at hmatch
    cases hmatch

lemma drainFiles_sub (c : Cipher) (seg : Segment) (dueLimit attemptedDue delivered : ℕ)
    (todo : List Text) (pending : ℕ) (dir : Dir Text SpoolFile) :
    ∀ file f, (drainFiles c seg dueLimit attemptedDue delivered todo pending dir).2.get? file = some f →
      dir.get? file = some f := by
  have hremove : ∀ (dir : Dir Text SpoolFile) (k file : Text) (f : SpoolFile),
      (dir.remove k).get? file = some f → dir.get? file = some f := by
    intro dir k file f h
    rw [Dir.get?_remove] at h
    split at h
    · cases h
    · exact h
  induction todo generalizing pending dir with
  | nil => exact fun file f h => h
  | cons head todo ih =>
    intro file f h
    unfold drainFiles at h
    split at h
    · exact ih _ _ file f h
    · split at h
      · exact hremove _ _ _ _ (ih _ _ file f h)
      · split at h
        · exact hremove _ _ _ _ (ih _ _ file f h)
        · split at h
          · have hrest := ih _ _ file f h
            split at hrest
            · exact hremove _ _ _ _ hrest
            · exact hrest
          · split at h
            · exact ih _ _ file f h
            · split at h <;> exact h

lemma drainFiles_waiting {seg : Segment} {dueLimit attemptedDue delivered : ℕ}
    {todo : List Text} {pending : ℕ} {dir dir' : Dir Text SpoolFile}
    (h : drainFiles c seg dueLimit attemptedDue delivered todo pending dir = (.waiting op, dir')) :
    ∃ f, dir'.get? op.sending.file = some f ∧ op.sending.serialized = f.content ∧
      decrypt c f.content = .ok op.sending.envelope ∧ op.sending.version = f.version := by
  induction todo generalizing pending dir with
  | nil => cases h
  | cons head todo ih =>
    unfold drainFiles at h
    split at h
    · exact ih h
    · rename_i f hf
      split at h
      · exact ih h
      · split at h
        · exact ih h
        · rename_i serialized hread
          have heq := readBoundedFile_ok hread
          subst heq
          split at h
          · exact ih h
          · rename_i e hdecrypt
            split at h
            · exact ih h
            · split at h
              · cases h
              · cases h
                exact ⟨f, hf, rfl, hdecrypt, rfl⟩

/-! ## what a step keeps -/

lemma Outbox.Ok.goOn (h : s.Ok c)
    (hrun : ∀ r ∈ s.running, r.1 = k) (hin : s.drainInFlight = some k) (seg : Segment)
    (dueLimit attemptedDue delivered pending : ℕ) (todo : List Text) :
    (goOn c seg k dueLimit attemptedDue delivered pending todo s).Ok c := by
  have hempty : (s.running.filter fun r => r.1 ≠ k) = [] := by
    rw [List.filter_eq_nil_iff]
    intro r hr
    simp [hrun r hr]
  have hsub := drainFiles_sub c seg dueLimit attemptedDue delivered todo pending s.dir
  unfold Sidecar.goOn
  rw [hempty]
  split
  · rename_i d p dir' hloop
    rw [hloop] at hsub
    exact
      { exclusive := Or.inl rfl
        files := fun file f hf => h.files file f (hsub file f hf)
        sending := fun r hr => by cases hr
        delivered := fun d hd =>
          ⟨(h.delivered d hd).1, fun f hf => (h.delivered d hd).2.1 f (hsub _ f hf),
            fun r hr => by cases hr⟩
        ordered := h.ordered
        keys := h.keys }
  · rename_i op dir' hloop
    rw [hloop] at hsub
    obtain ⟨f, hf, hserialized, hdecrypt, hversion⟩ := drainFiles_waiting hloop
    obtain ⟨nonce, e, a, hdrawn, hcontent, hid, ha, hsame, hlast⟩ := h.files _ f (hsub _ f hf)
    have he : e = op.sending.envelope := by
      rw [hcontent, decrypt_storedText] at hdecrypt
      exact Except.ok.inj hdecrypt
    subst he
    refine ⟨Or.inr ⟨k, op, rfl, hin⟩, fun file f hf => h.files file f (hsub file f hf), ?_, ?_,
      h.ordered, h.keys⟩
    · intro r hr
      rw [List.mem_singleton] at hr
      subst hr
      refine ⟨nonce, a, hdrawn, hserialized.trans hcontent, hid, ?_, hsame, ?_⟩
      · rw [hversion]
        exact ha
      · intro f' hf'
        have hsame' : f' = f := Option.some.inj (hf'.symm.trans hf)
        rw [hsame', hversion]
        exact ⟨le_refl _, fun _ => rfl⟩
    · intro d hd
      obtain ⟨hd₁, hd₂, -⟩ := h.delivered d hd
      refine ⟨hd₁, fun f hf => hd₂ f (hsub _ f hf), ?_⟩
      intro r hr hfile
      rw [List.mem_singleton] at hr
      subst hr
      rw [hfile] at hf
      rw [hversion]
      exact hd₂ f (hsub _ f hf)

lemma Outbox.Ok.findOp (h : s.Ok c)
    (hop : findOp k s = some op) : s.running = [(k, op)] ∧ s.drainInFlight = some k := by
  unfold Sidecar.findOp at hop
  obtain ⟨⟨k', op'⟩, hfind, rfl⟩ := Option.map_eq_some_iff.1 hop
  have hmem := List.mem_of_find?_eq_some hfind
  have hk := List.find?_some hfind
  simp only [decide_eq_true_eq] at hk
  subst hk
  rcases h.exclusive with hnil | ⟨k'', op'', hone, hin⟩
  · rw [hnil] at hmem
    cases hmem
  · rw [hone, List.mem_singleton] at hmem
    cases hmem
    exact ⟨hone, hin⟩

lemma getElem?_concat {l : List α} {a b : α} :
    (l ++ [a])[v]? = some b ↔ l[v]? = some b ∨ (v = l.length ∧ a = b) := by
  rw [List.getElem?_append]
  by_cases hv : v < l.length
  · rw [if_pos hv]
    constructor
    · exact Or.inl
    · rintro (h | ⟨rfl, -⟩)
      · exact h
      · exact absurd hv (lt_irrefl _)
  · rw [if_neg hv, List.getElem?_eq_none (by omega : l.length ≤ v)]
    rw [List.getElem?_singleton]
    constructor
    · intro h
      split at h
      · right
        exact ⟨by omega, Option.some.inj h⟩
      · cases h
    · rintro (h | ⟨rfl, rfl⟩)
      · cases h
      · simp

lemma lt_of_getElem? {l : List α} {a : α} (h : l[v]? = some a) :
    v < l.length := by
  by_contra hv
  rw [List.getElem?_eq_none (by omega)] at h
  cases h

lemma Outbox.Ok.start (h : s.Ok c) (hnone : s.drainInFlight = none) :
    s.running = [] ∧ Outbox.Ok c
      { s with drainInFlight := some s.operations, operations := s.operations + 1 } := by
  have hidle : s.running = [] := by
    rcases h.exclusive with hnil | ⟨k, op, -, hin⟩
    · exact hnil
    · rw [hnone] at hin
      cases hin
  exact ⟨hidle, Or.inl hidle, h.files, h.sending, h.delivered, h.ordered, h.keys⟩

lemma Outbox.Ok.drain (h : s.Ok c) (limit : ℤ) (seg : Segment) :
    (Sidecar.drain c limit seg s).Ok c := by
  unfold Sidecar.drain
  split
  · exact h
  · rename_i hnone
    obtain ⟨hidle, hstart⟩ := h.start hnone
    apply hstart.goOn
    · intro r hr
      have hr' : r ∈ s.running := hr
      rw [hidle] at hr'
      cases hr'
    · rfl

lemma Outbox.Ok.settle (h : s.Ok c) (k : ℕ) : (settleDrain k s).Ok c := by
  unfold settleDrain
  split
  · rename_i hk
    refine ⟨?_, h.files, h.sending, h.delivered, h.ordered, h.keys⟩
    rcases h.exclusive with hnil | ⟨k', op, hone, hin⟩
    · exact Or.inl hnil
    · exfalso
      have hkk : k' = k := Option.some.inj (hin.symm.trans hk.1)
      subst hkk
      have hnone := hk.2
      unfold Sidecar.findOp at hnone
      rw [hone] at hnone
      simp at hnone
  · exact h

/-- the sender resolved: the delivery is noted, and the file removed if it is still the one that was
sent. -/
lemma Outbox.Ok.deliver (h : s.Ok c) (hop : Sidecar.findOp k s = some op) (fails : Bool) :
    Outbox.Ok c { s with
        dir := if isCurrentVersion fails op.sending.file op.sending.serialized s.dir
          then s.dir.remove op.sending.file else s.dir
        deliveries := s.deliveries ++ [⟨op.sending.envelope, op.sending.version⟩] } := by
  obtain ⟨hone, hin⟩ := h.findOp hop
  have hmem : (k, op) ∈ s.running := by rw [hone]; exact List.mem_singleton.2 rfl
  obtain ⟨nonce, a, hdrawn, hserialized, hid, ha, hsame, hfile⟩ := h.sending (k, op) hmem
  dsimp only at hserialized hid ha hsame hfile
  generalize hdir : (if isCurrentVersion fails op.sending.file op.sending.serialized s.dir = true
    then s.dir.remove op.sending.file else s.dir) = dir
  have hsub : ∀ file f, dir.get? file = some f → s.dir.get? file = some f := by
    intro file f hf
    rw [← hdir] at hf
    split at hf
    · rw [Dir.get?_remove] at hf
      split at hf
      · cases hf
      · exact hf
    · exact hf
  refine ⟨h.exclusive, fun file f hf => h.files file f (hsub file f hf), ?_, ?_, ?_, h.keys⟩
  · intro r hr
    obtain ⟨n, b, h₁, h₂, h₃, h₄, h₅, h₆⟩ := h.sending r hr
    exact ⟨n, b, h₁, h₂, h₃, h₄, h₅, fun f hf => h₆ f (hsub _ f hf)⟩
  · intro d hd
    rcases List.mem_append.1 hd with hold | hnew
    · obtain ⟨h₁, h₂, h₃⟩ := h.delivered d hold
      exact ⟨h₁, fun f hf => h₂ f (hsub _ f hf), h₃⟩
    · rw [List.mem_singleton] at hnew
      subst hnew
      refine ⟨⟨a, ha, hsame⟩, ?_, ?_⟩
      · intro f hf
        dsimp only at hf ⊢
        rw [hid] at hf
        exact (hfile f (hsub _ f hf)).1
      · intro r hr _
        have hr' : r ∈ s.running := hr
        rw [hone, List.mem_singleton] at hr'
        subst hr'
        exact le_refl _
  · dsimp only
    rw [List.pairwise_append]
    refine ⟨h.ordered, List.pairwise_singleton _ _, ?_⟩
    intro d hd d' hd' hsameId
    rw [List.mem_singleton] at hd'
    subst hd'
    dsimp only at hsameId ⊢
    refine (h.delivered d hd).2.2 (k, op) hmem ?_
    rw [hsameId]
    exact hid.symm

lemma Outbox.Ok.resolve (h : s.Ok c) (k : ℕ) (fails : Bool)
    (seg : Segment) : (resolveSend c k fails seg s).Ok c := by
  unfold resolveSend
  split
  · exact h
  · rename_i op hop
    obtain ⟨hone, hin⟩ := h.findOp hop
    apply (h.deliver hop fails).goOn
    · intro r hr
      have hr' : r ∈ s.running := hr
      rw [hone, List.mem_singleton] at hr'
      subst hr'
      rfl
    · exact hin

lemma retried_same (now : ℤ) (e : CallbackEnvelope) : e.Same (e.retried now) := by
  unfold CallbackEnvelope.retried
  split <;> exact ⟨rfl, rfl, rfl, rfl, rfl⟩

lemma CallbackEnvelope.Same.trans {f g : CallbackEnvelope} (h : e.Same f) (h' : f.Same g) :
    e.Same g :=
  ⟨h.1.trans h'.1, h.2.1.trans h'.2.1, h.2.2.1.trans h'.2.2.1, h.2.2.2.1.trans h'.2.2.2.1,
    h.2.2.2.2.trans h'.2.2.2.2⟩

lemma Outbox.Ok.rewrite (h : s.Ok c) (hone : s.running = [(k, op)]) {f : SpoolFile}
    (hf : s.dir.get? op.sending.file = some f) (hcontent : f.content = op.sending.serialized)
    (now : ℤ) (nonce : Nonce) :
    Outbox.Ok c { s with
        dir := s.dir.write (op.sending.envelope.retried now).id
          ⟨storedText c nonce (op.sending.envelope.retried now), op.sending.version⟩
        drawn := nonce :: s.drawn } := by
  have hmem : (k, op) ∈ s.running := by rw [hone]; exact List.mem_singleton.2 rfl
  obtain ⟨n, a, hdrawn, hserialized, hid, ha, hsame, hfile⟩ := h.sending (k, op) hmem
  dsimp only at hserialized hid ha hsame hfile
  have hversion : f.version = op.sending.version := (hfile f hf).2 hcontent
  have hretried := retried_same now op.sending.envelope
  have hname : (op.sending.envelope.retried now).id = op.sending.file := hretried.1.symm.trans hid
  rw [hname]
  obtain ⟨-, -, b, -, -, -, hb, -, hlast⟩ := h.files _ f hf
  rw [hversion] at hlast
  refine ⟨h.exclusive, ?_, ?_, ?_, h.ordered, h.keys⟩
  · intro file f' hf'
    dsimp only at hf'
    rw [Dir.get?_write] at hf'
    split at hf'
    · rename_i heq
      subst heq
      cases hf'
      exact ⟨nonce, _, a, List.mem_cons_self .., rfl, hname, ha, hsame.trans hretried, hlast⟩
    · obtain ⟨n', e, b', h₁, h₂⟩ := h.files file f' hf'
      exact ⟨n', e, b', List.mem_cons_of_mem _ h₁, h₂⟩
  · intro r hr
    have hr' : r ∈ s.running := hr
    rw [hone, List.mem_singleton] at hr'
    subst hr'
    refine ⟨n, a, List.mem_cons_of_mem _ hdrawn, hserialized, hid, ha, hsame, ?_⟩
    intro f' hf'
    dsimp only at hf'
    rw [Dir.get?_write, if_pos rfl] at hf'
    cases hf'
    exact ⟨le_refl _, fun _ => rfl⟩
  · intro d hd
    obtain ⟨h₁, h₂, h₃⟩ := h.delivered d hd
    refine ⟨h₁, ?_, h₃⟩
    intro f' hf'
    dsimp only at hf'
    rw [Dir.get?_write] at hf'
    split at hf'
    · rename_i heq
      cases hf'
      rw [← heq] at hf
      have hle := h₂ f hf
      rw [hversion] at hle
      exact hle
    · exact h₂ f' hf'

lemma Outbox.Ok.reject (h : s.Ok c) (k : ℕ) (fails : Bool) (now : ℤ)
    (nonce : Nonce) (seg : Segment) : (rejectSend c k fails now nonce seg s).Ok c := by
  unfold rejectSend
  split
  · exact h
  · rename_i op hop
    obtain ⟨hone, hin⟩ := h.findOp hop
    have hrun : ∀ r ∈ s.running, r.1 = k := by
      intro r hr
      rw [hone, List.mem_singleton] at hr
      subst hr
      rfl
    dsimp only
    by_cases hcurrent : isCurrentVersion fails op.sending.file op.sending.serialized s.dir = true
    · rw [if_pos hcurrent]
      obtain ⟨f, hf, hcontent⟩ := isCurrentVersion_true hcurrent
      split
      · -- the drain ends with an exception and the file stays as it was
        have hidle : (s.running.filter fun r => r.1 ≠ k) = [] := by
          rw [hone]
          simp
        rw [hidle]
        exact
          { exclusive := Or.inl rfl
            files := h.files
            sending := fun r hr => by cases hr
            delivered := fun d hd =>
              ⟨(h.delivered d hd).1, (h.delivered d hd).2.1, fun r hr => by cases hr⟩
            ordered := h.ordered
            keys := h.keys }
      · rename_i content hwrite
        obtain ⟨rfl, -⟩ := write_ok hwrite
        exact (h.rewrite hone hf hcontent now nonce).goOn hrun hin seg _ _ _ _ _
    · rw [if_neg hcurrent]
      exact h.goOn hrun hin seg _ _ _ _ _

def Outbox.accept (crypto : Crypto) (q : Enqueue) (account : AccountId) (s : Outbox) : Outbox :=
  { s with
    dir := s.dir.write (q.envelope crypto account).id
      ⟨storedText crypto.cipher q.nonce (q.envelope crypto account), s.accepted.length⟩
    accepted := s.accepted ++ [⟨q.envelope crypto account, q.key⟩]
    drawn := q.nonce :: s.drawn }

lemma apply_enqueue {account : AccountId} (hacc : assertSafeAccountId q.accountId = .ok account)
    (hsize : byteLength (q.envelope crypto account).plaintext ≤ maxCallbackFileBytes) (s : Outbox) :
    (OutboxStep.enqueue q).apply crypto s = s.accept crypto q account := by
  have hwrite : write crypto.cipher q.nonce (q.envelope crypto account) =
      .ok (storedText crypto.cipher q.nonce (q.envelope crypto account)) := by
    unfold write
    rw [if_neg (by omega)]
  simp only [OutboxStep.apply, enqueue, hacc, hwrite]
  rfl

lemma enqueue_cases (crypto : Crypto) (q : Enqueue) (s : Outbox) :
    (OutboxStep.enqueue q).apply crypto s = s ∨
      ∃ account, assertSafeAccountId q.accountId = .ok account ∧
        byteLength (q.envelope crypto account).plaintext ≤ maxCallbackFileBytes ∧
        (OutboxStep.enqueue q).apply crypto s = s.accept crypto q account := by
  cases hacc : assertSafeAccountId q.accountId with
  | error err =>
    left
    simp only [OutboxStep.apply, enqueue, hacc]
  | ok account =>
    cases hwrite : write crypto.cipher q.nonce (q.envelope crypto account) with
    | error err =>
      left
      simp only [OutboxStep.apply, enqueue, hacc, hwrite]
    | ok content =>
      obtain ⟨-, hsize⟩ := write_ok hwrite
      right
      exact ⟨account, rfl, hsize, apply_enqueue hacc hsize s⟩

lemma Outbox.Ok.accept (h : s.Ok crypto.cipher) (hfresh : Fresh crypto s (.enqueue q))
    (account : AccountId) :
    (s.accept crypto q account).Ok crypto.cipher := by
  unfold Outbox.accept
  generalize he : q.envelope crypto account = e
  have hid : e.id = q.id crypto := by rw [← he]; rfl
  have hlt : ∀ {v : ℕ} {a : Accepted}, s.IsVersion v a → v < s.accepted.length :=
    fun hv => lt_of_getElem? hv
  refine ⟨h.exclusive, ?_, ?_, ?_, h.ordered, ?_⟩
  · intro file f hf
    dsimp only at hf
    rw [Dir.get?_write] at hf
    split at hf
    · rename_i heq
      subst heq
      cases hf
      refine ⟨q.nonce, e, ⟨e, q.key⟩, List.mem_cons_self .., rfl, rfl,
        getElem?_concat.2 (Or.inr ⟨rfl, rfl⟩), ⟨rfl, rfl, rfl, rfl, rfl⟩, ?_⟩
      intro w b hw hb
      have hlen := lt_of_getElem? hb
      rw [List.length_append, List.length_singleton] at hlen
      dsimp only at hw
      omega
    · rename_i hne
      obtain ⟨n, e', a, h₁, h₂, h₃, ha, h₅, hlast⟩ := h.files file f hf
      refine ⟨n, e', a, List.mem_cons_of_mem _ h₁, h₂, h₃,
        getElem?_concat.2 (Or.inl ha), h₅, ?_⟩
      intro w b hw hb
      rcases getElem?_concat.1 hb with hb | ⟨-, rfl⟩
      · exact hlast w b hw hb
      · exact fun heq => hne heq.symm
  · intro r hr
    obtain ⟨n, a, h₁, h₂, h₃, ha, h₅, hfile⟩ := h.sending r hr
    refine ⟨n, a, List.mem_cons_of_mem _ h₁, h₂, h₃,
      getElem?_concat.2 (Or.inl ha), h₅, ?_⟩
    intro f hf
    dsimp only at hf
    rw [Dir.get?_write] at hf
    split at hf
    · cases hf
      refine ⟨(hlt ha).le, ?_⟩
      intro hcontent
      dsimp only at hcontent
      rw [h₂] at hcontent
      have hnonce := storedText_nonce hcontent
      rw [← hnonce] at h₁
      exact absurd h₁ hfresh.1
    · exact hfile f hf
  · intro d hd
    obtain ⟨⟨a, ha, hsame⟩, h₂, h₃⟩ := h.delivered d hd
    refine ⟨⟨a, getElem?_concat.2 (Or.inl ha), hsame⟩, ?_, h₃⟩
    intro f hf
    dsimp only at hf
    rw [Dir.get?_write] at hf
    split at hf
    · cases hf
      exact (hlt ha).le
    · exact h₂ f hf
  · intro v w a b hvw hv hw hids
    rcases getElem?_concat.1 hw with hw | ⟨rfl, rfl⟩
    · rcases getElem?_concat.1 hv with hv | ⟨rfl, rfl⟩
      · exact h.keys v w a b hvw hv hw hids
      · have hlen := lt_of_getElem? hw
        omega
    · rcases getElem?_concat.1 hv with hv | ⟨rfl, rfl⟩
      · dsimp only at hids ⊢
        rw [hid] at hids
        exact hfresh.2 a (List.mem_of_getElem? hv) hids
      · omega

lemma Outbox.Ok.step (h : s.Ok crypto.cipher) {i : OutboxStep}
    (hi : Fresh crypto s i) : (i.apply crypto s).Ok crypto.cipher := by
  cases i with
  | enqueue q =>
    rcases enqueue_cases crypto q s with hsame | ⟨account, -, -, hnew⟩
    · rw [hsame]
      exact h
    · rw [hnew]
      exact h.accept hi account
  | drain limit seg => exact h.drain limit seg
  | resolve k fails seg => exact h.resolve k fails seg
  | reject k fails now nonce seg => exact h.reject k fails now nonce seg
  | settle k => exact h.settle k

end NexusHelpdesk.Sidecar
