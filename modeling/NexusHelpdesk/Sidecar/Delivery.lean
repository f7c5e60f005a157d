import NexusHelpdesk.Sidecar.Drains

/-!
# No accepted callback is lost

The loop of `drainOnce` removes a file it cannot read.  While every read succeeds and every file is
within the bound of the reader, a file leaves the spool only when its callback was delivered.

* `Sound`: the reads of the loop succeed, and what `write` lets through fits in its file;
* `Outbox.Kept`: what was accepted was replaced or delivered, or is in its file;
* `accepted_kept`: **an accepted callback is replaced under its key, delivered, or still in its file
  and read back from there; what was written is read back if and only if its file is within the
  bound**;
* `latest_status_wins`: **one drain sends at a time, the versions of a key are delivered in order,
  and when its file is gone the last one was delivered**.
-/

namespace NexusHelpdesk.Sidecar

open Lib

/-! ## the condition -/

/-- the bound of the writer on the plaintext implies the bound of the reader on the file. -/
def Fits (e : CallbackEnvelope) : Prop :=
  byteLength e.plaintext ≤ maxCallbackFileBytes → fileSize e ≤ maxCallbackFileBytes

def Sound (crypto : Crypto) (s : Outbox) : OutboxStep → Prop
  | .enqueue q => ∀ account, assertSafeAccountId q.accountId = .ok account →
      Fits (q.envelope crypto account)
  | .drain _ seg => ∀ file ∈ spoolNames s.dir, seg.readFails file = false
  | .resolve k _ seg => ∀ op, findOp k s = some op → ∀ file ∈ op.todo, seg.readFails file = false
  | .reject k _ now _ seg => ∀ op, findOp k s = some op →
      (∀ file ∈ op.todo, seg.readFails file = false) ∧ Fits (op.sending.envelope.retried now)
  | .settle _ => True

def Outbox.Holds (s : Outbox) (v : ℕ) (a : Accepted) : Prop :=
  ∃ f, s.dir.get? a.envelope.id = some f ∧ f.version = v

def Outbox.Replaced (s : Outbox) (v : ℕ) (a : Accepted) : Prop :=
  ∃ w b, v < w ∧ s.IsVersion w b ∧ b.envelope.id = a.envelope.id

/-- every file is within the bound, and no accepted callback is missing. -/
structure Outbox.Kept (s : Outbox) : Prop where
  bounded : ∀ file f, s.dir.get? file = some f → byteLength f.content ≤ maxCallbackFileBytes
  kept : ∀ v a, s.IsVersion v a →
    s.Replaced v a ∨ (∃ d ∈ s.deliveries, d.version = v) ∨ s.Holds v a

lemma Outbox.kept_empty : Outbox.empty.Kept where
  bounded := by
    intro file f h
    cases h
  kept := by
    intro v a h
    cases h

variable {c : Cipher} {seg : Segment} {s : Outbox} {todo : List Text} {f : SpoolFile}
  {crypto : Crypto} {a : Accepted} {file : Text} {k : ℕ} {op : DrainOp} {q : Enqueue}
  {account : AccountId} {i : OutboxStep} {l : List OutboxStep} {v : ℕ} {d : Delivery}

lemma drainFiles_dir (hok : s.Ok c) (hkept : s.Kept) (dueLimit attemptedDue delivered : ℕ)
    (hreads : ∀ file ∈ todo, seg.readFails file = false) (pending : ℕ) :
    (drainFiles c seg dueLimit attemptedDue delivered todo pending s.dir).2 = s.dir := by
  induction todo generalizing pending with
  | nil => rfl
  | cons file todo ih =>
    have hrest := ih fun file' hmem => hreads file' (List.mem_cons_of_mem _ hmem)
    have hhead := hreads file (List.mem_cons_self ..)
    unfold drainFiles
    cases hf : s.dir.get? file with
    | none => exact hrest pending
    | some f =>
      obtain ⟨nonce, e, a, -, hcontent, -⟩ := hok.files file f hf
      have hbound := hkept.bounded file f hf
      rw [hcontent, byteLength_storedText] at hbound
      have hread : readBoundedFile f.content = .ok f.content := by
        have hsize := byteLength_storedText c nonce e
        rw [← hcontent] at hsize
        unfold readBoundedFile
        rw [if_neg]
        rw [hsize]
        unfold fileSize at hbound ⊢
        omega
      have hdecrypt : decrypt c f.content = .ok e := by
        rw [hcontent]
        exact decrypt_storedText c nonce e
      dsimp only
      rw [hhead, if_neg Bool.false_ne_true, hread]
      dsimp only
      rw [hdecrypt]
      dsimp only
      split
      · exact hrest (pending + 1)
      · split <;> rfl

lemma goOn_frame (hok : s.Ok c) (hkept : s.Kept)
    (hreads : ∀ file ∈ todo, seg.readFails file = false)
    (k dueLimit attemptedDue delivered pending : ℕ) :
    ∃ running, goOn c seg k dueLimit attemptedDue delivered pending todo s =
      { s with running := running } := by
  have hdir := drainFiles_dir hok hkept dueLimit attemptedDue delivered hreads pending
  unfold goOn
  split
  · rename_i d p dir hloop
    rw [hloop] at hdir
    dsimp only at hdir
    subst hdir
    exact ⟨_, rfl⟩
  · rename_i op dir hloop
    rw [hloop] at hdir
    dsimp only at hdir
    subst hdir
    exact ⟨_, rfl⟩

lemma Outbox.Kept.goOn (hkept : s.Kept) (hok : s.Ok c)
    (hreads : ∀ file ∈ todo, seg.readFails file = false)
    (k dueLimit attemptedDue delivered pending : ℕ) :
    (goOn c seg k dueLimit attemptedDue delivered pending todo s).Kept := by
  obtain ⟨running, heq⟩ := goOn_frame hok hkept hreads k dueLimit attemptedDue delivered pending
  rw [heq]
  exact ⟨hkept.bounded, hkept.kept⟩

/-! ## what a step keeps -/

lemma Outbox.Kept.write (h : s.Kept) (hbound : byteLength f.content ≤ maxCallbackFileBytes) :
    ∀ file' f', (s.dir.write file f).get? file' = some f' →
      byteLength f'.content ≤ maxCallbackFileBytes := by
  intro file' f' hf'
  rw [Dir.get?_write] at hf'
  split at hf'
  · cases hf'
    exact hbound
  · exact h.bounded file' f' hf'

lemma Outbox.Kept.drain (h : s.Kept) (hok : s.Ok c) (limit : ℤ)
    (hreads : ∀ file ∈ spoolNames s.dir, seg.readFails file = false) :
    (Sidecar.drain c limit seg s).Kept := by
  unfold Sidecar.drain
  split
  · exact h
  · rename_i hnone
    obtain ⟨-, hstart⟩ := hok.start hnone
    have hkept : Outbox.Kept
        { s with drainInFlight := some s.operations, operations := s.operations + 1 } :=
      ⟨h.bounded, h.kept⟩
    exact hkept.goOn hstart hreads ..

lemma Outbox.Kept.deliver (h : s.Kept) (hok : s.Ok c) (hop : findOp k s = some op) (fails : Bool) :
    Outbox.Kept { s with
        dir := if isCurrentVersion fails op.sending.file op.sending.serialized s.dir
          then s.dir.remove op.sending.file else s.dir
        deliveries := s.deliveries ++ [⟨op.sending.envelope, op.sending.version⟩] } := by
  obtain ⟨hone, -⟩ := hok.findOp hop
  have hmem : (k, op) ∈ s.running := by rw [hone]; exact List.mem_singleton.2 rfl
  obtain ⟨nonce, b, -, -, -, -, -, hfile⟩ := hok.sending (k, op) hmem
  dsimp only at hfile
  refine ⟨?_, ?_⟩
  · intro file f hf
    dsimp only at hf
    split at hf
    · rw [Dir.get?_remove] at hf
      split at hf
      · cases hf
      · exact h.bounded file f hf
    · exact h.bounded file f hf
  · intro v a ha
    rcases h.kept v a ha with hreplaced | ⟨d, hd, hv⟩ | ⟨f, hf, hv⟩
    · exact Or.inl hreplaced
    · exact Or.inr (Or.inl ⟨d, List.mem_append_left _ hd, hv⟩)
    · by_cases hcurrent :
          isCurrentVersion fails op.sending.file op.sending.serialized s.dir = true
      · obtain ⟨f', hf', hcontent⟩ := isCurrentVersion_true hcurrent
        by_cases hname : a.envelope.id = op.sending.file
        · right
          left
          rw [hname] at hf
          have hsent : f.version = op.sending.version := by
            have heq : f = f' := Option.some.inj (hf.symm.trans hf')
            subst heq
            exact (hfile f hf).2 hcontent
          exact ⟨_, List.mem_append_right _ (List.mem_singleton.2 rfl), hsent.symm.trans hv⟩
        · right
          right
          refine ⟨f, ?_, hv⟩
          dsimp only
          rw [if_pos hcurrent, Dir.get?_remove, if_neg hname]
          exact hf
      · right
        right
        refine ⟨f, ?_, hv⟩
        dsimp only
        rw [if_neg hcurrent]
        exact hf

lemma Outbox.Kept.resolve (h : s.Kept) (hok : s.Ok c) (k : ℕ) (fails : Bool)
    (hreads : ∀ op, findOp k s = some op → ∀ file ∈ op.todo, seg.readFails file = false) :
    (resolveSend c k fails seg s).Kept := by
  unfold resolveSend
  split
  · exact h
  · rename_i op hop
    exact (h.deliver hok hop fails).goOn (hok.deliver hop fails) (hreads op hop) ..

lemma Outbox.Kept.rewrite (h : s.Kept) (hok : s.Ok c) (hone : s.running = [(k, op)])
    (hf : s.dir.get? op.sending.file = some f) (hcontent : f.content = op.sending.serialized)
    (now : ℤ) (nonce : Nonce)
    (hsize : fileSize (op.sending.envelope.retried now) ≤ maxCallbackFileBytes) :
    Outbox.Kept { s with
        dir := s.dir.write (op.sending.envelope.retried now).id
          ⟨storedText c nonce (op.sending.envelope.retried now), op.sending.version⟩
        drawn := nonce :: s.drawn } := by
  have hmem : (k, op) ∈ s.running := by rw [hone]; exact List.mem_singleton.2 rfl
  obtain ⟨n, b, -, -, hid, -, -, hfile⟩ := hok.sending (k, op) hmem
  dsimp only at hid hfile
  have hversion : f.version = op.sending.version := (hfile f hf).2 hcontent
  have hname : (op.sending.envelope.retried now).id = op.sending.file :=
    (retried_same now op.sending.envelope).1.symm.trans hid
  rw [hname]
  refine ⟨?_, ?_⟩
  · apply h.write
    dsimp only
    rw [byteLength_storedText]
    exact hsize
  · intro v a ha
    rcases h.kept v a ha with hreplaced | hdelivered | ⟨f', hf', hv⟩
    · exact Or.inl hreplaced
    · exact Or.inr (Or.inl hdelivered)
    · right
      right
      unfold Outbox.Holds
      dsimp only
      rw [Dir.get?_write]
      by_cases heq : a.envelope.id = op.sending.file
      · rw [if_pos heq]
        rw [heq] at hf'
        have hsame : f' = f := Option.some.inj (hf'.symm.trans hf)
        rw [hsame, hversion] at hv
        exact ⟨_, rfl, hv⟩
      · rw [if_neg heq]
        exact ⟨f', hf', hv⟩

lemma Outbox.Kept.reject (h : s.Kept) (hok : s.Ok c) (k : ℕ)
    (fails : Bool) (now : ℤ) (nonce : Nonce) (seg : Segment) (hsound : ∀ op, findOp k s = some op →
      (∀ file ∈ op.todo, seg.readFails file = false) ∧ Fits (op.sending.envelope.retried now)) :
    (rejectSend c k fails now nonce seg s).Kept := by
  unfold rejectSend
  split
  · exact h
  · rename_i op hop
    obtain ⟨hreads, hfits⟩ := hsound op hop
    obtain ⟨hone, -⟩ := hok.findOp hop
    dsimp only
    by_cases hcurrent : isCurrentVersion fails op.sending.file op.sending.serialized s.dir = true
    · rw [if_pos hcurrent]
      obtain ⟨f, hf, hcontent⟩ := isCurrentVersion_true hcurrent
      split
      · exact ⟨h.bounded, h.kept⟩
      · rename_i content hwrite
        obtain ⟨rfl, hsize⟩ := write_ok hwrite
        exact (h.rewrite hok hone hf hcontent now nonce (hfits hsize)).goOn
          (hok.rewrite hone hf hcontent now nonce) hreads ..
    · rw [if_neg hcurrent]
      exact h.goOn hok hreads ..

lemma Outbox.Kept.accept (h : s.Kept)
    (hsize : fileSize (q.envelope crypto account) ≤ maxCallbackFileBytes) :
    (s.accept crypto q account).Kept := by
  refine ⟨?_, ?_⟩
  · apply h.write
    dsimp only
    rw [byteLength_storedText]
    exact hsize
  · intro v a ha
    unfold Outbox.Holds Outbox.Replaced Outbox.accept
    dsimp only
    rw [Dir.get?_write]
    rcases getElem?_concat.1 ha with hold | ⟨rfl, rfl⟩
    · by_cases hname : a.envelope.id = (q.envelope crypto account).id
      · left
        exact ⟨s.accepted.length, ⟨q.envelope crypto account, q.key⟩, lt_of_getElem? hold,
          getElem?_concat.2 (Or.inr ⟨rfl, rfl⟩), hname.symm⟩
      · rw [if_neg hname]
        rcases h.kept v a hold with ⟨w, b, hw, hb, hid⟩ | hrest
        · exact Or.inl ⟨w, b, hw, getElem?_concat.2 (Or.inl hb), hid⟩
        · exact Or.inr hrest
    · right
      right
      rw [if_pos rfl]
      exact ⟨_, rfl, rfl⟩

lemma Outbox.Kept.step (h : s.Kept) (hok : s.Ok crypto.cipher) (hi : Sound crypto s i) :
    (i.apply crypto s).Kept := by
  cases i with
  | enqueue q =>
    rcases enqueue_cases crypto q s with hsame | ⟨account, haccount, hsize, hnew⟩
    · rw [hsame]
      exact h
    · rw [hnew]
      exact h.accept (hi account haccount hsize)
  | drain limit seg => exact h.drain hok limit hi
  | resolve k fails seg => exact h.resolve hok k fails hi
  | reject k fails now nonce seg =>
    exact h.reject hok k fails now nonce seg hi
  | settle k =>
    show (settleDrain k s).Kept
    unfold settleDrain
    split
    · exact ⟨h.bounded, h.kept⟩
    · exact h

/-! ## runs -/

lemma Outbox.Ok.run (h : Along (OutboxStep.apply crypto) (Fresh crypto) Outbox.empty l) :
    (run (OutboxStep.apply crypto) Outbox.empty l).Ok crypto.cipher :=
  h.invariant (I := fun s => s.Ok crypto.cipher) (fun s i hs hi => hs.step hi)
    (Outbox.ok_empty crypto.cipher)

lemma Outbox.Kept.run (h : Along (OutboxStep.apply crypto) (Fresh crypto) Outbox.empty l)
    (h' : Along (OutboxStep.apply crypto) (Sound crypto) Outbox.empty l) :
    (run (OutboxStep.apply crypto) Outbox.empty l).Kept := by
  have hboth := (along_and _ _).2 ⟨h, h'⟩
  exact (hboth.invariant (I := fun s => s.Ok crypto.cipher ∧ s.Kept)
    (fun s i hs hi => ⟨hs.1.step hi.1, hs.2.step hs.1 hi.2⟩)
    ⟨Outbox.ok_empty crypto.cipher, Outbox.kept_empty⟩).2

lemma Outbox.Ok.readBack (h : s.Ok c) (hkept : s.Kept) (hf : s.dir.get? file = some f)
    (ha : s.IsVersion f.version a) :
    ∃ e, (readBoundedFile f.content).bind (decrypt c) = .ok e ∧ a.envelope.Same e := by
  obtain ⟨nonce, e, b, -, hcontent, -, hb, hsame, -⟩ := h.files file f hf
  have hbound := hkept.bounded file f hf
  have hab : a = b := Option.some.inj (ha.symm.trans hb)
  subst hab
  rw [hcontent, byteLength_storedText] at hbound
  refine ⟨e, ?_, hsame⟩
  rw [hcontent]
  exact (readBack_iff c nonce e).2 hbound

lemma accepted_goOn (c : Cipher) (seg : Segment) (k dueLimit attemptedDue delivered pending : ℕ)
    (todo : List Text) (s : Outbox) :
    (goOn c seg k dueLimit attemptedDue delivered pending todo s).accepted = s.accepted := by
  unfold goOn
  split <;> rfl

lemma accepted_apply (h : ∀ q, i ≠ .enqueue q) :
    (i.apply crypto s).accepted = s.accepted := by
  cases i with
  | enqueue q => exact absurd rfl (h q)
  | drain limit seg =>
    show (Sidecar.drain crypto.cipher limit seg s).accepted = s.accepted
    unfold drain
    split
    · rfl
    · rw [accepted_goOn]
  | resolve k fails seg =>
    show (resolveSend crypto.cipher k fails seg s).accepted = s.accepted
    unfold resolveSend
    split
    · rfl
    · rw [accepted_goOn]
  | reject k fails now nonce seg =>
    show (rejectSend crypto.cipher k fails now nonce seg s).accepted = s.accepted
    unfold rejectSend
    split
    · rfl
    · dsimp only
      split
      · split
        · rfl
        · rw [accepted_goOn]
      · rw [accepted_goOn]
  | settle k =>
    show (settleDrain k s).accepted = s.accepted
    unfold settleDrain
    split <;> rfl

lemma drain_lost (hacc : assertSafeAccountId q.accountId = .ok account)
    (hsize : byteLength (q.envelope crypto account).plaintext ≤ maxCallbackFileBytes) (limit : ℤ)
    (seg : Segment)
    (h : seg.readFails (q.id crypto) = true ∨
      maxCallbackFileBytes < fileSize (q.envelope crypto account)) :
    ∃ s, run (OutboxStep.apply crypto) Outbox.empty [.enqueue q, .drain limit seg, .settle 0] = s ∧
      s.dir.get? (q.id crypto) = none ∧ s.deliveries = [] ∧ s.drainInFlight = none ∧
      s.accepted = [⟨q.envelope crypto account, q.key⟩] := by
  have hloop : ∀ dueLimit, drainFiles crypto.cipher seg dueLimit 0 0 [q.id crypto] 0
      (Outbox.empty.accept crypto q account).dir =
        (.finished 0 0, (Outbox.empty.accept crypto q account).dir.remove (q.id crypto)) := by
    intro dueLimit
    have hget : (Outbox.empty.accept crypto q account).dir.get? (q.id crypto) =
        some ⟨storedText crypto.cipher q.nonce (q.envelope crypto account), 0⟩ := by
      unfold Outbox.accept
      dsimp only
      rw [Dir.get?_write]
      exact if_pos rfl
    unfold drainFiles
    rw [hget]
    dsimp only
    by_cases hfails : seg.readFails (q.id crypto) = true
    · rw [if_pos hfails]
      unfold drainFiles
      rfl
    · rw [if_neg hfails]
      have hsize : maxCallbackFileBytes < fileSize (q.envelope crypto account) :=
        h.resolve_left hfails
      have hread : readBoundedFile (storedText crypto.cipher q.nonce (q.envelope crypto account)) =
          .error "callback_outbox_file_size_invalid" := by
        unfold readBoundedFile
        rw [byteLength_storedText, if_pos (Or.inr hsize)]
      rw [hread]
      dsimp only
      unfold drainFiles
      rfl
  have hnames : spoolNames (Outbox.empty.accept crypto q account).dir = [q.id crypto] := by
    unfold Outbox.accept
    dsimp only
    rfl
  have hnone : (Outbox.empty.accept crypto q account).drainInFlight = none := rfl
  have hrun : run (OutboxStep.apply crypto) Outbox.empty
      [.enqueue q, .drain limit seg, .settle 0] =
        settleDrain 0 (drain crypto.cipher limit seg (Outbox.empty.accept crypto q account)) := by
    rw [← apply_enqueue hacc hsize Outbox.empty]
    rfl
  refine ⟨_, hrun, ?_⟩
  unfold drain
  rw [hnone]
  dsimp only
  rw [hnames]
  unfold goOn
  dsimp only
  rw [hloop]
  dsimp only
  unfold settleDrain
  rw [if_pos ⟨rfl, rfl⟩]
  refine ⟨?_, rfl, rfl, rfl⟩
  dsimp only
  rw [Dir.get?_remove, if_pos rfl]

/-! ## callbacks of one account -/

def plainCipher : Cipher where
  encrypt _ p := (p, List.replicate 16 0)
  decrypt _ p _ := some p
  length_ciphertext _ _ := rfl
  length_tag _ _ := rfl
  decrypt_encrypt _ _ := rfl

def waMain : AccountId := ⟨"wa-main".toList, by decide +kernel⟩

/-- the digest of `status:wa-main`. -/
def deskCrypto : Crypto where
  cipher := plainCipher
  sha256 _ := "c6c4174f6b8417696421269205459be0cbf029bd4c32e75016a7258d9e958737".toList

def waMainCall (kind : CallbackKind) (key : Option Text) (draw : UInt8) (payload : Json) :
    Enqueue where
  kind := kind
  accountId := "wa-main".toList
  payload := payload
  dedupeKey := key
  idNow := 1000
  dueNow := 1000
  createdAt := "1970-01-01T00:00:01.000Z".toList
  uuid := "5f0c5a3e-0f5b-4b5c-9d3e-2b8f1c7a6e10".toList
  nonce := ⟨List.replicate 12 draw, rfl⟩

def statusCall (draw : UInt8) (payload : Json) : Enqueue :=
  waMainCall .status (some "status:wa-main".toList) draw payload

def inboundCall (draw : UInt8) (payload : Json) : Enqueue := waMainCall .inbound none draw payload

def readable : Segment := ⟨fun _ => 2000, fun _ => false, fun _ => false⟩

/-- reads that fail with an I/O error. -/
def unreadable : Segment := ⟨fun _ => 2000, fun _ => true, fun _ => false⟩

def longText : Json := .str (List.replicate 200000 'a')

lemma byteLength_longText : byteLength longText.text = 200002 := by
  have hplain : ∀ n, byteLength ((List.replicate n 'a').flatMap Json.escape) = n := by
    intro n
    induction n with
    | zero => rfl
    | succ n ih =>
      have hesc : byteLength (Json.escape 'a') = 1 := by decide
      rw [List.replicate_succ, List.flatMap_cons, byteLength_append, ih, hesc]
      omega
  have hquote : Char.utf8Size '"' = 1 := by decide
  unfold longText
  rw [text_str]
  unfold Json.strText
  rw [byteLength_cons, byteLength_append, byteLength_cons, byteLength_nil, hplain, hquote]

lemma assertSafeAccountId_waMain : assertSafeAccountId "wa-main".toList = .ok waMain := by
  exact assertSafeAccountId_chars waMain

lemma waMainCall_size (kind : CallbackKind) (key : Option Text) (draw : UInt8) (payload : Json) :
    byteLength ((waMainCall kind key draw payload).envelope deskCrypto waMain).plaintext =
      byteLength (Json.strText ((waMainCall kind key draw payload).id deskCrypto)) +
      byteLength (Json.strText kind.text) + byteLength payload.text + 163 := by
  have hrest : byteLength (Json.strText waMain.chars) = 9 ∧
      byteLength (Json.intText ((0 : ℕ) : ℤ)) = 1 ∧ byteLength (Json.intText 1000) = 4 ∧
      byteLength (Json.strText "1970-01-01T00:00:01.000Z".toList) = 26 := by decide +kernel
  obtain ⟨h₁, h₂, h₃, h₄⟩ := hrest
  rw [byteLength_plaintext]
  unfold Enqueue.envelope
  generalize (waMainCall kind key draw payload).id deskCrypto = id
  unfold waMainCall
  dsimp only
  rw [h₁, h₂, h₃, h₄]
  omega

lemma statusCall_size (draw : UInt8) (payload : Json) :
    byteLength ((statusCall draw payload).envelope deskCrypto waMain).plaintext =
      byteLength payload.text + 249 ∧
    fileSize ((statusCall draw payload).envelope deskCrypto waMain) =
      4 * ((byteLength payload.text + 251) / 3) + 214 := by
  have hid : byteLength (Json.strText ((statusCall draw payload).id deskCrypto)) = 78 := by
    show byteLength (Json.strText ("replaceable-".toList ++ deskCrypto.sha256 [])) = 78
    decide +kernel
  have hkind : byteLength (Json.strText CallbackKind.status.text) = 8 := by decide +kernel
  have hsize : byteLength ((statusCall draw payload).envelope deskCrypto waMain).plaintext =
      byteLength payload.text + 249 := by
    unfold statusCall at hid ⊢
    rw [waMainCall_size, hid, hkind]
    omega
  refine ⟨hsize, ?_⟩
  have hname : byteLength (Json.strText ((statusCall draw payload).envelope deskCrypto waMain).id) =
    78 := hid
  unfold fileSize
  rw [hsize, hname]
  omega

lemma inboundCall_size (draw : UInt8) (payload : Json) :
    byteLength ((inboundCall draw payload).envelope deskCrypto waMain).plaintext =
      byteLength payload.text + 215 ∧
    fileSize ((inboundCall draw payload).envelope deskCrypto waMain) =
      4 * ((byteLength payload.text + 217) / 3) + 179 := by
  have hid : byteLength (Json.strText ((inboundCall draw payload).id deskCrypto)) = 43 := by
    show byteLength (Json.strText ((inboundCall 0 .null).id deskCrypto)) = 43
    decide +kernel
  have hkind : byteLength (Json.strText CallbackKind.inbound.text) = 9 := by decide +kernel
  have hsize : byteLength ((inboundCall draw payload).envelope deskCrypto waMain).plaintext =
      byteLength payload.text + 215 := by
    unfold inboundCall at hid ⊢
    rw [waMainCall_size, hid, hkind]
    omega
  refine ⟨hsize, ?_⟩
  have hname : byteLength (Json.strText ((inboundCall draw payload).envelope deskCrypto waMain).id) =
    43 := hid
  unfold fileSize
  rw [hsize, hname]
  omega

/-- two statuses, of which the second replaces the first and is sent. -/
def statusRun : List OutboxStep :=
  [.enqueue (statusCall 1 (.bool false)), .enqueue (statusCall 2 (.bool true)), .drain 100 readable,
    .resolve 0 false readable, .settle 0]

lemma fits_statusCall {draw : UInt8} {payload : Json} (h : byteLength payload.text ≤ 5) :
    byteLength ((statusCall draw payload).envelope deskCrypto waMain).plaintext ≤
      maxCallbackFileBytes ∧ Fits ((statusCall draw payload).envelope deskCrypto waMain) := by
  obtain ⟨hplain, hfile⟩ := statusCall_size draw payload
  unfold Fits
  rw [hplain, hfile]
  unfold maxCallbackFileBytes
  omega

lemma statusRun_fresh :
    Along (OutboxStep.apply deskCrypto) (Fresh deskCrypto) Outbox.empty statusRun := by
  have hfirst : (OutboxStep.enqueue (statusCall 1 (.bool false))).apply deskCrypto Outbox.empty =
      Outbox.empty.accept deskCrypto (statusCall 1 (.bool false)) waMain :=
    apply_enqueue assertSafeAccountId_waMain (fits_statusCall (by decide)).1 _
  refine ⟨⟨List.not_mem_nil, fun a ha => by cases ha⟩, ?_, trivial, trivial, trivial, trivial⟩
  rw [hfirst]
  refine ⟨?_, ?_⟩
  · intro hmem
    have heq := congrArg Nonce.bytes (List.mem_singleton.1 hmem)
    exact absurd heq (by decide)
  · intro a ha _
    have heq := List.mem_singleton.1 ha
    subst heq
    exact ⟨rfl, rfl⟩

lemma statusRun_accepted :
    (run (OutboxStep.apply deskCrypto) Outbox.empty statusRun).accepted =
      [⟨(statusCall 1 (.bool false)).envelope deskCrypto waMain, some "status:wa-main".toList⟩,
        ⟨(statusCall 2 (.bool true)).envelope deskCrypto waMain, some "status:wa-main".toList⟩] := by
  have hcall : ∀ draw payload s, byteLength payload.text ≤ 5 →
      (OutboxStep.enqueue (statusCall draw payload)).apply deskCrypto s =
        s.accept deskCrypto (statusCall draw payload) waMain := fun draw payload s hlen =>
    apply_enqueue assertSafeAccountId_waMain (fits_statusCall hlen).1 s
  simp only [statusRun, run]
  rw [accepted_apply (by simp), accepted_apply (by simp), accepted_apply (by simp),
    hcall 1 _ _ (by decide), hcall 2 _ _ (by decide)]
  rfl

lemma statusRun_sound :
    Along (OutboxStep.apply deskCrypto) (Sound deskCrypto) Outbox.empty statusRun := by
  have hcall : ∀ draw payload, byteLength payload.text ≤ 5 → ∀ account,
      assertSafeAccountId (statusCall draw payload).accountId = .ok account →
        Fits ((statusCall draw payload).envelope deskCrypto account) := by
    intro draw payload hlen account hacc
    have heq : waMain = account := Except.ok.inj (assertSafeAccountId_waMain.symm.trans hacc)
    subst heq
    exact (fits_statusCall hlen).2
  exact ⟨hcall 1 _ (by decide), hcall 2 _ (by decide), fun _ _ => rfl, fun _ _ _ _ => rfl, trivial,
    trivial⟩

theorem accepted_kept (crypto : Crypto) (l : List OutboxStep)
    (hfresh : Along (OutboxStep.apply crypto) (Fresh crypto) Outbox.empty l)
    (hsound : Along (OutboxStep.apply crypto) (Sound crypto) Outbox.empty l) :
    (∀ nonce e content, write crypto.cipher nonce e = .ok content →
      ((readBoundedFile content).bind (decrypt crypto.cipher) = .ok e ↔
        fileSize e ≤ maxCallbackFileBytes)) ∧
    ∀ v a, (run (OutboxStep.apply crypto) Outbox.empty l).IsVersion v a →
      (∃ w b, v < w ∧ (run (OutboxStep.apply crypto) Outbox.empty l).IsVersion w b ∧
        b.dedupeKey = a.dedupeKey ∧ a.dedupeKey.isSome = true) ∨
      (∃ d ∈ (run (OutboxStep.apply crypto) Outbox.empty l).deliveries,
        d.version = v ∧ a.envelope.Same d.envelope) ∨
      ∃ f e, (run (OutboxStep.apply crypto) Outbox.empty l).dir.get? a.envelope.id = some f ∧
        f.version = v ∧ (readBoundedFile f.content).bind (decrypt crypto.cipher) = .ok e ∧
        a.envelope.Same e := by
  have hok := Outbox.Ok.run hfresh
  have hkept := Outbox.Kept.run hfresh hsound
  constructor
  · intro nonce e content hwrite
    obtain ⟨rfl, -⟩ := write_ok hwrite
    exact readBack_iff crypto.cipher nonce e
  · intro v a ha
    rcases hkept.kept v a ha with ⟨w, b, hw, hb, hid⟩ | ⟨d, hd, hv⟩ | ⟨f, hf, hv⟩
    · left
      obtain ⟨hkey, hsome⟩ := hok.keys v w a b hw ha hb hid.symm
      rw [← hkey] at hsome
      exact ⟨w, b, hw, hb, hkey.symm, hsome⟩
    · right
      left
      obtain ⟨⟨a', ha', hsame⟩, -⟩ := hok.delivered d hd
      rw [hv] at ha'
      have heq : a = a' := Option.some.inj (ha.symm.trans ha')
      subst heq
      exact ⟨d, hd, hv, hsame⟩
    · right
      right
      rw [← hv] at ha
      obtain ⟨e, hread, hsame⟩ := hok.readBack hkept hf ha
      exact ⟨f, e, hf, hv, hread, hsame⟩

theorem statusRun_kept :
    (run (OutboxStep.apply deskCrypto) Outbox.empty statusRun).IsVersion 1
        ⟨(statusCall 2 (.bool true)).envelope deskCrypto waMain, some "status:wa-main".toList⟩ ∧
      ((∃ w b, 1 < w ∧ (run (OutboxStep.apply deskCrypto) Outbox.empty statusRun).IsVersion w b ∧
        b.dedupeKey = some "status:wa-main".toList ∧
        (some "status:wa-main".toList).isSome = true) ∨
      (∃ d ∈ (run (OutboxStep.apply deskCrypto) Outbox.empty statusRun).deliveries,
        d.version = 1 ∧
          ((statusCall 2 (.bool true)).envelope deskCrypto waMain).Same d.envelope) ∨
      ∃ f e, (run (OutboxStep.apply deskCrypto) Outbox.empty statusRun).dir.get?
          ((statusCall 2 (.bool true)).id deskCrypto) = some f ∧ f.version = 1 ∧
        (readBoundedFile f.content).bind (decrypt plainCipher) = .ok e ∧
        ((statusCall 2 (.bool true)).envelope deskCrypto waMain).Same e) := by
  have hversion : (run (OutboxStep.apply deskCrypto) Outbox.empty statusRun).IsVersion 1
      ⟨(statusCall 2 (.bool true)).envelope deskCrypto waMain, some "status:wa-main".toList⟩ := by
    unfold Outbox.IsVersion
    rw [statusRun_accepted]
    rfl
  exact ⟨hversion,
    (accepted_kept deskCrypto statusRun statusRun_fresh statusRun_sound).2 1 _ hversion⟩

/-- a message of 200000 characters is accepted and lost; so is a short one that cannot be read
once. -/
theorem inbound_message_lost :
    (∃ content, write plainCipher (inboundCall 7 longText).nonce
        ((inboundCall 7 longText).envelope deskCrypto waMain) = .ok content ∧
      (readBoundedFile content).bind (decrypt plainCipher) ≠
        .ok ((inboundCall 7 longText).envelope deskCrypto waMain)) ∧
    (∃ s, run (OutboxStep.apply deskCrypto) Outbox.empty
        [.enqueue (inboundCall 7 longText), .drain 100 readable, .settle 0] = s ∧
      s.accepted = [⟨(inboundCall 7 longText).envelope deskCrypto waMain, none⟩] ∧
      s.dir.get? ((inboundCall 7 longText).id deskCrypto) = none ∧ s.deliveries = []) ∧
    ∃ s, run (OutboxStep.apply deskCrypto) Outbox.empty
        [.enqueue (inboundCall 7 .null), .drain 100 unreadable, .settle 0] = s ∧
      s.accepted = [⟨(inboundCall 7 .null).envelope deskCrypto waMain, none⟩] ∧
      s.dir.get? ((inboundCall 7 .null).id deskCrypto) = none ∧ s.deliveries = [] := by
  have hlost : ∀ payload seg, byteLength payload.text ≤ 200002 →
      seg.readFails ((inboundCall 7 payload).id deskCrypto) = true ∨
        maxCallbackFileBytes < fileSize ((inboundCall 7 payload).envelope deskCrypto waMain) →
      ∃ s, run (OutboxStep.apply deskCrypto) Outbox.empty
          [.enqueue (inboundCall 7 payload), .drain 100 seg, .settle 0] = s ∧
        s.accepted = [⟨(inboundCall 7 payload).envelope deskCrypto waMain, none⟩] ∧
        s.dir.get? ((inboundCall 7 payload).id deskCrypto) = none ∧ s.deliveries = [] := by
    intro payload seg hlen hbad
    have hsize : byteLength ((inboundCall 7 payload).envelope deskCrypto waMain).plaintext ≤
        maxCallbackFileBytes := by
      rw [(inboundCall_size 7 payload).1]
      unfold maxCallbackFileBytes
      omega
    obtain ⟨s, hs, hgone, hdeliveries, -, haccepted⟩ :=
      drain_lost assertSafeAccountId_waMain hsize 100 seg hbad
    exact ⟨s, hs, haccepted, hgone, hdeliveries⟩
  have hlong := inboundCall_size 7 longText
  rw [byteLength_longText] at hlong
  have hover : maxCallbackFileBytes < fileSize ((inboundCall 7 longText).envelope deskCrypto waMain) := by
    rw [hlong.2]
    decide
  refine ⟨?_, ?_, ?_⟩
  · refine ⟨storedText plainCipher (inboundCall 7 longText).nonce
      ((inboundCall 7 longText).envelope deskCrypto waMain), ?_, ?_⟩
    · unfold write
      rw [if_neg]
      rw [hlong.1]
      unfold maxCallbackFileBytes
      omega
    · intro hback
      have hle := (readBack_iff plainCipher _ _).1 hback
      omega
  · apply hlost
    · rw [byteLength_longText]
    · exact Or.inr hover
  · apply hlost
    · decide
    · exact Or.inl rfl

/-! ## the last version of a key -/

lemma Outbox.Ok.delivered_le (h : s.Ok c) (ha : s.IsVersion v a)
    (hlast : ∀ w b, v < w → s.IsVersion w b → b.dedupeKey ≠ a.dedupeKey) (hd : d ∈ s.deliveries)
    (hid : d.envelope.id = a.envelope.id) : d.version ≤ v := by
  obtain ⟨⟨b, hb, hsame⟩, -⟩ := h.delivered d hd
  by_contra hlt
  have hkeys := h.keys v d.version a b (by omega) ha hb (hid.symm.trans hsame.1.symm)
  exact hlast d.version b (by omega) hb hkeys.1.symm

lemma Outbox.Ok.getLast_delivery (h : s.Ok c) (ha : s.IsVersion v a)
    (hlast : ∀ w b, v < w → s.IsVersion w b → b.dedupeKey ≠ a.dedupeKey) (hd : d ∈ s.deliveries)
    (hv : d.version = v) :
    ∃ d', (s.deliveries.filter fun x => x.envelope.id = a.envelope.id).getLast? = some d' ∧
      d'.version = v ∧ a.envelope.Same d'.envelope := by
  have hsame : ∀ x ∈ s.deliveries, x.version = v → a.envelope.Same x.envelope := by
    intro x hx hxv
    obtain ⟨⟨b, hb, hsame⟩, -⟩ := h.delivered x hx
    rw [hxv] at hb
    have hab : a = b := Option.some.inj (ha.symm.trans hb)
    subst hab
    exact hsame
  have hordered := h.ordered.filter fun x => decide (x.envelope.id = a.envelope.id)
  have hmem : d ∈ s.deliveries.filter fun x => x.envelope.id = a.envelope.id := by
    rw [List.mem_filter]
    exact ⟨hd, by simpa using (hsame d hd hv).1.symm⟩
  have hall : ∀ x ∈ s.deliveries.filter fun x => x.envelope.id = a.envelope.id,
      x ∈ s.deliveries ∧ x.envelope.id = a.envelope.id := by
    intro x hx
    rw [List.mem_filter] at hx
    exact ⟨hx.1, by simpa using hx.2⟩
  rcases List.eq_nil_or_concat (s.deliveries.filter fun x => x.envelope.id = a.envelope.id) with
    hnil | ⟨rest, last, hconcat⟩
  · rw [hnil] at hmem
    cases hmem
  · rw [List.concat_eq_append] at hconcat
    rw [hconcat] at hordered hmem hall ⊢
    have hlastMem := hall last (List.mem_append_right _ (List.mem_singleton.2 rfl))
    have hle : last.version ≤ v := h.delivered_le ha hlast hlastMem.1 hlastMem.2
    have hge : v ≤ last.version := by
      rcases List.mem_append.1 hmem with hold | hnew
      · have hpair := (List.pairwise_append.1 hordered).2.2 d hold last (List.mem_singleton.2 rfl)
        rw [← hv]
        apply hpair
        rw [(hall d (List.mem_append_left _ hold)).2, hlastMem.2]
      · rw [List.mem_singleton] at hnew
        rw [← hv, hnew]
    refine ⟨last, List.getLast?_concat .., by omega, ?_⟩
    exact hsame last hlastMem.1 (by omega)

theorem latest_status_wins (crypto : Crypto) (l : List OutboxStep)
    (hfresh : Along (OutboxStep.apply crypto) (Fresh crypto) Outbox.empty l) :
    (run (OutboxStep.apply crypto) Outbox.empty l).running.length ≤ 1 ∧
    ((run (OutboxStep.apply crypto) Outbox.empty l).deliveries.Pairwise fun d d' =>
      d.envelope.id = d'.envelope.id → d.version ≤ d'.version) ∧
    (Along (OutboxStep.apply crypto) (Sound crypto) Outbox.empty l →
      ∀ key v a, (run (OutboxStep.apply crypto) Outbox.empty l).IsVersion v a →
        a.dedupeKey = some key →
        (∀ w b, v < w → (run (OutboxStep.apply crypto) Outbox.empty l).IsVersion w b →
          b.dedupeKey ≠ some key) →
        (run (OutboxStep.apply crypto) Outbox.empty l).dir.get? a.envelope.id = none →
        ∃ d, ((run (OutboxStep.apply crypto) Outbox.empty l).deliveries.filter
          fun d => d.envelope.id = a.envelope.id).getLast? = some d ∧
          d.version = v ∧ a.envelope.Same d.envelope) := by
  have hok := Outbox.Ok.run hfresh
  refine ⟨?_, hok.ordered, ?_⟩
  · rcases hok.exclusive with hnil | ⟨k, op, hone, -⟩
    · rw [hnil]
      exact Nat.zero_le _
    · rw [hone]
      exact le_refl _
  · intro hsound key v a ha hkey hlast hgone
    rw [← hkey] at hlast
    have hkept := Outbox.Kept.run hfresh hsound
    rcases hkept.kept v a ha with ⟨w, b, hw, hb, hid⟩ | ⟨d, hd, hv⟩ | ⟨f, hf, -⟩
    · have hkeys := hok.keys v w a b hw ha hb hid.symm
      exact absurd hkeys.1.symm (hlast w b hw hb)
    · exact hok.getLast_delivery ha hlast hd hv
    · rw [hgone] at hf
      cases hf

theorem statusRun_latest :
    (run (OutboxStep.apply deskCrypto) Outbox.empty statusRun).running.length ≤ 1 ∧
    ∀ key v a, (run (OutboxStep.apply deskCrypto) Outbox.empty statusRun).IsVersion v a →
      a.dedupeKey = some key →
      (∀ w b, v < w → (run (OutboxStep.apply deskCrypto) Outbox.empty statusRun).IsVersion w b →
        b.dedupeKey ≠ some key) →
      (run (OutboxStep.apply deskCrypto) Outbox.empty statusRun).dir.get? a.envelope.id = none →
      ∃ d, ((run (OutboxStep.apply deskCrypto) Outbox.empty statusRun).deliveries.filter
        fun d => d.envelope.id = a.envelope.id).getLast? = some d ∧
        d.version = v ∧ a.envelope.Same d.envelope := by
  obtain ⟨hone, -, hlast⟩ := latest_status_wins deskCrypto statusRun statusRun_fresh
  exact ⟨hone, hlast statusRun_sound⟩

/-- the only version of a key is accepted, removed by the drain and never sent. -/
theorem long_status_lost :
    ∃ s, run (OutboxStep.apply deskCrypto) Outbox.empty
        [.enqueue (statusCall 1 longText), .drain 100 readable, .settle 0] = s ∧
      s.accepted = [⟨(statusCall 1 longText).envelope deskCrypto waMain,
        some "status:wa-main".toList⟩] ∧
      s.drainInFlight = none ∧ s.dir.get? ((statusCall 1 longText).id deskCrypto) = none ∧
      s.deliveries = [] := by
  obtain ⟨hplain, hfile⟩ := statusCall_size 1 longText
  rw [byteLength_longText] at hplain hfile
  have hsize : byteLength ((statusCall 1 longText).envelope deskCrypto waMain).plaintext ≤
      maxCallbackFileBytes := by
    rw [hplain]
    unfold maxCallbackFileBytes
    omega
  have hover : maxCallbackFileBytes <
      fileSize ((statusCall 1 longText).envelope deskCrypto waMain) := by
    rw [hfile]
    unfold maxCallbackFileBytes
    omega
  obtain ⟨s, hs, hgone, hdeliveries, hidle, haccepted⟩ :=
    drain_lost assertSafeAccountId_waMain hsize 100 readable (Or.inr hover)
  exact ⟨s, hs, haccepted, hidle, hgone, hdeliveries⟩

end NexusHelpdesk.Sidecar
