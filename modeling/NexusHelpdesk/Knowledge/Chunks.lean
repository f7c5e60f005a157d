import NexusHelpdesk.Desk.Words

/-!
# Cutting a document into chunks

`chunk_document_text` (`knowledge_retrieval_service.py`) with `_split_long_text` and
`normalize_document_text`.  Paragraphs gather in an open chunk while they fit; a paragraph that
does not fit opens the next chunk behind the end of the last one; a paragraph that is too long for
a chunk is cut by a sliding window.

* `Piece`, `Overlaps`: a chunk before it is stripped, what it repeats and what it adds;
* `pieces_of_window`, `word_in_window`: the sliding window, from any start;
* `Cuts`, `foldl_cuts`: **what the loop keeps**;
* `chunks_keep_text`: the chunks hold the text, whatever its paragraphs.
-/

namespace NexusHelpdesk.Knowledge
open PyStr

/-- `re.sub(r"\s+", " ", value).strip()`: the words, one space between. -/
def normalizeDocumentText (value : List Char) : List Char := collapse value

def slice (text : List Char) (start stop : ℕ) : List Char := (text.take stop).drop start

/-- `_split_long_text` from `start` on. -/
def splitFrom (text : List Char) (maxChars overlapChars start : ℕ) : List (List Char) :=
  if start < text.length then
    let stop := min text.length (start + maxChars)
    stripChars (slice text start stop) ::
      if text.length ≤ stop then []
      else splitFrom text maxChars overlapChars (max (start + 1) (stop - overlapChars))
  else []
termination_by text.length - start

def splitLongText (text : List Char) (maxChars overlapChars : ℕ) : List (List Char) :=
  splitFrom text maxChars overlapChars 0

/-- `re.split(r"\n{2,}", text)`; the flag tells that a break is being read. -/
def splitBreaks : Bool → List Char → List (List Char)
  | true, '\n' :: text => splitBreaks true text
  | false, '\n' :: '\n' :: text => [] :: splitBreaks true text
  | _, c :: text => (splitBreaks false text).modifyHead (c :: ·)
  | _, [] => [[]]

def paragraphBreak : List Char := ['\n', '\n']

/-- `if current: chunks.append(current)`. -/
def flush (chunks : List (List Char)) (current : List Char) : List (List Char) :=
  if current = [] then chunks else chunks ++ [current]

/-- one turn of the loop, on the chunks and the open chunk. -/
def addParagraph (maxChars overlapChars : ℕ) (s : List (List Char) × List Char)
    (paragraph : List Char) : List (List Char) × List Char :=
  let (chunks, current) := s
  let cleaned := normalizeDocumentText paragraph
  if cleaned = [] then s
  else if maxChars < cleaned.length then
    (flush chunks current ++ splitLongText cleaned maxChars overlapChars, [])
  else
    let candidate :=
      if current = [] then cleaned else stripChars (current ++ (paragraphBreak ++ cleaned))
    if candidate.length ≤ maxChars then (chunks, candidate)
    else
      -- what is opened here is not measured against `maxChars`
      let overlap :=
        if 0 < overlapChars then stripChars (current.drop (current.length - overlapChars)) else []
      (chunks ++ [current],
        if overlap = [] then cleaned else stripChars (overlap ++ (paragraphBreak ++ cleaned)))

/-- the paragraphs the loop goes through. -/
def paragraphsOf (text : List Char) : List (List Char) :=
  let parts := ((splitBreaks false text).map stripChars).filter (· ≠ [])
  if parts.length ≤ 1 then [normalizeDocumentText text] else parts

def chunkDocumentText (text : List Char) (maxChars overlapChars : ℕ) : List (List Char) :=
  if normalizeDocumentText text = [] then []
  else
    let s := (paragraphsOf text).foldl (addParagraph maxChars overlapChars) ([], [])
    (flush s.1 s.2).filter fun item => normalizeDocumentText item ≠ []

/-! ## pieces -/

/-- a chunk before it is stripped: what it repeats of the piece before, and what it adds. -/
structure Piece where
  lead : List Char
  body : List Char

def Piece.raw (p : Piece) : List Char := p.lead ++ p.body

def Piece.chunk (p : Piece) : List Char := stripChars p.raw

/-- a piece opens with at most `overlapChars` characters from the end of the one before. -/
def Overlaps (overlapChars : ℕ) (p q : Piece) : Prop :=
  q.lead <:+ p.raw ∧ q.lead.length ≤ overlapChars

/-- only a chunk that opens a paragraph behind repeated text may be longer than `maxChars`. -/
def Sized (maxChars : ℕ) (p : Piece) : Prop :=
  p.chunk.length ≤ maxChars ∨ p.lead ≠ [] ∧ paragraphBreak <+: p.body

variable {text w : List Char} {m k : ℕ}

/-! ## the sliding window -/

lemma slice_append {a b c : ℕ} (hab : a ≤ b) (hbc : b ≤ c) :
    slice text a b ++ slice text b c = slice text a c := by
  unfold slice
  have h := List.take_append_drop (b - a) ((text.take c).drop a)
  rw [List.drop_drop, Nat.add_sub_cancel' hab, List.take_drop, Nat.add_sub_cancel' hab,
    List.take_take, Nat.min_eq_left hbc] at h
  exact h

lemma length_slice_le (text : List Char) (a b : ℕ) : (slice text a b).length ≤ b - a := by
  unfold slice
  rw [List.length_drop, List.length_take]
  omega

lemma slice_suffix {a b c : ℕ} (hab : a ≤ b) (hbc : b ≤ c) :
    slice text b c <:+ slice text a c := ⟨slice text a b, slice_append hab hbc⟩

lemma slice_infix {a i j b : ℕ} (hai : a ≤ i) (hij : i ≤ j) (hjb : j ≤ b) :
    slice text i j <:+: slice text a b := by
  refine ⟨slice text a i, slice text j b, ?_⟩
  rw [slice_append hai hij, slice_append (hai.trans hij) hjb]

/-- the windows after `start`, where the text is read up to `seen`. -/
lemma pieces_of_window (h : k < m) (start : ℕ) : ∀ (seen : ℕ) (prev : Piece),
    start ≤ seen → seen ≤ start + k → seen ≤ text.length → start < text.length →
    slice text start seen <:+ prev.raw →
    ∃ ps : List Piece, splitFrom text m k start = ps.map Piece.chunk ∧
      List.IsChain (Overlaps k) (prev :: ps) ∧ (∀ p ∈ ps, p.chunk.length ≤ m) ∧
      ps.flatMap Piece.body = slice text seen text.length := by
  induction hn : text.length - start using Nat.strong_induction_on generalizing start with
  | _ n ih =>
    intro seen prev hstart hseen hread hlt hprev
    rw [splitFrom, if_pos hlt]
    dsimp only
    generalize hstop : min text.length (start + m) = stop
    have hraw : Piece.raw ⟨slice text start seen, slice text seen stop⟩ = slice text start stop :=
      slice_append hstart (by omega)
    have hsize : (Piece.chunk ⟨slice text start seen, slice text seen stop⟩).length ≤ m := by
      refine (length_stripChars_le _).trans ?_
      rw [hraw]
      have := length_slice_le text start stop
      omega
    have hover : Overlaps k prev ⟨slice text start seen, slice text seen stop⟩ := by
      have := length_slice_le text start seen
      exact ⟨hprev, by dsimp only; omega⟩
    by_cases hend : text.length ≤ stop
    · rw [if_pos hend]
      refine ⟨[⟨slice text start seen, slice text seen stop⟩], ?_, ?_, ?_, ?_⟩
      · rw [List.map_singleton, Piece.chunk, hraw]
      · exact List.isChain_cons.2 ⟨by simpa using hover, List.isChain_singleton _⟩
      · simpa using hsize
      · rw [show text.length = stop by omega]
        simp
    · rw [if_neg hend, show max (start + 1) (stop - k) = stop - k by omega]
      obtain ⟨ps, hps, hchain, hsized, hbody⟩ := ih (text.length - (stop - k)) (by omega)
        (stop - k) rfl stop ⟨slice text start seen, slice text seen stop⟩
        (by omega) (by omega) (by omega) (by omega)
        (hraw ▸ slice_suffix (by omega) (by omega))
      refine ⟨⟨slice text start seen, slice text seen stop⟩ :: ps, ?_, ?_, ?_, ?_⟩
      · rw [List.map_cons, ← hps, Piece.chunk, hraw]
      · exact List.isChain_cons.2 ⟨by simpa using hover, hchain⟩
      · exact List.forall_mem_cons.2 ⟨hsize, hsized⟩
      · rw [List.flatMap_cons, hbody]
        exact slice_append (by omega) (by omega)

lemma word_in_window (h : k < m) (hw : Solid w) (hlen : w.length ≤ k)
    {i : ℕ} (hi : slice text i (i + w.length) = w) (hin : i + w.length ≤ text.length)
    (hne : w ≠ []) (start : ℕ) (hstart : start ≤ i) :
    ∃ c ∈ splitFrom text m k start, w <:+: c := by
  have hpos := List.length_pos_of_ne_nil hne
  induction hn : text.length - start using Nat.strong_induction_on generalizing start with
  | _ n ih =>
    rw [splitFrom, if_pos (by omega)]
    dsimp only
    generalize hstop : min text.length (start + m) = stop
    by_cases hfit : i + w.length ≤ stop
    · refine ⟨_, List.mem_cons_self, infix_stripChars hw ?_⟩
      have hinfix : slice text i (i + w.length) <:+: slice text start stop :=
        slice_infix hstart (Nat.le_add_right i w.length) hfit
      rwa [hi] at hinfix
    · rw [if_neg (by omega), show max (start + 1) (stop - k) = stop - k by
        omega]
      obtain ⟨c, hc, hwc⟩ := ih (text.length - (stop - k)) (by omega)
        (stop - k) (by omega) rfl
      exact ⟨c, List.mem_cons_of_mem _ hc, hwc⟩

lemma split_splitBreaks (reading : Bool) (text : List Char) : ∀ before : List Char,
    (reading = true → before = []) →
    ((splitBreaks reading text).modifyHead (before ++ ·)).flatMap split =
      split (before ++ text) := by
  have hline : isSpace '\n' = true := rfl
  have hhead : ∀ L : List (List Char), L.modifyHead ([] ++ ·) = L := by
    intro L
    cases L <;> rfl
  induction reading, text using splitBreaks.induct with
  | case1 text ih =>
    intro before hbefore
    obtain rfl := hbefore rfl
    exact (ih [] fun _ => rfl).trans (split_append_blank hline [] text).symm
  | case2 text ih =>
    intro before hbefore
    have hrest := ih [] fun _ => rfl
    have hblank : split ('\n' :: text) = split text := split_append_blank hline [] text
    rw [hhead] at hrest
    rw [splitBreaks, List.modifyHead_cons, List.flatMap_cons, hrest, List.append_nil,
      split_append_blank hline, hblank]
    rfl
  | case3 reading c text h₁ h₂ ih =>
    intro before hbefore
    have hrest := ih (before ++ [c]) fun h => by cases h
    rw [List.append_assoc] at hrest
    rw [splitBreaks, List.modifyHead_modifyHead]
    · refine Eq.trans ?_ hrest
      congr 2
      funext p
      simp
    · exact h₁
    · exact h₂
  | case4 reading =>
    intro before hbefore
    unfold splitBreaks
    simp

lemma split_paragraphsOf (text : List Char) : (paragraphsOf text).flatMap split = split text := by
  unfold paragraphsOf
  dsimp only
  split
  · rw [List.flatMap_singleton]
    exact split_collapse text
  · have hall : ∀ L : List (List Char),
        ((L.map stripChars).filter (· ≠ [])).flatMap split = L.flatMap split := by
      intro L
      induction L with
      | nil => rfl
      | cons p L ih =>
        rw [List.map_cons, List.flatMap_cons, ← ih, ← split_stripChars p]
        by_cases hp : stripChars p = []
        · simp [hp, split_nil]
        · simp [hp]
    have hsplit := split_splitBreaks false text [] fun _ => rfl
    rw [hall]
    cases hparts : splitBreaks false text with
    | nil => rwa [hparts] at hsplit
    | cons p ps => rwa [hparts] at hsplit

/-! ## the loop -/

/-- `chunks` are the pieces, stripped; the pieces add the words `ws`, and every short one of them
stands in a chunk. -/
structure Cuts (m k : ℕ) (chunks : List (List Char)) (pieces : List Piece)
    (ws : List (List Char)) : Prop where
  cut : chunks = pieces.map Piece.chunk
  chained : List.IsChain (Overlaps k) (⟨[], []⟩ :: pieces)
  sized : ∀ p ∈ pieces, Sized m p
  words : split (pieces.flatMap Piece.body) = ws
  held : ∀ w ∈ ws, w.length ≤ k → ∃ c ∈ chunks, w <:+: c

/-- the open chunk is the piece `q`, but for blanks in front, and adds the words `vs`. -/
structure Opened (m k : ℕ) (pieces : List Piece) (current : List Char)
    (q : Piece) (vs : List (List Char)) : Prop where
  trim : Trim current
  ne : current ≠ []
  raw : ∃ pre, q.raw = pre ++ current ∧ Blank pre
  lead : ∀ x ∈ (⟨[], []⟩ :: pieces : List Piece).getLast?, Overlaps k x q
  sized : Sized m q
  words : ∀ before, split (before ++ q.body) = split before ++ vs
  held : ∀ w ∈ vs, w <:+: current

/-- what holds of the chunks and the open chunk once the words `ws` are read. -/
def Reads (m k : ℕ) (s : List (List Char) × List Char)
    (ws : List (List Char)) : Prop :=
  ∃ pieces us, Cuts m k s.1 pieces us ∧
    (s.2 = [] ∧ ws = us ∨
      ∃ q vs, Opened m k pieces s.2 q vs ∧ ws = us ++ vs)

variable {chunks : List (List Char)} {pieces ps : List Piece} {us vs ws : List (List Char)}
  {current overlap p : List Char} {q : Piece} {s : List (List Char) × List Char}

lemma Cuts.append (h : Cuts m k chunks pieces us)
    (hchain : List.IsChain (Overlaps k) ps)
    (hlead : ∀ x ∈ (⟨[], []⟩ :: pieces : List Piece).getLast?, ∀ y ∈ ps.head?,
      Overlaps k x y) (hsized : ∀ p ∈ ps, Sized m p)
    (hwords : ∀ before, split (before ++ ps.flatMap Piece.body) = split before ++ vs)
    (hheld : ∀ w ∈ vs, w.length ≤ k → ∃ c ∈ ps.map Piece.chunk, w <:+: c) :
    Cuts m k (chunks ++ ps.map Piece.chunk) (pieces ++ ps) (us ++ vs) := by
  refine ⟨?_, ?_, ?_, ?_, ?_⟩
  · rw [h.cut, List.map_append]
  · rw [← List.cons_append, List.isChain_append]
    exact ⟨h.chained, hchain, hlead⟩
  · intro p hp
    exact (List.mem_append.1 hp).elim (h.sized p) (hsized p)
  · rw [List.flatMap_append, hwords, h.words]
  · intro w hw hshort
    rcases List.mem_append.1 hw with hw | hw
    · obtain ⟨c, hc, hwc⟩ := h.held w hw hshort
      exact ⟨c, List.mem_append_left _ hc, hwc⟩
    · obtain ⟨c, hc, hwc⟩ := hheld w hw hshort
      exact ⟨c, List.mem_append_right _ hc, hwc⟩

lemma Opened.chunk (h : Opened m k pieces current q vs) : q.chunk = current := by
  obtain ⟨pre, hraw, hpre⟩ := h.raw
  rw [Piece.chunk, hraw, stripChars_blank_append hpre, stripChars_of_trim h.trim]

lemma Cuts.close (h : Cuts m k chunks pieces us)
    (hopen : Opened m k pieces current q vs) :
    Cuts m k (chunks ++ [current]) (pieces ++ [q]) (us ++ vs) := by
  have hchunk : [current] = [q].map Piece.chunk := by rw [List.map_singleton, hopen.chunk]
  rw [hchunk]
  refine h.append (List.isChain_singleton q) (fun x hx y hy => ?_) ?_ ?_ fun w hw _ => ?_
  · obtain rfl := Option.some.inj hy
    exact hopen.lead x hx
  · simpa using hopen.sized
  · simpa using hopen.words
  · exact ⟨current, by simp [hopen.chunk], hopen.held w hw⟩

lemma Reads.flush (h : Reads m k s ws) :
    ∃ pieces, Cuts m k (flush s.1 s.2) pieces ws := by
  obtain ⟨pieces, us, hcuts, ⟨hnil, rfl⟩ | ⟨q, vs, hopen, rfl⟩⟩ := h
  · exact ⟨pieces, by rwa [Knowledge.flush, if_pos hnil]⟩
  · exact ⟨pieces ++ [q], by rw [Knowledge.flush, if_neg hopen.ne]; exact hcuts.close hopen⟩

lemma blank_paragraphBreak : Blank paragraphBreak := by
  intro c hc
  obtain rfl : c = '\n' := by simpa [paragraphBreak] using hc
  rfl

lemma split_break (before p : List Char) :
    split (before ++ (paragraphBreak ++ p)) = split before ++ split p := by
  show split (before ++ '\n' :: ([] ++ '\n' :: p)) = _
  rw [split_append_blank rfl, split_append_blank rfl, split_nil]
  rfl

lemma opened_behind (hp : Trim p) (hp₀ : p ≠ []) (hfit : p.length ≤ m) (ho : Trim overlap)
    (hlead : ∀ x ∈ (⟨[], []⟩ :: pieces : List Piece).getLast?,
      Overlaps k x ⟨overlap, paragraphBreak ++ p⟩) :
    Opened m k pieces
      (if overlap = [] then p else stripChars (overlap ++ (paragraphBreak ++ p)))
      ⟨overlap, paragraphBreak ++ p⟩ (split p) := by
  by_cases hnil : overlap = []
  · rw [if_pos hnil]
    subst hnil
    have hraw : Piece.raw ⟨[], paragraphBreak ++ p⟩ = paragraphBreak ++ p := rfl
    refine ⟨hp, hp₀, ⟨_, hraw, blank_paragraphBreak⟩, hlead, .inl ?_, (split_break · p),
      fun w hw => (mem_split hw).2.2⟩
    rwa [Piece.chunk, hraw, stripChars_blank_append blank_paragraphBreak, stripChars_of_trim hp]
  · have htrim := ho.append hp hnil hp₀ paragraphBreak
    rw [if_neg hnil, stripChars_of_trim htrim]
    refine ⟨htrim, by simp [hnil], ⟨[], rfl, fun _ h => absurd h List.not_mem_nil⟩, hlead,
      .inr ⟨hnil, List.prefix_append _ _⟩, (split_break · p), fun w hw => ?_⟩
    rw [← List.append_assoc]
    exact (mem_split hw).2.2.trans (List.suffix_append _ _).isInfix

lemma Opened.extend (h : Opened m k pieces current q vs) (hp : Trim p)
    (hp₀ : p ≠ []) (hfit : (current ++ (paragraphBreak ++ p)).length ≤ m) :
    Opened m k pieces (current ++ (paragraphBreak ++ p))
      ⟨q.lead, q.body ++ (paragraphBreak ++ p)⟩ (vs ++ split p) := by
  obtain ⟨pre, hraw, hpre⟩ := h.raw
  have htrim := h.trim.append hp h.ne hp₀ paragraphBreak
  have hraw' : Piece.raw ⟨q.lead, q.body ++ (paragraphBreak ++ p)⟩ =
      pre ++ (current ++ (paragraphBreak ++ p)) := by
    have happend := congrArg (· ++ (paragraphBreak ++ p)) hraw
    exact (List.append_assoc _ _ _).symm.trans (happend.trans (List.append_assoc _ _ _))
  refine ⟨htrim, by simp [h.ne], ⟨pre, hraw', hpre⟩, h.lead, .inl ?_, fun before => ?_,
    fun w hw => ?_⟩
  · rwa [Piece.chunk, hraw', stripChars_blank_append hpre, stripChars_of_trim htrim]
  · rw [← List.append_assoc, split_break, h.words, List.append_assoc]
  · rcases List.mem_append.1 hw with hw | hw
    · exact (h.held w hw).trans (List.prefix_append _ _).isInfix
    · rw [← List.append_assoc]
      exact (mem_split hw).2.2.trans (List.suffix_append _ _).isInfix

lemma Cuts.windows (hover : k < m)
    (h : Cuts m k chunks pieces us) (hp₀ : p ≠ []) :
    ∃ pieces', Cuts m k (chunks ++ splitLongText p m k) pieces'
      (us ++ split p) := by
  obtain ⟨ps, hps, hchain, hsized, hbody⟩ := @pieces_of_window p m k hover 0 0 ⟨[], []⟩
    le_rfl (by omega) (by omega) (List.length_pos_of_ne_nil hp₀) List.nil_suffix
  rw [show slice p 0 p.length = p by simp [slice]] at hbody
  cases ps with
  | nil => exact absurd hbody.symm hp₀
  | cons q qs =>
    -- the first window opens a paragraph
    obtain ⟨hq, hqs⟩ := List.isChain_cons_cons.1 hchain
    have hrest := (List.isChain_cons.1 hqs).2
    have hlead : q.lead = [] := List.suffix_nil.1 hq.1
    have hraw : Piece.raw ⟨[], paragraphBreak ++ q.body⟩ = paragraphBreak ++ q.raw := by
      rw [Piece.raw, Piece.raw, hlead]
      rfl
    have hchunk : Piece.chunk ⟨[], paragraphBreak ++ q.body⟩ = q.chunk := by
      rw [Piece.chunk, hraw, stripChars_blank_append blank_paragraphBreak, Piece.chunk]
    have hcut : splitLongText p m k =
        (⟨[], paragraphBreak ++ q.body⟩ :: qs : List Piece).map Piece.chunk := by
      rw [splitLongText, hps, List.map_cons, List.map_cons, hchunk]
    rw [List.flatMap_cons] at hbody
    refine ⟨_, hcut ▸ h.append (List.isChain_cons.2 ⟨fun r hr => ?_, hrest⟩)
      (fun x _ y hy => ?_) (fun r hr => .inl ?_) (fun before => ?_) fun w hw hshort => ?_⟩
    · obtain ⟨hsuffix, hlen⟩ := hqs.rel_head? hr
      exact ⟨hraw ▸ hsuffix.trans (List.suffix_append _ _), hlen⟩
    · obtain rfl := Option.some.inj hy
      exact ⟨List.nil_suffix, Nat.zero_le _⟩
    · rcases List.mem_cons.1 hr with rfl | hr
      · exact hchunk ▸ hsized q List.mem_cons_self
      · exact hsized r (List.mem_cons_of_mem _ hr)
    · rw [List.flatMap_cons, List.append_assoc, hbody, split_break]
    · obtain ⟨hsolid, hw₀, a, b, hab⟩ := mem_split hw
      have hslice : slice p a.length (a.length + w.length) = w := by
        rw [← hab, slice, List.take_left' List.length_append, List.drop_left]
      rw [← hcut]
      exact word_in_window hover hsolid hshort hslice (by simp [← hab]) hw₀ 0 (Nat.zero_le _)

lemma trim_nil : Trim [] := Solid.trim fun _ h => absurd h List.not_mem_nil

lemma reads_addParagraph (hover : k < m) (h : Reads m k s ws) (paragraph : List Char) :
    Reads m k (addParagraph m k s paragraph)
      (ws ++ split paragraph) := by
  have hflush := h.flush
  obtain ⟨chunks, current⟩ := s
  obtain ⟨pieces, us, hcuts, hopen⟩ := h
  dsimp only at hcuts hopen hflush
  unfold addParagraph
  dsimp only
  rw [← split_collapse paragraph]
  have hp : Trim (normalizeDocumentText paragraph) := trim_collapse paragraph
  show Reads m k _ (ws ++ split (normalizeDocumentText paragraph))
  generalize normalizeDocumentText paragraph = p at hp ⊢
  by_cases hp₀ : p = []
  · rw [if_pos hp₀, hp₀, split_nil, List.append_nil]
    exact ⟨pieces, us, hcuts, hopen⟩
  rw [if_neg hp₀]
  by_cases hlong : m < p.length
  · rw [if_pos hlong]
    obtain ⟨before, hbefore⟩ := hflush
    obtain ⟨after, hafter⟩ := hbefore.windows hover hp₀
    exact ⟨after, _, hafter, .inl ⟨rfl, rfl⟩⟩
  rw [if_neg hlong]
  rcases hopen with ⟨rfl, rfl⟩ | ⟨q, vs, hopen, rfl⟩
  · rw [if_pos rfl, if_pos (by omega)]
    have hnew : Opened m k pieces p ⟨[], paragraphBreak ++ p⟩ (split p) :=
      opened_behind hp hp₀ (by omega) trim_nil fun x _ => ⟨List.nil_suffix, Nat.zero_le _⟩
    exact ⟨pieces, ws, hcuts, .inr ⟨_, _, hnew, rfl⟩⟩
  rw [if_neg hopen.ne, stripChars_of_trim (hopen.trim.append hp hopen.ne hp₀ paragraphBreak)]
  by_cases hfit : (current ++ (paragraphBreak ++ p)).length ≤ m
  · rw [if_pos hfit, List.append_assoc]
    exact ⟨pieces, us, hcuts, .inr ⟨_, _, hopen.extend hp hp₀ hfit, rfl⟩⟩
  · rw [if_neg hfit]
    generalize hlead : (if 0 < k then
      stripChars (current.drop (current.length - k)) else []) = overlap
    have htail : Trim overlap ∧ overlap.length ≤ k ∧ overlap <:+ current := by
      split at hlead
      · subst hlead
        obtain ⟨-, -, -, -, -, htrim⟩ :=
          stripChars_parts (current.drop (current.length - k))
        refine ⟨htrim, (length_stripChars_le _).trans ?_, ?_⟩
        · rw [List.length_drop]
          omega
        · exact stripChars_suffix hopen.trim (List.drop_suffix _ _)
      · subst hlead
        exact ⟨trim_nil, Nat.zero_le _, List.nil_suffix⟩
    obtain ⟨htrim, hlen, hsuffix⟩ := htail
    refine ⟨_, _, hcuts.close hopen, .inr ⟨_, _, opened_behind hp hp₀ (by omega) htrim
      fun x hx => ⟨?_, hlen⟩, rfl⟩⟩
    rw [← List.cons_append, List.getLast?_concat] at hx
    obtain rfl := Option.some.inj hx
    obtain ⟨pre, hraw, -⟩ := hopen.raw
    rw [hraw]
    exact hsuffix.trans (List.suffix_append _ _)

lemma foldl_reads (hover : k < m) (paragraphs : List (List Char)) :
    ∀ {s : List (List Char) × List Char} {ws : List (List Char)},
      Reads m k s ws →
      Reads m k (paragraphs.foldl (addParagraph m k) s)
        (ws ++ paragraphs.flatMap split) := by
  induction paragraphs with
  | nil =>
    intro s ws h
    rwa [List.flatMap_nil, List.append_nil]
  | cons p paragraphs ih =>
    intro s ws h
    rw [List.flatMap_cons, ← List.append_assoc]
    exact ih (reads_addParagraph hover h p)

/-- **The chunks keep the text**: none is empty, every word that is no longer than the overlap
stands whole in one, and they are the stripped pieces of the text. -/
theorem chunks_keep_text (text : List Char) {maxChars overlapChars : ℕ}
    (hover : overlapChars < maxChars) :
    (∀ c ∈ chunkDocumentText text maxChars overlapChars, c ≠ []) ∧
    (∀ w ∈ split text, w.length ≤ overlapChars →
      ∃ c ∈ chunkDocumentText text maxChars overlapChars, w <:+: c) ∧
    ∃ pieces : List Piece,
      chunkDocumentText text maxChars overlapChars =
        (pieces.map Piece.chunk).filter (fun c => normalizeDocumentText c ≠ []) ∧
      List.IsChain (Overlaps overlapChars) (⟨[], []⟩ :: pieces) ∧
      (∀ p ∈ pieces, Sized maxChars p) ∧
      split (pieces.flatMap Piece.body) = split text := by
  by_cases hnil : normalizeDocumentText text = []
  · have hsplit : split text = [] := by
      rw [← split_collapse text, show collapse text = [] from hnil]
      rfl
    rw [chunkDocumentText, if_pos hnil, hsplit]
    exact ⟨by simp, by simp, [], rfl, List.isChain_singleton _, by simp, rfl⟩
  · rw [chunkDocumentText, if_neg hnil]
    have hstart : Reads maxChars overlapChars ([], []) [] :=
      ⟨[], [], ⟨rfl, List.isChain_singleton _, by simp, rfl, by simp⟩, .inl ⟨rfl, rfl⟩⟩
    obtain ⟨pieces, hcuts⟩ := (foldl_reads hover (paragraphsOf text) hstart).flush
    rw [split_paragraphsOf, List.nil_append] at hcuts
    refine ⟨fun c hc => ?_, fun w hw hshort => ?_, pieces, ?_, hcuts.chained, hcuts.sized,
      hcuts.words⟩
    · have hword := (List.mem_filter.1 hc).2
      rintro rfl
      cases hword
    · obtain ⟨c, hc, hwc⟩ := hcuts.held w hw hshort
      refine ⟨c, List.mem_filter.2 ⟨hc, decide_eq_true fun hc₀ => ?_⟩, hwc⟩
      -- a chunk without words is blank, and a word is not
      have hsplit : split c = [] := by
        rw [← split_collapse c, show collapse c = [] from hc₀]
        rfl
      obtain ⟨hsolid, hw₀, -⟩ := mem_split hw
      obtain ⟨x, hx⟩ := List.exists_mem_of_ne_nil w hw₀
      have hblank := blank_of_split hsplit x (hwc.subset hx)
      rw [hsolid x hx] at hblank
      cases hblank
    · dsimp only
      rw [hcuts.cut]

theorem handbook_kept :
    ∃ c ∈ chunkDocumentText "open from nine\n\nto five".toList 16 5, "nine".toList <:+: c :=
  (chunks_keep_text _ (by decide)).2.1 "nine".toList (by decide) (by decide)

theorem cut_blank_lost : chunkDocumentText "abc d".toList 3 0 = ["abc".toList, "d".toList] ∧
    chunkDocumentText "abcd".toList 3 0 = ["abc".toList, "d".toList] ∧
    split "abc d".toList ≠ split "abcd".toList := by
  decide +kernel

end NexusHelpdesk.Knowledge
