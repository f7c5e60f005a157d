import NexusHelpdesk.Desk.Basic

/-!
# Words and the blanks between them

What `str.strip()`, `str.split()` and `" ".join(s.split())` do to the words of a text.

* `Solid`, `Blank`, `Trim`: no blank at all, nothing but blanks, no blank at either end;
* `stripChars_parts`: **stripping takes blanks off both ends**;
* `split_append_blank`: the words of two texts with a blank between them;
* `split_collapse`, `trim_collapse`: collapsing keeps the words and leaves no blank at the ends.
-/

namespace NexusHelpdesk.PyStr

def Solid (s : List Char) : Prop := ∀ c ∈ s, isSpace c = false

def Blank (s : List Char) : Prop := ∀ c ∈ s, isSpace c = true

/-- no blank stands at either end. -/
def Trim (s : List Char) : Prop :=
  (∀ c ∈ s.head?, isSpace c = false) ∧ ∀ c ∈ s.getLast?, isSpace c = false

variable {s t u w : List Char}

lemma Solid.trim (h : Solid s) : Trim s :=
  ⟨fun c hc => h c (List.mem_of_head? hc), fun c hc => h c (List.mem_of_getLast? hc)⟩

lemma Trim.append (hs : Trim s) (ht : Trim t) (hs₀ : s ≠ []) (ht₀ : t ≠ []) (m : List Char) :
    Trim (s ++ (m ++ t)) := by
  refine ⟨?_, ?_⟩
  · rw [List.head?_append_of_ne_nil s hs₀]
    exact hs.1
  · rw [← List.append_assoc, List.getLast?_append_of_ne_nil _ ht₀]
    exact ht.2

/-! ## stripping -/

lemma head?_dropWhile (s : List Char) : ∀ c ∈ (s.dropWhile isSpace).head?, isSpace c = false := by
  intro c hc
  have h := List.head?_dropWhile_not isSpace s
  rw [Option.mem_def.1 hc] at h
  exact h

lemma stripChars_parts (s : List Char) : ∃ pre post, s = pre ++ (stripChars s ++ post) ∧
    Blank pre ∧ Blank post ∧ Trim (stripChars s) := by
  have hback : s.dropWhile isSpace =
      stripChars s ++ ((s.dropWhile isSpace).reverse.takeWhile isSpace).reverse := by
    have h := List.takeWhile_append_dropWhile (p := isSpace) (l := (s.dropWhile isSpace).reverse)
    have hrev := congrArg List.reverse h
    rw [List.reverse_append, List.reverse_reverse] at hrev
    exact hrev.symm
  refine ⟨s.takeWhile isSpace, ((s.dropWhile isSpace).reverse.takeWhile isSpace).reverse, ?_,
    fun c hc => List.mem_takeWhile_imp hc, fun c hc => ?_, ?_, ?_⟩
  · rw [← hback, List.takeWhile_append_dropWhile]
  · exact List.mem_takeWhile_imp (List.mem_reverse.1 hc)
  · intro c hc
    refine head?_dropWhile s c ?_
    rw [hback, List.head?_append, Option.mem_def.1 hc]
    rfl
  · intro c hc
    unfold stripChars at hc
    rw [List.getLast?_reverse] at hc
    exact head?_dropWhile _ c hc

lemma stripChars_of_trim (h : Trim s) : stripChars s = s := by
  have hdrop : ∀ {t : List Char}, (∀ c ∈ t.head?, isSpace c = false) → t.dropWhile isSpace = t := by
    intro t ht
    cases t with
    | nil => rfl
    | cons c t => exact List.dropWhile_cons_of_neg (by simp [ht c rfl])
  unfold stripChars
  rw [hdrop h.1, hdrop, List.reverse_reverse]
  rw [List.head?_reverse]
  exact h.2

lemma stripChars_stripChars (s : List Char) : stripChars (stripChars s) = stripChars s := by
  obtain ⟨-, -, -, -, -, htrim⟩ := stripChars_parts s
  exact stripChars_of_trim htrim

lemma strip_strip (s : String) : strip (strip s) = strip s := by
  show String.ofList (stripChars (String.ofList (stripChars s.toList)).toList) = _
  rw [String.toList_ofList, stripChars_stripChars]
  rfl

lemma head?_stripChars (s : List Char) : (stripChars s).head? = s.find? fun c => !isSpace c := by
  obtain ⟨pre, post, hs, hpre, hpost, htrim⟩ := stripChars_parts s
  have hnone : ∀ {t : List Char}, Blank t → t.find? (fun c => !isSpace c) = none := by
    intro t ht
    rw [List.find?_eq_none]
    intro c hc
    simp [ht c hc]
  rw [congrArg (List.find? _) hs, List.find?_append, hnone hpre, Option.none_or, List.find?_append,
    hnone hpost, Option.or_none]
  cases hstrip : stripChars s with
  | nil => rfl
  | cons c rest => rw [List.find?_cons_of_pos (by simp [htrim.1 c (by rw [hstrip]; rfl)])]; rfl

lemma strip_ne_iff {s : String} : strip s ≠ "" ↔ ∃ c ∈ s.toList, isSpace c = false := by
  have hnil : strip s = "" ↔ (stripChars s.toList).head? = none := by
    rw [List.head?_eq_none_iff]
    exact ⟨fun h => String.ofList_injective h, fun h => congrArg String.ofList h⟩
  rw [ne_eq, hnil, head?_stripChars, List.find?_eq_none]
  simp

lemma strip_of_solid {s : String} (h : Solid s.toList) : strip s = s := by
  show String.ofList (stripChars s.toList) = s
  rw [stripChars_of_trim h.trim, String.ofList_toList]

lemma stripChars_blank_append (h : Blank t) : stripChars (t ++ s) = stripChars s := by
  unfold stripChars
  rw [List.dropWhile_append_of_pos h]

lemma length_stripChars_le (s : List Char) : (stripChars s).length ≤ s.length := by
  obtain ⟨pre, post, hs, -⟩ := stripChars_parts s
  have h := congrArg List.length hs
  simp only [List.length_append] at h
  omega

lemma infix_dropWhile (hw : Solid w) (h : w <:+: s) : w <:+: s.dropWhile isSpace := by
  obtain ⟨a, b, rfl⟩ := h
  induction a with
  | nil =>
    cases w with
    | nil => exact List.nil_infix
    | cons c w =>
      have hc := hw c List.mem_cons_self
      show c :: w <:+: (c :: (w ++ b)).dropWhile isSpace
      rw [List.dropWhile_cons_of_neg (by simp [hc])]
      exact ⟨[], b, rfl⟩
  | cons c a ih =>
    show w <:+: (c :: (a ++ w ++ b)).dropWhile isSpace
    by_cases hc : isSpace c = true
    · rw [List.dropWhile_cons_of_pos hc]
      exact ih
    · rw [List.dropWhile_cons_of_neg hc]
      exact ⟨c :: a, b, rfl⟩

lemma infix_stripChars (hw : Solid w) (h : w <:+: s) : w <:+: stripChars s := by
  have hrev : Solid w.reverse := fun c hc => hw c (List.mem_reverse.1 hc)
  have hback := infix_dropWhile hrev (List.reverse_infix.2 (infix_dropWhile hw h))
  rw [← List.reverse_infix, List.reverse_reverse] at hback
  exact hback

lemma stripChars_suffix (hs : Trim s) (h : t <:+ s) : stripChars t <:+ s := by
  obtain ⟨pre, post, ht, -, hpost, -⟩ := stripChars_parts t
  have hnil : post = [] := by
    by_contra hne
    have hmem := List.getLast?_eq_some_getLast hne
    have hlast : s.getLast? = post.getLast? := by
      obtain ⟨a, rfl⟩ := h
      rw [ht, ← List.append_assoc, ← List.append_assoc, List.getLast?_append_of_ne_nil _ hne]
    have hsolid := hs.2 _ (hlast.trans hmem)
    rw [hpost _ (List.getLast_mem hne)] at hsolid
    cases hsolid
  subst hnil
  rw [List.append_nil] at ht
  exact (show stripChars t <:+ t from ⟨pre, ht.symm⟩).trans h

/-! ## words -/

lemma split_append_blank {c : Char} (hc : isSpace c = true) (s t : List Char) :
    split (s ++ c :: t) = split s ++ split t := by
  unfold split
  rw [List.splitOnP_append_cons _ _ hc, List.filter_append]

lemma split_nil : split [] = [] := rfl

lemma split_blank_append (h : Blank t) : split (t ++ s) = split s := by
  induction t with
  | nil => rfl
  | cons c t ih =>
    have hc := h c List.mem_cons_self
    have hstep := split_append_blank hc [] (t ++ s)
    rw [split_nil, List.nil_append, List.nil_append] at hstep
    exact hstep.trans (ih fun d hd => h d (List.mem_cons_of_mem _ hd))

lemma split_append_of_blank (h : Blank t) : split (s ++ t) = split s := by
  cases t with
  | nil => rw [List.append_nil]
  | cons c t =>
    have hrest := split_blank_append (s := []) fun d hd => h d (List.mem_cons_of_mem c hd)
    rw [split_append_blank (h c List.mem_cons_self), ← List.append_nil t, hrest, split_nil,
      List.append_nil]

lemma split_stripChars (s : List Char) : split (stripChars s) = split s := by
  obtain ⟨pre, post, hs, hpre, hpost, -⟩ := stripChars_parts s
  rw [congrArg split hs, split_blank_append hpre, split_append_of_blank hpost]

lemma split_solid (hw : Solid w) (hne : w ≠ []) : split w = [w] := by
  unfold split
  rw [List.splitOnP_eq_singleton hw]
  simp [hne]

lemma mem_split (h : w ∈ split s) : Solid w ∧ w ≠ [] ∧ w <:+: s := by
  induction hn : s.length using Nat.strong_induction_on generalizing s with
  | _ n ih =>
    by_cases hsolid : Solid s
    · by_cases hne : s = []
      · subst hne
        cases h
      · rw [split_solid hsolid hne, List.mem_singleton] at h
        subst h
        exact ⟨hsolid, hne, List.infix_rfl⟩
    · unfold Solid at hsolid
      push Not at hsolid
      obtain ⟨c, hc, hspace⟩ := hsolid
      obtain ⟨a, b, rfl⟩ := List.append_of_mem hc
      rw [split_append_blank (by simpa using hspace)] at h
      rw [List.length_append, List.length_cons] at hn
      rcases List.mem_append.1 h with h | h
      · obtain ⟨hw, hne, hin⟩ := ih a.length (by omega) h rfl
        exact ⟨hw, hne, hin.trans ⟨[], c :: b, rfl⟩⟩
      · obtain ⟨hw, hne, hin⟩ := ih b.length (by omega) h rfl
        exact ⟨hw, hne, hin.trans ⟨a ++ [c], [], by simp⟩⟩

lemma blank_of_split (h : split s = []) : Blank s := by
  induction s with
  | nil => exact fun c hc => absurd hc List.not_mem_nil
  | cons c s ih =>
    by_cases hc : isSpace c = true
    · have hrest : split s = [] :=
        (split_blank_append (t := [c]) (by simpa [Blank] using hc)).symm.trans h
      intro d hd
      rcases List.mem_cons.1 hd with rfl | hd
      · exact hc
      · exact ih hrest d hd
    · revert h
      unfold split
      rw [List.splitOnP_cons_eq_if_modifyHead, if_neg hc]
      cases hs : s.splitOnP isSpace with
      | nil => exact absurd hs (List.splitOnP_ne_nil _ _)
      | cons x xs => simp

lemma split_intercalate : ∀ {ws : List (List Char)}, (∀ w ∈ ws, Solid w ∧ w ≠ []) →
    split (List.intercalate [' '] ws) = ws ∧ Trim (List.intercalate [' '] ws)
  | [], _ => ⟨rfl, by simp [Trim]⟩
  | [w], h => by
    obtain ⟨hw, hne⟩ := h w List.mem_cons_self
    rw [List.intercalate_singleton]
    exact ⟨split_solid hw hne, hw.trim⟩
  | w :: v :: ws, h => by
    obtain ⟨hw, hne⟩ := h w List.mem_cons_self
    obtain ⟨hsplit, htrim⟩ := @split_intercalate (v :: ws) fun x hx =>
      h x (List.mem_cons_of_mem _ hx)
    have hrest : List.intercalate [' '] (v :: ws) ≠ [] := by
      intro hnil
      rw [hnil, split_nil] at hsplit
      cases hsplit
    rw [List.intercalate_cons_cons, List.append_assoc]
    refine ⟨?_, hw.trim.append htrim hne hrest _⟩
    rw [List.singleton_append, split_append_blank rfl, split_solid hw hne, hsplit]
    rfl

lemma split_collapse (s : List Char) : split (collapse s) = split s :=
  (split_intercalate fun _ hw => ⟨(mem_split hw).1, (mem_split hw).2.1⟩).1

lemma trim_collapse (s : List Char) : Trim (collapse s) :=
  (split_intercalate fun _ hw => ⟨(mem_split hw).1, (mem_split hw).2.1⟩).2

end NexusHelpdesk.PyStr
