import NexusHelpdesk.Desk.Words

/-!
# Stripped texts in lower case

`strip_lower`, `lower_lower`, `normal_normal`: a text that was stripped and lowered once stays as it
is.
-/

namespace NexusHelpdesk.PyStr

lemma lowerChar_cases (c : Char) : lowerChar c = c ∨
    ((65 ≤ c.toNat ∧ c.toNat ≤ 90) ∨ c.toNat = 0x212A) ∧
      97 ≤ (lowerChar c).toNat ∧ (lowerChar c).toNat ≤ 122 := by
  unfold lowerChar
  split_ifs with hk
  · exact Or.inr ⟨Or.inr hk, by decide, by decide⟩
  · unfold Char.toLower
    split_ifs with h
    · have hlow : 65 ≤ c.toNat := h.1
      have hhigh : c.toNat ≤ 90 := h.2
      refine Or.inr ⟨Or.inl ⟨hlow, hhigh⟩, ?_⟩
      have hval : (c.val + ('a'.val - 'A'.val)).toNat = c.toNat + 32 := by
        have hc : c.val.toNat = c.toNat := rfl
        rw [UInt32.toNat_add]
        have h32 : ('a'.val - 'A'.val).toNat = 32 := by decide
        rw [h32, hc]
        omega
      show 97 ≤ (c.val + ('a'.val - 'A'.val)).toNat ∧ (c.val + ('a'.val - 'A'.val)).toNat ≤ 122
      omega
    · exact Or.inl rfl

lemma isSpace_lowerChar (c : Char) : isSpace (lowerChar c) = isSpace c := by
  rcases lowerChar_cases c with heq | ⟨hc, h1, h2⟩
  · rw [heq]
  · have hno : ∀ d : Char, (65 ≤ d.toNat ∧ d.toNat ≤ 122) ∨ d.toNat = 0x212A →
        isSpace d = false := by
      intro d hd
      unfold isSpace
      simp only [Bool.or_eq_false_iff, Bool.and_eq_false_iff, decide_eq_false_iff_not,
        beq_eq_false_iff_ne]
      omega
    rw [hno _ (by omega), hno c (by omega)]

lemma lowerChar_lowerChar (c : Char) : lowerChar (lowerChar c) = lowerChar c := by
  rcases lowerChar_cases (lowerChar c) with heq | ⟨hc, h1, h2⟩
  · exact heq
  · rcases lowerChar_cases c with heq | ⟨-, h3, h4⟩
    · rw [heq, heq]
    · omega

lemma lower_lower (s : String) : lower (lower s) = lower s := by
  unfold lower
  rw [String.toList_ofList, List.map_map]
  exact congrArg String.ofList (List.map_congr_left fun c _ => lowerChar_lowerChar c)

lemma strip_lower (s : String) : strip (lower s) = lower (strip s) := by
  have hspace : isSpace ∘ lowerChar = isSpace := funext isSpace_lowerChar
  unfold strip lower
  rw [String.toList_ofList, String.toList_ofList, List.dropWhile_map, hspace, ← List.map_reverse,
    List.dropWhile_map, hspace, ← List.map_reverse]

lemma normal_normal (s : String) : lower (strip (lower (strip s))) = lower (strip s) := by
  rw [strip_lower, lower_lower, strip_strip]

end NexusHelpdesk.PyStr
