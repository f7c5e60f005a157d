import Mathlib

/-!
# JSON texts

The values of JSON, the compact text of a value and the parser of such texts.

* `Json.text`: what `JSON.stringify` prints;
* `Json.parse`: the parser, by recursive descent with fuel;
* `Json.parse_text`: **the text of a value parses to that value**.
-/

namespace Lib

/-- the lists of characters are compared with one instance everywhere. -/
instance lawfulChars : LawfulBEq (List Char) := inferInstance

/-! ## numerals -/

def isNumeralChar (c : Char) : Bool :=
  c.isDigit || c == '-' || c == '+' || c == '.' || c == 'e' || c == 'E'

/-- a numeral that is not an integer: it has a fraction or an exponent. -/
structure Numeral where
  chars : List Char
  starts : chars.head?.any (fun c => c.isDigit || c == '-') = true
  numeral : chars.all isNumeralChar = true
  broken : chars.any (fun c => c == '.' || c == 'e' || c == 'E') = true

inductive Json where
  | null
  | bool (b : Bool)
  | num (n : ℤ)
  | real (t : Numeral)
  | str (s : List Char)
  | arr (items : List Json)
  | obj (fields : List (List Char × Json))

namespace Json

def digitChar (d : ℕ) : Char := Char.ofNat (48 + d)

def natText (n : ℕ) : List Char :=
  if n = 0 then ['0'] else ((Nat.digits 10 n).map digitChar).reverse

def intText (n : ℤ) : List Char :=
  if n < 0 then '-' :: natText n.natAbs else natText n.natAbs

def natValue (cs : List Char) : ℕ := Nat.ofDigits 10 (cs.map fun c => c.toNat - 48).reverse

/-- the integer a numeral stands for, if it is one. -/
def intValue (cs : List Char) : Option ℤ :=
  match cs with
  | [] => none
  | '-' :: ds => if ds.isEmpty || !ds.all Char.isDigit then none else some (-(natValue ds : ℤ))
  | ds => if ds.all Char.isDigit then some (natValue ds : ℤ) else none

/-! ## printing -/

def hexDigit (d : ℕ) : Char := if d < 10 then Char.ofNat (48 + d) else Char.ofNat (87 + d)

def escape (c : Char) : List Char :=
  if c = '"' then ['\\', '"']
  else if c = '\\' then ['\\', '\\']
  else if c = '\x08' then ['\\', 'b']
  else if c = '\x0c' then ['\\', 'f']
  else if c = '\n' then ['\\', 'n']
  else if c = '\r' then ['\\', 'r']
  else if c = '\t' then ['\\', 't']
  else if c.toNat < 32 then ['\\', 'u', '0', '0', hexDigit (c.toNat / 16), hexDigit (c.toNat % 16)]
  else [c]

def strText (s : List Char) : List Char := '"' :: (s.flatMap escape ++ ['"'])

mutual

def text : Json → List Char
  | .null => ['n', 'u', 'l', 'l']
  | .bool true => ['t', 'r', 'u', 'e']
  | .bool false => ['f', 'a', 'l', 's', 'e']
  | .num n => intText n
  | .real t => t.chars
  | .str s => strText s
  | .arr [] => ['[', ']']
  | .arr (v :: items) => '[' :: (text v ++ itemsText items)
  | .obj [] => ['{', '}']
  | .obj ((k, v) :: fields) => '{' :: (strText k ++ ':' :: (text v ++ fieldsText fields))

/-- the rest of an array after its first item. -/
def itemsText : List Json → List Char
  | [] => [']']
  | v :: items => ',' :: (text v ++ itemsText items)

def fieldsText : List (List Char × Json) → List Char
  | [] => ['}']
  | (k, v) :: fields => ',' :: (strText k ++ ':' :: (text v ++ fieldsText fields))

end

/-! ## parsing -/

def hexValue (c : Char) : Option ℕ :=
  if c.isDigit then some (c.toNat - 48)
  else if 97 ≤ c.toNat ∧ c.toNat ≤ 102 then some (c.toNat - 87)
  else if 65 ≤ c.toNat ∧ c.toNat ≤ 70 then some (c.toNat - 55)
  else none

def unescape (c : Char) : Option Char :=
  match c with
  | '"' => some '"'
  | '\\' => some '\\'
  | '/' => some '/'
  | 'b' => some '\x08'
  | 'f' => some '\x0c'
  | 'n' => some '\n'
  | 'r' => some '\r'
  | 't' => some '\t'
  | _ => none

/-- the rest of a string after its opening quote. -/
def readString : List Char → Option (List Char × List Char)
  | [] => none
  | '"' :: rest => some ([], rest)
  | '\\' :: 'u' :: a :: b :: c :: d :: rest =>
    match hexValue a, hexValue b, hexValue c, hexValue d with
    | some a, some b, some c, some d =>
      (readString rest).map fun r =>
        (Char.ofNat (((a * 16 + b) * 16 + c) * 16 + d) :: r.1, r.2)
    | _, _, _, _ => none
  | '\\' :: c :: rest =>
    match unescape c with
    | some c => (readString rest).map fun r => (c :: r.1, r.2)
    | none => none
  | c :: rest =>
    if c.toNat < 32 then none else (readString rest).map fun r => (c :: r.1, r.2)

def readNumber (cs : List Char) : Option (Json × List Char) :=
  let t := cs.takeWhile isNumeralChar
  let rest := cs.dropWhile isNumeralChar
  match intValue t with
  | some n => some (.num n, rest)
  | none =>
    if h : t.head?.any (fun c => c.isDigit || c == '-') = true ∧ t.all isNumeralChar = true ∧
        t.any (fun c => c == '.' || c == 'e' || c == 'E') = true then
      some (.real ⟨t, h.1, h.2.1, h.2.2⟩, rest)
    else none

mutual

def readValue : ℕ → List Char → Option (Json × List Char)
  | 0, _ => none
  | n + 1, cs =>
    match cs with
    | 'n' :: 'u' :: 'l' :: 'l' :: rest => some (.null, rest)
    | 't' :: 'r' :: 'u' :: 'e' :: rest => some (.bool true, rest)
    | 'f' :: 'a' :: 'l' :: 's' :: 'e' :: rest => some (.bool false, rest)
    | '"' :: rest => (readString rest).map fun r => (.str r.1, r.2)
    | '[' :: ']' :: rest => some (.arr [], rest)
    | '[' :: rest =>
      match readValue n rest with
      | some (v, rest) => (readItems n rest).map fun r => (.arr (v :: r.1), r.2)
      | none => none
    | '{' :: '}' :: rest => some (.obj [], rest)
    | '{' :: '"' :: rest =>
      match readString rest with
      | some (k, ':' :: rest) =>
        match readValue n rest with
        | some (v, rest) => (readFields n rest).map fun r => (.obj ((k, v) :: r.1), r.2)
        | none => none
      | _ => none
    | cs => readNumber cs

def readItems : ℕ → List Char → Option (List Json × List Char)
  | 0, _ => none
  | n + 1, cs =>
    match cs with
    | ']' :: rest => some ([], rest)
    | ',' :: rest =>
      match readValue n rest with
      | some (v, rest) => (readItems n rest).map fun r => (v :: r.1, r.2)
      | none => none
    | _ => none

def readFields : ℕ → List Char → Option (List (List Char × Json) × List Char)
  | 0, _ => none
  | n + 1, cs =>
    match cs with
    | '}' :: rest => some ([], rest)
    | ',' :: '"' :: rest =>
      match readString rest with
      | some (k, ':' :: rest) =>
        match readValue n rest with
        | some (v, rest) => (readFields n rest).map fun r => ((k, v) :: r.1, r.2)
        | none => none
      | _ => none
    | _ => none

end

def parse (cs : List Char) : Option Json :=
  match readValue cs.length cs with
  | some (v, []) => some v
  | _ => none

def field (k : String) : Json → Option Json
  | .obj fields => (fields.find? fun f => f.1 == k.toList).map (·.2)
  | _ => none

/-! ## numbers are read back -/

variable {d : ℕ} {c : Char} {rest : List Char}

lemma digitChar_toNat (h : d < 10) : (digitChar d).toNat - 48 = d := by
  interval_cases d <;> decide

lemma digitChar_isDigit (h : d < 10) : (digitChar d).isDigit = true := by
  interval_cases d <;> decide

lemma natValue_natText (n : ℕ) : natValue (natText n) = n := by
  unfold natText natValue
  by_cases hn : n = 0
  · rw [if_pos hn, hn]
    simp
  · rw [if_neg hn, List.map_reverse, List.reverse_reverse, List.map_map]
    have hid : (Nat.digits 10 n).map ((fun c => c.toNat - 48) ∘ digitChar) = Nat.digits 10 n := by
      conv_rhs => rw [← List.map_id (Nat.digits 10 n)]
      apply List.map_congr_left
      intro d hd
      exact digitChar_toNat (Nat.digits_lt_base (by decide) hd)
    rw [hid, Nat.ofDigits_digits]

lemma natText_digits (n : ℕ) : ∀ c ∈ natText n, c.isDigit = true := by
  unfold natText
  by_cases hn : n = 0
  · rw [if_pos hn]
    intro c hc
    rw [List.mem_singleton] at hc
    subst hc
    rfl
  · rw [if_neg hn]
    intro c hc
    rw [List.mem_reverse] at hc
    obtain ⟨d, hd, rfl⟩ := List.mem_map.1 hc
    exact digitChar_isDigit (Nat.digits_lt_base (by decide) hd)

lemma natText_ne_nil (n : ℕ) : natText n ≠ [] := by
  unfold natText
  by_cases hn : n = 0
  · rw [if_pos hn]
    exact List.cons_ne_nil _ _
  · rw [if_neg hn, ne_eq, List.reverse_eq_nil_iff, List.map_eq_nil_iff]
    exact Nat.digits_ne_nil_iff_ne_zero.2 hn

lemma intValue_digits {ds : List Char} (hne : ds ≠ []) (h : ∀ c ∈ ds, c.isDigit = true) :
    intValue ds = some (natValue ds : ℤ) := by
  unfold intValue
  split
  · exact absurd rfl hne
  · have hminus := h '-' (List.mem_cons_self ..)
    exact absurd hminus (by decide)
  · rw [if_pos (List.all_eq_true.2 h)]

lemma intValue_intText (n : ℤ) : intValue (intText n) = some n := by
  have hdigits := natText_digits n.natAbs
  unfold intText
  by_cases hn : n < 0
  · rw [if_pos hn]
    simp only [intValue]
    rw [if_neg, natValue_natText]
    · congr 1
      omega
    · have hall : (natText n.natAbs).all Char.isDigit = true := List.all_eq_true.2 hdigits
      simp [hall, natText_ne_nil]
  · rw [if_neg hn, intValue_digits (natText_ne_nil _) hdigits, natValue_natText]
    congr 1
    omega

lemma isNumeralChar_of_isDigit (h : c.isDigit = true) : isNumeralChar c = true := by
  unfold isNumeralChar
  rw [h]
  rfl

lemma intText_numeral (n : ℤ) : ∀ c ∈ intText n, isNumeralChar c = true := by
  have hdigits := natText_digits n.natAbs
  unfold intText
  intro c hc
  split at hc
  · rcases List.mem_cons.1 hc with rfl | hc
    · decide
    · exact isNumeralChar_of_isDigit (hdigits c hc)
  · exact isNumeralChar_of_isDigit (hdigits c hc)

def startsNumber (c : Char) : Bool := c.isDigit || c == '-'

lemma intText_starts (n : ℤ) : ∃ c cs, intText n = c :: cs ∧ startsNumber c = true := by
  unfold intText
  by_cases hn : n < 0
  · rw [if_pos hn]
    exact ⟨'-', _, rfl, by decide⟩
  · rw [if_neg hn]
    obtain ⟨c, cs, hcs⟩ := List.exists_cons_of_ne_nil (natText_ne_nil n.natAbs)
    refine ⟨c, cs, hcs, ?_⟩
    have hc := natText_digits n.natAbs c (by rw [hcs]; exact List.mem_cons_self ..)
    unfold startsNumber
    rw [hc]
    rfl

/-- the text that follows a value does not continue a number. -/
def Follows (rest : List Char) : Prop := ∀ c ∈ rest.head?, isNumeralChar c = false

lemma follows_nil : Follows [] := by
  intro c hc
  cases hc

lemma follows_cons (h : isNumeralChar c = false) :
    Follows (c :: rest) := by
  intro d hd
  simp only [List.head?_cons, Option.mem_def, Option.some.injEq] at hd
  subst hd
  exact h

lemma span_numeral {t : List Char} (ht : ∀ c ∈ t, isNumeralChar c = true) (hrest : Follows rest) :
    (t ++ rest).takeWhile isNumeralChar = t ∧ (t ++ rest).dropWhile isNumeralChar = rest := by
  have hhead : rest.takeWhile isNumeralChar = [] ∧ rest.dropWhile isNumeralChar = rest := by
    cases rest with
    | nil => exact ⟨rfl, rfl⟩
    | cons c rest =>
      have hc := hrest c rfl
      rw [List.takeWhile_cons, List.dropWhile_cons, hc]
      exact ⟨rfl, rfl⟩
  rw [List.takeWhile_append_of_pos ht, List.dropWhile_append_of_pos ht, hhead.1, hhead.2,
    List.append_nil]
  exact ⟨rfl, rfl⟩

lemma readNumber_intText (n : ℤ) (hrest : Follows rest) :
    readNumber (intText n ++ rest) = some (.num n, rest) := by
  obtain ⟨htake, hdrop⟩ := span_numeral (intText_numeral n) hrest
  unfold readNumber
  simp only [htake, hdrop, intValue_intText]

lemma intValue_chars (t : Numeral) : intValue t.chars = none := by
  have hbroken : ∀ ds : List Char, ds.any (fun c => c == '.' || c == 'e' || c == 'E') = true →
      ds.all Char.isDigit = false := by
    intro ds hds
    obtain ⟨c, hc, hbad⟩ := List.any_eq_true.1 hds
    rw [List.all_eq_false]
    refine ⟨c, hc, ?_⟩
    simp only [Bool.or_eq_true, beq_iff_eq] at hbad
    rcases hbad with (rfl | rfl) | rfl <;> decide
  have h := t.broken
  unfold intValue
  split
  · rfl
  · rename_i ds heq
    rw [heq, List.any_cons] at h
    have htail := hbroken ds (by simpa using h)
    simp [htail]
  · rw [if_neg]
    rw [hbroken _ h]
    exact Bool.false_ne_true

lemma readNumber_real (t : Numeral) (hrest : Follows rest) :
    readNumber (t.chars ++ rest) = some (.real t, rest) := by
  obtain ⟨htake, hdrop⟩ := span_numeral (List.all_eq_true.1 t.numeral) hrest
  unfold readNumber
  simp only [htake, hdrop, intValue_chars t]
  rw [dif_pos ⟨t.starts, t.numeral, t.broken⟩]

lemma readValue_number {cs : List Char} (hc : startsNumber c = true) (n : ℕ) :
    readValue (n + 1) (c :: cs) = readNumber (c :: cs) := by
  rw [readValue]
  all_goals
    intro rest heq
    obtain ⟨rfl, -⟩ := List.cons.inj heq
    exact absurd hc (by decide)

/-! ## strings are read back -/

lemma hexValue_hexDigit (h : d < 16) : hexValue (hexDigit d) = some d := by
  interval_cases d <;> decide

lemma readString_plain (hq : c ≠ '"') (hb : c ≠ '\\') (h : ¬ c.toNat < 32) (rest : List Char) :
    readString (c :: rest) = (readString rest).map fun r => (c :: r.1, r.2) := by
  rw [readString]
  · rw [if_neg h]
  · exact hq
  all_goals
    intros
    contradiction

lemma readString_control (h : c.toNat < 32) (rest : List Char) :
    readString ('\\' :: 'u' :: '0' :: '0' :: hexDigit (c.toNat / 16) :: hexDigit (c.toNat % 16) ::
      rest) = (readString rest).map fun r => (c :: r.1, r.2) := by
  have hhigh := hexValue_hexDigit (d := c.toNat / 16) (by omega)
  have hlow := hexValue_hexDigit (d := c.toNat % 16) (by omega)
  have hzero : hexValue '0' = some 0 := by decide
  have hcode : ((0 * 16 + 0) * 16 + c.toNat / 16) * 16 + c.toNat % 16 = c.toNat := by omega
  rw [readString]
  simp only [hzero, hhigh, hlow, hcode, Char.ofNat_toNat]

lemma readString_escape (c : Char) (rest : List Char) :
    readString (escape c ++ rest) = (readString rest).map fun r => (c :: r.1, r.2) := by
  unfold escape
  by_cases hquote : c = '"'
  · subst hquote
    rfl
  rw [if_neg hquote]
  by_cases hback : c = '\\'
  · subst hback
    rfl
  rw [if_neg hback]
  by_cases hb : c = '\x08'
  · subst hb
    rfl
  rw [if_neg hb]
  by_cases hf : c = '\x0c'
  · subst hf
    rfl
  rw [if_neg hf]
  by_cases hn : c = '\n'
  · subst hn
    rfl
  rw [if_neg hn]
  by_cases hr : c = '\r'
  · subst hr
    rfl
  rw [if_neg hr]
  by_cases ht : c = '\t'
  · subst ht
    rfl
  rw [if_neg ht]
  by_cases hlow : c.toNat < 32
  · rw [if_pos hlow]
    exact readString_control hlow rest
  · rw [if_neg hlow]
    exact readString_plain hquote hback hlow rest

lemma readString_strText (s rest : List Char) :
    readString (s.flatMap escape ++ '"' :: rest) = some (s, rest) := by
  induction s with
  | nil => rfl
  | cons c s ih =>
    rw [List.flatMap_cons, List.append_assoc, readString_escape, ih]
    rfl

/-! ## values are read back -/

lemma text_cons (v : Json) : ∃ c cs, text v = c :: cs ∧ c ≠ ']' := by
  have hstart : ∀ c, startsNumber c = true → c ≠ ']' := by
    intro c hc heq
    rw [heq] at hc
    exact absurd hc (by decide)
  cases v with
  | null => exact ⟨_, _, rfl, by decide⟩
  | bool b => cases b <;> exact ⟨_, _, rfl, by decide⟩
  | num n =>
    obtain ⟨c, cs, hcs, hc⟩ := intText_starts n
    exact ⟨c, cs, hcs, hstart c hc⟩
  | real t =>
    cases hcs : t.chars with
    | nil =>
      have h := t.starts
      rw [hcs] at h
      cases h
    | cons c cs =>
      have h := t.starts
      rw [hcs] at h
      exact ⟨c, cs, hcs, hstart c h⟩
  | str s => exact ⟨_, _, rfl, by decide⟩
  | arr items => cases items <;> exact ⟨_, _, rfl, by decide⟩
  | obj fields => cases fields <;> exact ⟨_, _, rfl, by decide⟩

lemma readValue_real (t : Numeral) (hrest : Follows rest) (n : ℕ) :
    readValue (n + 1) (t.chars ++ rest) = some (.real t, rest) := by
  cases hcs : t.chars with
  | nil =>
    have h := t.starts
    rw [hcs] at h
    cases h
  | cons c cs =>
    have h := t.starts
    rw [hcs, List.head?_cons, Option.any_some] at h
    rw [List.cons_append, readValue_number h, ← List.cons_append, ← hcs]
    exact readNumber_real t hrest

lemma readValue_num (z : ℤ) (hrest : Follows rest) (n : ℕ) :
    readValue (n + 1) (intText z ++ rest) = some (.num z, rest) := by
  obtain ⟨c, cs, hcs, hc⟩ := intText_starts z
  rw [hcs, List.cons_append, readValue_number hc, ← List.cons_append, ← hcs]
  exact readNumber_intText z hrest

lemma readValue_array {cs : List Char} (hc : c ≠ ']') (n : ℕ) :
    readValue (n + 1) ('[' :: c :: cs) =
      match readValue n (c :: cs) with
      | some (v, rest) => (readItems n rest).map fun r => (.arr (v :: r.1), r.2)
      | none => none := by
  rw [readValue]
  intro rest heq
  exact hc (List.cons.inj heq).1

lemma follows_itemsText (items : List Json) (rest : List Char) :
    Follows (itemsText items ++ rest) := by
  cases items <;> exact follows_cons (by decide)

lemma follows_fieldsText (fields : List (List Char × Json)) (rest : List Char) :
    Follows (fieldsText fields ++ rest) := by
  cases fields <;> exact follows_cons (by decide)

mutual

theorem readValue_text : ∀ (v : Json) (n : ℕ) (rest : List Char),
    (text v ++ rest).length ≤ n → Follows rest → readValue n (text v ++ rest) = some (v, rest)
  | v, 0, rest, hn, _ => by
    obtain ⟨c, cs, hcs, -⟩ := text_cons v
    rw [hcs] at hn
    simp at hn
  | .null, n + 1, rest, _, _ => rfl
  | .bool true, n + 1, rest, _, _ => rfl
  | .bool false, n + 1, rest, _, _ => rfl
  | .num z, n + 1, rest, _, hrest => readValue_num z hrest n
  | .real t, n + 1, rest, _, hrest => readValue_real t hrest n
  | .str s, n + 1, rest, _, _ => by
    rw [text, strText, List.cons_append, List.append_assoc, List.singleton_append, readValue,
      readString_strText]
    rfl
  | .arr [], n + 1, rest, _, _ => rfl
  | .arr (v :: items), n + 1, rest, hn, _ => by
    simp only [text, List.cons_append, List.append_assoc, List.length_cons] at hn ⊢
    have hv := readValue_text v n (itemsText items ++ rest) (by omega)
      (follows_itemsText items rest)
    have hitems := readItems_text items n rest (by
      simp only [List.length_append] at hn ⊢
      omega)
    obtain ⟨c, cs, hcs, hc⟩ := text_cons v
    rw [hcs, List.cons_append] at hv ⊢
    rw [readValue_array hc, hv]
    dsimp only
    rw [hitems]
    rfl
  | .obj [], n + 1, rest, _, _ => rfl
  | .obj ((k, v) :: fields), n + 1, rest, hn, _ => by
    simp only [text, strText, List.cons_append, List.append_assoc, List.nil_append,
      List.length_cons, List.length_append] at hn ⊢
    have hv := readValue_text v n (fieldsText fields ++ rest) (by
      simp only [List.length_append]
      omega) (follows_fieldsText fields rest)
    have hfields := readFields_text fields n rest (by
      simp only [List.length_append]
      omega)
    rw [readValue, readString_strText]
    simp only
    rw [hv]
    dsimp only
    rw [hfields]
    rfl

theorem readItems_text : ∀ (items : List Json) (n : ℕ) (rest : List Char),
    (itemsText items ++ rest).length ≤ n →
      readItems n (itemsText items ++ rest) = some (items, rest)
  | items, 0, rest, hn => by cases items <;> simp [itemsText] at hn
  | [], n + 1, rest, _ => rfl
  | v :: items, n + 1, rest, hn => by
    simp only [itemsText, List.cons_append, List.append_assoc, List.length_cons,
      List.length_append] at hn ⊢
    have hv := readValue_text v n (itemsText items ++ rest) (by
      simp only [List.length_append]
      omega) (follows_itemsText items rest)
    have hitems := readItems_text items n rest (by
      simp only [List.length_append]
      omega)
    rw [readItems, hv]
    dsimp only
    rw [hitems]
    rfl

theorem readFields_text : ∀ (fields : List (List Char × Json)) (n : ℕ) (rest : List Char),
    (fieldsText fields ++ rest).length ≤ n →
      readFields n (fieldsText fields ++ rest) = some (fields, rest)
  | fields, 0, rest, hn => by cases fields <;> simp [fieldsText] at hn
  | [], n + 1, rest, _ => rfl
  | (k, v) :: fields, n + 1, rest, hn => by
    simp only [fieldsText, strText, List.cons_append, List.append_assoc, List.nil_append,
      List.length_cons, List.length_append] at hn ⊢
    have hv := readValue_text v n (fieldsText fields ++ rest) (by
      simp only [List.length_append]
      omega) (follows_fieldsText fields rest)
    have hfields := readFields_text fields n rest (by
      simp only [List.length_append]
      omega)
    rw [readFields, readString_strText]
    simp only
    rw [hv]
    dsimp only
    rw [hfields]
    rfl

end

theorem parse_text (v : Json) : parse (text v) = some v := by
  have h := readValue_text v (text v).length [] (by rw [List.append_nil]) follows_nil
  rw [List.append_nil] at h
  unfold parse
  rw [h]

theorem text_injective : Function.Injective text := by
  intro v w h
  have hparse : parse (text v) = parse (text w) := congrArg parse h
  rw [parse_text, parse_text] at hparse
  exact Option.some.inj hparse

instance : DecidableEq Json := fun v w =>
  decidable_of_iff (text v = text w) text_injective.eq_iff

end Json
end Lib
