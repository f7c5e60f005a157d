import Mathlib

/-!
# Texts as bytes

* `byteLength`: the number of bytes of a text in UTF-8;
* `utf8`, `ofUtf8`: the bytes of a text, and back;
* `base64`, `ofBase64`: bytes as a text of the 64 letters, and back;
* `urlBase64`, `ofUrlBase64`: the same in the alphabet for URLs, without padding;
* `ofUtf8_utf8`, `ofBase64_base64`, `ofUrlBase64_urlBase64`, `length_utf8`, `length_base64`.
-/

namespace Lib

/-! ## UTF-8 -/

def byteLength (cs : List Char) : ℕ := (cs.map Char.utf8Size).sum

@[simp] lemma byteLength_nil : byteLength [] = 0 := rfl

@[simp] lemma byteLength_cons (c : Char) (cs : List Char) :
    byteLength (c :: cs) = c.utf8Size + byteLength cs := rfl

@[simp] lemma byteLength_append (cs ds : List Char) :
    byteLength (cs ++ ds) = byteLength cs + byteLength ds := by
  unfold byteLength
  rw [List.map_append, List.sum_append]

def utf8 (cs : List Char) : List UInt8 := cs.flatMap String.utf8EncodeChar

def ofUtf8 (bytes : List UInt8) : Option (List Char) :=
  bytes.toByteArray.utf8Decode?.map Array.toList

lemma length_utf8 (cs : List Char) : (utf8 cs).length = byteLength cs := by
  induction cs with
  | nil => rfl
  | cons c cs ih =>
    have hcons : utf8 (c :: cs) = String.utf8EncodeChar c ++ utf8 cs := rfl
    rw [hcons, List.length_append, ih, String.length_utf8EncodeChar, byteLength_cons]

lemma ofUtf8_utf8 (cs : List Char) : ofUtf8 (utf8 cs) = some cs := by
  have hencode : (utf8 cs).toByteArray = cs.utf8Encode := rfl
  unfold ofUtf8
  rw [hencode, List.utf8Decode?_utf8Encode]
  rfl

/-! ## base64 -/

def base64Char (n : ℕ) : Char :=
  if n < 26 then Char.ofNat (65 + n)
  else if n < 52 then Char.ofNat (71 + n)
  else if n < 62 then Char.ofNat (n - 4)
  else if n = 62 then '+'
  else '/'

def base64Value (c : Char) : Option ℕ :=
  let n := c.toNat
  if 65 ≤ n ∧ n ≤ 90 then some (n - 65)
  else if 97 ≤ n ∧ n ≤ 122 then some (n - 71)
  else if 48 ≤ n ∧ n ≤ 57 then some (n + 4)
  else if n = 43 then some 62
  else if n = 47 then some 63
  else none

def isBase64 (c : Char) : Bool := (base64Value c).isSome || c == '='

/-- the four letters of three bytes. -/
def base64Group (a b c : UInt8) : List Char :=
  let n := (a.toNat * 256 + b.toNat) * 256 + c.toNat
  [base64Char (n / 262144), base64Char (n / 4096 % 64), base64Char (n / 64 % 64),
    base64Char (n % 64)]

def base64 : List UInt8 → List Char
  | a :: b :: c :: rest => base64Group a b c ++ base64 rest
  | [a, b] => (base64Group a b 0).take 3 ++ ['=']
  | [a] => (base64Group a 0 0).take 2 ++ ['=', '=']
  | [] => []

def base64Bytes (w x y z : Char) : Option (UInt8 × UInt8 × UInt8) :=
  match base64Value w, base64Value x, base64Value y, base64Value z with
  | some w, some x, some y, some z =>
    let n := ((w * 64 + x) * 64 + y) * 64 + z
    some (UInt8.ofNat (n / 65536), UInt8.ofNat (n / 256 % 256), UInt8.ofNat (n % 256))
  | _, _, _, _ => none

def ofBase64 : List Char → Option (List UInt8)
  | [] => some []
  | [w, x, '=', '='] => (base64Bytes w x 'A' 'A').map fun t => [t.1]
  | [w, x, y, '='] => (base64Bytes w x y 'A').map fun t => [t.1, t.2.1]
  | w :: x :: y :: z :: rest =>
    match base64Bytes w x y z, ofBase64 rest with
    | some t, some bytes => some (t.1 :: t.2.1 :: t.2.2 :: bytes)
    | _, _ => none
  | _ => none

lemma base64Value_base64Char {n : ℕ} (h : n < 64) : base64Value (base64Char n) = some n := by
  interval_cases n <;> decide

lemma base64Char_ne {n : ℕ} (h : n < 64) : base64Char n ≠ '=' := by
  interval_cases n <;> decide

lemma base64Bytes_group (a b c : UInt8) :
    let n := (a.toNat * 256 + b.toNat) * 256 + c.toNat
    base64Bytes (base64Char (n / 262144)) (base64Char (n / 4096 % 64)) (base64Char (n / 64 % 64))
      (base64Char (n % 64)) = some (a, b, c) := by
  intro n
  have ha := a.toNat_lt
  have hb := b.toNat_lt
  have hc := c.toNat_lt
  have hn : n = (a.toNat * 256 + b.toNat) * 256 + c.toNat := rfl
  have hjoin : ((n / 262144 * 64 + n / 4096 % 64) * 64 + n / 64 % 64) * 64 + n % 64 = n := by omega
  have h1 : n / 65536 = a.toNat := by omega
  have h2 : n / 256 % 256 = b.toNat := by omega
  have h3 : n % 256 = c.toNat := by omega
  unfold base64Bytes
  rw [base64Value_base64Char (by omega), base64Value_base64Char (by omega),
    base64Value_base64Char (by omega), base64Value_base64Char (by omega)]
  simp only [hjoin, h1, h2, h3, UInt8.ofNat_toNat]

lemma length_base64 (bytes : List UInt8) :
    (base64 bytes).length = 4 * ((bytes.length + 2) / 3) := by
  induction bytes using base64.induct with
  | case1 a b c rest ih =>
    rw [base64, List.length_append, ih]
    simp only [base64Group, List.length_cons, List.length_nil]
    omega
  | case2 a b => simp [base64, base64Group]
  | case3 a => simp [base64, base64Group]
  | case4 => rfl

lemma ofBase64_cons {w x y z : Char} (hz : z ≠ '=') (rest : List Char) :
    ofBase64 (w :: x :: y :: z :: rest) =
      match base64Bytes w x y z, ofBase64 rest with
      | some t, some bytes => some (t.1 :: t.2.1 :: t.2.2 :: bytes)
      | _, _ => none := by
  rw [ofBase64]
  · intro _ heq _
    exact hz heq
  · intro heq _
    exact hz heq

lemma ofBase64_base64 (bytes : List UInt8) : ofBase64 (base64 bytes) = some bytes := by
  induction bytes using base64.induct with
  | case1 a b c rest ih =>
    have hgroup := base64Bytes_group a b c
    rw [base64, base64Group]
    simp only [List.cons_append, List.nil_append]
    rw [ofBase64_cons (base64Char_ne (by omega)), hgroup, ih]
  | case2 a b =>
    have hgroup := base64Bytes_group a b 0
    have hlast : base64Char (((a.toNat * 256 + b.toNat) * 256 + (0 : UInt8).toNat) % 64) = 'A' := by
      have hzero : ((a.toNat * 256 + b.toNat) * 256 + (0 : UInt8).toNat) % 64 = 0 := by
        rw [UInt8.toNat_zero]
        omega
      rw [hzero]
      decide
    simp only [hlast] at hgroup
    rw [base64, base64Group]
    simp only [List.take_succ_cons, List.take_zero, List.cons_append, List.nil_append]
    rw [ofBase64]
    · rw [hgroup]
      rfl
    · intro heq
      exact base64Char_ne (by omega) heq
  | case3 a =>
    have hgroup := base64Bytes_group a 0 0
    have h3 : base64Char
        (((a.toNat * 256 + (0 : UInt8).toNat) * 256 + (0 : UInt8).toNat) / 64 % 64) = 'A' := by
      have hzero : ((a.toNat * 256 + (0 : UInt8).toNat) * 256 + (0 : UInt8).toNat) / 64 % 64 = 0 := by
        rw [UInt8.toNat_zero]
        omega
      rw [hzero]
      decide
    have h4 : base64Char
        (((a.toNat * 256 + (0 : UInt8).toNat) * 256 + (0 : UInt8).toNat) % 64) = 'A' := by
      have hzero : ((a.toNat * 256 + (0 : UInt8).toNat) * 256 + (0 : UInt8).toNat) % 64 = 0 := by
        rw [UInt8.toNat_zero]
        omega
      rw [hzero]
      decide
    simp only [h3, h4] at hgroup
    rw [base64, base64Group]
    simp only [List.take_succ_cons, List.take_zero, List.cons_append, List.nil_append]
    rw [ofBase64, hgroup]
    rfl
  | case4 => rfl

lemma isBase64_base64Char {n : ℕ} (h : n < 64) : isBase64 (base64Char n) = true := by
  unfold isBase64
  rw [base64Value_base64Char h]
  rfl

lemma isBase64_of_mem_group {a b c : UInt8} {x : Char} (hx : x ∈ base64Group a b c) :
    isBase64 x = true := by
  have ha := a.toNat_lt
  have hb := b.toNat_lt
  have hc := c.toNat_lt
  simp only [base64Group, List.mem_cons, List.not_mem_nil, or_false] at hx
  rcases hx with rfl | rfl | rfl | rfl <;> exact isBase64_base64Char (by omega)

lemma isBase64_of_mem_base64 (bytes : List UInt8) : ∀ c ∈ base64 bytes, isBase64 c = true := by
  induction bytes using base64.induct with
  | case1 a b c rest ih =>
    intro x hx
    rw [base64] at hx
    rcases List.mem_append.1 hx with hx | hx
    · exact isBase64_of_mem_group hx
    · exact ih x hx
  | case2 a b =>
    intro x hx
    rw [base64] at hx
    rcases List.mem_append.1 hx with hx | hx
    · exact isBase64_of_mem_group (List.mem_of_mem_take hx)
    · rw [List.mem_singleton] at hx
      subst hx
      decide
  | case3 a =>
    intro x hx
    rw [base64] at hx
    rcases List.mem_append.1 hx with hx | hx
    · exact isBase64_of_mem_group (List.mem_of_mem_take hx)
    · have heq : x = '=' := by simpa using hx
      subst heq
      decide
  | case4 =>
    intro x hx
    cases hx

/-! ## the alphabet for URLs -/

def urlChar (c : Char) : Char := if c = '+' then '-' else if c = '/' then '_' else c

def plainChar (c : Char) : Char := if c = '-' then '+' else if c = '_' then '/' else c

/-- base64 for URLs, the padding cut off. -/
def urlBase64 (bytes : List UInt8) : List Char :=
  ((base64 bytes).map urlChar).rdropWhile (· == '=')

/-- the padding is put back first. -/
def ofUrlBase64 (cs : List Char) : Option (List UInt8) :=
  ofBase64 ((cs ++ List.replicate ((4 - cs.length % 4) % 4) '=').map plainChar)

lemma base64_split (bytes : List UInt8) :
    ∃ letters k, base64 bytes = letters ++ List.replicate k '=' ∧ k ≤ 2 ∧
      ∀ c ∈ letters, c ≠ '=' := by
  have hgroup : ∀ {a b c : UInt8} {x : Char}, x ∈ base64Group a b c → x ≠ '=' := by
    intro a b c x hx
    have ha := a.toNat_lt
    have hb := b.toNat_lt
    have hc := c.toNat_lt
    simp only [base64Group, List.mem_cons, List.not_mem_nil, or_false] at hx
    rcases hx with rfl | rfl | rfl | rfl <;> exact base64Char_ne (by omega)
  induction bytes using base64.induct with
  | case1 a b c rest ih =>
    obtain ⟨letters, k, hsplit, hk, hletters⟩ := ih
    refine ⟨base64Group a b c ++ letters, k, ?_, hk, ?_⟩
    · rw [base64, hsplit, List.append_assoc]
    · intro x hx
      rcases List.mem_append.1 hx with hx | hx
      · exact hgroup hx
      · exact hletters x hx
  | case2 a b => exact ⟨_, 1, rfl, by decide, fun x hx => hgroup (List.mem_of_mem_take hx)⟩
  | case3 a => exact ⟨_, 2, rfl, by decide, fun x hx => hgroup (List.mem_of_mem_take hx)⟩
  | case4 => exact ⟨[], 0, rfl, by decide, fun x hx => by cases hx⟩

lemma plainChar_urlChar {c : Char} (h : isBase64 c = true) : plainChar (urlChar c) = c := by
  unfold urlChar
  by_cases hplus : c = '+'
  · rw [if_pos hplus, hplus]
    rfl
  · rw [if_neg hplus]
    by_cases hslash : c = '/'
    · rw [if_pos hslash, hslash]
      rfl
    · rw [if_neg hslash]
      unfold plainChar
      rw [if_neg, if_neg]
      · rintro rfl
        revert h
        decide
      · rintro rfl
        revert h
        decide

lemma urlChar_eq_pad {c : Char} : urlChar c = '=' ↔ c = '=' := by
  unfold urlChar
  split
  · rename_i hc
    rw [hc]
    decide
  · split
    · rename_i hc
      rw [hc]
      decide
    · exact Iff.rfl

lemma rdropWhile_pad {cs : List Char} {k : ℕ} (h : ∀ c ∈ cs, c ≠ '=') :
    (cs ++ List.replicate k '=').rdropWhile (· == '=') = cs := by
  induction k with
  | zero =>
    rw [List.replicate_zero, List.append_nil, List.rdropWhile_eq_self_iff]
    intro hne
    have hlast := h _ (List.getLast_mem hne)
    simpa using hlast
  | succ k ih =>
    rw [List.replicate_succ', ← List.append_assoc, List.rdropWhile_concat_pos _ _ _ (by decide), ih]

lemma ofUrlBase64_urlBase64 (bytes : List UInt8) : ofUrlBase64 (urlBase64 bytes) = some bytes := by
  obtain ⟨letters, k, hsplit, hk, hletters⟩ := base64_split bytes
  have hurl : urlBase64 bytes = letters.map urlChar := by
    unfold urlBase64
    rw [hsplit, List.map_append, List.map_replicate]
    refine rdropWhile_pad ?_
    intro c hc
    obtain ⟨x, hx, rfl⟩ := List.mem_map.1 hc
    exact fun heq => hletters x hx (urlChar_eq_pad.1 heq)
  have hlength : letters.length + k = 4 * ((bytes.length + 2) / 3) := by
    rw [← length_base64, hsplit, List.length_append, List.length_replicate]
  have hpad : (4 - (letters.map urlChar).length % 4) % 4 = k := by
    rw [List.length_map]
    omega
  have hplain : (letters.map urlChar).map plainChar = letters := by
    rw [List.map_map]
    refine (List.map_congr_left ?_).trans (List.map_id _)
    intro c hc
    refine plainChar_urlChar (isBase64_of_mem_base64 bytes c ?_)
    rw [hsplit]
    exact List.mem_append_left _ hc
  unfold ofUrlBase64
  rw [hurl, hpad, List.map_append, hplain, List.map_replicate]
  show ofBase64 (letters ++ List.replicate k '=') = some bytes
  rw [← hsplit, ofBase64_base64]

lemma length_urlBase64_le (bytes : List UInt8) :
    (urlBase64 bytes).length ≤ 4 * ((bytes.length + 2) / 3) := by
  have hle := (List.rdropWhile_prefix (· == '=') ((base64 bytes).map urlChar)).length_le
  rwa [List.length_map, length_base64] at hle

end Lib
