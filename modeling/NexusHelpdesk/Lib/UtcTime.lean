import NexusHelpdesk.Lib.Json

/-!
# Times of the calendar

A time in UTC with its fields, as it is printed and read.

* `UtcTime`: the fields of a time, each in its range;
* `UtcTime.micros`: the microseconds since the first day of the calendar;
* `UtcTime.text`, `UtcTime.ofText`: the ISO text of a time, with `Z` for UTC, and back;
* `UtcTime.ofText_text`: **the text of a time is read as that time**.
-/

namespace Lib

/-! ## numbers of a fixed width -/

section Fixed
open Json

/-- the last `n` decimal digits of a number. -/
def fixedText : ℕ → ℕ → List Char
  | 0, _ => []
  | n + 1, v => fixedText n (v / 10) ++ [digitChar (v % 10)]

/-- a number of exactly `n` digits, and the rest of the text. -/
def readFixed (n : ℕ) (cs : List Char) : Option (ℕ × List Char) :=
  let ds := cs.take n
  if ds.length = n ∧ ds.all Char.isDigit = true then
    some (ds.foldl (fun v c => v * 10 + (c.toNat - 48)) 0, cs.drop n)
  else none

def readChar (c : Char) : List Char → Option (List Char)
  | d :: rest => if d = c then some rest else none
  | [] => none

lemma length_fixedText (n v : ℕ) : (fixedText n v).length = n := by
  induction n generalizing v with
  | zero => rfl
  | succ n ih => rw [fixedText, List.length_append, ih, List.length_singleton]

lemma mem_fixedText {n v : ℕ} {c : Char} (h : c ∈ fixedText n v) :
    ∃ d, d < 10 ∧ c = digitChar d := by
  induction n generalizing v with
  | zero => cases h
  | succ n ih =>
    rw [fixedText] at h
    rcases List.mem_append.1 h with h | h
    · exact ih h
    · exact ⟨v % 10, Nat.mod_lt _ (by decide), List.mem_singleton.1 h⟩

lemma value_fixedText {n v : ℕ} (h : v < 10 ^ n) :
    (fixedText n v).foldl (fun v c => v * 10 + (c.toNat - 48)) 0 = v := by
  induction n generalizing v with
  | zero =>
    rw [pow_zero, Nat.lt_one_iff] at h
    rw [h]
    rfl
  | succ n ih =>
    have hdiv : v / 10 < 10 ^ n := by
      rw [Nat.div_lt_iff_lt_mul (by decide)]
      rwa [pow_succ] at h
    rw [fixedText, List.foldl_append, ih hdiv]
    show v / 10 * 10 + ((digitChar (v % 10)).toNat - 48) = v
    rw [digitChar_toNat (Nat.mod_lt _ (by decide))]
    omega

lemma readFixed_fixedText {n v : ℕ} (h : v < 10 ^ n) (rest : List Char) :
    readFixed n (fixedText n v ++ rest) = some (v, rest) := by
  have htake : (fixedText n v ++ rest).take n = fixedText n v := by
    rw [List.take_append_of_le_length (length_fixedText n v).ge,
      List.take_of_length_le (length_fixedText n v).le]
  have hdrop : (fixedText n v ++ rest).drop n = rest := by
    rw [List.drop_append_of_le_length (length_fixedText n v).ge,
      List.drop_of_length_le (length_fixedText n v).le, List.nil_append]
  have hdigits : (fixedText n v).all Char.isDigit = true := by
    rw [List.all_eq_true]
    intro c hc
    obtain ⟨d, hd, rfl⟩ := mem_fixedText hc
    exact digitChar_isDigit hd
  unfold readFixed
  dsimp only
  rw [htake, hdrop, if_pos ⟨length_fixedText n v, hdigits⟩, value_fixedText h]

lemma readChar_cons (c : Char) (rest : List Char) : readChar c (c :: rest) = some rest :=
  if_pos rfl

end Fixed

/-! ## the calendar -/

def isLeap (year : ℕ) : Bool := year % 4 = 0 && (year % 100 ≠ 0 || year % 400 = 0)

def daysInMonth (year month : ℕ) : ℕ :=
  if month = 2 then (if isLeap year then 29 else 28)
  else if month = 4 ∨ month = 6 ∨ month = 9 ∨ month = 11 then 30
  else 31

structure UtcTime where
  year : ℕ
  month : ℕ
  day : ℕ
  hour : ℕ
  minute : ℕ
  second : ℕ
  microsecond : ℕ
  date : 1 ≤ year ∧ year < 10 ^ 4 ∧ 1 ≤ month ∧ month ≤ 12 ∧ 1 ≤ day ∧
    day ≤ daysInMonth year month
  time : hour < 24 ∧ minute < 60 ∧ second < 60 ∧ microsecond < 10 ^ 6
deriving DecidableEq, Repr

namespace UtcTime

/-- the number of the day, the first of January of the year 1 is day 1. -/
def ordinal (t : UtcTime) : ℕ :=
  (t.year - 1) * 365 + (t.year - 1) / 4 - (t.year - 1) / 100 + (t.year - 1) / 400 +
    ((List.range' 1 (t.month - 1)).map (daysInMonth t.year)).sum + t.day

@[irreducible] def micros (t : UtcTime) : ℤ :=
  (((t.ordinal * 24 + t.hour) * 60 + t.minute) * 60 + t.second) * 1000000 + t.microsecond

/-! ## the text of a time -/

/-- the fraction of the second, which is left out where it is zero. -/
def fractionText (microsecond : ℕ) : List Char :=
  if microsecond = 0 then [] else '.' :: fixedText 6 microsecond

def text (t : UtcTime) : List Char :=
  fixedText 4 t.year ++ '-' :: (fixedText 2 t.month ++ '-' :: (fixedText 2 t.day ++
    'T' :: (fixedText 2 t.hour ++ ':' :: (fixedText 2 t.minute ++ ':' ::
      (fixedText 2 t.second ++ (fractionText t.microsecond ++ ['Z']))))))

def readFraction (cs : List Char) : Option (ℕ × List Char) :=
  match cs with
  | '.' :: rest => readFixed 6 rest
  | _ => some (0, cs)

def ofText (cs : List Char) : Option UtcTime := do
  let (year, cs) ← readFixed 4 cs
  let (month, cs) ← readFixed 2 (← readChar '-' cs)
  let (day, cs) ← readFixed 2 (← readChar '-' cs)
  let (hour, cs) ← readFixed 2 (← readChar 'T' cs)
  let (minute, cs) ← readFixed 2 (← readChar ':' cs)
  let (second, cs) ← readFixed 2 (← readChar ':' cs)
  let (microsecond, cs) ← readFraction cs
  if cs ≠ ['Z'] then none
  else if h : (1 ≤ year ∧ year < 10 ^ 4 ∧ 1 ≤ month ∧ month ≤ 12 ∧ 1 ≤ day ∧
      day ≤ daysInMonth year month) ∧
      (hour < 24 ∧ minute < 60 ∧ second < 60 ∧ microsecond < 10 ^ 6) then
    some ⟨year, month, day, hour, minute, second, microsecond, h.1, h.2⟩
  else none

lemma readFraction_fractionText {v : ℕ} (h : v < 10 ^ 6) :
    readFraction (fractionText v ++ ['Z']) = some (v, ['Z']) := by
  unfold fractionText
  by_cases hzero : v = 0
  · rw [if_pos hzero, hzero]
    rfl
  · rw [if_neg hzero]
    exact readFixed_fixedText h _

lemma daysInMonth_le (year month : ℕ) : daysInMonth year month ≤ 31 := by
  unfold daysInMonth
  split
  · split <;> decide
  · split <;> decide

theorem ofText_text (t : UtcTime) : ofText t.text = some t := by
  obtain ⟨year, month, day, hour, minute, second, microsecond, hdate, htime⟩ := t
  obtain ⟨-, hyear, -, hmonth, -, hday⟩ := id hdate
  obtain ⟨hhour, hminute, hsecond, hmicro⟩ := id htime
  have hdays := daysInMonth_le year month
  have hmonth' : month < 10 ^ 2 := by omega
  have hday' : day < 10 ^ 2 := by omega
  have hhour' : hour < 10 ^ 2 := by omega
  have hminute' : minute < 10 ^ 2 := by omega
  have hsecond' : second < 10 ^ 2 := by omega
  unfold ofText text
  dsimp only
  rw [readFixed_fixedText hyear]
  simp only [Option.bind_eq_bind, Option.bind_some, readChar_cons]
  rw [readFixed_fixedText hmonth']
  simp only [Option.bind_some, readChar_cons]
  rw [readFixed_fixedText hday']
  simp only [Option.bind_some, readChar_cons]
  rw [readFixed_fixedText hhour']
  simp only [Option.bind_some, readChar_cons]
  rw [readFixed_fixedText hminute']
  simp only [Option.bind_some, readChar_cons]
  rw [readFixed_fixedText hsecond']
  simp only [Option.bind_some]
  rw [readFraction_fractionText hmicro]
  simp only [Option.bind_some]
  rw [if_neg (not_not.2 rfl), dif_pos ⟨hdate, htime⟩]

lemma length_text_le (t : UtcTime) : t.text.length ≤ 27 := by
  have hfraction : (fractionText t.microsecond).length ≤ 7 := by
    unfold fractionText
    split
    · exact Nat.zero_le _
    · rw [List.length_cons, length_fixedText]
  unfold text
  simp only [List.length_append, List.length_cons, length_fixedText, List.length_nil]
  omega

lemma mem_text {t : UtcTime} {c : Char} (h : c ∈ t.text) :
    (∃ d, d < 10 ∧ c = Json.digitChar d) ∨ c ∈ ['-', 'T', ':', '.', 'Z'] := by
  have hfraction : c ∈ fractionText t.microsecond →
      (∃ d, d < 10 ∧ c = Json.digitChar d) ∨ c = '.' := by
    intro hc
    unfold fractionText at hc
    split at hc
    · cases hc
    · rcases List.mem_cons.1 hc with hdot | hdigit
      · exact .inr hdot
      · exact .inl (mem_fixedText hdigit)
  unfold text at h
  simp only [List.mem_append, List.mem_cons, List.not_mem_nil, or_false] at h
  have hdigits : ∀ {n v : ℕ}, c ∈ fixedText n v → ∃ d, d < 10 ∧ c = Json.digitChar d :=
    fun hc => mem_fixedText hc
  simp only [List.mem_cons, List.not_mem_nil, or_false]
  rcases h with h | h | h | h | h | h | h | h | h | h | h | h | h
  · exact .inl (hdigits h)
  · exact .inr (.inl h)
  · exact .inl (hdigits h)
  · exact .inr (.inl h)
  · exact .inl (hdigits h)
  · exact .inr (.inr (.inl h))
  · exact .inl (hdigits h)
  · exact .inr (.inr (.inr (.inl h)))
  · exact .inl (hdigits h)
  · exact .inr (.inr (.inr (.inl h)))
  · exact .inl (hdigits h)
  · rcases hfraction h with hd | hdot
    · exact .inl hd
    · exact .inr (.inr (.inr (.inr (.inl hdot))))
  · exact .inr (.inr (.inr (.inr (.inr h))))

end UtcTime

end Lib
