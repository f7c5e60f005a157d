import NexusHelpdesk.Sidecar.Callbacks

/-!
# What is read back from a spool file

`write` bounds the plaintext of an envelope, `readBoundedFile` the text of its file, which holds the
plaintext in base64 and is longer by a third.

* `decrypt_storedText`: the text that was stored decrypts to the envelope, whatever its size;
* `byteLength_storedText`: the size of the file;
* `readBack_iff`: **an envelope that was written is read back if and only if its file is within the
  bound**.
-/

namespace NexusHelpdesk.Sidecar

open Lib

/-! ## accounts and kinds -/

lemma isSpace_of_isSafeChar {c : Char} (h : isSafeChar c = true) : isSpace c = false := by
  simp only [isSafeChar, Bool.or_eq_true, Bool.and_eq_true, decide_eq_true_eq, beq_iff_eq] at h
  simp only [isSpace, Bool.or_eq_false_iff, Bool.and_eq_false_iff, decide_eq_false_iff_not,
    beq_eq_false_iff_ne, ne_eq]
  omega

lemma dropWhile_of_all_false {p : Char → Bool} {l : List Char} (h : ∀ c ∈ l, p c = false) :
    l.dropWhile p = l := by
  cases l with
  | nil => rfl
  | cons c l => rw [List.dropWhile_cons, h c (List.mem_cons_self ..), if_neg Bool.false_ne_true]

lemma AccountId.trim_chars (a : AccountId) : trim a.chars = a.chars := by
  have hsafe := a.safe
  simp only [isSafeAccountId, Bool.and_eq_true, List.all_eq_true] at hsafe
  have hplain : ∀ c ∈ a.chars, isSpace c = false := fun c hc =>
    isSpace_of_isSafeChar (hsafe.2 c hc)
  unfold trim
  rw [dropWhile_of_all_false hplain, dropWhile_of_all_false, List.reverse_reverse]
  intro c hc
  exact hplain c (List.mem_reverse.1 hc)

lemma assertSafeAccountId_chars (a : AccountId) : assertSafeAccountId a.chars = .ok a := by
  have hsafe : isSafeAccountId (trim a.chars) = true := by
    rw [a.trim_chars]
    exact a.safe
  unfold assertSafeAccountId
  rw [dif_pos hsafe]
  rw [Except.ok.injEq]
  obtain ⟨chars, h⟩ := a
  rw [AccountId.mk.injEq]
  exact AccountId.trim_chars ⟨chars, h⟩

lemma CallbackKind.ofText_text (k : CallbackKind) : CallbackKind.ofText k.text = some k := by
  cases k <;> decide +kernel

lemma envelopeOf_json (e : CallbackEnvelope) : envelopeOf e.id e.json = .ok e := by
  have hschema : e.json.field "schema" = some (.str envelopeSchema) := rfl
  have hid : e.json.field "id" = some (.str e.id) := rfl
  have hkind : e.json.field "kind" = some (.str e.kind.text) := rfl
  have haccount : e.json.field "account_id" = some (.str e.accountId.chars) := rfl
  have hpayload : e.json.field "payload" = some e.payload := rfl
  have hattempts : e.json.field "attempts" = some (.num e.attempts) := rfl
  have hnext : e.json.field "next_attempt_at" = some (.num e.nextAttemptAt) := rfl
  have hcreated : e.json.field "created_at" = some (.str e.createdAt) := rfl
  unfold envelopeOf
  rw [hschema, hid, hkind, haccount, hpayload, hattempts, hnext, hcreated]
  dsimp only
  rw [if_neg (by simp), CallbackKind.ofText_text, assertSafeAccountId_chars]
  rfl

lemma decrypt_storedText (c : Cipher) (nonce : Nonce) (e : CallbackEnvelope) :
    decrypt c (storedText c nonce e) = .ok e := by
  unfold storedText
  dsimp only
  generalize hsealed : c.encrypt nonce.bytes (utf8 e.plaintext) = sealed
  have hback : c.decrypt nonce.bytes sealed.1 sealed.2 = some (utf8 e.plaintext) := by
    rw [← hsealed]
    exact c.decrypt_encrypt nonce.bytes _
  generalize hv : storedJson e.id (base64 nonce.bytes) (base64 sealed.1) (base64 sealed.2) = v
  have hschema : v.field "schema" = some (.str storedSchema) := by rw [← hv]; rfl
  have hid : v.field "id" = some (.str e.id) := by rw [← hv]; rfl
  have hnonce : v.field "nonce" = some (.str (base64 nonce.bytes)) := by rw [← hv]; rfl
  have hciphertext : v.field "ciphertext" = some (.str (base64 sealed.1)) := by rw [← hv]; rfl
  have htag : v.field "auth_tag" = some (.str (base64 sealed.2)) := by rw [← hv]; rfl
  have hplain : (ofUtf8 (utf8 e.plaintext)).bind Json.parse = some e.json := by
    rw [ofUtf8_utf8, Option.bind_some]
    exact Json.parse_text e.json
  unfold decrypt
  rw [Json.parse_text]
  dsimp only
  rw [hschema, hid, hnonce, hciphertext, htag]
  dsimp only
  rw [if_neg (by simp), ofBase64_base64, ofBase64_base64, ofBase64_base64]
  dsimp only
  rw [hback]
  dsimp only
  rw [hplain]
  exact envelopeOf_json e

/-! ## the size -/

lemma escape_of_isBase64 {c : Char} (h : isBase64 c = true) :
    Json.escape c = [c] ∧ c.utf8Size = 1 := by
  have hrange : 43 ≤ c.toNat ∧ c.toNat ≤ 122 ∧ c.toNat ≠ 92 := by
    unfold isBase64 base64Value at h
    dsimp only at h
    by_cases heq : c = '='
    · subst heq
      decide
    · have hne : (c == '=') = false := by simpa using heq
      rw [hne, Bool.or_false] at h
      split_ifs at h <;> first | omega | cases h
  have hne : ∀ d : Char, d.toNat < 43 ∨ d.toNat = 92 → c ≠ d := by
    intro d hd heq
    subst heq
    omega
  constructor
  · unfold Json.escape
    rw [if_neg (hne _ (by decide)), if_neg (hne _ (by decide)), if_neg (hne _ (by decide)),
      if_neg (hne _ (by decide)), if_neg (hne _ (by decide)), if_neg (hne _ (by decide)),
      if_neg (hne _ (by decide)), if_neg (by omega)]
  · rw [Char.utf8Size_eq_one_iff, UInt32.le_iff_toNat_le]
    have htoNat : c.val.toNat = c.toNat := rfl
    rw [htoNat]
    have hlit : (127 : UInt32).toNat = 127 := rfl
    omega

lemma byteLength_strText_base64 (bytes : List UInt8) :
    byteLength (Json.strText (base64 bytes)) = 4 * ((bytes.length + 2) / 3) + 2 := by
  have hplain : ∀ l : Text, (∀ c ∈ l, isBase64 c = true) →
      byteLength (l.flatMap Json.escape) = l.length := by
    intro l hl
    induction l with
    | nil => rfl
    | cons c l ih =>
      obtain ⟨hesc, hsize⟩ := escape_of_isBase64 (hl c (List.mem_cons_self ..))
      rw [List.flatMap_cons, hesc, byteLength_append, byteLength_cons, byteLength_nil, hsize,
        ih fun d hd => hl d (List.mem_cons_of_mem _ hd), List.length_cons]
      omega
  have hquote : byteLength ['\"'] = 1 := by decide
  unfold Json.strText
  rw [byteLength_cons, byteLength_append, hplain _ (isBase64_of_mem_base64 bytes), length_base64,
    hquote]
  have hone : Char.utf8Size '\"' = 1 := by decide
  omega

def fileSize (e : CallbackEnvelope) : ℕ :=
  byteLength (Json.strText e.id) + 4 * ((byteLength e.plaintext + 2) / 3) + 136

def fieldsSize (fields : List (Text × Json)) : ℕ :=
  (fields.map fun f => byteLength (Json.strText f.1) + byteLength f.2.text + 2).sum

lemma byteLength_fieldsText (fields : List (Text × Json)) :
    byteLength (Json.fieldsText fields) = fieldsSize fields + 1 := by
  have hpunct : Char.utf8Size '}' = 1 ∧ Char.utf8Size ',' = 1 ∧ Char.utf8Size ':' = 1 := by decide
  induction fields with
  | nil => simp only [Json.fieldsText, byteLength_cons, byteLength_nil, hpunct]; rfl
  | cons f fields ih =>
    obtain ⟨k, v⟩ := f
    simp only [Json.fieldsText, byteLength_cons, byteLength_append, hpunct, ih, fieldsSize,
      List.map_cons, List.sum_cons]
    omega

lemma byteLength_obj (f : Text × Json) (fields : List (Text × Json)) :
    byteLength (Json.text (.obj (f :: fields))) = fieldsSize (f :: fields) + 1 := by
  have hpunct : Char.utf8Size '{' = 1 ∧ Char.utf8Size ':' = 1 := by decide
  obtain ⟨k, v⟩ := f
  simp only [Json.text, byteLength_cons, byteLength_append, byteLength_fieldsText, hpunct,
    fieldsSize, List.map_cons, List.sum_cons]
  omega

lemma fieldsSize_cons (k : Text) (v : Json) (fields : List (Text × Json)) :
    fieldsSize ((k, v) :: fields) =
      byteLength (Json.strText k) + byteLength v.text + 2 + fieldsSize fields := by
  unfold fieldsSize
  rw [List.map_cons, List.sum_cons]

lemma fieldsSize_nil : fieldsSize [] = 0 := rfl

lemma text_str (s : Text) : Json.text (.str s) = Json.strText s := by rw [Json.text]

lemma text_num (n : ℤ) : Json.text (.num n) = Json.intText n := by rw [Json.text]

lemma byteLength_storedText (c : Cipher) (nonce : Nonce) (e : CallbackEnvelope) :
    byteLength (storedText c nonce e) = fileSize e := by
  have hct : (c.encrypt nonce.bytes (utf8 e.plaintext)).1.length = byteLength e.plaintext := by
    rw [c.length_ciphertext, length_utf8]
  have htag := c.length_tag nonce.bytes (utf8 e.plaintext)
  have hkeys : byteLength (Json.strText "schema".toList) = 8 ∧
      byteLength (Json.strText storedSchema) = 38 ∧ byteLength (Json.strText "id".toList) = 4 ∧
      byteLength (Json.strText "nonce".toList) = 7 ∧
      byteLength (Json.strText "ciphertext".toList) = 12 ∧
      byteLength (Json.strText "auth_tag".toList) = 10 := by decide +kernel
  obtain ⟨h₁, h₂, h₃, h₄, h₅, h₆⟩ := hkeys
  unfold storedText storedJson
  rw [byteLength_obj]
  iterate 5 rw [fieldsSize_cons, text_str]
  rw [fieldsSize_nil, byteLength_strText_base64, byteLength_strText_base64,
    byteLength_strText_base64, hct, htag, nonce.size, h₁, h₂, h₃, h₄, h₅, h₆]
  unfold fileSize
  omega

lemma byteLength_plaintext (e : CallbackEnvelope) :
    byteLength e.plaintext =
      byteLength (Json.strText e.id) + byteLength (Json.strText e.kind.text) +
      byteLength (Json.strText e.accountId.chars) + byteLength e.payload.text +
      byteLength (Json.intText e.attempts) + byteLength (Json.intText e.nextAttemptAt) +
      byteLength (Json.strText e.createdAt) + 123 := by
  have hkeys : byteLength (Json.strText "schema".toList) = 8 ∧
      byteLength (Json.strText envelopeSchema) = 28 ∧ byteLength (Json.strText "id".toList) = 4 ∧
      byteLength (Json.strText "kind".toList) = 6 ∧
      byteLength (Json.strText "account_id".toList) = 12 ∧
      byteLength (Json.strText "payload".toList) = 9 ∧
      byteLength (Json.strText "attempts".toList) = 10 ∧
      byteLength (Json.strText "next_attempt_at".toList) = 17 ∧
      byteLength (Json.strText "created_at".toList) = 12 := by decide +kernel
  obtain ⟨h₁, h₂, h₃, h₄, h₅, h₆, h₇, h₈, h₉⟩ := hkeys
  unfold CallbackEnvelope.plaintext CallbackEnvelope.json
  rw [byteLength_obj]
  iterate 8 rw [fieldsSize_cons]
  iterate 5 rw [text_str]
  iterate 2 rw [text_num]
  rw [fieldsSize_nil, h₁, h₂, h₃, h₄, h₅, h₆, h₇, h₈, h₉]
  omega

lemma readBack_iff (c : Cipher) (nonce : Nonce) (e : CallbackEnvelope) :
    (readBoundedFile (storedText c nonce e)).bind (decrypt c) = .ok e ↔
      fileSize e ≤ maxCallbackFileBytes := by
  have hpos : byteLength (storedText c nonce e) ≠ 0 := by
    rw [byteLength_storedText]
    unfold fileSize
    omega
  unfold readBoundedFile
  rw [byteLength_storedText] at hpos ⊢
  by_cases hle : fileSize e ≤ maxCallbackFileBytes
  · rw [if_neg (by omega)]
    exact iff_of_true (decrypt_storedText c nonce e) hle
  · rw [if_pos (by omega)]
    refine iff_of_false ?_ hle
    intro hcontra
    cases hcontra

end NexusHelpdesk.Sidecar
