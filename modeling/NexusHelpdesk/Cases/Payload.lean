import NexusHelpdesk.Lib.Bytes
import NexusHelpdesk.Lib.Json
import NexusHelpdesk.Desk.Basic

/-!
# Payloads of the case ledger (`case_outcome_service._safe_payload`)

What a caller passes is cut down, with sensitive values replaced by their digest, before it is
stored.

* `PyValue`: the values of a payload; a key of a dictionary is given by its `str`;
* `safePayload`: `_safe_payload`, with the levels that are left in place of the depth;
* `canonicalJson`: `_canonical_json`, the compact text with sorted keys;
* `sanitizeCaseLedgerPayload`: the payload that is stored, or the error.
-/

namespace NexusHelpdesk.Cases

open Lib

abbrev Text := List Char

inductive PyValue where
  | none
  | bool (b : Bool)
  | int (n : ℤ)
  | float (t : Numeral)
  | str (s : Text)
  | list (items : List PyValue)
  | dict (items : List (Text × PyValue))
  /-- any other object, by its `str`. -/
  | other (s : Text)

/-- the functions of the language and of `hashlib`. -/
structure PyText where
  /-- `hashlib.sha256(text.encode()).hexdigest()`. -/
  sha256 : Text → Text
  lower : Text → Text
  str : PyValue → Text

def sensitiveKeys : List Text :=
  ["body", "content", "message", "prompt", "email", "phone", "address", "contact", "recipient",
    "token", "authorization", "cookie", "password", "secret", "api_key", "raw_payload",
    "provider_payload"].map String.toList

def sensitiveMarkers : List Text := ["token", "secret", "password"].map String.toList

def maxPayloadBytes : ℕ := 16384

/-! ## canonical JSON -/

mutual

/-- the value with the keys of its objects sorted. -/
def sorted : Json → Json
  | .null => .null
  | .bool b => .bool b
  | .num n => .num n
  | .real t => .real t
  | .str s => .str s
  | .arr items => .arr (sortedItems items)
  | .obj fields => .obj ((sortedFields fields).insertionSort fun x y => x.1 ≤ y.1)

def sortedItems : List Json → List Json
  | [] => []
  | v :: items => sorted v :: sortedItems items

def sortedFields : List (Text × Json) → List (Text × Json)
  | [] => []
  | (k, v) :: fields => (k, sorted v) :: sortedFields fields

end

def canonicalJson (v : Json) : Text := (sorted v).text

/-! ## safe payloads -/

section Safe
variable (py : PyText)

def isSensitive (key : Text) : Bool :=
  let normalizedKey := py.lower (PyStr.stripChars key)
  decide (normalizedKey ∈ sensitiveKeys) ||
    sensitiveMarkers.any fun marker => decide (marker <:+: normalizedKey)

def redacted (value : PyValue) : Json :=
  let raw := match value with
    | .none => []
    | value => py.str value
  .obj [("redacted".toList, .bool true), ("length".toList, .num raw.length),
    ("sha256_prefix".toList, .str ((py.sha256 raw).take 16))]

/-- an assignment to a key of a dictionary. -/
def setField (fields : List (Text × Json)) (field : Text × Json) : List (Text × Json) :=
  if field.1 ∈ fields.map Prod.fst then
    fields.map fun old => if old.1 = field.1 then field else old
  else fields ++ [field]

def safeText (s : Text) : Json :=
  if s.length ≤ 240 then .str s
  else
    .obj [("truncated".toList, .bool true), ("length".toList, .num s.length),
      ("sha256_prefix".toList, .str ((py.sha256 s).take 16))]

/-- `_safe_payload` with `levels` more levels. -/
def safePayload : ℕ → Text → PyValue → Json
  | 0, _, _ => .obj [("truncated".toList, .bool true), ("reason".toList, .str "depth".toList)]
  | levels + 1, key, value =>
    if isSensitive py key then redacted py value
    else
      match value with
      | .dict items =>
        .obj (((items.take 40).map fun item =>
          (item.1.take 80, safePayload levels item.1 item.2)).foldl setField [])
      | .list items => .arr ((items.take 40).map (safePayload levels key))
      | .str s => safeText py s
      | .none => .null
      | .bool b => .bool b
      | .int n => .num n
      | .float t => .real t
      | .other s => .str (s.take 240)

/-- `sanitize_case_ledger_payload`; a missing payload is an empty one. -/
def sanitizeCaseLedgerPayload (payload : Option (List (Text × PyValue))) : Except String Json :=
  let safe := safePayload py 5 [] (.dict (payload.getD []))
  if maxPayloadBytes < byteLength (canonicalJson safe) then .error "case_ledger_payload_too_large"
  else .ok safe

end Safe

end NexusHelpdesk.Cases
