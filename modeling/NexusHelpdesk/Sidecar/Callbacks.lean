import NexusHelpdesk.Lib.Bytes
import NexusHelpdesk.Lib.Dir
import NexusHelpdesk.Lib.Json
import NexusHelpdesk.Lib.Run

/-!
# The callback spool of the WhatsApp sidecar (`callbackOutbox.ts`)

A callback is an envelope, stored as JSON under AES-256-GCM in a file of its own.  `enqueue` writes
the file, `drain` sends what is due and removes what was delivered.

* `write`, `readBoundedFile`, `decrypt`: the envelope and its file.  The first bounds the plaintext,
  the second the stored text;
* `drainFiles`: the loop of `drainOnce` up to the next `await sender(envelope)`;
* `OutboxStep`: an enqueue, a call of `drain`, the two ways a send ends, and the `finally` of
  `drain`.  Everything between two of them runs without interruption.

The fields `version`, `accepted`, `deliveries` and `drawn` are for the statements: no step reads
them but to fill them.
-/

namespace NexusHelpdesk.Sidecar

open Lib

abbrev Text := List Char

/-! ## accounts -/

def isSpace (c : Char) : Bool :=
  let n := c.toNat
  (9 ≤ n && n ≤ 13) || n == 32 || n == 0xA0 || n == 0x1680 || (0x2000 ≤ n && n ≤ 0x200A) ||
    n == 0x2028 || n == 0x2029 || n == 0x202F || n == 0x205F || n == 0x3000 || n == 0xFEFF

def trim (s : Text) : Text := ((s.dropWhile isSpace).reverse.dropWhile isSpace).reverse

/-- a letter, a digit, a point, an underscore or a dash. -/
def isSafeChar (c : Char) : Bool :=
  let n := c.toNat
  (48 ≤ n && n ≤ 57) || (65 ≤ n && n ≤ 90) || (97 ≤ n && n ≤ 122) || n == 46 || n == 95 || n == 45

def isSafeAccountId (s : Text) : Bool :=
  decide (1 ≤ s.length ∧ s.length ≤ 160) && s.all isSafeChar

structure AccountId where
  chars : Text
  safe : isSafeAccountId chars = true

def assertSafeAccountId (s : Text) : Except String AccountId :=
  if h : isSafeAccountId (trim s) = true then .ok ⟨trim s, h⟩ else .error "invalid_account_id"

/-! ## envelopes -/

inductive CallbackKind where
  | inbound | status | delivery
deriving DecidableEq, Repr

def CallbackKind.text : CallbackKind → Text
  | .inbound => "inbound".toList
  | .status => "status".toList
  | .delivery => "delivery".toList

def CallbackKind.ofText (s : Text) : Option CallbackKind :=
  [CallbackKind.inbound, .status, .delivery].find? fun k => k.text = s

structure CallbackEnvelope where
  id : Text
  kind : CallbackKind
  accountId : AccountId
  payload : Json
  attempts : ℕ
  nextAttemptAt : ℤ
  createdAt : Text

def storedSchema : Text := "nexus.whatsapp.callback.encrypted.v1".toList
def envelopeSchema : Text := "nexus.whatsapp.callback.v1".toList
def maxCallbackFileBytes : ℕ := 256 * 1024
def maxCallbackAttempts : ℕ := 20
def exhaustedAuthorityRetryMs : ℤ := 60 * 60 * 1000

/-- the object `JSON.stringify` prints. -/
def CallbackEnvelope.json (e : CallbackEnvelope) : Json :=
  .obj [("schema".toList, .str envelopeSchema), ("id".toList, .str e.id),
    ("kind".toList, .str e.kind.text), ("account_id".toList, .str e.accountId.chars),
    ("payload".toList, e.payload), ("attempts".toList, .num e.attempts),
    ("next_attempt_at".toList, .num e.nextAttemptAt), ("created_at".toList, .str e.createdAt)]

def CallbackEnvelope.plaintext (e : CallbackEnvelope) : Text := e.json.text

/-- the same callback, whatever was tried so far. -/
def CallbackEnvelope.Same (e f : CallbackEnvelope) : Prop :=
  e.id = f.id ∧ e.kind = f.kind ∧ e.accountId = f.accountId ∧ e.payload = f.payload ∧
    e.createdAt = f.createdAt

/-- the checks of `decrypt` on the parsed plaintext.  Numbers with a fraction or an exponent do not
occur in what `write` stores. -/
def envelopeOf (storedId : Text) (v : Json) : Except String CallbackEnvelope :=
  match v.field "schema", v.field "id", v.field "kind", v.field "account_id", v.field "payload",
    v.field "attempts", v.field "next_attempt_at", v.field "created_at" with
  | some (.str schema), some (.str id), some (.str kind), some (.str account), some payload,
    some (.num attempts), some (.num nextAttemptAt), some (.str createdAt) =>
    if schema ≠ envelopeSchema ∨ id ≠ storedId ∨ attempts < 0 then
      .error "callback_outbox_envelope_invalid"
    else
      match CallbackKind.ofText kind, assertSafeAccountId account with
      | none, _ => .error "callback_outbox_kind_invalid"
      | _, .error err => .error err
      | some kind, .ok account =>
        .ok ⟨id, kind, account, payload, attempts.toNat, nextAttemptAt, createdAt⟩
  | _, _, _, _, _, _, _, _ => .error "callback_outbox_envelope_invalid"

/-! ## files -/

/-- AES-256-GCM under the key of the outbox. -/
structure Cipher where
  encrypt : List UInt8 → List UInt8 → List UInt8 × List UInt8
  decrypt : List UInt8 → List UInt8 → List UInt8 → Option (List UInt8)
  length_ciphertext : ∀ nonce p, (encrypt nonce p).1.length = p.length
  length_tag : ∀ nonce p, (encrypt nonce p).2.length = 16
  decrypt_encrypt : ∀ nonce p, decrypt nonce (encrypt nonce p).1 (encrypt nonce p).2 = some p

structure Nonce where
  bytes : List UInt8
  size : bytes.length = 12

def storedJson (id nonce ciphertext tag : Text) : Json :=
  .obj [("schema".toList, .str storedSchema), ("id".toList, .str id),
    ("nonce".toList, .str nonce), ("ciphertext".toList, .str ciphertext),
    ("auth_tag".toList, .str tag)]

def storedText (c : Cipher) (nonce : Nonce) (e : CallbackEnvelope) : Text :=
  let sealed := c.encrypt nonce.bytes (utf8 e.plaintext)
  (storedJson e.id (base64 nonce.bytes) (base64 sealed.1) (base64 sealed.2)).text

/-- `write`, up to the new content of the file. -/
def write (c : Cipher) (nonce : Nonce) (e : CallbackEnvelope) : Except String Text :=
  if maxCallbackFileBytes < byteLength e.plaintext then .error "callback_outbox_payload_too_large"
  else .ok (storedText c nonce e)

def readBoundedFile (content : Text) : Except String Text :=
  if byteLength content = 0 ∨ maxCallbackFileBytes < byteLength content then
    .error "callback_outbox_file_size_invalid"
  else .ok content

def decrypt (c : Cipher) (serialized : Text) : Except String CallbackEnvelope :=
  match Json.parse serialized with
  | none => .error "SyntaxError"
  | some v =>
    match v.field "schema", v.field "id", v.field "nonce", v.field "ciphertext",
      v.field "auth_tag" with
    | some (.str schema), some (.str id), some (.str nonce), some (.str ciphertext),
      some (.str tag) =>
      if schema ≠ storedSchema then .error "callback_outbox_schema_invalid"
      else
        match ofBase64 nonce, ofBase64 ciphertext, ofBase64 tag with
        | some nonce, some ciphertext, some tag =>
          match c.decrypt nonce ciphertext tag with
          | none => .error "Unsupported state or unable to authenticate data"
          | some bytes =>
            match (ofUtf8 bytes).bind Json.parse with
            | none => .error "SyntaxError"
            | some v => envelopeOf id v
        | _, _, _ => .error "Invalid data"
    | _, _, _, _, _ => .error "callback_outbox_schema_invalid"

/-! ## the outbox -/

structure SpoolFile where
  content : Text
  version : ℕ

/-- what waits for the sender: the file, the text that was read and its envelope. -/
structure Sending where
  file : Text
  serialized : Text
  envelope : CallbackEnvelope
  version : ℕ

/-- the local variables of `drainOnce` at its `await`. -/
structure DrainOp where
  todo : List Text
  dueLimit : ℕ
  attemptedDue : ℕ
  delivered : ℕ
  pending : ℕ
  sending : Sending

/-- an envelope whose `enqueue` returned. -/
structure Accepted where
  envelope : CallbackEnvelope
  dedupeKey : Option Text

structure Delivery where
  envelope : CallbackEnvelope
  version : ℕ

structure Outbox where
  dir : Dir Text SpoolFile
  drainInFlight : Option ℕ
  running : List (ℕ × DrainOp)
  operations : ℕ
  accepted : List Accepted
  deliveries : List Delivery
  drawn : List Nonce

def Outbox.empty : Outbox := ⟨.empty, none, [], 0, [], [], []⟩

/-- the cipher, and the digest of a key in hexadecimal. -/
structure Crypto where
  cipher : Cipher
  sha256 : Text → Text

/-! ## enqueue -/

/-- a call of `enqueue` with the clock values it reads, the text of the date and the random values
it draws. -/
structure Enqueue where
  kind : CallbackKind
  accountId : Text
  payload : Json
  dedupeKey : Option Text
  idNow : ℤ
  dueNow : ℤ
  createdAt : Text
  uuid : Text
  nonce : Nonce

/-- the key by which a later callback replaces this one; an empty key is none. -/
def Enqueue.key (q : Enqueue) : Option Text := q.dedupeKey.filter fun k => !k.isEmpty

def Enqueue.id (crypto : Crypto) (q : Enqueue) : Text :=
  match q.key with
  | some key => "replaceable-".toList ++ crypto.sha256 key
  | none => Json.intText q.idNow ++ '-' :: q.uuid

def Enqueue.envelope (crypto : Crypto) (q : Enqueue) (account : AccountId) : CallbackEnvelope where
  id := q.id crypto
  kind := q.kind
  accountId := account
  payload := q.payload
  attempts := 0
  nextAttemptAt := q.dueNow
  createdAt := q.createdAt

def enqueue (crypto : Crypto) (q : Enqueue) (s : Outbox) : Except String (Text × Outbox) :=
  match assertSafeAccountId q.accountId with
  | .error err => .error err
  | .ok account =>
    let e := q.envelope crypto account
    match write crypto.cipher q.nonce e with
    | .error err => .error err
    | .ok content =>
      .ok (e.id,
        { s with
          dir := s.dir.write e.id ⟨content, s.accepted.length⟩
          accepted := s.accepted ++ [⟨e, q.key⟩]
          drawn := q.nonce :: s.drawn })

/-! ## drain -/

/-- what one stretch of `drainOnce` meets, by the file it comes to: the clock, and whether a read
fails with an I/O error. -/
structure Segment where
  now : Text → ℤ
  readFails : Text → Bool
  recheckFails : Text → Bool

/-- the loop ended, or it waits for the sender. -/
inductive DrainState where
  | finished (delivered pending : ℕ)
  | waiting (op : DrainOp)

def isCurrentVersion (fails : Bool) (file serialized : Text) (dir : Dir Text SpoolFile) : Bool :=
  !fails && (dir.get? file).any fun f =>
    match readBoundedFile f.content with
    | .ok content => content == serialized
    | .error _ => false

/-- the loop of `drainOnce` up to its next `await`. -/
def drainFiles (c : Cipher) (seg : Segment) (dueLimit attemptedDue delivered : ℕ) :
    List Text → ℕ → Dir Text SpoolFile → DrainState × Dir Text SpoolFile
  | [], pending, dir => (.finished delivered pending, dir)
  | file :: todo, pending, dir =>
    match dir.get? file with
    | none => drainFiles c seg dueLimit attemptedDue delivered todo pending dir
    | some f =>
      if seg.readFails file then
        drainFiles c seg dueLimit attemptedDue delivered todo pending (dir.remove file)
      else
        match readBoundedFile f.content with
        | .error _ => drainFiles c seg dueLimit attemptedDue delivered todo pending (dir.remove file)
        | .ok serialized =>
          match decrypt c serialized with
          | .error _ =>
            drainFiles c seg dueLimit attemptedDue delivered todo pending
              (if isCurrentVersion (seg.recheckFails file) file serialized dir then dir.remove file
                else dir)
          | .ok e =>
            if seg.now file < e.nextAttemptAt then
              drainFiles c seg dueLimit attemptedDue delivered todo (pending + 1) dir
            else if dueLimit ≤ attemptedDue then (.finished delivered pending, dir)
            else
              (.waiting ⟨todo, dueLimit, attemptedDue + 1, delivered, pending,
                ⟨file, serialized, e, f.version⟩⟩, dir)

def spoolNames (dir : Dir Text SpoolFile) : List Text :=
  dir.names.insertionSort fun a b => a ++ ".json".toList ≤ b ++ ".json".toList

/-- the operation `k` goes on with the files `todo`. -/
def goOn (c : Cipher) (seg : Segment) (k dueLimit attemptedDue delivered pending : ℕ)
    (todo : List Text) (s : Outbox) : Outbox :=
  match drainFiles c seg dueLimit attemptedDue delivered todo pending s.dir with
  | (.finished _ _, dir) => { s with dir := dir, running := s.running.filter fun r => r.1 ≠ k }
  | (.waiting op, dir) =>
    { s with dir := dir, running := (k, op) :: s.running.filter fun r => r.1 ≠ k }

/-- `drain`; a call during a drain returns its promise. -/
def drain (c : Cipher) (limit : ℤ) (seg : Segment) (s : Outbox) : Outbox :=
  match s.drainInFlight with
  | some _ => s
  | none =>
    goOn c seg s.operations (max 1 (min limit 1000)).toNat 0 0 0 (spoolNames s.dir)
      { s with drainInFlight := some s.operations, operations := s.operations + 1 }

def findOp (k : ℕ) (s : Outbox) : Option DrainOp := (s.running.find? fun r => r.1 = k).map (·.2)

def resolveSend (c : Cipher) (k : ℕ) (recheckFails : Bool) (seg : Segment) (s : Outbox) : Outbox :=
  match findOp k s with
  | none => s
  | some op =>
    let x := op.sending
    let current := isCurrentVersion recheckFails x.file x.serialized s.dir
    goOn c seg k op.dueLimit op.attemptedDue (op.delivered + 1)
      (if current then op.pending else op.pending + 1) op.todo
      { s with
        dir := if current then s.dir.remove x.file else s.dir
        deliveries := s.deliveries ++ [⟨x.envelope, x.version⟩] }

/-- the envelope that is written back after a failed send. -/
def CallbackEnvelope.retried (now : ℤ) (e : CallbackEnvelope) : CallbackEnvelope :=
  if maxCallbackAttempts ≤ e.attempts + 1 then
    { e with
      attempts := maxCallbackAttempts
      nextAttemptAt := now + exhaustedAuthorityRetryMs }
  else
    { e with
      attempts := e.attempts + 1
      nextAttemptAt := now + min (1000 * 2 ^ min (e.attempts + 1) 10) 300000 }

/-- the sender rejects for operation `k`.  An exception of `write` ends the drain. -/
def rejectSend (c : Cipher) (k : ℕ) (recheckFails : Bool) (now : ℤ) (nonce : Nonce) (seg : Segment)
    (s : Outbox) : Outbox :=
  match findOp k s with
  | none => s
  | some op =>
    let x := op.sending
    if isCurrentVersion recheckFails x.file x.serialized s.dir then
      let e := x.envelope.retried now
      match write c nonce e with
      | .error _ => { s with running := s.running.filter fun r => r.1 ≠ k }
      | .ok content =>
        goOn c seg k op.dueLimit op.attemptedDue op.delivered (op.pending + 1) op.todo
          { s with dir := s.dir.write e.id ⟨content, x.version⟩, drawn := nonce :: s.drawn }
    else goOn c seg k op.dueLimit op.attemptedDue op.delivered (op.pending + 1) op.todo s

/-- the `finally` of `drain`, once its operation has settled. -/
def settleDrain (k : ℕ) (s : Outbox) : Outbox :=
  if s.drainInFlight = some k ∧ (findOp k s).isNone then { s with drainInFlight := none } else s

inductive OutboxStep where
  | enqueue (q : Enqueue)
  | drain (limit : ℤ) (seg : Segment)
  | resolve (k : ℕ) (recheckFails : Bool) (seg : Segment)
  | reject (k : ℕ) (recheckFails : Bool) (now : ℤ) (nonce : Nonce) (seg : Segment)
  | settle (k : ℕ)

def OutboxStep.apply (crypto : Crypto) : OutboxStep → Outbox → Outbox
  | .enqueue q, s =>
    match Sidecar.enqueue crypto q s with
    | .ok (_, s') => s'
    | .error _ => s
  | .drain limit seg, s => Sidecar.drain crypto.cipher limit seg s
  | .resolve k fails seg, s => resolveSend crypto.cipher k fails seg s
  | .reject k fails now nonce seg, s => rejectSend crypto.cipher k fails now nonce seg s
  | .settle k, s => settleDrain k s

end NexusHelpdesk.Sidecar
