import Mathlib

/-!
# Vocabulary shared by the services

Instants, the errors the services raise, Python's text helpers and the enumerations that several
services read (`enums.py`).

* `Instant`: microseconds since the epoch, in UTC; `seconds n`, `minutes n` are durations;
* `HTTPException`: status code and detail text of a refused request;
* `PyStr.strip`, `PyStr.lower`: `str.strip()` and `str.lower()`;
* `SourceChannel`, `ConversationState`, `TicketStatus`, `MessageStatus`, `JobStatus`.
-/

namespace NexusHelpdesk

/-- microseconds since the epoch. -/
abbrev Instant := ℤ

def seconds (n : ℤ) : ℤ := n * 1000000

def minutes (n : ℤ) : ℤ := seconds (n * 60)

lemma seconds_add (m n : ℤ) : seconds (m + n) = seconds m + seconds n := by
  unfold seconds
  ring

structure HTTPException where
  statusCode : ℕ
  detail : String
deriving DecidableEq, Repr

namespace PyStr

/-- the characters `str.isspace` accepts, which `strip` removes. -/
def isSpace (c : Char) : Bool :=
  let n := c.toNat
  (9 ≤ n && n ≤ 13) || (28 ≤ n && n ≤ 32) || n == 0x85 || n == 0xA0 || n == 0x1680 ||
    (0x2000 ≤ n && n ≤ 0x200A) || n == 0x2028 || n == 0x2029 || n == 0x202F || n == 0x205F ||
    n == 0x3000

/-- `str.strip()`. -/
def strip (s : String) : String :=
  String.ofList (((s.toList.dropWhile isSpace).reverse.dropWhile isSpace).reverse)

/-- `str.split()`. -/
def split (s : List Char) : List (List Char) := (s.splitOnP isSpace).filter fun w => !w.isEmpty

/-- `" ".join(s.split())`. -/
def collapse (s : List Char) : List Char := List.intercalate [' '] (split s)

def stripChars (s : List Char) : List Char :=
  ((s.dropWhile isSpace).reverse.dropWhile isSpace).reverse

/-- lower case of one character, exact wherever the result is an ASCII letter: the Kelvin sign is
the only character outside ASCII that lowers to one. -/
def lowerChar (c : Char) : Char := if c.toNat = 0x212A then 'k' else c.toLower

/-- `str.lower()` for texts that are compared with ASCII words. -/
def lower (s : String) : String := String.ofList (s.toList.map lowerChar)

/-- truth of an optional text: neither `None` nor empty. -/
def truthy (s : Option String) : Bool :=
  match s with
  | none => false
  | some t => t != ""

/-- Python's `a or b` on optional texts. -/
def orElse (a b : Option String) : Option String := if truthy a then a else b

end PyStr

inductive SourceChannel where
  | whatsapp | telegram | sms | email | webChat | internal
deriving DecidableEq, Repr

inductive ConversationState where
  | aiActive | humanReviewRequired | humanOwned | readyToReply | repliedToCustomer
  | waitingCustomer | reopenedByCustomer
deriving DecidableEq, Repr

inductive TicketStatus where
  | new | pendingAssignment | inProgress | waitingCustomer | waitingInternal | escalated
  | resolved | closed | canceled
deriving DecidableEq, Repr

inductive MessageStatus where
  | draft | pending | processing | sent | failed | dead
deriving DecidableEq, Repr

inductive JobStatus where
  | pending | processing | done | failed | dead
deriving DecidableEq, Repr

end NexusHelpdesk
