import Mathlib.Data.String.Basic
import Mathlib.Logic.Basic
import Mathlib.Data.List.Infix
import Cthuwu.Lib.Utf8

/-!
# Identifiers and texts

A protocol identifier is the start of its namespace followed by a slug of lowercase
letters, digits and separators. `Id k` carries the check its `parse` makes, so that an
identifier of the wrong namespace or shape cannot be built. Outcome identifiers are
defined apart from the others and forbid only a doubled separator where the others forbid
any two in a row. Tentacle identifiers alone have a second start that is also accepted.

The shapes the Council modules require of free text, content hashes and tokens, and the
compact JSON of values whose text needs no escape.

A JSON object takes the bytes of its names and values, and a list those of its elements, beside the
punctuation between them.
-/

namespace Cthuwu.Council

inductive IdKind
  | cthulhu
  | tentacle
  | council
  | session
  | request
  | lease
  | proposal
  | message
  | incarnation
  | propagation
  | acknowledgement
  | outcome
  | invitation

/-- What the identifiers of a namespace start with. -/
def IdKind.start : IdKind → String
  | cthulhu => "cthulhu_"
  | tentacle => "tentacle_"
  | council => "council_"
  | session => "session_"
  | request => "request_"
  | lease => "lease_"
  | proposal => "proposal_"
  | message => "msg_"
  | incarnation => "incarnation_"
  | propagation => "propagation_"
  | acknowledgement => "ack_"
  | outcome => "outcome_"
  | invitation => "invite_"

def IdKind.compatibleStart : IdKind → Option String
  | tentacle => some "tentacle-"
  | _ => none

variable (c : Char) (k : IdKind) (value : String)

def isSeparator : Bool :=
  c = '_' || c = '-'

/-- Whether two neighbours may stand in a slug of the namespace. -/
def IdKind.neighbours : IdKind → Char → Char → Bool
  | outcome, a, b => !(isSeparator a && a = b)
  | _, a, b => !(isSeparator a && isSeparator b)

def maxSuffixBytes : ℕ := 64

/-- The slug rule. All its characters are one byte long. -/
def IdKind.acceptsSuffix (suffix : List Char) : Bool :=
  suffix ≠ [] && suffix.length ≤ maxSuffixBytes &&
    suffix.all (fun c => c.isLower || c.isDigit || isSeparator c) &&
    !suffix.head?.any isSeparator && !suffix.getLast?.any isSeparator &&
    (suffix.zip suffix.tail).all fun (a, b) => k.neighbours a b

/-- The value is `start` and a slug. -/
def IdKind.acceptsAfter (start value : String) : Bool :=
  start.toList.isPrefixOf value.toList && k.acceptsSuffix (value.toList.drop start.toList.length)

/-- The strings `parse` accepts. -/
def IdKind.accepts : Bool :=
  k.acceptsAfter k.start value || k.compatibleStart.any fun start => k.acceptsAfter start value

@[ext] structure Id (k : IdKind) where
  text : String
  accepted : k.accepts text = true

instance {k : IdKind} : DecidableEq (Id k) := fun a b =>
  decidable_of_iff (a.text = b.text) Id.ext_iff.symm

/-- Identifiers are ordered as their texts, all of one byte a character. -/
instance {k : IdKind} : LinearOrder (Id k) :=
  LinearOrder.lift' Id.text fun _ _ h => Id.ext h

abbrev CthulhuId := Id .cthulhu

abbrev TentacleId := Id .tentacle

abbrev CouncilId := Id .council

abbrev SessionId := Id .session

abbrev RequestId := Id .request

abbrev LeaseId := Id .lease

abbrev IncarnationId := Id .incarnation

abbrev ProposalId := Id .proposal

/-! ## Inboxes and incarnations -/

/-- A digit of a lowercase hexadecimal number. -/
def isLowerHex : Bool :=
  c.isDigit || ('a' ≤ c && c ≤ 'f')

/-- The strings `XmtpInboxRef::new` accepts. -/
def acceptsInbox : Bool :=
  12 ≤ value.toList.length && value.toList.length ≤ 128 && value.toList.length % 2 = 0 &&
    value.toList.all isLowerHex

/-- A transport-independent reference to an XMTP inbox. -/
@[ext] structure XmtpInboxRef where
  text : String
  accepted : acceptsInbox text = true

instance : DecidableEq XmtpInboxRef := fun a b =>
  decidable_of_iff (a.text = b.text) XmtpInboxRef.ext_iff.symm

structure Incarnation where
  id : IncarnationId
  generation : ℕ
  deriving DecidableEq

/-! ## Text rules -/

/-- The Unicode `White_Space` property, as `trim` uses it. -/
def isWhiteSpace : Bool :=
  let n := c.toNat
  (0x9 ≤ n && n ≤ 0xD) || n = 0x20 || n = 0x85 || n = 0xA0 || n = 0x1680 ||
    (0x2000 ≤ n && n ≤ 0x200A) || n = 0x2028 || n = 0x2029 || n = 0x202F || n = 0x205F || n = 0x3000

/-- `char::is_control`. -/
def isControl : Bool :=
  c.toNat < 0x20 || (0x7F ≤ c.toNat && c.toNat ≤ 0x9F)

/-- `value.trim().is_empty()`. -/
def isBlank : Bool :=
  value.toList.all isWhiteSpace

def hashStart : String := "sha256:"

/-- `sha256:` and 64 lowercase hexadecimal digits. -/
def isContentHash : Bool :=
  hashStart.toList.isPrefixOf value.toList &&
    (value.toList.drop hashStart.toList.length).length = 64 &&
    (value.toList.drop hashStart.toList.length).all isLowerHex

def maxTokenBytes : ℕ := 96

/-- A token over letters, digits and `extra`. -/
def isToken (extra : List Char) (value : String) : Bool :=
  value ≠ "" && value.utf8ByteSize ≤ maxTokenBytes &&
    value.toList.all fun c => c.isAlphanum || extra.contains c

/-- `value.contains("..")`. -/
def hasDoubleDot : Bool :=
  ['.', '.'] <:+: value.toList

/-- Text that says something, in at most `max` bytes, without NUL and, when asked for, on
one line. -/
def isText (max : ℕ) (singleLine : Bool) (value : String) : Bool :=
  !isBlank value && value.utf8ByteSize ≤ max && !value.toList.contains '\x00' &&
    !(singleLine && value.toList.any fun c => c = '\r' || c = '\n')

/-! ## JSON -/

def jsonText : String :=
  "\"" ++ value ++ "\""

def jsonList (values : List String) : String :=
  "[" ++ ",".intercalate values ++ "]"

def jsonObject (fields : List (String × String)) : String :=
  "\x7b" ++ ",".intercalate (fields.map fun (key, value) => jsonText key ++ ":" ++ value) ++ "\x7d"

/-! ## The length of JSON -/

/-- The bytes of a field are those of its name and of its value, two quotes and a colon. -/
theorem utf8ByteSize_field (name value : String) :
    (jsonText name ++ ":" ++ value).utf8ByteSize =
      name.utf8ByteSize + value.utf8ByteSize + 3 := by
  have hquote : ("\"" : String).utf8ByteSize = 1 := by decide
  have hcolon : (":" : String).utf8ByteSize = 1 := by decide
  unfold jsonText
  simp only [String.utf8ByteSize_append, hquote, hcolon]
  omega

theorem utf8ByteSize_jsonObject (fields : List (String × String)) :
    (jsonObject fields).utf8ByteSize =
      (fields.map fun field => field.1.utf8ByteSize + field.2.utf8ByteSize + 3).sum +
        (fields.length - 1) + 2 := by
  have hopen : ("\x7b" : String).utf8ByteSize = 1 := by decide
  have hclose : ("\x7d" : String).utf8ByteSize = 1 := by decide
  unfold jsonObject
  rw [String.utf8ByteSize_append, String.utf8ByteSize_append, hopen, hclose,
    utf8ByteSize_intercalate, List.map_map, List.length_map]
  simp only [Function.comp_def, utf8ByteSize_field]
  omega

theorem utf8ByteSize_jsonList (values : List String) : (jsonList values).utf8ByteSize =
    (values.map String.utf8ByteSize).sum + (values.length - 1) + 2 := by
  have hopen : ("[" : String).utf8ByteSize = 1 := by decide
  have hclose : ("]" : String).utf8ByteSize = 1 := by decide
  unfold jsonList
  rw [String.utf8ByteSize_append, String.utf8ByteSize_append, hopen, hclose,
    utf8ByteSize_intercalate]
  omega

end Cthuwu.Council
