import Mathlib.Data.List.DropRight
import Cthuwu.Council.Text
import Cthuwu.Lib.Fallible

/-!
# Text and bytes of the gossip protocol

Identifiers, slugs and digests, the privacy rules for the text of a skill, hexadecimal digits,
and JSON with its escapes. `decodeHex_encodeHex` says that the digits of 32 bytes are read
back.
-/

namespace Cthuwu.Hermes

open Council

/-! ## Bounds -/

def maxGossipPeers : ℕ := 128

def maxKnowledgeItems : ℕ := 2048

def maxPendingOutbound : ℕ := 8192

def maxPathHops : ℕ := 16

/-- `MAX_KNOWLEDGE_ITEMS`. -/
def maxAntiEntropyEntries : ℕ := 2048

def maxOutboundBatch : ℕ := 64

/-- `16 * 1024`. -/
def maxSkillBytes : ℕ := 16384

/-- `24 * 1024`. -/
def maxEnvelopeBytes : ℕ := 24576

/-- `16 * 1024 * 1024`. -/
def maxStateBytes : ℕ := 16777216

def maxIdBytes : ℕ := 128

def maxToolNameBytes : ℕ := 64

def maxSkillNameBytes : ℕ := 64

def maxSkillLines : ℕ := 512

def maxSkillLineBytes : ℕ := 1024

inductive HermesError
  | invalid (message : String)
  | unauthorized (message : String)
  | conflict (message : String)
  | unknownPeer (peer : String)
  | limit (name : String)
  | privacy (message : String)
  deriving DecidableEq

/-! ## Shapes -/

variable (c : Char) (text : String) (value : String)

def isId : Bool :=
  value ≠ "" && value.utf8ByteSize ≤ maxIdBytes &&
    value.toList.all fun c => c.isAlphanum || ['-', '_', '.', ':'].contains c

def validateId (value description : String) : Except HermesError Unit :=
  failIf (!isId value)
    (.invalid (description ++ " is empty, oversized, or contains unsafe characters"))

def isSlug (max : ℕ) : Bool :=
  value ≠ "" && value.utf8ByteSize ≤ max &&
    value.toList.all (fun c => c.isLower || c.isDigit || c = '-') &&
    value.toList.head? ≠ some '-' && value.toList.getLast? ≠ some '-'

def validateSlug (max : ℕ) (description : String) : Except HermesError Unit :=
  failIf (!isSlug value max) (.invalid (description ++ " must be a bounded lowercase slug"))

/-- 64 lowercase hexadecimal digits, each one byte long. -/
def isHexDigest : Bool :=
  value.toList.length = 64 && value.toList.all isLowerHex

def validateHexDigest (value description : String) : Except HermesError Unit :=
  failIf (!isHexDigest value) (.invalid (description ++ " must be lowercase SHA-256 hex"))

def validateCounts (total successes : ℕ) (description : String) : Except HermesError Unit :=
  failIf (total = 0 ∨ total < successes ∨ 1000000000 < total)
    (.invalid (description ++ " aggregate counts are invalid"))

/-! ## Text of a skill -/

/-- `str::lines` : a line ends in a newline, or in a carriage return and a newline, and the
last one may have no end. -/
def lines : List (List Char) :=
  let pieces := text.toList.splitOn '\n'
  pieces.dropLast.map (fun line => if line.getLast? = some '\r' then line.dropLast else line) ++
    pieces.getLast?.toList.filter (· ≠ [])

/-- The bytes of some characters. -/
def utf8Length (text : List Char) : ℕ :=
  (text.map Char.utf8Size).sum

/-- `is_ascii_hexdigit`. -/
def isHexDigit : Bool :=
  c.isDigit || ('a' ≤ c && c ≤ 'f') || ('A' ≤ c && c ≤ 'F')

def privateMarkers : List String :=
  ["contacts/", "contact note", "private memory", "state/agent/operators", "senderinboxid",
    "sender_inbox_id", "inbox id", "begin private key", "authorization: bearer", "api_key=",
    "api-key=", "secret_key=", "xmtp database"]

/-- `text.windows(length).any(p)`. A window of hexadecimal digits is one of characters. -/
def anyWindow (length : ℕ) (p : List Char → Bool) (text : String) : Bool :=
  text.toList.tails.any fun rest => length ≤ rest.length && p (rest.take length)

def containsLongHexIdentifier (length : ℕ) : Bool :=
  anyWindow length (fun window => window.all isHexDigit) text

def containsPrefixedHexIdentifier (hexLength : ℕ) : Bool :=
  anyWindow (hexLength + 2)
    (fun window => window.take 2 = ['0', 'x'] && (window.drop 2).all isHexDigit) text

/-- What `trim_matches` takes off a token. -/
def isBracket : Bool :=
  ['<', '>', '(', ')', '[', ']', ',', ';', ':', '\x22', '\x27'].contains c

/-- Something, an at sign, and a domain with a dot inside. -/
def isEmailLike (token : List Char) : Bool :=
  let token := (token.dropWhile isBracket).rdropWhile isBracket
  let domain := (token.dropWhile (· ≠ '@')).tail
  token.contains '@' && token.head? ≠ some '@' && domain.contains '.' &&
    domain.head? ≠ some '.' && domain.getLast? ≠ some '.'

def containsEmailLikeIdentifier : Bool :=
  (text.toList.splitOnP isWhiteSpace).any isEmailLike

def validatePublicSkillText : Except HermesError Unit := do
  failIf (text = "" ∨ maxSkillBytes < text.utf8ByteSize) (.limit "operator skill size")
  failIf (maxSkillLines < (lines text).length ∨
    ∃ line ∈ lines text, maxSkillLineBytes < utf8Length line)
    (.limit "operator skill line count or length")
  failIf (text.toList.any fun c => c = '\x00' ∨ isControl c ∧ ¬['\n', '\r', '\t'].contains c)
    (.privacy "skill contains unsafe control characters")
  failIf (∃ marker ∈ privateMarkers, marker.toList <:+: text.toList.map Char.toLower) (.privacy
      "skill resembles contact notes, private memory, credentials, or user identity data")
  failIf (containsLongHexIdentifier text 64 ∨ containsPrefixedHexIdentifier text 40 ∨
    containsEmailLikeIdentifier text)
    (.privacy "skill contains a likely inbox, wallet, or email identifier")

/-! ## Hexadecimal digits -/

/-- `HEX[n]`. -/
def hexDigit (n : ℕ) : Char :=
  ['0', '1', '2', '3', '4', '5', '6', '7', '8', '9', 'a', 'b', 'c', 'd', 'e', 'f'].getD n '0'

/-- The high and the low digit of each byte. -/
def hexDigits : List UInt8 → List Char
  | [] => []
  | byte :: bytes => hexDigit (byte.toNat / 16) :: hexDigit (byte.toNat % 16) :: hexDigits bytes

def encodeHex (bytes : List UInt8) : String :=
  String.ofList (hexDigits bytes)

def decodeNibble : Option ℕ :=
  if '0' ≤ c ∧ c ≤ '9' then some (c.toNat - 48)
  else if 'a' ≤ c ∧ c ≤ 'f' then some (c.toNat - 97 + 10)
  else none

def decodePairs : List Char → Except HermesError (List UInt8)
  | high :: low :: rest => do
    let high ← okOr (decodeNibble high) (.invalid "signature contains invalid hex")
    let low ← okOr (decodeNibble low) (.invalid "signature contains invalid hex")
    let bytes ← decodePairs rest
    return UInt8.ofNat (high * 16 + low) :: bytes
  | _ => .ok []

/-- `decode_hex_32`. -/
def decodeHex : Except HermesError (List UInt8) := do
  validateHexDigest value "signature"
  decodePairs value.toList

theorem hexDigit_lower : ∀ n < 16, isLowerHex (hexDigit n) = true := by
  decide

theorem decodeNibble_hexDigit : ∀ n < 16, decodeNibble (hexDigit n) = some n := by
  decide

theorem length_hexDigits (bytes : List UInt8) : (hexDigits bytes).length = 2 * bytes.length := by
  induction bytes with
  | nil => rfl
  | cons byte bytes ih =>
    simp only [hexDigits, List.length_cons, ih]
    omega

theorem hexDigits_lower (bytes : List UInt8) : (hexDigits bytes).all isLowerHex = true := by
  induction bytes with
  | nil => rfl
  | cons byte bytes ih =>
    have hbyte := byte.toNat_lt
    have hhigh := hexDigit_lower (byte.toNat / 16) (by omega)
    have hlow := hexDigit_lower (byte.toNat % 16) (by omega)
    simp [hexDigits, hhigh, hlow, ih]

theorem isHexDigest_encodeHex {bytes : List UInt8} (h : bytes.length = 32) :
    isHexDigest (encodeHex bytes) = true := by
  have hlength := length_hexDigits bytes
  unfold isHexDigest encodeHex
  rw [String.toList_ofList, hexDigits_lower, hlength, h]
  rfl

theorem decodePairs_hexDigits (bytes : List UInt8) : decodePairs (hexDigits bytes) = .ok bytes := by
  induction bytes with
  | nil => rfl
  | cons byte bytes ih =>
    have hbyte := byte.toNat_lt
    have hhigh := decodeNibble_hexDigit (byte.toNat / 16) (by omega)
    have hlow := decodeNibble_hexDigit (byte.toNat % 16) (by omega)
    have hsplit : byte.toNat / 16 * 16 + byte.toNat % 16 = byte.toNat := by omega
    simp only [hexDigits, decodePairs, hhigh, hlow, ih, okOr]
    change Except.ok (UInt8.ofNat (byte.toNat / 16 * 16 + byte.toNat % 16) :: bytes) = _
    rw [hsplit, UInt8.ofNat_toNat]

theorem decodeHex_encodeHex {bytes : List UInt8} (h : bytes.length = 32) :
    decodeHex (encodeHex bytes) = .ok bytes := by
  unfold decodeHex validateHexDigest
  rw [isHexDigest_encodeHex h]
  unfold encodeHex
  rw [String.toList_ofList]
  exact decodePairs_hexDigits bytes

/-! ## JSON -/

/-- What `serde_json` writes for a character of a string. -/
def jsonEscape : List Char :=
  if c = '\x22' then ['\x5c', '\x22']
  else if c = '\x5c' then ['\x5c', '\x5c']
  else if c = '\x08' then ['\x5c', 'b']
  else if c = '\x0c' then ['\x5c', 'f']
  else if c = '\n' then ['\x5c', 'n']
  else if c = '\r' then ['\x5c', 'r']
  else if c = '\t' then ['\x5c', 't']
  else if c.toNat < 0x20 then
    ['\x5c', 'u', '0', '0', hexDigit (c.toNat / 16), hexDigit (c.toNat % 16)]
  else [c]

def jsonString : String :=
  jsonText (String.ofList (value.toList.flatMap jsonEscape))

def utf8 : List UInt8 :=
  value.toUTF8.data.toList

end Cthuwu.Hermes
