import Cthuwu.Evolution.Actions

/-!
# Actions of the awakening

An operator answers the awakening of a Tentacle with one of four actions, and a few more can only
come from the node itself. Every action has one normal form, which is what the log keeps and
reads back.
-/

namespace Cthuwu.Awakening

open Council Evolution

/-! ## Natures -/

inductive NatureTrait
  | engagement
  | growth
  | wealth
  | influence
  | cooperation
  | stability
  | transparency
  deriving DecidableEq

def NatureTrait.all : List NatureTrait :=
  [.engagement, .growth, .wealth, .influence, .cooperation, .stability, .transparency]

def NatureTrait.name : NatureTrait → String
  | engagement => "engagement"
  | growth => "growth"
  | wealth => "wealth"
  | influence => "influence"
  | cooperation => "cooperation"
  | stability => "stability"
  | transparency => "transparency"

/-- The text of an error that ends an operation of a Nature. -/
def errorText : EvolutionError → String
  | .invalid message | .unauthorized message | .conflict message | .nature message => message
  | .notFound id => id
  | .limit name => name
  | .json => "invalid JSON"

variable (value : List Char) (nature : TentacleNature)

/-- A Nature may be used. -/
def validateNature : Except String Unit :=
  nature.validate.mapError errorText

def natureFingerprint [Hashing] (nature : TentacleNature) : Except String String :=
  nature.fingerprint.mapError errorText

def natureValue : NatureTrait → ℕ
  | .engagement => nature.engagement
  | .growth => nature.growth
  | .wealth => nature.wealth
  | .influence => nature.influence
  | .cooperation => nature.cooperation
  | .stability => nature.stability
  | .transparency => nature.transparency

def setValue (value : ℕ) : NatureTrait → TentacleNature
  | .engagement => { nature with engagement := value }
  | .growth => { nature with growth := value }
  | .wealth => { nature with wealth := value }
  | .influence => { nature with influence := value }
  | .cooperation => { nature with cooperation := value }
  | .stability => { nature with stability := value }
  | .transparency => { nature with transparency := value }

/-- `TentacleNature::adjust`, on sixteen-bit numbers. -/
def adjust (natureTrait : NatureTrait) (delta : ℤ) :
    Except String TentacleNature := do
  validateNature nature
  let adjusted := natureValue nature natureTrait + delta
  failIf (¬(-32768 ≤ adjusted ∧ adjusted ≤ 32767)) "Nature adjustment overflow"
  failIf (¬(0 ≤ adjusted ∧ adjusted ≤ 100)) "Nature adjustment would leave the 0-100 range"
  return setValue nature adjusted.toNat natureTrait

structure NatureDraw where
  natureId : String
  engagement : ℕ
  growth : ℕ
  wealth : ℕ
  influence : ℕ
  cooperation : ℕ
  stability : ℕ
  transparency : ℕ
  sacredBan : SacredBan

/-- `TentacleNature::reroll` : another Nature in the same place of the lineage. -/
def reroll (draw : NatureDraw) : Except String TentacleNature := do
  validateNature nature
  let rerolled : TentacleNature :=
    { schemaVersion := natureSchemaVersion
      natureId := draw.natureId
      generation := nature.generation
      parentNatureId := nature.parentNatureId
      engagement := draw.engagement
      growth := draw.growth
      wealth := draw.wealth
      influence := draw.influence
      cooperation := draw.cooperation
      stability := draw.stability
      transparency := draw.transparency
      sacredBan := draw.sacredBan }
  validateNature rerolled
  return rerolled

/-! ## Actions -/

inductive AwakeningAction
  | yes
  | adjust (natureTrait : NatureTrait) (delta : ℤ)
  | reroll
  | kill
  deriving DecidableEq

inductive RecordedAwakeningAction
  | operator (action : AwakeningAction)
  | skipForTesting
  | acceptDefault
  | postConfirmationAdjust (natureTrait : NatureTrait) (value : ℕ)
  | forcedRerollEpoch
  deriving DecidableEq

def signed (n : ℤ) : String :=
  (if n < 0 then "-" else "+") ++ n.natAbs.repr

def AwakeningAction.normalized : AwakeningAction → String
  | yes => "YES"
  | adjust natureTrait delta => "ADJUST " ++ natureTrait.name ++ " " ++ signed delta
  | reroll => "REROLL"
  | kill => "KILL"

def RecordedAwakeningAction.normalized : RecordedAwakeningAction → String
  | operator action => action.normalized
  | skipForTesting => "SKIP --skip-awakening"
  | acceptDefault => "ACCEPT DEFAULT NATURE"
  | postConfirmationAdjust natureTrait value =>
    "POST_ADJUST " ++ natureTrait.name ++ " " ++ value.repr
  | forcedRerollEpoch => "BEGIN --reroll-nature --force"

/-! ## Reading actions -/

def isAsciiWhiteSpace (c : Char) : Bool :=
  c = ' ' || c = '\t' || c = '\n' || c = '\x0c' || c = '\r'

/-- `split_ascii_whitespace`. -/
def words : List (List Char) :=
  (value.splitOnP fun c => isAsciiWhiteSpace c).filter (!·.isEmpty)

def lower : List Char :=
  value.map Char.toLower

def parseTrait : Except String NatureTrait :=
  okOr (NatureTrait.all.find? fun natureTrait => natureTrait.name.toList = lower value)
    "unknown Nature trait"

/-- The number that some digits write. -/
def parseDigits : Option ℕ :=
  if value ≠ [] ∧ value.all Char.isDigit = true then
    some (value.foldl (fun n c => 10 * n + (c.toNat - '0'.toNat)) 0)
  else none

/-- `parse::<i16>`. -/
def parseI16 : Option ℤ := do
  let n ← match value with
    | '-' :: digits => (parseDigits digits).map fun n => -(n : ℤ)
    | '+' :: digits => (parseDigits digits).map fun n => (n : ℤ)
    | digits => (parseDigits digits).map fun n => (n : ℤ)
  if -32768 ≤ n ∧ n ≤ 32767 then some n else none

/-- `parse::<u8>`. -/
def parseU8 : Option ℕ := do
  let n ← match value with
    | '+' :: digits => parseDigits digits
    | digits => parseDigits digits
  if n ≤ 255 then some n else none

def maxAwakeningResponseBytes : ℕ := 256

def isCommand (command : String) (word : List Char) : Bool :=
  lower word = lower command.toList

/-- `AwakeningAction::parse`. -/
def AwakeningAction.parse (input : String) : Except String AwakeningAction := do
  failIf (input = "" ∨ maxAwakeningResponseBytes < input.utf8ByteSize ∨
    ¬input.toList.all (fun c => c.toNat < 128) = true ∨
    input.toList.any (fun c => isControl c && !isAsciiWhiteSpace c) = true)
    "invalid awakening response"
  match words input.toList with
  | [command] =>
    if isCommand "YES" command = true then return .yes
    else if isCommand "REROLL" command = true then return .reroll
    else if isCommand "KILL" command = true then return .kill
    else throw "expected YES, ADJUST <trait> <delta>, REROLL, or KILL"
  | [command, natureTrait, delta] =>
    if isCommand "ADJUST" command = true then do
      let natureTrait ← parseTrait natureTrait
      let delta ← okOr (parseI16 delta) "awakening adjustment must be an integer"
      failIf (delta = 0 ∨ ¬(-100 ≤ delta ∧ delta ≤ 100))
        "awakening adjustment must be between -100 and 100 and not zero"
      return .adjust natureTrait delta
    else throw "expected YES, ADJUST <trait> <delta>, REROLL, or KILL"
  | _ => throw "expected YES, ADJUST <trait> <delta>, REROLL, or KILL"

/-- `RecordedAwakeningAction::parse`. -/
def RecordedAwakeningAction.parse (value : String) : Except String RecordedAwakeningAction :=
  if value = "SKIP --skip-awakening" then return .skipForTesting
  else if value = "ACCEPT DEFAULT NATURE" then return .acceptDefault
  else if value = "BEGIN --reroll-nature --force" then return .forcedRerollEpoch
  else if "POST_ADJUST".toList.isPrefixOf value.toList = true then
    match words value.toList with
    | first :: rest => do
      failIf (first ≠ "POST_ADJUST".toList) "invalid post-confirmation Nature adjustment"
      match rest with
      | [] => throw "post-confirmation Nature adjustment is missing its trait"
      | [_] => throw "post-confirmation Nature adjustment is missing its value"
      | [natureTrait, value] => do
        let natureTrait ← parseTrait natureTrait
        let value ← okOr (parseU8 value) "post-confirmation Nature value is invalid"
        failIf (100 < value) "post-confirmation Nature value must be between 0 and 100"
        return .postConfirmationAdjust natureTrait value
      | _ => throw "post-confirmation Nature adjustment has extra fields"
    | [] => throw "invalid post-confirmation Nature adjustment"
  else do
    let action ← AwakeningAction.parse value
    return .operator action

/-! ## Provenance -/

inductive ProvenanceSource
  | authenticatedXmtp
  | localCli
  deriving DecidableEq

def operatorInboxIdBytes : ℕ := 64

/-- `trim().to_ascii_lowercase()`. -/
def canonicalActor (value : String) : String :=
  String.ofList (lower
    (((value.toList.dropWhile isWhiteSpace).reverse.dropWhile isWhiteSpace).reverse))

def normalizeActorId (source : ProvenanceSource) (value : String) : Except String String :=
  let normalized := canonicalActor value
  match source with
  | .authenticatedXmtp => do
    failIf (¬(normalized.utf8ByteSize = operatorInboxIdBytes ∧
      normalized.toList.all isLowerHex = true))
      "awakening requires a full 64-character XMTP operator inbox ID"
    return normalized
  | .localCli => do
    failIf (¬(normalized ≠ "" ∧ normalized.utf8ByteSize ≤ operatorInboxIdBytes ∧
      normalized.toList.all (fun c => ('a' ≤ c && c ≤ 'z') || c.isDigit ||
        ['-', '_', '.'].contains c) = true))
      "invalid local CLI actor identifier"
    return normalized

/-- Who did something, with the hash of the event it was done by. -/
structure AwakeningProvenance where
  operatorId : String
  source : ProvenanceSource
  eventId : BitVec 256
  canonical : normalizeActorId source operatorId = .ok operatorId

end Cthuwu.Awakening
