import Cthuwu.Council.Text
import Cthuwu.Lib.Batch
import Cthuwu.Lib.Storage
import Cthuwu.Lib.Lines
import Cthuwu.Lib.Update

/-!
# The operators of a Tentacle

A Tentacle answers to one operator, an XMTP inbox. The store keeps a record for every inbox that
has ever been one : active, or revoked for good until it is authorized again. A record holds the
time after which the messages of its inbox carry authority. Each change is written to the file
before it is taken.
-/

namespace Cthuwu.Operators

open Council

inductive PrincipalRole
  | operator
  | staleOperator
  | revokedOperator
  | user
  deriving DecidableEq

inductive OperatorStatus
  | pending
  | active
  | revoked
  deriving DecidableEq

structure OperatorRecord where
  inboxId : String
  label : String
  status : OperatorStatus
  generation : ℕ
  activationTokenHash : Option String
  addedAtUnix : ℕ
  authorizedAtUnix : Option ℕ
  authorizedAfterSentAtNs : Option String
  revokedAtUnix : Option ℕ
  deriving DecidableEq

structure OperatorConfig where
  version : ℕ
  xmtpEnvironment : String
  operators : List OperatorRecord
  deriving DecidableEq

/-- The length of a configuration in pretty JSON, with its last newline. -/
class Encoding where
  encodedLength : OperatorConfig → ℕ

/-- A configuration on disk. -/
structure OperatorFile where
  length : ℕ
  config : OperatorConfig
  deriving DecidableEq

def operatorConfigVersion : ℕ := 3
def legacyOperatorConfigVersion : ℕ := 2
def maxOperatorConfigBytes : ℕ := 64 * 1024
def maxOperators : ℕ := 64
def maxLabelChars : ℕ := 80

/-! ## Texts -/

def isAsciiHexDigit (c : Char) : Bool :=
  c.isDigit || ('a' ≤ c && c ≤ 'f') || ('A' ≤ c && c ≤ 'F')

variable (value : String) (operators : List OperatorRecord) (operator : OperatorRecord)
  (records : List OperatorRecord)

/-- `trim().to_ascii_lowercase()`. -/
def trimLower : String :=
  String.ofList ((trimBy isWhiteSpace value.toList).map Char.toLower)

def normalizeInboxId : Except String String := do
  let normalized := trimLower value
  failIf (normalized = "" ∨ 128 < normalized.utf8ByteSize ∨
    ¬normalized.toList.all isAsciiHexDigit = true) "invalid XMTP inbox ID"
  return normalized

def normalizeOperatorInboxId : Except String String := do
  let value ← normalizeInboxId value
  failIf (value.utf8ByteSize ≠ 64)
    "operator roles require the full 64-character XMTP inbox ID"
  return value

/-- The time at which a message was sent, in nanoseconds. -/
def parseSentAtNs : Except String ℕ := do
  failIf (value = "" ∨ 32 < value.utf8ByteSize ∨ ¬value.toList.all Char.isDigit = true)
    "invalid authenticated XMTP sentAtNs value"
  let n := Nat.ofDigitChars 10 value.toList 0
  failIf (2 ^ 128 ≤ n) "authenticated XMTP sentAtNs is out of range"
  return n

def validateLabel : Except String String := do
  let value := trimBy isWhiteSpace value.toList
  failIf (value = [] ∨ maxLabelChars < value.length ∨ value.any isControl = true)
    "operator label must be 1-80 printable characters"
  return String.ofList value

def normalizeOperatorAddress : Except String String := do
  let value := trimLower value
  failIf (value.utf8ByteSize ≠ 42 ∨ ¬['0', 'x'] <+: value.toList ∨
    ¬(value.toList.drop 2).all isAsciiHexDigit = true)
    "automatic operator imprint requires an SDK-authenticated Ethereum address"
  return value

/-! ## Records -/

def validateCommonRecord (seen : List String) (operator : OperatorRecord) :
    Except String (List String) := do
  let normalized ← normalizeOperatorInboxId operator.inboxId
  failIf (normalized ≠ operator.inboxId ∨ normalized ∈ seen)
    "operator configuration contains a non-canonical or duplicate inbox ID"
  let _ ← validateLabel operator.label
  failIf (operator.generation = 0) "operator generation must be positive"
  return normalized :: seen

def validateCommonRecords : Except String Unit := do
  failIf (maxOperators < records.length)
    "operator configuration exceeds the 64-operator limit"
  let _ ← records.foldlM validateCommonRecord []

/-- An active record says since when, and any boundary is a time. -/
def validateBoundary : Except String Unit :=
  if operator.status = .active then do
    let _ ← okOr operator.authorizedAtUnix "active operator is missing its authorization time"
    let boundary ← okOr operator.authorizedAfterSentAtNs
      "active operator is missing its authorization boundary"
    let _ ← parseSentAtNs boundary
  else
    match operator.authorizedAfterSentAtNs with
    | none => return
    | some boundary => do
      let _ ← parseSentAtNs boundary

def validateRecord : Except String Unit := do
  failIf (operator.status = .pending)
    "operator configuration version 3 does not permit pending roles"
  failIf (operator.activationTokenHash.isSome = true)
    "operator configuration version 3 must not contain activation proofs"
  validateBoundary operator

def validateRecords : Except String (List OperatorRecord) := do
  validateCommonRecords records
  records.forM validateRecord
  return records

def validateLegacyRecord : Except String Unit := do
  match operator.status with
  | .pending => do
    let hash ← okOr operator.activationTokenHash
      "pending operator is missing an activation-token hash"
    failIf (hash.utf8ByteSize ≠ 64 ∨ ¬hash.toList.all isAsciiHexDigit = true)
      "pending operator has an invalid activation-token hash"
    failIf (operator.authorizedAfterSentAtNs.isSome = true)
      "pending operator must not have an authorization boundary"
  | .active | .revoked =>
    failIf (operator.activationTokenHash.isSome = true)
      "non-pending operator must not retain an activation-token hash"
  validateBoundary operator

def validateLegacyRecords :
    Except String (List OperatorRecord) := do
  validateCommonRecords records
  records.forM validateLegacyRecord
  return records

/-- The system clock, as far as a duration since 1970 reaches. -/
structure Clock where
  unixSeconds : ℕ
  unixNanoseconds : ℕ
  bounded : unixNanoseconds < 2 ^ 64 * 10 ^ 9

def migrateLegacyRecord (clock : Clock) (operator : OperatorRecord) : OperatorRecord :=
  if operator.status = .pending then
    { operator with
      status := .active
      authorizedAtUnix := some clock.unixSeconds
      authorizedAfterSentAtNs := some clock.unixNanoseconds.repr
      activationTokenHash := none }
  else { operator with activationTokenHash := none }

def migrateLegacyRecords (clock : Clock) : List OperatorRecord :=
  records.map (migrateLegacyRecord clock)

def hasActiveConflict : Bool :=
  1 < (records.filter fun operator => operator.status = .active).length

def ensureUnambiguous : Except String Unit :=
  failIf (hasActiveConflict records = true)
    "operator configuration contains more than one active operator"

def sortRecords : List OperatorRecord :=
  records.mergeSort fun left right => decide (left.inboxId ≤ right.inboxId)

def roleForMessage
    (authenticatedSenderInboxId authenticatedSentAtNs : String) : Except String PrincipalRole := do
  ensureUnambiguous operators
  let inboxId ← normalizeInboxId authenticatedSenderInboxId
  let sentAtNs ← parseSentAtNs authenticatedSentAtNs
  match operators.find? fun operator => operator.inboxId = inboxId with
  | none => return .user
  | some operator =>
    match operator.status with
    | .pending => return .staleOperator
    | .revoked => return .revokedOperator
    | .active => do
      let boundary ← okOr operator.authorizedAfterSentAtNs
        "active operator is missing its authorization boundary"
      let boundary ← parseSentAtNs boundary
      return if boundary < sentAtNs then .operator else .staleOperator

/-! ## Changes -/

structure AuthorizedOperator where
  inboxId : String
  generation : ℕ

def OperatorRecord.authorize (label : String) (boundary now : ℕ) :
    OperatorRecord :=
  { operator with
    generation := operator.generation + 1
    label := label
    status := .active
    activationTokenHash := none
    addedAtUnix := now
    authorizedAtUnix := some now
    authorizedAfterSentAtNs := some boundary.repr
    revokedAtUnix := none }

def OperatorRecord.revoke (now : ℕ) : OperatorRecord :=
  { operator with
    status := .revoked
    activationTokenHash := none
    revokedAtUnix := some now }

/-- The records of `add_at`, with the inbox authorized. -/
def authorize (inboxId label authorizedAfterSentAtNs : String)
    (now : ℕ) : Except String (List OperatorRecord × AuthorizedOperator) := do
  let inboxId ← normalizeOperatorInboxId inboxId
  let label ← validateLabel label
  let boundary ← parseSentAtNs authorizedAfterSentAtNs
  failIf (∃ operator ∈ operators, operator.status = .active ∧ operator.inboxId ≠ inboxId)
    "this Tentacle already has its sole active operator"
  match position (fun operator => operator.inboxId = inboxId) operators with
  | some (index, existing) => do
    failIf (2 ^ 64 ≤ existing.generation + 1) "operator generation overflow"
    return (sortRecords (operators.modify index (·.authorize label boundary now)),
      ⟨inboxId, existing.generation + 1⟩)
  | none => do
    failIf (maxOperators ≤ operators.length)
      "operator configuration reached the 64-operator limit"
    return (sortRecords (operators ++
      [{ inboxId := inboxId
         label := label
         status := .active
         generation := 1
         activationTokenHash := none
         addedAtUnix := now
         authorizedAtUnix := some now
         authorizedAfterSentAtNs := some boundary.repr
         revokedAtUnix := none }]), ⟨inboxId, 1⟩)

/-- What `transfer` does to the records before it authorizes : it keeps their activation tokens. -/
def revokeActive (now : ℕ) : List OperatorRecord :=
  operators.map fun operator =>
    if operator.status = .active then
      { operator with
        status := .revoked
        revokedAtUnix := some now }
    else operator

/-- The records of `retain_sole_active`. -/
def retainOnly (inboxId : String) (now : ℕ) :
    List OperatorRecord :=
  operators.map fun operator =>
    if operator.status = .active ∧ operator.inboxId ≠ inboxId then operator.revoke now
    else operator

/-! ## The store -/

structure OperatorStore where
  xmtpEnvironment : String
  operators : List OperatorRecord
  deriving DecidableEq

structure Node where
  store : OperatorStore
  file : Option OperatorFile
  deriving DecidableEq

structure OperatorImprint where
  role : PrincipalRole
  imprintedAddress : Option String

section

variable [Encoding]

variable (xmtpEnvironment : String) (storage : Storage) (inboxId label : String) (clock : Clock)

def encodeRecords (operators : List OperatorRecord) :
    Except String OperatorFile := do
  let config : OperatorConfig :=
    { version := operatorConfigVersion
      xmtpEnvironment := xmtpEnvironment
      operators := operators }
  let length := Encoding.encodedLength config
  failIf (maxOperatorConfigBytes < length) "operator configuration is too large"
  return { length := length, config := config }

/-- The records are written, and taken once they are. -/
def commit (operators : List OperatorRecord) : Fallible String Node Unit := do
  let node ← get
  let replacement ← encodeRecords node.store.xmtpEnvironment operators
  let (result, file) := storage.write node.file (some replacement)
  set { node with file := file }
  liftM result
  set
    { store := { node.store with operators := operators }
      file := file : Node }

def addAt (inboxId label authorizedAfterSentAtNs : String) (clock : Clock) :
    Fallible String Node AuthorizedOperator := do
  let node ← get
  let (operators, authorized) ←
    authorize node.store.operators inboxId label authorizedAfterSentAtNs clock.unixSeconds
  commit storage operators
  return authorized

def add :
    Fallible String Node AuthorizedOperator :=
  addAt storage inboxId label clock.unixNanoseconds.repr clock

def transfer :
    Fallible String Node AuthorizedOperator := do
  let node ← get
  let (operators, authorized) ← authorize (revokeActive node.store.operators clock.unixSeconds)
    inboxId label clock.unixNanoseconds.repr clock.unixSeconds
  commit storage operators
  return authorized

def revoke (inboxId : String) (clock : Clock) : Fallible String Node Bool := do
  let inboxId ← normalizeOperatorInboxId inboxId
  let node ← get
  match position (fun operator => operator.inboxId = inboxId) node.store.operators with
  | none => return false
  | some (index, operator) =>
    if operator.status = .revoked then return false
    else do
      commit storage (node.store.operators.modify index (·.revoke clock.unixSeconds))
      return true

def retainSoleActive (inboxId : String) (clock : Clock) :
    Fallible String Node Unit := do
  let inboxId ← normalizeOperatorInboxId inboxId
  let node ← get
  failIf (¬hasActiveConflict node.store.operators = true)
    "operator configuration does not contain an active conflict"
  failIf (¬∃ operator ∈ node.store.operators, operator.status = .active ∧
    operator.inboxId = inboxId) "selected inbox is not one of the active operator candidates"
  commit storage (retainOnly node.store.operators inboxId clock.unixSeconds)

def ensureSoleOperator :
    Fallible String Node Bool := do
  let node ← get
  ensureUnambiguous node.store.operators
  let inboxId ← normalizeOperatorInboxId inboxId
  match node.store.operators.find? fun operator => operator.status = .active with
  | some active =>
    if active.inboxId = inboxId then return false
    else throw "this Tentacle already has its sole active operator"
  | none => do
    let _ ← add storage inboxId label clock
    return true

/-- A first sender with an Ethereum address becomes the operator, when there has never been one. -/
def classifyOrImprint (inboxId : String) (address : Option String)
    (sentAtNs : String) (clock : Clock) : Fallible String Node OperatorImprint := do
  let node ← get
  let existingRole ← roleForMessage node.store.operators inboxId sentAtNs
  if existingRole ≠ .user ∨ node.store.operators ≠ [] then
    return { role := existingRole, imprintedAddress := none }
  else
    match address with
    | none => return { role := .user, imprintedAddress := none }
    | some address => do
      let address ← normalizeOperatorAddress address
      let _ ← addAt storage inboxId address sentAtNs clock
      return { role := .user, imprintedAddress := some address }

/-- The records that a file holds, and whether it is of the version before. -/
def load (file : OperatorFile) :
    Except String (List OperatorRecord × Bool) := do
  failIf (maxOperatorConfigBytes < file.length)
    "operator configuration must be a bounded regular file"
  failIf (file.config.xmtpEnvironment ≠ xmtpEnvironment)
    "operator configuration belongs to another XMTP environment"
  if file.config.version = operatorConfigVersion then do
    let records ← validateRecords file.config.operators
    return (records, false)
  else if file.config.version = legacyOperatorConfigVersion then do
    let records ← validateLegacyRecords file.config.operators
    let records ← validateRecords (migrateLegacyRecords records clock)
    return (records, true)
  else throw ("unsupported operator configuration version " ++ file.config.version.repr)

/-- `OperatorStore::new`, on the file it finds. -/
def openStore :
    Fallible String (Option OperatorFile) OperatorStore := do
  failIf (xmtpEnvironment ≠ "dev" ∧ xmtpEnvironment ≠ "production" ∧ xmtpEnvironment ≠ "local")
    "invalid XMTP environment for operator configuration"
  match ← get with
  | none => return { xmtpEnvironment := xmtpEnvironment, operators := [] }
  | some file => do
    let (operators, migrated) ← load xmtpEnvironment clock file
    if migrated = true then do
      let replacement ← encodeRecords xmtpEnvironment operators
      let (result, file) := storage.write (some file) (some replacement)
      set file
      liftM result
      return { xmtpEnvironment := xmtpEnvironment, operators := operators }
    else return { xmtpEnvironment := xmtpEnvironment, operators := operators }

end

end Cthuwu.Operators
