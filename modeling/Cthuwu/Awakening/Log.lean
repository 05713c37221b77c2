import Cthuwu.Awakening.Action
import Cthuwu.Lib.Replay
import Cthuwu.Lib.Storage

/-!
# The log of the awakening

Every transition of the ritual is one signed entry of an append-only log. An entry names the
Nature before it and the Nature after it, and its signature covers the signature of the entry
before. `verifyEntries` checks a whole log with a validator of its own, entry by entry, and knows
nothing of the ritual that wrote it. An append reads and verifies the log, verifies the log with
the new entry, and replaces the file.
-/

namespace Cthuwu.Awakening

open Council Evolution

inductive AwakeningLogPhase
  | pending
  | confirmed
  | killed
  | skippedForTesting
  | acceptedByDefault
  deriving DecidableEq

/-- What the signature of an entry covers. -/
structure CanonicalAwakeningLogEntry where
  version : ℕ
  sequence : ℕ
  epoch : ℕ
  timestampUnix : ℕ
  operatorId : String
  provenance : ProvenanceSource
  eventIdSha256 : BitVec 256
  normalizedAction : String
  predecessorNatureId : String
  predecessorNatureSha256 : String
  predecessorNatureSnapshot : TentacleNature
  natureId : String
  natureSha256 : String
  natureSnapshot : TentacleNature
  phase : AwakeningLogPhase
  algorithm : String
  previousSignature : Option (BitVec 256)
  deriving DecidableEq

structure AwakeningLogEntry extends CanonicalAwakeningLogEntry where
  signature : BitVec 256
  deriving DecidableEq

/-- The signer of the state, and the length of an entry in the file. -/
class LogSigning where
  /-- HMAC-SHA256 of a domain, a zero byte and the JSON encoding of an entry. -/
  sign : String → CanonicalAwakeningLogEntry → BitVec 256
  jsonLength : AwakeningLogEntry → ℕ

export LogSigning (sign jsonLength)

def awakeningLogVersion : ℕ := 2
def awakeningLogAlgorithm : String := "hmac-sha256"
def awakeningLogSignatureDomain : String := "cthuwu-awakening-log-v2"
def awakeningLogHeader : String :=
  "# Cthuwu awakening log\n\nSigned, append-only awakening actions. " ++
    "Raw message bodies are never stored.\n\n"
def maxAwakeningLogBytes : ℕ := 1024 * 1024

def canonicalLogEntry (entry : AwakeningLogEntry) : CanonicalAwakeningLogEntry :=
  { entry.toCanonicalAwakeningLogEntry with algorithm := awakeningLogAlgorithm }

def validateSha256 (value description : String) : Except String Unit :=
  failIf (¬isHexOf 64 value = true) (description ++ " must be canonical lowercase hexadecimal")

/-! ## The validator of the log -/

/-- The phases in which an epoch has ended. -/
def AwakeningLogPhase.isComplete : AwakeningLogPhase → Bool
  | pending => false
  | confirmed | killed | skippedForTesting | acceptedByDefault => true

/-- The phases in which the Nature of an epoch is in use. -/
def AwakeningLogPhase.isConfirmed : AwakeningLogPhase → Bool
  | pending | killed => false
  | confirmed | skippedForTesting | acceptedByDefault => true

def transitionPhase (previous : AwakeningLogPhase) (action : RecordedAwakeningAction)
    (source : ProvenanceSource) (beginsEpoch : Bool) : Except String AwakeningLogPhase :=
  if beginsEpoch = true then
    if ¬previous.isComplete = true ∨ action ≠ .forcedRerollEpoch ∨ source ≠ .localCli then
      throw "invalid forced awakening epoch transition"
    else return .pending
  else
    match action with
    | .forcedRerollEpoch => throw "forced reroll must begin a new awakening epoch"
    | .operator .yes =>
      if previous = .pending then return .confirmed
      else throw "awakening action is invalid in the current phase"
    | .operator .kill =>
      if previous = .pending then return .killed
      else throw "awakening action is invalid in the current phase"
    | .operator (.adjust _ _) | .operator .reroll =>
      if previous = .pending then return .pending
      else throw "awakening action is invalid in the current phase"
    | .skipForTesting =>
      if previous = .pending ∧ source = .localCli then return .skippedForTesting
      else throw "awakening action is invalid in the current phase"
    | .acceptDefault =>
      if previous = .pending ∧ source = .localCli then return .acceptedByDefault
      else throw "awakening action is invalid in the current phase"
    | .postConfirmationAdjust _ _ =>
      if previous.isConfirmed = true then return previous
      else throw "awakening action is invalid in the current phase"

def validateRerolledLineage (previous current : TentacleNature) : Except String Unit := do
  failIf (previous.schemaVersion ≠ current.schemaVersion)
    "rerolled Nature changed its schema version"
  failIf (previous.natureId = current.natureId) "rerolled Nature did not receive a new identifier"
  failIf (previous.generation ≠ current.generation) "rerolled Nature changed its generation"
  failIf (previous.parentNatureId ≠ current.parentNatureId)
    "rerolled Nature changed its parent lineage"

def validateNatureTransition (previous current : TentacleNature)
    (action : RecordedAwakeningAction) (beginsEpoch : Bool) : Except String Unit :=
  if beginsEpoch = true then validateRerolledLineage previous current
  else
    match action with
    | .operator (.adjust natureTrait delta) => do
      let expected ← adjust previous natureTrait delta
      failIf (expected ≠ current) "awakening adjustment snapshot is inconsistent"
    | .operator .reroll => validateRerolledLineage previous current
    | .operator .yes | .operator .kill | .skipForTesting | .acceptDefault =>
      failIf (previous ≠ current) "awakening terminal action unexpectedly changed Nature"
    | .postConfirmationAdjust natureTrait value => do
      failIf (natureValue previous natureTrait = value)
        "post-confirmation adjustment is a no-op"
      let expected ← adjust previous natureTrait (value - natureValue previous natureTrait)
      failIf (expected ≠ current) "post-confirmation adjustment snapshot is inconsistent"
    | .forcedRerollEpoch => throw "forced reroll did not begin a new epoch"

/-- What the validator remembers of the entries it has passed. -/
structure Verified where
  index : ℕ
  previousEntry : Option AwakeningLogEntry
  currentPhase : AwakeningLogPhase
  eventIds : List (BitVec 256)
  natureIds : List String

def Verified.start : Verified :=
  { index := 0, previousEntry := none, currentPhase := .pending, eventIds := [], natureIds := [] }

/-- An entry may follow the ones before it, and whether it begins an epoch. -/
def entryBeginsEpoch (previous : Option AwakeningLogEntry) (entry : AwakeningLogEntry) :
    Except String Bool :=
  match previous with
  | none => do
    failIf (entry.epoch ≠ 1) "awakening log must begin at epoch one"
    return false
  | some previous => do
    failIf (entry.predecessorNatureSnapshot ≠ previous.natureSnapshot)
      "awakening log entry does not name the preceding result as its immediate predecessor"
    failIf (2 ^ 64 ≤ previous.epoch + 1) "awakening epoch overflow"
    failIf (entry.epoch ≠ previous.epoch ∧ entry.epoch ≠ previous.epoch + 1)
      "awakening log epoch is not contiguous"
    return decide (entry.epoch = previous.epoch + 1)

section

variable [Hashing] [LogSigning]

/-- The identifier and the fingerprint that an entry gives for a Nature are right. -/
def validateSnapshot (natureId natureSha256 fingerprintName mismatch : String)
    (nature : TentacleNature) : Except String Unit := do
  (validateNatureId natureId).mapError errorText
  validateSha256 natureSha256 fingerprintName
  validateNature nature
  let fingerprint ← natureFingerprint nature
  failIf (natureId ≠ nature.natureId ∨ natureSha256 ≠ fingerprint) mismatch

def verifyEntry (v : Verified) (entry : AwakeningLogEntry) : Except String Verified := do
  failIf (entry.version ≠ awakeningLogVersion)
    ("unsupported awakening log version " ++ entry.version.repr)
  failIf (2 ^ 64 ≤ v.index + 1) "awakening log sequence overflow"
  failIf (entry.sequence ≠ v.index + 1) "awakening log sequence is not contiguous"
  failIf (∃ previous ∈ v.previousEntry, entry.timestampUnix < previous.timestampUnix)
    "awakening log timestamp moved backwards"
  let actor ← normalizeActorId entry.provenance entry.operatorId
  failIf (actor ≠ entry.operatorId) "awakening log operator identifier is not canonical"
  failIf (entry.eventIdSha256 ∈ v.eventIds) "awakening log repeats a provenance event"
  validateSnapshot entry.predecessorNatureId entry.predecessorNatureSha256
    "awakening predecessor Nature fingerprint"
    "awakening log predecessor Nature snapshot metadata does not match"
    entry.predecessorNatureSnapshot
  validateSnapshot entry.natureId entry.natureSha256 "awakening Nature fingerprint"
    "awakening log Nature snapshot metadata does not match" entry.natureSnapshot
  failIf (entry.algorithm ≠ awakeningLogAlgorithm)
    "unsupported awakening log signature algorithm"
  failIf (entry.previousSignature ≠ v.previousEntry.map (·.signature))
    "awakening log signature chain is broken"
  failIf (entry.signature ≠ sign awakeningLogSignatureDomain (canonicalLogEntry entry))
    "state signature verification failed"
  let action ← RecordedAwakeningAction.parse entry.normalizedAction
  failIf (action.normalized ≠ entry.normalizedAction) "awakening log action is not canonical"
  let beginsEpoch ← entryBeginsEpoch v.previousEntry entry
  let currentPhase ← transitionPhase v.currentPhase action entry.provenance beginsEpoch
  validateNatureTransition entry.predecessorNatureSnapshot entry.natureSnapshot action beginsEpoch
  let natureIds :=
    match v.previousEntry with
    | none => [entry.predecessorNatureId]
    | some _ => v.natureIds
  failIf ((action = .operator .reroll ∨ action = .forcedRerollEpoch) ∧ entry.natureId ∈ natureIds)
    "rerolled Nature reuses an earlier candidate identifier"
  failIf (entry.phase ≠ currentPhase) "awakening action and resulting phase disagree"
  return { index := v.index + 1
           previousEntry := some entry
           currentPhase := currentPhase
           eventIds := entry.eventIdSha256 :: v.eventIds
           natureIds := entry.natureId :: natureIds }

/-- What is known of an entry that passes. -/
structure Passed (v : Verified) (entry : AwakeningLogEntry) (action : RecordedAwakeningAction)
    (beginsEpoch : Bool) : Prop where
  predecessor : validateNature entry.predecessorNatureSnapshot = .ok ()
  nature : validateNature entry.natureSnapshot = .ok ()
  parse : RecordedAwakeningAction.parse entry.normalizedAction = .ok action
  normalized : action.normalized = entry.normalizedAction
  begins : entryBeginsEpoch v.previousEntry entry = .ok beginsEpoch
  phase : transitionPhase v.currentPhase action entry.provenance beginsEpoch = .ok entry.phase
  transition : validateNatureTransition entry.predecessorNatureSnapshot entry.natureSnapshot
    action beginsEpoch = .ok ()

theorem validateSnapshot_ok {natureId natureSha256 fingerprintName mismatch : String}
    {nature : TentacleNature}
    (h : validateSnapshot natureId natureSha256 fingerprintName mismatch nature = .ok ()) :
    validateNature nature = .ok () := by
  unfold validateSnapshot at h
  simp only [except_bind_ok, exists_unit] at h
  exact h.2.2.1

theorem verifyEntry_ok {v v' : Verified} {entry : AwakeningLogEntry}
    (h : verifyEntry v entry = .ok v') :
    (∃ action beginsEpoch, Passed v entry action beginsEpoch) ∧
      v'.previousEntry = some entry ∧ v'.currentPhase = entry.phase := by
  unfold verifyEntry at h
  simp only [except_bind_ok, exists_unit, failIf_ok, not_ne_iff, except_pure_ok] at h
  obtain ⟨-, -, -, -, actor, -, -, -, hpredecessor, hnature, -, -, -, action, hparse, hnormalized,
    beginsEpoch, hbegins, phase, hphase, htransition, -, hagree, rfl⟩ := h
  subst hagree
  exact ⟨⟨action, beginsEpoch, validateSnapshot_ok hpredecessor, validateSnapshot_ok hnature,
    hparse, hnormalized, hbegins, hphase, htransition⟩, rfl, rfl⟩

variable (entries : List AwakeningLogEntry)

def verifyEntries : Except String Verified :=
  replay verifyEntry Verified.start entries

/-! ## The file -/

/-- The length of the file, which may not pass the limit. -/
def encodeLog : Except String ℕ :=
  entries.foldlM (fun length entry => do
      let resulting := length + 3 + jsonLength entry
      failIf (maxAwakeningLogBytes < resulting) "awakening log reached its size limit"
      return resulting)
    awakeningLogHeader.utf8ByteSize

/-- The entries of the file, which exists from the first entry on. -/
def readEntries (log : List AwakeningLogEntry) : Except String (List AwakeningLogEntry) :=
  if log = [] then return []
  else do
    let _ ← encodeLog log
    let _ ← verifyEntries log
    return log

def replaceEntries (storage : Storage) (previouslyVerified replacement : List AwakeningLogEntry) :
    Fallible String (List AwakeningLogEntry) Unit := do
  let log ← get
  let entries ← readEntries log
  failIf (entries ≠ previouslyVerified) "awakening log changed concurrently"
  let _ ← encodeLog replacement
  match storage with
  | .refused error => throw error
  | .written => set replacement
  | .unconfirmed error => do
    set replacement
    throw error

def newEntry (epoch timestampUnix : ℕ)
    (provenance : AwakeningProvenance) (action : RecordedAwakeningAction)
    (predecessor result : TentacleNature) (phase : AwakeningLogPhase) :
    Except String AwakeningLogEntry := do
  failIf (2 ^ 64 ≤ entries.length + 1) "awakening log sequence overflow"
  let predecessorNatureSha256 ← natureFingerprint predecessor
  let natureSha256 ← natureFingerprint result
  let canonical : CanonicalAwakeningLogEntry :=
    { version := awakeningLogVersion
      sequence := entries.length + 1
      epoch := epoch
      timestampUnix := timestampUnix
      operatorId := provenance.operatorId
      provenance := provenance.source
      eventIdSha256 := provenance.eventId
      normalizedAction := action.normalized
      predecessorNatureId := predecessor.natureId
      predecessorNatureSha256 := predecessorNatureSha256
      predecessorNatureSnapshot := predecessor
      natureId := result.natureId
      natureSha256 := natureSha256
      natureSnapshot := result
      phase := phase
      algorithm := awakeningLogAlgorithm
      previousSignature := entries.getLast?.map (·.signature) }
  return ⟨canonical, sign awakeningLogSignatureDomain canonical⟩

/-- `AwakeningLog::append`. -/
def append (storage : Storage) (epoch timestampUnix : ℕ) (provenance : AwakeningProvenance)
    (action : RecordedAwakeningAction) (predecessor result : TentacleNature)
    (phase : AwakeningLogPhase) : Fallible String (List AwakeningLogEntry) Unit := do
  validateNature predecessor
  validateNature result
  let log ← get
  let entries ← readEntries log
  let entry ← newEntry entries epoch timestampUnix provenance action predecessor result phase
  let _ ← verifyEntries (entries ++ [entry])
  replaceEntries storage entries (entries ++ [entry])

end

end Cthuwu.Awakening
