import Cthuwu.Awakening.Log

/-!
# The ritual of awakening

The ritual holds the Nature of a Tentacle and how far its operator has agreed to it. A transition
computes the ritual that would follow, appends it to the log, and only then takes it : the live
ritual and the log are two copies of one history. After a crash the ritual is rebuilt from the
entries of the last epoch.
-/

namespace Cthuwu.Awakening

open Council Evolution

inductive AwakeningPhase
  | awaitingConfirmation
  | confirmed (timestampUnix : ℕ) (operatorId : String)
  | killed (timestampUnix : ℕ) (operatorId : String)
  | skippedForTesting (timestampUnix : ℕ) (operatorId : String)
  | acceptedByDefault (timestampUnix : ℕ)
  deriving DecidableEq

inductive AwakeningOutcome
  | awaitingConfirmation
  | confirmed
  | killRequested
  | skippedForTesting
  | acceptedByDefault
  | adjustedAfterConfirmation
  | forcedRerollEpoch

def phaseFor : AwakeningPhase → AwakeningLogPhase
  | .awaitingConfirmation => .pending
  | .confirmed _ _ => .confirmed
  | .killed _ _ => .killed
  | .skippedForTesting _ _ => .skippedForTesting
  | .acceptedByDefault _ => .acceptedByDefault

structure AwakeningRitual where
  nature : TentacleNature
  phase : AwakeningPhase
  epoch : ℕ
  startedAtUnix : ℕ
  lastEventAtUnix : ℕ
  adjustmentCount : ℕ
  rerollCount : ℕ
  deriving DecidableEq

def AwakeningRitual.new (nature : TentacleNature) (startedAtUnix : ℕ) :
    Except String AwakeningRitual := do
  validateNature nature
  return { nature := nature
           phase := .awaitingConfirmation
           epoch := 1
           startedAtUnix := startedAtUnix
           lastEventAtUnix := startedAtUnix
           adjustmentCount := 0
           rerollCount := 0 }

/-- A counter of 32 bits goes up by one. -/
def increment (count : ℕ) (overflow : String) : Except String ℕ := do
  failIf (2 ^ 32 ≤ count + 1) overflow
  return count + 1

/-! ## Transitions -/

structure Proposed where
  action : RecordedAwakeningAction
  candidate : AwakeningRitual
  phase : AwakeningLogPhase
  outcome : AwakeningOutcome

variable (ritual : AwakeningRitual) (timestampUnix : ℕ) (provenance : AwakeningProvenance)

namespace AwakeningRitual

def applyUnlogged (action : AwakeningAction) (timestampUnix : ℕ)
    (provenance : AwakeningProvenance) (draw : Except String NatureDraw) :
    Except String (AwakeningRitual × AwakeningOutcome) :=
  match action with
  | .yes =>
    return ({ ritual with
      phase := .confirmed timestampUnix provenance.operatorId
      lastEventAtUnix := timestampUnix }, .confirmed)
  | .adjust natureTrait delta => do
    let nature ← Awakening.adjust ritual.nature natureTrait delta
    let count ← increment ritual.adjustmentCount "awakening adjustment counter overflow"
    return ({ ritual with
      nature := nature
      adjustmentCount := count
      lastEventAtUnix := timestampUnix }, .awaitingConfirmation)
  | .reroll => do
    let draw ← draw
    let nature ← Awakening.reroll ritual.nature draw
    let count ← increment ritual.rerollCount "awakening reroll counter overflow"
    return ({ ritual with
      nature := nature
      rerollCount := count
      lastEventAtUnix := timestampUnix }, .awaitingConfirmation)
  | .kill =>
    return ({ ritual with
      phase := .killed timestampUnix provenance.operatorId
      lastEventAtUnix := timestampUnix }, .killRequested)

def prepareTransition : Except String Unit := do
  failIf (timestampUnix < ritual.lastEventAtUnix) "awakening event timestamp moved backwards"
  failIf (phaseFor ritual.phase ≠ .pending) "awakening ritual is already complete"

def apply (action : AwakeningAction) (timestampUnix : ℕ)
    (provenance : AwakeningProvenance) (draw : Except String NatureDraw) :
    Except String Proposed := do
  ritual.prepareTransition timestampUnix
  let (candidate, outcome) ← ritual.applyUnlogged action timestampUnix provenance draw
  return { action := .operator action
           candidate := candidate
           phase := phaseFor candidate.phase
           outcome := outcome }

def skipForTesting : Except String Proposed := do
  ritual.prepareTransition timestampUnix
  failIf (provenance.source ≠ .localCli) "--skip-awakening requires local CLI provenance"
  return { action := .skipForTesting
           candidate := { ritual with
             phase := .skippedForTesting timestampUnix provenance.operatorId
             lastEventAtUnix := timestampUnix }
           phase := .skippedForTesting
           outcome := .skippedForTesting }

def acceptDefault : Except String Proposed := do
  ritual.prepareTransition timestampUnix
  failIf (provenance.source ≠ .localCli)
    "default Nature acceptance requires local runtime provenance"
  return { action := .acceptDefault
           candidate := { ritual with
             phase := .acceptedByDefault timestampUnix
             lastEventAtUnix := timestampUnix }
           phase := .acceptedByDefault
           outcome := .acceptedByDefault }

def adjustAfterConfirmation (natureTrait : NatureTrait) (value : ℕ)
    (timestampUnix : ℕ) : Except String Proposed := do
  failIf (timestampUnix < ritual.lastEventAtUnix) "awakening event timestamp moved backwards"
  failIf (¬(phaseFor ritual.phase).isConfirmed = true)
    "post-confirmation Nature adjustment requires a confirmed ritual"
  failIf (100 < value) "post-confirmation Nature value must be between 0 and 100"
  let current := natureValue ritual.nature natureTrait
  failIf (current = value) "post-confirmation Nature adjustment must change the value"
  let nature ← Awakening.adjust ritual.nature natureTrait (value - current)
  let count ← increment ritual.adjustmentCount "awakening adjustment counter overflow"
  return { action := .postConfirmationAdjust natureTrait value
           candidate := { ritual with
             nature := nature
             adjustmentCount := count
             lastEventAtUnix := timestampUnix }
           phase := phaseFor ritual.phase
           outcome := .adjustedAfterConfirmation }

def forceRerollEpoch (draw : Except String NatureDraw) :
    Except String Proposed := do
  failIf (provenance.source ≠ .localCli)
    "--reroll-nature --force requires local CLI provenance"
  failIf (timestampUnix < ritual.lastEventAtUnix) "awakening event timestamp moved backwards"
  failIf (¬(phaseFor ritual.phase).isComplete = true)
    "forced Nature reroll requires a completed ritual epoch"
  let draw ← draw
  let nature ← Awakening.reroll ritual.nature draw
  failIf (2 ^ 64 ≤ ritual.epoch + 1) "awakening epoch overflow"
  return { action := .forcedRerollEpoch
           candidate := { nature := nature
                          phase := .awaitingConfirmation
                          epoch := ritual.epoch + 1
                          startedAtUnix := timestampUnix
                          lastEventAtUnix := timestampUnix
                          adjustmentCount := 0
                          rerollCount := 1 }
           phase := .pending
           outcome := .forcedRerollEpoch }

end AwakeningRitual

inductive Transition
  | apply (action : AwakeningAction)
  | skipForTesting
  | acceptDefault
  | adjustAfterConfirmation (natureTrait : NatureTrait) (value : ℕ)
  | forceRerollEpoch

/-- What a transition is given : the time, who asks, and what a random Nature would draw. -/
structure Request where
  transition : Transition
  timestampUnix : ℕ
  provenance : AwakeningProvenance
  draw : Except String NatureDraw

def AwakeningRitual.propose (request : Request) :
    Except String Proposed :=
  match request.transition with
  | .apply action => ritual.apply action request.timestampUnix request.provenance request.draw
  | .skipForTesting => ritual.skipForTesting request.timestampUnix request.provenance
  | .acceptDefault => ritual.acceptDefault request.timestampUnix request.provenance
  | .adjustAfterConfirmation natureTrait value =>
    ritual.adjustAfterConfirmation natureTrait value request.timestampUnix
  | .forceRerollEpoch =>
    ritual.forceRerollEpoch request.timestampUnix request.provenance request.draw

structure Live where
  ritual : AwakeningRitual
  log : List AwakeningLogEntry
  deriving DecidableEq

section

variable [Hashing] [LogSigning]

/-- A transition as it runs : the candidate replaces the ritual once it is in the log. -/
def transition (storage : Storage) (request : Request) : Fallible String Live AwakeningOutcome := do
  let live ← get
  let proposed ← live.ritual.propose request
  let (result, log) := (append storage proposed.candidate.epoch request.timestampUnix
    request.provenance proposed.action live.ritual.nature proposed.candidate.nature
    proposed.phase).exec live.log
  set { live with log := log }
  liftM result
  set { ritual := proposed.candidate, log := log : Live }
  return proposed.outcome

/-! ## Recovery -/

/-- What one entry of the epoch changes of the ritual that is being rebuilt. -/
def recount (entry : AwakeningLogEntry) :
    Except String AwakeningRitual := do
  let action ← RecordedAwakeningAction.parse entry.normalizedAction
  match action with
  | .operator (.adjust _ _) | .postConfirmationAdjust _ _ => do
    let count ← increment ritual.adjustmentCount "awakening adjustment counter overflow"
    return { ritual with adjustmentCount := count }
  | .operator .reroll | .forcedRerollEpoch => do
    let count ← increment ritual.rerollCount "awakening reroll counter overflow"
    return { ritual with rerollCount := count }
  | .operator .yes =>
    return { ritual with phase := .confirmed entry.timestampUnix entry.operatorId }
  | .operator .kill =>
    return { ritual with phase := .killed entry.timestampUnix entry.operatorId }
  | .skipForTesting =>
    return { ritual with phase := .skippedForTesting entry.timestampUnix entry.operatorId }
  | .acceptDefault =>
    return { ritual with phase := .acceptedByDefault entry.timestampUnix }

def fromVerifiedEntries (nature : TentacleNature) (fallbackStartedAtUnix : ℕ)
    (entries : List AwakeningLogEntry) : Except String AwakeningRitual := do
  let last ← okOr entries.getLast? "awakening log is empty"
  failIf (nature ≠ last.natureSnapshot)
    "recovery Nature does not match the signed awakening snapshot"
  let epochEntries := entries.filter fun entry => entry.epoch = last.epoch
  let first ← okOr epochEntries.head? "latest awakening epoch is empty"
  let startedAtUnix :=
    if last.epoch = 1 then min fallbackStartedAtUnix first.timestampUnix else first.timestampUnix
  let ritual ← AwakeningRitual.new nature startedAtUnix
  let ritual ← replay recount
    { ritual with
      epoch := last.epoch
      lastEventAtUnix := last.timestampUnix } epochEntries
  failIf (phaseFor ritual.phase ≠ last.phase)
    "awakening log phase does not match its reconstructed ritual"
  return ritual

structure AwakeningRecovery where
  ritual : AwakeningRitual
  natureRecoveredFromLog : Bool

/-- Whether the log is ahead of the saved Nature, which is then the one just before its head. -/
def natureRecoveredFromLog (persistedNature : Option TentacleNature) (last : AwakeningLogEntry) :
    Except String Bool :=
  match persistedNature with
  | none => return true
  | some nature => do
    validateNature nature
    if nature = last.natureSnapshot then return false
    else if nature = last.predecessorNatureSnapshot then return true
    else throw ("persisted Nature is neither the awakening log head " ++
      "nor its signed immediate predecessor")

def resumeOrRecover (persistedNature : Option TentacleNature) (startedAtUnix : ℕ)
    (log : List AwakeningLogEntry) : Except String AwakeningRecovery := do
  let entries ← readEntries log
  match entries.getLast? with
  | none => do
    let nature ← okOr persistedNature "Nature state and awakening log are both absent"
    let ritual ← AwakeningRitual.new nature startedAtUnix
    return { ritual := ritual, natureRecoveredFromLog := false }
  | some last => do
    let recovered ← natureRecoveredFromLog persistedNature last
    let ritual ← fromVerifiedEntries last.natureSnapshot startedAtUnix entries
    return { ritual := ritual, natureRecoveredFromLog := recovered }

end

end Cthuwu.Awakening
