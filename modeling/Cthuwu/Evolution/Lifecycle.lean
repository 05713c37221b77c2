import Cthuwu.Evolution.Actions

/-!
# The lifecycle state

Intents by their identifiers, the receipts of executors, what has been canceled, and the markers
that connect a successful action to the other stores. `LifecycleState.validate` is what `save` and
`load` check : it follows the references between these parts one by one.
-/

namespace Cthuwu.Evolution

open Council

structure PendingDeath where
  judgmentId : String
  scheduledAtMs : ℕ
  graceEndsAtMs : ℕ
  deriving DecidableEq

structure LifecycleIntent where
  actionId : String
  createdAtMs : ℕ
  action : LifecycleAction

/-! ## Receipts -/

inductive LifecycleReceiptStatus
  | succeeded
  | failed
  | blocked
  deriving DecidableEq

inductive TokenSpendOperation
  | burn
  deriving DecidableEq

structure ConfirmedChainReceipt where
  chainId : ℕ
  transactionHash : String
  blockNumber : ℕ
  blockTimestampUnixSeconds : ℕ
  tokenContract : Address
  fromAddress : Address
  burnDestination : Address
  configurationIdentity : BitVec 256
  exactAmount : ExactTokenAmount
  operation : TokenSpendOperation
  deriving DecidableEq

structure ConfirmedTransferReceipt where
  chainId : ℕ
  transactionHash : String
  blockNumber : ℕ
  blockTimestampUnixSeconds : ℕ
  tokenContract : Address
  fromAddress : Address
  toAddress : Address
  configurationIdentity : BitVec 256
  exactAmount : WholeTokenAmount
  deriving DecidableEq

structure ProvisionReceipt where
  childId : String
  childNatureFingerprint : String
  manifestSha256 : String
  deriving DecidableEq

structure LifecycleReceipt where
  actionId : String
  completedAtMs : ℕ
  status : LifecycleReceiptStatus
  externalReference : Option String
  detail : Option String
  confirmedChainReceipt : Option ConfirmedChainReceipt
  confirmedTransferReceipt : Option ConfirmedTransferReceipt
  provisionReceipt : Option ProvisionReceipt
  deriving DecidableEq

def maxExecutionDetailBytes : ℕ := 1024

def validateExecutionText (value : Option String) (description : String) :
    Except EvolutionError Unit :=
  failIf (value.any fun value => value = "" || maxExecutionDetailBytes < value.utf8ByteSize ||
    value.toList.any isControl)
    (.invalid (description ++ " is empty, oversized, or contains control characters"))

/-- `0x` and 64 lowercase hexadecimal digits. -/
def isTransactionHash (value : String) : Bool :=
  ['0', 'x'].isPrefixOf value.toList && (value.toList.drop 2).length = 64 &&
    (value.toList.drop 2).all isLowerHex

def validateChainReceipt (receipt : ConfirmedChainReceipt) : Except EvolutionError Unit := do
  failIf (receipt.chainId = 0 ∨ receipt.blockNumber = 0 ∨ receipt.blockTimestampUnixSeconds = 0)
    (.invalid "confirmed chain receipt requires nonzero chain, block, and block timestamp")
  failIf (!isTransactionHash receipt.transactionHash)
    (.invalid "confirmed transaction hash must be lowercase 0x-prefixed 32-byte hex")
  failIf (receipt.tokenContract = 0 ∨ receipt.fromAddress = 0 ∨ receipt.configurationIdentity = 0 ∨
    receipt.burnDestination ≠ 0)
    (.invalid ("confirmed token burn receipt has invalid token, source, destination, " ++
      "or configuration binding"))
  validateExactTokenAmount receipt.exactAmount

def validateTransferReceipt (receipt : ConfirmedTransferReceipt) : Except EvolutionError Unit := do
  failIf (receipt.chainId ≠ baseChainId ∨ receipt.blockNumber = 0 ∨
    receipt.blockTimestampUnixSeconds = 0 ∨ receipt.tokenContract = 0 ∨ receipt.fromAddress = 0 ∨
    receipt.toAddress = 0 ∨ receipt.fromAddress = receipt.toAddress ∨
    receipt.configurationIdentity = 0)
    (.invalid ("confirmed Venice-key reward receipt has invalid chain, token, address, block, " ++
      "or configuration binding"))
  failIf (!isTransactionHash receipt.transactionHash)
    (.invalid "confirmed transfer hash must be lowercase 0x-prefixed 32-byte hex")
  validateWholeTokenAmount receipt.exactAmount

def validateProvisionReceipt (receipt : ProvisionReceipt) : Except EvolutionError Unit := do
  validateId receipt.childId "provisioned child ID"
  validateSha256 receipt.childNatureFingerprint "provisioned child Nature fingerprint"
  validateSha256 receipt.manifestSha256 "provisioning manifest digest"

/-- Seconds as milliseconds, saturating. -/
def asMs (seconds : ℕ) : ℕ :=
  min (seconds * 1000) u64Max

/-- What the receipts of the two kinds of reward must show. -/
def validateRewardReceipt (binding : RewardBinding) (lacks differs : String) (createdAtMs : ℕ)
    (receipt : LifecycleReceipt) : Except EvolutionError Unit := do
  let confirmed ← okOr receipt.confirmedTransferReceipt (.invalid lacks)
  failIf (confirmed.chainId ≠ binding.chainId ∨ confirmed.tokenContract ≠ binding.tokenContract ∨
    confirmed.fromAddress ≠ binding.treasuryAddress ∨ confirmed.toAddress ≠ binding.acolyteAddress ∨
    confirmed.configurationIdentity ≠ binding.configurationIdentity ∨
    confirmed.exactAmount ≠ binding.exactAmount ∨
    asMs confirmed.blockTimestampUnixSeconds < createdAtMs) (.invalid differs)

def validateSpendReceipt (spend : SurvivalSpend) (createdAtMs : ℕ) (receipt : LifecycleReceipt) :
    Except EvolutionError Unit := do
  let confirmed ← okOr receipt.confirmedChainReceipt
    (.invalid "successful survival spend lacks confirmed chain evidence")
  failIf (confirmed.chainId ≠ spend.chainId ∨ confirmed.tokenContract ≠ spend.tokenContract ∨
    confirmed.fromAddress ≠ spend.treasuryAddress ∨
    confirmed.burnDestination ≠ spend.burnDestination ∨
    confirmed.configurationIdentity ≠ spend.configurationIdentity ∨
    confirmed.exactAmount ≠ spend.exactAmount ∨ confirmed.operation ≠ .burn ∨
    asMs confirmed.blockTimestampUnixSeconds < createdAtMs ∨
    spend.graceEndsAtMs < asMs confirmed.blockTimestampUnixSeconds)
    (.invalid "survival receipt does not match the exact burn action")

variable [Hashing]

variable (s : LifecycleState) (actionId : String) (intent : LifecycleIntent)

/-- What the receipt of a successful action must show. -/
def validateSuccess (receipt : LifecycleReceipt) :
    Except EvolutionError Unit :=
  match intent.action with
  | .spendForSurvival spend => validateSpendReceipt spend intent.createdAtMs receipt
  | .rewardVeniceKey _ _ binding =>
    validateRewardReceipt binding
      "successful Venice-key reward lacks confirmed transfer evidence"
      "Venice-key reward receipt does not match the exact transfer action" intent.createdAtMs receipt
  | .rewardAcolyteContribution _ _ _ _ binding =>
    validateRewardReceipt binding
      "successful contribution reward lacks confirmed transfer evidence"
      "contribution reward receipt does not match the exact transfer action" intent.createdAtMs
      receipt
  | .absorb .. => do
    let reference ← okOr receipt.externalReference
      (.invalid "successful absorption lacks a transfer-manifest digest")
    validateSha256 reference "absorption transfer-manifest digest"
  | .spawn plan => do
    let provision ← okOr receipt.provisionReceipt
      (.invalid "successful spawn lacks structured provision evidence")
    let fingerprint ← plan.childNature.fingerprint
    failIf (provision.childId ≠ plan.childId ∨ provision.childNatureFingerprint ≠ fingerprint)
      (.invalid "provision receipt does not match the planned child")
  | .shutdown .. =>
    failIf (receipt.externalReference = none)
      (.invalid "successful shutdown lacks a process-controller acknowledgement")

def validateLifecycleReceipt (receipt : LifecycleReceipt) :
    Except EvolutionError Unit := do
  validateExecutionText receipt.externalReference "external reference"
  validateExecutionText receipt.detail "execution detail"
  failIf (receipt.completedAtMs < intent.createdAtMs)
    (.invalid "lifecycle receipt predates its intent")
  receipt.confirmedChainReceipt.toList.forM validateChainReceipt
  receipt.confirmedTransferReceipt.toList.forM validateTransferReceipt
  receipt.provisionReceipt.toList.forM validateProvisionReceipt
  if receipt.status = .succeeded then validateSuccess intent receipt else .ok ()

/-! ## What an action is about -/

namespace LifecycleAction

def isSpend : LifecycleAction → Bool
  | spendForSurvival _ => true
  | _ => false

def isVeniceKeyReward : LifecycleAction → Bool
  | rewardVeniceKey .. => true
  | _ => false

def isContributionReward : LifecycleAction → Bool
  | rewardAcolyteContribution .. => true
  | _ => false

def isReward (action : LifecycleAction) : Bool :=
  action.isVeniceKeyReward || action.isContributionReward

def isAbsorb : LifecycleAction → Bool
  | absorb .. => true
  | _ => false

def isSpawn : LifecycleAction → Bool
  | spawn _ => true
  | _ => false

def isShutdown : LifecycleAction → Bool
  | shutdown .. => true
  | _ => false

def death : LifecycleAction → Option String
  | spendForSurvival spend => some spend.judgmentId
  | absorb _ _ judgmentId => some judgmentId
  | shutdown _ judgmentId _ => some judgmentId
  | _ => none

/-- A spend for survival at a death. -/
def spendsFor (judgmentId : String) (action : LifecycleAction) : Bool :=
  action.isSpend && action.death = some judgmentId

def absorbs (sourceId judgmentId : String) : LifecycleAction → Bool
  | absorb source _ judgment => source = sourceId && judgment = judgmentId
  | _ => false

end LifecycleAction

/-- The token transaction that a receipt consumes. -/
def LifecycleIntent.consumes (receipt : LifecycleReceipt) :
    Option String :=
  if receipt.status = .succeeded then
    if intent.action.isSpend then receipt.confirmedChainReceipt.map (·.transactionHash)
    else if intent.action.isReward then receipt.confirmedTransferReceipt.map (·.transactionHash)
    else none
  else none

/-! ## The state -/

structure SpawnProjection where
  completedAtMs : ℕ
  metricsPeriodStartedAtUnixSeconds : ℤ
  deriving DecidableEq

structure AbsorptionProjection where
  projectedAtMs : ℕ
  deriving DecidableEq

structure LifecycleState where
  schemaVersion : ℕ
  revision : ℕ
  tentacleId : String
  autoSpawnEnabled : Bool
  pendingDeath : Option PendingDeath
  shutdownCompletedAtMs : Option ℕ
  intents : HashMap String LifecycleIntent
  receipts : List LifecycleReceipt
  canceledActionIds : Finset String
  pendingAbsorptionProjectionActionIds : Finset String
  absorptionProjections : HashMap String AbsorptionProjection
  spawnProjections : HashMap String SpawnProjection

def lifecycleSchemaVersion : ℕ := 1

def lifecycleReceiptClockSkewMs : ℕ := 30000

/-- `projected_at_ms.saturating_add(..)`. -/
def AbsorptionProjection.latestReceiptMs (projection : AbsorptionProjection) : ℕ :=
  min (projection.projectedAtMs + lifecycleReceiptClockSkewMs) u64Max

namespace LifecycleState

def new (tentacleId : String) (autoSpawnEnabled : Bool) : Except EvolutionError LifecycleState := do
  validateId tentacleId "lifecycle Tentacle ID"
  return ⟨lifecycleSchemaVersion, 0, tentacleId, autoSpawnEnabled, none, none, .empty, [], ∅, ∅,
    .empty, .empty⟩

def receipt (s : LifecycleState) (actionId : String) : Option LifecycleReceipt :=
  s.receipts.find? fun receipt => receipt.actionId = actionId

/-- The intents, in the order of their identifiers. -/
def sortedIntents : List LifecycleIntent :=
  s.intents.sortedPairs.map (·.2)

/-- The pending death is this one. -/
def dies (judgmentId : String) : Bool :=
  s.pendingDeath.any fun pending => pending.judgmentId = judgmentId

/-- An action of the pending death that is an absorption. -/
def isPendingAbsorption (action : LifecycleAction) : Bool :=
  action.isAbsorb && action.death.any s.dies

/-! ### Validation -/

def validatePendingDeath : Except EvolutionError Unit :=
  s.pendingDeath.toList.forM fun death => do
    validateSha256 death.judgmentId "pending-death judgment ID"
    failIf (death.graceEndsAtMs < death.scheduledAtMs)
      (.invalid "death grace period ends before it begins")

/-- A shutdown waits for the absorption of its own death, or for nothing. -/
def validateDependency : LifecycleAction → Except EvolutionError Unit
  | .shutdown tentacleId judgmentId (some dependencyId) => do
    let dependency ← okOr (s.intents.get dependencyId)
      (.invalid "shutdown references a missing absorption action")
    failIf (!dependency.action.absorbs tentacleId judgmentId)
      (.invalid "shutdown dependency is not the exact matching death absorption")
  | _ => .ok ()

def validateIntent :
    Except EvolutionError Unit := do
  validateSha256 actionId "lifecycle action ID"
  failIf (actionId ≠ intent.actionId)
    (.invalid "lifecycle intent map key disagrees with its action ID")
  validateLifecycleAction intent.action
  let canonical ← lifecycleActionId intent.action
  failIf (canonical ≠ actionId) (.invalid "lifecycle action ID is not canonical")
  s.validateDependency intent.action

/-- One receipt of the loop, with the actions and the transactions seen before it. -/
def validateReceipt (seen : Finset String × Finset String)
    (receipt : LifecycleReceipt) : Except EvolutionError (Finset String × Finset String) := do
  validateSha256 receipt.actionId "lifecycle receipt action ID"
  let intent ← okOr (s.intents.get receipt.actionId)
    (.invalid "lifecycle receipt references a missing intent")
  failIf (receipt.actionId ∈ seen.1)
    (.invalid "lifecycle action has more than one terminal receipt")
  validateLifecycleReceipt intent receipt
  failIf ((intent.consumes receipt).any (· ∈ seen.2)) (.invalid (if intent.action.isSpend then
      "survival transaction is consumed by more than one death"
      else "one token transaction cannot satisfy more than one lifecycle action"))
  return (insert receipt.actionId seen.1, (intent.consumes receipt).elim seen.2 (insert · seen.2))

def validateCanceled : Except EvolutionError Unit := do
  validateSha256 actionId "canceled lifecycle action ID"
  failIf (!s.intents.contains actionId)
    (.invalid "canceled lifecycle action references a missing intent")

def validatePendingProjection :
    Except EvolutionError Unit := do
  validateSha256 actionId "pending absorption projection action ID"
  let intent ← okOr (s.intents.get actionId)
    (.invalid "pending absorption projection references a missing intent")
  let receipt ← okOr (s.receipt actionId)
    (.invalid "pending absorption projection has no terminal receipt")
  failIf (!s.isPendingAbsorption intent.action ∨ receipt.status ≠ .succeeded ∨
    s.absorptionProjections.contains actionId)
    (.invalid "pending absorption projection is not an unprojected successful absorption")

def validateAbsorptionProjection
    (projection : AbsorptionProjection) : Except EvolutionError Unit := do
  validateSha256 actionId "absorption projection action ID"
  let intent ← okOr (s.intents.get actionId)
    (.invalid "absorption projection references a missing intent")
  let receipt ← okOr (s.receipt actionId)
    (.invalid "absorption projection has no terminal receipt")
  failIf (!intent.action.isAbsorb ∨ receipt.status ≠ .succeeded ∨
    projection.latestReceiptMs < receipt.completedAtMs ∨
    actionId ∈ s.pendingAbsorptionProjectionActionIds)
    (.invalid "absorption projection does not match its successful executor receipt")

def validateSpawnProjection
    (projection : SpawnProjection) : Except EvolutionError Unit := do
  validateSha256 actionId "spawn projection action ID"
  let intent ← okOr (s.intents.get actionId)
    (.invalid "spawn projection references a missing lifecycle intent")
  failIf (!intent.action.isSpawn) (.invalid "spawn projection references a non-spawn action")
  let receipt ← okOr (s.receipt actionId)
    (.invalid "spawn projection has no terminal provisioning receipt")
  failIf (receipt.status ≠ .succeeded ∨ projection.completedAtMs ≠ receipt.completedAtMs ∨
    projection.completedAtMs < intent.createdAtMs ∨
    projection.metricsPeriodStartedAtUnixSeconds < 0)
    (.invalid "spawn projection does not match its successful provisioning receipt")

/-- A shutdown that an executor has carried out. -/
def hasShutDown : Bool :=
  s.receipts.any fun receipt => receipt.status = .succeeded &&
    (s.intents.get receipt.actionId).any fun intent => intent.action.isShutdown

/-- What the state has recorded of its changes. -/
def logSize : ℕ :=
  s.intents.len + s.receipts.length + s.spawnProjections.len + s.absorptionProjections.len +
    if s.pendingDeath.isSome then 1 else 0

def validate : Except EvolutionError Unit := do
  failIf (s.schemaVersion ≠ lifecycleSchemaVersion)
    (.invalid ("unsupported lifecycle schema version " ++ toString s.schemaVersion))
  validateId s.tentacleId "lifecycle Tentacle ID"
  s.validatePendingDeath
  s.intents.sortedPairs.forM fun (actionId, intent) => s.validateIntent actionId intent
  let _ ← s.receipts.foldlM s.validateReceipt (∅, ∅)
  (sorted s.canceledActionIds).forM s.validateCanceled
  (sorted s.pendingAbsorptionProjectionActionIds).forM s.validatePendingProjection
  s.absorptionProjections.sortedPairs.forM fun (actionId, projection) =>
    s.validateAbsorptionProjection actionId projection
  s.spawnProjections.sortedPairs.forM fun (actionId, projection) =>
    s.validateSpawnProjection actionId projection
  failIf (s.shutdownCompletedAtMs.isSome ∧ !s.hasShutDown)
    (.invalid "terminal shutdown state has no successful shutdown receipt")
  failIf (u64Max < s.logSize) (.limit "lifecycle revision")
  failIf (s.revision < s.logSize)
    (.invalid "lifecycle revision predates its durable mutation log")

end LifecycleState

end Cthuwu.Evolution
