import Cthuwu.Evolution.Operations
import Cthuwu.Lib.Moves

/-!
# What a call does to the lifecycle

A `Request` is one call. What it writes is a list of `Move`s, whether it returns or fails in the
middle : `run_does` reads them off the operations. A move that adds to the log weighs one and a
counted change takes one away, so a call that returns has counted what it added.
-/

namespace Cthuwu.Evolution

open Council

/-! ## Moves -/

inductive Move
  | bump
  | setAutoSpawn (enabled : Bool)
  | schedule (pending : PendingDeath)
  | retire (judgmentId : String)
  | offer (intent : LifecycleIntent)
  | enqueue (intent : LifecycleIntent)
  | cancel (actionIds : List String)
  | reopen (actionId : String)
  | track (actionIds : List String)
  | acknowledge (intent : LifecycleIntent) (receipt : LifecycleReceipt)
  | projectAbsorption (actionId : String) (projection : AbsorptionProjection)
  | projectSpawn (actionId : String) (projection : SpawnProjection)

def Move.apply (s : LifecycleState) : Move → LifecycleState
  | bump => s.bumped
  | setAutoSpawn enabled => { s with autoSpawnEnabled := enabled }
  | schedule pending => { s with pendingDeath := some pending }
  | retire judgmentId => s.retire judgmentId
  | offer intent => s.addIntent intent
  | enqueue intent => s.addIntent intent
  | cancel actionIds => s.cancel actionIds
  | reopen actionId => s.reopen actionId
  | track actionIds => s.track actionIds
  | acknowledge intent receipt => s.acknowledge intent receipt
  | projectAbsorption actionId projection => s.projectAbsorption actionId projection
  | projectSpawn actionId projection => s.projectSpawn actionId projection

/-- What a move adds to the log, or has counted. -/
def Move.weight : Move → ℤ
  | bump => -1
  | schedule _ => 1
  | offer _ => 1
  | enqueue _ => 1
  | acknowledge .. => 1
  | projectAbsorption .. => 1
  | projectSpawn .. => 1
  | _ => 0

variable [Hashing]

/-- The intent is new, valid, and named as its action is. -/
structure LifecycleState.Admits (s : LifecycleState) (intent : LifecycleIntent) : Prop where
  fresh : s.intents.get intent.actionId = none
  valid : validateLifecycleAction intent.action = .ok ()
  canonical : lifecycleActionId intent.action = .ok intent.actionId

/-- An action of the pending death may be offered : a spend when no other is open, and a shutdown
after the absorption it names. -/
def LifecycleState.CanOffer (s : LifecycleState) : LifecycleAction → Prop
  | .spendForSurvival spend =>
    s.dies spend.judgmentId = true ∧ s.unreceiptedSpend spend.judgmentId = none
  | .absorb _ _ judgmentId => s.dies judgmentId = true
  | .shutdown tentacleId judgmentId afterActionId =>
    s.dies judgmentId = true ∧
      s.validateDependency (.shutdown tentacleId judgmentId afterActionId) = .ok ()
  | _ => False

/-- A successful absorption of the pending death, without a projection. -/
def LifecycleState.Trackable (s : LifecycleState) (actionId : String) : Prop :=
  ∃ intent receipt, s.intents.get actionId = some intent ∧ s.receipt actionId = some receipt ∧
    s.isPendingAbsorption intent.action = true ∧ receipt.status = .succeeded ∧
      s.absorptionProjections.get actionId = none

def Move.Justified (s : LifecycleState) : Move → Prop
  | bump => s.revision < u64Max
  | setAutoSpawn _ => True
  | schedule pending => s.pendingDeath = none ∧ isHexOf 64 pending.judgmentId = true ∧
      pending.scheduledAtMs ≤ pending.graceEndsAtMs
  | retire judgmentId => s.dies judgmentId = true ∧ s.hasAbsorbed judgmentId = false
  | offer intent => s.Admits intent ∧ s.CanOffer intent.action
  | enqueue intent =>
    s.Admits intent ∧ intent.action.isSpend = false ∧ intent.action.isShutdown = false
  | cancel actionIds => ∀ actionId ∈ actionIds, ∃ intent,
      s.intents.get actionId = some intent ∧ s.receipt actionId = none
  | reopen actionId => ∃ intent judgmentId, s.intents.get actionId = some intent ∧
      intent.action.spendsFor judgmentId = true ∧ s.dies judgmentId = true
  | track actionIds => ∀ actionId ∈ actionIds, s.Trackable actionId
  | acknowledge intent receipt => s.intents.get receipt.actionId = some intent ∧
      validateLifecycleReceipt intent receipt = .ok () ∧ s.receipt receipt.actionId = none ∧
      s.checkSuccess intent receipt = .ok ()
  | projectAbsorption actionId projection => ∃ intent receipt,
      s.intents.get actionId = some intent ∧ s.receipt actionId = some receipt ∧
      intent.action.isAbsorb = true ∧ receipt.status = .succeeded ∧
      receipt.completedAtMs ≤ projection.latestReceiptMs ∧
      s.absorptionProjections.get actionId = none
  | projectSpawn actionId projection => ∃ intent receipt,
      s.intents.get actionId = some intent ∧ s.receipt actionId = some receipt ∧
      intent.action.isSpawn = true ∧ receipt.status = .succeeded ∧
      projection.completedAtMs = receipt.completedAtMs ∧
      0 ≤ projection.metricsPeriodStartedAtUnixSeconds ∧ s.spawnProjections.get actionId = none

def lifecycleMoves : Moves LifecycleState Move where
  apply := Move.apply
  Justified := Move.Justified

/-! ## Requests -/

inductive Request
  | setAutoSpawnEnabled (enabled : Bool)
  | enqueueVeniceKeyReward (createdAtMs : ℕ) (action : LifecycleAction)
  | enqueueAcolyteContributionReward (createdAtMs : ℕ) (action : LifecycleAction)
  | enqueueSpawn (createdAtMs : ℕ) (plan : SpawnPlan)
  | enqueueAbsorption (createdAtMs : ℕ) (sourceId targetId judgmentId : String)
  | enqueueSurvivalSpend (judgmentId : String) (createdAtMs : ℕ) (binding : SurvivalSpendBinding)
  | cancelPendingSurvivalSpends (judgmentId : String)
  | scheduleDeath (judgmentId : String) (scheduledAtMs gracePeriodMs : ℕ)
      (survivalSpend : Option SurvivalSpendBinding)
  | retireLegacyDeathAsDormancy
  | reconcileExpiredDeath (nowMs : ℕ) (absorptionTarget : Option String)
  | reconcileAbsorptionProjectionTracking
  | recordAbsorptionProjection (actionId : String) (projectedAtMs : ℕ)
  | recordSpawnProjection (actionId : String) (completedAtMs : ℕ)
      (metricsPeriodStartedAtUnixSeconds : ℤ)
  | acknowledgeAction (receipt : LifecycleReceipt)

def Request.run : Request → Op Unit
  | setAutoSpawnEnabled enabled => do
    let _ ← Evolution.setAutoSpawnEnabled enabled
  | enqueueVeniceKeyReward createdAtMs action => do
    let _ ← Evolution.enqueueVeniceKeyReward createdAtMs action
  | enqueueAcolyteContributionReward createdAtMs action => do
    let _ ← Evolution.enqueueAcolyteContributionReward createdAtMs action
  | enqueueSpawn createdAtMs plan => do
    let _ ← Evolution.enqueueSpawn createdAtMs plan
  | enqueueAbsorption createdAtMs sourceId targetId judgmentId => do
    let _ ← Evolution.enqueueAbsorption createdAtMs sourceId targetId judgmentId
  | enqueueSurvivalSpend judgmentId createdAtMs binding => do
    let _ ← enqueueSurvivalSpendForPendingDeath judgmentId createdAtMs binding
  | cancelPendingSurvivalSpends judgmentId => do
    let _ ← Evolution.cancelPendingSurvivalSpends judgmentId
  | scheduleDeath judgmentId scheduledAtMs gracePeriodMs survivalSpend => do
    let _ ← Evolution.scheduleDeath judgmentId scheduledAtMs gracePeriodMs survivalSpend
  | retireLegacyDeathAsDormancy => do
    let _ ← Evolution.retireLegacyDeathAsDormancy
  | reconcileExpiredDeath nowMs absorptionTarget => do
    let _ ← Evolution.reconcileExpiredDeath nowMs absorptionTarget
  | reconcileAbsorptionProjectionTracking => do
    let _ ← Evolution.reconcileAbsorptionProjectionTracking
  | recordAbsorptionProjection actionId projectedAtMs => do
    let _ ← Evolution.recordAbsorptionProjection actionId projectedAtMs
  | recordSpawnProjection actionId completedAtMs metricsPeriodStartedAtUnixSeconds => do
    let _ ← Evolution.recordSpawnProjection actionId completedAtMs
      metricsPeriodStartedAtUnixSeconds
  | acknowledgeAction receipt => do
    let _ ← Evolution.acknowledgeAction receipt

def Request.schedules : Request → Option PendingDeath
  | scheduleDeath judgmentId scheduledAtMs gracePeriodMs _ =>
    if scheduledAtMs + gracePeriodMs ≤ u64Max then
      some ⟨judgmentId, scheduledAtMs, scheduledAtMs + gracePeriodMs⟩
    else none
  | _ => none

def Request.enqueues : Request → Option LifecycleAction
  | enqueueVeniceKeyReward _ action => some action
  | enqueueAcolyteContributionReward _ action => some action
  | enqueueSpawn _ plan => some (.spawn plan)
  | enqueueAbsorption _ sourceId targetId judgmentId => some (.absorb sourceId targetId judgmentId)
  | _ => none

def Request.Does (request : Request) : Move → Prop
  | .schedule pending => request.schedules = some pending
  | .retire _ => request = .retireLegacyDeathAsDormancy
  | .enqueue intent => request.enqueues = some intent.action
  | .acknowledge _ receipt => request = .acknowledgeAction receipt
  | _ => True

end Cthuwu.Evolution
