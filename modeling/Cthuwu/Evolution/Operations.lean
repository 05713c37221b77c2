import Mathlib.Data.List.MinMax
import Mathlib.Data.Prod.Lex
import Cthuwu.Evolution.Lifecycle

/-!
# Operations on the lifecycle

The calls that change a `LifecycleState`, each with its checks and its writes in the order of the
code. Every change is counted by `bumpRevision`, which comes after the write and fails when the
count is full (`commit`). A death is scheduled, spends are offered and canceled within its grace,
the deadline turns it into an absorption and a shutdown, and the receipts of executors come in
whenever they do. `nextDueAction` is what is handed out next.
-/

namespace Cthuwu.Evolution

open Council
open EvolutionError LifecycleState

abbrev Op (α : Type) := Fallible EvolutionError LifecycleState α

namespace LifecycleState

/-- The state with one more change counted. -/
def bumped (s : LifecycleState) : LifecycleState :=
  { s with revision := s.revision + 1 }

def addIntent (intent : LifecycleIntent) (s : LifecycleState) : LifecycleState :=
  { s with intents := s.intents.insert intent.actionId intent }

def cancel (actionIds : List String) (s : LifecycleState) : LifecycleState :=
  { s with canceledActionIds := s.canceledActionIds ∪ actionIds.toFinset }

/-- Offer a canceled action again. -/
def reopen (actionId : String) (s : LifecycleState) : LifecycleState :=
  { s with canceledActionIds := s.canceledActionIds.erase actionId }

/-- The identifiers of the actions without a receipt that satisfy `p`. -/
def unreceipted (s : LifecycleState) (p : LifecycleAction → Bool) : List String :=
  (s.sortedIntents.filter fun intent =>
    p intent.action && (s.receipt intent.actionId).isNone).map (·.actionId)

end LifecycleState

/-- Count a change. -/
def bumpRevision : Op Unit := do
  let s ← get
  liftM (failIf (u64Max < s.revision + 1) (EvolutionError.limit "lifecycle revision"))
  modify LifecycleState.bumped

def commit (f : LifecycleState → LifecycleState) : Op Unit := do
  modify f
  bumpRevision

variable [Hashing]

/-! ## Intents -/

variable (actionId : String) (s : LifecycleState) (intent : LifecycleIntent)
  (receipt : LifecycleReceipt) (judgmentId : String) (createdAtMs : ℕ)

/-- Keep an action, unless it is kept already. -/
def insertIntent (action : LifecycleAction) : Op LifecycleIntent := do
  liftM (validateLifecycleAction action)
  let actionId ← liftM (lifecycleActionId action)
  let s ← get
  match s.intents.get actionId with
  | some intent => return intent
  | none =>
    commit (addIntent ⟨actionId, createdAtMs, action⟩)
    return ⟨actionId, createdAtMs, action⟩

def enqueueVeniceKeyReward (action : LifecycleAction) : Op LifecycleIntent := do
  liftM (failIf (!action.isVeniceKeyReward)
    (EvolutionError.invalid "Venice-key reward enqueue requires its exact action type"))
  insertIntent createdAtMs action

def enqueueAcolyteContributionReward (action : LifecycleAction) :
    Op LifecycleIntent := do
  liftM (failIf (!action.isContributionReward) (EvolutionError.invalid
      "acolyte contribution reward enqueue requires its exact action type"))
  insertIntent createdAtMs action

def enqueueSpawn (plan : SpawnPlan) : Op LifecycleIntent :=
  insertIntent createdAtMs (.spawn plan)

def enqueueAbsorption (sourceId targetId judgmentId : String) :
    Op LifecycleIntent :=
  insertIntent createdAtMs (.absorb sourceId targetId judgmentId)

def setAutoSpawnEnabled (enabled : Bool) : Op Bool := do
  let s ← get
  if s.autoSpawnEnabled = enabled then return false
  else do
    commit fun s => { s with autoSpawnEnabled := enabled }
    return true

/-! ## Survival spends -/

structure SurvivalSpendBinding where
  expenditureBasisPoints : ℕ
  chainId : ℕ
  tokenContract : Address
  treasuryAddress : Address
  configurationIdentity : BitVec 256
  exactAmount : ExactTokenAmount

/-- The action spends under this binding. -/
def SurvivalSpendBinding.binds (binding : SurvivalSpendBinding) (graceEndsAtMs : ℕ) :
    LifecycleAction → Bool
  | .spendForSurvival spend =>
    spend.graceEndsAtMs = graceEndsAtMs &&
      spend.expenditureBasisPoints = binding.expenditureBasisPoints &&
      spend.chainId = binding.chainId && spend.tokenContract = binding.tokenContract &&
      spend.treasuryAddress = binding.treasuryAddress &&
      spend.configurationIdentity = binding.configurationIdentity &&
      spend.exactAmount = binding.exactAmount
  | _ => false

namespace LifecycleState

def unreceiptedSpend : Option LifecycleIntent :=
  s.sortedIntents.find? fun intent =>
    intent.action.spendsFor judgmentId && (s.receipt intent.actionId).isNone

/-- The attempts made so far at a death. -/
def attempts : List ℕ :=
  s.sortedIntents.filterMap fun intent =>
    match intent.action with
    | .spendForSurvival spend => if spend.judgmentId = judgmentId then some spend.attempt else none
    | _ => none

/-- The next spend of the pending death. -/
def nextSpend (pending : PendingDeath) (binding : SurvivalSpendBinding) :
    LifecycleAction :=
  .spendForSurvival
    { tentacleId := s.tentacleId
      judgmentId := pending.judgmentId
      attempt := (s.attempts pending.judgmentId).max?.elim 0 fun attempt => min (attempt + 1) u32Max
      graceEndsAtMs := pending.graceEndsAtMs
      expenditureBasisPoints := binding.expenditureBasisPoints
      chainId := binding.chainId
      tokenContract := binding.tokenContract
      treasuryAddress := binding.treasuryAddress
      burnDestination := 0
      configurationIdentity := binding.configurationIdentity
      exactAmount := binding.exactAmount }

end LifecycleState

def offerAgain : Op Bool := do
  let s ← get
  if actionId ∈ s.canceledActionIds then do
    commit (LifecycleState.reopen actionId)
    return true
  else return false

def enqueueSurvivalSpendForPendingDeath
    (binding : SurvivalSpendBinding) : Op Bool := do
  let s ← get
  let pending ← liftM (okOr s.pendingDeath
    (conflict "no pending death can receive a survival spend"))
  liftM (failIf (pending.judgmentId ≠ judgmentId ∨ pending.graceEndsAtMs < createdAtMs)
    (conflict "survival spend is outside its exact pending death grace period"))
  match s.unreceiptedSpend judgmentId with
  | some existing => do
    liftM (failIf (!binding.binds pending.graceEndsAtMs existing.action)
      (conflict ("an unreceipted survival burn must be reconciled on-chain " ++
        "before its binding can change")))
    offerAgain existing.actionId
  | none => do
    let _ ← insertIntent createdAtMs (s.nextSpend pending binding)
    let s' ← get
    return s'.intents.len ≠ s.intents.len

def cancelPendingSurvivalSpends : Op Bool := do
  liftM (validateSha256 judgmentId "survival judgment ID")
  let s ← get
  let actionIds := s.unreceipted (·.spendsFor judgmentId)
  if actionIds.any (· ∉ s.canceledActionIds) then do
    commit (LifecycleState.cancel actionIds)
    return true
  else return false

/-! ## Deaths -/

def scheduleDeath (scheduledAtMs gracePeriodMs : ℕ)
    (survivalSpend : Option SurvivalSpendBinding) : Op Bool := do
  liftM (validateSha256 judgmentId "death judgment ID")
  let s ← get
  match s.pendingDeath with
  | some existing => do
    liftM (failIf (existing.judgmentId ≠ judgmentId)
      (conflict "a death grace period is already active"))
    return false
  | none => do
    liftM (failIf (u64Max < scheduledAtMs + gracePeriodMs)
      (EvolutionError.limit "death grace timestamp"))
    commit fun s =>
      { s with pendingDeath := some ⟨judgmentId, scheduledAtMs, scheduledAtMs + gracePeriodMs⟩ }
    match survivalSpend.filter fun binding => 0 < binding.expenditureBasisPoints with
    | some binding => do
      let _ ← enqueueSurvivalSpendForPendingDeath judgmentId scheduledAtMs binding
      return true
    | none => return true

namespace LifecycleState

/-- An absorption of this death has succeeded. -/
def hasAbsorbed : Bool :=
  s.receipts.any fun receipt => receipt.status = .succeeded &&
    (s.intents.get receipt.actionId).any fun intent =>
      intent.action.isAbsorb && intent.action.death = some judgmentId

def hasUnappliedAbsorptionProjection : Bool :=
  s.receipts.any fun receipt => receipt.status = .succeeded &&
    !s.absorptionProjections.contains receipt.actionId &&
      (s.intents.get receipt.actionId).any fun intent =>
        s.isPendingAbsorption intent.action && intent.actionId ∉ s.canceledActionIds

/-- Give a death up : cancel what it still has to do. -/
def retire (s : LifecycleState) : LifecycleState :=
  { s.cancel (s.unreceipted fun action => action.death = some judgmentId) with
    pendingDeath := none
    shutdownCompletedAtMs := none }

/-- The absorption of the Tentacle itself at a death. -/
def ownAbsorption : Option String :=
  (s.sortedIntents.find? fun intent => intent.action.absorbs s.tentacleId judgmentId).map (·.actionId)

end LifecycleState

def retireLegacyDeathAsDormancy : Op Bool := do
  let s ← get
  match s.pendingDeath with
  | none => return false
  | some pending => do
    liftM (failIf (s.hasAbsorbed pending.judgmentId ∨ s.hasUnappliedAbsorptionProjection)
      (conflict ("legacy Death already completed external absorption and cannot " ++
        "be revived locally")))
    commit (LifecycleState.retire pending.judgmentId)
    return true

/-- Let the Tentacle be absorbed by a target, unless an absorption is kept already. -/
def offerAbsorption (nowMs : ℕ) (absorptionTarget : Option String) (judgmentId : String) :
    Op Bool := do
  let s ← get
  match absorptionTarget with
  | none => return false
  | some targetId =>
    if (s.ownAbsorption judgmentId).isSome then return false
    else do
      let _ ← enqueueAbsorption nowMs s.tentacleId targetId judgmentId
      return true

/-- Count a change, if there was one. -/
def bumpIf (changed : Bool) : Op Unit :=
  if changed then bumpRevision else return ()

/-- Let the Tentacle be shut down, after its absorption if one is kept. -/
def orderShutdown (nowMs : ℕ) (judgmentId : String) (changed : Bool) : Op Bool := do
  let s ← get
  let _ ← insertIntent nowMs (.shutdown s.tentacleId judgmentId (s.ownAbsorption judgmentId))
  bumpIf changed
  let s' ← get
  return changed || s'.intents.len ≠ s.intents.len

/-- After the grace of a death : cancel its spends, and offer its absorption and its shutdown. -/
def expire (nowMs : ℕ) (absorptionTarget : Option String) (judgmentId : String) : Op Bool := do
  let s ← get
  let expired := s.unreceipted (·.spendsFor judgmentId)
  modify (LifecycleState.cancel expired)
  let offered ← offerAbsorption nowMs absorptionTarget judgmentId
  orderShutdown nowMs judgmentId (expired.any (· ∉ s.canceledActionIds) || offered)

def reconcileExpiredDeath (nowMs : ℕ) (absorptionTarget : Option String) : Op Bool := do
  let s ← get
  match s.pendingDeath with
  | none => return false
  | some pending =>
    if nowMs < pending.graceEndsAtMs then return false
    else expire nowMs absorptionTarget pending.judgmentId

/-! ## Projections -/

namespace LifecycleState

/-- The successful absorptions of the pending death that are not projected yet. -/
def expectedProjections : List String :=
  (s.receipts.filter fun receipt => receipt.status = .succeeded).filterMap fun receipt =>
    ((s.intents.get receipt.actionId).filter fun intent =>
      s.isPendingAbsorption intent.action && intent.actionId ∉ s.canceledActionIds &&
        !s.absorptionProjections.contains intent.actionId).map (·.actionId)

def track (actionIds : List String) (s : LifecycleState) : LifecycleState :=
  { s with
    pendingAbsorptionProjectionActionIds :=
      s.pendingAbsorptionProjectionActionIds ∪ actionIds.toFinset }

def projectAbsorption (projection : AbsorptionProjection)
    (s : LifecycleState) : LifecycleState :=
  { s with
    pendingAbsorptionProjectionActionIds := s.pendingAbsorptionProjectionActionIds.erase actionId
    absorptionProjections := s.absorptionProjections.insert actionId projection }

def projectSpawn (projection : SpawnProjection) (s : LifecycleState) :
    LifecycleState :=
  { s with spawnProjections := s.spawnProjections.insert actionId projection }

end LifecycleState

def reconcileAbsorptionProjectionTracking : Op Bool := do
  let s ← get
  let expected := s.expectedProjections
  if expected.all (· ∈ s.pendingAbsorptionProjectionActionIds) then return false
  else do
    commit (LifecycleState.track expected)
    return true

def recordAbsorptionProjection (projectedAtMs : ℕ) : Op Bool := do
  liftM (validateSha256 actionId "absorption projection action ID")
  let s ← get
  let intent ← liftM (okOr (s.intents.get actionId) (notFound actionId))
  liftM (failIf (!intent.action.isAbsorb) (conflict
    "only an absorption action can receive an absorption projection marker"))
  let receipt ← liftM (okOr (s.receipt actionId)
    (conflict "absorption projection requires a terminal executor receipt"))
  liftM (failIf (receipt.status ≠ .succeeded ∨
    AbsorptionProjection.latestReceiptMs ⟨projectedAtMs⟩ < receipt.completedAtMs)
    (conflict "absorption projection must follow its successful executor receipt"))
  match s.absorptionProjections.get actionId with
  | some existing => do
    liftM (failIf (existing ≠ ⟨projectedAtMs⟩)
      (conflict "absorption action already has a different lineage projection"))
    return false
  | none => do
    commit (projectAbsorption actionId ⟨projectedAtMs⟩)
    return true

def recordSpawnProjection (completedAtMs : ℕ)
    (metricsPeriodStartedAtUnixSeconds : ℤ) : Op Bool := do
  liftM (validateSha256 actionId "spawn projection action ID")
  let s ← get
  let intent ← liftM (okOr (s.intents.get actionId) (notFound actionId))
  liftM (failIf (!intent.action.isSpawn)
    (EvolutionError.invalid "only a Spawn action can receive a spawn projection marker"))
  let receipt ← liftM (okOr (s.receipt actionId)
    (conflict "spawn projection requires a successful provisioning receipt"))
  liftM (failIf (receipt.status ≠ .succeeded ∨ receipt.completedAtMs ≠ completedAtMs ∨
    metricsPeriodStartedAtUnixSeconds < 0)
    (conflict
      "spawn projection does not match its provisioning receipt or metrics period"))
  match s.spawnProjections.get actionId with
  | some existing => do
    liftM (failIf (existing ≠ ⟨completedAtMs, metricsPeriodStartedAtUnixSeconds⟩)
      (conflict "spawn action already projects into a different metrics period"))
    return false
  | none => do
    commit (projectSpawn actionId ⟨completedAtMs, metricsPeriodStartedAtUnixSeconds⟩)
    return true

/-! ## Receipts -/

/-- An action ends with its death when it is a spend, an absorption, or a shutdown that waits for
one of these absorptions or for nothing. -/
def LifecycleAction.endsWith (absorptions : List String) :
    LifecycleAction → Bool
  | .spendForSurvival spend => spend.judgmentId = judgmentId
  | .absorb _ _ judgment => judgment = judgmentId
  | .shutdown _ judgment afterActionId =>
    judgment = judgmentId && afterActionId.all fun dependency => absorptions.contains dependency
  | _ => false

namespace LifecycleState

def absorptionsOf : List LifecycleIntent :=
  s.sortedIntents.filter fun intent =>
    intent.action.isAbsorb && intent.action.death = some judgmentId

/-- A survival burn ends the pending death, and what was still to be done for it. -/
def rescue (actionId judgmentId : String) (s : LifecycleState) : LifecycleState :=
  let absorptions := (s.absorptionsOf judgmentId).map (·.actionId)
  let canceled := (s.unreceipted (·.endsWith judgmentId absorptions)).filter (· ≠ actionId)
  let completed := ((s.absorptionsOf judgmentId).filter fun intent =>
    (s.receipt intent.actionId).any fun receipt => receipt.status = .succeeded).map (·.actionId)
  { s with
    pendingDeath := none
    canceledActionIds := s.canceledActionIds.erase actionId ∪ canceled.toFinset
    pendingAbsorptionProjectionActionIds :=
      s.pendingAbsorptionProjectionActionIds \ completed.toFinset }

/-- What a successful action does to the state, before its receipt is kept. -/
def carryOut (s : LifecycleState) :
    LifecycleState :=
  match intent.action with
  | .spendForSurvival spend => s.rescue intent.actionId spend.judgmentId
  | .shutdown .. =>
    if receipt.actionId ∈ s.canceledActionIds then s
    else { s with shutdownCompletedAtMs := some receipt.completedAtMs }
  | _ => s

/-- The receipt is that of an absorption still to be projected. -/
def tracks : Bool :=
  receipt.status = .succeeded && s.isPendingAbsorption intent.action &&
    receipt.actionId ∉ s.canceledActionIds

def receive (s : LifecycleState) : LifecycleState :=
  { s with receipts := s.receipts ++ [receipt] }

/-- Keep a receipt, and do what it stands for. -/
def acknowledge (s : LifecycleState) :
    LifecycleState :=
  let done := if receipt.status = .succeeded then s.carryOut intent receipt else s
  let kept := done.receive receipt
  if s.tracks intent receipt then kept.track [intent.actionId] else kept

/-- A survival burn must be new, and for the pending death. -/
def checkSpend (spend : SurvivalSpend) (receipt : LifecycleReceipt) :
    Except EvolutionError Unit := do
  failIf (s.receipts.any fun existing => existing.actionId ≠ receipt.actionId &&
    existing.status = .succeeded && existing.confirmedChainReceipt.any fun confirmed =>
      receipt.confirmedChainReceipt.any fun burn => confirmed.transactionHash = burn.transactionHash)
    (.conflict "confirmed survival transaction was already consumed by another death")
  let pending ← okOr s.pendingDeath (.conflict "no pending death remains to cancel")
  failIf (pending.judgmentId ≠ spend.judgmentId ∨ pending.graceEndsAtMs ≠ spend.graceEndsAtMs)
    (.conflict "survival expenditure did not complete within the matching death grace period")

def checkSuccess :
    Except EvolutionError Unit :=
  match intent.action with
  | .spendForSurvival spend =>
    if receipt.status = .succeeded then s.checkSpend spend receipt else .ok ()
  | _ => .ok ()

end LifecycleState

def acknowledgeAction : Op (LifecycleAction × Bool) := do
  let s ← get
  let intent ← liftM (okOr (s.intents.get receipt.actionId)
    (notFound receipt.actionId))
  liftM (validateLifecycleReceipt intent receipt)
  match s.receipt receipt.actionId with
  | some existing => do
    liftM (failIf (existing ≠ receipt)
      (conflict "lifecycle action already has a different terminal receipt"))
    return (intent.action, false)
  | none => do
    liftM (s.checkSuccess intent receipt)
    commit (acknowledge intent receipt)
    return (intent.action, true)

/-! ## What is due -/

/-- Which actions are handed out first. -/
def LifecycleAction.priority : LifecycleAction → ℕ
  | .absorb .. => 0
  | .shutdown .. => 1
  | .spendForSurvival _ => 2
  | .rewardVeniceKey .. => 3
  | .rewardAcolyteContribution .. => 3
  | .spawn _ => 4

namespace LifecycleState

/-- An action that has neither a receipt nor been canceled, and whose time has come. -/
def isDue (excluded : Finset String) (intent : LifecycleIntent) : Bool :=
  (s.receipt intent.actionId).isNone && intent.actionId ∉ s.canceledActionIds &&
    intent.actionId ∉ excluded &&
    match intent.action with
    | .spawn _ => s.pendingDeath.isNone
    | .rewardVeniceKey .. => s.pendingDeath.isNone
    | .rewardAcolyteContribution .. => s.pendingDeath.isNone
    | .shutdown _ _ (some dependency) => (s.receipt dependency).isSome || dependency ∈ excluded
    | _ => true

def nextDueActionExcluding (excluded : Finset String) :
    Option LifecycleIntent :=
  (s.sortedIntents.filter (s.isDue excluded)).argmin fun intent =>
    toLex (intent.action.priority, intent.createdAtMs)

def nextDueAction : Option LifecycleIntent :=
  s.nextDueActionExcluding ∅

end LifecycleState

end Cthuwu.Evolution
