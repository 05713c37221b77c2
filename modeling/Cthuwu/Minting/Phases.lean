import Mathlib.Algebra.GroupWithZero.Nat
import Cthuwu.Lib.Fallible

/-!
# The phases of a Branding

A Branding is minted for an acolyte by up to four transactions : an allowance, the mint, the name and
the avatar. `brandingPhases` plans what is left to send from a fresh reading of the chain, and
`brandingFunding` prices it. What the RPC answers at a block is a `Reading`, from which
`readBrandingSnapshot` takes what it needs after its checks. Decimal texts stand as their numbers, and
addresses and hashes as words.
-/

namespace Cthuwu.Minting

abbrev Address := BitVec 160

abbrev Hash := BitVec 256

inductive SignerError
  | permanent (code message : String)
  | recoverable (code message : String)

def brandingContract : Address := 0xD8c36F13D79a505C7FBDc5F6467eA3cd75E896Da

def canonicalUwu : Address := 0x9dBa3AE7002DaEfd7324e7B9f829ed31Cb5f0B07

def acolyteNameTrait : String := "Acolyte Name"

/-! ## Operations -/

structure BrandingInspectOperation where
  acolyte : Address
  controllerAgentId : ℕ
  referrer : Address
  treasuryBalance : ℕ
  initialDeclaredPrice : ℕ
  acolyteName : String

structure CompleteBrandingOperation extends BrandingInspectOperation where
  minter : Address
  nonce : ℕ
  deadline : ℕ
  offerBlockNumber : ℕ
  offerBlockHash : Hash
  signature : List UInt8

inductive BrandingOperation
  | inspect (operation : BrandingInspectOperation)
  | complete (operation : CompleteBrandingOperation)

def BrandingOperation.terms : BrandingOperation → BrandingInspectOperation
  | .inspect operation => operation
  | .complete operation => operation.toBrandingInspectOperation

/-! ## Readings -/

inductive BrandingStatusName
  | unminted
  | active
  | expired
  | ineligible
  | registryUnavailable
  deriving DecidableEq

/-- `BRANDING_STATUS_NAMES`. -/
def brandingStatusNames : List BrandingStatusName :=
  [.unminted, .active, .expired, .ineligible, .registryUnavailable]

structure BrandingView where
  tokenId : ℕ
  acolyte : Address
  owner : Address
  controllerAgentId : ℕ
  referrer : Address
  declaredPrice : ℕ
  paidThrough : ℕ
  status : ℕ

structure CanonicalBrandingObservation where
  blockNumber : ℕ
  blockHash : Hash
  blockTimestamp : ℕ

/-- What the RPC answers at one block. The checks of the deployment and of the controller come to an
outcome. -/
structure Reading where
  observation : Except SignerError CanonicalBrandingObservation
  branding : BrandingView
  currentConsentNonce : ℕ
  firstWeekUpkeep : ℕ
  ethBalance : ℕ
  uwuBalance : ℕ
  allowance : ℕ
  controller : Except SignerError Unit
  customTraits : List (String × String)
  canonical : Bool

structure BrandingSnapshot where
  observation : CanonicalBrandingObservation
  minter : Address
  tokenId : ℕ
  branding : BrandingView
  brandingStatus : BrandingStatusName
  currentConsentNonce : ℕ
  firstWeekUpkeep : ℕ
  ethBalance : ℕ
  uwuBalance : ℕ
  allowance : ℕ
  nameTrait : Option String

/-- The loop of `readAcolyteNameTrait`. -/
def findNameTrait : List (String × String) → Except SignerError (Option String)
  | [] => .ok none
  | (traitType, value) :: traits => do
    failIf (64 < traitType.utf8ByteSize ∨ 256 < value.utf8ByteSize) (.permanent "branding_metadata"
      "Branding custom trait exceeds the canonical metadata bounds")
    if traitType = acolyteNameTrait then .ok (some value) else findNameTrait traits

def readAcolyteNameTrait (traits : List (String × String)) : Except SignerError (Option String) := do
  failIf (32 < traits.length) (.permanent "branding_metadata"
    "Branding contains more custom traits than the canonical contract permits")
  findNameTrait traits

/-- The upkeep of a first week, rounded upward. -/
def firstWeekUpkeepOf (initialDeclaredPrice : ℕ) : ℕ :=
  (initialDeclaredPrice * 10 + 9999) / 10000

variable (answers : FeeAnswers) (operation : BrandingOperation) (minter : Address) (r : Reading)
  (snapshot : BrandingSnapshot) (phases : List PreparedBrandingPhase)

/-- The balance of the minter is the one that was quoted. -/
def checkTreasury : BrandingOperation → Except SignerError Unit
  | .inspect _ => .ok ()
  | .complete operation =>
    failIf (r.uwuBalance ≠ operation.treasuryBalance) (.recoverable "branding_treasury_changed"
      "the production minter UWU balance changed after the exact Branding quote was created")

/-- What is checked of a Branding that was not minted. -/
def checkUnminted : Except SignerError Unit := do
  checkTreasury r operation
  failIf (r.firstWeekUpkeep ≠ firstWeekUpkeepOf operation.terms.initialDeclaredPrice)
    (.permanent "branding_upkeep"
      "canonical Branding returned an upkeep amount inconsistent with its exact upward-rounding rule")
  failIf (r.branding.owner ≠ 0 ∨ r.branding.controllerAgentId ≠ 0 ∨ r.branding.referrer ≠ 0 ∨
      r.branding.declaredPrice ≠ 0 ∨ r.branding.paidThrough ≠ 0)
    (.permanent "branding_state" "unminted Branding returned nonzero lifecycle state")
  r.controller

/-- The mint has consumed the nonce of the consent. -/
def checkConsumed : BrandingOperation → Except SignerError Unit
  | .inspect _ => .ok ()
  | .complete operation =>
    failIf (r.currentConsentNonce ≠ operation.nonce + 1) (.permanent "branding_nonce"
      "existing Branding did not consume this exact mint consent nonce")

def checkMinted :
    Except SignerError Unit := do
  failIf (r.branding.owner ≠ minter ∨
      r.branding.controllerAgentId ≠ operation.terms.controllerAgentId ∨
      r.branding.referrer ≠ operation.terms.referrer)
    (.permanent "branding_conflict" <| "existing Branding owner, controller, or immutable referrer " ++
      "conflicts with this exact workflow")
  checkConsumed r operation

/-- The checks of a status, and the name trait of a Branding that was minted. -/
def readStatus :
    BrandingStatusName → Except SignerError (Option String)
  | .unminted => do
    checkUnminted operation r
    return none
  | _ => do
    checkMinted operation minter r
    readAcolyteNameTrait r.customTraits

def readBrandingSnapshot :
    Except SignerError BrandingSnapshot := do
  let observation ← r.observation
  let tokenId := operation.terms.acolyte.toNat
  let status ← okOr brandingStatusNames[r.branding.status]? (.permanent "branding_state"
    "canonical Branding returned an inconsistent subject or status")
  failIf (r.branding.tokenId ≠ tokenId ∨ r.branding.acolyte ≠ operation.terms.acolyte)
    (.permanent "branding_state" "canonical Branding returned an inconsistent subject or status")
  let nameTrait ← readStatus operation minter r status
  failIf (r.canonical = false) (.recoverable "branding_reorg"
    "Branding state changed canonical blocks while it was read")
  return {
    observation := observation
    minter := minter
    tokenId := tokenId
    branding := r.branding
    brandingStatus := status
    currentConsentNonce := r.currentConsentNonce
    firstWeekUpkeep := r.firstWeekUpkeep
    ethBalance := r.ethBalance
    uwuBalance := r.uwuBalance
    allowance := r.allowance
    nameTrait := nameTrait }

/-! ## Phases -/

inductive BrandingTransactionPhase
  | approve
  | mint
  | nameTrait
  | brandAvatar
  | referralBounty
  deriving DecidableEq

/-- The text that stands for a phase. -/
def BrandingTransactionPhase.text : BrandingTransactionPhase → String
  | approve => "approve"
  | mint => "mint"
  | nameTrait => "name_trait"
  | brandAvatar => "brand_avatar"
  | referralBounty => "referral_bounty"

structure MintConsent where
  acolyte : Address
  minter : Address
  controllerAgentId : ℕ
  referrer : Address
  initialDeclaredPrice : ℕ
  nonce : ℕ
  deadline : ℕ

/-- The calls that are encoded, with their arguments. -/
inductive Calldata
  | approve (spender : Address) (amount : ℕ)
  | mintBranding (consent : MintConsent) (signature : List UInt8)
  | setCustomTrait (tokenId : ℕ) (traitType value : String)
  | setAvatarURI (tokenId : ℕ) (uri : String)

structure PreparedBrandingPhase where
  operation : BrandingTransactionPhase
  destination : Address
  data : Calldata

def mintConsentFor (operation : CompleteBrandingOperation) : MintConsent where
  acolyte := operation.acolyte
  minter := operation.minter
  controllerAgentId := operation.controllerAgentId
  referrer := operation.referrer
  initialDeclaredPrice := operation.initialDeclaredPrice
  nonce := operation.nonce
  deadline := operation.deadline

/-- The consent a mint is planned with, and its signature. -/
def plannedConsent :
    MintConsent × List UInt8 :=
  match operation with
  | .inspect inspect =>
    (⟨inspect.acolyte, snapshot.minter, inspect.controllerAgentId, inspect.referrer,
      inspect.initialDeclaredPrice, snapshot.currentConsentNonce,
      snapshot.observation.blockTimestamp + 600⟩, List.replicate 65 0)
  | .complete complete => (mintConsentFor complete, complete.signature)

def approvePhase : PreparedBrandingPhase :=
  ⟨.approve, canonicalUwu, .approve brandingContract snapshot.firstWeekUpkeep⟩

def mintPhase :
    PreparedBrandingPhase :=
  ⟨.mint, brandingContract, .mintBranding (plannedConsent operation snapshot).1
    (plannedConsent operation snapshot).2⟩

def namePhase :
    PreparedBrandingPhase :=
  ⟨.nameTrait, brandingContract,
    .setCustomTrait snapshot.tokenId acolyteNameTrait operation.terms.acolyteName⟩

/-- The sigil is a function of the acolyte, the controller and the name. -/
def avatarPhase (generateBrandSigilDataUri : Address → ℕ → String → String)
    (operation : BrandingOperation) (snapshot : BrandingSnapshot) : PreparedBrandingPhase :=
  ⟨.brandAvatar, brandingContract, .setAvatarURI snapshot.tokenId
    (generateBrandSigilDataUri operation.terms.acolyte operation.terms.controllerAgentId
      operation.terms.acolyteName)⟩

/-- What is left to send. -/
def brandingPhases (generateBrandSigilDataUri : Address → ℕ → String → String)
    (operation : BrandingOperation) (snapshot : BrandingSnapshot) : List PreparedBrandingPhase :=
  if snapshot.brandingStatus ≠ .unminted then
    if snapshot.nameTrait = some operation.terms.acolyteName then [] else [namePhase operation snapshot]
  else
    (if snapshot.allowance < snapshot.firstWeekUpkeep then [approvePhase snapshot] else []) ++
      [mintPhase operation snapshot, namePhase operation snapshot,
        avatarPhase generateBrandSigilDataUri operation snapshot]

/-- The transactions that may be signed for a phase. -/
def isAllowedBrandingTransaction (phase : PreparedBrandingPhase) : Bool :=
  match phase.operation, phase.data with
  | .approve, .approve _ _ => phase.destination = canonicalUwu
  | .mint, .mintBranding _ _ => phase.destination = brandingContract
  | .nameTrait, .setCustomTrait _ _ _ => phase.destination = brandingContract
  | .brandAvatar, .setAvatarURI _ _ | .referralBounty, .setAvatarURI _ _ =>
    phase.destination = brandingContract
  | _, _ => false

/-! ## Funding -/

/-- What the environment and the RPC say of the price of transactions. -/
structure FeeAnswers where
  safetyBps : Except SignerError ℕ
  reserve : Except SignerError ℕ
  gasCeiling : Except SignerError ℕ
  feeParameters : Except SignerError (ℕ × ℕ)
  gas : PreparedBrandingPhase → Option ℕ
  l1Fee : PreparedBrandingPhase → Option ℕ

structure BrandingFunding where
  ethTarget : ℕ
  ethShortfall : ℕ
  uwuTarget : ℕ
  uwuShortfall : ℕ
  estimatedCost : ℕ
  executionGas : ℕ
  l1DataFee : ℕ
  l1DataFeeExact : Bool
  maxFeePerGas : ℕ
  maxPriorityFeePerGas : ℕ
  safetyBps : ℕ
  reserve : ℕ
  exactOperations : List BrandingTransactionPhase
  conservativeOperations : List BrandingTransactionPhase

structure GasEstimate where
  executionGas : ℕ
  exactOperations : List BrandingTransactionPhase
  conservativeOperations : List BrandingTransactionPhase

/-- One turn of the loop over the phases. A phase that cannot be estimated counts with the ceiling. -/
def estimatePhase (gasCeiling : ℕ) (sum : GasEstimate)
    (phase : PreparedBrandingPhase) : Except SignerError GasEstimate :=
  match answers.gas phase with
  | none => .ok { sum with
      executionGas := sum.executionGas + gasCeiling
      conservativeOperations := sum.conservativeOperations ++ [phase.operation] }
  | some gas => do
    failIf (gasCeiling < gas) (.recoverable "gas_ceiling"
      "estimated Branding gas exceeds the configured per-transaction ceiling")
    return { sum with
      executionGas := sum.executionGas + gas
      exactOperations := sum.exactOperations ++ [phase.operation] }

/-- `sumL1FeesWithConservativeFallback`. -/
def sumL1Fees (conservative : ℕ) :
    ℕ × Bool :=
  match phases.mapM answers.l1Fee with
  | some fees => (fees.sum, true)
  | none => (conservative * phases.length, false)

def brandingFunding : Except SignerError BrandingFunding := do
  let safetyBps ← answers.safetyBps
  failIf (safetyBps < 10000 ∨ 50000 < safetyBps) (.permanent "configuration"
    "gas safety factor must be between 10000 and 50000 basis points")
  let reserve ← answers.reserve
  if phases = [] then
    return ⟨0, 0, 0, 0, 0, 0, 0, true, 0, 0, safetyBps, reserve, [], []⟩
  let (maxFeePerGas, maxPriorityFeePerGas) ← answers.feeParameters
  let gasCeiling ← answers.gasCeiling
  let estimate ← phases.foldlM (estimatePhase answers gasCeiling) ⟨0, [], []⟩
  let (l1Fee, exact) := sumL1Fees answers phases (gasCeiling * maxFeePerGas)
  let estimatedCost := estimate.executionGas * maxFeePerGas + l1Fee
  let ethTarget := (estimatedCost * safetyBps + 9999) / 10000 + reserve
  let uwuTarget := if phases.any (·.operation = .mint) then snapshot.firstWeekUpkeep else 0
  return {
    ethTarget := ethTarget
    ethShortfall := ethTarget - snapshot.ethBalance
    uwuTarget := uwuTarget
    uwuShortfall := uwuTarget - snapshot.uwuBalance
    estimatedCost := estimatedCost
    executionGas := estimate.executionGas
    l1DataFee := l1Fee
    l1DataFeeExact := exact
    maxFeePerGas := maxFeePerGas
    maxPriorityFeePerGas := maxPriorityFeePerGas
    safetyBps := safetyBps
    reserve := reserve
    exactOperations := estimate.exactOperations
    conservativeOperations := estimate.conservativeOperations }

/-! ## Results -/

inductive ResultKind
  | brandingInspection
  | brandingCompletion

inductive Disposition
  | complete
  | fundingRequired
  | ready
  | repairRequired

structure BrandingResult where
  kind : ResultKind
  disposition : Disposition
  observation : CanonicalBrandingObservation
  minter : Address
  acolyte : Address
  tokenId : ℕ
  controllerAgentId : ℕ
  referrer : Address
  initialDeclaredPrice : ℕ
  firstWeekUpkeep : ℕ
  acolyteName : String
  consentNonce : ℕ
  currentConsentNonce : Option ℕ
  brandingStatus : BrandingStatusName
  owner : Address
  onchainControllerAgentId : ℕ
  onchainReferrer : Address
  onchainDeclaredPrice : ℕ
  paidThrough : ℕ
  nameTrait : Option String
  ethBalance : ℕ
  uwuBalance : ℕ
  allowance : ℕ
  funding : BrandingFunding
  pendingOperations : List BrandingTransactionPhase
  transactionHashes : Option (List (BrandingTransactionPhase × Hash))

def BrandingFunding.isFunded (funding : BrandingFunding) : Bool :=
  funding.ethShortfall = 0 && funding.uwuShortfall = 0

def brandingDisposition
    (funding : BrandingFunding) : Disposition :=
  if phases.length = 0 then .complete
  else if !funding.isFunded then .fundingRequired
  else if snapshot.brandingStatus = .unminted then .ready
  else .repairRequired

def brandingResult (kind : ResultKind) (operation : BrandingOperation) (snapshot : BrandingSnapshot)
    (phases : List PreparedBrandingPhase) (funding : BrandingFunding)
    (transactionHashes : List (BrandingTransactionPhase × Hash)) : BrandingResult where
  kind := kind
  disposition := brandingDisposition snapshot phases funding
  observation := snapshot.observation
  minter := snapshot.minter
  acolyte := operation.terms.acolyte
  tokenId := snapshot.tokenId
  controllerAgentId := operation.terms.controllerAgentId
  referrer := operation.terms.referrer
  initialDeclaredPrice := operation.terms.initialDeclaredPrice
  firstWeekUpkeep := snapshot.firstWeekUpkeep
  acolyteName := operation.terms.acolyteName
  consentNonce := match operation with
    | .inspect _ => snapshot.currentConsentNonce
    | .complete complete => complete.nonce
  currentConsentNonce := match operation with
    | .inspect _ => none
    | .complete _ => some snapshot.currentConsentNonce
  brandingStatus := snapshot.brandingStatus
  owner := snapshot.branding.owner
  onchainControllerAgentId := snapshot.branding.controllerAgentId
  onchainReferrer := snapshot.branding.referrer
  onchainDeclaredPrice := snapshot.branding.declaredPrice
  paidThrough := snapshot.branding.paidThrough
  nameTrait := snapshot.nameTrait
  ethBalance := snapshot.ethBalance
  uwuBalance := snapshot.uwuBalance
  allowance := snapshot.allowance
  funding := funding
  pendingOperations := phases.map (·.operation)
  transactionHashes := match kind with
    | .brandingInspection => none
    | .brandingCompletion => some transactionHashes

end Cthuwu.Minting
