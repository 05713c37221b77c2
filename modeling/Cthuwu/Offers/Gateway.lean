import Mathlib.Data.List.Duplicate
import Cthuwu.Lib.Maps
import Cthuwu.Offers.Snapshot

/-!
# What the gateway is asked and answers

The gateway inspects an offer, and completes one that has its consent. Both answers say what was
observed of the chain, and both are checked against the action before anything of them is kept.
-/

namespace Cthuwu.Offers

open Council TokenEye

def baseMainnetChainId : ℕ := 8453

def brandingContractAddress : Address := 0xd8c36f13d79a505c7fbdc5f6467ea3cd75e896da

def brandingRuntimeCodeHash : Hash :=
  0x3a22b742a570dc2d030edf2bd82dceda1e068a297e2c36883f97b7b66ed4ef2d

def identityRegistry : Address := 0x8004a169fb4a3325136eb29fa0ceb6d2e539a432

def uwuContract : Address := 0x9dba3ae7002daefd7324e7b9f829ed31cb5f0b07

/-! ## Questions -/

structure InspectOperation where
  acolyte : Address
  controllerAgentId : U256
  referrer : Address
  treasuryBalance : U256
  priceBasisPoints : ℕ
  initialDeclaredPrice : U256
  acolyteName : String

/-- What a completion is asked for, with the signature. -/
structure CompleteOperation where
  acolyte : Address
  minter : Address
  controllerAgentId : U256
  referrer : Address
  treasuryBalance : U256
  priceBasisPoints : ℕ
  initialDeclaredPrice : U256
  nonce : U256
  deadline : U256
  signature : Signature
  acolyteName : String
  offerBlockNumber : U256
  offerBlockHash : Hash

inductive Invocation
  | inspect (actionId : String) (operation : InspectOperation)
  | complete (actionId : String) (operation : CompleteOperation)

/-! ## Answers -/

inductive HelperDisposition
  | ready
  | fundingRequired
  | complete
  | repairRequired
  deriving DecidableEq

inductive Operation
  | approve
  | mint
  | nameTrait
  deriving DecidableEq

def Operation.name : Operation → String
  | approve => "approve"
  | mint => "mint"
  | nameTrait => "name_trait"

/-- What both answers say. -/
structure CommonResult where
  kind : String
  disposition : HelperDisposition
  chainId : ℕ
  contract : Address
  runtimeCodeHash : Hash
  identityRegistry : Address
  uwu : Address
  observedBlockNumber : U256
  observedBlockHash : Hash
  observedBlockTimestamp : U256
  minter : Address
  acolyte : Address
  tokenId : U256
  controllerAgentId : U256
  referrer : Address
  initialDeclaredPrice : U256
  firstWeekUpkeep : U256
  acolyteName : String
  consentNonce : U256
  brandingStatus : HelperBrandingStatus
  owner : Address
  onchainControllerAgentId : U256
  onchainReferrer : Address
  onchainDeclaredPrice : U256
  paidThrough : U256
  nameTrait : Option String
  ethBalanceWei : U256
  ethTargetWei : U256
  ethShortfallWei : U256
  uwuBalance : U256
  uwuTarget : U256
  uwuShortfallWei : U256
  exactOperations : List Operation
  conservativeOperations : List Operation
  pendingOperations : List Operation

structure BrandingInspectionResult extends CommonResult

structure BrandingTransactionHash where
  operation : Operation
  transactionHash : Hash

structure BrandingCompletionResult extends CommonResult where
  currentConsentNonce : U256
  transactionHashes : List BrandingTransactionHash

/-- What the gateway answers : an error with its text, which also stands for an answer of another
shape, or the result of an inspection or of a completion. -/
inductive Reply
  | failed (error : String)
  | inspection (result : BrandingInspectionResult)
  | completion (result : BrandingCompletionResult)

/-! ## Checks -/

/-- At most three operations, each at most once. -/
def validateOperations (label : String) (operations : List Operation) : Except String Unit := do
  failIf (3 < operations.length) ("Branding " ++ label ++ " operation list is unbounded")
  failIf (¬operations.Nodup) ("Branding " ++ label ++ " operation list is invalid")

def validateCommonResult (result : CommonResult) (action : BrandingAction) :
    Except String Unit := do
  failIf (result.chainId ≠ baseMainnetChainId) "Branding helper used another chain"
  failIf (result.contract ≠ brandingContractAddress) "Branding helper used another contract"
  failIf (result.runtimeCodeHash ≠ brandingRuntimeCodeHash)
    "Branding helper observed another runtime"
  failIf (result.identityRegistry ≠ Offers.identityRegistry)
    "Branding helper used another Identity Registry"
  failIf (result.uwu ≠ uwuContract) "Branding helper used another UWU token"
  failIf (result.observedBlockNumber = 0) "Branding observation block is zero"
  let _ ← okOr (parseU64 result.observedBlockTimestamp)
    "Branding observation block timestamp exceeds u64"
  failIf (¬(result.minter = action.minter ∧ result.acolyte = action.acolyte ∧
    result.referrer = action.referrer)) "Branding helper identity binding mismatch"
  failIf (result.tokenId ≠ addressTokenId action.acolyte)
    "Branding helper token ID is not uint160(acolyte) in decimal"
  failIf (¬(result.controllerAgentId = action.controllerAgentId ∧
    result.initialDeclaredPrice = action.initialDeclaredPrice ∧
    result.firstWeekUpkeep = action.firstWeekUpkeep ∧ result.acolyteName = action.acolyteName))
    "Branding helper changed a durable offer field"
  checkSome result.nameTrait validatePublicName
  validateOperations "exact" result.exactOperations
  validateOperations "conservative" result.conservativeOperations
  validateOperations "pending" result.pendingOperations

def validateInspectionResult (result : BrandingInspectionResult) (action : BrandingAction) :
    Except String Unit := do
  failIf (result.kind ≠ "branding_inspection") "wrong Branding inspection kind"
  validateCommonResult result.toCommonResult action
  failIf (result.brandingStatus = .unminted ∧
    ¬(result.owner = 0 ∧ result.onchainControllerAgentId = 0 ∧ result.onchainReferrer = 0 ∧
      result.onchainDeclaredPrice = 0 ∧ result.paidThrough = 0 ∧ result.nameTrait = none))
    "unminted Branding inspection contains minted state"

variable (result : BrandingCompletionResult)

def validateCompleted (action : BrandingAction) :
    Except String Unit := do
  failIf (¬(result.owner = action.minter ∧
    result.onchainControllerAgentId = action.controllerAgentId ∧
    result.onchainReferrer = action.referrer ∧ result.paidThrough ≠ 0))
    "completed Branding tuple does not match durable consent"
  failIf (¬(result.ethShortfallWei = 0 ∧ result.uwuShortfallWei = 0 ∧
    result.pendingOperations = [])) "completed Branding still reports work"

def validateFunding : Except String Unit := do
  failIf (¬(result.ethShortfallWei ≠ 0 ∨ result.uwuShortfallWei ≠ 0))
    "funding-required result returned zero shortfalls"
  failIf (result.pendingOperations = []) "funding result has no work"

def validateCompletionResult (action : BrandingAction) :
    Except String Unit := do
  failIf (result.kind ≠ "branding_completion") "wrong Branding completion kind"
  validateCommonResult result.toCommonResult action
  let inspection ← okOr action.inspection "completion has no persisted offer nonce"
  failIf (result.consentNonce ≠ inspection.consentNonce) "executor returned another nonce"
  failIf (3 < result.transactionHashes.length) "too many Branding transactions"
  failIf (¬(result.transactionHashes.map (·.operation)).Nodup)
    "invalid or duplicate Branding transaction operation"
  match result.disposition with
  | .complete => validateCompleted result action
  | .fundingRequired => validateFunding result
  | _ => return ()

/-! ## Notices about funding -/

def fundingText (result : CommonResult) : String :=
  "ACOLYTE BRANDING REQUIRES RESOURCES\nFUND THIS EXACT BASE ADDRESS: " ++
    addressText result.minter ++ "\nCURRENT BASE ETH BALANCE: " ++ decimal result.ethBalanceWei ++
    " WEI\nTARGET BASE ETH BALANCE: " ++ decimal result.ethTargetWei ++
    " WEI\nBASE ETH SHORTFALL: " ++ decimal result.ethShortfallWei ++
    " WEI\nCURRENT UWU BALANCE: " ++ decimal result.uwuBalance ++
    " BASE UNITS\nTARGET UWU BALANCE: " ++ decimal result.uwuTarget ++
    " BASE UNITS\nUWU SHORTFALL: " ++ decimal result.uwuShortfallWei ++
    " BASE UNITS\nREMAINING PHASES: " ++
    ", ".intercalate (result.pendingOperations.map Operation.name) ++
    "\nCHAIN: BASE MAINNET\nCHAIN ID: 8453\nWARNING: DO NOT SEND FUNDS ON ANY OTHER CHAIN.\n" ++
    "THE DURABLE ACTION WILL RETRY WITHOUT REQUESTING A PRIVATE KEY."

variable [Hashing]

def fundingFingerprint (result : CommonResult) : Hash :=
  Hashing.sha256 ("\x00".intercalate [addressText result.minter, decimal result.ethBalanceWei,
    decimal result.ethTargetWei, decimal result.ethShortfallWei, decimal result.uwuBalance,
    decimal result.uwuTarget, decimal result.uwuShortfallWei])

/-- `decimal_increment`. -/
def decimalIncrement (value : U256) : Except String U256 :=
  okOr (addOne value) "incremented consent nonce exceeds uint256"

end Cthuwu.Offers
