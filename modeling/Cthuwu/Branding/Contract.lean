import Cthuwu.Branding.Evm

/-!
# The Branding contract

`CthuwuAcolyteBranding` : storage, the outside world as one call sees it, and the
entrypoints. An entrypoint is a transaction on the storage and the payment token's
state. It reads the identity registry through `env.registry`, which may answer the
`n`-th `staticcall` of a call however it likes, and it leaves the contract through
`env.onERC721Received` and `env.transferFrom` only.

While an entrypoint guarded by `nonReentrant` runs, `entered` is set and every guarded
entrypoint reverts (`nonReentrant_entered`), so what the outside world can do meanwhile
is change the token's state. A callback may also edit metadata; no function below reads
what such an edit writes, and its caller owns the token then as it does afterwards.
-/

namespace Cthuwu.Branding

variable {T : Type}

/-! ## Constants -/

def baseChainId : Uint256 := 8453

def bpsDenominator : Uint256 := 10000

def referralBps : Uint256 := 1000

def upkeepBps : Uint256 := 10

/-- `7 days`. -/
def week : Uint256 := 604800

def maxTraits : ℕ := 32

def maxTraitTypeBytes : ℕ := 64

def maxTraitValueBytes : ℕ := 256

def maxAvatarUriBytes : ℕ := 2048

def domainName : Bytes := ascii "Cthuwu Acolyte Branding"

def domainVersion : Bytes := ascii "1"

def allegianceKey : Bytes := ascii "cthuwu.allegiance"

def protocolKey : Bytes := ascii "cthuwu.protocol"

section Hashes

variable [Keccak]

def registryVersionHash : Bytes32 := keccak256 (ascii "2.0.0")

def allegianceHash : Bytes32 := keccak256 (ascii "uwu-tentacle-v1")

def protocolHash : Bytes32 := keccak256 (ascii "1")

def consentTypehash : Bytes32 :=
  keccak256 (ascii "MintConsent(address acolyte,address minter,uint256 controllerAgentId,address referrer,uint256 initialDeclaredPrice,uint256 nonce,uint256 deadline)")

def eip712DomainTypehash : Bytes32 :=
  keccak256 (ascii
    "EIP712Domain(string name,string version,uint256 chainId,address verifyingContract)")

end Hashes

/-! ## Data -/

inductive BrandingStatus
  | unminted
  | active
  | expired
  | ineligible
  | registryUnavailable
  deriving DecidableEq

/-- The Solidity enum's underlying value, as the errors carry it. -/
def BrandingStatus.code : BrandingStatus → ℕ
  | unminted => 0
  | active => 1
  | expired => 2
  | ineligible => 3
  | registryUnavailable => 4

inductive RegistryEligibility
  | eligible
  | ineligible
  | unavailable
  deriving DecidableEq

structure MintConsent where
  acolyte : Address
  minter : Address
  controllerAgentId : Uint256
  referrer : Address
  initialDeclaredPrice : Uint256
  nonce : Uint256
  deadline : Uint256

structure BrandingData where
  acolyte : Address
  referrer : Address
  controllerAgentId : Uint256
  declaredPrice : Uint256
  paidThrough : Uint256
  pendingDeclaredPrice : Uint256
  pendingPriceActivation : Uint256

/-- A storage slot nobody wrote. -/
def BrandingData.zero : BrandingData := ⟨0, 0, 0, 0, 0, 0, 0⟩

structure CustomTrait where
  traitType : Bytes
  value : Bytes

/-- ERC-2981 royalty of one token. -/
structure RoyaltyInfo where
  receiver : Address
  royaltyFraction : Uint256

/-- Contract storage. A token whose owner is the zero address does not exist. -/
structure Storage where
  nonces : Address → Uint256
  owners : Uint256 → Address
  brandings : Uint256 → BrandingData
  royalties : Uint256 → RoyaltyInfo
  avatarUris : Uint256 → Bytes
  customTraits : Uint256 → List CustomTrait
  customTraitIndexes : Uint256 → Bytes32 → ℕ
  entered : Bool

def Storage.init : Storage where
  nonces _ := 0
  owners _ := 0
  brandings _ := .zero
  royalties _ := ⟨0, 0⟩
  avatarUris _ := []
  customTraits _ := []
  customTraitIndexes _ _ := 0
  entered := false

inductive Event
  | brandingMinted (tokenId : Uint256) (acolyte owner : Address) (controllerAgentId : Uint256)
      (referrer : Address) (declaredPrice paidThrough firstUpkeep : Uint256)
  | upkeepPaid (tokenId : Uint256) (controller acolyte : Address)
      (upkeep referral acolyteProceeds paidThrough : Uint256)
  | declaredPriceUpdated (tokenId previousPrice newPrice : Uint256)
  | declaredPriceIncreaseScheduled (tokenId currentPrice pendingPrice activation : Uint256)
  | declaredPriceActivated (tokenId previousPrice activatedPrice : Uint256)
  | brandingPurchased (tokenId : Uint256) (seller buyer : Address)
      (sellerAgentId buyerAgentId grossPrice referral sellerProceeds : Uint256)
  | brandingClaimed (tokenId : Uint256) (previousOwner claimant : Address)
      (previousAgentId claimantAgentId firstUpkeep newDeclaredPrice paidThrough : Uint256)
  | avatarURIUpdated (tokenId : Uint256) (avatarURI : Bytes)
  | customTraitUpdated (tokenId : Uint256) (traitType value : Bytes)
  | customTraitRemoved (tokenId : Uint256) (traitType : Bytes)

/-! ## The outside world -/

/-- The registry functions the contract calls. -/
inductive RegistryCall
  | getVersion
  | getAgentWallet (agentId : Uint256)
  | isAuthorizedOrOwner (wallet : Address) (agentId : Uint256)
  | getMetadata (agentId : Uint256) (key : Bytes)

/-- What one call finds outside the contract. `T` is the payment token's state. -/
structure Env (T : Type) where
  chainId : Uint256
  timestamp : Uint256
  sender : Address
  self : Address
  /-- The answer to the `n`-th `staticcall` of the call. -/
  registry : ℕ → RegistryCall → CallResult
  /-- `SignatureChecker.isValidSignatureNow`. -/
  isValidSignatureNow : Address → Bytes32 → Bytes → Bool
  /-- The receiver hook of `_safeMint` and `_safeTransfer` : `none` when it reverts or
  answers anything but the magic value. -/
  onERC721Received : T → Option T
  /-- `SafeERC20.safeTransferFrom` on UWU with this contract as the spender : `none` when
  the transfer fails. -/
  transferFrom : T → Address → Address → Uint256 → Option T

/-- What a running transaction may write. -/
structure Tx (T : Type) where
  store : Storage
  token : T
  log : List Event

/-- An entrypoint or one of its parts. -/
abbrev Entry (T : Type) (α : Type) := Revertible Revert (Tx T) α

namespace Tx

def setEntered (tx : Tx T) (entered : Bool) : Tx T :=
  { tx with store := { tx.store with entered } }

def setBranding (tx : Tx T) (tokenId : Uint256) (branding : BrandingData) : Tx T :=
  { tx with store :=
    { tx.store with brandings := Function.update tx.store.brandings tokenId branding } }

def setOwner (tx : Tx T) (tokenId : Uint256) (owner : Address) : Tx T :=
  { tx with store := { tx.store with owners := Function.update tx.store.owners tokenId owner } }

def setNonce (tx : Tx T) (acolyte : Address) (nonce : Uint256) : Tx T :=
  { tx with store := { tx.store with nonces := Function.update tx.store.nonces acolyte nonce } }

def setRoyalty (tx : Tx T) (tokenId : Uint256) (royalty : RoyaltyInfo) : Tx T :=
  { tx with store :=
    { tx.store with royalties := Function.update tx.store.royalties tokenId royalty } }

def setAvatarUri (tx : Tx T) (tokenId : Uint256) (uri : Bytes) : Tx T :=
  { tx with store :=
    { tx.store with avatarUris := Function.update tx.store.avatarUris tokenId uri } }

def setTraits (tx : Tx T) (tokenId : Uint256) (traits : List CustomTrait) : Tx T :=
  { tx with store :=
    { tx.store with customTraits := Function.update tx.store.customTraits tokenId traits } }

def setTraitIndex (tx : Tx T) (tokenId : Uint256) (traitHash : Bytes32) (index : ℕ) : Tx T :=
  { tx with store := { tx.store with
    customTraitIndexes := Function.update tx.store.customTraitIndexes tokenId
      (Function.update (tx.store.customTraitIndexes tokenId) traitHash index) } }

def emit (tx : Tx T) (event : Event) : Tx T :=
  { tx with log := tx.log ++ [event] }

end Tx

/-- Run `body` with the reentrancy lock held. -/
def nonReentrant {α : Type} (body : Entry T α) : Entry T α := do
  let tx ← get
  revertIf (tx.store.entered = true) .reentrancyGuardReentrantCall
  modify (·.setEntered true)
  let result ← body
  modify (·.setEntered false)
  return result

/-! ## Reads -/

/-- `uint256(uint160(acolyte))`. -/
def tokenIdBits (acolyte : Address) : Uint256 :=
  acolyte.setWidth 256

/-- `address(uint160(word))`. -/
def addressBits (word : Uint256) : Address :=
  word.setWidth 160

def tokenIdOf (env : Env T) (acolyte : Address) : Except Revert Uint256 := do
  revertIf (env.chainId ≠ baseChainId) (.wrongChain env.chainId)
  revertIf (acolyte = 0) .zeroAcolyte
  return tokenIdBits acolyte

/-- `_requireOwned`. -/
def requireOwned (tokenId : Uint256) : Entry T Address := do
  let tx ← get
  revertIf (tx.store.owners tokenId = 0) (.erc721NonexistentToken tokenId)
  return tx.store.owners tokenId

def weeklyUpkeepForPrice (price : Uint256) : Except Revert Uint256 :=
  mulDivCeil price upkeepBps bpsDenominator

def upkeepReferralForAmount (upkeep : Uint256) : Except Revert Uint256 :=
  mulDiv upkeep referralBps bpsDenominator

/-- `_oneWeekFrom`. -/
def oneWeekFrom (timestamp : Uint256) : Except Revert Uint256 := do
  revertIf (BitVec.allOnes 256 - week < timestamp) .timestampOverflow
  return timestamp + week

/-- `_effectiveDeclaredPrice`, at the instant `timestamp`. -/
def effectiveDeclaredPrice (timestamp : Uint256) (branding : BrandingData) : Uint256 :=
  if branding.pendingPriceActivation ≠ 0 ∧ branding.pendingPriceActivation ≤ timestamp then
    branding.pendingDeclaredPrice
  else branding.declaredPrice

section Registry

variable [Keccak]

/-- `_registryEligibility`, its five reads being the calls `n` to `n + 4`. A read that
reverted or came back malformed makes the answer `unavailable`, whatever the others say. -/
def registryEligibility (env : Env T) (n : ℕ) (agentId : Uint256) (wallet : Address) :
    RegistryEligibility :=
  let version := readDynamicResult (env.registry n .getVersion)
  if version.1 = false ∨ version.2 ≠ registryVersionHash then .unavailable
  else
    let walletRead := readWord (env.registry (n + 1) (.getAgentWallet agentId))
    let authorization := readWord (env.registry (n + 2) (.isAuthorizedOrOwner wallet agentId))
    let allegiance :=
      readDynamicResult (env.registry (n + 3) (.getMetadata agentId allegianceKey))
    let protocol := readDynamicResult (env.registry (n + 4) (.getMetadata agentId protocolKey))
    if walletRead.1 = false ∨ (BitVec.allOnes 160).setWidth 256 < walletRead.2 ∨
        authorization.1 = false ∨ 1 < authorization.2 ∨
        allegiance.1 = false ∨ protocol.1 = false then .unavailable
    else if addressBits walletRead.2 ≠ wallet ∨ authorization.2 = 0 ∨
        allegiance.2 ≠ allegianceHash ∨ protocol.2 ≠ protocolHash then .ineligible
    else .eligible

/-- `_statusOf`. -/
def statusOfBranding (env : Env T) (n : ℕ) (owner : Address) (branding : BrandingData) :
    BrandingStatus :=
  let eligibility := registryEligibility env n branding.controllerAgentId owner
  if eligibility = .unavailable then .registryUnavailable
  else if branding.paidThrough ≤ env.timestamp then .expired
  else if eligibility = .ineligible then .ineligible
  else .active

/-- `statusOf`. -/
def statusOf (env : Env T) (store : Storage) (tokenId : Uint256) : BrandingStatus :=
  if store.owners tokenId = 0 then .unminted
  else statusOfBranding env 0 (store.owners tokenId) (store.brandings tokenId)

/-- `_requireEligible`. -/
def requireEligible (env : Env T) (n : ℕ) (agentId : Uint256) (wallet : Address) :
    Except Revert Unit := do
  let eligibility := registryEligibility env n agentId wallet
  revertIf (eligibility = .unavailable) .registryUnavailable
  revertIf (eligibility = .ineligible) (.ineligibleController agentId wallet)

/-- `abi.encode` of static words. -/
def abiEncode (words : List Uint256) : Bytes :=
  words.flatMap fun (w : Uint256) =>
    (List.range 32).map fun i => UInt8.ofNat (w.toNat / 256 ^ (31 - i) % 256)

/-- `_hashTypedDataV4`. -/
def hashTypedDataV4 (env : Env T) (structHash : Bytes32) : Bytes32 :=
  let domainSeparator := keccak256 (abiEncode [eip712DomainTypehash, keccak256 domainName,
    keccak256 domainVersion, env.chainId, env.self.setWidth 256])
  keccak256 ([0x19, 0x01] ++ abiEncode [domainSeparator, structHash])

/-- `_consentDigest`. -/
def consentDigest (env : Env T) (consent : MintConsent) : Bytes32 :=
  hashTypedDataV4 env (keccak256 (abiEncode [consentTypehash, consent.acolyte.setWidth 256,
    consent.minter.setWidth 256, consent.controllerAgentId, consent.referrer.setWidth 256,
    consent.initialDeclaredPrice, consent.nonce, consent.deadline]))

end Registry

/-! ## Writes -/

/-- `IERC20(UWU).safeTransferFrom`. -/
def payToken (env : Env T) (payer recipient : Address) (amount : Uint256) : Entry T Unit := do
  let tx ← get
  let token ← orRevert (env.transferFrom tx.token payer recipient amount) .safeERC20FailedOperation
  modify ({ · with token })

/-- The receiver hook. -/
def checkOnERC721Received (env : Env T) (receiver : Address) : Entry T Unit := do
  let tx ← get
  let token ← orRevert (env.onERC721Received tx.token) (.erc721InvalidReceiver receiver)
  modify ({ · with token })

/-- `_safeMint`. -/
def safeMint (env : Env T) (receiver : Address) (tokenId : Uint256) : Entry T Unit := do
  revertIf (receiver = 0) (.erc721InvalidReceiver 0)
  let tx ← get
  revertIf (tx.store.owners tokenId ≠ 0) (.erc721InvalidSender 0)
  modify (·.setOwner tokenId receiver)
  checkOnERC721Received env receiver

/-- `_safeTransfer`. -/
def safeTransfer (env : Env T) (sender receiver : Address) (tokenId : Uint256) : Entry T Unit := do
  revertIf (receiver = 0) (.erc721InvalidReceiver 0)
  let tx ← get
  let previousOwner := tx.store.owners tokenId
  revertIf (previousOwner = 0) (.erc721NonexistentToken tokenId)
  revertIf (previousOwner ≠ sender) (.erc721IncorrectOwner sender tokenId previousOwner)
  modify (·.setOwner tokenId receiver)
  checkOnERC721Received env receiver

/-- `_setTokenRoyalty`. -/
def setTokenRoyalty (tokenId : Uint256) (receiver : Address) (feeNumerator : Uint256) :
    Entry T Unit := do
  revertIf (bpsDenominator < feeNumerator)
    (.erc2981InvalidDefaultRoyalty feeNumerator.toNat bpsDenominator.toNat)
  revertIf (receiver = 0) (.erc2981InvalidTokenRoyaltyReceiver tokenId 0)
  modify (·.setRoyalty tokenId ⟨receiver, feeNumerator⟩)

/-- `_syncDeclaredPrice` : materialise a queued price whose activation has come. -/
def syncDeclaredPrice (env : Env T) (tokenId : Uint256) : Entry T Unit := do
  let tx ← get
  let branding := tx.store.brandings tokenId
  if branding.pendingPriceActivation = 0 ∨ env.timestamp < branding.pendingPriceActivation then
    return ()
  else
    modify fun tx =>
      (tx.setBranding tokenId { branding with
        declaredPrice := branding.pendingDeclaredPrice
        pendingDeclaredPrice := 0
        pendingPriceActivation := 0 }).emit
          (.declaredPriceActivated tokenId branding.declaredPrice branding.pendingDeclaredPrice)

/-- `_payUpkeep`. -/
def payUpkeep (env : Env T) (tokenId : Uint256) (payer acolyte referrer : Address)
    (upkeep paidThrough : Uint256) : Entry T Unit := do
  let referral ← upkeepReferralForAmount upkeep
  let acolyteProceeds ← checkedSub upkeep referral
  if referral ≠ 0 then
    payToken env payer referrer referral
  payToken env payer acolyte acolyteProceeds
  modify (·.emit (.upkeepPaid tokenId payer acolyte upkeep referral acolyteProceeds paidThrough))

/-- `_settlePurchase`. -/
def settlePurchase (env : Env T) (tokenId : Uint256) (seller : Address)
    (buyerAgentId buyerDeclaredPrice : Uint256) : Entry T Unit := do
  let tx ← get
  let branding := tx.store.brandings tokenId
  let grossPrice := branding.declaredPrice
  let referral ← mulDiv grossPrice referralBps bpsDenominator
  let sellerProceeds ← checkedSub grossPrice referral
  let firstUpkeep ← weeklyUpkeepForPrice buyerDeclaredPrice
  let newPaidThrough ← oneWeekFrom env.timestamp
  modify (·.setBranding tokenId { branding with
    controllerAgentId := buyerAgentId
    declaredPrice := buyerDeclaredPrice
    paidThrough := newPaidThrough
    pendingDeclaredPrice := 0
    pendingPriceActivation := 0 })
  safeTransfer env seller env.sender tokenId
  payToken env env.sender branding.referrer referral
  payToken env env.sender seller sellerProceeds
  payUpkeep env tokenId env.sender branding.acolyte branding.referrer firstUpkeep newPaidThrough
  modify (·.emit (.brandingPurchased tokenId seller env.sender branding.controllerAgentId
    buyerAgentId grossPrice referral sellerProceeds))

/-! ## Entrypoints -/

section Entrypoints

variable [Keccak]

def mintBranding (env : Env T) (consent : MintConsent) (signature : Bytes) : Entry T Uint256 :=
  nonReentrant do
  revertIf (consent.acolyte = 0) .zeroAcolyte
  revertIf (consent.referrer = 0) .zeroReferrer
  revertIf (consent.initialDeclaredPrice = 0) .zeroDeclaredPrice
  revertIf (consent.minter ≠ env.sender) (.wrongMinter consent.minter env.sender)
  revertIf (consent.deadline < env.timestamp) (.consentExpired consent.deadline)
  let tx ← get
  let expectedNonce := tx.store.nonces consent.acolyte
  revertIf (consent.nonce ≠ expectedNonce)
    (.invalidNonce consent.acolyte expectedNonce consent.nonce)
  revertIf (expectedNonce = BitVec.allOnes 256) (.nonceExhausted consent.acolyte)
  let tokenId ← tokenIdOf env consent.acolyte
  revertIf (tx.store.owners tokenId ≠ 0) (.brandingAlreadyExists consent.acolyte tokenId)
  revertIf (¬env.isValidSignatureNow consent.acolyte (consentDigest env consent) signature)
    (.invalidConsentSignature consent.acolyte)
  requireEligible env 0 consent.controllerAgentId env.sender
  let paidThrough ← oneWeekFrom env.timestamp
  let firstUpkeep ← weeklyUpkeepForPrice consent.initialDeclaredPrice
  modify (·.setNonce consent.acolyte (expectedNonce + 1))
  modify (·.setBranding tokenId {
    acolyte := consent.acolyte
    referrer := consent.referrer
    controllerAgentId := consent.controllerAgentId
    declaredPrice := consent.initialDeclaredPrice
    paidThrough
    pendingDeclaredPrice := 0
    pendingPriceActivation := 0 })
  setTokenRoyalty tokenId consent.referrer referralBps
  safeMint env env.sender tokenId
  payUpkeep env tokenId env.sender consent.acolyte consent.referrer firstUpkeep paidThrough
  modify (·.emit (.brandingMinted tokenId consent.acolyte env.sender consent.controllerAgentId
    consent.referrer consent.initialDeclaredPrice paidThrough firstUpkeep))
  return tokenId

/-- `Math.max(branding.paidThrough, block.timestamp)`, where a renewal's week starts. -/
def renewalBase (timestamp : Uint256) (branding : BrandingData) : Uint256 :=
  if branding.paidThrough ≤ timestamp then timestamp else branding.paidThrough

/-- The price a renewal pays upkeep on : the queued price if it is in force when the new
week starts. -/
def renewalPrice (base : Uint256) (branding : BrandingData) : Uint256 :=
  if branding.pendingPriceActivation ≠ 0 ∧ branding.pendingPriceActivation ≤ base then
    branding.pendingDeclaredPrice
  else branding.declaredPrice

def renew (env : Env T) (tokenId : Uint256) : Entry T Unit := nonReentrant do
  let owner ← requireOwned tokenId
  revertIf (owner ≠ env.sender) (.notTokenOwner tokenId owner env.sender)
  let tx ← get
  let branding := tx.store.brandings tokenId
  requireEligible env 0 branding.controllerAgentId env.sender
  revertIf (env.timestamp < branding.paidThrough ∧ week < branding.paidThrough - env.timestamp)
    (.renewalTooEarly branding.paidThrough)
  syncDeclaredPrice env tokenId
  let tx ← get
  let branding := tx.store.brandings tokenId
  let base := renewalBase env.timestamp branding
  let newPaidThrough ← oneWeekFrom base
  let upkeep ← weeklyUpkeepForPrice (renewalPrice base branding)
  modify (·.setBranding tokenId { branding with paidThrough := newPaidThrough })
  payUpkeep env tokenId env.sender branding.acolyte branding.referrer upkeep newPaidThrough

def setDeclaredPrice (env : Env T) (tokenId newPrice : Uint256) : Entry T Unit :=
  nonReentrant do
  revertIf (newPrice = 0) .zeroDeclaredPrice
  let owner ← requireOwned tokenId
  revertIf (owner ≠ env.sender) (.notTokenOwner tokenId owner env.sender)
  let tx ← get
  requireEligible env 0 (tx.store.brandings tokenId).controllerAgentId env.sender
  syncDeclaredPrice env tokenId
  let tx ← get
  let branding := tx.store.brandings tokenId
  let currentPrice := branding.declaredPrice
  if newPrice ≤ currentPrice ∨ branding.paidThrough ≤ env.timestamp then
    modify fun tx =>
      (tx.setBranding tokenId { branding with
        declaredPrice := newPrice
        pendingDeclaredPrice := 0
        pendingPriceActivation := 0 }).emit (.declaredPriceUpdated tokenId currentPrice newPrice)
  else
    revertIf (branding.pendingPriceActivation ≠ 0 ∧
        branding.pendingPriceActivation < branding.paidThrough ∧
        branding.pendingDeclaredPrice < newPrice)
      (.pendingPriceIncreaseLocked branding.pendingDeclaredPrice branding.pendingPriceActivation
        branding.paidThrough)
    let activation :=
      if branding.pendingPriceActivation = 0 then branding.paidThrough
      else branding.pendingPriceActivation
    modify fun tx =>
      (tx.setBranding tokenId { branding with
        pendingDeclaredPrice := newPrice
        pendingPriceActivation := activation }).emit
          (.declaredPriceIncreaseScheduled tokenId currentPrice newPrice activation)

def buy (env : Env T) (tokenId : Uint256) (expectedOwner : Address)
    (expectedControllerAgentId maximumGrossPrice buyerAgentId buyerDeclaredPrice
      deadline : Uint256) : Entry T Unit := nonReentrant do
  revertIf (deadline < env.timestamp) (.purchaseExpired deadline)
  revertIf (buyerDeclaredPrice = 0) .zeroDeclaredPrice
  let seller ← requireOwned tokenId
  revertIf (seller ≠ expectedOwner) (.unexpectedOwner expectedOwner seller)
  revertIf (env.sender = seller) (.selfPurchase seller)
  let tx ← get
  let agentId := (tx.store.brandings tokenId).controllerAgentId
  revertIf (agentId ≠ expectedControllerAgentId)
    (.unexpectedControllerAgent expectedControllerAgentId agentId)
  syncDeclaredPrice env tokenId
  let tx ← get
  let branding := tx.store.brandings tokenId
  let currentStatus := statusOfBranding env 0 seller branding
  revertIf (currentStatus ≠ .active) (.brandingNotActive tokenId currentStatus.code)
  requireEligible env 5 buyerAgentId env.sender
  let grossPrice := branding.declaredPrice
  revertIf (maximumGrossPrice < grossPrice) (.grossPriceExceedsMaximum grossPrice maximumGrossPrice)
  settlePurchase env tokenId seller buyerAgentId buyerDeclaredPrice

def claimUnserved (env : Env T) (tokenId : Uint256) (expectedOwner : Address)
    (expectedControllerAgentId claimantAgentId newDeclaredPrice deadline : Uint256) :
    Entry T Unit := nonReentrant do
  revertIf (deadline < env.timestamp) (.claimExpired deadline)
  revertIf (newDeclaredPrice = 0) .zeroDeclaredPrice
  let previousOwner ← requireOwned tokenId
  revertIf (previousOwner ≠ expectedOwner) (.unexpectedOwner expectedOwner previousOwner)
  revertIf (env.sender = previousOwner) (.selfClaim previousOwner)
  let tx ← get
  let branding := tx.store.brandings tokenId
  revertIf (branding.controllerAgentId ≠ expectedControllerAgentId)
    (.unexpectedControllerAgent expectedControllerAgentId branding.controllerAgentId)
  let currentStatus := statusOfBranding env 0 previousOwner branding
  revertIf (currentStatus ≠ .expired ∧ currentStatus ≠ .ineligible)
    (.brandingNotClaimable tokenId currentStatus.code)
  requireEligible env 5 claimantAgentId env.sender
  let firstUpkeep ← weeklyUpkeepForPrice newDeclaredPrice
  let newPaidThrough ← oneWeekFrom env.timestamp
  modify (·.setBranding tokenId { branding with
    controllerAgentId := claimantAgentId
    declaredPrice := newDeclaredPrice
    paidThrough := newPaidThrough
    pendingDeclaredPrice := 0
    pendingPriceActivation := 0 })
  safeTransfer env previousOwner env.sender tokenId
  payUpkeep env tokenId env.sender branding.acolyte branding.referrer firstUpkeep newPaidThrough
  modify (·.emit (.brandingClaimed tokenId previousOwner env.sender branding.controllerAgentId
    claimantAgentId firstUpkeep newDeclaredPrice newPaidThrough))

def setAvatarURI (env : Env T) (tokenId : Uint256) (avatarURI : Bytes) : Entry T Unit := do
  let owner ← requireOwned tokenId
  revertIf (owner ≠ env.sender) (.notTokenOwner tokenId owner env.sender)
  revertIf (maxAvatarUriBytes < avatarURI.length) (.avatarUriTooLong avatarURI.length)
  modify fun tx => (tx.setAvatarUri tokenId avatarURI).emit (.avatarURIUpdated tokenId avatarURI)

def setCustomTrait (env : Env T) (tokenId : Uint256) (traitType value : Bytes) : Entry T Unit := do
  let owner ← requireOwned tokenId
  revertIf (owner ≠ env.sender) (.notTokenOwner tokenId owner env.sender)
  revertIf (traitType.length = 0) .emptyTraitType
  revertIf (maxTraitTypeBytes < traitType.length) (.traitTypeTooLong traitType.length)
  revertIf (maxTraitValueBytes < value.length) (.traitValueTooLong value.length)
  let tx ← get
  let traitHash := keccak256 traitType
  let traits := tx.store.customTraits tokenId
  match tx.store.customTraitIndexes tokenId traitHash with
  | 0 =>
    revertIf (maxTraits ≤ traits.length) (.tooManyTraits maxTraits)
    modify fun tx => (tx.setTraits tokenId (traits ++ [⟨traitType, value⟩])).setTraitIndex
      tokenId traitHash (traits.length + 1)
  | index + 1 =>
    -- an index past the array is Solidity's `Panic(0x32)`
    let existing ← orRevert traits[index]? (.panic 0x32)
    revertIf (keccak256 existing.traitType ≠ traitHash) (.traitNotFound traitHash)
    modify (·.setTraits tokenId (traits.set index { existing with value }))
  modify (·.emit (.customTraitUpdated tokenId traitType value))

def removeCustomTrait (env : Env T) (tokenId : Uint256) (traitType : Bytes) : Entry T Unit := do
  let owner ← requireOwned tokenId
  revertIf (owner ≠ env.sender) (.notTokenOwner tokenId owner env.sender)
  let tx ← get
  let traitHash := keccak256 traitType
  let traits := tx.store.customTraits tokenId
  let indexPlusOne := tx.store.customTraitIndexes tokenId traitHash
  revertIf (indexPlusOne = 0) (.traitNotFound traitHash)
  let index := indexPlusOne - 1
  revertIf (traits.length = 0) (.panic 0x11)
  let lastIndex := traits.length - 1
  let removed ← orRevert traits[index]? (.panic 0x32)
  if index ≠ lastIndex then
    let moved ← orRevert traits[lastIndex]? (.panic 0x32)
    modify fun tx => (tx.setTraits tokenId ((traits.set index moved).dropLast)).setTraitIndex
      tokenId (keccak256 moved.traitType) (index + 1)
  else
    modify (·.setTraits tokenId traits.dropLast)
  modify fun tx => (tx.setTraitIndex tokenId traitHash 0).emit
    (.customTraitRemoved tokenId removed.traitType)

end Entrypoints

/-! ## Calls -/

/-- Calldata of the state-changing functions, the disabled ERC-721 ones included. -/
inductive Call
  | mintBranding (consent : MintConsent) (signature : Bytes)
  | renew (tokenId : Uint256)
  | setDeclaredPrice (tokenId newPrice : Uint256)
  | buy (tokenId : Uint256) (expectedOwner : Address) (expectedControllerAgentId
      maximumGrossPrice buyerAgentId buyerDeclaredPrice deadline : Uint256)
  | claimUnserved (tokenId : Uint256) (expectedOwner : Address) (expectedControllerAgentId
      claimantAgentId newDeclaredPrice deadline : Uint256)
  | setAvatarURI (tokenId : Uint256) (avatarURI : Bytes)
  | setCustomTrait (tokenId : Uint256) (traitType value : Bytes)
  | removeCustomTrait (tokenId : Uint256) (traitType : Bytes)
  | approve (spender : Address) (tokenId : Uint256)
  | setApprovalForAll (operator : Address) (approved : Bool)
  | transferFrom (sender receiver : Address) (tokenId : Uint256)
  | safeTransferFrom (sender receiver : Address) (tokenId : Uint256) (data : Bytes)

section Dispatch

variable [Keccak]

/-- The function a call runs. The approval and transfer functions only revert. -/
def dispatch (env : Env T) : Call → Entry T Unit
  | .mintBranding consent signature => do let _ ← mintBranding env consent signature
  | .renew tokenId => renew env tokenId
  | .setDeclaredPrice tokenId newPrice => setDeclaredPrice env tokenId newPrice
  | .buy tokenId expectedOwner agentId maximum buyerAgentId price deadline =>
    buy env tokenId expectedOwner agentId maximum buyerAgentId price deadline
  | .claimUnserved tokenId expectedOwner agentId claimantAgentId price deadline =>
    claimUnserved env tokenId expectedOwner agentId claimantAgentId price deadline
  | .setAvatarURI tokenId avatarURI => setAvatarURI env tokenId avatarURI
  | .setCustomTrait tokenId traitType value => setCustomTrait env tokenId traitType value
  | .removeCustomTrait tokenId traitType => removeCustomTrait env tokenId traitType
  | .approve _ _ => throw .transfersDisabled
  | .setApprovalForAll _ _ => throw .transfersDisabled
  | .transferFrom _ _ _ => throw .transfersDisabled
  | .safeTransferFrom _ _ _ _ => throw .transfersDisabled

/-- Storage, token and log after a call : a reverting one leaves all three alone. -/
def transact (env : Env T) (tx : Tx T) (call : Call) : Tx T :=
  match (dispatch env call).run tx with
  | .ok (_, tx') => tx'
  | .error _ => tx

end Dispatch

end Cthuwu.Branding
