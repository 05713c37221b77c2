import Cthuwu.Lib.Fallible
import Cthuwu.TokenEye.Address

/-!
# The snapshot of the Branding actions

An acolyte is branded at a share of the treasury, with a first week of upkeep that is a thousandth
of the price, rounded up. Its name is read off the Keccak-256 digest of its address. Amounts and
identifiers that are kept in decimal, and hashes that are kept in hexadecimal, are 256-bit words.

A `BrandingAction` is one offer to an acolyte with all that happens to it : its inspection, its
consent, its receipt and what has to be delivered. `BrandingSnapshot.validate` is what a snapshot
has to pass before it is saved, and `BrandingAction.validate` what each action of it has to.
-/

namespace Cthuwu.Offers

open TokenEye

abbrev U256 := BitVec 256

abbrev Hash := BitVec 256

/-- The digests : SHA-256 of a text, and Keccak-256 of the twenty bytes of an address. -/
class Hashing where
  sha256 : String → BitVec 256
  keccak256 : Address → BitVec 256

def u64Max : ℕ := 2 ^ 64 - 1

def minInitialPriceBasisPoints : ℕ := 500

def maxInitialPriceBasisPoints : ℕ := 2000

def weeklyUpkeepBasisPoints : ℕ := 10

/-! ## Quotes -/

def toWord (n : ℕ) : Option U256 :=
  if n < 2 ^ 256 then some (BitVec.ofNat 256 n) else none

/-- `U256::checked_mul_u64`. -/
def checkedMulU64 (value : U256) (multiplier : ℕ) : Option U256 :=
  toWord (value.toNat * multiplier)

/-- `U256::checked_mul_basis_points`. -/
def checkedMulBasisPoints (value : U256) (basisPoints : ℕ) : Option U256 := do
  let product ← checkedMulU64 value basisPoints
  return BitVec.ofNat 256 (product.toNat / 10000)

def addOne (value : U256) : Option U256 :=
  toWord (value.toNat + 1)

structure BrandingQuote where
  treasuryBalance : U256
  priceBasisPoints : ℕ
  initialDeclaredPrice : U256
  firstWeekUpkeep : U256

def quoteInitialBranding (treasuryBalance : U256) (priceBasisPoints : ℕ) :
    Except String BrandingQuote := do
  failIf (¬(minInitialPriceBasisPoints ≤ priceBasisPoints ∧
    priceBasisPoints ≤ maxInitialPriceBasisPoints))
    "initial Branding price adjustment must remain between 5% and 20%"
  let initialDeclaredPrice ← okOr (checkedMulBasisPoints treasuryBalance priceBasisPoints)
    "initial Branding price calculation overflowed"
  failIf (initialDeclaredPrice = 0) "initial Branding price must be positive"
  let floorUpkeep ← okOr (checkedMulBasisPoints initialDeclaredPrice weeklyUpkeepBasisPoints)
    "Branding upkeep calculation overflowed"
  let recomposed ← okOr (checkedMulU64 floorUpkeep 1000) "Branding upkeep comparison overflowed"
  let firstWeekUpkeep ←
    if recomposed.toNat < initialDeclaredPrice.toNat then
      okOr (addOne floorUpkeep) "Branding upkeep rounded past uint256"
    else pure floorUpkeep
  return ⟨treasuryBalance, priceBasisPoints, initialDeclaredPrice, firstWeekUpkeep⟩

/-! ## Names -/

def firstNames : List String :=
  ["Ainsworth", "Ashcombe", "Bellingham", "Blackwood", "Cavendish", "Cholmondeley", "Davenport",
   "Devereux", "Eversleigh", "Fairfax", "Featherstone", "Fitzwilliam", "Fortescue",
   "Gainsborough", "Harrington", "Hawthorne", "Kensington", "Langford", "Marlborough",
   "Montague", "Pemberton", "Ravenscroft", "Sinclair", "Somerset", "Stanhope", "Thackeray",
   "Wainwright", "Weatherby", "Wellington", "Westcott", "Whitcombe", "Winchester", "Abberley",
   "Adderley", "Alvingham", "Bancroft", "Barrington", "Beauchamp", "Beresford", "Brabazon",
   "Broughton", "Buckhurst", "Cadogan", "Chatterton", "Chetwynd", "Coleridge", "Digby",
   "Edgeworth", "Frobisher", "Granville", "Hardwick", "Hesketh", "Lascelles", "Mandeville",
   "Mortimer", "Neville", "Paget", "Rawdon", "Rockingham", "Sherborne", "Trelawney",
   "Waldegrave", "Wentworth", "Wyndham"]

def secondNames : List String :=
  ["Arbuthnot", "Bramwell", "Carrington", "Chadwick", "Clavering", "Cumberland", "Darlington",
   "Ellsworth", "Farnsworth", "Fetherstonhaugh", "Godolphin", "Grantham", "Hargreaves",
   "Kingsley", "Loxley", "Marchbanks", "Molesworth", "Northcott", "Ormsby", "Ponsonby",
   "Radcliffe", "Sackville", "Smythe", "Tavistock", "Templeton", "Uxbridge", "Vane",
   "Walsingham", "Wetherell", "Whittington", "Wickham", "Worthing", "Acton", "Blandford",
   "Boswell", "Bridgeman", "Bulwer", "Calthorpe", "Chichester", "Coningsby", "Delamere",
   "Denham", "Dorrington", "Eddington", "Fane", "Fitzalan", "Grafton", "Grosvenor", "Harcourt",
   "Ingleby", "Jermyn", "Kettering", "Lowther", "Marwood", "Painswick", "Quenby", "Rivington",
   "SaintJohn", "Strathmore", "Tichborne", "Underhill", "Vernon", "Wrottesley", "Yelverton"]

def estateStarts : List String :=
  ["Alder", "Amber", "Apple", "Ash", "Barrow", "Beech", "Bel", "Birch", "Black", "Blen",
   "Blythe", "Bracken", "Bram", "Briar", "Bright", "Broad", "Buck", "Cedar", "Charn", "Clear",
   "Cold", "Crow", "Deep", "Dun", "East", "Elder", "Elm", "Ever", "Fair", "Fern", "Fleet", "Fox",
   "Glen", "Gold", "Grand", "Green", "Grey", "Hart", "Hazel", "High", "Holly", "Honey", "Ivy",
   "Kings", "Lang", "Little", "Long", "Low", "Maple", "Marsh", "Mere", "Mill", "Nether", "North",
   "Oak", "Pen", "Pine", "Raven", "Red", "Rose", "Silver", "South", "Stan", "Wych"]

def estateEnds : List String :=
  ["abbey", "bank", "borough", "bourne", "bridge", "brook", "bury", "castle", "chester", "cliff",
   "combe", "court", "croft", "dale", "den", "field", "ford", "gate", "grove", "hall", "ham",
   "haven", "heath", "hill", "holm", "hurst", "ington", "land", "leigh", "manor", "marsh",
   "meadow", "mere", "mill", "minster", "moor", "mount", "park", "pool", "port", "ridge", "rose",
   "stead", "stoke", "stone", "thorp", "ton", "vale", "view", "ville", "wall", "water", "way",
   "well", "wick", "wood", "worth", "yard", "end", "fen", "green", "lodge", "priory", "quay"]

def digestByte (digest : BitVec 256) (index : ℕ) : ℕ :=
  digest.toNat / 256 ^ (31 - index) % 256

def nameIndex (high low length : ℕ) : ℕ :=
  (256 * high + low) % length

/-- The entry that two bytes of the digest choose. -/
def choose (table : List String) (digest : BitVec 256) (index : ℕ) : String :=
  table.getD (nameIndex (digestByte digest index) (digestByte digest (index + 1)) table.length) ""

variable [Hashing]

def acolyteName (acolyte : Address) : String :=
  let digest := Hashing.keccak256 acolyte
  choose firstNames digest 0 ++ "-" ++ choose secondNames digest 2 ++ " of " ++
    choose estateStarts digest 4 ++ choose estateEnds digest 6

end Cthuwu.Offers

/-! ## The snapshot of the Branding actions -/

namespace Cthuwu.Offers

open Council TokenEye

/-! ## Texts -/

abbrev OfferId := BitVec 128

def offerIdText (offerId : OfferId) : String :=
  String.ofList (hexOf 32 offerId.toNat)

def hashText (hash : Hash) : String :=
  "0x" ++ String.ofList (hexOf 64 hash.toNat)

/-- `u256_decimal`. -/
def decimal (n : U256) : String :=
  n.toNat.repr

variable (value : String) (action : BrandingAction) (inspection : InspectionBinding)

def encodeTextHex : String :=
  "0x" ++ String.ofList (value.toUTF8.data.toList.flatMap fun byte => hexOf 2 byte.toNat)

def brandingContract : String := "0xd8c36f13d79a505c7fbdc5f6467ea3cd75e896da"

def maxSignatureBytes : ℕ := 8 * 1024

def maxNameBytes : ℕ := 128

def isHexDigit (c : Char) : Bool :=
  c.isDigit || ('a' ≤ c && c ≤ 'f') || ('A' ≤ c && c ≤ 'F')

def validateInboxId : Except String Unit :=
  failIf (¬(value.utf8ByteSize = 64 ∧ value.toList.all isLowerHex = true))
    "Branding inbox ID must be 32 lowercase hexadecimal bytes"

def validateActionId : Except String Unit :=
  failIf (¬(value ≠ "" ∧ value.utf8ByteSize ≤ 128 ∧
    (value.toList.all fun c => c.isAlphanum || [':', '_', '-'].contains c) = true))
    "Branding action ID is invalid"

def validateSignature : Except String Unit :=
  failIf (¬(value.toList.take 2 = ['0', 'x'] ∧ 2 < value.utf8ByteSize ∧
    value.utf8ByteSize % 2 = 0 ∧ (value.utf8ByteSize - 2) / 2 ≤ maxSignatureBytes ∧
    (value.toList.drop 2).all isHexDigit = true))
    "Branding signature is malformed or oversized"

def validatePublicName : Except String Unit :=
  failIf (isBlank value = true ∨ maxNameBytes < value.utf8ByteSize ∨
    value.toList.any isControl = true)
    "Acolyte name is empty, oversized, or contains controls"

def requireNonzero (address : Address) (label : String) : Except String Unit :=
  failIf (address = 0) (label ++ " must not be zero")

def checkSome {α : Type} (value : Option α) (check : α → Except String Unit) : Except String Unit :=
  match value with
  | some a => check a
  | none => .ok ()

/-- `parse::<u64>` of a word in decimal. -/
def parseU64 (n : U256) : Option ℕ :=
  if n.toNat ≤ u64Max then some n.toNat else none

/-! ## Actions -/

inductive BrandingPhase
  | requested
  | offerPendingDelivery
  | offered
  | consented
  | fundingRequired
  | receiptPendingDelivery
  | completed
  | declined
  | expired
  | superseded
  | failedPermanent
  deriving DecidableEq

def BrandingPhase.terminal : BrandingPhase → Bool
  | completed | declined | expired | superseded | failedPermanent => true
  | _ => false

inductive HelperBrandingStatus
  | unminted
  | active
  | expired
  | ineligible
  | registryUnavailable
  deriving DecidableEq

/-- A signature in hexadecimal, of a bounded length. -/
structure Signature where
  text : String
  valid : validateSignature text = .ok ()
  deriving DecidableEq

structure InspectionBinding where
  consentNonce : U256
  deadline : U256
  blockNumber : U256
  blockHash : Hash
  blockTimestamp : U256
  deriving DecidableEq

structure ConsentBinding where
  signature : Signature
  deriving DecidableEq

structure ReceiptBinding where
  tokenId : U256
  declaredPrice : U256
  blockNumber : U256
  blockHash : Hash
  deriving DecidableEq

inductive PendingDeliveryKind
  | offer
  | funding
  | receipt
  deriving DecidableEq

def PendingDeliveryKind.name : PendingDeliveryKind → String
  | offer => "offer"
  | funding => "funding"
  | receipt => "receipt"

structure PendingDelivery where
  kind : PendingDeliveryKind
  commitment : String
  text : String
  fingerprint : Option Hash
  deriving DecidableEq

structure BrandingAction where
  offerId : OfferId
  inboxId : String
  acolyte : Address
  minter : Address
  controllerAgentId : U256
  referrer : Address
  treasuryBalance : U256
  priceBasisPoints : ℕ
  initialDeclaredPrice : U256
  firstWeekUpkeep : U256
  acolyteName : String
  phase : BrandingPhase
  observedBrandingStatus : Option HelperBrandingStatus
  inspection : Option InspectionBinding
  consent : Option ConsentBinding
  receipt : Option ReceiptBinding
  completionActionId : Option String
  pendingDelivery : Option PendingDelivery
  lastFundingFingerprint : Option Hash
  lastFundingNoticeUnix : Option ℕ
  attemptCount : ℕ
  nextAttemptUnix : ℕ
  lastError : Option String
  createdAtUnix : ℕ
  updatedAtUnix : ℕ
  deriving DecidableEq

def offerLifetimeSeconds : ℕ := 30 * 60

def maxDeliveryBytes : ℕ := 16 * 1024

def maxErrorBytes : ℕ := 512

/-- The action of the executor that an offer is completed under. -/
def completionActionId (offerId : OfferId) : String :=
  "branding-complete:" ++ offerIdText offerId

/-- The token of an acolyte is its address. -/
def addressTokenId (acolyte : Address) : U256 :=
  acolyte.setWidth 256

/-- Fields in the form in which a marker carries them. -/
def markerFields (fields : List (String × String)) : String :=
  ";".intercalate (fields.map fun (key, value) => key ++ "=" ++ value)

def offerIntro : String :=
  "i prepared an exact Base Acolyte Branding offer. review the contract, controller, referrer, " ++
    "price, one-use nonce, and deadline before signing, fwiend.\n[[cthuwu:branding-offer:v2;"

def offerFields :
    List (String × String) :=
  [("offer", offerIdText action.offerId), ("contract", brandingContract),
    ("minter", addressText action.minter), ("agent", decimal action.controllerAgentId),
    ("acolyte", addressText action.acolyte), ("referrer", addressText action.referrer),
    ("treasury", decimal action.treasuryBalance), ("basis", action.priceBasisPoints.repr),
    ("price", decimal action.initialDeclaredPrice), ("upkeep", decimal action.firstWeekUpkeep),
    ("nonce", decimal inspection.consentNonce), ("deadline", decimal inspection.deadline),
    ("block", decimal inspection.blockNumber), ("blockHash", hashText inspection.blockHash),
    ("name", encodeTextHex action.acolyteName)]

def offerText : String :=
  offerIntro ++ markerFields (offerFields action inspection) ++ "]]"

def receiptIntro : String :=
  "the Branding mint and canonical Acolyte Name are verified on Base—congrats, branded acolyte! " ++
    "ur ‘invite an acolyte’ action now makes it easy to share ur own referral link when it " ++
    "feels natural, uwu.\n[[cthuwu:branding-receipt:v2;"

def receiptFields
    (receipt : ReceiptBinding) : List (String × String) :=
  [("offer", offerIdText action.offerId), ("contract", brandingContract),
    ("token", decimal receipt.tokenId), ("agent", decimal action.controllerAgentId),
    ("acolyte", addressText action.acolyte), ("owner", addressText action.minter),
    ("referrer", addressText action.referrer), ("price", decimal receipt.declaredPrice),
    ("nonce", decimal inspection.consentNonce), ("block", decimal receipt.blockNumber),
    ("blockHash", hashText receipt.blockHash), ("name", encodeTextHex action.acolyteName)]

def receiptText
    (receipt : ReceiptBinding) : String :=
  receiptIntro ++ markerFields (receiptFields action inspection receipt) ++ "]]"

variable [Hashing]

/-- The first sixteen digits of the hash of a delivery name it. -/
def deliveryCommitment (kind : PendingDeliveryKind) (offerId : OfferId) (text : String) : String :=
  "branding-" ++ kind.name ++ ":" ++ offerIdText offerId ++ ":" ++
    String.ofList ((hexOf 64 (Hashing.sha256 text).toNat).take 16)

/-! ### Checks -/

variable (a : BrandingAction)

namespace BrandingAction

/-- The quote and the name of the action are the ones of its treasury and acolyte. -/
def checkOffer (expectedMinter : Address) (a : BrandingAction) : Except String Unit := do
  validateInboxId a.inboxId
  requireNonzero a.acolyte "persisted acolyte"
  requireNonzero a.minter "persisted minter"
  failIf (a.minter ≠ expectedMinter)
    "persisted Branding action belongs to another Tentacle wallet"
  requireNonzero a.referrer "persisted referrer"
  failIf (a.initialDeclaredPrice = 0) "persisted price must be positive"
  failIf (a.firstWeekUpkeep = 0) "persisted upkeep must be positive"
  failIf (¬(minInitialPriceBasisPoints ≤ a.priceBasisPoints ∧
    a.priceBasisPoints ≤ maxInitialPriceBasisPoints))
    "persisted initial price policy is outside its bound"
  let quote ← quoteInitialBranding a.treasuryBalance a.priceBasisPoints
  failIf (¬(a.initialDeclaredPrice = quote.initialDeclaredPrice ∧
    a.firstWeekUpkeep = quote.firstWeekUpkeep))
    "persisted Branding quote does not match its treasury and basis-point policy"
  failIf (a.acolyteName ≠ Offers.acolyteName a.acolyte)
    "persisted Acolyte name does not match acolyte-v1"
  validatePublicName a.acolyteName

def checkInspection (inspection : InspectionBinding) : Except String Unit := do
  failIf (u64Max < inspection.blockTimestamp.toNat)
    "persisted offer block timestamp exceeds u64"
  failIf (u64Max < inspection.blockTimestamp.toNat + offerLifetimeSeconds)
    "persisted Branding deadline overflowed"
  failIf (inspection.deadline.toNat ≠ inspection.blockTimestamp.toNat + offerLifetimeSeconds)
    "persisted Branding deadline is not bound to its Base block timestamp"

def checkReceipt (receipt : ReceiptBinding) : Except String Unit := do
  failIf (receipt.tokenId ≠ addressTokenId a.acolyte)
    "persisted Branding token ID is not uint160(acolyte) in decimal"
  failIf (receipt.declaredPrice ≠ a.initialDeclaredPrice)
    "persisted receipt does not echo the signed offer price"

def checkCompletionActionId (actionId : String) : Except String Unit := do
  validateActionId actionId
  failIf (actionId ≠ Offers.completionActionId a.offerId)
    "persisted completion action ID is not bound to its offer"

/-- The delivery says what its kind says about the action. -/
def matchesDelivery (delivery : PendingDelivery) : Except String Unit :=
  match delivery.kind with
  | .offer => failIf (¬(delivery.fingerprint = none ∧
      a.inspection.any fun inspection => delivery.text = offerText a inspection))
      "persisted Branding offer delivery does not match its action"
  | .receipt => failIf (¬(delivery.fingerprint = none ∧
      a.inspection.any fun inspection => a.receipt.any fun receipt =>
        delivery.text = receiptText a inspection receipt))
      "persisted Branding receipt delivery does not match its action"
  | .funding => failIf (delivery.fingerprint = none)
      "persisted Branding funding delivery has no fingerprint"

def checkDelivery (delivery : PendingDelivery) : Except String Unit := do
  validateActionId delivery.commitment
  failIf (delivery.text = "" ∨ maxDeliveryBytes < delivery.text.utf8ByteSize)
    "persisted Branding delivery is empty or oversized"
  failIf (delivery.commitment ≠ deliveryCommitment delivery.kind a.offerId delivery.text)
    "persisted Branding delivery commitment does not match its exact text"
  a.matchesDelivery delivery

/-- Which delivery is pending. -/
def awaits (kind : PendingDeliveryKind) : Bool :=
  a.pendingDelivery.any (·.kind = kind)

def checkPhase : Except String Unit :=
  match a.phase with
  | .requested => failIf (¬(a.inspection = none ∧ a.consent = none ∧ a.receipt = none ∧
      a.completionActionId = none ∧ a.pendingDelivery = none))
      "requested Branding action contains later-phase state"
  | .offerPendingDelivery => failIf (¬(a.inspection ≠ none ∧ a.consent = none ∧
      a.receipt = none ∧ a.completionActionId = none ∧ a.awaits .offer = true))
      "pending Branding offer has an invalid persisted shape"
  | .offered => failIf (¬(a.inspection ≠ none ∧ a.consent = none ∧ a.receipt = none ∧
      a.completionActionId = none ∧ a.pendingDelivery = none))
      "delivered Branding offer has an invalid persisted shape"
  | .consented => failIf (¬(a.inspection ≠ none ∧ a.consent ≠ none ∧ a.receipt = none ∧
      a.completionActionId ≠ none ∧ a.pendingDelivery = none))
      "consented Branding action has an invalid persisted shape"
  | .fundingRequired => failIf (¬(a.inspection ≠ none ∧ a.consent ≠ none ∧ a.receipt = none ∧
      a.completionActionId ≠ none ∧ (a.pendingDelivery = none ∨ a.awaits .funding = true)))
      "resource-blocked Branding action has an invalid persisted shape"
  | .receiptPendingDelivery => failIf (¬(a.inspection ≠ none ∧ a.consent ≠ none ∧
      a.receipt ≠ none ∧ a.completionActionId ≠ none ∧ a.awaits .receipt = true))
      "completed Branding action has an invalid pending-receipt shape"
  | .completed => failIf (¬(a.inspection ≠ none ∧ a.consent = none ∧ a.receipt ≠ none ∧
      a.completionActionId ≠ none ∧ a.pendingDelivery = none))
      "terminal Branding receipt did not scrub its consent signature"
  | .declined | .expired | .superseded | .failedPermanent => failIf (a.pendingDelivery ≠ none)
      "terminal Branding action retains a pending delivery"

/-- The pending delivery belongs to the phase. -/
def checkPending : Except String Unit :=
  match a.pendingDelivery.map PendingDelivery.kind with
  | some .offer => failIf (a.phase ≠ .offerPendingDelivery)
      "offer delivery is attached to another phase"
  | some .funding => failIf (a.phase ≠ .fundingRequired)
      "funding delivery is attached to another phase"
  | some .receipt => failIf (a.phase ≠ .receiptPendingDelivery)
      "receipt delivery is attached to another phase"
  | none => .ok ()

def validate (expectedMinter : Address) (a : BrandingAction) : Except String Unit := do
  a.checkOffer expectedMinter
  checkSome a.inspection checkInspection
  checkSome a.receipt a.checkReceipt
  checkSome a.completionActionId a.checkCompletionActionId
  checkSome a.pendingDelivery a.checkDelivery
  checkSome a.lastError fun error =>
    failIf (maxErrorBytes < error.utf8ByteSize) "persisted Branding error is oversized"
  failIf (a.updatedAtUnix < a.createdAtUnix) "persisted Branding timestamps are inverted"
  failIf (a.lastFundingFingerprint.isSome ≠ a.lastFundingNoticeUnix.isSome)
    "persisted Branding funding acknowledgement is incomplete"
  a.checkPhase
  a.checkPending

end BrandingAction

/-! ## Snapshots -/

structure BrandingSnapshot where
  version : ℕ
  cursor : ℕ
  actions : List BrandingAction
  updatedAtUnix : ℕ
  deriving DecidableEq

def snapshotVersion : ℕ := 1

def maxActions : ℕ := 128

def BrandingSnapshot.new (now : ℕ) : BrandingSnapshot :=
  ⟨snapshotVersion, 0, [], now⟩

structure Seen where
  offers : List OfferId
  activeConversations : List (String × Address)
  actionIds : List String

def checkAction (minter : Address) (seen : Seen) (a : BrandingAction) : Except String Seen := do
  a.validate minter
  failIf (a.offerId ∈ seen.offers) "duplicate Branding offer ID"
  failIf (a.phase.terminal = false ∧ (a.inboxId, a.acolyte) ∈ seen.activeConversations)
    "multiple live Branding actions exist for one authenticated conversation"
  failIf (a.completionActionId.any (seen.actionIds.contains ·) = true)
    "duplicate completion action ID"
  return ⟨a.offerId :: seen.offers,
    if a.phase.terminal then seen.activeConversations
    else (a.inboxId, a.acolyte) :: seen.activeConversations,
    a.completionActionId.toList ++ seen.actionIds⟩

def BrandingSnapshot.validate (minter : Address) (s : BrandingSnapshot) : Except String Unit := do
  failIf (s.version ≠ snapshotVersion) "unsupported Branding snapshot version"
  failIf (maxActions < s.actions.length) "persisted Branding queue is unbounded"
  failIf (¬(s.actions = [] ∧ s.cursor = 0 ∨ s.cursor < s.actions.length))
    "persisted Branding fair-queue cursor is outside the queue"
  let _ ← s.actions.foldlM (checkAction minter) ⟨[], [], []⟩
  return ()

end Cthuwu.Offers
