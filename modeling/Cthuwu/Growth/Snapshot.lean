import Mathlib.Data.List.DropRight
import Cthuwu.Evolution.Actions
import Cthuwu.TokenEye.Address
import Cthuwu.Lib.Update

/-!
# The growth snapshot

Inboxes, amounts, transaction hashes and commitments are kept as texts and checked by their shape.
Amounts are added and subtracted digit by digit. A delivery is named by its commitment, the hash of
its kind and its text.

What a Tentacle keeps of its acolytes : one record for each, with its referrer, its place on the
way from a contact to a paid bounty, and what is still to be delivered. A snapshot is checked
whenever it is saved or loaded (`validateSnapshot`). An address is kept as such, where the code
keeps its canonical text.
-/

namespace Cthuwu.Growth

open Council TokenEye
open Evolution (u64Max u32Max u256MaxDecimal isHexOf hexText)

/-- `is_ascii_hexdigit`. -/
def isHexDigit (c : Char) : Bool :=
  c.isDigit || ('a' ≤ c && c ≤ 'f') || ('A' ≤ c && c ≤ 'F')

/-- `to_ascii_lowercase`. -/
def asciiLower (value : String) : String :=
  String.ofList (value.toList.map Char.toLower)

/-! ## Checks -/

def validateInbox (value : String) : Except String Unit :=
  failIf (¬(value.utf8ByteSize = 64 ∧ value.toList.all isHexDigit = true ∧
    value = asciiLower value))
    "XMTP inbox ID must be 32 lowercase hexadecimal bytes"

variable (text : String) (value label : String)

def parseNonzeroAddress : Except String Address := do
  let address ← okOr (parseAddress (asciiLower value))
    (label ++ " is not a canonical Ethereum address")
  failIf (address = 0) (label ++ " must not be zero")
  return address

def validateDecimal (positive : Bool) : Except String Unit := do
  failIf (¬(value ≠ "" ∧ value.utf8ByteSize ≤ 78 ∧ value.toList.all Char.isDigit = true ∧
    (value = "0" ∨ value.toList.head? ≠ some '0') ∧
    (value.utf8ByteSize < u256MaxDecimal.utf8ByteSize ∨
      value.utf8ByteSize = u256MaxDecimal.utf8ByteSize ∧ ¬u256MaxDecimal < value)))
    (label ++ " is not a canonical uint256 decimal")
  failIf (positive ∧ value = "0") (label ++ " must be positive")

def validateHash : Except String Unit :=
  failIf (¬(value.utf8ByteSize = 66 ∧ value.toList.take 2 = ['0', 'x'] ∧
    (value.toList.drop 2).all isHexDigit = true))
    (label ++ " is not 32 bytes")

def validateCommitment : Except String Unit :=
  failIf (¬(value.utf8ByteSize = 64 ∧
    (value.toList.all fun c => isHexDigit c && !c.isUpper) = true))
    (label ++ " is not a lowercase SHA-256 commitment")

def validateReferralBountyAmount (value : String) : Except String Unit :=
  validateDecimal value "referral bounty" true

/-! ## Amounts -/

def digitOf (c : Char) : ℕ :=
  c.toNat - '0'.toNat

/-- Add digits, the last one first. -/
def addDigits : List ℕ → List ℕ → ℕ → List Char
  | [], [], carry => if carry ≠ 0 then [Nat.digitChar carry] else []
  | [], y :: right, carry =>
    Nat.digitChar ((y + carry) % 10) :: addDigits [] right ((y + carry) / 10)
  | x :: left, [], carry =>
    Nat.digitChar ((x + carry) % 10) :: addDigits left [] ((x + carry) / 10)
  | x :: left, y :: right, carry =>
    Nat.digitChar ((x + y + carry) % 10) :: addDigits left right ((x + y + carry) / 10)

def decimalAdd (left right : String) : String :=
  String.ofList (addDigits (left.toList.reverse.map digitOf) (right.toList.reverse.map digitOf)
    0).reverse

/-- Subtract digits, the last one first. -/
def subDigits : List ℕ → List ℕ → ℤ → List Char
  | [], _, _ => []
  | x :: left, right, borrow =>
    let y : ℤ := right.headD 0
    if x - borrow < y then
      Nat.digitChar (x - borrow + 10 - y).toNat :: subDigits left right.tail 1
    else Nat.digitChar (x - borrow - y).toNat :: subDigits left right.tail 0

/-- Without the zeros in front, but for the last digit. -/
def trimZeros (digits : List Char) : List Char :=
  match digits.dropWhile (· = '0') with
  | [] => digits.drop (digits.length - 1)
  | trimmed => trimmed

def decimalShortfall (balance target : String) : String :=
  if target.utf8ByteSize < balance.utf8ByteSize ∨
      balance.utf8ByteSize = target.utf8ByteSize ∧ ¬balance < target then "0"
  else
    String.ofList (trimZeros
      (subDigits (target.toList.reverse.map digitOf) (balance.toList.reverse.map digitOf)
        0).reverse)

/-- `trim_end_matches('0')`. -/
def trimEndZeros (digits : List Char) : List Char :=
  digits.rdropWhile (· = '0')

/-- An amount of base units with its eighteen decimals. -/
def formatUwuBaseUnits (value : String) : String :=
  let digits := value.toList
  if 18 < digits.length then
    let whole := digits.take (digits.length - 18)
    match trimEndZeros (digits.drop (digits.length - 18)) with
    | [] => String.ofList whole
    | fraction => String.ofList (whole ++ '.' :: fraction)
  else
    match trimEndZeros (List.replicate (18 - digits.length) '0' ++ digits) with
    | [] => "0"
    | fraction => String.ofList ('0' :: '.' :: fraction)

/-! ## Short texts -/

/-- The first characters. -/
def bounded (value : String) (maximum : ℕ) : String :=
  String.ofList (value.toList.take maximum)

def addressKey (address : Address) : String :=
  String.ofList (addressDigits address)

/-- Eight characters of the address, and six. -/
def shortAddress (address : Address) : String :=
  addressStart ++ String.ofList ((addressDigits address).take 6) ++ "…" ++
    String.ofList ((addressDigits address).drop 34)

/-- The action that pays the referrer of an acolyte. -/
def rewardActionId (acolyte : Address) : String :=
  "referral-bounty:" ++ addressKey acolyte

theorem addressKey_inj {a b : Address} (h : addressKey a = addressKey b) : a = b :=
  addressDigits_inj (String.ofList_injective h)

theorem rewardActionId_inj {a b : Address} (h : rewardActionId a = rewardActionId b) : a = b :=
  addressKey_inj (String.append_right_inj _ |>.mp h)

def referralAck (status : String) (referrer : Option Address) : String :=
  "[[cthuwu:referral-attribution-ack:v1;status=" ++ status ++ ";referrer=" ++
    referrer.elim "none" addressText ++ "]]"

/-! ## Referral controls -/

def referralControlStart : String := "[[cthuwu:referral-attribution:v1;"

/-- `strip_prefix`. -/
def stripStart (start : String) (value : List Char) : Option (List Char) :=
  if start.toList.isPrefixOf value then some (value.drop start.toList.length) else none

/-- `strip_suffix`. -/
def stripEnd (suffix : String) (value : List Char) : Option (List Char) :=
  if suffix.toList.isSuffixOf value then some (value.take (value.length - suffix.toList.length))
  else none

/-- The text starts or ends with white space. -/
def isPadded : Bool :=
  text.toList.head?.any isWhiteSpace || text.toList.getLast?.any isWhiteSpace

def parseReferralControl : Option String := do
  guard (isPadded text = false ∧ '\n' ∉ text.toList ∧ '\r' ∉ text.toList)
  let opened ← stripStart referralControlStart text.toList
  let body ← stripEnd "]]" opened
  let referrer ← stripStart "referrer=" body
  guard (';' ∉ referrer)
  let address ← parseAddress (String.ofList referrer)
  guard (address ≠ 0)
  return addressText address

def containsReferralControl : Bool :=
  "[[cthuwu:referral-attribution:".toList <:+: text.toList.map Char.toLower

/-- SHA-256 of a text, which another crate computes. -/
class Hashing where
  sha256 : String → BitVec 256

variable [Hashing]

def commitment (kind text : String) : String :=
  hexText (Hashing.sha256 ("cthuwu-growth-v1\x00" ++ kind ++ "\x00" ++ text))

end Cthuwu.Growth

/-! ## The growth snapshot -/

namespace Cthuwu.Growth

open Council TokenEye
open Evolution (u64Max u32Max)

inductive BrandingAttemptOutcome
  | observerUnavailable
  | walletUnavailable
  | clockUnavailable
  | rpcUnavailable
  | emptyTreasury
  | quoteInvalid
  | queued
  | alreadyQueued
  | queueFailed
  deriving DecidableEq

inductive ReferralRewardPhase
  | newContact
  | direct
  | attributed
  | onboardingComplete
  | rewardPending
  | submitted
  | confirmed
  deriving DecidableEq

inductive DurableBrandingState
  | declined
  | branded
  | inactive
  | ineligible
  deriving DecidableEq

structure RewardReceipt where
  transactionHash : String
  transactionNonce : String
  blockNumber : String
  blockHash : String
  deriving DecidableEq

inductive GrowthDeliveryTarget
  | referrerInbox
  | operators
  deriving DecidableEq

structure PendingDelivery where
  target : GrowthDeliveryTarget
  commitment : String
  text : String
  fundingFingerprint : Option String
  deriving DecidableEq

structure ReferralRecord where
  inboxId : String
  acolyte : Address
  referrer : Option Address
  referrerInboxId : Option String
  phase : ReferralRewardPhase
  brandingState : Option DurableBrandingState
  brandingStateUpdatedAtUnix : Option ℕ
  rewardAmountBaseUnits : String
  rewardActionId : Option String
  transactionHash : Option String
  transactionNonce : Option String
  receipt : Option RewardReceipt
  pendingDelivery : Option PendingDelivery
  lastFundingFingerprint : Option String
  lastFundingNoticeUnix : Option ℕ
  nextAttemptUnix : ℕ
  attemptCount : ℕ
  lastError : Option String
  attributedAtUnix : Option ℕ
  onboardingCompletedAtUnix : Option ℕ
  createdAtUnix : ℕ
  updatedAtUnix : ℕ
  deriving DecidableEq

structure VerifiedOperator where
  inboxId : String
  address : Address
  deriving DecidableEq

structure GrowthSnapshot where
  version : ℕ
  records : List ReferralRecord
  verifiedOperators : List VerifiedOperator
  currentOperator : Option VerifiedOperator
  referralsSent : ℕ
  operatorPromptVariant : ℕ
  operatorReminderInterval : Option ℕ
  operatorSnoozeUntil : ℕ
  operatorQuietHours : Option (ℕ × ℕ)
  lastOperatorPromptUnix : Option ℕ
  pendingOperatorPrompt : Option PendingDelivery
  lastBrandingAttempt : Option (BrandingAttemptOutcome × ℕ)
  updatedAtUnix : ℕ
  deriving DecidableEq

def snapshotVersion : ℕ := 1

def maxRecords : ℕ := 10000

def maxOperators : ℕ := 64

def maxDeliveryBytes : ℕ := 16 * 1024

def maxErrorBytes : ℕ := 512

/-- What `canonical_origin` lets through : a parsed origin of at most 256 bytes, in ASCII. -/
def maxOriginBytes : ℕ := 8192

/-- What a runtime is opened with. -/
structure Policy where
  minter : Address
  rewardAmountBaseUnits : String
  publicOrigin : String
  minter_ne : minter ≠ 0
  reward_valid : validateReferralBountyAmount rewardAmountBaseUnits = .ok ()
  origin_short : publicOrigin.utf8ByteSize ≤ maxOriginBytes

def GrowthSnapshot.new (now : ℕ) : GrowthSnapshot where
  version := snapshotVersion
  records := []
  verifiedOperators := []
  currentOperator := none
  referralsSent := 0
  operatorPromptVariant := 0
  operatorReminderInterval := none
  operatorSnoozeUntil := 0
  operatorQuietHours := none
  lastOperatorPromptUnix := some now
  pendingOperatorPrompt := none
  lastBrandingAttempt := none
  updatedAtUnix := now

/-! ## Checks of one record -/

/-- `parse_nonzero_address` of an address that is kept as such. -/
def requireNonzero (address : Address) (label : String) : Except String Unit :=
  failIf (address = 0) (label ++ " must not be zero")

def checkSome {α : Type} (value : Option α) (check : α → Except String Unit) : Except String Unit :=
  match value with
  | some a => check a
  | none => .ok ()

namespace ReferralRecord

def checkReferral (policy : Policy) (r : ReferralRecord) : Except String Unit := do
  checkSome r.referrer fun referrer => do
    requireNonzero referrer "persisted referrer"
    failIf (¬(r.acolyte ≠ policy.minter ∧ referrer ≠ r.acolyte ∧ referrer ≠ policy.minter))
      "ineligible persisted referral participants"
    failIf (r.attributedAtUnix = none) "referral has no attribution time"
  failIf (r.referrer.isSome ≠ r.referrerInboxId.isSome)
    "persisted referral inbox binding is incomplete"
  checkSome r.referrerInboxId fun referrerInboxId => do
    validateInbox referrerInboxId
    failIf (referrerInboxId = r.inboxId) "persisted referral resolves to the acolyte inbox"

def checkTransaction (r : ReferralRecord) : Except String Unit := do
  checkSome r.transactionHash fun hash => validateHash hash "transaction hash"
  checkSome r.transactionNonce fun nonce => validateDecimal nonce "transaction nonce" false
  failIf (r.transactionHash.isSome ≠ r.transactionNonce.isSome)
    "persisted reward transaction binding is incomplete"
  checkSome r.receipt fun receipt => do
    validateHash receipt.transactionHash "receipt transaction hash"
    validateDecimal receipt.transactionNonce "receipt nonce" false
    validateDecimal receipt.blockNumber "receipt block" false
    validateHash receipt.blockHash "receipt block hash"
    failIf (¬(r.phase = .confirmed ∧ r.transactionHash = some receipt.transactionHash ∧
      r.transactionNonce = some receipt.transactionNonce))
      "reward receipt does not match its confirmed transaction"

def checkPhase (r : ReferralRecord) : Except String Unit :=
  match r.phase with
  | .newContact => failIf (¬(r.referrer = none ∧ r.onboardingCompletedAtUnix = none ∧
      r.rewardActionId = none ∧ r.transactionHash = none ∧ r.receipt = none))
      "new-contact growth record is invalid"
  | .direct => failIf (¬(r.referrer = none ∧ r.onboardingCompletedAtUnix ≠ none ∧
      r.rewardActionId = none ∧ r.transactionHash = none ∧ r.receipt = none))
      "direct onboarding record is invalid"
  | .attributed => failIf (¬(r.referrer ≠ none ∧ r.onboardingCompletedAtUnix = none ∧
      r.rewardActionId = none ∧ r.transactionHash = none ∧ r.receipt = none))
      "attributed record is invalid"
  | .onboardingComplete => failIf (¬(r.referrer ≠ none ∧ r.onboardingCompletedAtUnix ≠ none ∧
      r.rewardActionId = none ∧ r.transactionHash = none ∧ r.receipt = none ∧
      r.nextAttemptUnix ≠ u64Max))
      "onboarding-complete reward is invalid"
  | .rewardPending => failIf (¬(r.referrer ≠ none ∧ r.onboardingCompletedAtUnix ≠ none ∧
      r.rewardActionId ≠ none ∧ r.transactionHash = none ∧ r.receipt = none))
      "pending referral reward is invalid"
  | .submitted => failIf (¬(r.referrer ≠ none ∧ r.onboardingCompletedAtUnix ≠ none ∧
      r.rewardActionId ≠ none ∧ r.transactionHash ≠ none ∧ r.receipt = none))
      "submitted referral reward is invalid"
  | .confirmed => failIf (¬(r.referrer ≠ none ∧ r.onboardingCompletedAtUnix ≠ none ∧
      r.rewardActionId ≠ none ∧ r.receipt ≠ none))
      "confirmed referral reward is invalid"

variable [Hashing]

def checkDelivery (r : ReferralRecord) : Except String Unit :=
  checkSome r.pendingDelivery fun delivery => do
    failIf (delivery.text = "" ∨ maxDeliveryBytes < delivery.text.utf8ByteSize)
      "growth delivery is empty or oversized"
    match delivery.fundingFingerprint with
    | some fingerprint => do
      validateCommitment fingerprint "funding fingerprint"
      failIf (¬(delivery.target = .operators ∧ r.phase = .rewardPending ∧
        delivery.commitment = commitment "reward-funding" delivery.text))
        "persisted funding notice is invalid"
    | none =>
      failIf (¬(delivery.target = .referrerInbox ∧ r.phase = .confirmed ∧
        delivery.commitment = commitment "reward-confirmed" delivery.text))
        "persisted referral confirmation delivery is invalid"

def checkNotices (r : ReferralRecord) : Except String Unit := do
  failIf (r.updatedAtUnix < r.createdAtUnix) "growth timestamps inverted"
  checkSome r.lastError fun error =>
    failIf (maxErrorBytes < error.utf8ByteSize) "growth error is oversized"
  failIf (r.lastFundingFingerprint.isSome ≠ r.lastFundingNoticeUnix.isSome)
    "persisted referral funding acknowledgement is incomplete"
  checkSome r.lastFundingFingerprint fun fingerprint =>
    validateCommitment fingerprint "delivered funding fingerprint"

end ReferralRecord

/-! ## Checks of a snapshot -/

/-- What the loop over the records has seen. -/
structure Seen where
  acolyteInboxes : List String
  acolytes : List Address
  actionIds : List String

variable [Hashing]

def checkRecord (policy : Policy) (seen : Seen) (r : ReferralRecord) : Except String Seen := do
  validateInbox r.inboxId
  failIf (r.inboxId ∈ seen.acolyteInboxes)
    "one XMTP inbox cannot create multiple acolyte reward records"
  requireNonzero r.acolyte "persisted acolyte"
  failIf (r.acolyte ∈ seen.acolytes) "duplicate acolyte reward record"
  validateDecimal r.rewardAmountBaseUnits "persisted reward" true
  r.checkReferral policy
  checkSome r.rewardActionId fun actionId => do
    failIf (actionId ≠ rewardActionId r.acolyte) "reward action is not bound to the acolyte"
    failIf (actionId ∈ seen.actionIds) "duplicate reward action ID"
  r.checkTransaction
  r.checkDelivery
  r.checkNotices
  r.checkPhase
  failIf (r.phase ≠ .confirmed ∧ r.rewardAmountBaseUnits ≠ policy.rewardAmountBaseUnits)
    "reward policy changed while an onboarding bounty is pending"
  failIf (r.brandingState.isSome ≠ r.brandingStateUpdatedAtUnix.isSome)
    "persisted terminal Branding state is incomplete"
  return ⟨r.inboxId :: seen.acolyteInboxes, r.acolyte :: seen.acolytes,
    r.rewardActionId.toList ++ seen.actionIds⟩

/-- One turn of the loop over the operators, with the addresses and inboxes seen. -/
def checkOperator (policy : Policy) (seen : List Address × List String)
    (operator : VerifiedOperator) : Except String (List Address × List String) := do
  validateInbox operator.inboxId
  requireNonzero operator.address "persisted operator"
  failIf (operator.address = policy.minter) "operator referrer is the Tentacle treasury"
  failIf (operator.address ∈ seen.1) "duplicate operator payout address"
  failIf (operator.inboxId ∈ seen.2) "duplicate operator inbox"
  return (operator.address :: seen.1, operator.inboxId :: seen.2)

def validateSnapshot (policy : Policy) (s : GrowthSnapshot) : Except String Unit := do
  failIf (s.version ≠ snapshotVersion) "unsupported growth snapshot version"
  failIf (maxRecords < s.records.length) "growth record limit exceeded"
  failIf (maxOperators < s.verifiedOperators.length) "growth operator limit exceeded"
  failIf (3 ≤ s.operatorPromptVariant) "invalid operator prompt variant"
  checkSome s.currentOperator fun operator =>
    failIf (operator ∉ s.verifiedOperators) "current operator is not verified"
  checkSome s.pendingOperatorPrompt fun delivery =>
    failIf (¬(delivery.target = .operators ∧ delivery.fundingFingerprint = none ∧
      delivery.commitment = commitment "operator-prompt" delivery.text))
      "persisted operator recruitment prompt is invalid"
  let _ ← s.verifiedOperators.foldlM (checkOperator policy) ([], [])
  let _ ← s.records.foldlM (checkRecord policy) ⟨[], [], []⟩
  return ()

end Cthuwu.Growth
