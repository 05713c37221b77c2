import Mathlib.Logic.Function.Basic
import Mathlib.Tactic.Linarith
import Cthuwu.Lib.Outcome

/-!
# EVM words, checked arithmetic and registry reads

Words are bit vectors, so an address is a 160-bit value and a token ID a 256-bit one.
Solidity 0.8 arithmetic reverts with `Panic(0x11)` instead of wrapping, and
`Math.mulDiv` computes on the 512-bit product and reverts only when the quotient does
not fit. Both are computed here on naturals and checked against the word size.

A low-level `staticcall` returns a success flag and bytes. `readWord` and
`readDynamicResult` are the contract's two parsers of those bytes; neither reverts.
-/

namespace Cthuwu.Branding

abbrev Uint256 := BitVec 256

abbrev Address := BitVec 160

abbrev Bytes32 := BitVec 256

abbrev Bytes := List UInt8

/-- The EVM's hash opcode. -/
class Keccak where
  keccak256 : Bytes → Bytes32

export Keccak (keccak256)

/-- The bytes of an ASCII string literal. -/
def ascii (s : String) : Bytes :=
  s.toList.map fun c => UInt8.ofNat c.toNat

/-- Why a transaction reverts : the contract's own errors, those of the OpenZeppelin
bases it reaches, and the compiler's panics. -/
inductive Revert
  | wrongChain (actualChainId : Uint256)
  | zeroAcolyte
  | zeroReferrer
  | zeroDeclaredPrice
  | wrongMinter (expectedMinter actualMinter : Address)
  | consentExpired (deadline : Uint256)
  | invalidNonce (acolyte : Address) (expectedNonce suppliedNonce : Uint256)
  | nonceExhausted (acolyte : Address)
  | invalidConsentSignature (acolyte : Address)
  | brandingAlreadyExists (acolyte : Address) (tokenId : Uint256)
  | registryUnavailable
  | ineligibleController (agentId : Uint256) (wallet : Address)
  | notTokenOwner (tokenId : Uint256) (expectedOwner caller : Address)
  | renewalTooEarly (paidThrough : Uint256)
  | pendingPriceIncreaseLocked (pendingPrice activation paidThrough : Uint256)
  | timestampOverflow
  | transfersDisabled
  | purchaseExpired (deadline : Uint256)
  | unexpectedOwner (expectedOwner actualOwner : Address)
  | selfPurchase (owner : Address)
  | selfClaim (owner : Address)
  | unexpectedControllerAgent (expectedAgentId actualAgentId : Uint256)
  | grossPriceExceedsMaximum (grossPrice maximumGrossPrice : Uint256)
  | brandingNotActive (tokenId : Uint256) (status : ℕ)
  | brandingNotClaimable (tokenId : Uint256) (status : ℕ)
  | claimExpired (deadline : Uint256)
  | emptyTraitType
  | traitTypeTooLong (length : ℕ)
  | traitValueTooLong (length : ℕ)
  | tooManyTraits (maximum : ℕ)
  | traitNotFound (traitHash : Bytes32)
  | avatarUriTooLong (length : ℕ)
  | erc721NonexistentToken (tokenId : Uint256)
  | erc721InvalidReceiver (receiver : Address)
  | erc721InvalidSender (sender : Address)
  | erc721IncorrectOwner (sender : Address) (tokenId : Uint256) (owner : Address)
  | erc2981InvalidDefaultRoyalty (numerator denominator : ℕ)
  | erc2981InvalidTokenRoyaltyReceiver (tokenId : Uint256) (receiver : Address)
  | safeERC20FailedOperation
  | reentrancyGuardReentrantCall
  | panic (code : ℕ)

/-- `if (c) revert reason;`. -/
abbrev revertIf (c : Prop) [Decidable c] (reason : Revert) : Except Revert Unit :=
  failIf c reason

/-- The answer of an outside call or an array read, or a revert. -/
abbrev orRevert {α : Type} (answer : Option α) (reason : Revert) : Except Revert α :=
  okOr answer reason

/-! ## Checked arithmetic -/

/-- `a + b`, or `Panic(0x11)`. -/
def checkedAdd (a b : Uint256) : Except Revert Uint256 :=
  if 2 ^ 256 ≤ a.toNat + b.toNat then .error (.panic 0x11) else .ok (a + b)

/-- `a - b`, or `Panic(0x11)`. -/
def checkedSub (a b : Uint256) : Except Revert Uint256 :=
  if a < b then .error (.panic 0x11) else .ok (a - b)

/-- `Math.mulDiv` : the floor of `x * y / d` on the full product. -/
def mulDiv (x y d : Uint256) : Except Revert Uint256 :=
  if d = 0 then .error (.panic 0x12)
  else if 2 ^ 256 ≤ x.toNat * y.toNat / d.toNat then .error (.panic 0x11)
  else .ok (BitVec.ofNat 256 (x.toNat * y.toNat / d.toNat))

/-- `Math.mulDiv` with `Rounding.Ceil` : one more when the division is not exact. -/
def mulDivCeil (x y d : Uint256) : Except Revert Uint256 := do
  let quotient ← mulDiv x y d
  checkedAdd quotient (if 0 < x.toNat * y.toNat % d.toNat then 1 else 0)

theorem checkedSub_of_le {a b : Uint256} (h : b ≤ a) : checkedSub a b = .ok (a - b) :=
  if_neg (BitVec.not_lt.mpr h)

theorem toNat_sub_of_le {a b : Uint256} (h : b ≤ a) : (a - b).toNat = a.toNat - b.toNat :=
  BitVec.toNat_sub_of_le h

/-- A fraction `y / d ≤ 1` of a word is a word. -/
theorem mulDiv_of_le {x y d : Uint256} (hd : d ≠ 0) (hy : y ≤ d) :
    mulDiv x y d = .ok (BitVec.ofNat 256 (x.toNat * y.toNat / d.toNat)) := by
  have hd0 : 0 < d.toNat := by
    rcases Nat.eq_zero_or_pos d.toNat with h | h
    · exact absurd (BitVec.eq_of_toNat_eq h) hd
    · exact h
  have hle : x.toNat * y.toNat / d.toNat ≤ x.toNat := by
    calc x.toNat * y.toNat / d.toNat ≤ x.toNat * d.toNat / d.toNat :=
          Nat.div_le_div_right (Nat.mul_le_mul_left _ (BitVec.le_def.mp hy))
      _ = x.toNat := Nat.mul_div_cancel _ hd0
  unfold mulDiv
  rw [if_neg hd, if_neg (by have := x.isLt; omega)]

/-! ## Returned bytes -/

/-- What a `staticcall` comes back with. -/
structure CallResult where
  success : Bool
  returndata : Bytes

/-- The 32-byte big-endian word at `offset`. -/
def wordAt (data : Bytes) (offset : ℕ) : Uint256 :=
  BitVec.ofNat 256 (((data.drop offset).take 32).foldl (fun n b => n * 256 + b.toNat) 0)

/-- `_readWord` : readable when the call succeeded with exactly one word. -/
def readWord (result : CallResult) : Bool × Uint256 :=
  if result.success ∧ result.returndata.length = 32 then (true, wordAt result.returndata 0)
  else (false, 0)

def maxRegistryDynamicReturnBytes : ℕ := 1024

/-- `_readDynamicResult` : the hash of a single ABI-encoded dynamic value. The length
word is checked before it is rounded up, so neither addition can wrap. -/
def readDynamicResult [Keccak] (result : CallResult) : Bool × Bytes32 :=
  let resultLength := result.returndata.length
  if ¬result.success ∨ resultLength < 64 ∨ maxRegistryDynamicReturnBytes < resultLength then
    (false, 0)
  else
    let offset := wordAt result.returndata 0
    let valueLength := wordAt result.returndata 32
    if offset ≠ 32 ∨ BitVec.allOnes 256 - 31 < valueLength then (false, 0)
    else
      let paddedLength := (valueLength + 31) &&& ~~~(31 : Uint256)
      if BitVec.allOnes 256 - 64 < paddedLength ∨
          resultLength ≠ (64 + paddedLength).toNat then (false, 0)
      else
        (true, keccak256 ((result.returndata.drop 64).take valueLength.toNat))

end Cthuwu.Branding
