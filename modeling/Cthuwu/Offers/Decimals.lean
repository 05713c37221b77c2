import Cthuwu.Lib.Decimal
import Cthuwu.Lib.Fallible
import Cthuwu.Lib.Utf8
import Cthuwu.Offers.Bytes

/-!
# Numbers in decimal

The texts that the other modules take numbers for. Bytes are written by multiplying the digits so
far and adding the next byte, a word is read by multiplying the bytes so far and adding the next
digit, and a text is incremented from its last digit. Each gives the decimal text of its number
(`bytesDecimal_repr`, `decimalU256_iff`, `decimalIncrement_repr`), in values of 16 bits.
-/

namespace Cthuwu.Offers

open Nat (ofDigits)

def uint256Max : String :=
  "115792089237316195423570985008687907853269984665640564039457584007913129639935"

def validateUint256 (value label : String) : Except String Unit := do
  failIf (¬(value ≠ "" ∧ value.utf8ByteSize ≤ 78 ∧ value.toList.all Char.isDigit = true ∧
    (value = "0" ∨ value.toList.head? ≠ some '0'))) (label ++ " must be a canonical decimal uint256")
  failIf (value.utf8ByteSize = 78 ∧ uint256Max < value) (label ++ " exceeds uint256")

/-- The digits, the last one first, with one byte more behind their number. -/
def pushByte (digits : List ℕ) (byte : UInt8) : List ℕ :=
  let (digits, carry) := mulCarry 10 256 byte.toNat digits
  digits ++ Nat.digits 10 carry

def bytesDecimal (bytes : List UInt8) : String :=
  String.ofList (significant ((bytes.foldl pushByte [0]).reverse.map Nat.digitChar))

def u256Decimal (value : TokenEye.U256) : String :=
  bytesDecimal value.bytes

/-- The word with one digit more behind its number. -/
def pushDigit (word : TokenEye.U256) (digit : Char) : Except String TokenEye.U256 :=
  okOr (word.mulAdd 10 (digit.toNat - '0'.toNat)) "decimal uint256 overflowed"

def zeroWord : TokenEye.U256 :=
  ⟨List.replicate 32 0, List.length_replicate⟩

def decimalU256 (value : String) : Except String TokenEye.U256 := do
  validateUint256 value "decimal uint256"
  value.toList.foldlM pushDigit zeroWord

/-- One more, from the last digit. -/
def carryOne : List Char → List Char
  | [] => ['1']
  | digit :: digits =>
    if digit = '9' then '0' :: carryOne digits else Char.ofNat (digit.toNat + 1) :: digits

/-- `decimal_increment`, on texts. -/
def decimalIncrementText (value : String) : Except String String := do
  validateUint256 value "consent nonce"
  let incremented := String.ofList (carryOne value.toList.reverse).reverse
  validateUint256 incremented "incremented consent nonce"
  return incremented

/-! ## Numbers of texts -/

theorem validateUint256_ok {value label : String} :
    validateUint256 value label = .ok () ↔ ∃ n < 2 ^ 256, value = n.repr := by
  have hmax : (2 ^ 256 - 1).repr.length = 78 := by
    rw [← repr_lastWord]
    decide
  have hbound : ∀ n : ℕ, (n.repr.utf8ByteSize ≤ 78 ∧
      ¬(n.repr.utf8ByteSize = 78 ∧ uint256Max < n.repr)) ↔ n < 2 ^ 256 := by
    intro n
    have hexceeds := @repr_exceeds_iff n (2 ^ 256 - 1)
    rw [hmax] at hexceeds
    rw [utf8ByteSize_repr, uint256Max, repr_lastWord, ← not_lt, ← not_or, hexceeds]
    omega
  unfold validateUint256
  simp only [except_check_ok, failIf_ok, not_not]
  constructor
  · rintro ⟨⟨hne, hsize, hcanonical⟩, hsmall⟩
    obtain ⟨n, rfl⟩ := exists_repr_iff.mp ⟨hne, hcanonical⟩
    exact ⟨n, (hbound n).mp ⟨hsize, hsmall⟩, rfl⟩
  · rintro ⟨n, hn, rfl⟩
    obtain ⟨hsize, hsmall⟩ := (hbound n).mpr hn
    obtain ⟨hne, hcanonical⟩ := exists_repr_iff.mpr ⟨n, rfl⟩
    exact ⟨⟨hne, hsize, hcanonical⟩, hsmall⟩

theorem ofDigitChars_digitChar {l : List ℕ} (hl : ∀ x ∈ l, x < 10) (start : ℕ) :
    Nat.ofDigitChars 10 (l.map Nat.digitChar) start = 10 ^ l.length * start + ofDigits 10 l.reverse := by
  induction l generalizing start with
  | nil => simp
  | cons x l ih =>
    rw [List.forall_mem_cons] at hl
    rw [List.map_cons, Nat.ofDigitChars_cons_digitChar_of_lt_ten hl.1, ih hl.2,
      Nat.ofDigits_reverse_cons, List.length_cons, pow_succ]
    ring

/-! ## Written bytes -/

theorem pushByte_lt {digits : List ℕ} {byte : UInt8} : ∀ x ∈ pushByte digits byte, x < 10 := by
  intro x hx
  rcases List.mem_append.mp hx with hx | hx
  · exact mulCarry_lt (by decide) x hx
  · exact Nat.digits_lt_base (by decide) hx

theorem ofDigits_pushByte {digits : List ℕ} {byte : UInt8} :
    ofDigits 10 (pushByte digits byte) = ofDigits 10 digits * 256 + byte.toNat := by
  rw [pushByte, Nat.ofDigits_append, Nat.ofDigits_digits, length_mulCarry, ofDigits_mulCarry]

/-- Byte by byte, the digits are those of the number so far. -/
theorem ofDigits_pushBytes (bytes : List UInt8) {digits : List ℕ} (hlt : ∀ x ∈ digits, x < 10)
    (hne : digits ≠ []) : (∀ x ∈ bytes.foldl pushByte digits, x < 10) ∧
      bytes.foldl pushByte digits ≠ [] ∧ ofDigits 10 (bytes.foldl pushByte digits) =
        ofDigits 10 digits * 256 ^ bytes.length + ofDigits 256 (bytes.map UInt8.toNat).reverse := by
  induction bytes generalizing digits with
  | nil => exact ⟨hlt, hne, by simp⟩
  | cons byte bytes ih =>
    have hlonger : pushByte digits byte ≠ [] := fun hnil => by
      have hlength := congrArg List.length hnil
      rw [pushByte, List.length_append, length_mulCarry] at hlength
      exact hne (List.length_eq_zero_iff.mp (Nat.eq_zero_of_add_eq_zero hlength).1)
    obtain ⟨hall, hsome, hvalue⟩ := ih pushByte_lt hlonger
    refine ⟨hall, hsome, ?_⟩
    rw [List.foldl_cons, hvalue, ofDigits_pushByte, List.map_cons, Nat.ofDigits_reverse_cons,
      List.length_map, List.length_cons, pow_succ]
    ring

theorem bytesDecimal_repr (bytes : List UInt8) :
    bytesDecimal bytes = (ofDigits 256 (bytes.map UInt8.toNat).reverse).repr := by
  obtain ⟨hlt, hne, hvalue⟩ := @ofDigits_pushBytes bytes [0] (by decide) (by decide)
  have hlt' : ∀ x ∈ (bytes.foldl pushByte [0]).reverse, x < 10 := fun x hx =>
    hlt x (List.mem_reverse.mp hx)
  rw [bytesDecimal, ofList_significant, ofDigitChars_digitChar hlt', List.reverse_reverse, hvalue,
    Nat.mul_zero, Nat.zero_add]
  · simp
  · simpa using hne
  · intro c hc
    obtain ⟨x, hx, rfl⟩ := List.mem_map.mp hc
    exact Nat.isDigit_digitChar.trans (decide_eq_true (hlt' x hx))

theorem u256Decimal_repr (word : TokenEye.U256) : u256Decimal word = word.toNat.repr := by
  rw [u256Decimal, bytesDecimal_repr, TokenEye.U256.toNat, TokenEye.U256.digits, List.map_reverse]

/-! ## Read digits -/

theorem pushDigit_ok {word next : TokenEye.U256} {digit : Char} : pushDigit word digit = .ok next ↔
    next.toNat = word.toNat * 10 + (digit.toNat - '0'.toNat) := by
  rw [pushDigit, okOr_ok, TokenEye.U256.mulAdd_eq_some]

/-- Digit by digit, the word is the number so far. -/
theorem pushDigits_ok (digits : List Char) {word result : TokenEye.U256} :
    digits.foldlM pushDigit word = .ok result ↔
      result.toNat = Nat.ofDigitChars 10 digits word.toNat := by
  induction digits generalizing word with
  | nil =>
    rw [List.foldlM_nil, except_pure_ok, Nat.ofDigitChars_nil]
    exact ⟨fun h => h ▸ rfl, fun h => TokenEye.U256.toNat_injective h.symm⟩
  | cons digit digits ih =>
    rw [List.foldlM_cons, except_bind_ok, Nat.ofDigitChars_cons]
    constructor
    · rintro ⟨next, hnext, hresult⟩
      rw [ih.mp hresult, (pushDigit_ok).mp hnext, Nat.mul_comm]
    · intro hresult
      have hle : 10 * word.toNat + (digit.toNat - '0'.toNat) ≤ result.toNat := by
        rw [hresult, Nat.ofDigitChars_eq_ofDigitChars_zero]
        exact (Nat.le_mul_of_pos_left _ (Nat.pow_pos (by decide))).trans (Nat.le_add_right _ _)
      obtain ⟨next, hnext⟩ := TokenEye.U256.exists_mulAdd
        (hle.trans_lt result.toNat_lt |>.trans_eq' (by rw [Nat.mul_comm]))
      have hvalue := TokenEye.U256.mulAdd_eq_some.mp hnext
      exact ⟨next, (pushDigit_ok).mpr hvalue, ih.mpr (by rw [hresult, hvalue, Nat.mul_comm])⟩

/-- The texts of words are read, and nothing else. -/
theorem decimalU256_iff {value : String} {word : TokenEye.U256} :
    decimalU256 value = .ok word ↔ value = word.toNat.repr := by
  have hzero : zeroWord.toNat = 0 := TokenEye.U256.isZero_iff.mp rfl
  have hread : ∀ n : ℕ, Nat.ofDigitChars 10 n.repr.toList zeroWord.toNat = n := fun n => by
    rw [hzero, Nat.toList_repr, Nat.ofDigitChars_ten_toDigits]
  unfold decimalU256
  rw [except_check_ok, validateUint256_ok, pushDigits_ok]
  constructor
  · rintro ⟨⟨n, -, rfl⟩, hword⟩
    rw [hword, hread]
  · rintro rfl
    exact ⟨⟨_, word.toNat_lt, rfl⟩, (hread _).symm⟩

/-! ## Incremented texts -/

theorem toDigits_succ (n : ℕ) :
    (carryOne (Nat.toDigits 10 n).reverse).reverse = Nat.toDigits 10 (n + 1) := by
  have hnext : ∀ d < 9, d.digitChar ≠ '9' ∧ Char.ofNat (d.digitChar.toNat + 1) =
      (d + 1).digitChar := by decide
  induction n using Nat.strongRecOn with
  | ind n ih =>
    by_cases hn : n < 10
    · rw [Nat.toDigits_of_lt_base hn, List.reverse_singleton, carryOne]
      rcases Nat.lt_or_ge n 9 with h | h
      · rw [if_neg (hnext n h).1, (hnext n h).2, Nat.toDigits_of_lt_base (by omega)]
        rfl
      · obtain rfl : n = 9 := by omega
        rfl
    · have hfront := ih (n / 10) (by omega)
      rw [Nat.toDigits_of_base_le (by decide) (by omega), List.reverse_append,
        List.reverse_singleton, List.singleton_append, carryOne]
      rcases Nat.lt_or_ge (n % 10) 9 with h | h
      · rw [if_neg (hnext _ h).1, (hnext _ h).2, List.reverse_cons, List.reverse_reverse,
          @Nat.toDigits_of_base_le 10 (n + 1) (by decide) (by omega)]
        rw [show (n + 1) / 10 = n / 10 by omega, show (n + 1) % 10 = n % 10 + 1 by omega]
      · rw [show n % 10 = 9 by omega, if_pos (by decide), List.reverse_cons, hfront,
          @Nat.toDigits_of_base_le 10 (n + 1) (by decide) (by omega)]
        rw [show (n + 1) / 10 = n / 10 + 1 by omega, show (n + 1) % 10 = 0 by omega]
        rfl

theorem decimalIncrementText_repr {n : ℕ} (hn : n < 2 ^ 256) : decimalIncrementText n.repr =
    if n + 1 < 2 ^ 256 then .ok (n + 1).repr
    else .error "incremented consent nonce exceeds uint256" := by
  have hincremented : String.ofList (carryOne n.repr.toList.reverse).reverse = (n + 1).repr := by
    rw [Nat.toList_repr, toDigits_succ, Nat.repr_eq_ofList_toDigits]
  unfold decimalIncrementText
  rw [(validateUint256_ok).mpr ⟨n, hn, rfl⟩, hincremented]
  split_ifs with hnext
  · change (do validateUint256 (n + 1).repr "incremented consent nonce"; pure (n + 1).repr) = _
    rw [(validateUint256_ok).mpr ⟨_, hnext, rfl⟩]
    rfl
  · obtain rfl : n = 2 ^ 256 - 1 := by omega
    decide

/-- The texts are exact, and no value on the way is above 16 bits. -/
theorem decimals_exact :
    (∀ bytes, bytesDecimal bytes = (ofDigits 256 (bytes.map UInt8.toNat).reverse).repr) ∧
    (∀ value, (∃ word, decimalU256 value = .ok word) ↔ ∃ n < 2 ^ 256, value = n.repr) ∧
    (∀ value word, decimalU256 value = .ok word ↔ value = u256Decimal word) ∧
    (∀ n < 2 ^ 256, decimalIncrementText n.repr = if n + 1 < 2 ^ 256 then .ok (n + 1).repr
      else .error "incremented consent nonce exceeds uint256") ∧
    (∀ (bytes : List UInt8) (byte : UInt8),
      ∀ value ∈ mulValues 10 256 byte.toNat (bytes.foldl pushByte [0]), value < 2 ^ 16) ∧
    ∀ (word : TokenEye.U256) (digit : Char), digit.isDigit = true →
      ∀ value ∈ mulValues 256 10 (digit.toNat - '0'.toNat) word.digits, value < 2 ^ 16 := by
  refine ⟨bytesDecimal_repr, fun value => ?_, fun value word => ?_,
    fun n hn => decimalIncrementText_repr hn, fun bytes byte value hvalue => ?_,
    fun word digit hdigit value hvalue => ?_⟩
  · constructor
    · rintro ⟨word, hword⟩
      exact ⟨word.toNat, word.toNat_lt, (decimalU256_iff).mp hword⟩
    · rintro ⟨n, hn, rfl⟩
      obtain ⟨word, hword⟩ := @TokenEye.U256.exists_mulAdd zeroWord 0 n (by omega)
      have hvalue : word.toNat = n :=
        (TokenEye.U256.mulAdd_eq_some.mp hword).trans (Nat.zero_add n)
      exact ⟨word, (decimalU256_iff).mpr (by rw [hvalue])⟩
  · rw [decimalU256_iff, u256Decimal_repr]
  · have hlt := (@ofDigits_pushBytes bytes [0] (by decide) (by decide)).1
    exact (mulValues_le hlt byte.toNat_lt.le value hvalue).trans_lt (by decide)
  · have hle := mulValues_le word.digits_lt (digit_value_lt hdigit).le value hvalue
    exact hle.trans_lt (by decide)

end Cthuwu.Offers
