import Mathlib.Data.List.Induction
import Mathlib.Data.Nat.Notation
import Mathlib.Tactic.Common
import Mathlib.Algebra.Order.BigOperators.Group.List
import Mathlib.Algebra.Order.Ring.Nat

/-!
# Texts and bytes

The lowercase hexadecimal digits of a number, as many as are asked for. Numbers that fit are told
apart by their digits (`hexOf_inj`).

How many bytes a text takes in UTF-8 : those of its characters. Numbers in decimal take one byte
a digit, and joined texts take their own bytes and those between them.

Three bytes in four digits. What is written is read back (`base64Decode_encode`).
-/

namespace Cthuwu

/-- The last `n` hexadecimal digits of a number. -/
def hexOf : ℕ → ℕ → List Char
  | 0, _ => []
  | n + 1, value => hexOf n (value / 16) ++ [Nat.digitChar (value % 16)]

theorem length_hexOf (n value : ℕ) : (hexOf n value).length = n := by
  induction n generalizing value with
  | zero => rfl
  | succ n ih => rw [hexOf, List.length_append, ih, List.length_singleton]

theorem digitChar_inj {d e : ℕ} (hd : d < 16) (he : e < 16)
    (h : Nat.digitChar d = Nat.digitChar e) : d = e := by
  have hall : ∀ d : Fin 16, ∀ e : Fin 16, Nat.digitChar d = Nat.digitChar e → d = e := by decide
  exact congrArg Fin.val (hall ⟨d, hd⟩ ⟨e, he⟩ h)

/-- Numbers that fit have different digits. -/
theorem hexOf_inj {n value other : ℕ} (hvalue : value < 16 ^ n) (hother : other < 16 ^ n)
    (h : hexOf n value = hexOf n other) : value = other := by
  induction n generalizing value other with
  | zero =>
    rw [Nat.pow_zero, Nat.lt_one_iff] at hvalue hother
    rw [hvalue, hother]
  | succ n ih =>
    rw [Nat.pow_succ] at hvalue hother
    rw [hexOf, hexOf] at h
    obtain ⟨hfront, hlast⟩ := List.append_inj' h rfl
    have hdiv := ih (Nat.div_lt_of_lt_mul (by omega)) (Nat.div_lt_of_lt_mul (by omega)) hfront
    have hmod := digitChar_inj (Nat.mod_lt _ (by omega)) (Nat.mod_lt _ (by omega))
      (List.singleton_inj.mp hlast)
    omega

/-- What holds of the sixteen digits holds of all digits. -/
theorem of_mem_hexOf {p : Char → Prop} (hp : ∀ d : Fin 16, p (Nat.digitChar d)) {n value : ℕ}
    {c : Char} (h : c ∈ hexOf n value) : p c := by
  induction n generalizing value with
  | zero => exact absurd h List.not_mem_nil
  | succ n ih =>
    rw [hexOf] at h
    rcases List.mem_append.mp h with h | h
    · exact ih h
    · rw [List.mem_singleton.mp h]
      exact hp ⟨value % 16, Nat.mod_lt _ (by omega)⟩

/-! ## Bytes of a text -/

/-- A text is told by its bytes. -/
theorem toUTF8_data_toList_inj {value value' : String} :
    value.toUTF8.data.toList = value'.toUTF8.data.toList ↔ value = value' := by
  refine ⟨fun h => ?_, fun h => h ▸ rfl⟩
  have hbytes : value.toUTF8 = value'.toUTF8 := ByteArray.ext (Array.toList_inj.mp h)
  exact String.toByteArray_inj.mp hbytes

theorem utf8ByteSize_eq_sum (value : String) :
    value.utf8ByteSize = (value.toList.map Char.utf8Size).sum := by
  rw [← String.size_toByteArray, ← String.utf8Encode_toList]
  unfold List.utf8Encode
  rw [List.size_toByteArray, List.length_flatMap]
  simp

/-- Characters of one byte each. -/
theorem utf8ByteSize_ofList {l : List Char} (h : ∀ c ∈ l, c.utf8Size = 1) :
    (String.ofList l).utf8ByteSize = l.length := by
  rw [utf8ByteSize_eq_sum, String.toList_ofList, List.map_congr_left h, List.map_const',
    List.sum_replicate_nat, mul_one]

/-- The digits are one byte each. -/
theorem utf8ByteSize_hexOf (n value : ℕ) : (String.ofList (hexOf n value)).utf8ByteSize = n := by
  rw [utf8ByteSize_ofList fun c hc => of_mem_hexOf (p := fun c => c.utf8Size = 1) (by decide) hc,
    length_hexOf]

/-- Digits are one byte each. -/
theorem utf8ByteSize_digits {value : String} (h : ∀ c ∈ value.toList, c.isDigit = true) :
    value.utf8ByteSize = value.length := by
  have hdigits : ∀ c ∈ value.toList, c.utf8Size = 1 := by
    intro c hc
    have hdigit := h c hc
    simp only [Char.isDigit, Bool.and_eq_true, decide_eq_true_eq, ge_iff_le,
      UInt32.le_iff_toNat_le] at hdigit
    unfold Char.utf8Size
    rw [if_pos]
    rw [UInt32.le_iff_toNat_le]
    exact hdigit.2.trans (by decide)
  rw [← @String.ofList_toList value, utf8ByteSize_ofList hdigits, String.length_ofList]

theorem utf8ByteSize_repr (n : ℕ) : n.repr.utf8ByteSize = n.repr.length :=
  utf8ByteSize_digits fun c hc => by
    rw [Nat.toList_repr] at hc
    exact Nat.isDigit_of_mem_toDigits (by omega) (by omega) hc

/-- A number takes no more bytes than it has digits. -/
theorem utf8ByteSize_repr_le {n k : ℕ} (hk : 0 < k) (h : n < 10 ^ k) : n.repr.utf8ByteSize ≤ k := by
  rw [utf8ByteSize_repr]
  exact (Nat.length_repr_le_iff hk).mpr h

theorem utf8ByteSize_intercalate (l : List String) : (",".intercalate l).utf8ByteSize =
    (l.map String.utf8ByteSize).sum + (l.length - 1) := by
  have hcomma : ("," : String).utf8ByteSize = 1 := by decide
  induction l with
  | nil => rfl
  | cons first l ih =>
    cases l with
    | nil =>
      rw [String.intercalate_singleton]
      simp
    | cons second l =>
      rw [String.intercalate_cons_cons, String.utf8ByteSize_append, String.utf8ByteSize_append,
        ih, hcomma]
      simp only [List.map_cons, List.sum_cons, List.length_cons]
      omega

theorem utf8ByteSize_intercalate_le (separator : String) (l : List String) :
    (separator.intercalate l).utf8ByteSize ≤
      (l.map String.utf8ByteSize).sum + l.length * separator.utf8ByteSize := by
  induction l with
  | nil =>
    rw [String.intercalate_nil]
    simp
  | cons first l ih =>
    cases l with
    | nil =>
      rw [String.intercalate_singleton]
      simp
    | cons second l =>
      rw [String.intercalate_cons_cons, String.utf8ByteSize_append, String.utf8ByteSize_append]
      simp only [List.map_cons, List.sum_cons, List.length_cons, Nat.succ_mul] at ih ⊢
      omega

/-! ## Base64 -/

def base64Alphabet : List Char :=
  "ABCDEFGHIJKLMNOPQRSTUVWXYZabcdefghijklmnopqrstuvwxyz0123456789+/".toList

/-- The digit of the last six bits. -/
def base64Digit (bits : ℕ) : Char :=
  base64Alphabet.getD (bits % 64) '='

def base64Value (c : Char) : Option ℕ :=
  base64Alphabet.idxOf? c

/-- The bits of some bytes, the first one on top. -/
def base64Bits (first second third : UInt8) : ℕ :=
  first.toNat * 65536 + second.toNat * 256 + third.toNat

def base64Encode : List UInt8 → List Char
  | [] => []
  | [first] =>
    let bits := base64Bits first 0 0
    [base64Digit (bits / 262144), base64Digit (bits / 4096), '=', '=']
  | [first, second] =>
    let bits := base64Bits first second 0
    [base64Digit (bits / 262144), base64Digit (bits / 4096), base64Digit (bits / 64), '=']
  | first :: second :: third :: rest =>
    let bits := base64Bits first second third
    base64Digit (bits / 262144) :: base64Digit (bits / 4096) :: base64Digit (bits / 64) ::
      base64Digit bits :: base64Encode rest

/-- Digits in groups of four, of which the last may be padded. Bits that no byte has are dropped. -/
def base64Decode : List Char → Option (List UInt8)
  | [] => some []
  | [a, b, '=', '='] => do
    let a ← base64Value a
    let b ← base64Value b
    return [.ofNat (a * 4 + b / 16)]
  | [a, b, c, '='] => do
    let a ← base64Value a
    let b ← base64Value b
    let c ← base64Value c
    return [.ofNat (a * 4 + b / 16), .ofNat (b * 16 + c / 4)]
  | a :: b :: c :: d :: rest => do
    let a ← base64Value a
    let b ← base64Value b
    let c ← base64Value c
    let d ← base64Value d
    let bytes ← base64Decode rest
    return .ofNat (a * 4 + b / 16) :: .ofNat (b * 16 + c / 4) :: .ofNat (c * 64 + d) :: bytes
  | _ => none

/-! ## Digits -/

theorem base64Alphabet_digits : ∀ d < 64, base64Value (base64Alphabet.getD d '=') = some d ∧
    base64Alphabet.getD d '=' ≠ '=' ∧ (base64Alphabet.getD d '=').utf8Size = 1 := by
  decide +kernel

theorem base64Value_digit (bits : ℕ) : base64Value (base64Digit bits) = some (bits % 64) :=
  (base64Alphabet_digits _ (Nat.mod_lt _ (by decide))).1

theorem base64Digit_ne (bits : ℕ) : base64Digit bits ≠ '=' :=
  (base64Alphabet_digits _ (Nat.mod_lt _ (by decide))).2.1

theorem base64Digit_utf8Size (bits : ℕ) : (base64Digit bits).utf8Size = 1 :=
  (base64Alphabet_digits _ (Nat.mod_lt _ (by decide))).2.2

theorem ofNat_eq_of_mod {n : ℕ} {b : UInt8} (h : n % 256 = b.toNat) : .ofNat n = b := by
  rw [← UInt8.toNat_inj, UInt8.toNat_ofNat']
  exact h

theorem base64Decode_encode (bytes : List UInt8) :
    base64Decode (base64Encode bytes) = some bytes := by
  fun_induction base64Encode bytes with
  | case1 => rfl
  | case2 first bits =>
    have hfirst := first.toNat_lt
    have hbits : bits = first.toNat * 65536 := by simp [bits, base64Bits]
    rw [base64Decode, base64Value_digit, base64Value_digit]
    simp only [Option.bind_eq_bind, Option.bind_some, Option.pure_def]
    rw [ofNat_eq_of_mod (b := first) (by omega)]
  | case3 first second bits =>
    have hfirst := first.toNat_lt
    have hsecond := second.toNat_lt
    have hbits : bits = first.toNat * 65536 + second.toNat * 256 := by simp [bits, base64Bits]
    rw [base64Decode.eq_3 _ _ _ (fun h => base64Digit_ne _ h), base64Value_digit,
      base64Value_digit, base64Value_digit]
    simp only [Option.bind_eq_bind, Option.bind_some, Option.pure_def]
    rw [ofNat_eq_of_mod (b := first) (by omega), ofNat_eq_of_mod (b := second) (by omega)]
  | case4 first second third rest bits ih =>
    have hfirst := first.toNat_lt
    have hsecond := second.toNat_lt
    have hthird := third.toNat_lt
    have hbits : bits = first.toNat * 65536 + second.toNat * 256 + third.toNat := rfl
    rw [base64Decode.eq_4, base64Value_digit, base64Value_digit, base64Value_digit,
      base64Value_digit, ih]
    · simp only [Option.bind_eq_bind, Option.bind_some, Option.pure_def]
      rw [ofNat_eq_of_mod (b := first) (by omega), ofNat_eq_of_mod (b := second) (by omega),
        ofNat_eq_of_mod (b := third) (by omega)]
    · exact fun _ h _ => base64Digit_ne _ h
    · exact fun h _ => base64Digit_ne _ h

theorem base64Encode_length (bytes : List UInt8) :
    (base64Encode bytes).length = (bytes.length + 2) / 3 * 4 := by
  fun_induction base64Encode bytes with
  | case1 => rfl
  | case2 | case3 => simp
  | case4 first second third rest bits ih =>
    simp only [List.length_cons, ih]
    omega

theorem base64Encode_utf8Size {bytes : List UInt8} : ∀ c ∈ base64Encode bytes, c.utf8Size = 1 := by
  have hpad : Char.utf8Size '=' = 1 := by decide
  fun_induction base64Encode bytes with
  | case1 => simp
  | case2 | case3 => simp [base64Digit_utf8Size, hpad]
  | case4 first second third rest bits ih =>
    simpa [base64Digit_utf8Size] using ih

end Cthuwu
