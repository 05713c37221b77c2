import Cthuwu.Council.Text

/-!
# Ethereum addresses

An address is twenty bytes. It is written `0x` and forty lowercase digits, and read in either case
of the digits.
-/

namespace Cthuwu.TokenEye

open Council

abbrev Address := BitVec 160

instance : LawfulBEq Address := inferInstance

def addressStart : String := "0x"

def addressDigits (address : Address) : List Char :=
  hexOf 40 address.toNat

/-- `Address` as it is displayed. -/
def addressText (address : Address) : String :=
  addressStart ++ String.ofList (addressDigits address)

def decodeHexNibble (c : Char) : Option ℕ :=
  if '0' ≤ c ∧ c ≤ '9' then some (c.toNat - '0'.toNat)
  else if 'a' ≤ c ∧ c ≤ 'f' then some (c.toNat - 'a'.toNat + 10)
  else if 'A' ≤ c ∧ c ≤ 'F' then some (c.toNat - 'A'.toNat + 10)
  else none

/-- `Address::from_str`. -/
def parseAddress (value : String) : Option Address :=
  match value.toList with
  | '0' :: 'x' :: encoded =>
    if encoded.length = 40 then
      (encoded.mapM decodeHexNibble).map fun digits =>
        BitVec.ofNat 160 (digits.foldl (fun n digit => 16 * n + digit) 0)
    else none
  | _ => none

theorem addressDigits_inj {a b : Address} (h : addressDigits a = addressDigits b) : a = b :=
  BitVec.eq_of_toNat_eq (hexOf_inj (n := 40) (lt_of_lt_of_eq a.isLt (by decide))
    (lt_of_lt_of_eq b.isLt (by decide)) h)

theorem length_addressDigits (address : Address) : (addressDigits address).length = 40 :=
  length_hexOf 40 _

/-- The digits of an address are one byte each. -/
theorem utf8Size_of_mem_addressDigits {address : Address} {c : Char}
    (h : c ∈ addressDigits address) : c.utf8Size = 1 :=
  of_mem_hexOf (p := fun c => c.utf8Size = 1) (by decide) h

theorem addressText_size (address : Address) : (addressText address).utf8ByteSize = 42 := by
  have hstart : addressStart.utf8ByteSize = 2 := by decide
  rw [addressText, String.utf8ByteSize_append, addressDigits, utf8ByteSize_hexOf, hstart]

/-- The number that some digits write, read from the left. -/
def digitsValue (digits : List ℕ) : ℕ :=
  digits.foldl (fun n digit => 16 * n + digit) 0

theorem mapM_hexOf {n value : ℕ} (h : value < 16 ^ n) :
    ∃ digits, (hexOf n value).mapM decodeHexNibble = some digits ∧ digitsValue digits = value := by
  have hdigit : ∀ d : Fin 16, decodeHexNibble (Nat.digitChar d) = some d := by decide
  induction n generalizing value with
  | zero =>
    rw [Nat.pow_zero, Nat.lt_one_iff] at h
    exact ⟨[], rfl, h.symm⟩
  | succ n ih =>
    rw [Nat.pow_succ] at h
    obtain ⟨digits, hdigits, hvalue⟩ := @ih (value / 16) (Nat.div_lt_of_lt_mul (by omega))
    have hlast := hdigit ⟨value % 16, Nat.mod_lt _ (by omega)⟩
    refine ⟨digits ++ [value % 16], ?_, ?_⟩
    · rw [hexOf, List.mapM_append, hdigits]
      simp [hlast]
    · unfold digitsValue at hvalue ⊢
      rw [List.foldl_append, hvalue]
      exact Nat.div_add_mod value 16

theorem parseAddress_addressText (address : Address) :
    parseAddress (addressText address) = some address := by
  have hbound : address.toNat < 16 ^ 40 := lt_of_lt_of_eq address.isLt (by decide)
  obtain ⟨digits, hdigits, hvalue⟩ := mapM_hexOf hbound
  have htext : (addressText address).toList = '0' :: 'x' :: addressDigits address := by
    unfold addressText
    have hstart : addressStart.toList = ['0', 'x'] := rfl
    rw [String.toList_append, String.toList_ofList, hstart, List.cons_append, List.singleton_append]
  unfold parseAddress
  rw [htext]
  change (if (addressDigits address).length = 40 then _ else none) = _
  rw [if_pos (length_addressDigits address), addressDigits, hdigits, Option.map_some]
  refine congrArg some (BitVec.eq_of_toNat_eq ?_)
  rw [BitVec.toNat_ofNat]
  change digitsValue digits % 2 ^ 160 = address.toNat
  rw [hvalue, Nat.mod_eq_of_lt address.isLt]

end Cthuwu.TokenEye
