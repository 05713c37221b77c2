import Mathlib.Algebra.Order.BigOperators.Group.List
import Mathlib.Algebra.Order.Ring.Nat
import Cthuwu.Lib.Digits

/-!
# Words of thirty-two bytes

An unsigned 256-bit integer as the runtime keeps it : an array of bytes, the greatest first. Its
loops over the bytes compute with the number (`checkedMulU64_eq_some`, `toNat_divSmall`,
`addOne_eq_some`), and its derived order is the one of the numbers (`lt_iff`).
-/

namespace Cthuwu.TokenEye

/-- `U256`, in big-endian byte order. -/
@[ext] structure U256 where
  bytes : List UInt8
  size : bytes.length = 32
  deriving DecidableEq

namespace U256

variable {a r : U256} {m d c : ℕ}

/-- The bytes as numbers, the least first. -/
def digits (a : U256) : List ℕ :=
  a.bytes.reverse.map UInt8.toNat

def toNat (a : U256) : ℕ :=
  Nat.ofDigits 256 a.digits

/-- The word of some bytes, the least first. -/
def ofLeast (l : List ℕ) (h : l.length = 32) : U256 where
  bytes := (l.map UInt8.ofNat).reverse
  size := by rw [List.length_reverse, List.length_map, h]

/-! ## Operations -/

def isZero (a : U256) : Bool :=
  a.bytes.all (· = 0)

/-- The derived order, byte by byte. -/
instance : LT U256 :=
  ⟨fun a b => a.bytes.map UInt8.toNat < b.bytes.map UInt8.toNat⟩

instance {a b : U256} : Decidable (a < b) :=
  inferInstanceAs (Decidable (a.bytes.map UInt8.toNat < b.bytes.map UInt8.toNat))

theorem length_digits : a.digits.length = 32 := by
  rw [digits, List.length_map, List.length_reverse, a.size]

/-- The product with something added, from the least byte. -/
def mulAdd (a : U256) (multiplier added : ℕ) : Option U256 :=
  if (mulCarry 256 multiplier added a.digits).2 = 0 then
    some (ofLeast (mulCarry 256 multiplier added a.digits).1
      (by rw [length_mulCarry, length_digits]))
  else none

def checkedMulU64 (a : U256) (multiplier : ℕ) : Option U256 :=
  if (mulCarry 256 multiplier 0 a.digits).2 = 0 then
    some (ofLeast (mulCarry 256 multiplier 0 a.digits).1 (by rw [length_mulCarry, length_digits]))
  else none

def divSmall (a : U256) (divisor : ℕ) : U256 :=
  ofLeast (divRem 256 divisor 0 a.digits.reverse).1.reverse
    (by rw [List.length_reverse, length_divRem, List.length_reverse, length_digits])

def checkedMulBasisPoints (a : U256) (basisPoints : ℕ) : Option U256 :=
  (a.checkedMulU64 basisPoints).map fun product => product.divSmall 10000

/-- `add_one`, which stops at the first byte without a carry. -/
def addOne (a : U256) : Option U256 :=
  match h : increment 256 a.digits with
  | some l => some (ofLeast l (by rw [length_increment h, length_digits]))
  | none => none

/-! ## Numbers -/

theorem digits_lt : ∀ x ∈ a.digits, x < 256 := fun x hx => by
  obtain ⟨byte, -, rfl⟩ := List.mem_map.mp hx
  exact byte.toNat_lt

theorem toNat_lt (a : U256) : a.toNat < 2 ^ 256 := by
  have h := Nat.ofDigits_lt_base_pow_length (b := 256) (by omega) (a.digits_lt)
  rw [length_digits] at h
  exact h.trans_eq (by norm_num)

theorem digits_ofLeast {l : List ℕ} {h : l.length = 32} (hl : ∀ x ∈ l, x < 256) :
    (ofLeast l h).digits = l := by
  rw [digits, ofLeast, List.reverse_reverse, List.map_map, List.map_congr_left (g := id), List.map_id]
  exact fun x hx => Nat.mod_eq_of_lt (hl x hx)

theorem toNat_ofLeast {l : List ℕ} {h : l.length = 32} (hl : ∀ x ∈ l, x < 256) :
    (ofLeast l h).toNat = Nat.ofDigits 256 l := by
  rw [toNat, digits_ofLeast hl]

theorem toNat_injective (h : a.toNat = r.toNat) : a = r := by
  have hdigits : a.digits = r.digits :=
    Nat.ofDigits_inj_of_len_eq (by omega) ((length_digits).trans (length_digits).symm) a.digits_lt
      r.digits_lt h
  have hbytes := List.map_injective_iff.mpr (fun _ _ => UInt8.toNat_inj.mp) hdigits
  exact U256.ext (List.reverse_injective hbytes)

theorem lt_iff : a < r ↔ a.toNat < r.toNat := by
  have hreverse : ∀ x : U256, (x.bytes.map UInt8.toNat).reverse = x.digits := fun x =>
    List.map_reverse.symm
  have hlt : ∀ x : U256, ∀ y ∈ x.bytes.map UInt8.toNat, y < 256 := fun x y hy => by
    obtain ⟨byte, -, rfl⟩ := List.mem_map.mp hy
    exact byte.toNat_lt
  refine (lt_iff_ofDigits_lt ?_ (hlt a) (hlt r)).trans ?_
  · rw [List.length_map, List.length_map, a.size, r.size]
  · rw [hreverse, hreverse]
    rfl

theorem isZero_iff : a.isZero = true ↔ a.toNat = 0 := by
  rw [isZero, List.all_eq_true]
  constructor
  · intro h
    have hdigits : a.digits = List.replicate 32 0 := by
      refine List.eq_replicate_iff.mpr ⟨length_digits, fun x hx => ?_⟩
      obtain ⟨byte, hbyte, rfl⟩ := List.mem_map.mp hx
      rw [of_decide_eq_true (h byte (List.mem_reverse.mp hbyte))]
      rfl
    rw [toNat, hdigits, Nat.ofDigits_replicate_zero]
  · intro h byte hbyte
    have hsum : a.digits.sum ≤ a.toNat := Nat.sum_le_ofDigits _ (by omega)
    have hmem : byte.toNat ∈ a.digits := List.mem_map_of_mem (List.mem_reverse.mpr hbyte)
    have hle : byte.toNat ≤ a.digits.sum :=
      List.single_le_sum (fun _ _ => Nat.zero_le _) _ hmem
    have hzero : byte.toNat = (0 : UInt8).toNat :=
      Nat.le_zero.mp (hle.trans (hsum.trans_eq h))
    exact decide_eq_true (UInt8.toNat_inj.mp hzero)

/-! ## What the loops compute -/

theorem mulAdd_eq_some : a.mulAdd m c = some r ↔ r.toNat = a.toNat * m + c := by
  have hvalue := @ofDigits_mulCarry 256 m c a.digits
  have hlt := @mulCarry_lt 256 m c a.digits (by omega)
  rw [length_digits] at hvalue
  unfold mulAdd
  split_ifs with hcarry
  · rw [hcarry, Nat.mul_zero, Nat.add_zero] at hvalue
    rw [Option.some.injEq]
    constructor
    · rintro rfl
      rw [toNat_ofLeast hlt, hvalue, toNat]
    · intro h
      refine toNat_injective ?_
      rw [toNat_ofLeast hlt, hvalue, h, toNat]
  · refine iff_of_false nofun fun h => hcarry ?_
    have hr := r.toNat_lt
    rw [h, toNat, ← hvalue] at hr
    by_contra hpos
    have hmore : 256 ^ 32 * 1 ≤ 256 ^ 32 * (mulCarry 256 m c a.digits).2 :=
      Nat.mul_le_mul_left _ (Nat.pos_of_ne_zero hpos)
    have hpow : (2 : ℕ) ^ 256 = 256 ^ 32 := by norm_num
    omega

theorem mulAdd_eq_none : a.mulAdd m c = none ↔ 2 ^ 256 ≤ a.toNat * m + c := by
  have hvalue := @ofDigits_mulCarry 256 m c a.digits
  rw [length_digits] at hvalue
  constructor
  · intro h
    have hcarry : (mulCarry 256 m c a.digits).2 ≠ 0 := fun hzero => by
      rw [mulAdd, if_pos hzero] at h
      cases h
    have hmore : 256 ^ 32 * 1 ≤ 256 ^ 32 * (mulCarry 256 m c a.digits).2 :=
      Nat.mul_le_mul_left _ (Nat.pos_of_ne_zero hcarry)
    have hpow : (2 : ℕ) ^ 256 = 256 ^ 32 := by norm_num
    rw [toNat, ← hvalue]
    omega
  · intro h
    by_contra hsome
    obtain ⟨r, hr⟩ := Option.ne_none_iff_exists'.mp hsome
    have hlt := r.toNat_lt
    rw [(mulAdd_eq_some).mp hr] at hlt
    omega

theorem exists_mulAdd (h : a.toNat * m + c < 2 ^ 256) : ∃ r, a.mulAdd m c = some r :=
  Option.ne_none_iff_exists'.mp fun hnone => absurd ((mulAdd_eq_none).mp hnone) (Nat.not_le.mpr h)

theorem checkedMulU64_eq_some : a.checkedMulU64 m = some r ↔ r.toNat = a.toNat * m :=
  mulAdd_eq_some

theorem checkedMulU64_eq_none : a.checkedMulU64 m = none ↔ 2 ^ 256 ≤ a.toNat * m :=
  mulAdd_eq_none

theorem toNat_divSmall (hd : 0 < d) : (a.divSmall d).toNat = a.toNat / d := by
  have hlt : ∀ x ∈ a.digits.reverse, x < 256 := fun x hx => a.digits_lt x (List.mem_reverse.mp hx)
  have hquotient := divRem_lt hd hlt hd
  have hrest := divRem_rest_lt (b := 256) (l := a.digits.reverse) hd hd
  have hvalue := @ofDigits_divRem 256 d 0 a.digits.reverse
  rw [List.reverse_reverse, Nat.zero_mul, Nat.zero_add] at hvalue
  rw [divSmall, toNat_ofLeast fun x hx => hquotient x (List.mem_reverse.mp hx), toNat, ← hvalue,
    Nat.mul_comm, Nat.mul_add_div hd, Nat.div_eq_of_lt hrest, Nat.add_zero]

theorem addOne_eq_some : a.addOne = some r ↔ r.toNat = a.toNat + 1 := by
  unfold addOne
  split
  · next l hl =>
    have hlt := increment_lt (by omega) a.digits_lt hl
    have hvalue := ofDigits_increment a.digits_lt hl
    rw [Option.some.injEq]
    constructor
    · rintro rfl
      rw [toNat_ofLeast hlt, hvalue, toNat]
    · intro h
      refine toNat_injective ?_
      rw [toNat_ofLeast hlt, hvalue, h, toNat]
  · next hnone =>
    have hlast := ofDigits_of_increment_none a.digits_lt hnone
    rw [length_digits] at hlast
    refine iff_of_false nofun fun h => ?_
    have hr := r.toNat_lt
    rw [h, toNat, hlast] at hr
    exact absurd hr (by norm_num)

theorem addOne_eq_none : a.addOne = none ↔ a.toNat + 1 = 2 ^ 256 := by
  constructor
  · intro h
    unfold addOne at h
    split at h
    · cases h
    · next hnone =>
      have hlast := ofDigits_of_increment_none a.digits_lt hnone
      rw [length_digits] at hlast
      rw [toNat, hlast]
      norm_num
  · intro h
    by_contra hsome
    obtain ⟨r, hr⟩ := Option.ne_none_iff_exists'.mp hsome
    have hlt := r.toNat_lt
    rw [(addOne_eq_some).mp hr] at hlt
    omega

end U256

end Cthuwu.TokenEye
