import Mathlib.Data.Nat.Digits.Lemmas
import Mathlib.Tactic.Ring

/-!
# Arithmetic on digits

A number as its digits in a base, multiplied and incremented from its least digit and divided from
its greatest one. What is carried out of the last digit is what does not fit
(`ofDigits_mulCarry`), and a division leaves a remainder below the divisor (`ofDigits_divRem`).
Digits of one length are ordered as their numbers, the greatest digit first.
-/

namespace Cthuwu

open Nat (ofDigits)

variable {b m d carry rest : ℕ} {l l' : List ℕ}

/-! ## From the least digit -/

/-- The digits of a product, and what is carried out of them. -/
def mulCarry (b m : ℕ) : ℕ → List ℕ → List ℕ × ℕ
  | carry, [] => ([], carry)
  | carry, x :: l =>
    let value := x * m + carry
    let (product, carry) := mulCarry b m (value / b) l
    (value % b :: product, carry)

theorem length_mulCarry : (mulCarry b m carry l).1.length = l.length := by
  induction l generalizing carry with
  | nil => rfl
  | cons x l ih => exact congrArg Nat.succ ih

theorem mulCarry_lt (hb : 0 < b) : ∀ x ∈ (mulCarry b m carry l).1, x < b := by
  induction l generalizing carry with
  | nil => exact fun x hx => absurd hx List.not_mem_nil
  | cons x l ih => exact List.forall_mem_cons.mpr ⟨Nat.mod_lt _ hb, ih⟩

theorem ofDigits_mulCarry : ofDigits b (mulCarry b m carry l).1 +
    b ^ l.length * (mulCarry b m carry l).2 = ofDigits b l * m + carry := by
  induction l generalizing carry with
  | nil => simp [mulCarry]
  | cons x l ih =>
    have hrest := @ih ((x * m + carry) / b)
    have hvalue := Nat.mod_add_div (x * m + carry) b
    simp only [mulCarry, Nat.ofDigits_cons, List.length_cons, pow_succ]
    calc (x * m + carry) % b + b * ofDigits b (mulCarry b m ((x * m + carry) / b) l).1 +
          b ^ l.length * b * (mulCarry b m ((x * m + carry) / b) l).2
        = (x * m + carry) % b + b * (ofDigits b (mulCarry b m ((x * m + carry) / b) l).1 +
          b ^ l.length * (mulCarry b m ((x * m + carry) / b) l).2) := by ring
      _ = (x * m + carry) % b + b * ((x * m + carry) / b) + b * (ofDigits b l * m) := by
        rw [hrest]; ring
      _ = (x + b * ofDigits b l) * m + carry := by rw [hvalue]; ring

/-- The values that are formed on the way. -/
def mulValues (b m : ℕ) : ℕ → List ℕ → List ℕ
  | _, [] => []
  | carry, x :: l => (x * m + carry) :: mulValues b m ((x * m + carry) / b) l

/-- They do not exceed the product of the base and the factor. -/
theorem mulValues_le (hl : ∀ x ∈ l, x < b) (hcarry : carry ≤ m) :
    ∀ value ∈ mulValues b m carry l, value ≤ b * m := by
  induction l generalizing carry with
  | nil => exact fun value h => absurd h List.not_mem_nil
  | cons x l ih =>
    rw [List.forall_mem_cons] at hl
    have hvalue : x * m + carry ≤ b * m := by
      have hstep : (x + 1) * m ≤ b * m := Nat.mul_le_mul_right m hl.1
      rw [Nat.succ_mul] at hstep
      omega
    exact List.forall_mem_cons.mpr ⟨hvalue, ih hl.2 (Nat.div_le_of_le_mul hvalue)⟩

/-- The digits of the next number, unless it has more of them. -/
def increment (b : ℕ) : List ℕ → Option (List ℕ)
  | [] => none
  | x :: l => if x + 1 < b then some ((x + 1) :: l) else (increment b l).map (0 :: ·)

theorem length_increment (h : increment b l = some l') : l'.length = l.length := by
  induction l generalizing l' with
  | nil => cases h
  | cons x l ih =>
    rw [increment] at h
    split_ifs at h
    · rw [← Option.some.inj h]
      rfl
    · obtain ⟨t, ht, rfl⟩ := Option.map_eq_some_iff.mp h
      rw [List.length_cons, ih ht, List.length_cons]

theorem increment_lt (hb : 0 < b) (hl : ∀ x ∈ l, x < b) (h : increment b l = some l') :
    ∀ x ∈ l', x < b := by
  induction l generalizing l' with
  | nil => cases h
  | cons x l ih =>
    rw [List.forall_mem_cons] at hl
    rw [increment] at h
    split_ifs at h with hx
    · rw [← Option.some.inj h]
      exact List.forall_mem_cons.mpr ⟨hx, hl.2⟩
    · obtain ⟨t, ht, rfl⟩ := Option.map_eq_some_iff.mp h
      exact List.forall_mem_cons.mpr ⟨hb, ih hl.2 ht⟩

theorem ofDigits_increment (hl : ∀ x ∈ l, x < b) (h : increment b l = some l') :
    ofDigits b l' = ofDigits b l + 1 := by
  induction l generalizing l' with
  | nil => cases h
  | cons x l ih =>
    rw [List.forall_mem_cons] at hl
    rw [increment] at h
    split_ifs at h with hx
    · rw [← Option.some.inj h, Nat.ofDigits_cons, Nat.ofDigits_cons]
      ring
    · obtain ⟨t, ht, rfl⟩ := Option.map_eq_some_iff.mp h
      have hlast : x + 1 = b := by omega
      calc ofDigits b (0 :: t) = b * (ofDigits b l + 1) := by
            rw [Nat.ofDigits_cons, ih hl.2 ht, zero_add]
        _ = x + b * ofDigits b l + 1 := by rw [Nat.mul_succ, ← hlast]; ring
        _ = ofDigits b (x :: l) + 1 := by rw [Nat.ofDigits_cons]

/-- A number without a next one of as many digits is the last. -/
theorem ofDigits_of_increment_none (hl : ∀ x ∈ l, x < b) (h : increment b l = none) :
    ofDigits b l + 1 = b ^ l.length := by
  induction l with
  | nil => rfl
  | cons x l ih =>
    rw [List.forall_mem_cons] at hl
    rw [increment] at h
    split_ifs at h with hx
    rw [Option.map_eq_none_iff] at h
    have hlast : x + 1 = b := by omega
    calc ofDigits b (x :: l) + 1 = (x + 1) + b * ofDigits b l := by
          rw [Nat.ofDigits_cons]; ring
      _ = b * (ofDigits b l + 1) := by rw [hlast]; ring
      _ = b ^ (x :: l).length := by rw [ih hl.2 h, List.length_cons, pow_succ']

/-! ## From the greatest digit -/

/-- The digits of a quotient, and the remainder. -/
def divRem (b d : ℕ) : ℕ → List ℕ → List ℕ × ℕ
  | rest, [] => ([], rest)
  | rest, x :: l =>
    let dividend := rest * b + x
    let (quotient, rest) := divRem b d (dividend % d) l
    (dividend / d :: quotient, rest)

theorem length_divRem : (divRem b d rest l).1.length = l.length := by
  induction l generalizing rest with
  | nil => rfl
  | cons x l ih => exact congrArg Nat.succ ih

/-- The digits of the quotient are digits. -/
theorem divRem_lt (hd : 0 < d) (hl : ∀ x ∈ l, x < b) (hrest : rest < d) :
    ∀ x ∈ (divRem b d rest l).1, x < b := by
  induction l generalizing rest with
  | nil => exact fun x hx => absurd hx List.not_mem_nil
  | cons x l ih =>
    rw [List.forall_mem_cons] at hl
    refine List.forall_mem_cons.mpr ⟨?_, ih hl.2 (Nat.mod_lt _ hd)⟩
    rw [Nat.div_lt_iff_lt_mul hd]
    calc rest * b + x < rest * b + b := Nat.add_lt_add_left hl.1 _
      _ = (rest + 1) * b := (Nat.succ_mul rest b).symm
      _ ≤ d * b := Nat.mul_le_mul_right b hrest
      _ = b * d := Nat.mul_comm d b

theorem divRem_rest_lt (hd : 0 < d) (hrest : rest < d) : (divRem b d rest l).2 < d := by
  induction l generalizing rest with
  | nil => exact hrest
  | cons x l ih => exact ih (Nat.mod_lt _ hd)

theorem ofDigits_divRem : ofDigits b (divRem b d rest l).1.reverse * d + (divRem b d rest l).2 =
    rest * b ^ l.length + ofDigits b l.reverse := by
  induction l generalizing rest with
  | nil => simp [divRem]
  | cons x l ih =>
    have htail := @ih ((rest * b + x) % d)
    have hvalue := Nat.mod_add_div (rest * b + x) d
    have hlength : (divRem b d ((rest * b + x) % d) l).1.length = l.length := length_divRem
    simp only [divRem, Nat.ofDigits_reverse_cons, List.length_cons, pow_succ, hlength]
    calc (ofDigits b (divRem b d ((rest * b + x) % d) l).1.reverse +
          b ^ l.length * ((rest * b + x) / d)) * d + (divRem b d ((rest * b + x) % d) l).2
        = (ofDigits b (divRem b d ((rest * b + x) % d) l).1.reverse * d +
          (divRem b d ((rest * b + x) % d) l).2) + b ^ l.length * (d * ((rest * b + x) / d)) := by
          ring
      _ = ofDigits b l.reverse +
          b ^ l.length * ((rest * b + x) % d + d * ((rest * b + x) / d)) := by rw [htail]; ring
      _ = rest * (b ^ l.length * b) + (ofDigits b l.reverse + b ^ l.length * x) := by
        rw [hvalue]; ring

/-- The values that are formed on the way. -/
def divValues (b d : ℕ) : ℕ → List ℕ → List ℕ
  | _, [] => []
  | rest, x :: l => (rest * b + x) :: divValues b d ((rest * b + x) % d) l

/-- They stay below the product of the base and the divisor. -/
theorem divValues_lt (hl : ∀ x ∈ l, x < b) (hrest : rest < d) :
    ∀ value ∈ divValues b d rest l, value < b * d := by
  induction l generalizing rest with
  | nil => exact fun value h => absurd h List.not_mem_nil
  | cons x l ih =>
    rw [List.forall_mem_cons] at hl
    have hvalue : rest * b + x < b * d := by
      have hstep : (rest + 1) * b ≤ d * b := Nat.mul_le_mul_right b hrest
      rw [Nat.succ_mul, Nat.mul_comm d b] at hstep
      omega
    exact List.forall_mem_cons.mpr ⟨hvalue, ih hl.2 (Nat.mod_lt _ (Nat.zero_lt_of_lt hrest))⟩

/-- Digits, the greatest first, are ordered as their numbers. -/
theorem lt_iff_ofDigits_lt (hlength : l.length = l'.length) (hl : ∀ x ∈ l, x < b)
    (hl' : ∀ x ∈ l', x < b) : l < l' ↔ ofDigits b l.reverse < ofDigits b l'.reverse := by
  induction l generalizing l' with
  | nil =>
    rw [List.length_eq_zero_iff.mp hlength.symm]
    simp
  | cons x l ih =>
    cases l' with
    | nil => cases hlength
    | cons y l' =>
      rw [List.forall_mem_cons] at hl hl'
      have hlength' : l.length = l'.length := Nat.succ.inj hlength
      have hb : 0 < b := Nat.zero_lt_of_lt hl.1
      have hbound : ∀ {t : List ℕ}, (∀ z ∈ t, z < b) → ofDigits b t.reverse < b ^ t.length := by
        intro t ht
        rcases Nat.lt_or_ge 1 b with h1 | h1
        · have hlt := Nat.ofDigits_lt_base_pow_length h1 fun z hz =>
            ht z (List.mem_reverse.mp hz)
          rwa [List.length_reverse] at hlt
        · obtain rfl : b = 1 := by omega
          rw [Nat.ofDigits_one, one_pow, List.sum_reverse]
          have hzero : t.sum = 0 := List.sum_eq_zero fun z hz => by
            have := ht z hz
            omega
          omega
      have hsmall := hbound hl.2
      have hsmall' := hbound hl'.2
      rw [List.cons_lt_cons_iff, ih hlength' hl.2 hl'.2, Nat.ofDigits_reverse_cons,
        Nat.ofDigits_reverse_cons, hlength']
      rw [hlength'] at hsmall
      rcases Nat.lt_trichotomy x y with hlt | rfl | hgt
      · have hstep : b ^ l'.length * (x + 1) ≤ b ^ l'.length * y := Nat.mul_le_mul_left _ hlt
        rw [Nat.mul_succ] at hstep
        exact iff_of_true (.inl hlt) (by omega)
      · simp
      · have hstep : b ^ l'.length * (y + 1) ≤ b ^ l'.length * x := Nat.mul_le_mul_left _ hgt
        rw [Nat.mul_succ] at hstep
        refine iff_of_false ?_ (by omega)
        rintro (h | ⟨h, -⟩) <;> omega

end Cthuwu
