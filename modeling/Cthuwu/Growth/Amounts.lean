import Mathlib.Data.Nat.Digits.Lemmas
import Cthuwu.Growth.Valid
import Cthuwu.Growth.Runtime
import Cthuwu.Lib.Decimal

/-!
# Amounts

Amounts are decimal texts, added and subtracted digit by digit from the last one. On the texts of
numbers these loops compute with the numbers, however long the texts are (`decimalAdd_repr`,
`decimalShortfall_repr`), and no digit is cut off (`differences_digit`). So what is told as paid is
the sum of the confirmed rewards, and a result is accepted only with the exact shortfalls.
-/

namespace Cthuwu.Growth

open Council
open Nat (ofDigits)

/-! ## The digits of a number -/

theorem digitOf_digitChar {d : ℕ} (h : d < 10) : digitOf (Nat.digitChar d) = d := by
  have hall : ∀ d < 10, digitOf (Nat.digitChar d) = d := by decide
  exact hall d h

theorem toDigits_reverse {n : ℕ} (h : 0 < n) :
    (Nat.toDigits 10 n).reverse = (Nat.digits 10 n).map Nat.digitChar := by
  induction n using Nat.strongRecOn with
  | ind n ih =>
    rw [Nat.digits_def' (by decide) h, List.map_cons]
    by_cases hn : n < 10
    · rw [Nat.toDigits_of_lt_base hn, Nat.mod_eq_of_lt hn, Nat.div_eq_of_lt hn]
      rfl
    · rw [Nat.toDigits_of_base_le (by decide) (by omega), List.reverse_append,
        ih (n / 10) (by omega) (by omega)]
      rfl

/-- The digits of a positive number, the last one first. -/
theorem digitOf_repr {n : ℕ} (h : 0 < n) :
    n.repr.toList.reverse.map digitOf = Nat.digits 10 n := by
  rw [Nat.toList_repr, toDigits_reverse h, List.map_map]
  refine (List.map_congr_left fun d hd => ?_).trans (List.map_id _)
  exact digitOf_digitChar (Nat.digits_lt_base (by decide) hd)

theorem ofDigits_digitOf (digits : List Char) :
    ofDigits 10 (digits.map digitOf) = Nat.ofDigitChars 10 digits.reverse 0 := by
  induction digits with
  | nil => rfl
  | cons c digits ih =>
    rw [List.map_cons, Nat.ofDigits_cons, ih, List.reverse_cons, Nat.ofDigitChars_append,
      Nat.ofDigitChars_cons, Nat.ofDigitChars_nil, Nat.add_comm]
    rfl

/-! ## Sums -/

theorem addDigits_digits {a b carry : ℕ} (hcarry : carry ≤ 1) :
    addDigits (Nat.digits 10 a) (Nat.digits 10 b) carry =
      (Nat.digits 10 (a + b + carry)).map Nat.digitChar := by
  induction hn : a + b using Nat.strongRecOn generalizing a b carry with
  | ind n ih =>
    rcases Nat.eq_zero_or_pos n with rfl | hpos
    · obtain ⟨rfl, rfl⟩ := Nat.add_eq_zero_iff.mp hn
      rcases Nat.le_one_iff_eq_zero_or_eq_one.mp hcarry with rfl | rfl
      · simp [addDigits]
      · simp [addDigits]
    rw [Nat.digits_def' (by decide) (by omega : 0 < n + carry), List.map_cons]
    rcases Nat.eq_zero_or_pos a with rfl | ha
    · have hrest := @ih (b / 10) (by omega) 0 (b / 10) ((b % 10 + carry) / 10) (by omega) (by omega)
      have hdigit : (b % 10 + carry) % 10 = (n + carry) % 10 := by omega
      have hnext : b / 10 + (b % 10 + carry) / 10 = (n + carry) / 10 := by omega
      rw [Nat.digits_zero, hnext] at hrest
      rw [Nat.digits_zero, Nat.digits_def' (n := b) (by decide) (by omega), addDigits, hrest, hdigit]
    rcases Nat.eq_zero_or_pos b with rfl | hb
    · have hrest := @ih (a / 10) (by omega) (a / 10) 0 ((a % 10 + carry) / 10) (by omega) (by omega)
      have hdigit : (a % 10 + carry) % 10 = (n + carry) % 10 := by omega
      have hnext : a / 10 + (a % 10 + carry) / 10 = (n + carry) / 10 := by omega
      rw [Nat.digits_zero, hnext] at hrest
      rw [Nat.digits_zero, Nat.digits_def' (n := a) (by decide) ha, addDigits, hrest, hdigit]
    · have hrest := @ih (a / 10 + b / 10) (by omega) (a / 10) (b / 10)
        ((a % 10 + b % 10 + carry) / 10) (by omega) rfl
      have hdigit : (a % 10 + b % 10 + carry) % 10 = (n + carry) % 10 := by omega
      have hnext : a / 10 + b / 10 + (a % 10 + b % 10 + carry) / 10 = (n + carry) / 10 := by omega
      rw [hnext] at hrest
      rw [Nat.digits_def' (n := a) (by decide) ha, Nat.digits_def' (n := b) (by decide) hb,
        addDigits, hrest, hdigit]

theorem addDigits_zero (x : ℕ) (l : List ℕ) : addDigits [0] (x :: l) 0 = addDigits [] (x :: l) 0 ∧
    addDigits (x :: l) [0] 0 = addDigits (x :: l) [] 0 := by
  simp [addDigits]

theorem decimalAdd_repr (a b : ℕ) : decimalAdd a.repr b.repr = (a + b).repr := by
  have hzero : (0 : ℕ).repr.toList.reverse.map digitOf = [0] := by decide
  have hsum : addDigits (a.repr.toList.reverse.map digitOf) (b.repr.toList.reverse.map digitOf) 0 =
      (Nat.toDigits 10 (a + b)).reverse := by
    rcases Nat.eq_zero_or_pos a with rfl | ha <;> rcases Nat.eq_zero_or_pos b with rfl | hb
    · rw [hzero]
      simp only [addDigits]
      rfl
    · have hdigits := @addDigits_digits 0 b 0 (by decide)
      rw [hzero, digitOf_repr hb, toDigits_reverse (by omega)]
      rw [Nat.digits_zero, Nat.digits_def' (by decide) hb, Nat.add_zero] at hdigits
      rw [Nat.digits_def' (by decide) hb, (addDigits_zero _ _).1, hdigits]
    · have hdigits := @addDigits_digits a 0 0 (by decide)
      rw [hzero, digitOf_repr ha, toDigits_reverse (by omega)]
      rw [Nat.digits_zero, Nat.digits_def' (by decide) ha] at hdigits
      rw [Nat.digits_def' (by decide) ha, (addDigits_zero _ _).2, hdigits]
    · rw [digitOf_repr ha, digitOf_repr hb, addDigits_digits (by decide),
        toDigits_reverse (by omega), Nat.add_zero]
  refine String.toList_inj.mp ?_
  rw [decimalAdd, hsum, List.reverse_reverse, String.toList_ofList, Nat.toList_repr]

/-! ## Shortfalls -/

/-- The differences that are formed on the way. -/
def differences : List ℕ → List ℕ → ℤ → List ℤ
  | [], _, _ => []
  | x :: left, right, borrow =>
    let y : ℤ := right.headD 0
    if x - borrow < y then (x - borrow + 10 - y) :: differences left right.tail 1
    else (x - borrow - y) :: differences left right.tail 0

variable {left right : List ℕ} {borrow : ℤ}

theorem ofDigits_headD : ofDigits 10 right = right.headD 0 + 10 * ofDigits 10 right.tail := by
  cases right with
  | nil => rfl
  | cons y right => exact Nat.ofDigits_cons

theorem headD_lt (hright : ∀ y ∈ right, y < 10) : right.headD 0 < 10 := by
  cases right with
  | nil => decide
  | cons y right => exact hright y List.mem_cons_self

/-- Every difference is a digit : no place is cut off. -/
theorem differences_digit (hleft : ∀ x ∈ left, x < 10) (hright : ∀ y ∈ right, y < 10)
    (hborrow : borrow = 0 ∨ borrow = 1) : ∀ d ∈ differences left right borrow, 0 ≤ d ∧ d < 10 := by
  induction left generalizing right borrow with
  | nil => exact fun d hd => absurd hd List.not_mem_nil
  | cons x left ih =>
    rw [List.forall_mem_cons] at hleft
    have hy := headD_lt hright
    have htail : ∀ y ∈ right.tail, y < 10 := fun y hy => hright y (List.mem_of_mem_tail hy)
    unfold differences
    dsimp only
    split_ifs
    · exact List.forall_mem_cons.mpr ⟨by omega, ih hleft.2 htail (.inr rfl)⟩
    · exact List.forall_mem_cons.mpr ⟨by omega, ih hleft.2 htail (.inl rfl)⟩

theorem subDigits_eq (left right : List ℕ) (borrow : ℤ) : subDigits left right borrow =
    (differences left right borrow).map fun d => Nat.digitChar d.toNat := by
  induction left generalizing right borrow with
  | nil => rfl
  | cons x left ih =>
    unfold subDigits differences
    dsimp only
    split_ifs
    · rw [ih, List.map_cons]
    · rw [ih, List.map_cons]

/-- The digits of a difference, if there is nothing to borrow from behind the last place. -/
theorem ofDigits_subDigits (hleft : ∀ x ∈ left, x < 10) (hright : ∀ y ∈ right, y < 10)
    (hborrow : borrow = 0 ∨ borrow = 1)
    (hle : ((ofDigits 10 right : ℕ) : ℤ) + borrow ≤ (ofDigits 10 left : ℕ)) :
    ((ofDigits 10 ((subDigits left right borrow).map digitOf) : ℕ) : ℤ) =
      (ofDigits 10 left : ℕ) - borrow - (ofDigits 10 right : ℕ) := by
  induction left generalizing right borrow with
  | nil =>
    rw [Nat.ofDigits_nil] at hle
    simp only [subDigits, List.map_nil, Nat.ofDigits_nil]
    omega
  | cons x left ih =>
    rw [List.forall_mem_cons] at hleft
    have hy := headD_lt hright
    have htail : ∀ y ∈ right.tail, y < 10 := fun y hy => hright y (List.mem_of_mem_tail hy)
    have hvalue := @ofDigits_headD right
    rw [Nat.ofDigits_cons] at hle ⊢
    unfold subDigits
    dsimp only
    split_ifs with hless
    · have hrest := ih hleft.2 htail (.inr rfl) (by omega)
      have hdigit : ((x : ℤ) - borrow + 10 - right.headD 0).toNat < 10 := by omega
      rw [List.map_cons, Nat.ofDigits_cons, digitOf_digitChar hdigit]
      omega
    · have hrest := ih hleft.2 htail (.inl rfl) (by omega)
      have hdigit : ((x : ℤ) - borrow - right.headD 0).toNat < 10 := by omega
      rw [List.map_cons, Nat.ofDigits_cons, digitOf_digitChar hdigit]
      omega

theorem trimZeros_eq (digits : List Char) : trimZeros digits = significant digits := rfl

theorem digitOf_repr_lt (n : ℕ) : ∀ d ∈ n.repr.toList.reverse.map digitOf, d < 10 := by
  intro d hd
  obtain ⟨c, hc, rfl⟩ := List.mem_map.mp hd
  exact digit_value_lt (List.all_eq_true.mp (repr_all_digits n) c (List.mem_reverse.mp hc))

theorem ofDigits_repr (n : ℕ) : ofDigits 10 (n.repr.toList.reverse.map digitOf) = n := by
  rw [ofDigits_digitOf, List.reverse_reverse, Nat.toList_repr, Nat.ofDigitChars_ten_toDigits]

/-- The length and the order of two texts tell whether there is a shortfall. -/
theorem covered_iff (balance target : ℕ) : (target.repr.utf8ByteSize < balance.repr.utf8ByteSize ∨
    balance.repr.utf8ByteSize = target.repr.utf8ByteSize ∧ ¬balance.repr < target.repr) ↔
      target ≤ balance := by
  rw [utf8ByteSize_repr, utf8ByteSize_repr]
  rcases Nat.lt_trichotomy target.repr.length balance.repr.length with h | h | h
  · exact iff_of_true (.inl h) (repr_exceeds_iff.mp (.inl h)).le
  · rw [repr_lt_iff h.symm]
    omega
  · have hlt := repr_exceeds_iff.mp (.inl h)
    omega

theorem decimalShortfall_repr (balance target : ℕ) :
    decimalShortfall balance.repr target.repr = (target - balance).repr := by
  unfold decimalShortfall
  rcases Nat.lt_or_ge balance target with hlt | hge
  · rw [if_neg (mt (covered_iff balance target).mp (Nat.not_le.mpr hlt)), trimZeros_eq]
    have hbalance := digitOf_repr_lt balance
    have htarget := digitOf_repr_lt target
    have hvalue := ofDigits_subDigits htarget hbalance (.inl rfl)
      (by rw [ofDigits_repr, ofDigits_repr]; omega)
    rw [ofDigits_repr, ofDigits_repr, ofDigits_digitOf] at hvalue
    rw [ofList_significant]
    · congr 1
      omega
    · intro hnil
      rw [hnil, Nat.ofDigitChars_nil] at hvalue
      omega
    · intro c hc
      rw [List.mem_reverse, subDigits_eq] at hc
      obtain ⟨d, hd, rfl⟩ := List.mem_map.mp hc
      have hdigit := differences_digit htarget hbalance (.inl rfl) d hd
      have hall : ∀ d < 10, (Nat.digitChar d).isDigit = true := by decide
      exact hall d.toNat (by omega)
  · rw [if_pos ((covered_iff balance target).mpr hge), Nat.sub_eq_zero_of_le hge]
    rfl

/-! ## What is told and accepted -/

/-- Adding up the texts of numbers gives the text of their sum. -/
theorem foldl_decimalAdd {records : List ReferralRecord} {amount : ReferralRecord → ℕ}
    (h : ∀ r ∈ records, r.rewardAmountBaseUnits = (amount r).repr) (n : ℕ) :
    records.foldl (fun total r => decimalAdd total r.rewardAmountBaseUnits) n.repr =
      (n + (records.map amount).sum).repr := by
  induction records generalizing n with
  | nil => rfl
  | cons r records ih =>
    rw [List.forall_mem_cons] at h
    rw [List.foldl_cons, h.1, decimalAdd_repr, ih h.2, List.map_cons, List.sum_cons, Nat.add_assoc]

theorem exists_repr_of_validateDecimal {value label : String} {positive : Bool}
    (h : validateDecimal value label positive = .ok ()) : ∃ n : ℕ, value = n.repr := by
  simp only [validateDecimal, except_check_ok, failIf_ok, not_not] at h
  exact exists_repr_iff.mp ⟨h.1.1, h.1.2.2.1, h.1.2.2.2.1⟩

/-- A result is accepted when everything else is right and its shortfalls are exact. -/
theorem validateResult_ok {policy : Policy} {result : ReferralBountyResult} {r : ReferralRecord} :
    validateResult policy result r = .ok () ↔ validateBounty policy result r = .ok () ∧
      (∀ amount ∈ result.amounts, validateDecimal amount.1 amount.2 false = .ok ()) ∧
      result.uwuTargetBaseUnits = policy.rewardAmountBaseUnits ∧
      validateDisposition result = .ok () ∧ ∃ ethBalance ethTarget uwuBalance uwuTarget : ℕ,
        result.ethBalanceWei = ethBalance.repr ∧ result.ethTargetWei = ethTarget.repr ∧
        result.uwuBalanceBaseUnits = uwuBalance.repr ∧ result.uwuTargetBaseUnits = uwuTarget.repr ∧
        result.ethShortfallWei = (ethTarget - ethBalance).repr ∧
        result.uwuShortfallBaseUnits = (uwuTarget - uwuBalance).repr := by
  simp only [validateResult, except_check_ok, forM_ok, failIf_ok, not_not, ne_eq]
  constructor
  · rintro ⟨hbounty, hamounts, htarget, heth, huwu, hdisposition⟩
    have hnumber : ∀ amount ∈ result.amounts, ∃ n : ℕ, amount.1 = n.repr := fun amount hamount =>
      exists_repr_of_validateDecimal (hamounts amount hamount)
    simp only [ReferralBountyResult.amounts, List.forall_mem_cons] at hnumber
    obtain ⟨⟨a, ha⟩, ⟨b, hb⟩, -, ⟨c, hc⟩, ⟨d, hd⟩, -⟩ := hnumber
    rw [ha, hb, decimalShortfall_repr] at heth
    rw [hc, hd, decimalShortfall_repr] at huwu
    exact ⟨hbounty, hamounts, htarget, hdisposition, a, b, c, d, ha, hb, hc, hd, heth, huwu⟩
  · rintro ⟨hbounty, hamounts, htarget, hdisposition, a, b, c, d, ha, hb, hc, hd, heth, huwu⟩
    refine ⟨hbounty, hamounts, htarget, ?_, ?_, hdisposition⟩
    · rw [ha, hb, decimalShortfall_repr, heth]
    · rw [hc, hd, decimalShortfall_repr, huwu]

/-- Decimal texts are added and subtracted exactly, so the paid total is the sum of the confirmed
rewards, and a result is accepted only with the exact shortfalls. -/
theorem decimal_exact [Hashing] :
    (∀ value : String, (value ≠ "" ∧ value.toList.all Char.isDigit = true ∧
      (value = "0" ∨ value.toList.head? ≠ some '0')) ↔ ∃ n : ℕ, value = n.repr) ∧
    (∀ a b : ℕ, decimalAdd a.repr b.repr = (a + b).repr ∧
      decimalShortfall a.repr b.repr = (b - a).repr ∧
      ∀ d ∈ differences (b.repr.toList.reverse.map digitOf) (a.repr.toList.reverse.map digitOf) 0,
        0 ≤ d ∧ d < 10) ∧
    (∀ (policy : Policy) (s : GrowthSnapshot), s.Valid policy → ∃ amount : ReferralRecord → ℕ,
      (∀ r ∈ s.records, r.rewardAmountBaseUnits = (amount r).repr) ∧ ∀ branded now,
        (s.stats branded now).referralUwuPaidBaseUnits =
          ((s.records.filter (·.phase = .confirmed)).map amount).sum.repr) ∧
    ∀ (policy : Policy) (result : ReferralBountyResult) (r : ReferralRecord),
      validateResult policy result r = .ok () ↔ validateBounty policy result r = .ok () ∧
        (∀ amount ∈ result.amounts, validateDecimal amount.1 amount.2 false = .ok ()) ∧
        result.uwuTargetBaseUnits = policy.rewardAmountBaseUnits ∧
        validateDisposition result = .ok () ∧ ∃ ethBalance ethTarget uwuBalance uwuTarget : ℕ,
          result.ethBalanceWei = ethBalance.repr ∧ result.ethTargetWei = ethTarget.repr ∧
          result.uwuBalanceBaseUnits = uwuBalance.repr ∧
          result.uwuTargetBaseUnits = uwuTarget.repr ∧
          result.ethShortfallWei = (ethTarget - ethBalance).repr ∧
          result.uwuShortfallBaseUnits = (uwuTarget - uwuBalance).repr := by
  refine ⟨fun value => exists_repr_iff, fun a b => ⟨decimalAdd_repr a b, decimalShortfall_repr a b,
    differences_digit (digitOf_repr_lt b) (digitOf_repr_lt a) (.inl rfl)⟩, fun policy s hvalid => ?_,
    fun policy result r => validateResult_ok⟩
  have hamount : ∀ r : ReferralRecord, ∃ n : ℕ, r ∈ s.records → r.rewardAmountBaseUnits = n.repr := by
    intro r
    by_cases hr : r ∈ s.records
    · obtain ⟨n, hn⟩ := exists_repr_of_validateDecimal (hvalid.records r hr).amount
      exact ⟨n, fun _ => hn⟩
    · exact ⟨0, fun h => absurd h hr⟩
  choose amount hamount using hamount
  refine ⟨amount, hamount, fun branded now => ?_⟩
  have hfold := @foldl_decimalAdd (s.records.filter (·.phase = .confirmed)) _
    (fun r hr => hamount r (List.mem_of_mem_filter hr)) 0
  rw [Nat.zero_add] at hfold
  exact hfold

end Cthuwu.Growth
