import Mathlib.Algebra.Group.Nat.Defs
import Mathlib.Tactic.Common
import Mathlib.Data.List.Induction

/-!
# Letters, digits and decimal texts

Lowering a letter twice lowers it once, and the number that some digits write is bounded by how
many there are.

A number has one decimal text : digits without a leading zero, unless it is zero
(`exists_repr_iff`). As many digits are ordered like their numbers, so the length and the order of
two texts tell which number is greater (`repr_exceeds_iff`).
-/

namespace Cthuwu

theorem toLower_toLower (c : Char) : c.toLower.toLower = c.toLower := by
  delta Char.toLower
  split
  · split
    · next h1 h2 =>
      simp only [UInt32.le_iff_toNat_le, UInt32.toNat_add, seval] at h1 h2
      omega
    · simp
  · rfl

theorem map_toLower_map_toLower (l : List Char) :
    (l.map Char.toLower).map Char.toLower = l.map Char.toLower := by
  rw [List.map_map]
  exact List.map_congr_left fun c _ => toLower_toLower c

theorem digit_value_lt {c : Char} (h : c.isDigit = true) : c.toNat - '0'.toNat < 10 := by
  simp only [Char.isDigit, Bool.and_eq_true, decide_eq_true_eq, ge_iff_le,
    UInt32.le_iff_toNat_le] at h
  have hle : c.toNat ≤ 57 := h.2
  have hzero : '0'.toNat = 48 := by decide
  omega

theorem ofDigitChars_lt {l : List Char} (h : ∀ c ∈ l, c.isDigit = true) :
    Nat.ofDigitChars 10 l 0 < 10 ^ l.length := by
  induction l with
  | nil => simp
  | cons c l ih =>
    have hl := ih fun d hd => h d (List.mem_cons_of_mem _ hd)
    have hc := digit_value_lt (h c List.mem_cons_self)
    rw [Nat.ofDigitChars_cons, Nat.ofDigitChars_eq_ofDigitChars_zero, List.length_cons, Nat.pow_succ]
    calc 10 ^ l.length * (10 * 0 + (c.toNat - '0'.toNat)) + Nat.ofDigitChars 10 l 0
        < 10 ^ l.length * (10 * 0 + (c.toNat - '0'.toNat)) + 10 ^ l.length := by omega
      _ = 10 ^ l.length * (c.toNat - '0'.toNat + 1) := by
        rw [Nat.mul_zero, Nat.zero_add, Nat.mul_succ]
      _ ≤ 10 ^ l.length * 10 := Nat.mul_le_mul_left _ hc

/-! ## Decimal texts -/

theorem repr_ne_empty (n : ℕ) : n.repr ≠ "" := fun h => by
  have hnil := congrArg String.toList h
  rw [Nat.toList_repr] at hnil
  exact Nat.toDigits_ne_nil hnil

theorem repr_all_digits (n : ℕ) : n.repr.toList.all Char.isDigit = true := by
  rw [Nat.toList_repr, List.all_eq_true]
  exact fun c hc => Nat.isDigit_of_mem_toDigits (by omega) (by omega) hc

theorem repr_injective {m n : ℕ} (h : m.repr = n.repr) : m = n := by
  have htext := congrArg String.toList h
  rw [Nat.toList_repr, Nat.toList_repr] at htext
  rw [← Nat.ofDigitChars_ten_toDigits (n := m), htext, Nat.ofDigitChars_ten_toDigits]

theorem digitChar_ne_zero : ∀ d < 10, 0 < d → d.digitChar ≠ '0' := by
  decide

/-- A positive number has no leading zero. -/
theorem head_toDigits {n : ℕ} (h : 0 < n) : (Nat.toDigits 10 n).head? ≠ some '0' := by
  induction n using Nat.strongRecOn with
  | ind n ih =>
    by_cases hn : n < 10
    · rw [Nat.toDigits_of_lt_base hn]
      exact fun hhead => digitChar_ne_zero n hn h (Option.some.inj hhead)
    · rw [Nat.toDigits_of_base_le (by omega) (by omega), List.head?_append]
      have hhead := ih (n / 10) (by omega) (by omega)
      cases hdigits : (Nat.toDigits 10 (n / 10)).head? with
      | none => exact absurd (List.head?_eq_none_iff.mp hdigits) Nat.toDigits_ne_nil
      | some c =>
        rw [hdigits] at hhead
        exact hhead

theorem repr_no_leading_zero (n : ℕ) : n.repr = "0" ∨ n.repr.toList.head? ≠ some '0' := by
  rcases n.eq_zero_or_pos with rfl | h
  · exact .inl rfl
  · rw [Nat.toList_repr]
    exact .inr (head_toDigits h)

/-! ## Order -/

theorem digitChar_value {c : Char} (h : c.isDigit = true) :
    Nat.digitChar (c.toNat - '0'.toNat) = c := by
  simp only [Char.isDigit, Bool.and_eq_true, decide_eq_true_eq, ge_iff_le,
    UInt32.le_iff_toNat_le] at h
  have hlow : 48 ≤ c.toNat := h.1
  have hhigh : c.toNat ≤ 57 := h.2
  have hall : ∀ d < 10, (Nat.digitChar d).toNat = d + 48 := by decide
  have hdigit := hall (c.toNat - 48) (by omega)
  have hzero : '0'.toNat = 48 := by decide
  refine Char.ext (UInt32.toNat_inj.mp ?_)
  change (Nat.digitChar (c.toNat - '0'.toNat)).toNat = c.toNat
  rw [hzero, hdigit]
  omega

/-- As many digits of a smaller number come first. -/
theorem lt_of_ofDigitChars_lt {l m : List Char} (hlength : l.length = m.length)
    (hl : ∀ c ∈ l, c.isDigit = true) (hm : ∀ c ∈ m, c.isDigit = true)
    (h : Nat.ofDigitChars 10 l 0 < Nat.ofDigitChars 10 m 0) : l < m := by
  induction l generalizing m with
  | nil => rw [List.length_eq_zero_iff.mp hlength.symm] at h; exact absurd h (Nat.lt_irrefl _)
  | cons c l ih =>
    cases m with
    | nil => cases hlength
    | cons d m =>
      rw [List.forall_mem_cons] at hl hm
      have hlength' : l.length = m.length := Nat.succ.inj hlength
      rw [Nat.ofDigitChars_cons, Nat.ofDigitChars_cons,
        Nat.ofDigitChars_eq_ofDigitChars_zero (l := l),
        Nat.ofDigitChars_eq_ofDigitChars_zero (l := m), Nat.mul_zero, Nat.zero_add, Nat.zero_add,
        hlength'] at h
      have hsmall := ofDigitChars_lt hm.2
      rw [List.cons_lt_cons_iff]
      rcases Nat.lt_trichotomy (c.toNat - '0'.toNat) (d.toNat - '0'.toNat) with hlt | heq | hgt
      · exact .inl (Char.lt_def.mpr (UInt32.lt_iff_toNat_lt.mpr (by
          change c.toNat < d.toNat
          omega)))
      · have hsame : c = d := by rw [← digitChar_value hl.1, heq, digitChar_value hm.1]
        rw [heq] at h
        exact .inr ⟨hsame, ih hlength' hl.2 hm.2 (Nat.add_lt_add_iff_left.mp h)⟩
      · have hmore : 10 ^ m.length * (d.toNat - '0'.toNat + 1) ≤
            10 ^ m.length * (c.toNat - '0'.toNat) := Nat.mul_le_mul_left _ hgt
        rw [Nat.mul_succ] at hmore
        omega

/-- Digits without a leading zero are those of the number that they write. -/
theorem toDigits_ofDigitChars {l : List Char} (hne : l ≠ []) (hl : ∀ c ∈ l, c.isDigit = true)
    (hhead : l.head? ≠ some '0') : Nat.toDigits 10 (Nat.ofDigitChars 10 l 0) = l := by
  induction l using List.reverseRecOn with
  | nil => exact absurd rfl hne
  | append_singleton l c ih =>
    have hc : c.isDigit = true := hl c List.mem_concat_self
    have hlast : Nat.toDigits 10 (c.toNat - '0'.toNat) = [c] := by
      rw [Nat.toDigits_of_lt_base (digit_value_lt hc), digitChar_value hc]
    rw [Nat.ofDigitChars_append, Nat.ofDigitChars_cons, Nat.ofDigitChars_nil]
    cases l with
    | nil => rwa [Nat.ofDigitChars_nil, Nat.mul_zero, Nat.zero_add]
    | cons d l =>
      have hfront := ih (List.cons_ne_nil d l) (fun x hx => hl x (List.mem_append_left _ hx)) hhead
      have hpos : 0 < Nat.ofDigitChars 10 (d :: l) 0 := by
        refine Nat.pos_of_ne_zero fun hzero => hhead ?_
        rw [hzero] at hfront
        rw [← hfront]
        rfl
      rw [← Nat.toDigits_append_toDigits (by decide) hpos (digit_value_lt hc), hfront, hlast]

/-- The decimal texts of numbers are the digits without a leading zero, unless it is all there is. -/
theorem exists_repr_iff {value : String} : (value ≠ "" ∧ value.toList.all Char.isDigit = true ∧
    (value = "0" ∨ value.toList.head? ≠ some '0')) ↔ ∃ n : ℕ, value = n.repr := by
  constructor
  · rintro ⟨hne, hdigits, rfl | hhead⟩
    · exact ⟨0, rfl⟩
    · refine ⟨Nat.ofDigitChars 10 value.toList 0, String.toList_inj.mp ?_⟩
      rw [Nat.toList_repr, toDigits_ofDigitChars (fun h => hne (String.toList_inj.mp h))
        (List.all_eq_true.mp hdigits) hhead]
  · rintro ⟨n, rfl⟩
    exact ⟨repr_ne_empty n, repr_all_digits n, repr_no_leading_zero n⟩

theorem repr_append_zeros {n : ℕ} (h : 0 < n) (k : ℕ) :
    n.repr ++ String.ofList (List.replicate k '0') = (n * 10 ^ k).repr := by
  refine String.toList_inj.mp ?_
  rw [String.toList_append, String.toList_ofList, Nat.toList_repr, Nat.toList_repr]
  induction k with
  | zero => simp
  | succ k ih =>
    have hpos : 0 < n * 10 ^ k := Nat.mul_pos h (Nat.pow_pos (by decide))
    have hdigit := Nat.toDigits_append_toDigits (b := 10) (d := 0) (by decide) hpos (by decide)
    rw [List.replicate_succ', ← List.append_assoc, ih, Nat.pow_succ, ← Nat.mul_assoc,
      Nat.mul_comm _ 10]
    exact hdigit

/-- As many digits are ordered like their numbers. -/
theorem repr_lt_iff {m n : ℕ} (hlength : m.repr.length = n.repr.length) :
    m.repr < n.repr ↔ m < n := by
  have hlt : ∀ {a b : ℕ}, a.repr.length = b.repr.length → a < b → a.repr < b.repr := by
    intro a b hsame h
    refine String.lt_iff.mpr (lt_of_ofDigitChars_lt hsame (List.all_eq_true.mp (repr_all_digits a))
      (List.all_eq_true.mp (repr_all_digits b)) ?_)
    rwa [Nat.toList_repr, Nat.toList_repr, Nat.ofDigitChars_ten_toDigits,
      Nat.ofDigitChars_ten_toDigits]
  refine ⟨fun h => ?_, hlt hlength⟩
  by_contra hle
  rcases Nat.eq_or_lt_of_not_lt hle with rfl | hgt
  · exact String.lt_irrefl _ h
  · exact String.lt_asymm h (hlt hlength.symm hgt)

/-- A longer text, or a later one of the same length, is that of a greater number. -/
theorem repr_exceeds_iff {m n : ℕ} : (n.repr.length < m.repr.length ∨
    m.repr.length = n.repr.length ∧ n.repr < m.repr) ↔ n < m := by
  have hlong : ∀ {a b : ℕ}, a.repr.length < b.repr.length → a < b := by
    intro a b h
    have hpos : 0 < a.repr.length := List.length_pos_iff.mpr fun hnil =>
      repr_ne_empty a (String.toList_inj.mp hnil)
    have hb := mt (Nat.length_repr_le_iff hpos (n := b)).mpr (Nat.not_le.mpr h)
    exact Nat.lt_of_lt_of_le ((Nat.length_repr_le_iff hpos).mp (Nat.le_refl _)) (Nat.le_of_not_lt hb)
  rcases Nat.lt_trichotomy n.repr.length m.repr.length with h | h | h
  · exact iff_of_true (.inl h) (hlong h)
  · rw [repr_lt_iff h]
    omega
  · have hlt := hlong h
    omega

/-- The text of the last word of 256 bits. -/
theorem repr_lastWord :
    "115792089237316195423570985008687907853269984665640564039457584007913129639935" =
      (2 ^ 256 - 1).repr := by
  decide

/-! ## Digits with zeros in front -/

/-- Without the zeros in front, but for the last digit. -/
def significant (digits : List Char) : List Char :=
  match digits.dropWhile (· = '0') with
  | [] => digits.drop (digits.length - 1)
  | trimmed => trimmed

theorem significant_zero_cons {l : List Char} (hne : l ≠ []) :
    significant ('0' :: l) = significant l := by
  cases l with
  | nil => exact absurd rfl hne
  | cons c l =>
    unfold significant
    rw [List.dropWhile_cons_of_pos (by decide)]
    rfl

/-- They write the same number. -/
theorem ofList_significant {l : List Char} (hne : l ≠ []) (hl : ∀ c ∈ l, c.isDigit = true) :
    String.ofList (significant l) = (Nat.ofDigitChars 10 l 0).repr := by
  induction l with
  | nil => exact absurd rfl hne
  | cons c l ih =>
    by_cases hc : c = '0'
    · subst hc
      cases l with
      | nil => rfl
      | cons d l =>
        rw [significant_zero_cons (List.cons_ne_nil d l), Nat.ofDigitChars_cons]
        exact ih (List.cons_ne_nil d l) fun x hx => hl x (List.mem_cons_of_mem _ hx)
    · have hkept : significant (c :: l) = c :: l := by
        unfold significant
        rw [List.dropWhile_cons_of_neg (by simpa using hc)]
      refine String.toList_inj.mp ?_
      rw [hkept, String.toList_ofList, Nat.toList_repr]
      exact (toDigits_ofDigitChars hne hl fun hhead => hc (Option.some.inj hhead)).symm

end Cthuwu
