import Cthuwu.Evolution.Actions
import Cthuwu.Lib.Decimal

/-!
# Exact amounts

The product of a supply, a power of ten and some basis points is never formed : zeros are written
behind the digits of a smaller product, or a smaller power of ten divides it, and the bound of a
word is read off the lengths and the order of two texts. All the same the text is that of the
product, rounded down (`amounts_exact`).
-/

namespace Cthuwu.Evolution

theorem overflowsU256_repr (n : ℕ) : overflowsU256 n.repr = true ↔ 2 ^ 256 ≤ n := by
  unfold overflowsU256
  rw [Bool.or_eq_true, Bool.and_eq_true, decide_eq_true_eq, decide_eq_true_eq, decide_eq_true_eq,
    u256MaxDecimal, repr_lastWord, repr_exceeds_iff]
  omega

/-- The exact amounts, as texts of what the formulas give. Products stay far below 128 bits. -/
theorem amounts_exact :
    (∀ totalSupplyWhole tokenDecimals basisPoints text,
      exactRawTokenAmount totalSupplyWhole tokenDecimals basisPoints = .ok text ↔
        (0 < totalSupplyWhole ∧ tokenDecimals ≤ 77 ∧ 1 ≤ basisPoints ∧ basisPoints ≤ 10000) ∧
        0 < totalSupplyWhole * 10 ^ tokenDecimals * basisPoints / 10000 ∧
        totalSupplyWhole * 10 ^ tokenDecimals * basisPoints / 10000 ≤ 2 ^ 256 - 1 ∧
        text = (totalSupplyWhole * 10 ^ tokenDecimals * basisPoints / 10000).repr) ∧
    (∀ wholeTokens tokenDecimals text, exactWholeTokenAmount wholeTokens tokenDecimals = .ok text ↔
      (0 < wholeTokens ∧ tokenDecimals ≤ 77) ∧ wholeTokens * 10 ^ tokenDecimals ≤ 2 ^ 256 - 1 ∧
        text = (wholeTokens * 10 ^ tokenDecimals).repr) ∧
    ∀ (totalSupplyWhole : UInt64) (basisPoints : UInt16) (k : Fin 5),
      totalSupplyWhole.toNat * basisPoints.toNat < 2 ^ 128 ∧ 10 ^ k.val < 2 ^ 128 := by
  refine ⟨fun supply decimals basis text => ?_, fun whole decimals text => ?_,
    fun supply basis k => ⟨?_, ?_⟩⟩
  · unfold exactRawTokenAmount
    simp only [except_bind_ok, exists_unit, failIf_ok, not_or, not_not, Nat.not_lt, except_pure_ok,
      ← Nat.pos_iff_ne_zero]
    refine and_congr_right fun hbounds => ?_
    obtain ⟨hsupply, _, hbasis, _⟩ := hbounds
    have hraw : (if 4 ≤ decimals then toString (supply * basis) ++ zeros (decimals - 4)
        else toString (supply * basis / 10 ^ (4 - decimals))) =
        (supply * 10 ^ decimals * basis / 10000).repr := by
      split_ifs with h
      · have hpow : 10 ^ decimals = 10 ^ (decimals - 4) * 10000 := by
          rw [← Nat.pow_add (n := 4), Nat.sub_add_cancel h]
        change (supply * basis).repr ++ _ = _
        rw [zeros, repr_append_zeros (Nat.mul_pos hsupply hbasis), hpow, ← Nat.mul_assoc,
          Nat.mul_right_comm _ 10000, Nat.mul_div_cancel _ (by decide), Nat.mul_right_comm]
      · have hpow : 10000 = 10 ^ decimals * 10 ^ (4 - decimals) := by
          rw [← Nat.pow_add, Nat.add_sub_cancel' (by omega)]
        rw [hpow, Nat.mul_right_comm, Nat.mul_comm _ (10 ^ decimals),
          Nat.mul_div_mul_left _ _ (Nat.pow_pos (by decide))]
        rfl
    rw [hraw]
    generalize supply * 10 ^ decimals * basis / 10000 = v
    have hzero : v.repr = "0" ↔ v = 0 :=
      ⟨fun h => repr_injective (n := 0) h, fun h => by rw [h]; rfl⟩
    rw [overflowsU256_repr, hzero]
    refine and_congr (Nat.pos_iff_ne_zero).symm (and_congr ?_ eq_comm)
    omega
  · unfold exactWholeTokenAmount
    simp only [except_bind_ok, exists_unit, failIf_ok, not_or, Nat.not_lt, except_pure_ok,
      ← Nat.pos_iff_ne_zero]
    refine and_congr_right fun hbounds => ?_
    have hwhole := hbounds.1
    change ¬overflowsU256 (whole.repr ++ _) = true ∧ whole.repr ++ _ = _ ↔ _
    rw [zeros, repr_append_zeros hwhole, overflowsU256_repr]
    refine and_congr ?_ eq_comm
    omega
  · calc supply.toNat * basis.toNat ≤ 2 ^ 64 * 2 ^ 16 :=
          Nat.mul_le_mul supply.toNat_lt.le basis.toNat_lt.le
      _ < 2 ^ 128 := by decide
  · calc 10 ^ k.val ≤ 10 ^ 4 := Nat.pow_le_pow_right (by decide) (by omega)
      _ < 2 ^ 128 := by decide

end Cthuwu.Evolution
