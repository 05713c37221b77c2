import Mathlib.Algebra.Order.Floor.Div
import Mathlib.GroupTheory.GroupAction.Ring
import Cthuwu.Branding.Effects
import Cthuwu.Offers.Snapshot
import Cthuwu.TokenEye.U256

/-!
# Quotes on bytes

The runtime computes a quote on arrays of bytes, with a way out wherever a product might not fit.
Only the first can be taken (`quoteInitialBranding_error`), the quote is the exact one, and its upkeep
is the one that the contract asks for (`quote_exact`). On words it is the quote of the model of the
queue (`quoteInitialBranding_word`).
-/

namespace Cthuwu.Offers.Bytes

open TokenEye (U256)

variable {balance price upkeep : TokenEye.U256} {basisPoints : ℕ}

structure BrandingQuote where
  treasuryBalance : TokenEye.U256
  priceBasisPoints : ℕ
  initialDeclaredPrice : TokenEye.U256
  firstWeekUpkeep : TokenEye.U256

def quoteInitialBranding (treasuryBalance : TokenEye.U256) (priceBasisPoints : ℕ) :
    Except String BrandingQuote := do
  failIf (¬(minInitialPriceBasisPoints ≤ priceBasisPoints ∧
    priceBasisPoints ≤ maxInitialPriceBasisPoints))
    "initial Branding price adjustment must remain between 5% and 20%"
  let initialDeclaredPrice ← okOr (treasuryBalance.checkedMulBasisPoints priceBasisPoints)
    "initial Branding price calculation overflowed"
  failIf (initialDeclaredPrice.isZero = true) "initial Branding price must be positive"
  let floorUpkeep ← okOr (initialDeclaredPrice.checkedMulBasisPoints weeklyUpkeepBasisPoints)
    "Branding upkeep calculation overflowed"
  let recomposed ← okOr (floorUpkeep.checkedMulU64 1000) "Branding upkeep comparison overflowed"
  let firstWeekUpkeep ←
    if recomposed < initialDeclaredPrice then
      okOr floorUpkeep.addOne "Branding upkeep rounded past uint256"
    else pure floorUpkeep
  return ⟨treasuryBalance, priceBasisPoints, initialDeclaredPrice, firstWeekUpkeep⟩

def word (a : TokenEye.U256) : Offers.U256 :=
  BitVec.ofNat 256 a.toNat

theorem toNat_word (a : TokenEye.U256) : (word a).toNat = a.toNat := by
  rw [word, BitVec.toNat_ofNat, Nat.mod_eq_of_lt a.toNat_lt]

/-! ## Steps -/

/-- Both ways of a choice go on alike. -/
theorem ite_bind {α β : Type} {c : Prop} [Decidable c] {x y : Except String α}
    {f : α → Except String β} :
    (if c then x >>= f else y >>= f) = (if c then x else y) >>= f := by
  split_ifs <;> rfl

/-- A share of an amount, when the product with the basis points fits. -/
theorem checkedMulBasisPoints_eq_some {a r : TokenEye.U256} :
    a.checkedMulBasisPoints basisPoints = some r ↔
      a.toNat * basisPoints < 2 ^ 256 ∧ r.toNat = a.toNat * basisPoints / 10000 := by
  unfold U256.checkedMulBasisPoints
  rw [Option.map_eq_some_iff]
  constructor
  · rintro ⟨product, hproduct, rfl⟩
    rw [U256.checkedMulU64_eq_some] at hproduct
    rw [U256.toNat_divSmall (by omega), ← hproduct]
    exact ⟨product.toNat_lt, rfl⟩
  · rintro ⟨hfits, hr⟩
    cases hproduct : a.checkedMulU64 basisPoints with
    | none =>
      have := U256.checkedMulU64_eq_none.mp hproduct
      omega
    | some product =>
      refine ⟨product, rfl, U256.toNat_injective ?_⟩
      rw [U256.toNat_divSmall (by omega), U256.checkedMulU64_eq_some.mp hproduct, hr]

theorem checkedMulBasisPoints_eq_none {a : TokenEye.U256} :
    a.checkedMulBasisPoints basisPoints = none ↔ 2 ^ 256 ≤ a.toNat * basisPoints := by
  rw [U256.checkedMulBasisPoints, Option.map_eq_none_iff, U256.checkedMulU64_eq_none]

/-- The upkeep of a price that is a share : no product of it overflows. -/
theorem exists_upkeep (hprice : price.toNat * 10 < 2 ^ 256) : ∃ floorUpkeep recomposed,
    price.checkedMulBasisPoints weeklyUpkeepBasisPoints = some floorUpkeep ∧
      floorUpkeep.checkedMulU64 1000 = some recomposed ∧
      floorUpkeep.toNat = price.toNat / 1000 ∧ recomposed.toNat = price.toNat / 1000 * 1000 := by
  have hbps : weeklyUpkeepBasisPoints = 10 := rfl
  cases hfloor : price.checkedMulBasisPoints weeklyUpkeepBasisPoints with
  | none =>
    have hmore := (checkedMulBasisPoints_eq_none).mp hfloor
    rw [hbps] at hmore
    omega
  | some floorUpkeep =>
    have hvalue := ((checkedMulBasisPoints_eq_some).mp hfloor).2
    rw [hbps] at hvalue
    have hdiv : floorUpkeep.toNat = price.toNat / 1000 := by omega
    cases hrecomposed : floorUpkeep.checkedMulU64 1000 with
    | none =>
      have hmore := U256.checkedMulU64_eq_none.mp hrecomposed
      have hlt := price.toNat_lt
      omega
    | some recomposed =>
      refine ⟨floorUpkeep, recomposed, rfl, hrecomposed, hdiv, ?_⟩
      rw [U256.checkedMulU64_eq_some.mp hrecomposed, hdiv]

/-- The last step rounds up. -/
theorem exists_rounded {floorUpkeep recomposed : TokenEye.U256}
    (hfloor : floorUpkeep.toNat = price.toNat / 1000)
    (hrecomposed : recomposed.toNat = price.toNat / 1000 * 1000) : ∃ upkeep,
      (if recomposed < price then okOr floorUpkeep.addOne "Branding upkeep rounded past uint256"
        else pure floorUpkeep) = .ok upkeep ∧ upkeep.toNat = price.toNat ⌈/⌉ 1000 := by
  have hlt := price.toNat_lt
  rw [Nat.ceilDiv_eq_add_pred_div]
  split_ifs with hbelow
  · rw [U256.lt_iff] at hbelow
    cases hnext : floorUpkeep.addOne with
    | none =>
      have hlast := U256.addOne_eq_none.mp hnext
      omega
    | some upkeep =>
      refine ⟨upkeep, rfl, ?_⟩
      rw [U256.addOne_eq_some.mp hnext]
      omega
  · rw [U256.lt_iff] at hbelow
    exact ⟨floorUpkeep, rfl, by omega⟩

/-! ## Quotes -/

/-- A quote that is exact. -/
structure BrandingQuote.Exact (q : BrandingQuote) (balance : TokenEye.U256) (basisPoints : ℕ) :
    Prop where
  treasury : q.treasuryBalance = balance
  policy : q.priceBasisPoints = basisPoints
  price : q.initialDeclaredPrice.toNat = balance.toNat * basisPoints / 10000
  positive : 0 < q.initialDeclaredPrice.toNat
  upkeep : q.firstWeekUpkeep.toNat = q.initialDeclaredPrice.toNat ⌈/⌉ 1000
  contract : Branding.weeklyUpkeepForPrice (word q.initialDeclaredPrice) =
    .ok (word q.firstWeekUpkeep)

theorem weeklyUpkeepForPrice_word (h : upkeep.toNat = price.toNat ⌈/⌉ 1000) :
    Branding.weeklyUpkeepForPrice (word price) = .ok (word upkeep) := by
  rw [Branding.weeklyUpkeepForPrice_eq]
  refine congrArg Except.ok (BitVec.eq_of_toNat_eq ?_)
  rw [Branding.toNat_upkeepOf, toNat_word, toNat_word, h, Nat.ceilDiv_eq_add_pred_div]
  rfl

theorem quoteInitialBranding_exact
    (hpolicy : minInitialPriceBasisPoints ≤ basisPoints ∧ basisPoints ≤ maxInitialPriceBasisPoints)
    (hfits : balance.toNat * basisPoints < 2 ^ 256)
    (hpositive : 0 < balance.toNat * basisPoints / 10000) :
    ∃ q, quoteInitialBranding balance basisPoints = .ok q ∧ q.Exact balance basisPoints := by
  cases hprice : balance.checkedMulBasisPoints basisPoints with
  | none =>
    have := (checkedMulBasisPoints_eq_none).mp hprice
    omega
  | some price =>
    have hvalue := ((checkedMulBasisPoints_eq_some).mp hprice).2
    obtain ⟨floorUpkeep, recomposed, hfloor, hrecomposed, hfloorValue, hrecomposedValue⟩ :=
      @exists_upkeep price (by omega)
    obtain ⟨upkeep, hrounded, hupkeep⟩ := exists_rounded hfloorValue hrecomposedValue
    have hzero : ¬price.isZero = true := by
      rw [U256.isZero_iff]
      omega
    refine ⟨⟨balance, basisPoints, price, upkeep⟩, ?_, ⟨rfl, rfl, hvalue, ?_, hupkeep,
      weeklyUpkeepForPrice_word hupkeep⟩⟩
    · simp only [quoteInitialBranding, except_bind_ok, exists_unit, failIf_ok, okOr_ok, not_not]
      refine ⟨hpolicy, price, hprice, hzero, floorUpkeep, hfloor, recomposed, hrecomposed, ?_⟩
      rw [ite_bind]
      exact except_bind_ok.mpr ⟨upkeep, hrounded, rfl⟩
    · change 0 < price.toNat
      omega

theorem quoteInitialBranding_error
    (hpolicy : minInitialPriceBasisPoints ≤ basisPoints ∧ basisPoints ≤ maxInitialPriceBasisPoints) :
    (∃ e, quoteInitialBranding balance basisPoints = .error e) ↔
      balance.toNat * basisPoints / 10000 = 0 ∨ 2 ^ 256 ≤ balance.toNat * basisPoints := by
  constructor
  · rintro ⟨e, he⟩
    by_contra hnot
    rw [not_or] at hnot
    obtain ⟨q, hq, -⟩ := quoteInitialBranding_exact hpolicy (by omega) (Nat.pos_of_ne_zero hnot.1)
    rw [hq] at he
    cases he
  · intro h
    cases hquote : quoteInitialBranding balance basisPoints with
    | error e => exact ⟨e, rfl⟩
    | ok q =>
      simp only [quoteInitialBranding, except_bind_ok, exists_unit, failIf_ok, okOr_ok] at hquote
      obtain ⟨-, price, hprice, hzero, -⟩ := hquote
      rw [checkedMulBasisPoints_eq_some] at hprice
      rw [U256.isZero_iff] at hzero
      omega

/-- A quote is the floor of the share with the ceiling of a thousandth of it, as the contract has
it. It fails where the share is nothing or the product is not a word. The next word is exact. -/
theorem quote_exact
    (hpolicy : minInitialPriceBasisPoints ≤ basisPoints ∧ basisPoints ≤ maxInitialPriceBasisPoints) :
    (∀ q, quoteInitialBranding balance basisPoints = .ok q → q.Exact balance basisPoints) ∧
      ((∃ e, quoteInitialBranding balance basisPoints = .error e) ↔
        balance.toNat * basisPoints / 10000 = 0 ∨ 2 ^ 256 ≤ balance.toNat * basisPoints) ∧
      (∀ value next : TokenEye.U256, value.addOne = some next ↔ next.toNat = value.toNat + 1) ∧
      ∀ value : TokenEye.U256, value.addOne = none ↔ value.toNat + 1 = 2 ^ 256 := by
  refine ⟨fun q hq => ?_, quoteInitialBranding_error hpolicy, fun _ _ => U256.addOne_eq_some,
    fun _ => U256.addOne_eq_none⟩
  have hno : ¬∃ e, quoteInitialBranding balance basisPoints = .error e := by
    rintro ⟨e, he⟩
    rw [hq] at he
    cases he
  rw [quoteInitialBranding_error hpolicy, not_or] at hno
  obtain ⟨q', hq', hexact⟩ := quoteInitialBranding_exact hpolicy (by omega)
    (Nat.pos_of_ne_zero hno.1)
  rw [hq] at hq'
  rwa [Except.ok.inj hq']

def sampleTreasury : TokenEye.U256 :=
  ⟨List.replicate 30 0 ++ [39, 16], rfl⟩

theorem quote_exact_sample : (∀ q, quoteInitialBranding sampleTreasury 1000 = .ok q →
      q.Exact sampleTreasury 1000) ∧
    ((∃ e, quoteInitialBranding sampleTreasury 1000 = .error e) ↔
      sampleTreasury.toNat * 1000 / 10000 = 0 ∨ 2 ^ 256 ≤ sampleTreasury.toNat * 1000) ∧
    (∀ value next : TokenEye.U256, value.addOne = some next ↔ next.toNat = value.toNat + 1) ∧
    ∀ value : TokenEye.U256, value.addOne = none ↔ value.toNat + 1 = 2 ^ 256 :=
  quote_exact (by decide)

example : (quoteInitialBranding sampleTreasury 1000).map (fun q =>
    (q.initialDeclaredPrice.toNat, q.firstWeekUpkeep.toNat)) = .ok (1000, 1) := by decide

end Cthuwu.Offers.Bytes
