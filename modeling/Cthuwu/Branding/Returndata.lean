import Mathlib.Data.List.Induction
import Cthuwu.Branding.Ownership

/-!
# What the registry returns

A word is 32 bytes, the first of which counts most (`wordAt_abiEncode`, `abiEncode_wordAt`). Of
whatever a registry returns, `_readDynamicResult` reads exactly the encodings of one dynamic value
that are short enough, up to the bytes that fill the last word, and none of its additions reverts
(`readDynamicResult_exact`).
-/

namespace Cthuwu.Branding

variable {bytes rest value padding : Bytes} {n v : ℕ} {w : Uint256} {result : CallResult}

/-! ## Words -/

/-- The number that bytes stand for, the first counting most. -/
def bigEndian (bytes : Bytes) : ℕ :=
  bytes.foldl (fun n b => n * 256 + b.toNat) 0

/-- The last bytes of a number. -/
def toBytes (n v : ℕ) : Bytes :=
  (List.range n).map fun i => UInt8.ofNat (v / 256 ^ (n - 1 - i) % 256)

theorem toBytes_succ : toBytes (n + 1) v = toBytes n (v / 256) ++ [UInt8.ofNat (v % 256)] := by
  unfold toBytes
  rw [List.range_succ, List.map_append, List.map_singleton]
  congr 1
  · refine List.map_congr_left fun i hi => ?_
    have hlt := List.mem_range.mp hi
    rw [Nat.div_div_eq_div_mul, ← Nat.pow_succ', show n + 1 - 1 - i = (n - 1 - i).succ by omega]
  · simp

theorem bigEndian_append_singleton {b : UInt8} :
    bigEndian (bytes ++ [b]) = bigEndian bytes * 256 + b.toNat := by
  rw [bigEndian, List.foldl_append]
  rfl

theorem bigEndian_toBytes : bigEndian (toBytes n v) = v % 256 ^ n := by
  induction n generalizing v with
  | zero => simp [toBytes, bigEndian, Nat.mod_one]
  | succ n ih =>
    rw [Nat.pow_succ', Nat.mod_mul, toBytes_succ, bigEndian_append_singleton, ih,
      UInt8.toNat_ofNat']
    omega

theorem toBytes_bigEndian (h : bytes.length = n) : toBytes n (bigEndian bytes) = bytes := by
  induction bytes using List.reverseRecOn generalizing n with
  | nil =>
    subst h
    rfl
  | append_singleton bytes b ih =>
    rw [List.length_append, List.length_singleton] at h
    subst h
    have hlt := b.toNat_lt
    have hdiv : (bigEndian bytes * 256 + b.toNat) / 256 = bigEndian bytes := by omega
    have hmod : (bigEndian bytes * 256 + b.toNat) % 256 = b.toNat := by omega
    rw [toBytes_succ, bigEndian_append_singleton, hdiv, hmod, ih rfl, UInt8.ofNat_toNat]

theorem length_abiEncode_word : (abiEncode [w]).length = 32 := by
  simp [abiEncode]

theorem abiEncode_word : abiEncode [w] = toBytes 32 w.toNat := by
  simp [abiEncode, toBytes]

theorem wordAt_eq (offset : ℕ) (data : Bytes) :
    wordAt data offset = BitVec.ofNat 256 (bigEndian ((data.drop offset).take 32)) :=
  rfl

theorem wordAt_abiEncode : wordAt (abiEncode [w] ++ rest) 0 = w := by
  rw [wordAt_eq, List.drop_zero, List.take_left' length_abiEncode_word, abiEncode_word,
    bigEndian_toBytes]
  refine BitVec.eq_of_toNat_eq ?_
  have hlt := w.isLt
  rw [BitVec.toNat_ofNat]
  omega

variable {data : Bytes}

theorem abiEncode_wordAt {offset : ℕ} (h : offset + 32 ≤ data.length) :
    abiEncode [wordAt data offset] = (data.drop offset).take 32 := by
  have hlength : ((data.drop offset).take 32).length = 32 := by
    rw [List.length_take, List.length_drop]
    omega
  have hlt : bigEndian ((data.drop offset).take 32) < 2 ^ 256 := by
    rw [← toBytes_bigEndian hlength, bigEndian_toBytes]
    exact Nat.mod_lt _ (by decide)
  rw [abiEncode_word, wordAt_eq, BitVec.toNat_ofNat, Nat.mod_eq_of_lt hlt,
    toBytes_bigEndian hlength]

/-! ## Dynamic values -/

/-- `_readDynamicResult` with the additions that Solidity checks. -/
def readDynamicChecked [Keccak] (result : CallResult) : Except Revert (Bool × Bytes32) := do
  let resultLength := result.returndata.length
  if ¬result.success ∨ resultLength < 64 ∨ maxRegistryDynamicReturnBytes < resultLength then
    return (false, 0)
  let offset := wordAt result.returndata 0
  let valueLength := wordAt result.returndata 32
  if offset ≠ 32 ∨ BitVec.allOnes 256 - 31 < valueLength then
    return (false, 0)
  let paddedLength := (← checkedAdd valueLength 31) &&& ~~~(31 : Uint256)
  if BitVec.allOnes 256 - 64 < paddedLength then
    return (false, 0)
  let total ← checkedAdd 64 paddedLength
  if resultLength ≠ total.toNat then
    return (false, 0)
  return (true, keccak256 ((result.returndata.drop 64).take valueLength.toNat))

theorem checkedAdd_eq {a b : Uint256} (h : a.toNat + b.toNat < 2 ^ 256) :
    checkedAdd a b = .ok (a + b) :=
  if_neg (by omega)

theorem fits_of_not_lt {k : Uint256} (h : ¬BitVec.allOnes 256 - k < w) :
    w.toNat + k.toNat < 2 ^ 256 := by
  have hk := k.isLt
  have hle : k ≤ BitVec.allOnes 256 := by
    rw [BitVec.le_def, BitVec.toNat_allOnes]
    omega
  rw [BitVec.lt_def, BitVec.toNat_sub_of_le hle, BitVec.toNat_allOnes] at h
  omega

/-- None of the additions reverts. -/
theorem readDynamicChecked_eq [Keccak] :
    readDynamicChecked result = .ok (readDynamicResult result) := by
  unfold readDynamicChecked readDynamicResult
  dsimp only
  by_cases hlength : ¬result.success ∨ result.returndata.length < 64 ∨
      maxRegistryDynamicReturnBytes < result.returndata.length
  · rw [if_pos hlength, if_pos hlength]
    rfl
  · rw [if_neg hlength, if_neg hlength]
    by_cases hword : wordAt result.returndata 0 ≠ 32 ∨
        BitVec.allOnes 256 - 31 < wordAt result.returndata 32
    · rw [if_pos hword, if_pos hword]
      rfl
    · rw [if_neg hword, if_neg hword, checkedAdd_eq (fits_of_not_lt (not_or.mp hword).2)]
      by_cases hwide : BitVec.allOnes 256 - 64 < (wordAt result.returndata 32 + 31) &&& ~~~31
      · rw [if_pos (.inl hwide)]
        exact if_pos hwide
      · have hfits : (64 : Uint256).toNat +
            ((wordAt result.returndata 32 + 31) &&& ~~~31).toNat < 2 ^ 256 := by
          rw [Nat.add_comm]
          exact fits_of_not_lt hwide
        refine (if_neg hwide).trans ?_
        rw [checkedAdd_eq hfits]
        by_cases htotal : result.returndata.length ≠
            (64 + ((wordAt result.returndata 32 + 31) &&& ~~~31)).toNat
        · rw [if_pos (.inr htotal)]
          exact if_pos htotal
        · rw [if_neg (not_or.mpr ⟨hwide, htotal⟩)]
          exact if_neg htotal

/-- What is read : an encoding of the value, up to the bytes that fill its last word. -/
structure Encodes (data value padding : Bytes) : Prop where
  encoded : data = abiEncode [32, BitVec.ofNat 256 value.length] ++ value ++ padding
  padded : padding.length = (32 - value.length % 32) % 32
  short : data.length ≤ maxRegistryDynamicReturnBytes

theorem readable_iff [Keccak] {digest : Bytes32} : readDynamicResult ⟨true, data⟩ = (true, digest) ↔
      64 ≤ data.length ∧ data.length ≤ maxRegistryDynamicReturnBytes ∧ wordAt data 0 = 32 ∧
        data.length = 64 + ((wordAt data 32).toNat + 31) / 32 * 32 ∧
        digest = keccak256 ((data.drop 64).take (wordAt data 32).toNat) := by
  have hsum (hfits : (wordAt data 32).toNat + 31 < 2 ^ 256) :
      ((wordAt data 32 + 31) &&& ~~~(31 : Uint256)).toNat =
        ((wordAt data 32).toNat + 31) / 32 * 32 := by
    rw [toNat_and_not_31, BitVec.toNat_add_of_lt hfits]
    rfl
  unfold readDynamicResult
  dsimp only
  constructor
  · intro h
    split_ifs at h with hlength hword hwide
    · cases h
    · cases h
    · cases h
    · rw [not_or, not_or, not_lt, not_lt] at hlength
      rw [not_or, not_not] at hword
      rw [not_or, not_not] at hwide
      have hwidth := fits_of_not_lt hwide.1
      rw [BitVec.toNat_add_of_lt (by rw [Nat.add_comm]; exact hwidth),
        hsum (fits_of_not_lt hword.2)] at hwide
      exact ⟨hlength.2.1, hlength.2.2, hword.1, hwide.2, (Prod.mk.inj h).2.symm⟩
  · rintro ⟨hmin, hmax, hoffset, htotal, rfl⟩
    unfold maxRegistryDynamicReturnBytes at hmax ⊢
    have hvalue : ¬BitVec.allOnes 256 - 31 < wordAt data 32 := by
      rw [BitVec.lt_def]
      change ¬2 ^ 256 - 1 - 31 < (wordAt data 32).toNat
      omega
    have hpadded := hsum (fits_of_not_lt hvalue)
    have hwide : ¬BitVec.allOnes 256 - 64 < (wordAt data 32 + 31) &&& ~~~(31 : Uint256) := by
      rw [BitVec.lt_def, hpadded]
      change ¬2 ^ 256 - 1 - 64 < (_ : ℕ)
      omega
    have hwidth := fits_of_not_lt hwide
    rw [if_neg (by simp; omega), if_neg (not_or.mpr ⟨not_not.mpr hoffset, hvalue⟩),
      if_neg (not_or.mpr ⟨hwide, not_not.mpr ?_⟩)]
    rw [BitVec.toNat_add_of_lt (by rw [Nat.add_comm]; exact hwidth), hpadded]
    exact htotal

theorem abiEncode_pair {w' : Uint256} : abiEncode [w, w'] = abiEncode [w] ++ abiEncode [w'] := by
  simp [abiEncode]

theorem Encodes.readable (h : Encodes data value padding) : 64 ≤ data.length ∧ wordAt data 0 = 32 ∧
      data.length = 64 + ((wordAt data 32).toNat + 31) / 32 * 32 ∧
      (data.drop 64).take (wordAt data 32).toNat = value := by
  obtain ⟨rfl, hpadding, hshort⟩ := h
  unfold maxRegistryDynamicReturnBytes at hshort
  rw [abiEncode_pair, List.append_assoc, List.append_assoc] at hshort ⊢
  simp only [List.length_append, length_abiEncode_word] at hshort ⊢
  have hlength : wordAt (abiEncode [32] ++ (abiEncode [BitVec.ofNat 256 value.length] ++
      (value ++ padding))) 32 = BitVec.ofNat 256 value.length := by
    rw [wordAt_eq, List.drop_left' length_abiEncode_word]
    exact wordAt_abiEncode
  rw [hlength, wordAt_abiEncode, BitVec.toNat_ofNat, Nat.mod_eq_of_lt (by omega),
    ← List.append_assoc, List.drop_left' (by simp [length_abiEncode_word]), List.take_left]
  refine ⟨by omega, rfl, by omega, rfl⟩

/-- Of what a registry returns, exactly the encodings of a value that are short enough are read, and
the digest is that of the value. -/
theorem readDynamicResult_iff [Keccak] {digest : Bytes32} :
    readDynamicResult result = (true, digest) ↔ result.success = true ∧
      ∃ value padding, Encodes result.returndata value padding ∧ digest = keccak256 value := by
  obtain ⟨success, data⟩ := result
  cases success with
  | false => simp [readDynamicResult]
  | true =>
    rw [readable_iff]
    constructor
    · rintro ⟨hmin, hmax, hoffset, htotal, rfl⟩
      refine ⟨rfl, _, (data.drop 64).drop (wordAt data 32).toNat, ⟨?_, ?_, hmax⟩, rfl⟩
      · have hlength : ((data.drop 64).take (wordAt data 32).toNat).length =
            (wordAt data 32).toNat := by
          rw [List.length_take, List.length_drop]
          omega
        rw [hlength, BitVec.ofNat_toNat, BitVec.setWidth_eq, ← hoffset, abiEncode_pair,
          abiEncode_wordAt (by omega), abiEncode_wordAt (by omega), List.append_assoc,
          List.take_append_drop, List.drop_zero, show data.drop 64 = (data.drop 32).drop 32 by simp,
          List.append_assoc, List.take_append_drop, List.take_append_drop]
      · rw [List.length_drop, List.length_drop, List.length_take, List.length_drop]
        omega
    · rintro ⟨-, value, padding, hencodes, rfl⟩
      obtain ⟨hmin, hoffset, htotal, hvalue⟩ := hencodes.readable
      exact ⟨hmin, hencodes.short, hoffset, htotal, by rw [hvalue]⟩

/-- Whatever comes back, reading it never reverts, and it succeeds exactly for the encodings of a
value of at most 1024 bytes, whose digest it gives. -/
theorem readDynamicResult_exact [Keccak] (result : CallResult) :
    readDynamicChecked result = .ok (readDynamicResult result) ∧
      (∀ digest, readDynamicResult result = (true, digest) ↔ result.success = true ∧
        ∃ value padding, Encodes result.returndata value padding ∧ digest = keccak256 value) ∧
      ((readDynamicResult result).1 = false → (readDynamicResult result).2 = 0) := by
  refine ⟨readDynamicChecked_eq, fun _ => readDynamicResult_iff, ?_⟩
  unfold readDynamicResult
  dsimp only
  split_ifs <;> simp

attribute [local instance] sampleKeccak in
/-- An encoding whose last word is not filled with zeros is read, too. -/
theorem padding_not_checked : ¬∀ result : CallResult, (readDynamicResult result).1 = true ↔
    result.success = true ∧ ∃ value, result.returndata = encodeDynamic value ∧
      result.returndata.length ≤ 1024 := by
  intro hclaim
  have hread : (readDynamicResult
      ⟨true, abiEncode [32, 1] ++ [7] ++ List.replicate 31 1⟩).1 = true := by decide +kernel
  obtain ⟨-, value, hvalue, -⟩ := (hclaim _).mp hread
  have hencodes : Encodes _ value (List.replicate ((32 - value.length % 32) % 32) 0) :=
    ⟨hvalue, List.length_replicate, by decide +kernel⟩
  have hseven := hencodes.readable.2.2.2
  rw [show (List.drop 64 _).take _ = ([7] : Bytes) by decide +kernel] at hseven
  subst hseven
  revert hvalue
  decide +kernel

end Cthuwu.Branding
