import Mathlib.Algebra.BigOperators.Group.Finset.Piecewise
import Mathlib.Algebra.BigOperators.Fin
import Mathlib.Algebra.Order.BigOperators.Group.Finset
import Mathlib.Data.List.MinMax

/-!
# Handing out a pool

A pool of units is divided among the open entries of `Fin n`. `evenly` gives every open entry the
same base and one unit more to the first ones. `award` hands what the rounded down shares left over
to the entries with the largest fractions, the earlier one on a tie, one unit each.

Both give exactly the pool away (`sum_evenly`, `sum_award`), since the floors leave less
than one unit for each open entry (`leftover_lt`), and neither touches a closed entry.
-/

open Finset

namespace Cthuwu.Apportion

variable {n : ℕ}

/-- The open entries. -/
def opened (active : Fin n → Bool) : Finset (Fin n) :=
  univ.filter fun i => active i = true

variable {i : Fin n} {fractions : Fin n → ℕ}

@[simp] theorem mem_opened {active : Fin n → Bool} : i ∈ opened active ↔ active i = true := by
  simp [opened]

theorem countP_finRange (active : Fin n → Bool) :
    (List.finRange n).countP active = (opened active).card := by
  unfold opened
  rw [Fin.univ_def]
  simp [List.countP_eq_length_filter, Finset.filter, Finset.card]

theorem sum_opened {f : Fin n → ℕ} {active : Fin n → Bool} (h : ∀ i, active i = false → f i = 0) :
    ∑ i, f i = ∑ i ∈ opened active, f i :=
  (sum_subset (subset_univ _) fun i _ hi => h i (by simpa using hi)).symm

theorem sum_update_add (f : Fin n → ℕ) (i : Fin n) (k : ℕ) :
    ∑ j, Function.update f i (f i + k) j = ∑ j, f j + k := by
  rw [sum_update_of_mem (mem_univ i), ← add_sum_erase univ f (mem_univ i), sdiff_singleton_eq_erase]
  omega

/-! ## Even shares -/

/-- Every open entry of the list gets the base, and the first `remainder` of them one more. -/
def evenly (base : ℕ) (active : Fin n → Bool) : List (Fin n) → ℕ → (Fin n → ℕ) → Fin n → ℕ
  | [], _, result => result
  | i :: rest, remainder, result =>
    if active i then
      if 0 < remainder then
        evenly base active rest (remainder - 1) (Function.update result i (base + 1))
      else evenly base active rest remainder (Function.update result i base)
    else evenly base active rest remainder result

variable {base : ℕ} {active : Fin n → Bool}

theorem evenly_closed (hi : active i = false) :
    ∀ (entries : List (Fin n)) (remainder : ℕ) (result : Fin n → ℕ),
      evenly base active entries remainder result i = result i
  | [], _, _ => rfl
  | j :: rest, remainder, result => by
    unfold evenly
    split_ifs with hj hr
    · have hne : i ≠ j := fun h => by simp [h, hj] at hi
      rw [evenly_closed hi rest, Function.update_of_ne hne]
    · have hne : i ≠ j := fun h => by simp [h, hj] at hi
      rw [evenly_closed hi rest, Function.update_of_ne hne]
    · exact evenly_closed hi rest remainder result

/-- The entries of the list get the base each, and one more as long as there is one. -/
theorem sum_evenly : ∀ (entries : List (Fin n)) (remainder : ℕ) (result : Fin n → ℕ),
    entries.Nodup → (∀ i ∈ entries, result i = 0) →
      ∑ i, evenly base active entries remainder result i =
        ∑ i, result i + base * entries.countP active + min remainder (entries.countP active)
  | [], _, _, _, _ => by simp [evenly]
  | i :: rest, remainder, result, hnodup, hzero => by
    have hkeep : ∀ b, ∀ j ∈ rest, Function.update result i b j = 0 := by
      intro b j hj
      have hne : j ≠ i := fun h => (List.nodup_cons.mp hnodup).1 (h ▸ hj)
      rw [Function.update_of_ne hne, hzero j (List.mem_cons_of_mem _ hj)]
    have hsum : ∀ b, ∑ j, Function.update result i b j = ∑ j, result j + b := by
      intro b
      rw [← sum_update_add, hzero i List.mem_cons_self, Nat.zero_add]
    have hrest := (List.nodup_cons.mp hnodup).2
    unfold evenly
    split_ifs with hi hr
    · rw [sum_evenly rest _ _ hrest (hkeep _), hsum, List.countP_cons_of_pos hi, Nat.mul_succ]
      omega
    · rw [sum_evenly rest _ _ hrest (hkeep _), hsum, List.countP_cons_of_pos hi, Nat.mul_succ]
      omega
    · rw [sum_evenly rest _ _ hrest fun j hj => hzero j (List.mem_cons_of_mem _ hj),
        List.countP_cons_of_neg hi]

/-- The base and the remainder of a pool give exactly the pool away. -/
theorem sum_evenly_pool {pool : ℕ} (hopen : 0 < (opened active).card) :
    ∑ i, evenly (pool / (opened active).card) active (List.finRange n)
      (pool % (opened active).card) (fun _ => 0) i = pool := by
  rw [sum_evenly _ _ _ (List.nodup_finRange n) fun _ _ => rfl, countP_finRange, sum_const_zero,
    Nat.zero_add, min_eq_left (Nat.mod_lt pool hopen).le, Nat.mul_comm]
  exact Nat.div_add_mod pool _

/-! ## Largest remainders -/

/-- The entry with the largest fraction, the first of them on a tie. -/
def largest (fractions : Fin n → ℕ) (active : Fin n → Bool) : Option (Fin n) :=
  ((List.finRange n).filter active).argmax fractions

theorem largest_active (h : largest fractions active = some i) : active i = true :=
  (List.mem_filter.mp (List.argmax_mem h)).2

theorem exists_largest (hi : active i = true) : ∃ j, largest fractions active = some j := by
  refine Option.ne_none_iff_exists'.mp fun hnone => ?_
  have hmem : i ∈ (List.finRange n).filter active :=
    List.mem_filter.mpr ⟨List.mem_finRange i, hi⟩
  rw [List.argmax_eq_none.mp hnone] at hmem
  exact List.not_mem_nil hmem

theorem largest_le (h : largest fractions active = some i) {j : Fin n} (hj : active j = true) :
    fractions j ≤ fractions i :=
  List.le_of_mem_argmax (List.mem_filter.mpr ⟨List.mem_finRange j, hj⟩) h

/-- One unit more for each of `remainder` open entries, by their fractions. -/
def award (fractions : Fin n → ℕ) (active : Fin n → Bool) :
    ℕ → (Fin n → Bool) → (Fin n → ℕ) → Fin n → ℕ
  | 0, _, result => result
  | remainder + 1, awarded, result =>
    match largest fractions fun i => active i && !awarded i with
    | none => result
    | some i =>
      award fractions active remainder (Function.update awarded i true)
        (Function.update result i (result i + 1))

/-- An entry that is closed or was awarded keeps its units. -/
theorem award_not_open : ∀ (remainder : ℕ) (awarded : Fin n → Bool) (result : Fin n → ℕ),
    (active i && !awarded i) = false → award fractions active remainder awarded result i = result i
  | 0, _, _, _ => rfl
  | remainder + 1, awarded, result, hi => by
    unfold award
    cases hj : largest fractions fun i => active i && !awarded i with
    | none => rfl
    | some j =>
      have hne : i ≠ j := fun h => by
        have hopen := largest_active hj
        rw [← h, hi] at hopen
        cases hopen
      simp only
      rw [award_not_open remainder, Function.update_of_ne hne]
      rwa [Function.update_of_ne hne]

theorem award_closed (hi : active i = false) (remainder : ℕ) (awarded : Fin n → Bool)
    (result : Fin n → ℕ) : award fractions active remainder awarded result i = result i :=
  award_not_open remainder awarded result (by simp [hi])

/-- An entry is awarded once at most. -/
theorem award_between : ∀ (remainder : ℕ) (awarded : Fin n → Bool) (result : Fin n → ℕ),
    result i ≤ award fractions active remainder awarded result i ∧
      award fractions active remainder awarded result i ≤ result i + 1
  | 0, _, _ => ⟨Nat.le_refl _, Nat.le_succ _⟩
  | remainder + 1, awarded, result => by
    unfold award
    cases hj : largest fractions fun i => active i && !awarded i with
    | none => exact ⟨Nat.le_refl _, Nat.le_succ _⟩
    | some j =>
      simp only
      by_cases hij : i = j
      · subst hij
        rw [award_not_open _ _ _ (by simp), Function.update_self]
        exact ⟨Nat.le_succ _, Nat.le_refl _⟩
      · have hrest := award_between remainder (Function.update awarded j true)
          (Function.update result j (result j + 1))
        rwa [Function.update_of_ne hij] at hrest

/-- An awarded entry is no longer open. -/
theorem opened_update_awarded {awarded : Fin n → Bool} :
    opened (fun j => active j && !Function.update awarded i true j) =
      (opened fun j => active j && !awarded j).erase i := by
  ext j
  by_cases h : j = i
  · subst h
    simp
  · simp [h]

/-- The whole remainder is handed out while enough entries are open. -/
theorem sum_award : ∀ (remainder : ℕ) (awarded : Fin n → Bool) (result : Fin n → ℕ),
      remainder ≤ (opened fun i => active i && !awarded i).card →
        ∑ i, award fractions active remainder awarded result i = ∑ i, result i + remainder
  | 0, _, _, _ => rfl
  | remainder + 1, awarded, result, hcard => by
    obtain ⟨i, hi⟩ := card_pos.mp (Nat.lt_of_lt_of_le (Nat.succ_pos remainder) hcard)
    obtain ⟨j, hj⟩ := @exists_largest n i fractions _ ((mem_opened).mp hi)
    have hopen : j ∈ opened fun i => active i && !awarded i := (mem_opened).mpr (largest_active hj)
    unfold award
    rw [hj]
    simp only
    rw [sum_award remainder, sum_update_add]
    · omega
    · rw [opened_update_awarded, card_erase_of_mem hopen]
      omega

/-- Nothing is awarded without a fraction while enough entries have one. -/
theorem award_of_fraction_zero (hi : fractions i = 0) :
    ∀ (remainder : ℕ) (awarded : Fin n → Bool) (result : Fin n → ℕ),
      remainder ≤ ((opened fun i => active i && !awarded i).filter (0 < fractions ·)).card →
        award fractions active remainder awarded result i = result i
  | 0, _, _, _ => rfl
  | remainder + 1, awarded, result, hcard => by
    obtain ⟨k, hk⟩ := card_pos.mp (Nat.lt_of_lt_of_le (Nat.succ_pos remainder) hcard)
    obtain ⟨hopen, hfraction⟩ := mem_filter.mp hk
    obtain ⟨j, hj⟩ := @exists_largest n k fractions _ ((mem_opened).mp hopen)
    have hpos : 0 < fractions j := hfraction.trans_le (largest_le hj ((mem_opened).mp hopen))
    have hne : i ≠ j := fun h => by rw [← h, hi] at hpos; exact Nat.lt_irrefl 0 hpos
    have hmem : j ∈ (opened fun i => active i && !awarded i).filter (0 < fractions ·) :=
      mem_filter.mpr ⟨(mem_opened).mpr (largest_active hj), hpos⟩
    unfold award
    rw [hj]
    simp only
    rw [award_of_fraction_zero hi remainder, Function.update_of_ne hne]
    rw [opened_update_awarded, filter_erase, card_erase_of_mem hmem]
    omega

/-! ## Shares rounded down -/

variable {values : Fin n → ℕ} {entries : Finset (Fin n)} {pool total : ℕ}

/-- The floors of the exact shares and the fractions left over make up the pool. -/
theorem sum_floors (htotal : ∑ i ∈ entries, values i = total) :
    total * ∑ i ∈ entries, values i * pool / total + ∑ i ∈ entries, values i * pool % total =
      total * pool := by
  rw [mul_sum, ← sum_add_distrib, ← htotal, sum_mul]
  exact sum_congr rfl fun i _ => Nat.div_add_mod _ _

/-- The floors never give away more than there is. -/
theorem sum_floors_le (htotal : ∑ i ∈ entries, values i = total) (hpos : 0 < total) :
    ∑ i ∈ entries, values i * pool / total ≤ pool := by
  have hfloors := @sum_floors n values entries pool total htotal
  exact Nat.le_of_mul_le_mul_left (by omega) hpos

/-- Less than one unit for each entry is left over. -/
theorem leftover_lt (htotal : ∑ i ∈ entries, values i = total) (hpos : 0 < total) :
    pool - ∑ i ∈ entries, values i * pool / total < entries.card := by
  have hfloors := @sum_floors n values entries pool total htotal
  have hnonempty : entries.Nonempty := by
    rw [nonempty_iff_ne_empty]
    rintro rfl
    rw [sum_empty] at htotal
    omega
  have hmods : ∑ i ∈ entries, values i * pool % total < ∑ _i ∈ entries, total :=
    sum_lt_sum_of_nonempty hnonempty fun i _ => Nat.mod_lt _ hpos
  rw [sum_const, smul_eq_mul, Nat.mul_comm] at hmods
  refine Nat.lt_of_mul_lt_mul_left (a := total) ?_
  rw [Nat.mul_sub]
  omega

/-- No more units are left over than there are fractions. -/
theorem leftover_le (htotal : ∑ i ∈ entries, values i = total) (hpos : 0 < total) :
    pool - ∑ i ∈ entries, values i * pool / total ≤
      (entries.filter fun i => 0 < values i * pool % total).card := by
  have hfloors := @sum_floors n values entries pool total htotal
  have hmods : ∑ i ∈ entries, values i * pool % total ≤
      (entries.filter fun i => 0 < values i * pool % total).card * total := by
    rw [← smul_eq_mul, ← sum_const, sum_filter]
    refine sum_le_sum fun i _ => ?_
    split_ifs with h
    · exact (Nat.mod_lt _ hpos).le
    · omega
  rw [Nat.mul_comm] at hmods
  refine Nat.le_of_mul_le_mul_left ?_ hpos
  rw [Nat.mul_sub]
  omega

/-- The floors of the open entries, with one unit more for the largest fractions, give exactly the
pool away. -/
theorem sum_award_floors (htotal : ∑ i ∈ opened active, values i = total) (hpos : 0 < total) :
    ∑ i, award fractions active (pool - ∑ i ∈ opened active, values i * pool / total)
      (fun _ => false) (fun i => if active i then values i * pool / total else 0) i = pool := by
  have hfloors : ∑ i ∈ opened active, (if active i then values i * pool / total else 0) =
      ∑ i ∈ opened active, values i * pool / total :=
    sum_congr rfl fun i hi => if_pos ((mem_opened).mp hi)
  have hclosed : ∀ i, active i = false → (if active i then values i * pool / total else 0) = 0 :=
    fun i hi => by simp [hi]
  rw [sum_award, sum_opened hclosed, hfloors]
  · exact Nat.add_sub_cancel' (sum_floors_le htotal hpos)
  · simp only [Bool.not_false, Bool.and_true]
    exact (leftover_lt htotal hpos).le

/-- The awarded floors are within one unit of the exact shares. -/
theorem award_near (htotal : ∑ i ∈ opened active, values i = total) (hpos : 0 < total)
    (hi : active i = true) {share : ℕ}
    (h : award (fun i => if active i then values i * pool % total else 0) active
      (pool - ∑ i ∈ opened active, values i * pool / total) (fun _ => false)
      (fun i => if active i then values i * pool / total else 0) i = share) :
    share * total < values i * pool + total ∧ values i * pool < (share + 1) * total := by
  have hvalue := Nat.div_add_mod (values i * pool) total
  have hmod := Nat.mod_lt (values i * pool) hpos
  have hfractions : ((opened fun i => active i && !false).filter
      (0 < (fun i => if active i then values i * pool % total else 0) ·)) =
        (opened active).filter fun i => 0 < values i * pool % total := by
    ext j
    cases hj : active j <;> simp [hj]
  obtain ⟨hlow, hhigh⟩ := @award_between n i _ active
    (pool - ∑ i ∈ opened active, values i * pool / total) (fun _ => false)
    fun i => if active i then values i * pool / total else 0
  have hfloor : (if active i then values i * pool / total else 0) = values i * pool / total :=
    if_pos hi
  rw [h, hfloor] at hlow hhigh
  have hbelow : total * (values i * pool / total) ≤ total * share := Nat.mul_le_mul_left _ hlow
  have habove : total * share ≤ total * (values i * pool / total + 1) :=
    Nat.mul_le_mul_left _ hhigh
  rw [Nat.mul_succ] at habove
  rw [Nat.succ_mul, Nat.mul_comm share]
  refine ⟨?_, by omega⟩
  rcases Nat.eq_zero_or_pos (values i * pool % total) with hzero | hfraction
  · have hkept := @award_of_fraction_zero n i
      (fun i => if active i then values i * pool % total else 0) active (by simp [hi, hzero])
      (pool - ∑ i ∈ opened active, values i * pool / total) (fun _ => false)
      (fun i => if active i then values i * pool / total else 0)
      ((leftover_le htotal hpos).trans_eq (congrArg card hfractions.symm))
    rw [h, hfloor] at hkept
    rw [hkept]
    omega
  · omega

end Cthuwu.Apportion
