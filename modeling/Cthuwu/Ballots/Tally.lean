import Mathlib.Algebra.BigOperators.Group.List.Lemmas
import Cthuwu.Ballots.Box

/-!
# Tallies are exact

The shares a box has taken never pass the eligible weight, and a multiplier is of sixteen bits, so the
effective weights of all ballots together still fit sixteen bits (`Sound.effective_le`). Every sum of a
tally is then the exact one, and the comparisons of a result are those of the exact sums. A result
depends only on what ballots a box holds (`result_eq_of_same`) : which casts a box takes, and what it
holds after them, can be told without their order.
-/

namespace Cthuwu.Ballots

open TokenEye (Address)
open TokenBallot Fallible GovernanceTally

/-! ## Arithmetic of weights -/

theorem toNat_saturatingAdd (a b : UInt16) :
    (saturatingAdd a b).toNat = min (a.toNat + b.toNat) 65535 :=
  UInt16.toNat_ofNat_of_lt' (by unfold UInt16.size; omega)

theorem checkedAdd_eq_some {a b c : UInt16} :
    checkedAdd a b = some c ↔ c.toNat = a.toNat + b.toNat := by
  have hc := c.toNat_lt
  unfold checkedAdd
  split_ifs with h
  · have hadd : (a + b).toNat = a.toNat + b.toNat := by
      rw [UInt16.toNat_add, Nat.mod_eq_of_lt h]
    rw [Option.some.injEq, ← UInt16.toNat_inj, hadd, eq_comm]
  · constructor
    · intro hnone
      cases hnone
    · intro hsum
      omega

/-- A share under a multiplier never meets the bound of its bits. -/
theorem toNat_applyMultiplier {weight multiplier : UInt16} (h : weight ≤ normalizedWeightMaxBps) :
    (applyMultiplier weight multiplier).toNat = weight.toNat * multiplier.toNat / 10000 := by
  have hweight : weight.toNat ≤ 10000 := UInt16.le_iff_toNat_le.mp h
  have hmultiplier : multiplier.toNat ≤ 65535 := Nat.le_of_lt_succ multiplier.toNat_lt
  have hmul : weight.toNat * multiplier.toNat ≤ 10000 * 65535 := Nat.mul_le_mul hweight hmultiplier
  have hdiv : weight.toNat * multiplier.toNat / 10000 ≤ 65535 := by omega
  unfold applyMultiplier
  rw [UInt16.toNat_ofNat_of_lt' (by unfold UInt16.size; omega), min_eq_left hdiv]

theorem ceilBasisPoints_le {value rate weight : UInt16} (hvalue : value ≤ normalizedWeightMaxBps)
    (hrate : rate ≤ normalizedWeightMaxBps) :
    ceilBasisPoints value rate ≤ weight ↔ value.toNat * rate.toNat ≤ weight.toNat * 10000 := by
  have hvalue : value.toNat ≤ 10000 := UInt16.le_iff_toNat_le.mp hvalue
  have hrate : rate.toNat ≤ 10000 := UInt16.le_iff_toNat_le.mp hrate
  have hmul : value.toNat * rate.toNat ≤ 10000 * 10000 := Nat.mul_le_mul hvalue hrate
  have hlt : (value.toNat * rate.toNat + 9999) / 10000 < 65536 := by omega
  unfold ceilBasisPoints
  rw [if_pos hlt, UInt16.le_iff_toNat_le, UInt16.toNat_ofNat_of_lt' hlt]
  omega

/-! ## What a tally adds up -/

/-- The holdings a tally has of a choice. -/
def GovernanceTally.holdingBps (t : GovernanceTally) : BallotChoice → UInt16
  | .yes => t.yesHoldingBps
  | .no => t.noHoldingBps
  | .abstain => t.abstainHoldingBps

/-- The effective weight a tally has of a choice. -/
def GovernanceTally.effectiveBps (t : GovernanceTally) : BallotChoice → UInt16
  | .yes => t.yesEffectiveBps
  | .no => t.noEffectiveBps
  | .abstain => t.abstainEffectiveBps

/-- The exact sum of a weight over the ballots of a choice. -/
def sumOf (weight : TokenBallot → UInt16) (choice : BallotChoice) (ballots : List TokenBallot) : ℕ :=
  ((ballots.filter (·.choice = choice)).map fun ballot => (weight ballot).toNat).sum

/-- The exact sum of a weight over all ballots. -/
def totalOf (weight : TokenBallot → UInt16) (ballots : List TokenBallot) : ℕ :=
  (ballots.map fun ballot => (weight ballot).toNat).sum

theorem sumOf_cons (weight : TokenBallot → UInt16) (choice : BallotChoice) (ballot : TokenBallot)
    (ballots : List TokenBallot) : sumOf weight choice (ballot :: ballots) =
      (if ballot.choice = choice then (weight ballot).toNat else 0) + sumOf weight choice ballots := by
  unfold sumOf
  rw [List.filter_cons]
  split_ifs <;> simp_all

theorem totalOf_cons (weight : TokenBallot → UInt16) (ballot : TokenBallot)
    (ballots : List TokenBallot) :
    totalOf weight (ballot :: ballots) = (weight ballot).toNat + totalOf weight ballots :=
  List.sum_cons

variable {choice : BallotChoice}

theorem sumOf_perm {weight : TokenBallot → UInt16} {ballots ballots' : List TokenBallot}
    (h : ballots.Perm ballots') : sumOf weight choice ballots = sumOf weight choice ballots' :=
  ((h.filter _).map _).sum_eq

theorem totalOf_eq (weight : TokenBallot → UInt16) (ballots : List TokenBallot) :
    totalOf weight ballots =
      sumOf weight .yes ballots + sumOf weight .no ballots + sumOf weight .abstain ballots := by
  induction ballots with
  | nil => rfl
  | cons ballot ballots ih =>
    rw [totalOf_cons, ih, sumOf_cons, sumOf_cons, sumOf_cons]
    rcases ballot.choice <;> simp <;> omega

/-- A field that adds up a weight of a choice is the exact sum, or the greatest weight. -/
theorem toNat_foldl_add (field : GovernanceTally → UInt16) {weight : TokenBallot → UInt16}
    (hadd : ∀ t ballot, field (t.add ballot) =
      if ballot.choice = choice then saturatingAdd (field t) (weight ballot) else field t)
    (ballots : List TokenBallot) (t : GovernanceTally) :
    (field (ballots.foldl GovernanceTally.add t)).toNat =
      min ((field t).toNat + sumOf weight choice ballots) 65535 := by
  induction ballots generalizing t with
  | nil =>
    have := (field t).toNat_lt
    simp only [List.foldl_nil, sumOf, List.filter_nil, List.map_nil, List.sum_nil]
    omega
  | cons ballot ballots ih =>
    rw [List.foldl_cons, ih, hadd, sumOf_cons]
    split_ifs
    · rw [toNat_saturatingAdd]
      omega
    · rw [Nat.zero_add]

theorem holdingBps_add (choice : BallotChoice) (t : GovernanceTally) (ballot : TokenBallot) :
    (t.add ballot).holdingBps choice = if ballot.choice = choice
      then saturatingAdd (t.holdingBps choice) ballot.holdingWeightBps else t.holdingBps choice := by
  unfold GovernanceTally.add
  cases choice <;> cases ballot.choice <;> rfl

theorem effectiveBps_add (choice : BallotChoice) (t : GovernanceTally) (ballot : TokenBallot) :
    (t.add ballot).effectiveBps choice = if ballot.choice = choice
      then saturatingAdd (t.effectiveBps choice) ballot.effectiveWeightBps
      else t.effectiveBps choice := by
  unfold GovernanceTally.add
  cases choice <;> cases ballot.choice <;> rfl

theorem ballotCount_foldl_add (ballots : List TokenBallot) (t : GovernanceTally) :
    (ballots.foldl GovernanceTally.add t).ballotCount = t.ballotCount := by
  induction ballots generalizing t with
  | nil => rfl
  | cons ballot ballots ih =>
    rw [List.foldl_cons, ih]
    unfold GovernanceTally.add
    cases ballot.choice <;> rfl

theorem participating_foldl_add (ballots : List TokenBallot) (t : GovernanceTally) :
    (ballots.foldl GovernanceTally.add t).participatingHoldingBps = t.participatingHoldingBps ∧
      (ballots.foldl GovernanceTally.add t).participatingEffectiveBps =
        t.participatingEffectiveBps := by
  induction ballots generalizing t with
  | nil => exact ⟨rfl, rfl⟩
  | cons ballot ballots ih =>
    rw [List.foldl_cons, (ih _).1, (ih _).2]
    unfold GovernanceTally.add
    cases ballot.choice <;> exact ⟨rfl, rfl⟩

namespace TokenBallotBox

variable {b b' : TokenBallotBox}

theorem holdingBps_counted (b : TokenBallotBox) (choice : BallotChoice) :
    (b.counted.holdingBps choice).toNat =
      min (sumOf holdingWeightBps choice b.ballots.values) 65535 := by
  unfold counted
  rw [toNat_foldl_add (·.holdingBps choice) (holdingBps_add choice)]
  cases choice <;> simp [holdingBps]

theorem effectiveBps_counted (b : TokenBallotBox) (choice : BallotChoice) :
    (b.counted.effectiveBps choice).toNat =
      min (sumOf effectiveWeightBps choice b.ballots.values) 65535 := by
  unfold counted
  rw [toNat_foldl_add (·.effectiveBps choice) (effectiveBps_add choice)]
  cases choice <;> simp [effectiveBps]

/-- The exact sums, all of which fit. -/
structure Exact (t : GovernanceTally) (ballots : List TokenBallot) : Prop where
  ballotCount : t.ballotCount = ballots.length
  holding : ∀ choice, (t.holdingBps choice).toNat = sumOf holdingWeightBps choice ballots
  effective : ∀ choice, (t.effectiveBps choice).toNat = sumOf effectiveWeightBps choice ballots
  participatingHolding : t.participatingHoldingBps.toNat = totalOf holdingWeightBps ballots
  participatingEffective : t.participatingEffectiveBps.toNat = totalOf effectiveWeightBps ballots

theorem exact_tally (hholding : totalOf holdingWeightBps b.ballots.values ≤ 65535)
    (heffective : totalOf effectiveWeightBps b.ballots.values ≤ 65535) :
    Exact b.tally b.ballots.values := by
  rw [totalOf_eq] at hholding heffective
  have hyes := holdingBps_counted b .yes
  have hno := holdingBps_counted b .no
  have habstain := holdingBps_counted b .abstain
  have hyesEffective := effectiveBps_counted b .yes
  have hnoEffective := effectiveBps_counted b .no
  have habstainEffective := effectiveBps_counted b .abstain
  constructor
  · unfold tally counted
    rw [HashMap.length_values]
    exact ballotCount_foldl_add _ _
  · intro choice
    cases choice
    · exact hyes.trans (by omega)
    · exact hno.trans (by omega)
    · exact habstain.trans (by omega)
  · intro choice
    cases choice
    · exact hyesEffective.trans (by omega)
    · exact hnoEffective.trans (by omega)
    · exact habstainEffective.trans (by omega)
  · unfold tally
    rw [toNat_saturatingAdd, toNat_saturatingAdd, totalOf_eq]
    simp only [holdingBps] at hyes hno habstain
    omega
  · unfold tally
    rw [toNat_saturatingAdd, toNat_saturatingAdd, totalOf_eq]
    simp only [effectiveBps] at hyesEffective hnoEffective habstainEffective
    omega

end TokenBallotBox

/-! ## Casting -/

structure Acceptable (b : TokenBallotBox) (c : Cast) : Prop where
  weight : c.holdingWeightBps ≤ normalizedWeightMaxBps
  fresh : b.ballots.get c.voter = none
  tier : c.tier.meets b.policy.minimumTier = true
  eligible : b.participatingHoldingBps.toNat + c.holdingWeightBps.toNat ≤ b.eligibleWeightBps.toNat

def TokenBallotBox.with (b : TokenBallotBox) (c : Cast) : TokenBallotBox :=
  { b with
    ballots := b.ballots.insert c.voter (c.ballot b.policy)
    participatingHoldingBps := b.participatingHoldingBps + c.holdingWeightBps }

theorem cast_ok {c : Cast} {b b' : TokenBallotBox} {ballot : TokenBallot} :
    (cast c).exec b = (.ok ballot, b') ↔
      Acceptable b c ∧ ballot = c.ballot b.policy ∧ b' = b.with c := by
  have hlt := b.eligibleWeightBps.toNat_lt
  unfold cast validateNormalized
  simp only [lift_bind_ok, exec_get_bind, exec_modify_bind,
    exec_pure, failIf_ok, okOr_ok, checkedAdd_eq_some, Prod.mk.injEq, Except.ok.injEq,
    exists_unit, UInt16.not_lt, Bool.not_eq_true, Bool.not_eq_false, HashMap.contains_eq_false]
  constructor
  · rintro ⟨hweight, hfresh, htier, next, hnext, heligible, rfl, rfl⟩
    have hle : next.toNat ≤ b.eligibleWeightBps.toNat := UInt16.le_iff_toNat_le.mp heligible
    have hadd : next = b.participatingHoldingBps + c.holdingWeightBps := by
      rw [← UInt16.toNat_inj, UInt16.toNat_add, Nat.mod_eq_of_lt (by omega), hnext]
    refine ⟨⟨hweight, hfresh, htier, by omega⟩, rfl, ?_⟩
    rw [hadd]
    rfl
  · rintro ⟨⟨hweight, hfresh, htier, heligible⟩, rfl, rfl⟩
    have hadd : (b.participatingHoldingBps + c.holdingWeightBps).toNat =
        b.participatingHoldingBps.toNat + c.holdingWeightBps.toNat := by
      rw [UInt16.toNat_add, Nat.mod_eq_of_lt (by omega)]
    refine ⟨hweight, hfresh, htier, _, hadd, ?_, rfl, rfl⟩
    rw [UInt16.le_iff_toNat_le]
    omega

/-- A cast that fails leaves no trace. -/
theorem cast_atomic (c : Cast) : Fallible.Atomic (cast c) := by
  unfold cast
  refine (readOnly_lift _).bind_atomic fun _ => Fallible.readOnly_get.bind_atomic fun b => ?_
  refine (readOnly_lift _).bind_atomic fun _ => (readOnly_lift _).bind_atomic fun _ => ?_
  refine (readOnly_lift _).bind_atomic fun _ => (readOnly_lift _).bind_atomic fun _ => ?_
  exact Fallible.Infallible.atomic ((infallible_modify _).bind fun _ =>
    (infallible_modify _).bind fun _ => infallible_pure _)

theorem cast_cases (c : Cast) (b : TokenBallotBox) :
    (Acceptable b c ∧ (cast c).exec b = (.ok (c.ballot b.policy), b.with c)) ∨
      (¬Acceptable b c ∧ ∃ e, (cast c).exec b = (.error e, b)) := by
  rcases h : (cast c).exec b with ⟨e | ballot, b'⟩
  · refine .inr ⟨fun hacceptable => ?_, e, ?_⟩
    · have hok := (cast_ok).mpr ⟨hacceptable, rfl, rfl⟩
      rw [h] at hok
      cases hok
    · have hatomic := cast_atomic c b e (congrArg Prod.fst h)
      unfold Fallible.after at hatomic
      rw [h] at hatomic
      rw [← hatomic]
  · obtain ⟨hacceptable, rfl, rfl⟩ := (cast_ok).mp h
    exact .inl ⟨hacceptable, rfl⟩

namespace TokenBallotBox

/-- The box after one cast, taken or not. -/
def afterCast (b : TokenBallotBox) (c : Cast) : TokenBallotBox :=
  (cast c).after b

def afterCasts (b : TokenBallotBox) (casts : List Cast) : TokenBallotBox :=
  casts.foldl afterCast b

theorem afterCast_eq (b : TokenBallotBox) (c : Cast) :
    (Acceptable b c ∧ b.afterCast c = b.with c) ∨ (¬Acceptable b c ∧ b.afterCast c = b) := by
  unfold afterCast Fallible.after
  rcases cast_cases c b with ⟨h, hexec⟩ | ⟨h, e, hexec⟩
  · exact .inl ⟨h, by rw [hexec]⟩
  · exact .inr ⟨h, by rw [hexec]⟩

theorem afterCast_of_acceptable {b : TokenBallotBox} {c : Cast} (h : Acceptable b c) :
    b.afterCast c = b.with c :=
  (b.afterCast_eq c).elim And.right fun hnot => absurd h hnot.1

/-! ## Sound boxes -/

/-- What holds of a box that was made and cast into. -/
structure Sound (b : TokenBallotBox) : Prop where
  eligible : b.eligibleWeightBps ≤ normalizedWeightMaxBps
  quorum : b.policy.quorumBps ≤ normalizedWeightMaxBps
  approval : b.policy.approvalBps ≤ normalizedWeightMaxBps
  participating : b.participatingHoldingBps.toNat = totalOf holdingWeightBps b.ballots.values
  participating_le : b.participatingHoldingBps.toNat ≤ b.eligibleWeightBps.toNat
  ballot : ∀ voter ballot, b.ballots.get voter = some ballot → ballot.voter = voter ∧
    ballot.holdingWeightBps ≤ normalizedWeightMaxBps ∧ ballot.effectiveWeightBps =
        applyMultiplier ballot.holdingWeightBps (b.policy.scaledMultiplier ballot.tier)

theorem Sound.new {proposalId : TokenProposalId} {subject : GovernanceSubject}
    {eligibleWeightBps : UInt16} {policy : TokenGovernancePolicy} {b : TokenBallotBox}
    (h : TokenBallotBox.new proposalId subject eligibleWeightBps policy = .ok b) : Sound b := by
  unfold TokenBallotBox.new TokenGovernancePolicy.validate validateNormalized at h
  simp only [except_bind_ok, failIf_ok, exists_unit, except_pure_ok, UInt16.not_lt] at h
  obtain ⟨heligible, _, ⟨hquorum, happroval, -, rfl⟩, rfl⟩ := h
  refine ⟨heligible, hquorum, happroval, rfl, Nat.zero_le _, ?_⟩
  intro voter ballot hget
  rw [HashMap.get_empty] at hget
  cases hget

theorem Sound.with {b : TokenBallotBox} (hb : Sound b) {c : Cast} (h : Acceptable b c) :
    Sound (b.with c) := by
  have hlt := b.eligibleWeightBps.toNat_lt
  have heligible := h.eligible
  have hadd : (b.participatingHoldingBps + c.holdingWeightBps).toNat =
      b.participatingHoldingBps.toNat + c.holdingWeightBps.toNat := by
    rw [UInt16.toNat_add, Nat.mod_eq_of_lt (by omega)]
  refine ⟨hb.eligible, hb.quorum, hb.approval, ?_, ?_, ?_⟩
  · have hvalues := HashMap.values_insert_fresh (v := c.ballot b.policy) h.fresh
    unfold TokenBallotBox.with
    dsimp only
    rw [hvalues, totalOf_cons, hadd, hb.participating, Nat.add_comm]
    rfl
  · unfold TokenBallotBox.with
    dsimp only
    rw [hadd]
    exact heligible
  · intro voter ballot hget
    have hget : (b.ballots.insert c.voter (c.ballot b.policy)).get voter = some ballot := hget
    rw [HashMap.get_insert_apply] at hget
    split_ifs at hget with hvoter
    · cases hget
      exact ⟨hvoter.symm, h.weight, rfl⟩
    · exact hb.ballot voter ballot hget

theorem Sound.afterCast {b : TokenBallotBox} (hb : Sound b) (c : Cast) : Sound (b.afterCast c) := by
  rcases b.afterCast_eq c with ⟨h, heq⟩ | ⟨-, heq⟩
  · rw [heq]
    exact hb.with h
  · rwa [heq]

theorem Sound.afterCasts {b : TokenBallotBox} (hb : Sound b) (casts : List Cast) :
    Sound (b.afterCasts casts) := by
  unfold TokenBallotBox.afterCasts
  induction casts generalizing b with
  | nil => exact hb
  | cons c casts ih => exact ih (hb.afterCast c)

/-- Under a multiplier of sixteen bits the shares of ballots stay within sixteen bits together. -/
theorem totalOf_effective_le {ballots : List TokenBallot}
    (h : ∀ ballot ∈ ballots, ballot.effectiveWeightBps.toNat * 10000 ≤
      ballot.holdingWeightBps.toNat * 65535) :
    totalOf effectiveWeightBps ballots * 10000 ≤ totalOf holdingWeightBps ballots * 65535 := by
  induction ballots with
  | nil => exact le_rfl
  | cons ballot ballots ih =>
    have hballot := h ballot List.mem_cons_self
    have hballots := ih fun x hx => h x (List.mem_cons_of_mem _ hx)
    rw [totalOf_cons, totalOf_cons, Nat.add_mul, Nat.add_mul]
    exact Nat.add_le_add hballot hballots

theorem Sound.holding_le {b : TokenBallotBox} (hb : Sound b) :
    totalOf holdingWeightBps b.ballots.values ≤ 10000 := by
  have heligible : b.eligibleWeightBps.toNat ≤ 10000 := UInt16.le_iff_toNat_le.mp hb.eligible
  rw [← hb.participating]
  exact hb.participating_le.trans heligible

theorem Sound.effective_le {b : TokenBallotBox} (hb : Sound b) :
    totalOf effectiveWeightBps b.ballots.values ≤ 65535 := by
  have hholding := hb.holding_le
  have heffective : totalOf effectiveWeightBps b.ballots.values * 10000 ≤
      totalOf holdingWeightBps b.ballots.values * 65535 := by
    refine totalOf_effective_le fun ballot hballot => ?_
    obtain ⟨voter, hget⟩ := HashMap.mem_values.mp hballot
    obtain ⟨-, hweight, heffective⟩ := hb.ballot voter ballot hget
    have hmultiplier := (b.policy.scaledMultiplier ballot.tier).toNat_lt
    rw [heffective, toNat_applyMultiplier hweight]
    refine (Nat.div_mul_le_self _ _).trans (Nat.mul_le_mul_left _ ?_)
    omega
  omega

theorem Sound.exact {b : TokenBallotBox} (hb : Sound b) : Exact b.tally b.ballots.values :=
  exact_tally (hb.holding_le.trans (by omega)) hb.effective_le

/-! ## Outcomes -/

/-- The exact effective weight for a proposal. -/
def yesWeight (b : TokenBallotBox) : ℕ :=
  sumOf effectiveWeightBps .yes b.ballots.values

/-- The exact effective weight against a proposal. -/
def noWeight (b : TokenBallotBox) : ℕ :=
  sumOf effectiveWeightBps .no b.ballots.values

/-- The quorum, in exact arithmetic. -/
def MeetsQuorum (b : TokenBallotBox) : Prop :=
  b.eligibleWeightBps.toNat * b.policy.quorumBps.toNat ≤
    totalOf holdingWeightBps b.ballots.values * 10000

theorem Sound.quorumMet {b : TokenBallotBox} (hb : Sound b) :
    b.result.quorumMet = true ↔ b.MeetsQuorum := by
  unfold result MeetsQuorum
  dsimp only
  rw [decide_eq_true_iff, ceilBasisPoints_le hb.eligible hb.quorum, hb.exact.participatingHolding]

theorem Sound.approved {b : TokenBallotBox} (hb : Sound b) :
    b.result.outcome = .approved ↔ b.MeetsQuorum ∧ 0 < b.yesWeight + b.noWeight ∧
      b.policy.approvalBps.toNat * (b.yesWeight + b.noWeight) ≤ b.yesWeight * 10000 := by
  have hyes : b.tally.yesEffectiveBps.toNat = b.yesWeight := hb.exact.effective .yes
  have hno : b.tally.noEffectiveBps.toNat = b.noWeight := hb.exact.effective .no
  have hle : b.yesWeight + b.noWeight ≤ 65535 := by
    have htotal := hb.effective_le
    rw [totalOf_eq] at htotal
    unfold yesWeight noWeight
    omega
  have hdecisive : (saturatingAdd b.tally.yesEffectiveBps b.tally.noEffectiveBps).toNat =
      b.yesWeight + b.noWeight := by
    rw [toNat_saturatingAdd, hyes, hno, min_eq_left hle]
  have hzero : saturatingAdd b.tally.yesEffectiveBps b.tally.noEffectiveBps = 0 ↔
      b.yesWeight + b.noWeight = 0 := by
    rw [← UInt16.toNat_inj, hdecisive]
    rfl
  have hquorum : (b.result.quorumMet = false) ↔ ¬b.MeetsQuorum := by
    rw [← Bool.not_eq_true, hb.quorumMet]
  have houtcome : b.result.outcome =
      if b.result.quorumMet = false then GovernanceOutcome.quorumNotMet
      else if saturatingAdd b.tally.yesEffectiveBps b.tally.noEffectiveBps = 0 then
        .noDecisiveWeight
      else if b.policy.approvalBps ≤ b.result.approvalAchievedBps then .approved
      else .rejected := rfl
  rw [houtcome]
  by_cases hmeets : b.MeetsQuorum
  · rw [if_neg (mt hquorum.mp (not_not.mpr hmeets))]
    by_cases hnone : b.yesWeight + b.noWeight = 0
    · rw [if_pos (hzero.mpr hnone)]
      simp [hnone]
    · have hpos : 0 < b.yesWeight + b.noWeight := Nat.pos_of_ne_zero hnone
      have hachieved : b.result.approvalAchievedBps.toNat =
          b.yesWeight * 10000 / (b.yesWeight + b.noWeight) := by
        have hfits : b.yesWeight * 10000 / (b.yesWeight + b.noWeight) ≤ 10000 :=
          Nat.div_le_of_le_mul (Nat.mul_le_mul_right _ (Nat.le_add_right _ _))
        unfold result
        dsimp only
        rw [if_neg (mt hzero.mp hnone), hdecisive, hyes, if_pos (by omega),
          UInt16.toNat_ofNat_of_lt' (by unfold UInt16.size; omega)]
      have hreached : b.policy.approvalBps ≤ b.result.approvalAchievedBps ↔
          b.policy.approvalBps.toNat * (b.yesWeight + b.noWeight) ≤ b.yesWeight * 10000 := by
        rw [UInt16.le_iff_toNat_le, hachieved, Nat.le_div_iff_mul_le hpos]
      rw [if_neg (mt hzero.mp hnone)]
      split_ifs with h
      · simpa [hmeets, hpos] using hreached.mp h
      · simpa [hmeets, hpos] using mt hreached.mpr h
  · rw [if_pos (hquorum.mpr hmeets)]
    simp [hmeets]

/-! ## The order of casts -/

/-- Boxes on one proposal that hold the same ballots. -/
structure Same (b b' : TokenBallotBox) : Prop where
  proposalId : b.proposalId = b'.proposalId
  subject : b.subject = b'.subject
  eligible : b.eligibleWeightBps = b'.eligibleWeightBps
  policy : b.policy = b'.policy
  ballots : ∀ voter, b.ballots.get voter = b'.ballots.get voter

theorem counted_eq_of_same {b b' : TokenBallotBox} (h : Same b b') : b.counted = b'.counted := by
  have hpairs := HashMap.pairs_perm h.ballots
  have hvalues : b.ballots.values.Perm b'.ballots.values := hpairs.map _
  have hholding : ∀ choice, b.counted.holdingBps choice = b'.counted.holdingBps choice := by
    intro choice
    rw [← UInt16.toNat_inj, holdingBps_counted, holdingBps_counted, sumOf_perm hvalues]
  have heffective : ∀ choice, b.counted.effectiveBps choice = b'.counted.effectiveBps choice := by
    intro choice
    rw [← UInt16.toNat_inj, effectiveBps_counted, effectiveBps_counted, sumOf_perm hvalues]
  have hcount : b.counted.ballotCount = b'.counted.ballotCount := by
    unfold counted
    rw [ballotCount_foldl_add, ballotCount_foldl_add, ← HashMap.length_values,
      ← HashMap.length_values, hvalues.length_eq]
  obtain ⟨hparticipating, hweighing⟩ := participating_foldl_add b.ballots.values
    ⟨b.ballots.len, 0, 0, 0, 0, 0, 0, 0, 0⟩
  obtain ⟨hparticipating', hweighing'⟩ := participating_foldl_add b'.ballots.values
    ⟨b'.ballots.len, 0, 0, 0, 0, 0, 0, 0, 0⟩
  ext1
  · exact hcount
  · exact hholding .yes
  · exact hholding .no
  · exact hholding .abstain
  · exact hparticipating.trans hparticipating'.symm
  · exact heffective .yes
  · exact heffective .no
  · exact heffective .abstain
  · exact hweighing.trans hweighing'.symm

/-- A result is a matter of the ballots alone. -/
theorem result_eq_of_same {b b' : TokenBallotBox} (h : Same b b') : b.result = b'.result := by
  have htally : b.tally = b'.tally := by
    unfold tally
    rw [counted_eq_of_same h]
  unfold result
  rw [h.proposalId, h.subject, h.eligible, h.policy, htally]

theorem afterCasts_fixed (b : TokenBallotBox) (casts : List Cast) :
    (b.afterCasts casts).proposalId = b.proposalId ∧ (b.afterCasts casts).subject = b.subject ∧
      (b.afterCasts casts).eligibleWeightBps = b.eligibleWeightBps ∧
        (b.afterCasts casts).policy = b.policy := by
  unfold afterCasts
  induction casts generalizing b with
  | nil => exact ⟨rfl, rfl, rfl, rfl⟩
  | cons c casts ih =>
    rw [List.foldl_cons]
    have hfixed := ih (b.afterCast c)
    rcases b.afterCast_eq c with ⟨-, heq⟩ | ⟨-, heq⟩
    · rw [heq] at hfixed ⊢
      exact hfixed
    · rw [heq] at hfixed ⊢
      exact hfixed

variable {ballot : TokenBallot} {casts : List Cast}

theorem get_afterCasts_of_get {b : TokenBallotBox} {voter : Address}
    (h : b.ballots.get voter = some ballot) (casts : List Cast) :
    (b.afterCasts casts).ballots.get voter = some ballot := by
  unfold afterCasts
  induction casts generalizing b with
  | nil => exact h
  | cons c casts ih =>
    refine ih ?_
    rcases b.afterCast_eq c with ⟨hacceptable, heq⟩ | ⟨-, heq⟩
    · have hne : voter ≠ c.voter := by
        rintro rfl
        rw [hacceptable.fresh] at h
        cases h
      rw [heq]
      exact (HashMap.get_insert_ne hne).trans h
    · rwa [heq]

def Accepts : TokenBallotBox → List Cast → Prop
  | _, [] => True
  | b, c :: casts => (∃ ballot, ((cast c).exec b).1 = .ok ballot) ∧ (b.afterCast c).Accepts casts

theorem accepts_cons {b : TokenBallotBox} {c : Cast} :
    b.Accepts (c :: casts) ↔ Acceptable b c ∧ (b.with c).Accepts casts := by
  rw [Accepts]
  rcases cast_cases c b with ⟨h, hexec⟩ | ⟨h, e, hexec⟩
  · rw [afterCast_of_acceptable h, hexec]
    simp [h]
  · rw [hexec]
    simp [h]

/-- What casts weigh together. -/
def castWeight (casts : List Cast) : ℕ :=
  (casts.map fun c => c.holdingWeightBps.toNat).sum

/-- Which casts a box takes does not depend on their order. -/
theorem Sound.accepts_iff {b : TokenBallotBox} (hb : Sound b) : b.Accepts casts ↔
      (∀ c ∈ casts, c.holdingWeightBps ≤ normalizedWeightMaxBps ∧ b.ballots.get c.voter = none ∧
        c.tier.meets b.policy.minimumTier = true) ∧
      (casts.map (·.voter)).Nodup ∧
      b.participatingHoldingBps.toNat + castWeight casts ≤ b.eligibleWeightBps.toNat := by
  induction casts generalizing b with
  | nil =>
    have := hb.participating_le
    simpa [Accepts, castWeight]
  | cons c casts ih =>
    have hlt := b.eligibleWeightBps.toNat_lt
    have hweight : castWeight (c :: casts) = c.holdingWeightBps.toNat + castWeight casts :=
      List.sum_cons
    rw [accepts_cons, List.forall_mem_cons, List.map_cons, List.nodup_cons, hweight]
    have hget : ∀ voter, voter ≠ c.voter →
        (b.with c).ballots.get voter = b.ballots.get voter := fun voter hne =>
      HashMap.get_insert_ne hne
    have hself : (b.with c).ballots.get c.voter = some (c.ballot b.policy) := HashMap.get_insert
    have hadd (h : Acceptable b c) : (b.with c).participatingHoldingBps.toNat =
        b.participatingHoldingBps.toNat + c.holdingWeightBps.toNat := by
      have heligible := h.eligible
      unfold TokenBallotBox.with
      dsimp only
      rw [UInt16.toNat_add, Nat.mod_eq_of_lt (by omega)]
    constructor
    · rintro ⟨h, hcasts⟩
      obtain ⟨hall, hnodup, hle⟩ := (ih (hb.with h)).mp hcasts
      rw [hadd h] at hle
      have hne : ∀ x ∈ casts, x.voter ≠ c.voter := by
        intro x hx heq
        have hfresh := (hall x hx).2.1
        rw [heq, hself] at hfresh
        cases hfresh
      refine ⟨⟨⟨h.weight, h.fresh, h.tier⟩, fun x hx => ?_⟩, ⟨fun hmem => ?_, hnodup⟩, ?_⟩
      · obtain ⟨hweight, hfresh, htier⟩ := hall x hx
        exact ⟨hweight, (hget _ (hne x hx)).symm.trans hfresh, htier⟩
      · obtain ⟨x, hx, heq⟩ := List.mem_map.mp hmem
        exact hne x hx heq
      · have heligible : (b.with c).eligibleWeightBps = b.eligibleWeightBps := rfl
        rw [heligible] at hle
        omega
    · rintro ⟨⟨⟨hweight, hfresh, htier⟩, hall⟩, ⟨hnot, hnodup⟩, hle⟩
      have h : Acceptable b c := ⟨hweight, hfresh, htier, by omega⟩
      refine ⟨h, (ih (hb.with h)).mpr ⟨fun x hx => ?_, hnodup, ?_⟩⟩
      · obtain ⟨hweight, hfresh, htier⟩ := hall x hx
        have hne : x.voter ≠ c.voter := fun heq => hnot (heq ▸ List.mem_map_of_mem hx)
        exact ⟨hweight, (hget _ hne).trans hfresh, htier⟩
      · rw [hadd h]
        have heligible : (b.with c).eligibleWeightBps = b.eligibleWeightBps := rfl
        rw [heligible]
        omega

/-- A box holds what it held and the ballots of the casts it has taken. -/
theorem get_afterCasts {b : TokenBallotBox} (h : b.Accepts casts) {voter : Address} :
    (b.afterCasts casts).ballots.get voter = some ballot ↔ b.ballots.get voter = some ballot ∨
      ∃ c ∈ casts, c.voter = voter ∧ ballot = c.ballot b.policy := by
  unfold afterCasts
  induction casts generalizing b with
  | nil => simp
  | cons c casts ih =>
    obtain ⟨hacceptable, hcasts⟩ := (accepts_cons).mp h
    have hpolicy : (b.with c).policy = b.policy := rfl
    have hget : (b.with c).ballots.get voter =
        if voter = c.voter then some (c.ballot b.policy) else b.ballots.get voter :=
      HashMap.get_insert_apply
    rw [List.foldl_cons, afterCast_of_acceptable hacceptable, ih hcasts, hget, hpolicy]
    by_cases hvoter : voter = c.voter
    · subst hvoter
      simp [hacceptable.fresh, eq_comm]
    · simp [hvoter, Ne.symm hvoter]

/-- The same casts in another order are all taken too, and the box then holds the same ballots. -/
theorem Sound.accepts_perm {b : TokenBallotBox} (hb : Sound b) {casts' : List Cast}
    (hperm : casts.Perm casts') (h : b.Accepts casts) :
    b.Accepts casts' ∧ Same (b.afterCasts casts) (b.afterCasts casts') := by
  have haccepts : b.Accepts casts' := by
    obtain ⟨hall, hnodup, hle⟩ := hb.accepts_iff.mp h
    refine hb.accepts_iff.mpr ⟨fun c hc => hall c (hperm.mem_iff.mpr hc), ?_, ?_⟩
    · exact (hperm.map _).nodup_iff.mp hnodup
    · unfold castWeight at hle ⊢
      rwa [← (hperm.map _).sum_eq]
  obtain ⟨hid, hsubject, heligible, hpolicy⟩ := b.afterCasts_fixed casts
  obtain ⟨hid', hsubject', heligible', hpolicy'⟩ := b.afterCasts_fixed casts'
  refine ⟨haccepts, hid.trans hid'.symm, hsubject.trans hsubject'.symm,
    heligible.trans heligible'.symm, hpolicy.trans hpolicy'.symm, fun voter => ?_⟩
  ext ballot
  rw [get_afterCasts h, get_afterCasts haccepts]
  simp only [hperm.mem_iff]

/-- The voters of the ballots, each once. -/
theorem Sound.nodup_voters {b : TokenBallotBox} (hb : Sound b) :
    (b.ballots.values.map (·.voter)).Nodup := by
  have hkeys : ∀ voter ballot, b.ballots.get voter = some ballot → voter = ballot.voter :=
    fun voter ballot h => (hb.ballot voter ballot h).1.symm
  rw [HashMap.map_values_key hkeys]
  exact b.ballots.nodup_keys

end TokenBallotBox

open TokenBallotBox

/-- Whatever is cast into a new box, its tally is exact, and its result says that the proposal is
approved exactly when the quorum is met and enough of the decisive weight is for it. The same casts
taken in any order, or any casts that leave the same ballots, give the same result, a ballot stays
what it is whatever is cast after it, and a cast that fails leaves the box as it was. -/
theorem governance_exact {proposalId : TokenProposalId} {subject : GovernanceSubject}
    {eligibleWeightBps : UInt16} {policy : TokenGovernancePolicy} {start : TokenBallotBox}
    (hnew : TokenBallotBox.new proposalId subject eligibleWeightBps policy = .ok start)
    (casts : List Cast) :
    Exact (start.afterCasts casts).tally (start.afterCasts casts).ballots.values ∧
    (∀ voter ballot, (start.afterCasts casts).ballots.get voter = some ballot →
      ballot.effectiveWeightBps.toNat = ballot.holdingWeightBps.toNat *
        (policy.scaledMultiplier ballot.tier).toNat / 10000) ∧
    ((start.afterCasts casts).result.outcome = .approved ↔ (start.afterCasts casts).MeetsQuorum ∧
      0 < (start.afterCasts casts).yesWeight + (start.afterCasts casts).noWeight ∧
      policy.approvalBps.toNat *
        ((start.afterCasts casts).yesWeight + (start.afterCasts casts).noWeight) ≤
          (start.afterCasts casts).yesWeight * 10000) ∧
    (∀ casts', casts.Perm casts' → start.Accepts casts → start.Accepts casts' ∧
      (start.afterCasts casts').result = (start.afterCasts casts).result) ∧
    (∀ casts', (∀ voter, (start.afterCasts casts).ballots.get voter =
        (start.afterCasts casts').ballots.get voter) →
      (start.afterCasts casts').result = (start.afterCasts casts).result) ∧
    ((start.afterCasts casts).ballots.values.map (·.voter)).Nodup ∧
    (∀ voter ballot, (start.afterCasts casts).ballots.get voter = some ballot → ∀ later,
      ((start.afterCasts casts).afterCasts later).ballots.get voter = some ballot) ∧
    (∀ c e, ((cast c).exec (start.afterCasts casts)).1 = .error e →
      (cast c).after (start.afterCasts casts) = start.afterCasts casts) := by
  have hstart := Sound.new hnew
  have hb := hstart.afterCasts casts
  have hpolicy : (start.afterCasts casts).policy = policy := by
    refine (start.afterCasts_fixed casts).2.2.2.trans ?_
    unfold TokenBallotBox.new TokenGovernancePolicy.validate at hnew
    simp only [except_bind_ok, exists_unit, except_pure_ok] at hnew
    obtain ⟨-, _, ⟨-, -, -, rfl⟩, rfl⟩ := hnew
    rfl
  refine ⟨hb.exact, ?_, ?_, ?_, ?_, hb.nodup_voters, ?_, fun c => cast_atomic c _⟩
  · intro voter ballot hget
    obtain ⟨-, hweight, heffective⟩ := hb.ballot voter ballot hget
    rw [heffective, toNat_applyMultiplier hweight, hpolicy]
  · rw [← hpolicy]
    exact hb.approved
  · intro casts' hperm haccepts
    obtain ⟨haccepts', hsame⟩ := hstart.accepts_perm hperm haccepts
    exact ⟨haccepts', (result_eq_of_same hsame).symm⟩
  · intro casts' hget
    obtain ⟨hid, hsubject, heligible, hpolicy⟩ := start.afterCasts_fixed casts
    obtain ⟨hid', hsubject', heligible', hpolicy'⟩ := start.afterCasts_fixed casts'
    exact (result_eq_of_same ⟨hid.trans hid'.symm, hsubject.trans hsubject'.symm,
      heligible.trans heligible'.symm, hpolicy.trans hpolicy'.symm, hget⟩).symm
  · intro voter ballot hget later
    exact get_afterCasts_of_get hget later

/-- A policy with a quorum of a fifth and a simple majority. -/
def samplePolicy : TokenGovernancePolicy :=
  ⟨2000, 5001, .initiate, 5000, ⟨20000, 15000, 12500, 10000, 0⟩⟩

def sampleCasts : List Cast :=
  [⟨1, .whale, 3000, .yes⟩, ⟨2, .initiate, 4000, .no⟩, ⟨2, .initiate, 4000, .yes⟩,
    ⟨3, .unproven, 10, .yes⟩, ⟨4, .elder, 333, .abstain⟩]

theorem governance_exact_sample : TokenBallotBox.new 7 .councilPolicy 10000 samplePolicy =
      .ok ⟨7, .councilPolicy, 10000, samplePolicy, .empty, 0⟩ ∧
    Exact ((⟨7, .councilPolicy, 10000, samplePolicy, .empty, 0⟩ :
        TokenBallotBox).afterCasts sampleCasts).tally
      ((⟨7, .councilPolicy, 10000, samplePolicy, .empty, 0⟩ :
        TokenBallotBox).afterCasts sampleCasts).ballots.values ∧
    ((⟨7, .councilPolicy, 10000, samplePolicy, .empty, 0⟩ :
        TokenBallotBox).afterCasts sampleCasts).result.outcome = .approved := by
  have hnew : TokenBallotBox.new 7 .councilPolicy 10000 samplePolicy =
      .ok ⟨7, .councilPolicy, 10000, samplePolicy, .empty, 0⟩ := rfl
  obtain ⟨hexact, -, -⟩ := governance_exact hnew sampleCasts
  exact ⟨hnew, hexact, by decide⟩

end Cthuwu.Ballots
