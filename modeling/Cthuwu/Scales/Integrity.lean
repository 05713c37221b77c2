import Cthuwu.Scales.Counters
import Cthuwu.Scales.Judgment

/-!
# Judgments hold together

An evaluation of sound metrics succeeds exactly when it is `Evaluable` : the Nature is the one the
metrics are bound to, the policy is for the period, the time is right for the kind of evaluation,
and an enabled economic layer has been observed. Each stage has its own lemma, which says that it
returns and what of its result the checks of the judgment read (`exists_normalizeWeights`,
`exists_scoreMetrics`, `exists_classify`, `evidence_valid`). A judgment that comes out passes its
check and is `Weighed`.
-/

namespace Cthuwu.Scales

open Evolution (TentacleNature Hashing isHexOf u64Max u32Max)
open TentacleMetrics

/-! ## Scores within full credit -/

theorem ratioScore_le (numerator denominator : ℕ) : ratioScore numerator denominator ≤ scoreMax := by
  unfold ratioScore
  split_ifs
  · exact Nat.zero_le _
  · rw [toScore_of_le (Nat.min_le_right _ _)]
    exact Nat.min_le_right _ _

theorem componentScore_le (parts : List (ℕ × ℕ)) : componentScore parts ≤ scoreMax :=
  Nat.min_le_right _ _

theorem exists_scoreEngagement (metrics : EngagementMetrics) (targets : MetricTargets) :
    ∃ score, scoreEngagement metrics targets = .ok score ∧ score ≤ scoreMax := by
  refine exists_applyScoreAdjustment (componentScore_le _) ?_
  split_ifs
  · exact Nat.zero_le _
  · exact Nat.min_le_right _ _

/-- A rounded average by weights of full credit is within full credit. -/
theorem weighted_le {engagement growth influence : ℕ} {wealth : Option ℕ} {weights : ScaleWeights}
    (hengagement : engagement ≤ scoreMax) (hgrowth : growth ≤ scoreMax)
    (hwealth : ∀ score ∈ wealth, score ≤ scoreMax) (hinfluence : influence ≤ scoreMax)
    (hweights : weights.engagement + weights.growth + weights.wealth + weights.influence =
      scoreMax) :
    (weightedSum engagement growth wealth influence weights + scoreMax / 2) / scoreMax ≤
      scoreMax := by
  have hwealth' : wealth.getD 0 ≤ scoreMax := by
    cases wealth with
    | none => exact Nat.zero_le _
    | some score => exact hwealth score rfl
  have hsum : weightedSum engagement growth wealth influence weights ≤ scoreMax * scoreMax := by
    calc weightedSum engagement growth wealth influence weights
        ≤ scoreMax * weights.engagement + scoreMax * weights.growth + scoreMax * weights.wealth +
            scoreMax * weights.influence := by
          unfold weightedSum
          gcongr
      _ = scoreMax * scoreMax := by rw [← Nat.mul_add, ← Nat.mul_add, ← Nat.mul_add, hweights]
  simp only [scoreMax] at hsum ⊢
  omega

/-! ## Weights -/

/-- What the weights of a judgment are. -/
structure ScaleWeights.Normal (w : ScaleWeights) (a : ScoredScaleAvailability) : Prop where
  sum : w.engagement + w.growth + w.wealth + w.influence = scoreMax
  engagement : a.engagement = false → w.engagement = 0
  growth : a.growth = false → w.growth = 0
  wealth : a.wealth = false → w.wealth = 0
  influence : a.influence = false → w.influence = 0

/-- With an active positive value, the weights are the awarded floors. -/
theorem normalizeWeights_of_pos {values : Fin 4 → ℕ} {active : Fin 4 → Bool}
    (hpos : 0 < ∑ i ∈ Apportion.opened active, values i) : normalizeWeights values active =
      .ok (Apportion.award
        (fun i => if active i then
          values i * scoreMax % ∑ i ∈ Apportion.opened active, values i else 0) active
        (scoreMax - ∑ i ∈ Apportion.opened active,
          values i * scoreMax / ∑ i ∈ Apportion.opened active, values i) (fun _ => false)
        fun i => if active i then
          values i * scoreMax / ∑ i ∈ Apportion.opened active, values i else 0) := by
  have hfloor : ∀ i ∈ Apportion.opened active,
      values i * scoreMax / ∑ i ∈ Apportion.opened active, values i ≤ scoreMax := by
    intro i hi
    have hle := Finset.single_le_sum (fun j _ => Nat.zero_le (values j)) hi
    exact Nat.div_le_of_le_mul (Nat.mul_le_mul_right _ hle)
  have hresult : (fun i => if active i then
        toScore (values i * scoreMax / ∑ i ∈ Apportion.opened active, values i) else 0) =
      fun i => if active i then
        values i * scoreMax / ∑ i ∈ Apportion.opened active, values i else 0 := by
    funext i
    split_ifs with hi
    · exact toScore_of_le (hfloor i (Apportion.mem_opened.mpr hi))
    · rfl
  have hassigned : ∑ i ∈ Apportion.opened active, (if active i then
        values i * scoreMax / ∑ i ∈ Apportion.opened active, values i else 0) =
      ∑ i ∈ Apportion.opened active,
        values i * scoreMax / ∑ i ∈ Apportion.opened active, values i :=
    Finset.sum_congr rfl fun i hi => if_pos (Apportion.mem_opened.mp hi)
  unfold normalizeWeights
  dsimp only
  rw [if_neg hpos.ne', hresult, hassigned]
  simp only [except_bind_ok, checkedSub_ok, except_pure_ok]
  exact ⟨_, ⟨Apportion.sum_floors_le rfl hpos, rfl⟩, rfl⟩

theorem exists_normalizeWeights (values : Fin 4 → ℕ) {active : Fin 4 → Bool}
    (hactive : ∃ i, active i = true) : ∃ normalized, normalizeWeights values active =
      .ok normalized ∧ ∑ i, normalized i = scoreMax ∧ ∀ i, active i = false → normalized i = 0 := by
  obtain ⟨i, hi⟩ := hactive
  have hopen : 0 < (Apportion.opened active).card :=
    Finset.card_pos.mpr ⟨i, Apportion.mem_opened.mpr hi⟩
  rcases Nat.eq_zero_or_pos (∑ i ∈ Apportion.opened active, values i) with htotal | hpos
  · unfold normalizeWeights
    dsimp only
    rw [if_pos htotal]
    refine ⟨_, ?_, Apportion.sum_evenly_pool hopen, fun i hi => Apportion.evenly_closed hi _ _ _⟩
    simp [failIf, hopen.ne']
  · refine ⟨_, normalizeWeights_of_pos hpos, Apportion.sum_award_floors rfl hpos, fun i hi => ?_⟩
    rw [Apportion.award_closed hi, if_neg (by simp [hi])]

/-- The weights of values with an active positive one add up to full credit, each within one unit
of its exact share, and nothing on the way leaves its machine type. -/
theorem weights_near_quota {values : Fin 4 → ℕ} {active : Fin 4 → Bool}
    (h : ∃ i, active i = true ∧ 0 < values i) : ∃ weights, normalizeWeights values active =
      .ok weights ∧ ∑ i, weights i = scoreMax ∧
      (∀ i, active i = false ∨ values i = 0 → weights i = 0) ∧
      (∀ i, active i = true →
        weights i * ∑ i ∈ Apportion.opened active, values i <
          values i * scoreMax + ∑ i ∈ Apportion.opened active, values i ∧
        values i * scoreMax < (weights i + 1) * ∑ i ∈ Apportion.opened active, values i) ∧
      (∀ i, weights i ≤ u16Max) ∧
      ((∀ i, values i ≤ 255) → ∑ i ∈ Apportion.opened active, values i ≤ u64Max ∧
        ∀ i, values i * scoreMax ≤ u64Max) := by
  obtain ⟨k, hk, hvalue⟩ := h
  have hpos : 0 < ∑ i ∈ Apportion.opened active, values i :=
    hvalue.trans_le (Finset.single_le_sum (fun j _ => Nat.zero_le (values j))
      (Apportion.mem_opened.mpr hk))
  obtain ⟨weights, hweights, hsum, hclosed⟩ := exists_normalizeWeights values ⟨k, hk⟩
  have hnear : ∀ i, active i = true →
      weights i * ∑ i ∈ Apportion.opened active, values i <
        values i * scoreMax + ∑ i ∈ Apportion.opened active, values i ∧
      values i * scoreMax < (weights i + 1) * ∑ i ∈ Apportion.opened active, values i := by
    intro i hi
    rw [normalizeWeights_of_pos hpos, Except.ok.injEq] at hweights
    exact Apportion.award_near rfl hpos hi (congrFun hweights i)
  refine ⟨weights, hweights, hsum, fun i hi => ?_, hnear, fun i => ?_, fun hsmall => ⟨?_, ?_⟩⟩
  · cases hactive : active i with
    | false => exact hclosed i hactive
    | true =>
      -- less than one unit of nothing
      have hzero := hi.resolve_left (by simp [hactive])
      have hlt := (hnear i hactive).1
      rw [hzero, Nat.zero_mul, Nat.zero_add] at hlt
      exact Nat.lt_one_iff.mp (Nat.lt_of_mul_lt_mul_right (hlt.trans_eq (Nat.one_mul _).symm))
  · have hle := Finset.single_le_sum (fun j _ => Nat.zero_le (weights j)) (Finset.mem_univ i)
    rw [hsum] at hle
    exact hle.trans (by decide)
  · have hle : ∑ i ∈ Apportion.opened active, values i ≤ (Apportion.opened active).card * 255 :=
      Finset.sum_le_card_nsmul _ _ _ fun i _ => hsmall i
    have hcard : (Apportion.opened active).card ≤ 4 := Finset.card_le_univ _
    simp only [u64Max]
    omega
  · intro i
    have hle := hsmall i
    simp only [scoreMax, u64Max]
    omega

theorem weights_near_quota_sample : ∃ weights, normalizeWeights ![1, 1, 7, 1]
    ![true, true, false, true] = .ok weights ∧ ∑ i, weights i = scoreMax ∧ weights 2 = 0 := by
  obtain ⟨weights, hweights, hsum, hzero, -⟩ :=
    @weights_near_quota ![1, 1, 7, 1] ![true, true, false, true] ⟨0, rfl, by decide⟩
  exact ⟨weights, hweights, hsum, hzero 2 (.inl rfl)⟩

variable {w : ScaleWeights} {a : ScoredScaleAvailability}

theorem ScaleWeights.Normal.total (h : w.Normal a) : w.total = scoreMax := by
  have hsum := h.sum
  unfold ScaleWeights.total saturatingAdd
  simp only [scoreMax, u16Max] at hsum ⊢
  omega

theorem ScaleWeights.Normal.validate {enabled : Bool} (h : w.Normal a)
    (hallowed : a.Allowed enabled) : w.validate a enabled = .ok () := by
  unfold ScaleWeights.validate
  simp only [except_check_ok, failIf_ok, forM_ok, ScoredScaleAvailability.validate_ok,
    List.forall_mem_cons, not_and, not_not]
  refine ⟨hallowed, h.total, fun henabled => h.wealth ?_, h.engagement, h.growth, h.wealth,
    h.influence, by simp⟩
  rw [← Bool.not_eq_true]
  intro hwealth
  rw [hallowed.wealth hwealth] at henabled
  cases henabled

theorem exists_weights [Hashing] {nature : TentacleNature} {enabled : Bool}
    (hnature : nature.validate = .ok ()) (hallowed : a.Allowed enabled) :
    ∃ w, ScaleWeights.fromNatureWithAvailability nature a enabled = .ok w ∧ w.Normal a := by
  obtain ⟨normalized, hnormalized, hsum, hclosed⟩ :=
    exists_normalizeWeights ![nature.engagement, nature.growth, nature.wealth, nature.influence]
      hallowed.some_active
  have hnormal : ScaleWeights.Normal ⟨normalized 0, normalized 1, normalized 2, normalized 3⟩ a :=
    ⟨by rwa [Fin.sum_univ_four] at hsum, hclosed 0, hclosed 1, hclosed 2, hclosed 3⟩
  refine ⟨_, ?_, hnormal⟩
  unfold ScaleWeights.fromNatureWithAvailability
  simp only [except_bind_ok, exists_unit, except_mapError_ok, except_pure_ok,
    ScoredScaleAvailability.validate_ok]
  exact ⟨hnature, hallowed, normalized, hnormalized, hnormal.validate hallowed, rfl⟩

/-! ## Scores -/

/-- The scores of a judgment by its weights. -/
structure ScaleScores.Weighed (s : ScaleScores) (w : ScaleWeights) (stressEvents : ℕ) : Prop where
  engagement : s.engagement ≤ scoreMax
  growth : s.growth ≤ scoreMax
  wealth : ∀ score ∈ s.wealth, score ≤ scoreMax
  influence : s.influence ≤ scoreMax
  average : s.weightedTotalBeforeStress =
    (weightedSum s.engagement s.growth s.wealth s.influence w + scoreMax / 2) / scoreMax
  penalty : s.stressPenalty = min (100 * stressEvents) 1000
  total : s.total = s.weightedTotalBeforeStress - s.stressPenalty
  total_le : s.total ≤ scoreMax

/-- What recorded economics are worth. -/
structure RecordedTokenEconomics.Derived (r : RecordedTokenEconomics) : Prop where
  effects : ∀ effect ∈ [r.effects.wealthAdjustmentBasisPoints,
    r.effects.influenceAdjustmentBasisPoints, r.effects.growthAdjustmentBasisPoints,
    r.effects.engagementAdjustmentBasisPoints, r.effects.starvationReliefBasisPoints],
      effect ≤ scoreMax
  stake : r.snapshot.stakeBasisPoints ≤ scoreMax
  required : r.policy.propagationMinimumStakeBasisPoints ≤ scoreMax
  eligible : r.effects.propagationStakeEligible =
    decide (r.policy.propagationMinimumStakeBasisPoints ≤ r.snapshot.stakeBasisPoints)

theorem RecordedTokenEconomics.derived {r : RecordedTokenEconomics} (h : r.validate = .ok ()) :
    r.Derived := by
  unfold RecordedTokenEconomics.validate at h
  simp only [except_bind_ok, exists_unit, failIf_ok, not_not] at h
  obtain ⟨hsnapshot, hpolicy, heffects, -, effects, hderived, heq⟩ := h
  unfold TokenEconomicEffects.validate at heffects
  unfold TokenEconomicSnapshot.validate at hsnapshot
  unfold TokenEconomicPolicy.validate at hpolicy
  simp only [except_check_ok, ensureScores_ok, List.forall_mem_cons] at heffects hsnapshot hpolicy
  obtain ⟨hwealth, hinfluence, hgrowth, hengagement, hrelief, -⟩ := heffects
  obtain ⟨-, hstake, -, -⟩ := hsnapshot
  obtain ⟨-, ⟨-, -, -, -, -, -, -, hrequired, -⟩, -⟩ := hpolicy
  refine ⟨?_, hstake, hrequired, ?_⟩
  · simp only [List.forall_mem_cons]
    exact ⟨hwealth, hinfluence, hgrowth, hengagement, hrelief, by simp⟩
  · rw [heq]
    unfold TokenEconomicPolicy.effects at hderived
    simp only [except_check_ok, except_pure_ok] at hderived
    rw [← hderived.2.2.2]

variable {m : TentacleMetrics}

/-- An adjustment of the last observation is within full credit. -/
theorem adjustment_le (h : m.Sound) (adjustment : TokenEconomicEffects → ℕ)
    (hlisted : ∀ e : TokenEconomicEffects, adjustment e ∈ [e.wealthAdjustmentBasisPoints,
      e.influenceAdjustmentBasisPoints, e.growthAdjustmentBasisPoints,
      e.engagementAdjustmentBasisPoints, e.starvationReliefBasisPoints]) :
    (m.tokenEconomics.map (·.effects)).elim 0 adjustment ≤ scoreMax := by
  cases heconomics : m.tokenEconomics with
  | none => exact Nat.zero_le _
  | some economics =>
    have hvalid := (h.consistent.economics economics heconomics).1
    exact (RecordedTokenEconomics.derived hvalid).effects _ (hlisted economics.effects)

theorem stressPenaltyOf_eq (events : ℕ) : stressPenaltyOf events = min (100 * events) 1000 := by
  unfold stressPenaltyOf saturatingMul
  simp only [u16Max, stressPenaltyPerEvent, maxStressPenalty]
  omega

theorem ScaleScores.Weighed.validate {s : ScaleScores} {events : ℕ} (h : s.Weighed w events)
    (haverage : s.weightedTotalBeforeStress ≤ scoreMax) : s.validate = .ok () := by
  have hpenalty : s.stressPenalty ≤ 1000 := h.penalty ▸ Nat.min_le_right _ _
  unfold ScaleScores.validate
  simp only [except_check_ok, failIf_ok, forM_ok, List.forall_mem_cons, Option.mem_toList,
    Nat.not_lt, not_not]
  exact ⟨⟨h.engagement, h.growth, h.influence, haverage, hpenalty.trans (by decide), h.total_le,
    by simp⟩, h.wealth, hpenalty, h.total⟩

/-- The scores of sound metrics are within full credit, and their total is weighed. -/
theorem exists_scoreMetrics (h : m.Sound) {targets : MetricTargets}
    (htargets : targets.validate = .ok ()) (hweights : w.Normal m.scoredScaleAvailability) :
    ∃ s, scoreMetrics m targets w = .ok s ∧ s.Weighed w m.natureAdjustmentStressEvents ∧
      s.validate = .ok () ∧ s.wealth.isSome = m.economicLayerEnabled := by
  obtain ⟨base, hbase, hbaseLe⟩ := exists_scoreEngagement m.engagement targets
  obtain ⟨engagement, hengagement, hengagementLe⟩ := exists_applyScoreAdjustment hbaseLe
    (adjustment_le h (·.engagementAdjustmentBasisPoints) fun e => by simp)
  obtain ⟨growth, hgrowth, hgrowthLe⟩ := exists_applyScoreAdjustment
    (componentScore_le _ : scoreGrowth m.growth targets ≤ scoreMax)
    (adjustment_le h (·.growthAdjustmentBasisPoints) fun e => by simp)
  obtain ⟨influence, hinfluence, hinfluenceLe⟩ := exists_applyScoreAdjustment
    (componentScore_le _ : scoreInfluence m.influence targets ≤ scoreMax)
    (adjustment_le h (·.influenceAdjustmentBasisPoints) fun e => by simp)
  generalize hwealth : (m.wealth.map fun wealth =>
    (m.tokenEconomics.map (·.effects)).elim (scoreWealth wealth targets) fun effects =>
      primaryTokenWealthScore effects.wealthAdjustmentBasisPoints (scoreWealth wealth targets)) =
        wealth
  have hwealthLe : ∀ score ∈ wealth, score ≤ scoreMax := by
    rintro score hscore
    rw [← hwealth] at hscore
    obtain ⟨counted, -, rfl⟩ := Option.map_eq_some_iff.mp hscore
    cases m.tokenEconomics with
    | none => exact componentScore_le _
    | some economics => exact Nat.min_le_right _ _
  have haverage := weighted_le hengagementLe hgrowthLe hwealthLe hinfluenceLe hweights.sum
  have htotal : min (toScore ((weightedSum engagement growth wealth influence w + scoreMax / 2) /
      scoreMax)) scoreMax =
        (weightedSum engagement growth wealth influence w + scoreMax / 2) / scoreMax := by
    rw [toScore_of_le haverage, Nat.min_eq_left haverage]
  have hweighed : ScaleScores.Weighed
      { engagement, growth, wealth, influence
        weightedTotalBeforeStress :=
          (weightedSum engagement growth wealth influence w + scoreMax / 2) / scoreMax
        stressPenalty := stressPenaltyOf m.natureAdjustmentStressEvents
        total := (weightedSum engagement growth wealth influence w + scoreMax / 2) / scoreMax -
          stressPenaltyOf m.natureAdjustmentStressEvents } w m.natureAdjustmentStressEvents :=
    ⟨hengagementLe, hgrowthLe, hwealthLe, hinfluenceLe, rfl, stressPenaltyOf_eq _, rfl,
      (Nat.sub_le _ _).trans haverage⟩
  have hvalid := hweighed.validate haverage
  refine ⟨_, ?_, hweighed, hvalid, ?_⟩
  · unfold scoreMetrics
    dsimp only
    rw [hwealth]
    simp only [except_bind_ok, exists_unit, except_pure_ok]
    refine ⟨htargets, base, hbase, engagement, hengagement, growth, hgrowth, influence, hinfluence,
      ?_⟩
    rw [htotal]
    exact ⟨hvalid, rfl⟩
  · rw [← hwealth, Option.isSome_map]
    rfl

/-! ## Outcomes -/

theorem exists_classify {t : JudgmentThresholds} {score relief : ℕ} (ht : t.validate = .ok ())
    (hscore : score ≤ scoreMax) (hrelief : relief ≤ scoreMax) :
    ∃ outcome, t.classifyWithStarvationRelief score relief = .ok outcome := by
  have hthresholds := ht
  unfold JudgmentThresholds.validate at hthresholds
  rw [failIf_ok, not_not] at hthresholds
  obtain ⟨-, hsurvival, hwarning⟩ := hthresholds
  unfold JudgmentThresholds.classifyWithStarvationRelief
  simp only [except_bind_ok, exists_unit, failIf_ok, Nat.not_lt, checkedSub_ok, except_pure_ok]
  exact ⟨_, ht, hscore, hrelief, _, ⟨by omega, rfl⟩, _, ⟨by omega, rfl⟩, rfl⟩

/-- An enabled economic layer has been observed. -/
def TentacleMetrics.Observed (m : TentacleMetrics) : Prop :=
  m.economicLayerEnabled = true → m.tokenEconomics.isSome = true

theorem evidence_valid (h : m.Sound) (hobserved : m.Observed) (policy : JudgmentPolicy) :
    (PropagationEvidence.fromMetrics m policy).validate policy = .ok () := by
  unfold PropagationEvidence.validate PropagationEvidence.fromMetrics
  simp only [except_check_ok, failIf_ok, Nat.not_lt, not_not, not_or]
  cases heconomics : m.tokenEconomics with
  | none =>
    have hdisabled : m.economicLayerEnabled = false := by
      rw [← Bool.not_eq_true]
      intro henabled
      have hsome := hobserved henabled
      rw [heconomics] at hsome
      cases hsome
    refine ⟨h.consistent.engagement.returning, ⟨trivial, trivial⟩,
      ⟨Nat.zero_le _, Nat.zero_le _⟩, ?_, trivial⟩
    simp [hdisabled]
  | some economics =>
    have hderived :=
      RecordedTokenEconomics.derived (h.consistent.economics economics heconomics).1
    refine ⟨h.consistent.engagement.returning, ⟨trivial, trivial⟩,
      ⟨hderived.stake, hderived.required⟩, ?_, trivial⟩
    simp only [Option.elim_some, hderived.eligible]
    cases hrequired : economics.policy.propagationMinimumStakeBasisPoints with
    | zero => simp
    | succ => simp

/-! ## Evaluations -/

/-- When the metrics may be evaluated so, as a final judgment or a partial one. -/
def InWindow (m : TentacleMetrics) (evaluatedAtUnixSeconds : ℤ) : EvaluationStatus → Prop
  | .final => m.periodEndsAtUnixSeconds ≤ evaluatedAtUnixSeconds
  | .partialSnapshot => m.periodStartedAtUnixSeconds ≤ evaluatedAtUnixSeconds ∧
      evaluatedAtUnixSeconds < m.periodEndsAtUnixSeconds

theorem validateWindow_ok {at_ : ℤ} {status : EvaluationStatus} :
    m.validateWindow at_ status = .ok () ↔ InWindow m at_ status := by
  cases status with
  | final =>
    unfold validateWindow InWindow
    rw [failIf_ok, Int.not_lt]
  | partialSnapshot =>
    unfold validateWindow InWindow
    rw [failIf_ok, not_not]

section Evaluations

variable [Hashing]

/-- What an evaluation asks of its Nature, its policy, its time and its observations. -/
structure Evaluable (m : TentacleMetrics) (nature : TentacleNature) (evaluatedAtUnixSeconds : ℤ)
    (policy : JudgmentPolicy) (status : EvaluationStatus) : Prop where
  natureValid : nature.validate = .ok ()
  natureId : m.natureId = nature.natureId
  fingerprint : fingerprint nature = .ok m.natureFingerprint
  policyValid : policy.validate = .ok ()
  period : policy.period = m.period
  window : InWindow m evaluatedAtUnixSeconds status
  observed : m.Observed

variable {nature : TentacleNature} {evaluatedAt : ℤ} {policy : JudgmentPolicy}
  {status : EvaluationStatus}

/-- An evaluation that returns was asked for as it should be. -/
theorem evaluable_of_ok {j : Judgment}
    (h : m.evaluateInternal nature evaluatedAt policy status = .ok j) :
    Evaluable m nature evaluatedAt policy status := by
  unfold evaluateInternal at h
  simp only [except_bind_ok, exists_unit, except_mapError_ok, failIf_ok, not_not,
    validateWindow_ok] at h
  obtain ⟨-, hnature, hid, digest, hdigest, hfingerprint, hpolicy, hperiod, hwindow, hobserved,
    -⟩ := h
  refine ⟨hnature, hid, hfingerprint ▸ hdigest, hpolicy, hperiod, hwindow, fun henabled => ?_⟩
  cases heconomics : m.tokenEconomics with
  | none => simp [henabled, heconomics] at hobserved
  | some => rfl

/-- A judgment of these metrics. -/
structure Judged (m : TentacleMetrics) (j : Judgment) : Prop where
  valid : j.validate = .ok ()
  availability : j.scoredScaleAvailability = m.scoredScaleAvailability
  weights : j.weights.Normal j.scoredScaleAvailability
  scores : j.scores.Weighed j.weights m.natureAdjustmentStressEvents

/-- A judgment made in its window has a status to match. -/
theorem validateStatus_judgment {w : ScaleWeights} {scores : ScaleScores}
    {outcome : JudgmentOutcome} (hwindow : InWindow m evaluatedAt status) :
    (m.judgment evaluatedAt policy status w scores outcome).validateStatus = .ok () := by
  unfold Judgment.validateStatus
  have hcurrent : (m.judgment evaluatedAt policy status w scores outcome).schemaVersion =
      judgmentSchemaVersion := rfl
  rw [if_pos hcurrent, except_check_ok]
  cases status with
  | final => exact ⟨failIf_ok.mpr (Int.not_lt.mpr hwindow), failIf_ok.mpr fun h => h rfl⟩
  | partialSnapshot => exact ⟨failIf_ok.mpr (not_not.mpr hwindow), failIf_ok.mpr fun h => h rfl⟩

/-- Sound metrics can be judged, and the judgment holds together. -/
theorem exists_judged (h : m.Sound) (he : Evaluable m nature evaluatedAt policy status) :
    ∃ j, m.evaluateInternal nature evaluatedAt policy status = .ok j ∧ Judged m j := by
  have hpolicy := he.policyValid
  unfold JudgmentPolicy.validate at hpolicy
  simp only [except_check_ok] at hpolicy
  obtain ⟨-, htargets, hthresholds, -⟩ := hpolicy
  obtain ⟨w, hw, hnormal⟩ := exists_weights he.natureValid h.consistent.availability
  obtain ⟨scores, hscores, hweighed, hscoresValid, hwealth⟩ :=
    exists_scoreMetrics h htargets hnormal
  have hrelief : m.starvationRelief ≤ scoreMax := by
    have hle := adjustment_le h (·.starvationReliefBasisPoints) fun e => by simp
    rwa [Option.elim_map] at hle
  obtain ⟨outcome, houtcome⟩ := exists_classify hthresholds hweighed.total_le hrelief
  have hblocked : (m.economicLayerEnabled && !m.tokenEconomics.any (·.provenance.isSome)) =
      false := by
    cases heconomics : m.tokenEconomics with
    | none =>
      have hdisabled : ¬m.economicLayerEnabled = true := fun henabled => by
        simpa [heconomics] using he.observed henabled
      simp [hdisabled]
    | some economics => simp [h.provenance economics heconomics]
  refine ⟨m.judgment evaluatedAt policy status w scores outcome, ?_, ?_⟩
  · unfold evaluateInternal
    simp only [except_bind_ok, exists_unit, except_mapError_ok, failIf_ok, not_not,
      validateWindow_ok]
    exact ⟨h.validate, he.natureValid, he.natureId, m.natureFingerprint, he.fingerprint, rfl,
      he.policyValid, he.period, he.window, by simp [hblocked], w, hw, scores, hscores, outcome,
      houtcome, rfl⟩
  · refine ⟨?_, rfl, hnormal, hweighed⟩
    have hallowed := h.consistent.availability
    rw [← hwealth] at hallowed
    have hweights := hnormal.validate hallowed
    have hevidence := evidence_valid h he.observed policy
    unfold Judgment.validate
    simp only [except_bind_ok, exists_unit, failIf_ok, not_not, not_and]
    refine ⟨fun _ => rfl, h.consistent.schemaVersion, h.consistent.period, ?_, he.period,
      he.policyValid, ScoredScaleAvailability.validate_ok.mpr hallowed, hweights, hscoresValid,
      hevidence, outcome, houtcome, fun hne => absurd rfl hne⟩
    exact validateStatus_judgment he.window

/-- After any calls the metrics pass their check, a call returns exactly when it is accepted, and an
evaluation succeeds exactly when it is asked for as it should be. Its judgment passes its own
check : scores are within full credit, weights add up to it on the scored scales, and the total is
the rounded average of the scores by their weights, less the penalty for stress. -/
theorem judgment_integrity {period : EvaluationPeriod} {startedAt : ℤ} {enabled : Bool}
    {bound : TentacleNature} {epoch : ℕ} {started m : TentacleMetrics}
    (hnew : TentacleMetrics.new period startedAt enabled bound epoch = .ok started)
    (h : (metricsMachine started).Reachable m) :
    m.validate = .ok () ∧ (∀ call : MetricsCall, (call.run.exec m).1 = .ok () ↔ call.Accepted m) ∧
      ∀ nature evaluatedAt policy status,
        ((∃ j, m.evaluateInternal nature evaluatedAt policy status = .ok j) ↔
          Evaluable m nature evaluatedAt policy status) ∧
        ∀ j, m.evaluateInternal nature evaluatedAt policy status = .ok j → Judged m j := by
  have hsound := sound_reachable (sound_new hnew) h
  refine ⟨hsound.validate, fun call => (call.ends_run hsound).2,
    fun nature evaluatedAt policy status => ⟨⟨fun ⟨j, hj⟩ => evaluable_of_ok hj, fun he => ?_⟩,
      fun j hj => ?_⟩⟩
  · obtain ⟨j, hj, -⟩ := exists_judged hsound he
    exact ⟨j, hj⟩
  · obtain ⟨j', hj', hjudged⟩ := exists_judged hsound (evaluable_of_ok hj)
    rwa [Except.ok.inj (hj.symm.trans hj')]

end Evaluations

/-! ### A sample -/

def sampleDigits (digits : ℕ) : String :=
  String.ofList (List.replicate digits '0')

def sampleNature : TentacleNature :=
  { schemaVersion := 1
    natureId := sampleDigits 32
    generation := 0
    parentNatureId := none
    engagement := 50
    growth := 50
    wealth := 50
    influence := 50
    cooperation := 50
    stability := 50
    transparency := 50
    sacredBan := .profit }

@[reducible] def sampleHashing : Hashing where
  actionSha256 _ _ := .ok 0
  natureSha256 _ := .ok 0

def sampleMetrics (economicLayerEnabled : Bool) : TentacleMetrics :=
  { schemaVersion := 1
    natureId := sampleDigits 32
    natureFingerprint := sampleDigits 64
    awakeningEpoch := 1
    period := .daily
    periodStartedAtUnixSeconds := 0
    periodEndsAtUnixSeconds := 86400
    engagement := {}
    growth := {}
    wealth := if economicLayerEnabled then some {} else none
    influence := {}
    scoredScaleAvailability := .forEconomicLayer economicLayerEnabled
    natureAdjustmentStressEvents := 0
    tokenEconomics := none }

attribute [local instance] sampleHashing

theorem new_sampleMetrics (economicLayerEnabled : Bool) :
    TentacleMetrics.new .daily 0 economicLayerEnabled sampleNature 1 =
      .ok (sampleMetrics economicLayerEnabled) := by
  cases economicLayerEnabled <;> decide +kernel

def sampleCalls : List MetricsCall :=
  [.growth 1 0 0, .natureAdjustmentStress]

def sampleStressed : TentacleMetrics :=
  sampleCalls.foldl (metricsMachine (sampleMetrics false)).next (sampleMetrics false)

theorem reachable_sampleStressed :
    (metricsMachine (sampleMetrics false)).Reachable sampleStressed :=
  Machine.Reachable.init.run (Machine.admits_of_forall fun _ _ => trivial)

theorem judgment_integrity_sample : sampleStressed.validate = .ok () ∧
      (∀ call : MetricsCall, (call.run.exec sampleStressed).1 = .ok () ↔
        call.Accepted sampleStressed) ∧
      ∀ nature evaluatedAt policy status,
        ((∃ j, sampleStressed.evaluateInternal nature evaluatedAt policy status = .ok j) ↔
          Evaluable sampleStressed nature evaluatedAt policy status) ∧
        ∀ j, sampleStressed.evaluateInternal nature evaluatedAt policy status = .ok j →
          Judged sampleStressed j :=
  judgment_integrity (new_sampleMetrics false) reachable_sampleStressed

/-- The total of a stressed Tentacle is below the average of its scores, and an enabled economic
layer that nobody has observed cannot be evaluated at all. -/
theorem stressed_below_average : (metricsMachine (sampleMetrics false)).Reachable sampleStressed ∧
      (sampleStressed.evaluate sampleNature 86400).toOption.map (fun j => (j.scores.total,
        (weightedSum j.scores.engagement j.scores.growth j.scores.wealth j.scores.influence
          j.weights + scoreMax / 2) / scoreMax)) = some (733, 833) ∧
      TentacleMetrics.new .daily 0 true sampleNature 1 = .ok (sampleMetrics true) ∧
      (sampleMetrics true).evaluate sampleNature 86400 =
        .error (.invalid "economic evaluation blocked: provenance-bound token data is missing") :=
  ⟨reachable_sampleStressed, by decide +kernel, new_sampleMetrics true, by decide +kernel⟩

end Cthuwu.Scales
