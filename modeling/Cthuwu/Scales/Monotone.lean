import Cthuwu.Scales.Integrity

/-!
# Better numbers never score worse

Outcomes and scores are monotone. A higher score under more relief has an outcome at least as good
(`classify_monotone`), and metrics that are at least as good in every part (`TentacleMetrics.AtMost`)
have scores at least as high on every scale and in total (`scoreMetrics_monotone`), through all the
rounding : of ratios, of weighted parts, of the adjustment towards full credit, and of the total.
-/

namespace Cthuwu.Scales

open Evolution (u64Max)
open TokenEconomicEffects

/-! ## Outcomes -/

/-- How favourable an outcome is. -/
def JudgmentOutcome.rank : JudgmentOutcome → ℕ
  | .death => 0
  | .dormant => 1
  | .starvationWarning => 2
  | .survival => 3
  | .propagationRights => 4

variable {score relief operations : ℕ} {t : JudgmentThresholds}

/-- The outcome between the thresholds, where survival never falls to nothing. -/
theorem classify_ok {outcome : JudgmentOutcome} :
    t.classifyWithStarvationRelief score relief = .ok outcome ↔
      t.validate = .ok () ∧ score ≤ scoreMax ∧ relief ≤ scoreMax ∧
        (if t.propagationRightsMin ≤ score then .propagationRights
          else if max (t.survivalMin - relief) 1 ≤ score then .survival
          else if t.starvationWarningMin - relief ≤ score then .starvationWarning
          else .dormant) = outcome := by
  unfold JudgmentThresholds.classifyWithStarvationRelief
  simp only [except_bind_ok, exists_unit, failIf_ok, Nat.not_lt, checkedSub_ok, except_pure_ok]
  refine and_congr_right fun ht => and_congr_right fun _ => and_congr_right fun _ => ?_
  unfold JudgmentThresholds.validate at ht
  rw [failIf_ok, not_not] at ht
  obtain ⟨-, hsurvival, hwarning⟩ := ht
  have hfloor : min (max (t.survivalMin - relief) 1) (t.propagationRightsMin - 1) =
      max (t.survivalMin - relief) 1 := by omega
  have hbelow : min (t.starvationWarningMin - relief) (max (t.survivalMin - relief) 1 - 1) =
      t.starvationWarningMin - relief := by omega
  constructor
  · rintro ⟨_, ⟨-, rfl⟩, _, ⟨-, rfl⟩, houtcome⟩
    rwa [hfloor, hbelow] at houtcome
  · intro houtcome
    refine ⟨_, ⟨by omega, rfl⟩, _, ⟨by omega, rfl⟩, ?_⟩
    rwa [hfloor, hbelow]

theorem exists_classify_iff :
    (∃ outcome, t.classifyWithStarvationRelief score relief = .ok outcome) ↔
      t.validate = .ok () ∧ score ≤ scoreMax ∧ relief ≤ scoreMax := by
  simp only [classify_ok, exists_and_left, exists_eq', and_true]

/-- No threshold is ever taken below zero. -/
theorem classify_not_arithmetic :
    t.classifyWithStarvationRelief score relief ≠ .error .arithmetic := by
  intro h
  have hvalid : t.validate = .ok () ∧ score ≤ scoreMax ∧ relief ≤ scoreMax := by
    have hpassed := h
    unfold JudgmentThresholds.classifyWithStarvationRelief JudgmentThresholds.validate at hpassed
    simp only [except_bind_error, exists_unit, failIf_error, failIf_ok, reduceCtorEq, and_false,
      false_or] at hpassed
    obtain ⟨ht, hscore, hrelief, -⟩ := hpassed
    exact ⟨failIf_ok.mpr ht, Nat.not_lt.mp hscore, Nat.not_lt.mp hrelief⟩
  obtain ⟨outcome, houtcome⟩ := (exists_classify_iff).mpr hvalid
  rw [h] at houtcome
  cases houtcome

/-- A judgment fails exactly on thresholds, scores or reliefs out of bounds. Propagation rights
follow from the score alone, and no outcome is lost by a higher score or by more relief. -/
theorem classify_monotone (t : JudgmentThresholds) (score relief : ℕ) :
    ((∃ outcome, t.classifyWithStarvationRelief score relief = .ok outcome) ↔
      t.validate = .ok () ∧ score ≤ scoreMax ∧ relief ≤ scoreMax) ∧
    t.classifyWithStarvationRelief score relief ≠ .error .arithmetic ∧
    ∀ outcome, t.classifyWithStarvationRelief score relief = .ok outcome →
      (outcome = .propagationRights ↔ t.propagationRightsMin ≤ score) ∧
      ∀ score' relief' outcome', score ≤ score' → relief ≤ relief' →
        t.classifyWithStarvationRelief score' relief' = .ok outcome' →
          outcome.rank ≤ outcome'.rank := by
  refine ⟨exists_classify_iff, classify_not_arithmetic, fun outcome h => ?_⟩
  obtain ⟨-, -, -, rfl⟩ := (classify_ok).mp h
  refine ⟨?_, fun score' relief' outcome' hscore hrelief h' => ?_⟩
  · split_ifs <;> simp [*]
  · obtain ⟨-, -, -, rfl⟩ := (classify_ok).mp h'
    unfold JudgmentOutcome.rank
    split_ifs <;> first | omega | simp

/-! ## Rounding -/

theorem min_toScore (n : ℕ) : min (toScore n) scoreMax = min n scoreMax := by
  unfold toScore
  split_ifs with h
  · rfl
  · simp only [u16Max, scoreMax] at h ⊢
    omega

theorem ratioScore_mono {numerator numerator' : ℕ} (h : numerator ≤ numerator')
    (denominator : ℕ) : ratioScore numerator denominator ≤ ratioScore numerator' denominator := by
  unfold ratioScore
  split_ifs
  · exact le_rfl
  · rw [toScore_of_le (Nat.min_le_right _ _), toScore_of_le (Nat.min_le_right _ _)]
    unfold saturatingAdd saturatingMul
    exact min_le_min_right _ (Nat.div_le_div_right (min_le_min_right _
      (Nat.add_le_add_right (min_le_min_right _ (Nat.mul_le_mul_right _ h)) _)))

theorem componentScore_mono {parts parts' : List (ℕ × ℕ)}
    (h : (parts.map fun (score, weight) => score * weight).sum ≤
      (parts'.map fun (score, weight) => score * weight).sum) :
    componentScore parts ≤ componentScore parts' := by
  unfold componentScore
  rw [min_toScore, min_toScore]
  exact min_le_min_right _ (Nat.div_le_div_right (Nat.add_le_add_right h _))

theorem responseTimeScore_anti {totalMs totalMs' : ℕ} (h : totalMs' ≤ totalMs)
    (samples fullCreditMs zeroCreditMs : ℕ) :
    responseTimeScore totalMs samples fullCreditMs zeroCreditMs ≤
      responseTimeScore totalMs' samples fullCreditMs zeroCreditMs := by
  unfold responseTimeScore
  dsimp only
  by_cases hfull : totalMs ≤ samples * fullCreditMs
  · rw [if_pos hfull, if_pos (h.trans hfull)]
  rw [if_neg hfull]
  by_cases hempty : samples * zeroCreditMs ≤ totalMs
  · rw [if_pos hempty]
    split_ifs <;> exact Nat.zero_le _
  · have hempty' : ¬samples * zeroCreditMs ≤ totalMs' := fun h' => hempty (h'.trans h)
    rw [if_neg hempty, if_neg hempty']
    split_ifs
    · exact le_rfl
    · exact ratioScore_le _ _
    · exact ratioScore_mono (Nat.sub_le_sub_left h _) _

theorem applyScoreAdjustment_ok {base adjustment : ℕ} :
    applyScoreAdjustment base adjustment = .ok score ↔ base ≤ scoreMax ∧ adjustment ≤ scoreMax ∧
      base + ((scoreMax - base) * adjustment + 5000) / 10000 = score := by
  unfold applyScoreAdjustment
  simp only [except_bind_ok, exists_unit, failIf_ok, Nat.not_lt, checkedSub_ok, except_pure_ok]
  refine and_congr_right fun hbase => and_congr_right fun hadjustment => ?_
  have hraise : ((scoreMax - base) * adjustment + 5000) / 10000 ≤ scoreMax - base := by
    have hmul := Nat.mul_le_mul_left (scoreMax - base) hadjustment
    simp only [scoreMax] at hmul ⊢
    omega
  have hvalue : saturatingAdd u16Max base (multiplyBasisPoints (scoreMax - base) adjustment) =
      base + ((scoreMax - base) * adjustment + 5000) / 10000 := by
    unfold saturatingAdd multiplyBasisPoints
    simp only [scoreMax, u16Max] at hbase hraise ⊢
    omega
  constructor
  · rintro ⟨_, ⟨-, rfl⟩, hscore⟩
    rwa [hvalue] at hscore
  · exact fun hscore => ⟨_, ⟨hbase, rfl⟩, hvalue.trans hscore⟩

/-- A higher base loses headroom, but never as much as it gains : what the adjustment adds to the
lost headroom is at most that headroom. -/
theorem applyScoreAdjustment_mono {base base' adjustment adjustment' score' : ℕ}
    (hbase : base ≤ base') (hadjustment : adjustment ≤ adjustment')
    (h : applyScoreAdjustment base adjustment = .ok score)
    (h' : applyScoreAdjustment base' adjustment' = .ok score') : score ≤ score' := by
  obtain ⟨-, hwithin, rfl⟩ := (applyScoreAdjustment_ok).mp h
  obtain ⟨hbase', -, rfl⟩ := (applyScoreAdjustment_ok).mp h'
  have hraise : (scoreMax - base) * adjustment ≤
      (scoreMax - base') * adjustment' + 10000 * (base' - base) := by
    calc (scoreMax - base) * adjustment
        = (scoreMax - base') * adjustment + adjustment * (base' - base) := by
          rw [Nat.mul_comm adjustment, ← Nat.add_mul]
          congr 1
          omega
      _ ≤ (scoreMax - base') * adjustment' + 10000 * (base' - base) :=
          Nat.add_le_add (Nat.mul_le_mul_left _ hadjustment) (Nat.mul_le_mul_right _ hwithin)
  omega

/-! ## Scores -/

/-- Wealth that is worth no more. -/
structure WealthMetrics.AtMost (w w' : WealthMetrics) : Prop where
  revenue : w.revenueMicroUnits ≤ w'.revenueMicroUnits
  parentShare : w.parentRevenueShareMicroUnits ≤ w'.parentRevenueShareMicroUnits
  efficiency : w.averageEfficiencyBasisPoints ≤ w'.averageEfficiencyBasisPoints

/-- Nothing where there is nothing, or at most what there is. -/
def OptionAtMost {α : Type} (atMost : α → α → Prop) (o o' : Option α) : Prop :=
  ∀ a ∈ o, ∃ a' ∈ o', atMost a a'

/-- What the last token observation adds to a scale. -/
def TentacleMetrics.adjustment (m : TentacleMetrics) (effect : TokenEconomicEffects → ℕ) : ℕ :=
  (m.tokenEconomics.map (·.effects)).elim 0 effect

/-- The same denominators, and nothing that counts in favour of `m` exceeds what counts in favour of
`m'`. -/
structure TentacleMetrics.AtMost (m m' : TentacleMetrics) : Prop where
  availability : m.scoredScaleAvailability = m'.scoredScaleAvailability
  conversations : m.engagement.conversations = m'.engagement.conversations
  samples : m.engagement.responseTimeSamples = m'.engagement.responseTimeSamples
  depth : m.engagement.conversationDepthTotal ≤ m'.engagement.conversationDepthTotal
  returns : m.engagement.returningConversations ≤ m'.engagement.returningConversations
  responseTime : m'.engagement.responseTimeMsTotal ≤ m.engagement.responseTimeMsTotal
  tokenBonus :
    m.engagement.tokenBonusBasisPointsTotal ≤ m'.engagement.tokenBonusBasisPointsTotal
  children : m.growth.childrenSpawned ≤ m'.growth.childrenSpawned
  recruits : m.growth.acolytesRecruited ≤ m'.growth.acolytesRecruited
  contribution : m.growth.networkContributionPoints ≤ m'.growth.networkContributionPoints
  operatorReward : m.growth.operatorRewardMicroUnits ≤ m'.growth.operatorRewardMicroUnits
  recruitmentReward :
    m.growth.recruitmentRewardMicroUnits ≤ m'.growth.recruitmentRewardMicroUnits
  wealth : OptionAtMost WealthMetrics.AtMost m.wealth m'.wealth
  participation : m.influence.governanceParticipation ≤ m'.influence.governanceParticipation
  siblingInfluence : m.influence.siblingInfluencePoints ≤ m'.influence.siblingInfluencePoints
  adjustments : ∀ effect ∈ [engagementAdjustmentBasisPoints,
    growthAdjustmentBasisPoints,
    wealthAdjustmentBasisPoints,
    influenceAdjustmentBasisPoints], m.adjustment effect ≤ m'.adjustment effect
  stress : m'.natureAdjustmentStressEvents ≤ m.natureAdjustmentStressEvents

structure ScaleScores.AtMost (s s' : ScaleScores) : Prop where
  engagement : s.engagement ≤ s'.engagement
  growth : s.growth ≤ s'.growth
  wealth : OptionAtMost (· ≤ ·) s.wealth s'.wealth
  influence : s.influence ≤ s'.influence
  total : s.total ≤ s'.total

variable {m m' : TentacleMetrics} {targets : MetricTargets} {weights : ScaleWeights}
  {s s' : ScaleScores}

theorem scoreEngagement_mono (h : m.AtMost m') {score' : ℕ}
    (hscore : scoreEngagement m.engagement targets = .ok score)
    (hscore' : scoreEngagement m'.engagement targets = .ok score') : score ≤ score' := by
  unfold scoreEngagement at hscore hscore'
  rw [h.conversations, h.samples] at hscore
  refine applyScoreAdjustment_mono (componentScore_mono ?_) ?_ hscore hscore'
  · simp only [List.map_cons, List.sum_cons]
    have hdepth := ratioScore_mono h.depth
      (m'.engagement.conversations * targets.averageConversationDepth)
    have hreturns := ratioScore_mono h.returns m'.engagement.conversations
    have hresponse := responseTimeScore_anti h.responseTime m'.engagement.responseTimeSamples
      targets.responseTimeFullCreditMs targets.responseTimeZeroCreditMs
    omega
  · split_ifs
    · exact le_rfl
    · rw [min_toScore, min_toScore]
      exact min_le_min_right _ (Nat.div_le_div_right h.tokenBonus)

theorem scoreGrowth_mono (h : m.AtMost m') :
    scoreGrowth m.growth targets ≤ scoreGrowth m'.growth targets := by
  refine componentScore_mono ?_
  simp only [List.map_cons, List.sum_cons]
  have hchildren := ratioScore_mono h.children targets.childrenSpawned
  have hrecruits := ratioScore_mono h.recruits targets.acolytesRecruited
  have hcontribution := ratioScore_mono h.contribution targets.networkContributionPoints
  have hrewards := ratioScore_mono (Nat.add_le_add h.operatorReward h.recruitmentReward)
    targets.revenueMicroUnits
  omega

theorem scoreInfluence_mono (h : m.AtMost m') :
    scoreInfluence m.influence targets ≤ scoreInfluence m'.influence targets := by
  refine componentScore_mono ?_
  simp only [List.map_cons, List.sum_cons]
  have hparticipation := ratioScore_mono h.participation targets.governanceParticipation
  have hsibling := ratioScore_mono h.siblingInfluence targets.siblingInfluencePoints
  omega

theorem scoreWealth_mono {w w' : WealthMetrics} (h : w.AtMost w') :
    scoreWealth w targets ≤ scoreWealth w' targets := by
  refine componentScore_mono ?_
  simp only [List.map_cons, List.sum_cons]
  have hrevenue :=
    ratioScore_mono (Nat.add_le_add h.revenue h.parentShare) targets.revenueMicroUnits
  have hefficiency := ratioScore_mono h.efficiency targets.efficiencyBasisPoints
  omega

theorem primaryTokenWealthScore_mono {tokens tokens' operations' : ℕ} (htokens : tokens ≤ tokens')
    (hoperations : operations ≤ operations') :
    primaryTokenWealthScore tokens operations ≤ primaryTokenWealthScore tokens' operations' := by
  unfold primaryTokenWealthScore
  rw [min_toScore, min_toScore]
  exact min_le_min_right _ (Nat.div_le_div_right (by omega))

/-- Operations are at least the fifth of themselves that counts beside holdings of nothing. -/
theorem primaryTokenWealthScore_zero (h : operations ≤ scoreMax) :
    primaryTokenWealthScore 0 operations ≤ operations := by
  unfold primaryTokenWealthScore
  rw [min_toScore]
  simp only [scoreMax] at h ⊢
  omega

theorem scoreMetrics_ok (h : scoreMetrics m targets weights = .ok s) :
    (∃ base, scoreEngagement m.engagement targets = .ok base ∧ applyScoreAdjustment base
      (m.adjustment (·.engagementAdjustmentBasisPoints)) = .ok s.engagement) ∧
    applyScoreAdjustment (scoreGrowth m.growth targets)
      (m.adjustment (·.growthAdjustmentBasisPoints)) = .ok s.growth ∧
    s.wealth = m.wealth.map (fun wealth => (m.tokenEconomics.map (·.effects)).elim
      (scoreWealth wealth targets) fun effects => primaryTokenWealthScore
        effects.wealthAdjustmentBasisPoints (scoreWealth wealth targets)) ∧
    applyScoreAdjustment (scoreInfluence m.influence targets)
      (m.adjustment (·.influenceAdjustmentBasisPoints)) = .ok s.influence ∧
    s.total = min ((weightedSum s.engagement s.growth s.wealth s.influence weights +
      scoreMax / 2) / scoreMax) scoreMax - stressPenaltyOf m.natureAdjustmentStressEvents := by
  unfold scoreMetrics at h
  simp only [except_bind_ok, exists_unit, except_pure_ok, min_toScore] at h
  obtain ⟨-, base, hbase, engagement, hengagement, growth, hgrowth, influence, hinfluence, -,
    rfl⟩ := h
  exact ⟨⟨base, hbase, hengagement⟩, hgrowth, rfl, hinfluence, rfl⟩

/-- Holdings count at most for as much as there are, unless they are first observed. -/
theorem wealth_mono (h : m.AtMost m')
    (hobserved : m'.tokenEconomics.isSome = true → m.tokenEconomics.isSome = true)
    (hs : scoreMetrics m targets weights = .ok s) (hs' : scoreMetrics m' targets weights = .ok s') :
    OptionAtMost (· ≤ ·) s.wealth s'.wealth := by
  obtain ⟨-, -, hwealth, -⟩ := scoreMetrics_ok hs
  obtain ⟨-, -, hwealth', -⟩ := scoreMetrics_ok hs'
  have hadjustment := h.adjustments (·.wealthAdjustmentBasisPoints) (by simp)
  intro score hscore
  rw [hwealth] at hscore
  obtain ⟨w, hw, rfl⟩ := Option.map_eq_some_iff.mp hscore
  obtain ⟨w', hw', hle⟩ := h.wealth w hw
  have hoperations := @scoreWealth_mono targets _ _ hle
  rw [hwealth', Option.mem_def.mp hw']
  refine ⟨_, rfl, ?_⟩
  unfold TentacleMetrics.adjustment at hadjustment
  cases heconomics : m.tokenEconomics with
  | none =>
    have hnone : m'.tokenEconomics = none := by
      rw [heconomics] at hobserved
      simpa using hobserved
    simpa [hnone] using hoperations
  | some economics =>
    cases heconomics' : m'.tokenEconomics with
    | none =>
      rw [heconomics, heconomics'] at hadjustment
      have hzero : economics.effects.wealthAdjustmentBasisPoints = 0 := Nat.le_zero.mp hadjustment
      simp only [Option.map_some, Option.map_none, Option.elim_some, Option.elim_none, hzero]
      exact (primaryTokenWealthScore_zero (componentScore_le _)).trans hoperations
    | some economics' =>
      rw [heconomics, heconomics'] at hadjustment
      exact primaryTokenWealthScore_mono hadjustment hoperations

theorem OptionAtMost.getD {o o' : Option ℕ} (h : OptionAtMost (· ≤ ·) o o') :
    o.getD 0 ≤ o'.getD 0 := by
  cases o with
  | none => exact Nat.zero_le _
  | some score =>
    obtain ⟨score', rfl, hle⟩ := h score rfl
    exact hle

/-- Metrics that are at most as good have scores at most as high on every scale and in total, where
holdings are not first observed in the better ones. -/
theorem scoreMetrics_monotone (h : m.AtMost m')
    (hobserved : m'.tokenEconomics.isSome = true → m.tokenEconomics.isSome = true)
    (hs : scoreMetrics m targets weights = .ok s) (hs' : scoreMetrics m' targets weights = .ok s') :
    s.AtMost s' := by
  obtain ⟨⟨base, hbase, hengagement⟩, hgrowth, -, hinfluence, htotal⟩ := scoreMetrics_ok hs
  obtain ⟨⟨base', hbase', hengagement'⟩, hgrowth', -, hinfluence', htotal'⟩ := scoreMetrics_ok hs'
  have hengagementLe : s.engagement ≤ s'.engagement := applyScoreAdjustment_mono
    (scoreEngagement_mono h hbase hbase') (h.adjustments _ (by simp)) hengagement hengagement'
  have hgrowthLe : s.growth ≤ s'.growth := applyScoreAdjustment_mono (scoreGrowth_mono h)
    (h.adjustments _ (by simp)) hgrowth hgrowth'
  have hinfluenceLe : s.influence ≤ s'.influence := applyScoreAdjustment_mono
    (scoreInfluence_mono h) (h.adjustments _ (by simp)) hinfluence hinfluence'
  have hwealthLe := wealth_mono h hobserved hs hs'
  refine ⟨hengagementLe, hgrowthLe, hwealthLe, hinfluenceLe, ?_⟩
  have hsum : weightedSum s.engagement s.growth s.wealth s.influence weights ≤
      weightedSum s'.engagement s'.growth s'.wealth s'.influence weights := by
    unfold weightedSum
    gcongr
    exact hwealthLe.getD
  have hstress : stressPenaltyOf m'.natureAdjustmentStressEvents ≤
      stressPenaltyOf m.natureAdjustmentStressEvents := by
    rw [stressPenaltyOf_eq, stressPenaltyOf_eq]
    have hevents := h.stress
    omega
  rw [htotal, htotal']
  exact tsub_le_tsub (min_le_min_right _ (Nat.div_le_div_right (Nat.add_le_add_right hsum _)))
    hstress

/-! ### A sample -/

def sampleEmptyTreasury : RecordedTokenEconomics :=
  { snapshot := ⟨0, 0, 0, true⟩
    policy := ⟨1, 10000, 10000, 10000, 10000, 10000, 10000, 10000, 100⟩
    effects := ⟨0, 0, 0, 0, 0, false⟩
    provenance := none }

/-- A day whose wealth meets its targets, with or without a look at the treasury. -/
def sampleWealthy (observed : Bool) : TentacleMetrics :=
  { sampleMetrics true with
    wealth := some ⟨1000000, 1, 8000, 0⟩
    tokenEconomics := if observed then some sampleEmptyTreasury else none }

def sampleScores (observed : Bool) : ScaleScores :=
  if observed then ⟨0, 0, some 2000, 0, 500, 0, 500⟩ else ⟨0, 0, some 10000, 0, 2500, 0, 2500⟩

theorem atMost_sampleWealthy (observed observed' : Bool) :
    (sampleWealthy observed).AtMost (sampleWealthy observed') := by
  refine ⟨rfl, rfl, rfl, le_rfl, le_rfl, le_rfl, le_rfl, le_rfl, le_rfl, le_rfl, le_rfl, le_rfl,
    fun w hw => ⟨w, hw, le_rfl, le_rfl, le_rfl⟩, le_rfl, le_rfl, ?_, le_rfl⟩
  simp only [List.forall_mem_cons, List.not_mem_nil, IsEmpty.forall_iff, implies_true]
  cases observed <;> cases observed' <;> decide

theorem scoreMetrics_sampleWealthy (observed : Bool) :
    scoreMetrics (sampleWealthy observed) (.forPeriod .daily) ⟨2500, 2500, 2500, 2500⟩ =
      .ok (sampleScores observed) := by
  cases observed <;> decide +kernel

theorem scoreMetrics_monotone_sample : (sampleScores true).AtMost (sampleScores false) :=
  scoreMetrics_monotone (atMost_sampleWealthy true false) (by decide)
    (scoreMetrics_sampleWealthy true) (scoreMetrics_sampleWealthy false)

/-- A first look at an empty treasury takes nothing away that counts in favour of the day, and four
fifths of its wealth. -/
theorem first_observation_scores_less :
    (sampleWealthy false).AtMost (sampleWealthy true) ∧
      (∀ observed, (sampleWealthy observed).validate = .ok () ∧
        scoreMetrics (sampleWealthy observed) (.forPeriod .daily) ⟨2500, 2500, 2500, 2500⟩ =
          .ok (sampleScores observed)) ∧
      (sampleScores true).wealth = some 2000 ∧ (sampleScores false).wealth = some 10000 ∧
      (sampleScores true).total < (sampleScores false).total := by
  refine ⟨atMost_sampleWealthy false true, fun observed =>
    ⟨?_, scoreMetrics_sampleWealthy observed⟩, rfl, rfl, by decide⟩
  cases observed <;> decide +kernel

end Cthuwu.Scales
