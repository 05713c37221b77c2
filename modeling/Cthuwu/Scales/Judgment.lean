import Cthuwu.Lib.Apportion
import Cthuwu.Scales.Metrics

/-!
# Judgments

The evaluation of a period. Every scale is scored in basis points against its targets, the sliders
of the Nature are normalized to weights of the scored scales, and the weighted total less a penalty
for stress decides the outcome. A judgment keeps the policy, the weights and the scores it comes
from, and `Judgment.validate` checks them against one another.
-/

namespace Cthuwu.Scales

open Evolution (TentacleNature Hashing u64Max u32Max)

/-! ## Policies -/

structure MetricTargets where
  averageConversationDepth : ℕ
  responseTimeFullCreditMs : ℕ
  responseTimeZeroCreditMs : ℕ
  childrenSpawned : ℕ
  acolytesRecruited : ℕ
  networkContributionPoints : ℕ
  revenueMicroUnits : ℕ
  efficiencyBasisPoints : ℕ
  governanceParticipation : ℕ
  siblingInfluencePoints : ℕ
  deriving DecidableEq

def MetricTargets.forPeriod (period : EvaluationPeriod) : MetricTargets :=
  { averageConversationDepth := 8
    responseTimeFullCreditMs := 3000
    responseTimeZeroCreditMs := 120000
    childrenSpawned := period.days
    acolytesRecruited := 2 * period.days
    networkContributionPoints := 100 * period.days
    revenueMicroUnits := 1000000 * period.days
    efficiencyBasisPoints := 8000
    governanceParticipation := period.days
    siblingInfluencePoints := 100 * period.days }

def MetricTargets.validate (t : MetricTargets) : Except ScalesError Unit := do
  failIf (t.averageConversationDepth = 0 ∨ maxConversationDepthSample < t.averageConversationDepth)
    (.invalid "average-conversation-depth target is invalid")
  failIf (t.responseTimeZeroCreditMs ≤ t.responseTimeFullCreditMs ∨
    maxResponseTimeMsSample < t.responseTimeZeroCreditMs)
    (.invalid "response-time targets are invalid")
  failIf (t.childrenSpawned = 0) (.invalid "children target must be positive")
  failIf (t.acolytesRecruited = 0) (.invalid "acolyte target must be positive")
  failIf (t.networkContributionPoints = 0)
    (.invalid "network-contribution target must be positive")
  failIf (t.revenueMicroUnits = 0) (.invalid "revenue target must be positive")
  failIf (t.efficiencyBasisPoints = 0 ∨ scoreMax < t.efficiencyBasisPoints)
    (.invalid "efficiency target is invalid")
  failIf (t.governanceParticipation = 0) (.invalid "governance target must be positive")
  failIf (t.siblingInfluencePoints = 0)
    (.invalid "sibling-influence target must be positive")

inductive JudgmentOutcome
  | propagationRights
  | survival
  | starvationWarning
  | dormant
  /-- Kept for the records of older versions. -/
  | death
  deriving DecidableEq

structure JudgmentThresholds where
  propagationRightsMin : ℕ := 8000
  survivalMin : ℕ := 5500
  starvationWarningMin : ℕ := 3000
  deriving DecidableEq

def JudgmentThresholds.validate (t : JudgmentThresholds) : Except ScalesError Unit :=
  failIf (¬(t.propagationRightsMin ≤ scoreMax ∧ t.survivalMin < t.propagationRightsMin ∧
    t.starvationWarningMin < t.survivalMin))
    (.invalid "judgment thresholds must be strictly descending and within the score range")

/-- The outcome of a score, where relief lowers the two lower thresholds. -/
def JudgmentThresholds.classifyWithStarvationRelief (t : JudgmentThresholds)
    (score starvationReliefBasisPoints : ℕ) : Except ScalesError JudgmentOutcome := do
  t.validate
  failIf (scoreMax < score) (.invalid "judgment score exceeds its bound")
  failIf (scoreMax < starvationReliefBasisPoints)
    (.invalid "economic starvation relief exceeds its bound")
  let belowPropagation ← checkedSub t.propagationRightsMin 1
  let survivalMin := min (max (t.survivalMin - starvationReliefBasisPoints) 1) belowPropagation
  let belowSurvival ← checkedSub survivalMin 1
  let starvationWarningMin := min (t.starvationWarningMin - starvationReliefBasisPoints)
    belowSurvival
  return if t.propagationRightsMin ≤ score then .propagationRights
    else if survivalMin ≤ score then .survival
    else if starvationWarningMin ≤ score then .starvationWarning
    else .dormant

structure JudgmentPolicy where
  schemaVersion : ℕ
  period : EvaluationPeriod
  targets : MetricTargets
  thresholds : JudgmentThresholds
  propagationMinConversations : ℕ
  propagationMinReturningConversations : ℕ
  deriving DecidableEq

def judgmentPolicySchemaVersion : ℕ := 1

def JudgmentPolicy.forPeriod (period : EvaluationPeriod) : JudgmentPolicy :=
  { schemaVersion := judgmentPolicySchemaVersion
    period
    targets := .forPeriod period
    thresholds := {}
    propagationMinConversations := 0
    propagationMinReturningConversations := 0 }

def JudgmentPolicy.validate (p : JudgmentPolicy) : Except ScalesError Unit := do
  failIf (p.schemaVersion ≠ judgmentPolicySchemaVersion)
    (.invalid ("unsupported judgment-policy schema version " ++ toString p.schemaVersion))
  p.targets.validate
  p.thresholds.validate
  failIf (p.propagationMinConversations < p.propagationMinReturningConversations)
    (.invalid "propagation returning-conversation evidence floor is invalid")

/-! ## Weights -/

structure ScaleWeights where
  engagement : ℕ
  growth : ℕ
  wealth : ℕ
  influence : ℕ
  deriving DecidableEq

def ScaleWeights.total (w : ScaleWeights) : ℕ :=
  saturatingAdd u16Max (saturatingAdd u16Max (saturatingAdd u16Max w.engagement w.growth) w.wealth)
    w.influence

def ScaleWeights.validate (w : ScaleWeights) (availability : ScoredScaleAvailability)
    (economicLayerEnabled : Bool) : Except ScalesError Unit := do
  availability.validate economicLayerEnabled
  failIf (w.total ≠ scoreMax) (.invalid "scale weights must total 10000 basis points")
  failIf (economicLayerEnabled = false ∧ w.wealth ≠ 0)
    (.invalid "wealth cannot be weighted while the economic layer is disabled")
  [("engagement", w.engagement, availability.engagement), ("growth", w.growth, availability.growth),
    ("wealth", w.wealth, availability.wealth),
    ("influence", w.influence, availability.influence)].forM fun (name, weight, active) =>
      failIf (active = false ∧ weight ≠ 0)
        (.invalid ("unavailable " ++ name ++ " scale must have zero weight"))

/-- The weights of the active values, rounded so that they add up to full credit. -/
def normalizeWeights (values : Fin 4 → ℕ) (active : Fin 4 → Bool) :
    Except ScalesError (Fin 4 → ℕ) := do
  let activeCount := (Apportion.opened active).card
  let total := ∑ i ∈ Apportion.opened active, values i
  if total = 0 then
    failIf (activeCount = 0) .arithmetic
    return Apportion.evenly (scoreMax / activeCount) active (List.finRange 4)
      (scoreMax % activeCount) fun _ => 0
  else
    let result := fun i => if active i then toScore (values i * scoreMax / total) else 0
    let fractions := fun i => if active i then values i * scoreMax % total else 0
    let assigned := ∑ i ∈ Apportion.opened active, result i
    let remainder ← checkedSub scoreMax assigned
    return Apportion.award fractions active remainder (fun _ => false) result

def ScaleWeights.fromNatureWithAvailability (nature : TentacleNature)
    (availability : ScoredScaleAvailability) (economicLayerEnabled : Bool) :
    Except ScalesError ScaleWeights := do
  nature.validate.mapError .nature
  availability.validate economicLayerEnabled
  let normalized ←
    normalizeWeights ![nature.engagement, nature.growth, nature.wealth, nature.influence]
      availability.active
  let weights : ScaleWeights :=
    { engagement := normalized 0
      growth := normalized 1
      wealth := normalized 2
      influence := normalized 3 }
  weights.validate availability economicLayerEnabled
  return weights

/-! ## Scores -/

/-- The rounded share of a target, at most full credit. -/
def ratioScore (numerator denominator : ℕ) : ℕ :=
  if denominator = 0 then 0
  else toScore (min (saturatingAdd u128Max (saturatingMul u128Max numerator scoreMax)
    (denominator / 2) / denominator) scoreMax)

/-- The rounded average of weighted parts. -/
def componentScore (parts : List (ℕ × ℕ)) : ℕ :=
  min (toScore (((parts.map fun (score, weight) => score * weight).sum + scoreMax / 2) / scoreMax))
    scoreMax

def responseTimeScore (totalMs samples fullCreditMs zeroCreditMs : ℕ) : ℕ :=
  if samples = 0 then 0
  else
    let full := samples * fullCreditMs
    let empty := samples * zeroCreditMs
    if totalMs ≤ full then scoreMax
    else if empty ≤ totalMs then 0
    else ratioScore (empty - totalMs) (empty - full)

def scoreEngagement (metrics : EngagementMetrics) (targets : MetricTargets) :
    Except ScalesError ℕ :=
  let depth := ratioScore metrics.conversationDepthTotal
    (metrics.conversations * targets.averageConversationDepth)
  let returns := ratioScore metrics.returningConversations metrics.conversations
  let responseTime := responseTimeScore metrics.responseTimeMsTotal metrics.responseTimeSamples
    targets.responseTimeFullCreditMs targets.responseTimeZeroCreditMs
  let base := componentScore [(depth, 4000), (returns, 3500), (responseTime, 2500)]
  let averageTokenBonus :=
    if metrics.conversations = 0 then 0
    else min (toScore (metrics.tokenBonusBasisPointsTotal / metrics.conversations)) scoreMax
  applyScoreAdjustment base averageTokenBonus

def scoreGrowth (metrics : GrowthMetrics) (targets : MetricTargets) : ℕ :=
  let rewardScore :=
    ratioScore (metrics.operatorRewardMicroUnits + metrics.recruitmentRewardMicroUnits)
      targets.revenueMicroUnits
  componentScore [(ratioScore metrics.childrenSpawned targets.childrenSpawned, 2500),
    (ratioScore metrics.acolytesRecruited targets.acolytesRecruited, 2000),
    (ratioScore metrics.networkContributionPoints targets.networkContributionPoints, 2500),
    (rewardScore, 3000)]

def scoreWealth (metrics : WealthMetrics) (targets : MetricTargets) : ℕ :=
  componentScore [(ratioScore (metrics.revenueMicroUnits + metrics.parentRevenueShareMicroUnits)
        targets.revenueMicroUnits, 6000),
      (ratioScore metrics.averageEfficiencyBasisPoints targets.efficiencyBasisPoints, 4000)]

/-- Holdings are eighty percent of wealth, operations twenty. -/
def primaryTokenWealthScore (tokenBalanceScore operationalScore : ℕ) : ℕ :=
  min (toScore ((tokenBalanceScore * 8000 + operationalScore * 2000 + 5000) / 10000)) scoreMax

def scoreInfluence (metrics : InfluenceMetrics) (targets : MetricTargets) : ℕ :=
  componentScore
    [(ratioScore metrics.governanceParticipation targets.governanceParticipation, 5000),
      (ratioScore metrics.siblingInfluencePoints targets.siblingInfluencePoints, 5000)]

structure ScaleScores where
  engagement : ℕ
  growth : ℕ
  wealth : Option ℕ
  influence : ℕ
  weightedTotalBeforeStress : ℕ
  stressPenalty : ℕ
  total : ℕ
  deriving DecidableEq

def stressPenaltyPerEvent : ℕ := 100

def maxStressPenalty : ℕ := 1000

def ScaleScores.validate (s : ScaleScores) : Except ScalesError Unit := do
  [("engagement", s.engagement), ("growth", s.growth), ("influence", s.influence),
    ("weighted total before stress", s.weightedTotalBeforeStress),
    ("stress penalty", s.stressPenalty), ("total", s.total)].forM fun (name, score) =>
      failIf (scoreMax < score) (ScalesError.invalid (name ++ " score exceeds its bound"))
  s.wealth.toList.forM fun wealth =>
    failIf (scoreMax < wealth) (ScalesError.invalid "wealth score exceeds its bound")
  failIf (maxStressPenalty < s.stressPenalty) (.invalid "stress penalty exceeds its bound")
  failIf (s.total ≠ s.weightedTotalBeforeStress - s.stressPenalty)
    (.invalid "final score does not apply its recorded stress penalty")

/-- The sum of the scores by their weights, in basis points of basis points. -/
def weightedSum (engagement growth : ℕ) (wealth : Option ℕ) (influence : ℕ)
    (weights : ScaleWeights) : ℕ :=
  engagement * weights.engagement + growth * weights.growth + wealth.getD 0 * weights.wealth +
    influence * weights.influence

/-- A hundred basis points for every adjustment, up to a thousand. -/
def stressPenaltyOf (events : ℕ) : ℕ :=
  min (saturatingMul u16Max (min events u16Max) stressPenaltyPerEvent) maxStressPenalty

def scoreMetrics (metrics : TentacleMetrics) (targets : MetricTargets) (weights : ScaleWeights) :
    Except ScalesError ScaleScores := do
  targets.validate
  let effects := metrics.tokenEconomics.map (·.effects)
  let engagementBase ← scoreEngagement metrics.engagement targets
  let engagement ← applyScoreAdjustment engagementBase
    (effects.elim 0 (·.engagementAdjustmentBasisPoints))
  let growth ← applyScoreAdjustment (scoreGrowth metrics.growth targets)
    (effects.elim 0 (·.growthAdjustmentBasisPoints))
  let wealth := metrics.wealth.map fun wealth =>
    let operationalScore := scoreWealth wealth targets
    effects.elim operationalScore fun effects =>
      primaryTokenWealthScore effects.wealthAdjustmentBasisPoints operationalScore
  let influence ← applyScoreAdjustment (scoreInfluence metrics.influence targets)
    (effects.elim 0 (·.influenceAdjustmentBasisPoints))
  let weightedTotalBeforeStress := min (toScore
    ((weightedSum engagement growth wealth influence weights + scoreMax / 2) / scoreMax)) scoreMax
  let stressPenalty := stressPenaltyOf metrics.natureAdjustmentStressEvents
  let scores : ScaleScores :=
    { engagement, growth, wealth, influence, weightedTotalBeforeStress, stressPenalty
      total := weightedTotalBeforeStress - stressPenalty }
  scores.validate
  return scores

/-! ## Evidence -/

structure PropagationEvidence where
  observedConversations : ℕ
  observedReturningConversations : ℕ
  requiredConversations : ℕ
  requiredReturningConversations : ℕ
  observedStakeBasisPoints : ℕ
  requiredStakeBasisPoints : ℕ
  stakeEligible : Bool
  eligible : Bool
  deriving DecidableEq

def PropagationEvidence.fromMetrics (metrics : TentacleMetrics) (policy : JudgmentPolicy) :
    PropagationEvidence :=
  let (observedStake, requiredStake, stakeEligible) := metrics.tokenEconomics.elim
    (0, 0, !metrics.economicLayerEnabled) fun economics =>
      (economics.snapshot.stakeBasisPoints, economics.policy.propagationMinimumStakeBasisPoints,
        economics.effects.propagationStakeEligible)
  { observedConversations := metrics.engagement.conversations
    observedReturningConversations := metrics.engagement.returningConversations
    requiredConversations := policy.propagationMinConversations
    requiredReturningConversations := policy.propagationMinReturningConversations
    observedStakeBasisPoints := observedStake
    requiredStakeBasisPoints := requiredStake
    stakeEligible
    eligible := decide (policy.propagationMinConversations ≤ metrics.engagement.conversations) &&
      decide (policy.propagationMinReturningConversations ≤
        metrics.engagement.returningConversations) && stakeEligible }

def PropagationEvidence.validate (e : PropagationEvidence) (policy : JudgmentPolicy) :
    Except ScalesError Unit := do
  failIf (e.observedConversations < e.observedReturningConversations)
    (.invalid "propagation evidence has more returns than conversations")
  failIf (¬(e.requiredConversations = policy.propagationMinConversations ∧
    e.requiredReturningConversations = policy.propagationMinReturningConversations))
    (.invalid "propagation evidence disagrees with its judgment policy")
  failIf (scoreMax < e.observedStakeBasisPoints ∨ scoreMax < e.requiredStakeBasisPoints)
    (.invalid "propagation stake evidence exceeds its normalized bound")
  failIf (e.stakeEligible ≠ (e.requiredStakeBasisPoints == 0 ||
    decide (e.requiredStakeBasisPoints ≤ e.observedStakeBasisPoints)))
    (.invalid "propagation stake eligibility is inconsistent")
  failIf (e.eligible ≠ (decide (e.requiredConversations ≤ e.observedConversations) &&
    decide (e.requiredReturningConversations ≤ e.observedReturningConversations) &&
    e.stakeEligible))
    (.invalid "propagation evidence eligibility is inconsistent")

/-! ## Judgments -/

inductive EvaluationStatus
  | partialSnapshot
  | final
  deriving DecidableEq

inductive DecisionExecution
  | advisorySnapshotOnly
  | authenticatedOperatorConfirmationRequired
  | partialObservationOnly
  | automaticLifecycleActionRequired
  deriving DecidableEq

structure Judgment where
  schemaVersion : ℕ
  metricsSchemaVersion : ℕ
  period : EvaluationPeriod
  periodStartedAtUnixSeconds : ℤ
  periodEndsAtUnixSeconds : ℤ
  evaluatedAtUnixSeconds : ℤ
  evaluationStatus : EvaluationStatus
  policy : JudgmentPolicy
  scoredScaleAvailability : ScoredScaleAvailability
  weights : ScaleWeights
  scores : ScaleScores
  propagationEvidence : PropagationEvidence
  economicStarvationReliefBasisPoints : ℕ
  outcome : JudgmentOutcome
  execution : DecisionExecution
  deriving DecidableEq

def judgmentSchemaVersion : ℕ := 2

def legacyAdvisoryJudgmentSchemaVersion : ℕ := 1

/-- A final judgment follows its period, a partial one falls within it. -/
def Judgment.validateTime (j : Judgment) (finalText partialText : String) :
    Except ScalesError Unit :=
  match j.evaluationStatus with
  | .final => failIf (j.evaluatedAtUnixSeconds < j.periodEndsAtUnixSeconds) (.invalid finalText)
  | .partialSnapshot =>
    failIf (¬(j.periodStartedAtUnixSeconds ≤ j.evaluatedAtUnixSeconds ∧
      j.evaluatedAtUnixSeconds < j.periodEndsAtUnixSeconds)) (.invalid partialText)

def Judgment.validateExecution (j : Judgment) (final partialResult : DecisionExecution)
    (finalText partialText : String) : Except ScalesError Unit :=
  match j.evaluationStatus with
  | .final => failIf (j.execution ≠ final) (.invalid finalText)
  | .partialSnapshot => failIf (j.execution ≠ partialResult) (.invalid partialText)

/-- The schema and the status of a judgment fix when it was made and what it executes. -/
def Judgment.validateStatus (j : Judgment) : Except ScalesError Unit :=
  if j.schemaVersion = judgmentSchemaVersion then do
    j.validateTime "final judgment predates the end of its evaluation period"
      "partial judgment must fall within its open evaluation period"
    j.validateExecution .automaticLifecycleActionRequired .partialObservationOnly
      "final judgment must require automatic lifecycle execution"
      "partial judgment cannot execute before the period closes"
  else do
    j.validateTime "legacy final judgment predates the end of its evaluation period"
      "legacy partial judgment must fall within its open evaluation period"
    j.validateExecution .authenticatedOperatorConfirmationRequired .advisorySnapshotOnly
      "legacy final judgment must preserve its operator-confirmation disposition"
      "legacy partial judgment must preserve its observation-only disposition"

/-- Propagation rights need the evidence floor. -/
def withEvidence (outcome : JudgmentOutcome) (evidence : PropagationEvidence) : JudgmentOutcome :=
  if outcome = .propagationRights ∧ evidence.eligible = false then .survival else outcome

def Judgment.validate (j : Judgment) : Except ScalesError Unit := do
  failIf (j.schemaVersion ≠ legacyAdvisoryJudgmentSchemaVersion ∧
    j.schemaVersion ≠ judgmentSchemaVersion)
    (.invalid ("unsupported judgment schema version " ++ toString j.schemaVersion))
  failIf (j.metricsSchemaVersion ≠ TentacleMetrics.metricsSchemaVersion)
    (.invalid "unsupported metrics schema referenced by judgment")
  failIf (checkedAddTime j.periodStartedAtUnixSeconds j.period.durationSeconds ≠
    some j.periodEndsAtUnixSeconds) (.invalid "judgment evaluation period has invalid bounds")
  j.validateStatus
  failIf (j.policy.period ≠ j.period)
    (.invalid "judgment policy and judgment use different periods")
  j.policy.validate
  j.scoredScaleAvailability.validate j.scores.wealth.isSome
  j.weights.validate j.scoredScaleAvailability j.scores.wealth.isSome
  j.scores.validate
  j.propagationEvidence.validate j.policy
  let scoreOutcome ← j.policy.thresholds.classifyWithStarvationRelief j.scores.total
    j.economicStarvationReliefBasisPoints
  let expectedOutcome := withEvidence scoreOutcome j.propagationEvidence
  failIf (j.outcome ≠ expectedOutcome ∧ ¬(j.outcome = .death ∧ expectedOutcome = .dormant))
    (.invalid "judgment outcome does not match its score, thresholds, and evidence floor")

namespace TentacleMetrics

variable [Hashing]

variable (m : TentacleMetrics) (nature : TentacleNature) (evaluatedAtUnixSeconds : ℤ)
  (policy : JudgmentPolicy)

/-- A final evaluation needs the period closed, a partial one needs it open. -/
def validateWindow (status : EvaluationStatus) :
    Except ScalesError Unit :=
  match status with
  | .final => failIf (evaluatedAtUnixSeconds < m.periodEndsAtUnixSeconds)
      (.invalid "cannot finalize an evaluation period before it closes")
  | .partialSnapshot =>
    failIf (¬(m.periodStartedAtUnixSeconds ≤ evaluatedAtUnixSeconds ∧
      evaluatedAtUnixSeconds < m.periodEndsAtUnixSeconds))
      (.invalid "a partial snapshot must fall within its open evaluation period")

/-- The relief that the last observation pays for. -/
def starvationRelief : ℕ :=
  m.tokenEconomics.elim 0 (·.effects.starvationReliefBasisPoints)

/-- The judgment of the metrics by their weights, scores and outcome. -/
def judgment
    (evaluationStatus : EvaluationStatus) (weights : ScaleWeights) (scores : ScaleScores)
    (scoreOutcome : JudgmentOutcome) : Judgment :=
  { schemaVersion := judgmentSchemaVersion
    metricsSchemaVersion := m.schemaVersion
    period := m.period
    periodStartedAtUnixSeconds := m.periodStartedAtUnixSeconds
    periodEndsAtUnixSeconds := m.periodEndsAtUnixSeconds
    evaluatedAtUnixSeconds, evaluationStatus, policy
    scoredScaleAvailability := m.scoredScaleAvailability
    weights, scores
    propagationEvidence := .fromMetrics m policy
    economicStarvationReliefBasisPoints := m.starvationRelief
    outcome := withEvidence scoreOutcome (.fromMetrics m policy)
    execution := match evaluationStatus with
      | .final => .automaticLifecycleActionRequired
      | .partialSnapshot => .partialObservationOnly }

def evaluateInternal (evaluationStatus : EvaluationStatus) :
    Except ScalesError Judgment := do
  m.validate
  nature.validate.mapError .nature
  failIf (m.natureId ≠ nature.natureId) (.invalid "metrics are bound to a different signed Nature")
  let natureFingerprint ← fingerprint nature
  failIf (m.natureFingerprint ≠ natureFingerprint)
    (.invalid "metrics are bound to a different signed Nature")
  policy.validate
  failIf (policy.period ≠ m.period)
    (.invalid "judgment policy and metrics use different evaluation periods")
  m.validateWindow evaluatedAtUnixSeconds evaluationStatus
  failIf (m.economicLayerEnabled && !m.tokenEconomics.any (·.provenance.isSome))
    (.invalid "economic evaluation blocked: provenance-bound token data is missing")
  let weights ← ScaleWeights.fromNatureWithAvailability nature m.scoredScaleAvailability
    m.economicLayerEnabled
  let scores ← scoreMetrics m policy.targets weights
  let scoreOutcome ← policy.thresholds.classifyWithStarvationRelief scores.total m.starvationRelief
  return m.judgment evaluatedAtUnixSeconds policy evaluationStatus weights scores scoreOutcome

def evaluateWithPolicy : Except ScalesError Judgment :=
  m.evaluateInternal nature evaluatedAtUnixSeconds policy .final

def evaluateSnapshotWithPolicy : Except ScalesError Judgment :=
  m.evaluateInternal nature evaluatedAtUnixSeconds policy .partialSnapshot

def evaluate :
    Except ScalesError Judgment :=
  m.evaluateWithPolicy nature evaluatedAtUnixSeconds (.forPeriod m.period)

def evaluateSnapshot : Except ScalesError Judgment :=
  m.evaluateSnapshotWithPolicy nature evaluatedAtUnixSeconds (.forPeriod m.period)

end TentacleMetrics

end Cthuwu.Scales
