import Cthuwu.Evolution.Actions

/-!
# Token economics

What one verified look at a Tentacle's tokens does to its scores. Balances, stakes and rewards are
normalized to basis points, a policy says how strongly each of them counts, and the effects are
recorded beside the snapshot and the policy they come from (`RecordedTokenEconomics`), so that
effects nobody could have derived are refused. Addresses and configuration identities are words,
zero where the code compares with zeros.
-/

namespace Cthuwu.Scales

open Evolution (Address EvolutionError u64Max u32Max)

inductive ScalesError
  | invalid (message : String)
  | nature (error : EvolutionError)
  /-- Arithmetic has no result, where the program stops. -/
  | arithmetic
  deriving DecidableEq

/-- Full credit, `SCORE_MAX` and `NORMALIZED_ECONOMIC_MAX`. -/
def scoreMax : ℕ := 10000

def u16Max : ℕ := 65535

def u128Max : ℕ := 340282366920938463463374607431768211455

/-! ## Machine integers -/

def saturatingAdd (bound n m : ℕ) : ℕ :=
  min (n + m) bound

def saturatingMul (bound n m : ℕ) : ℕ :=
  min (n * m) bound

/-- `n + m`, where the sum has a place. -/
def checkedAdd (bound n m : ℕ) : Except ScalesError ℕ := do
  failIf (bound < n + m) .arithmetic
  return n + m

/-- `n - m`, where the difference has a place. -/
def checkedSub (n m : ℕ) : Except ScalesError ℕ := do
  failIf (n < m) .arithmetic
  return n - m

/-- `u16::try_from(n).unwrap_or(SCORE_MAX)`. -/
def toScore (n : ℕ) : ℕ :=
  if n ≤ u16Max then n else scoreMax

theorem checkedAdd_ok {bound n m k : ℕ} :
    checkedAdd bound n m = .ok k ↔ n + m ≤ bound ∧ n + m = k := by
  unfold checkedAdd
  rw [except_check_ok, failIf_ok, except_pure_ok, Nat.not_lt]

theorem checkedSub_ok {n m k : ℕ} : checkedSub n m = .ok k ↔ m ≤ n ∧ n - m = k := by
  unfold checkedSub
  rw [except_check_ok, failIf_ok, except_pure_ok, Nat.not_lt]

theorem toScore_of_le {n : ℕ} (h : n ≤ scoreMax) : toScore n = n :=
  if_pos (h.trans (by decide))

theorem saturatingAdd_le (bound n m : ℕ) : saturatingAdd bound n m ≤ n + m :=
  Nat.min_le_left _ _

/-- Every named value is within full credit. -/
def ensureScores (text : String) (values : List (String × ℕ)) : Except ScalesError Unit :=
  values.forM fun (name, value) =>
    failIf (scoreMax < value) (.invalid (text ++ name ++ " exceeds 10000 basis points"))

theorem ensureScores_ok {text : String} {values : List (String × ℕ)} :
    ensureScores text values = .ok () ↔ ∀ value ∈ values, value.2 ≤ scoreMax := by
  unfold ensureScores
  simp only [forM_ok, failIf_ok, Nat.not_lt]

/-! ## Observations and policies -/

structure TokenEconomicSnapshot where
  balanceBasisPoints : ℕ
  stakeBasisPoints : ℕ
  rewardBasisPoints : ℕ
  trustworthy : Bool
  deriving DecidableEq

def TokenEconomicSnapshot.validate (s : TokenEconomicSnapshot) : Except ScalesError Unit :=
  ensureScores "normalized token " [("balance", s.balanceBasisPoints),
    ("stake", s.stakeBasisPoints), ("reward", s.rewardBasisPoints)]

structure TokenEconomicPolicy where
  schemaVersion : ℕ
  wealthSensitivityBasisPoints : ℕ
  influenceSensitivityBasisPoints : ℕ
  growthSensitivityBasisPoints : ℕ
  engagementSensitivityBasisPoints : ℕ
  starvationReliefSensitivityBasisPoints : ℕ
  emergencyReliefPerExpenditureBasisPoints : ℕ
  maxEmergencyExpenditureBasisPoints : ℕ
  propagationMinimumStakeBasisPoints : ℕ
  deriving DecidableEq

def tokenEconomicsSchemaVersion : ℕ := 1

def TokenEconomicPolicy.validate (p : TokenEconomicPolicy) : Except ScalesError Unit := do
  failIf (p.schemaVersion ≠ tokenEconomicsSchemaVersion)
    (.invalid ("unsupported token-economic policy schema version " ++ toString p.schemaVersion))
  ensureScores "token-economic " [("wealth sensitivity", p.wealthSensitivityBasisPoints),
    ("influence sensitivity", p.influenceSensitivityBasisPoints),
    ("growth sensitivity", p.growthSensitivityBasisPoints),
    ("engagement sensitivity", p.engagementSensitivityBasisPoints),
    ("starvation-relief sensitivity", p.starvationReliefSensitivityBasisPoints),
    ("emergency relief rate", p.emergencyReliefPerExpenditureBasisPoints),
    ("maximum emergency expenditure", p.maxEmergencyExpenditureBasisPoints),
    ("propagation minimum stake", p.propagationMinimumStakeBasisPoints)]
  failIf (p.emergencyReliefPerExpenditureBasisPoints = 0)
    (.invalid "emergency relief per expenditure must be positive")

/-- The rounded product of two shares, cut to sixteen bits. -/
def multiplyBasisPoints (left right : ℕ) : ℕ :=
  (left * right + scoreMax / 2) / scoreMax % (u16Max + 1)

structure TokenEconomicEffects where
  wealthAdjustmentBasisPoints : ℕ
  influenceAdjustmentBasisPoints : ℕ
  growthAdjustmentBasisPoints : ℕ
  engagementAdjustmentBasisPoints : ℕ
  starvationReliefBasisPoints : ℕ
  propagationStakeEligible : Bool
  deriving DecidableEq

def TokenEconomicEffects.validate (e : TokenEconomicEffects) : Except ScalesError Unit :=
  ensureScores "token-economic " [("wealth adjustment", e.wealthAdjustmentBasisPoints),
    ("influence adjustment", e.influenceAdjustmentBasisPoints),
    ("growth adjustment", e.growthAdjustmentBasisPoints),
    ("engagement adjustment", e.engagementAdjustmentBasisPoints),
    ("starvation relief", e.starvationReliefBasisPoints)]

def TokenEconomicPolicy.effects (p : TokenEconomicPolicy) (s : TokenEconomicSnapshot) :
    Except ScalesError TokenEconomicEffects := do
  p.validate
  s.validate
  failIf (!s.trustworthy) (.invalid "token-economic observation is unavailable or unverified")
  return {
    wealthAdjustmentBasisPoints :=
      multiplyBasisPoints s.balanceBasisPoints p.wealthSensitivityBasisPoints
    influenceAdjustmentBasisPoints :=
      multiplyBasisPoints s.stakeBasisPoints p.influenceSensitivityBasisPoints
    growthAdjustmentBasisPoints :=
      multiplyBasisPoints s.rewardBasisPoints p.growthSensitivityBasisPoints
    engagementAdjustmentBasisPoints :=
      multiplyBasisPoints s.balanceBasisPoints p.engagementSensitivityBasisPoints
    starvationReliefBasisPoints :=
      multiplyBasisPoints s.balanceBasisPoints p.starvationReliefSensitivityBasisPoints
    propagationStakeEligible := p.propagationMinimumStakeBasisPoints ≤ s.stakeBasisPoints }

inductive EconomicHolderRole
  | tentacleTreasury
  | operatorAcolyte
  | parentTentacle
  | childTentacle
  | councilMember
  deriving DecidableEq

structure EconomicObservationProvenance where
  holderAddress : Address
  holderRole : EconomicHolderRole
  chainId : ℕ
  tokenContract : Address
  observedAtUnixSeconds : ℕ
  observedBlockNumber : Option ℕ
  configurationIdentity : BitVec 256
  deriving DecidableEq

def EconomicObservationProvenance.validate (p : EconomicObservationProvenance) :
    Except ScalesError Unit := do
  failIf (p.holderAddress = 0) (.invalid "economic holder address cannot be zero")
  failIf (p.tokenContract = 0) (.invalid "economic token contract cannot be zero")
  failIf (p.chainId ≠ Evolution.baseChainId)
    (.invalid "economic observation must be bound to Base chain id 8453")
  failIf (p.observedAtUnixSeconds = 0)
    (.invalid "economic observation timestamp must be positive")
  failIf (p.configurationIdentity = 0)
    (.invalid "economic configuration identity cannot be zero")

/-! ## What is recorded -/

structure RecordedTokenEconomics where
  snapshot : TokenEconomicSnapshot
  policy : TokenEconomicPolicy
  effects : TokenEconomicEffects
  provenance : Option EconomicObservationProvenance
  deriving DecidableEq

def RecordedTokenEconomics.newWithProvenance (snapshot : TokenEconomicSnapshot)
    (policy : TokenEconomicPolicy) (provenance : EconomicObservationProvenance) :
    Except ScalesError RecordedTokenEconomics := do
  provenance.validate
  let effects ← policy.effects snapshot
  return { snapshot, policy, effects, provenance := some provenance }

def RecordedTokenEconomics.validate (r : RecordedTokenEconomics) : Except ScalesError Unit := do
  r.snapshot.validate
  r.policy.validate
  r.effects.validate
  r.provenance.toList.forM (·.validate)
  let effects ← r.policy.effects r.snapshot
  failIf (r.effects ≠ effects)
    (.invalid "recorded token-economic effects do not match their snapshot and policy")

/-- A rounded share of at most full credit is no more than the whole. -/
theorem multiplyBasisPoints_le {left right : ℕ} (hright : right ≤ scoreMax) :
    multiplyBasisPoints left right ≤ left := by
  have hmul : left * right ≤ left * scoreMax := Nat.mul_le_mul_left left hright
  refine (Nat.mod_le _ _).trans ?_
  simp only [scoreMax] at hmul ⊢
  omega

/-- The effects of a policy are within full credit. -/
theorem effects_valid {p : TokenEconomicPolicy} {s : TokenEconomicSnapshot}
    {e : TokenEconomicEffects} (h : p.effects s = .ok e) : e.validate = .ok () := by
  unfold TokenEconomicPolicy.effects TokenEconomicPolicy.validate
    TokenEconomicSnapshot.validate at h
  simp only [except_check_ok, ensureScores_ok, except_pure_ok] at h
  obtain ⟨⟨-, hpolicy, -⟩, hsnapshot, -, rfl⟩ := h
  simp only [List.forall_mem_cons] at hpolicy hsnapshot
  obtain ⟨hwealth, hinfluence, hgrowth, hengagement, hrelief, -⟩ := hpolicy
  obtain ⟨hbalance, hstake, hreward, -⟩ := hsnapshot
  unfold TokenEconomicEffects.validate
  simp only [ensureScores_ok, List.forall_mem_cons]
  exact ⟨(multiplyBasisPoints_le hwealth).trans hbalance,
    (multiplyBasisPoints_le hinfluence).trans hstake,
    (multiplyBasisPoints_le hgrowth).trans hreward,
    (multiplyBasisPoints_le hengagement).trans hbalance,
    (multiplyBasisPoints_le hrelief).trans hbalance, by simp⟩

theorem newWithProvenance_valid {snapshot : TokenEconomicSnapshot} {policy : TokenEconomicPolicy}
    {provenance : EconomicObservationProvenance} {r : RecordedTokenEconomics}
    (h : RecordedTokenEconomics.newWithProvenance snapshot policy provenance = .ok r) :
    r.validate = .ok () ∧ r.provenance.isSome = true := by
  unfold RecordedTokenEconomics.newWithProvenance at h
  simp only [except_bind_ok, exists_unit, except_pure_ok] at h
  obtain ⟨hprovenance, effects, heffects, rfl⟩ := h
  have hvalid := effects_valid heffects
  have hchecks := heffects
  unfold TokenEconomicPolicy.effects at hchecks
  simp only [except_check_ok] at hchecks
  unfold RecordedTokenEconomics.validate
  simp only [except_bind_ok, exists_unit, failIf_ok, forM_ok, Option.mem_toList]
  exact ⟨⟨hchecks.2.1, hchecks.1, hvalid, fun p hp => by cases hp; exact hprovenance,
    effects, heffects, fun h => h rfl⟩, rfl⟩

/-! ## Revenue splits -/

structure MlmRevenueDistribution where
  grossRevenueMicroUnits : ℕ
  parentRevenueMicroUnits : ℕ
  operatorRewardMicroUnits : ℕ
  recruitmentRewardMicroUnits : ℕ
  childRetainedMicroUnits : ℕ

def MlmRevenueDistribution.validate (d : MlmRevenueDistribution) : Except ScalesError Unit :=
  failIf (d.parentRevenueMicroUnits + d.operatorRewardMicroUnits +
    d.recruitmentRewardMicroUnits + d.childRetainedMicroUnits ≠ d.grossRevenueMicroUnits)
    (.invalid "MLM revenue distribution does not conserve gross revenue")

structure MlmIncentivePolicy where
  parentRevenueShareBasisPoints : ℕ
  operatorRewardBasisPoints : ℕ
  recruitmentRewardBasisPoints : ℕ

def MlmIncentivePolicy.validate (p : MlmIncentivePolicy) : Except ScalesError Unit :=
  failIf (scoreMax < p.parentRevenueShareBasisPoints + p.operatorRewardBasisPoints +
    p.recruitmentRewardBasisPoints) (.invalid "MLM revenue shares exceed gross revenue")

/-- The share of a revenue, cut off at the largest number of its type. -/
def revenueShare (grossRevenueMicroUnits basisPoints : ℕ) : ℕ :=
  let share := grossRevenueMicroUnits * basisPoints / scoreMax
  if share ≤ u64Max then share else u64Max

def MlmIncentivePolicy.distribute (p : MlmIncentivePolicy) (grossRevenueMicroUnits : ℕ) :
    Except ScalesError MlmRevenueDistribution := do
  p.validate
  let parentRevenueMicroUnits :=
    revenueShare grossRevenueMicroUnits p.parentRevenueShareBasisPoints
  let operatorRewardMicroUnits := revenueShare grossRevenueMicroUnits p.operatorRewardBasisPoints
  let recruitmentRewardMicroUnits :=
    revenueShare grossRevenueMicroUnits p.recruitmentRewardBasisPoints
  let distribution : MlmRevenueDistribution :=
    { grossRevenueMicroUnits, parentRevenueMicroUnits, operatorRewardMicroUnits
      recruitmentRewardMicroUnits
      childRetainedMicroUnits := grossRevenueMicroUnits - parentRevenueMicroUnits -
        operatorRewardMicroUnits - recruitmentRewardMicroUnits }
  distribution.validate
  return distribution

/-- A share of at most the whole is rounded down and nothing else. -/
theorem revenueShare_eq {gross : ℕ} (hgross : gross ≤ u64Max) (basisPoints : ℕ)
    (hwithin : basisPoints ≤ scoreMax) :
    revenueShare gross basisPoints = gross * basisPoints / scoreMax := by
  have hfloor : gross * basisPoints / scoreMax ≤ gross :=
    Nat.div_le_of_le_mul ((Nat.mul_comm gross basisPoints).le.trans
      (Nat.mul_le_mul_right gross hwithin))
  exact if_pos (hfloor.trans hgross)

/-- A split by exact shares, rounded down : they are within the revenue, so that nothing saturates
where they are taken from it, and the child keeps the rest. -/
structure MlmRevenueDistribution.Splits (d : MlmRevenueDistribution) (p : MlmIncentivePolicy)
    (gross : ℕ) : Prop where
  whole : d.grossRevenueMicroUnits = gross
  parent : d.parentRevenueMicroUnits = gross * p.parentRevenueShareBasisPoints / scoreMax
  operator : d.operatorRewardMicroUnits = gross * p.operatorRewardBasisPoints / scoreMax
  recruitment : d.recruitmentRewardMicroUnits = gross * p.recruitmentRewardBasisPoints / scoreMax
  within : d.parentRevenueMicroUnits + d.operatorRewardMicroUnits +
    d.recruitmentRewardMicroUnits ≤ gross
  conserved : d.parentRevenueMicroUnits + d.operatorRewardMicroUnits +
    d.recruitmentRewardMicroUnits + d.childRetainedMicroUnits = gross

/-- Every revenue is split without a unit lost. -/
theorem distribute_conserves {p : MlmIncentivePolicy} (hp : p.validate = .ok ()) {gross : ℕ}
    (hgross : gross ≤ u64Max) : ∃ d, p.distribute gross = .ok d ∧ d.Splits p gross := by
  have hshares := hp
  unfold MlmIncentivePolicy.validate at hshares
  rw [failIf_ok, Nat.not_lt] at hshares
  have hparent := revenueShare_eq hgross p.parentRevenueShareBasisPoints (by omega)
  have hoperator := revenueShare_eq hgross p.operatorRewardBasisPoints (by omega)
  have hrecruitment := revenueShare_eq hgross p.recruitmentRewardBasisPoints (by omega)
  have hsum : gross * p.parentRevenueShareBasisPoints / scoreMax +
      gross * p.operatorRewardBasisPoints / scoreMax +
      gross * p.recruitmentRewardBasisPoints / scoreMax ≤ gross := by
    have hwhole := Nat.mul_le_mul_left gross hshares
    rw [Nat.mul_add, Nat.mul_add] at hwhole
    simp only [scoreMax] at hwhole ⊢
    omega
  unfold MlmIncentivePolicy.distribute MlmRevenueDistribution.validate
  simp only [hparent, hoperator, hrecruitment, except_check_ok, except_pure_ok, failIf_ok, not_not]
  refine ⟨_, ⟨hp, ?_, rfl⟩, rfl, rfl, rfl, rfl, hsum, ?_⟩
  · omega
  · dsimp only
    omega

theorem distribute_conserves_sample :
    ∃ d, MlmIncentivePolicy.distribute ⟨1500, 1000, 500⟩ 1000003 = .ok d ∧
      d.Splits ⟨1500, 1000, 500⟩ 1000003 :=
  distribute_conserves (p := ⟨1500, 1000, 500⟩) (by decide) (by decide)

/-- A score raised towards full credit by a share of what it lacks. -/
def applyScoreAdjustment (baseScore adjustmentBasisPoints : ℕ) : Except ScalesError ℕ := do
  failIf (scoreMax < baseScore) (.invalid "base scale score exceeds its bound")
  failIf (scoreMax < adjustmentBasisPoints)
    (.invalid "economic score adjustment exceeds its bound")
  let headroom ← checkedSub scoreMax baseScore
  return saturatingAdd u16Max baseScore (multiplyBasisPoints headroom adjustmentBasisPoints)

theorem exists_applyScoreAdjustment {baseScore adjustment : ℕ} (hbase : baseScore ≤ scoreMax)
    (hadjustment : adjustment ≤ scoreMax) :
    ∃ score, applyScoreAdjustment baseScore adjustment = .ok score ∧ score ≤ scoreMax := by
  refine ⟨saturatingAdd u16Max baseScore (multiplyBasisPoints (scoreMax - baseScore) adjustment),
    ?_, (saturatingAdd_le _ _ _).trans ?_⟩
  · unfold applyScoreAdjustment
    simp only [except_bind_ok, exists_unit, failIf_ok, Nat.not_lt, checkedSub_ok, except_pure_ok]
    exact ⟨hbase, hadjustment, _, ⟨hbase, rfl⟩, rfl⟩
  · have hraise := @multiplyBasisPoints_le (scoreMax - baseScore) _ hadjustment
    omega

end Cthuwu.Scales
