import Cthuwu.Evolution.Operations
import Cthuwu.Scales.History
import Cthuwu.Scales.Monotone

/-!
# Spending for survival

What it costs to lift a starving Tentacle to its survival threshold. `emergencySurvivalRequirement`
inverts the relief rate with a division that rounds up and is cut off at full credit, and
`survivalFunding` does the same for the judgment of a pending death, whose answer
`stagePendingSurvivalSpend` offers to the lifecycle.

Where the rate is below the shortfall, full credit does not pay for it, and the cut makes a spend of
all there is look sufficient (`covers_iff`). So the sizes are right exactly where the rate covers the
shortfall or less than full credit is there (`survival_sizing_iff`).
-/

namespace Cthuwu.Scales

open Evolution (Address EvolutionError LifecycleState SurvivalSpendBinding exactRawTokenAmount
  cancelPendingSurvivalSpends enqueueSurvivalSpendForPendingDeath)

/-! ## Requirements -/

structure EmergencySurvivalRequirement where
  effectiveSurvivalThreshold : ℕ
  scoreShortfall : ℕ
  requiredExpenditureBasisPoints : ℕ
  expectedScoreReliefBasisPoints : ℕ
  fullyFunded : Bool
  deriving DecidableEq

/-- `(shortfall * 10_000).div_ceil(rate).min(10_000)`. -/
def requiredExpenditure (scoreShortfall rate : ℕ) : ℕ :=
  min ((scoreShortfall * scoreMax + rate - 1) / rate) scoreMax

/-- What a score below its threshold requires, and what of it is there. -/
def requirementFor (effectiveSurvivalThreshold currentScore rate available : ℕ) :
    EmergencySurvivalRequirement :=
  let scoreShortfall := effectiveSurvivalThreshold - currentScore
  let required := requiredExpenditure scoreShortfall rate
  let requiredExpenditureBasisPoints := min required available
  { effectiveSurvivalThreshold, scoreShortfall, requiredExpenditureBasisPoints
    expectedScoreReliefBasisPoints :=
      min (multiplyBasisPoints requiredExpenditureBasisPoints rate) scoreShortfall
    fullyFunded := required ≤ available }

def RecordedTokenEconomics.emergencySurvivalRequirement (r : RecordedTokenEconomics)
    (currentScore baseSurvivalThreshold : ℕ) :
    Except ScalesError (Option EmergencySurvivalRequirement) := do
  r.validate
  failIf (scoreMax < currentScore) (.invalid "current survival score exceeds its bound")
  failIf (scoreMax < baseSurvivalThreshold) (.invalid "base survival threshold exceeds its bound")
  let effectiveSurvivalThreshold := baseSurvivalThreshold - r.effects.starvationReliefBasisPoints
  if effectiveSurvivalThreshold ≤ currentScore then return none
  else
    let available := min r.snapshot.balanceBasisPoints r.policy.maxEmergencyExpenditureBasisPoints
    return some (requirementFor effectiveSurvivalThreshold currentScore
      r.policy.emergencyReliefPerExpenditureBasisPoints available)

/-- The intent of a burn on Base, before it is signed. -/
structure EconomicTransactionRecord where
  actionId : BitVec 256
  tokenContract : Address
  sender : Address
  recipient : Address
  amountRaw : BitVec 256
  createdAtUnixSeconds : ℕ

def EconomicTransactionRecord.validate (t : EconomicTransactionRecord) :
    Except ScalesError Unit := do
  failIf (t.actionId = 0) (.invalid "economic action id cannot be zero")
  failIf (t.tokenContract = 0) (.invalid "token contract cannot be zero")
  failIf (t.sender = 0) (.invalid "transaction sender cannot be zero")
  failIf (t.recipient = 0) (.invalid "transaction recipient cannot be zero")
  failIf (t.amountRaw = 0) (.invalid "transaction amount must be positive")
  failIf (t.createdAtUnixSeconds = 0) (.invalid "transaction creation timestamp must be positive")

def EmergencySurvivalRequirement.burnIntent (q : EmergencySurvivalRequirement)
    (intent : EconomicTransactionRecord) : Except ScalesError EconomicTransactionRecord := do
  failIf (q.requiredExpenditureBasisPoints = 0)
    (.invalid "emergency survival does not require an expenditure")
  failIf (q.fullyFunded = false) (.invalid "emergency survival expenditure is not fully funded")
  intent.validate
  return intent

/-! ## Pending deaths -/

inductive SurvivalError
  | invalid (message : String)
  | scales (error : ScalesError)
  | lifecycle (error : EvolutionError)

/-- The two observations are of the same holder under the same configuration. -/
def EconomicObservationProvenance.sameIdentity (p q : EconomicObservationProvenance) : Bool :=
  p.chainId = q.chainId && p.holderRole = q.holderRole && p.holderAddress = q.holderAddress &&
    p.tokenContract = q.tokenContract && p.configurationIdentity = q.configurationIdentity

/-- What the judgment of a death lacks to survival. -/
def EvolutionHistoryRecord.deathShortfall (death : EvolutionHistoryRecord)
    (economics : RecordedTokenEconomics) : ℕ :=
  death.judgment.policy.thresholds.survivalMin - economics.effects.starvationReliefBasisPoints -
    death.judgment.scores.total

/-- The spend that the last observation can pay for, where one is required. -/
def survivalFunding (death : EvolutionHistoryRecord) (metrics : TentacleMetrics) :
    Except SurvivalError (Option (EconomicObservationProvenance × ℕ)) :=
  match death.metrics.tokenEconomics, metrics.tokenEconomics with
  | some deathEconomics, some currentEconomics =>
    match deathEconomics.provenance, currentEconomics.provenance with
    | some deathProvenance, some currentProvenance => do
      failIf (!deathProvenance.sameIdentity currentProvenance)
        (.invalid ("survival funding observation changed the Death judgment's economic " ++
          "identity"))
      let required := requiredExpenditure (death.deathShortfall deathEconomics)
        deathEconomics.policy.emergencyReliefPerExpenditureBasisPoints
      let available := min currentEconomics.snapshot.balanceBasisPoints
        deathEconomics.policy.maxEmergencyExpenditureBasisPoints
      return if 0 < required ∧ required ≤ available then some (currentProvenance, required)
        else none
    | _, _ => return none
  | _, _ => return none

/-- A spend of the treasury that was observed. -/
def survivalBinding (provenance : EconomicObservationProvenance)
    (totalSupplyWhole tokenDecimals basisPoints : ℕ) :
    Except EvolutionError SurvivalSpendBinding := do
  let rawAmount ← exactRawTokenAmount totalSupplyWhole tokenDecimals basisPoints
  return {
    expenditureBasisPoints := basisPoints
    chainId := provenance.chainId
    tokenContract := provenance.tokenContract
    treasuryAddress := provenance.holderAddress
    configurationIdentity := provenance.configurationIdentity
    exactAmount := { totalSupplyWhole, tokenDecimals, basisPoints, rawAmount } }

def onLifecycle {α : Type} (op : Evolution.Op α) : Fallible SurvivalError LifecycleState α :=
  Fallible.onPart .lifecycle id (fun s _ => s) op

/-- The spend of a pending death is offered while it is funded within the grace, and canceled
otherwise. -/
def stagePendingSurvivalSpend [HistoryCodec] [Evolution.Hashing]
    (historyCatalog : ValidatedHistoryCatalog)
    (survivalTotalSupplyWhole survivalTokenDecimals : ℕ) (metrics : TentacleMetrics) (nowMs : ℕ) :
    Fallible SurvivalError LifecycleState Bool := do
  let lifecycle ← get
  match lifecycle.pendingDeath with
  | none => return false
  | some pending =>
    if pending.graceEndsAtMs < nowMs then
      onLifecycle (cancelPendingSurvivalSpends pending.judgmentId)
    else do
      match ← liftM ((historyCatalog.get pending.judgmentId).mapError SurvivalError.scales) with
      | none => do
        liftM (failIf (pending.graceEndsAtMs ≠ pending.scheduledAtMs) (SurvivalError.invalid
          "pending autonomous Death is missing its final judgment history"))
        return false
      | some death => do
        liftM (failIf (!(death.judgment.outcome = .death && death.authorizesAutomaticLifecycle))
          (SurvivalError.invalid "pending death references a non-Death final judgment"))
        match ← liftM (survivalFunding death metrics) with
        | some (provenance, required) => do
          let binding ← onLifecycle (liftM (survivalBinding provenance survivalTotalSupplyWhole
            survivalTokenDecimals required))
          onLifecycle (enqueueSurvivalSpendForPendingDeath pending.judgmentId nowMs binding)
        | none => onLifecycle (cancelPendingSurvivalSpends pending.judgmentId)

/-! ## What a spend is worth -/

theorem multiplyBasisPoints_le_right {left right : ℕ} (hleft : left ≤ scoreMax) :
    multiplyBasisPoints left right ≤ right := by
  have h := @multiplyBasisPoints_le right _ hleft
  unfold multiplyBasisPoints at h ⊢
  rwa [Nat.mul_comm left]

theorem requiredExpenditure_le (shortfall rate : ℕ) :
    requiredExpenditure shortfall rate ≤ scoreMax :=
  Nat.min_le_right _ _

variable {shortfall rate available : ℕ}

/-- The division that rounds up inverts the rate, until it is cut off : full credit is worth the
rate and no more. -/
theorem covers_iff (hpos : 0 < rate) (hrate : rate ≤ scoreMax) :
    shortfall ≤ multiplyBasisPoints (requiredExpenditure shortfall rate) rate ↔
      shortfall ≤ rate := by
  refine ⟨fun h => h.trans (multiplyBasisPoints_le_right (requiredExpenditure_le _ _)),
    fun h => ?_⟩
  have hup := Nat.lt_mul_div_succ (shortfall * scoreMax + rate - 1) hpos
  have hcut : requiredExpenditure shortfall rate = (shortfall * scoreMax + rate - 1) / rate := by
    refine Nat.min_eq_left (Nat.le_of_lt_succ ((Nat.div_lt_iff_lt_mul hpos).mpr ?_))
    have hmul := Nat.mul_le_mul_right scoreMax h
    rw [Nat.succ_mul, Nat.mul_comm scoreMax]
    omega
  have hproduct : requiredExpenditure shortfall rate * rate ≤ scoreMax * scoreMax :=
    Nat.mul_le_mul (requiredExpenditure_le _ _) hrate
  have hpaid : shortfall * scoreMax ≤ requiredExpenditure shortfall rate * rate := by
    rw [hcut, Nat.mul_comm _ rate]
    rw [Nat.mul_add, Nat.mul_one] at hup
    omega
  unfold multiplyBasisPoints
  simp only [scoreMax, u16Max] at hpaid hproduct ⊢
  omega

/-- Beyond the rate everything is required. -/
theorem requiredExpenditure_of_lt (hpos : 0 < rate) (h : rate < shortfall) :
    requiredExpenditure shortfall rate = scoreMax := by
  refine Nat.min_eq_right ((Nat.le_div_iff_mul_le hpos).mpr ?_)
  have hmul := Nat.mul_le_mul_right scoreMax h.le
  rw [Nat.mul_comm scoreMax]
  omega

/-- A spend that is paid for is worth the shortfall exactly where the rate covers it, or where less
than full credit is there to pay with. -/
theorem funded_covers_iff (hpos : 0 < rate) (hrate : rate ≤ scoreMax) :
    (requiredExpenditure shortfall rate ≤ available →
      shortfall ≤ multiplyBasisPoints (requiredExpenditure shortfall rate) rate) ↔
      shortfall ≤ rate ∨ available < scoreMax := by
  rw [covers_iff hpos hrate]
  rcases Nat.lt_or_ge rate shortfall with h | h
  · rw [requiredExpenditure_of_lt hpos h]
    omega
  · exact ⟨fun _ => .inl h, fun _ _ => h⟩

/-! ## Requirements are right exactly within the rate -/

theorem relief_rate_of_valid {r : RecordedTokenEconomics} (h : r.validate = .ok ()) :
    0 < r.policy.emergencyReliefPerExpenditureBasisPoints ∧
      r.policy.emergencyReliefPerExpenditureBasisPoints ≤ scoreMax := by
  unfold RecordedTokenEconomics.validate TokenEconomicPolicy.validate at h
  simp only [except_bind_ok, exists_unit, ensureScores_ok, failIf_ok, List.forall_mem_cons] at h
  obtain ⟨-, ⟨-, hpolicy, hpos⟩, -⟩ := h
  exact ⟨Nat.pos_of_ne_zero hpos, hpolicy.2.2.2.2.2.1⟩

/-- A requirement keeps its promise : a funded one lifts the score to the threshold, one that is not
takes all there is, and no burn is authorized that leaves the score below the threshold. -/
structure EmergencySurvivalRequirement.Truthful (q : EmergencySurvivalRequirement)
    (currentScore rate available : ℕ) : Prop where
  funded : q.fullyFunded = true → q.expectedScoreReliefBasisPoints = q.scoreShortfall
  unfunded : q.fullyFunded = false → q.requiredExpenditureBasisPoints = available
  burns : ∀ intent burn, q.burnIntent intent = .ok burn → q.effectiveSurvivalThreshold ≤
    currentScore + multiplyBasisPoints q.requiredExpenditureBasisPoints rate

theorem truthful_iff {threshold score : ℕ} (hpos : 0 < rate) (hrate : rate ≤ scoreMax)
    (hbelow : score < threshold) :
    (requirementFor threshold score rate available).Truthful score rate available ↔
      threshold - score ≤ rate ∨ available < scoreMax := by
  rw [← funded_covers_iff hpos hrate]
  constructor
  · intro h hpaid
    have hfunded := h.funded (decide_eq_true hpaid)
    unfold requirementFor at hfunded
    dsimp only at hfunded
    rw [Nat.min_eq_left hpaid] at hfunded
    omega
  · intro hcovers
    refine ⟨fun hfunded => ?_, fun hunfunded => ?_, fun intent burn hburn => ?_⟩
    · have hpaid := of_decide_eq_true hfunded
      unfold requirementFor
      dsimp only
      rw [Nat.min_eq_left hpaid]
      exact Nat.min_eq_right (hcovers hpaid)
    · exact Nat.min_eq_right (Nat.le_of_not_le (of_decide_eq_false hunfunded))
    · unfold EmergencySurvivalRequirement.burnIntent at hburn
      simp only [except_check_ok, failIf_ok, Bool.not_eq_false] at hburn
      have hpaid := of_decide_eq_true hburn.2.1
      have hrelief := hcovers hpaid
      unfold requirementFor
      dsimp only
      rw [Nat.min_eq_left hpaid]
      omega

/-- When a spend is funded : by the same treasury, and by what it holds now. -/
theorem survivalFunding_ok {death : EvolutionHistoryRecord} {metrics : TentacleMetrics}
    {provenance : EconomicObservationProvenance} {spend : ℕ} :
    survivalFunding death metrics = .ok (some (provenance, spend)) ↔
      ∃ r current p, death.metrics.tokenEconomics = some r ∧
        metrics.tokenEconomics = some current ∧ r.provenance = some p ∧
        current.provenance = some provenance ∧ p.sameIdentity provenance = true ∧
        (0 < spend ∧ spend ≤ min current.snapshot.balanceBasisPoints
          r.policy.maxEmergencyExpenditureBasisPoints) ∧
        requiredExpenditure (death.deathShortfall r)
          r.policy.emergencyReliefPerExpenditureBasisPoints = spend := by
  unfold survivalFunding
  constructor
  · intro h
    split at h
    · split at h
      · rename_i r current hr hcurrent _ _ p p' hp hp'
        simp only [except_check_ok, failIf_ok, except_pure_ok, Option.ite_none_right_eq_some,
          Option.some.injEq, Prod.mk.injEq, Bool.not_eq_true', Bool.not_eq_false] at h
        obtain ⟨hsame, hpaid, rfl, rfl⟩ := h
        exact ⟨r, current, p, hr, hcurrent, hp, hp', hsame, hpaid, rfl⟩
      · cases h
    · cases h
  · rintro ⟨r, current, p, hr, hcurrent, hp, hp', hsame, hpaid, rfl⟩
    simp only [hr, hcurrent, hp, hp', hsame, except_check_ok, failIf_ok, except_pure_ok,
      if_pos hpaid, and_true]
    simp

theorem requiredExpenditure_pos (hpos : 0 < rate) (h : 0 < shortfall) :
    0 < requiredExpenditure shortfall rate := by
  refine Nat.lt_min.mpr ⟨Nat.div_pos ?_ hpos, by decide⟩
  have hmul := Nat.mul_le_mul_right scoreMax h
  simp only [scoreMax] at hmul ⊢
  omega

/-- The sizes are right exactly where the rate covers the shortfall, or less than full credit is
there : for the requirement of any score below its threshold, and for the spend that a pending death
is funded with by a later look at the same treasury. -/
theorem survival_sizing_iff (r : RecordedTokenEconomics) (death : EvolutionHistoryRecord)
    (metrics : TentacleMetrics) : (∀ score threshold, r.validate = .ok () →
      threshold ≤ scoreMax → score < threshold - r.effects.starvationReliefBasisPoints →
      ∃ q, r.emergencySurvivalRequirement score threshold = .ok (some q) ∧
        (q.Truthful score r.policy.emergencyReliefPerExpenditureBasisPoints
            (min r.snapshot.balanceBasisPoints r.policy.maxEmergencyExpenditureBasisPoints) ↔
          threshold - r.effects.starvationReliefBasisPoints - score ≤
              r.policy.emergencyReliefPerExpenditureBasisPoints ∨
            min r.snapshot.balanceBasisPoints r.policy.maxEmergencyExpenditureBasisPoints <
              scoreMax)) ∧
    ((∀ r ∈ death.metrics.tokenEconomics, r.validate = .ok ()) →
      ((∀ r ∈ death.metrics.tokenEconomics, ∀ provenance spend,
          survivalFunding death metrics = .ok (some (provenance, spend)) →
            death.deathShortfall r ≤
              multiplyBasisPoints spend r.policy.emergencyReliefPerExpenditureBasisPoints) ↔
        ∀ r ∈ death.metrics.tokenEconomics, ∀ current ∈ metrics.tokenEconomics,
          ∀ p ∈ r.provenance, ∀ p' ∈ current.provenance, p.sameIdentity p' = true →
            death.deathShortfall r ≤ r.policy.emergencyReliefPerExpenditureBasisPoints ∨
              min current.snapshot.balanceBasisPoints r.policy.maxEmergencyExpenditureBasisPoints <
                scoreMax)) := by
  constructor
  · intro score threshold hr hthreshold hbelow
    obtain ⟨hpos, hrate⟩ := relief_rate_of_valid hr
    refine ⟨_, ?_, truthful_iff hpos hrate hbelow⟩
    unfold RecordedTokenEconomics.emergencySurvivalRequirement
    simp only [except_check_ok, failIf_ok, if_neg hbelow.not_ge, except_pure_ok, and_true]
    exact ⟨hr, by omega, by omega⟩
  · intro hvalid
    constructor
    · intro h r hr current hcurrent p hp p' hp' hsame
      obtain ⟨hpos, hrate⟩ := relief_rate_of_valid (hvalid r hr)
      rw [← funded_covers_iff hpos hrate]
      intro hpaid
      rcases Nat.eq_zero_or_pos (death.deathShortfall r) with hzero | hlacks
      · rw [hzero]
        exact Nat.zero_le _
      · exact h r hr p' _ ((survivalFunding_ok).mpr ⟨r, current, p, hr, hcurrent, hp, hp', hsame,
          ⟨requiredExpenditure_pos hpos hlacks, hpaid⟩, rfl⟩)
    · intro h r hr provenance spend hfunding
      obtain ⟨r', current, p, hr', hcurrent, hp, hp', hsame, hpaid, rfl⟩ :=
        (survivalFunding_ok).mp hfunding
      obtain rfl := Option.some.inj (hr.symm.trans hr')
      obtain ⟨hpos, hrate⟩ := relief_rate_of_valid (hvalid r hr)
      exact (funded_covers_iff hpos hrate).mpr
        (h r hr current hcurrent p hp provenance hp' hsame) hpaid.2

/-! ### A sample -/

/-- A full treasury whose spends count half, and which relieves nothing by itself. -/
def sampleHalfRate : RecordedTokenEconomics :=
  { snapshot := ⟨10000, 0, 0, true⟩
    policy := ⟨1, 0, 0, 0, 0, 0, 5000, 10000, 0⟩
    effects := ⟨0, 0, 0, 0, 0, true⟩
    provenance := none }

/-- A requirement is called fully funded, a burn is authorized, and four tenths of full credit are
still lacking. -/
theorem full_spend_leaves_shortfall : sampleHalfRate.validate = .ok () ∧
    sampleHalfRate.emergencySurvivalRequirement 0 9000 =
      .ok (some ⟨9000, 9000, 10000, 5000, true⟩) ∧
    (EmergencySurvivalRequirement.burnIntent ⟨9000, 9000, 10000, 5000, true⟩
      ⟨1, 1, 1, 1, 1, 1⟩).toOption.isSome = true := by
  decide +kernel

/-! ## Two answers to who starves -/

/-- The economics and the scales agree on who starves, except for a Tentacle without any score whose
relief reaches its threshold : nothing is required of it, and it is warned of starvation. -/
theorem starving_agree_iff {r : RecordedTokenEconomics} {t : JudgmentThresholds} {score : ℕ}
    (hr : r.validate = .ok ()) (ht : t.validate = .ok ()) (hscore : score ≤ scoreMax) :
    (r.emergencySurvivalRequirement score t.survivalMin = .ok none ↔
        ∃ outcome, t.classifyWithStarvationRelief score r.effects.starvationReliefBasisPoints =
          .ok outcome ∧ (outcome = .survival ∨ outcome = .propagationRights)) ↔
      ¬(score = 0 ∧ t.survivalMin ≤ r.effects.starvationReliefBasisPoints) := by
  have hrelief : r.effects.starvationReliefBasisPoints ≤ scoreMax :=
    (RecordedTokenEconomics.derived hr).effects _ (by simp)
  have hthresholds := ht
  unfold JudgmentThresholds.validate at hthresholds
  rw [failIf_ok, not_not] at hthresholds
  have hrequired : r.emergencySurvivalRequirement score t.survivalMin = .ok none ↔
      t.survivalMin - r.effects.starvationReliefBasisPoints ≤ score := by
    unfold RecordedTokenEconomics.emergencySurvivalRequirement
    simp only [except_check_ok, failIf_ok]
    split_ifs with h
    · simp only [except_pure_ok, and_true, h, iff_true]
      exact ⟨hr, by omega, by omega⟩
    · simp [h]
  have hsurvives : (∃ outcome, t.classifyWithStarvationRelief score
      r.effects.starvationReliefBasisPoints = .ok outcome ∧
        (outcome = .survival ∨ outcome = .propagationRights)) ↔
      max (t.survivalMin - r.effects.starvationReliefBasisPoints) 1 ≤ score := by
    simp only [classify_ok, ht, hscore, hrelief, true_and, exists_eq_left']
    split_ifs <;> simp <;> omega
  rw [hrequired, hsurvives]
  omega

/-- A Tentacle without any score, whom nothing relieves. -/
theorem starving_agree_sample :
    (sampleHalfRate.emergencySurvivalRequirement 0 5500 = .ok none ↔
        ∃ outcome, JudgmentThresholds.classifyWithStarvationRelief {} 0
          sampleHalfRate.effects.starvationReliefBasisPoints = .ok outcome ∧
            (outcome = .survival ∨ outcome = .propagationRights)) ↔
      ¬(0 = 0 ∧ 5500 ≤ sampleHalfRate.effects.starvationReliefBasisPoints) :=
  starving_agree_iff (t := {}) (by decide) (by decide) (by decide)

def sampleRelieved : RecordedTokenEconomics :=
  { sampleHalfRate with
    policy := ⟨1, 0, 0, 0, 0, 10000, 10000, 10000, 0⟩
    effects := ⟨0, 0, 0, 0, 10000, true⟩ }

/-- Nothing is required of a Tentacle that is warned of starvation. -/
theorem relieved_but_warned : sampleRelieved.validate = .ok () ∧
    sampleRelieved.emergencySurvivalRequirement 0 5500 = .ok none ∧
    JudgmentThresholds.classifyWithStarvationRelief {} 0
      sampleRelieved.effects.starvationReliefBasisPoints = .ok .starvationWarning := by
  decide +kernel

end Cthuwu.Scales
