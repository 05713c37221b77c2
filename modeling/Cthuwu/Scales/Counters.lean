import Cthuwu.Scales.Metrics

/-!
# Counters stay consistent

`Consistent` is what `validate` checks of the metrics, and `Sound` adds that the guarded counters
have a place in their type and that a token observation says where it comes from. A period starts
sound (`sound_new`), and every call keeps it so whether it returns or fails, and never leaves the
range of an integer (`ends_run`). So the metrics pass their check after any sequence of calls
(`sound_reachable`).
-/

namespace Cthuwu.Scales

open Fallible
open Evolution (TentacleNature Hashing isHexOf u64Max u32Max)

/-! ## What the checks say -/

structure EngagementMetrics.Bounded (e : EngagementMetrics) : Prop where
  returning : e.returningConversations ≤ e.conversations
  samples : e.responseTimeSamples ≤ e.conversations
  depth : e.conversationDepthTotal ≤ e.conversations * maxConversationDepthSample
  time : e.responseTimeMsTotal ≤ e.responseTimeSamples * maxResponseTimeMsSample
  bonus : e.tokenBonusBasisPointsTotal ≤ e.conversations * scoreMax

theorem EngagementMetrics.validate_ok {e : EngagementMetrics} :
    e.validate = .ok () ↔ e.Bounded := by
  unfold EngagementMetrics.validate
  simp only [except_check_ok, failIf_ok, Nat.not_lt]
  exact ⟨fun ⟨hreturning, hsamples, hdepth, htime, hbonus⟩ =>
    ⟨hreturning, hsamples, hdepth, htime, hbonus⟩, fun h => ⟨h.1, h.2, h.3, h.4, h.5⟩⟩

def WealthMetrics.Bounded (w : WealthMetrics) : Prop :=
  w.efficiencyBasisPointsTotal ≤ w.efficiencySamples * scoreMax

theorem WealthMetrics.validate_ok {w : WealthMetrics} : w.validate = .ok () ↔ w.Bounded := by
  unfold WealthMetrics.validate WealthMetrics.Bounded
  rw [failIf_ok, Nat.not_lt]

/-- Some scale is scored, and wealth only with the economic layer. -/
structure ScoredScaleAvailability.Allowed (a : ScoredScaleAvailability)
    (economicLayerEnabled : Bool) : Prop where
  some_active : ∃ i, a.active i = true
  wealth : a.wealth = true → economicLayerEnabled = true

theorem ScoredScaleAvailability.validate_ok {a : ScoredScaleAvailability} {enabled : Bool} :
    a.validate enabled = .ok () ↔ a.Allowed enabled := by
  unfold ScoredScaleAvailability.validate
  simp only [except_check_ok, failIf_ok, not_forall, Bool.not_eq_false, not_not, Bool.or_eq_true,
    Bool.not_eq_true']
  constructor
  · rintro ⟨hactive, hwealth⟩
    exact ⟨hactive, fun h => hwealth.resolve_right (by simp [h])⟩
  · rintro ⟨hactive, hwealth⟩
    refine ⟨hactive, ?_⟩
    cases h : a.wealth with
    | false => exact .inr rfl
    | true => exact .inl (hwealth h)

namespace TentacleMetrics

/-- What `validate` checks. -/
structure Consistent (m : TentacleMetrics) : Prop where
  schemaVersion : m.schemaVersion = metricsSchemaVersion
  natureId : isHexOf 32 m.natureId = true
  natureFingerprint : isHexOf 64 m.natureFingerprint = true
  awakeningEpoch : m.awakeningEpoch ≠ 0
  period : checkedAddTime m.periodStartedAtUnixSeconds m.period.durationSeconds =
    some m.periodEndsAtUnixSeconds
  engagement : m.engagement.Bounded
  wealth : ∀ wealth ∈ m.wealth, wealth.Bounded
  availability : m.scoredScaleAvailability.Allowed m.economicLayerEnabled
  economics : ∀ economics ∈ m.tokenEconomics, economics.validate = .ok () ∧
    m.economicLayerEnabled = true ∧ economicsScored economics m.scoredScaleAvailability = true

theorem validate_ok {m : TentacleMetrics} : m.validate = .ok () ↔ m.Consistent := by
  unfold validate
  simp only [except_check_ok, failIf_ok, forM_ok, Option.mem_toList, not_not, Bool.not_eq_true',
    Bool.not_eq_false, Bool.and_eq_true, EngagementMetrics.validate_ok, WealthMetrics.validate_ok,
    ScoredScaleAvailability.validate_ok]
  constructor
  · rintro ⟨hschema, hid, hfingerprint, hepoch, hperiod, hengagement, hwealth, havailability,
      heconomics⟩
    exact ⟨hschema, hid, hfingerprint, hepoch, hperiod, hengagement, hwealth, havailability,
      heconomics⟩
  · intro h
    exact ⟨h.1, h.2, h.3, h.4, h.5, h.6, h.7, h.8, h.9⟩

/-- The metrics of a period that is recorded and not read from a file. -/
structure Sound (m : TentacleMetrics) : Prop where
  consistent : m.Consistent
  conversations : m.engagement.conversations ≤ u32Max
  samples : ∀ wealth ∈ m.wealth, wealth.efficiencySamples ≤ u32Max
  provenance : ∀ economics ∈ m.tokenEconomics, economics.provenance.isSome = true

theorem Sound.validate {m : TentacleMetrics} (h : m.Sound) : m.validate = .ok () :=
  (validate_ok).mpr h.consistent

end TentacleMetrics

section Natures

variable [Hashing]

variable {nature : TentacleNature}

theorem isHexOf_of_validate (h : nature.validate = .ok ()) : isHexOf 32 nature.natureId = true := by
  unfold TentacleNature.validate Evolution.validateNatureId at h
  simp only [except_check_ok, failIf_ok, Bool.not_eq_true', Bool.not_eq_false] at h
  exact h.2.1

theorem isHexOf_of_fingerprint {digest : String}
    (h : TentacleMetrics.fingerprint nature = .ok digest) : isHexOf 64 digest = true := by
  unfold TentacleMetrics.fingerprint TentacleNature.fingerprint at h
  simp only [except_mapError_ok, except_bind_ok, except_pure_ok] at h
  obtain ⟨-, -, hash, -, rfl⟩ := h
  exact Evolution.isHexOf_hexText hash

end Natures

/-! ## Counters -/

theorem EngagementMetrics.Bounded.empty : ({} : EngagementMetrics).Bounded :=
  ⟨le_rfl, le_rfl, Nat.zero_le _, Nat.zero_le _, Nat.zero_le _⟩

/-- One conversation more keeps the counters consistent and in their range. -/
theorem EngagementMetrics.Bounded.record {e : EngagementMetrics} (h : e.Bounded)
    (hplace : e.conversations ≤ u32Max) (depth : ℕ) (returning : Bool)
    (responseTimeMs : Option ℕ) (bonus : ℕ) :
    ∃ e', e.record depth returning responseTimeMs bonus = .ok e' ∧ e'.Bounded ∧
      e'.conversations ≤ u32Max := by
  unfold EngagementMetrics.record
  split_ifs with hfull
  · exact ⟨e, rfl, h, hplace⟩
  have hroom : e.conversations + 1 ≤ u32Max := Nat.lt_of_le_of_ne hplace hfull
  have hreturning := h.returning
  have hsamples := h.samples
  have hone := Bool.toNat_le returning
  have hanswered := Bool.toNat_le responseTimeMs.isSome
  simp only [except_bind_ok, checkedAdd_ok, except_pure_ok]
  refine ⟨_, ⟨_, ⟨hroom, rfl⟩, _, ⟨by omega, rfl⟩, _, ⟨by omega, rfl⟩, rfl⟩, ?_, hroom⟩
  refine ⟨by simp only; omega, by simp only; omega, ?_, ?_, ?_⟩
  · have hdepth := h.depth
    have hsum := saturatingAdd_le u64Max e.conversationDepthTotal
      (min depth maxConversationDepthSample)
    simp only [Nat.succ_mul]
    omega
  · have htime := h.time
    cases responseTimeMs with
    | none => exact htime
    | some ms =>
      have hsum := saturatingAdd_le u64Max e.responseTimeMsTotal (min ms maxResponseTimeMsSample)
      simp only [Option.elim_some, Option.isSome_some, Bool.toNat_true, Nat.succ_mul]
      omega
  · have hbonus := h.bonus
    have hsum := saturatingAdd_le u64Max e.tokenBonusBasisPointsTotal (min bonus scoreMax)
    simp only [Nat.succ_mul]
    omega

theorem WealthMetrics.Bounded.record {w : WealthMetrics} (h : w.Bounded)
    (hplace : w.efficiencySamples ≤ u32Max) (revenue efficiency : ℕ) :
    ∃ w', w.record revenue efficiency = .ok w' ∧ w'.Bounded ∧ w'.efficiencySamples ≤ u32Max := by
  unfold WealthMetrics.record
  split_ifs with hfull
  · exact ⟨w, rfl, h, hplace⟩
  have hroom : w.efficiencySamples + 1 ≤ u32Max := Nat.lt_of_le_of_ne hplace hfull
  simp only [except_bind_ok, checkedAdd_ok, except_pure_ok]
  refine ⟨_, ⟨_, ⟨hroom, rfl⟩, rfl⟩, ?_, hroom⟩
  have hsum := saturatingAdd_le u64Max w.efficiencyBasisPointsTotal (min efficiency scoreMax)
  unfold WealthMetrics.Bounded at h ⊢
  simp only [Nat.succ_mul]
  omega

/-! ## Calls keep metrics sound -/

variable {m : TentacleMetrics}

namespace TentacleMetrics.Sound

/-- Counters that no check reads may change as they like. -/
theorem with_unchecked (h : m.Sound) (growth : GrowthMetrics) (influence : InfluenceMetrics)
    (natureAdjustmentStressEvents : ℕ) :
    ({ m with growth, influence, natureAdjustmentStressEvents }).Sound := by
  obtain ⟨⟨h1, h2, h3, h4, h5, h6, h7, h8, h9⟩, h10, h11, h12⟩ := h
  exact ⟨⟨h1, h2, h3, h4, h5, h6, h7, h8, h9⟩, h10, h11, h12⟩

theorem with_engagement (h : m.Sound) {engagement : EngagementMetrics}
    (hbounded : engagement.Bounded) (hplace : engagement.conversations ≤ u32Max) :
    ({ m with engagement }).Sound := by
  obtain ⟨⟨h1, h2, h3, h4, h5, -, h7, h8, h9⟩, -, h11, h12⟩ := h
  exact ⟨⟨h1, h2, h3, h4, h5, hbounded, h7, h8, h9⟩, hplace, h11, h12⟩

variable {wealth : WealthMetrics}

/-- Wealth that was counted before stays enabled. -/
theorem with_wealth (h : m.Sound) (hsome : m.wealth.isSome = true) (hbounded : wealth.Bounded)
    (hplace : wealth.efficiencySamples ≤ u32Max) : ({ m with wealth := some wealth }).Sound := by
  obtain ⟨⟨h1, h2, h3, h4, h5, h6, -, h8, h9⟩, h10, -, h12⟩ := h
  have henabled : m.economicLayerEnabled = true := hsome
  refine ⟨⟨h1, h2, h3, h4, h5, h6, ?_, ?_, fun e he => ⟨(h9 e he).1, rfl, (h9 e he).2.2⟩⟩,
    h10, ?_, h12⟩
  · rintro w hw
    cases hw
    exact hbounded
  · rw [henabled] at h8
    exact h8
  · rintro w hw
    cases hw
    exact hplace

theorem withDistribution (h : m.Sound) (hwealth : m.wealth = some wealth)
    (d : MlmRevenueDistribution) : (m.withDistribution wealth d).Sound := by
  have hsplit := h.with_unchecked (m.withDistribution wealth d).growth m.influence
    m.natureAdjustmentStressEvents
  exact hsplit.with_wealth (by simp [hwealth]) (h.consistent.wealth wealth hwealth)
    (h.samples wealth hwealth)

theorem withEconomics (h : m.Sound) {observation : RecordedTokenEconomics}
    (hvalid : observation.validate = .ok ()) (hprovenance : observation.provenance.isSome = true) :
    (m.withEconomics observation).Sound := by
  obtain ⟨⟨h1, h2, h3, h4, h5, h6, h7, -, -⟩, h10, h11, -⟩ := h
  refine ⟨⟨h1, h2, h3, h4, h5, h6, ?_, ⟨⟨0, rfl⟩, fun _ => rfl⟩, ?_⟩, h10, ?_, ?_⟩
  · rintro w hw
    cases hw
    cases hwealth : m.wealth with
    | none => exact Nat.zero_le _
    | some wealth => exact h7 wealth hwealth
  · rintro e he
    cases he
    exact ⟨hvalid, rfl, by simp [economicsScored, TentacleMetrics.withEconomics]⟩
  · rintro w hw
    cases hw
    cases hwealth : m.wealth with
    | none => exact Nat.zero_le _
    | some wealth => exact h11 wealth hwealth
  · rintro e he
    cases he
    exact hprovenance

theorem with_availability (h : m.Sound) {availability : ScoredScaleAvailability}
    (hallowed : availability.Allowed m.economicLayerEnabled)
    (hscored : ∀ economics ∈ m.tokenEconomics, economicsScored economics availability = true) :
    ({ m with scoredScaleAvailability := availability }).Sound := by
  obtain ⟨⟨h1, h2, h3, h4, h5, h6, h7, -, h9⟩, h10, h11, h12⟩ := h
  exact ⟨⟨h1, h2, h3, h4, h5, h6, h7, hallowed,
    fun e he => ⟨(h9 e he).1, (h9 e he).2.1, hscored e he⟩⟩, h10, h11, h12⟩

theorem with_natureId (h : m.Sound) {natureId : String} (hid : isHexOf 32 natureId = true) :
    ({ m with natureId }).Sound := by
  obtain ⟨⟨h1, -, h3, h4, h5, h6, h7, h8, h9⟩, h10, h11, h12⟩ := h
  exact ⟨⟨h1, hid, h3, h4, h5, h6, h7, h8, h9⟩, h10, h11, h12⟩

theorem with_fingerprint (h : m.Sound) {natureFingerprint : String} {awakeningEpoch : ℕ}
    (hfingerprint : isHexOf 64 natureFingerprint = true) (hepoch : awakeningEpoch ≠ 0) :
    ({ m with natureFingerprint, awakeningEpoch }).Sound := by
  obtain ⟨⟨h1, h2, -, -, h5, h6, h7, h8, h9⟩, h10, h11, h12⟩ := h
  exact ⟨⟨h1, h2, hfingerprint, hepoch, h5, h6, h7, h8, h9⟩, h10, h11, h12⟩

end TentacleMetrics.Sound

variable [Hashing]

theorem sound_new {period : EvaluationPeriod} {started : ℤ} {enabled : Bool}
    {nature : TentacleNature} {epoch : ℕ}
    (h : TentacleMetrics.new period started enabled nature epoch = .ok m) : m.Sound := by
  unfold TentacleMetrics.new at h
  simp only [except_bind_ok, exists_unit, except_mapError_ok, failIf_ok, okOr_ok,
    except_pure_ok] at h
  obtain ⟨hnature, hepoch, ends, hends, fingerprint, hfingerprint, rfl⟩ := h
  have hwealth : ∀ wealth ∈ (if enabled then some ({} : WealthMetrics) else none), wealth = {} := by
    intro wealth hwealth
    cases enabled <;> cases hwealth
    rfl
  refine ⟨⟨rfl, isHexOf_of_validate hnature, isHexOf_of_fingerprint hfingerprint, hepoch, hends,
    .empty, ?_, ⟨⟨0, rfl⟩, ?_⟩, by simp⟩, Nat.zero_le _, ?_, by simp⟩
  · intro wealth hmem
    rw [hwealth wealth hmem]
    exact Nat.zero_le _
  · rintro (rfl : enabled = true)
    rfl
  · intro wealth hmem
    rw [hwealth wealth hmem]
    exact Nat.zero_le _

/-- When a call returns. -/
def MetricsCall.Accepted (m : TentacleMetrics) : MetricsCall → Prop
  | .conversation .. | .conversationWithTokenBonus .. | .growth .. | .influence ..
  | .natureAdjustmentStress => True
  | .economicResult .. => m.economicLayerEnabled = true
  | .mlmDistribution distribution =>
    distribution.validate = .ok () ∧ m.economicLayerEnabled = true
  | .tokenEconomicSnapshot .. => False
  | .nodeTokenEconomicObservation snapshot policy provenance =>
    ∃ observation,
      RecordedTokenEconomics.newWithProvenance snapshot policy provenance = .ok observation
  | .restrictScoredScales availability =>
    availability.validate m.economicLayerEnabled = .ok () ∧ m.keepsEconomics availability = .ok () ∧
      availability.isRestrictionOf m.scoredScaleAvailability = true
  | .rebindEmptyPeriod nature epoch =>
    m.hasBehaviorObservations = false ∧ nature.validate = .ok () ∧ epoch ≠ 0 ∧
      ∃ digest, TentacleMetrics.fingerprint nature = .ok digest

/-- How a call ends : in sound metrics, and with a result exactly when it is accepted. -/
def Recorded (c : Prop) (result : Except ScalesError Unit) (m : TentacleMetrics) : Prop :=
  m.Sound ∧ (result = .ok () ↔ c)

theorem recorded_error (h : m.Sound) {c : Prop} {e : ScalesError} (hc : ¬c) :
    Recorded c (.error e) m :=
  ⟨h, iff_of_false nofun hc⟩

theorem recorded_ok (h : m.Sound) {c : Prop} (hc : c) : Recorded c (.ok ()) m :=
  ⟨h, iff_of_true rfl hc⟩

theorem ends_conversation (h : m.Sound) (depth : ℕ) (returning : Bool) (time : Option ℕ)
    (bonus : ℕ) :
    Ends (Recorded True) (recordConversationWithTokenBonus depth returning time bonus) m := by
  obtain ⟨engagement, hrecord, hbounded, hplace⟩ :=
    h.consistent.engagement.record h.conversations depth returning time bonus
  refine ends_get_bind (ends_lift_bind (fun e he => ?_) fun engagement' hengagement' => ?_)
  · rw [hrecord] at he
    cases he
  · obtain rfl := Except.ok.inj (hrecord.symm.trans hengagement')
    exact recorded_ok (h.with_engagement hbounded hplace) trivial

theorem ends_economicResult (h : m.Sound) (revenue efficiency : ℕ) :
    Ends (Recorded (m.economicLayerEnabled = true)) (recordEconomicResult revenue efficiency)
      m := by
  refine ends_get_bind (ends_lift_bind (fun e he => ?_) fun wealth hwealth => ?_)
  · exact recorded_error h (by simp [TentacleMetrics.economicLayerEnabled, (okOr_error.mp he).1])
  · have hsome := okOr_ok.mp hwealth
    obtain ⟨wealth', hrecord, hbounded, hplace⟩ :=
      WealthMetrics.Bounded.record (h.consistent.wealth wealth hsome) (h.samples wealth hsome)
        revenue efficiency
    have henabled : m.economicLayerEnabled = true := by
      simp [TentacleMetrics.economicLayerEnabled, hsome]
    refine ends_lift_bind (fun e he => ?_) fun wealth'' hwealth'' => ?_
    · rw [hrecord] at he
      cases he
    · obtain rfl := Except.ok.inj (hrecord.symm.trans hwealth'')
      exact recorded_ok (h.with_wealth henabled hbounded hplace) henabled

/-- The check after a split or an observation always passes. -/
theorem ends_validate {c : Prop} (h : m.Sound) (hc : c) :
    Ends (Recorded c) (do (← get).validate) m := by
  refine ends_get_bind (ends_lift ?_)
  rw [h.validate]
  exact recorded_ok h hc

theorem ends_mlmDistribution (h : m.Sound) (d : MlmRevenueDistribution) :
    Ends (Recorded (d.validate = .ok () ∧ m.economicLayerEnabled = true))
      (recordMlmDistribution d) m := by
  refine ends_lift_bind (fun e he => ?_) fun _ hd => ends_get_bind ?_
  · exact recorded_error h (by simp [he])
  refine ends_lift_bind (fun e he => ?_) fun wealth hwealth => ends_set_bind ?_
  · exact recorded_error h (by simp [TentacleMetrics.economicLayerEnabled, (okOr_error.mp he).1])
  · have hsome := okOr_ok.mp hwealth
    refine ends_validate (h.withDistribution hsome d) ⟨hd, ?_⟩
    simp [TentacleMetrics.economicLayerEnabled, hsome]

theorem ends_nodeObservation (h : m.Sound) (snapshot : TokenEconomicSnapshot)
    (policy : TokenEconomicPolicy) (provenance : EconomicObservationProvenance) :
    Ends (Recorded (∃ observation,
        RecordedTokenEconomics.newWithProvenance snapshot policy provenance = .ok observation))
      (do let _ ← recordNodeTokenEconomicObservation snapshot policy provenance) m := by
  refine ends_bind (ends_lift_bind (fun e he => ?_) fun observation hobservation => ?_)
  · refine recorded_error h fun ⟨observation, hobservation⟩ => ?_
    rw [hobservation] at he
    cases he
  obtain ⟨hvalid, hprovenance⟩ := newWithProvenance_valid hobservation
  have hafter := h.withEconomics hvalid hprovenance
  refine ends_modify_bind (ends_get_bind (ends_lift_bind (fun e he => ?_) fun _ _ => ?_))
  · rw [hafter.validate] at he
    cases he
  · exact ends_pure (recorded_ok hafter ⟨observation, hobservation⟩)

theorem ends_restrict (h : m.Sound) (availability : ScoredScaleAvailability) :
    Ends (Recorded (availability.validate m.economicLayerEnabled = .ok () ∧
        m.keepsEconomics availability = .ok () ∧
        availability.isRestrictionOf m.scoredScaleAvailability = true))
      (restrictScoredScales availability) m := by
  refine ends_get_bind (ends_lift_bind (fun e he => ?_) fun _ hvalid => ?_)
  · exact recorded_error h (by simp [he])
  refine ends_lift_bind (fun e he => ?_) fun _ hkeeps => ?_
  · exact recorded_error h (by simp [he])
  refine ends_lift_bind (fun e he => ?_) fun _ hrestricts => ?_
  · exact recorded_error h (by simpa using fun _ _ => (failIf_error.mp he).1)
  · refine recorded_ok (h.with_availability ((ScoredScaleAvailability.validate_ok).mp hvalid) ?_)
      ⟨hvalid, hkeeps, by simpa using hrestricts⟩
    exact fun economics hmem => by simpa using forM_ok.mp hkeeps economics (by simpa using hmem)

theorem ends_rebind (h : m.Sound) (nature : TentacleNature) (epoch : ℕ) :
    Ends (Recorded (m.hasBehaviorObservations = false ∧ nature.validate = .ok () ∧ epoch ≠ 0 ∧
        ∃ digest, TentacleMetrics.fingerprint nature = .ok digest))
      (rebindEmptyPeriod nature epoch) m := by
  refine ends_get_bind (ends_lift_bind (fun e he => ?_) fun _ hempty => ?_)
  · exact recorded_error h (by simp [(failIf_error.mp he).1])
  refine ends_lift_bind (fun e he => ?_) fun _ hnature => ?_
  · refine recorded_error h fun hc => ?_
    rw [hc.2.1] at he
    cases he
  refine ends_lift_bind (fun e he => ?_) fun _ hepoch => ends_modify_bind ?_
  · exact recorded_error h (by simp [(failIf_error.mp he).1])
  have hnature := except_mapError_ok.mp hnature
  have hnamed := h.with_natureId (isHexOf_of_validate hnature)
  refine ends_lift_bind (fun e he => ?_) fun digest hdigest => ends_modify_bind ?_
  · refine recorded_error hnamed fun hc => ?_
    obtain ⟨digest, hdigest⟩ := hc.2.2.2
    rw [hdigest] at he
    cases he
  · have hepoch := failIf_ok.mp hepoch
    exact ends_validate (hnamed.with_fingerprint (isHexOf_of_fingerprint hdigest) hepoch)
      ⟨by simpa using hempty, hnature, hepoch, digest, hdigest⟩

/-- Every call ends in sound metrics. -/
theorem MetricsCall.ends_run (h : m.Sound) (call : MetricsCall) :
    Ends (Recorded (call.Accepted m)) call.run m := by
  cases call with
  | conversation depth returning time => exact ends_conversation h depth returning time 0
  | conversationWithTokenBonus depth returning time bonus =>
    exact ends_conversation h depth returning time bonus
  | growth => exact ends_modify (recorded_ok (h.with_unchecked _ _ _) trivial)
  | economicResult revenue efficiency => exact ends_economicResult h revenue efficiency
  | mlmDistribution distribution => exact ends_mlmDistribution h distribution
  | tokenEconomicSnapshot => exact recorded_error h id
  | nodeTokenEconomicObservation snapshot policy provenance =>
    exact ends_nodeObservation h snapshot policy provenance
  | influence => exact ends_modify (recorded_ok (h.with_unchecked _ _ _) trivial)
  | natureAdjustmentStress => exact ends_modify (recorded_ok (h.with_unchecked _ _ _) trivial)
  | restrictScoredScales availability => exact ends_restrict h availability
  | rebindEmptyPeriod nature epoch => exact ends_rebind h nature epoch

/-- The metrics of a period, changed by any calls in any order. -/
def metricsMachine (m : TentacleMetrics) : Machine TentacleMetrics MetricsCall where
  init := m
  Allowed _ _ := True
  next m call := call.run.after m

/-- Metrics stay sound under any sequence of calls. -/
theorem sound_reachable {started m : TentacleMetrics} (hstarted : started.Sound)
    (h : (metricsMachine started).Reachable m) : m.Sound :=
  h.invariant hstarted fun _ call _ hm _ => (call.ends_run hm).1

end Cthuwu.Scales
