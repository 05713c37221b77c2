import Cthuwu.Evolution.Storable
import Cthuwu.Scales.Survival

/-!
# Staging a spend

After each observation the runtime looks for a spend that saves its Tentacle from a pending death.
Staging one is a call of the lifecycle or nothing at all (`stage_cases`), so a run with stagings
reaches no state that the calls of the lifecycle do not reach by themselves (`staging_safe`).
-/

namespace Cthuwu.Scales

open Evolution

section

variable [HistoryCodec] [Evolution.Hashing] {initial s s' : LifecycleState}
  {catalog : ValidatedHistoryCatalog} {supply decimals : ℕ} {metrics : TentacleMetrics}
  {nowMs : ℕ} {changed : Bool}

/-- A spend within the grace that the treasury can pay, and that the death's judgment requires. -/
structure Offered (catalog : ValidatedHistoryCatalog) (supply decimals : ℕ)
    (metrics : TentacleMetrics) (nowMs : ℕ) (pending : PendingDeath)
    (binding : SurvivalSpendBinding) : Prop where
  inGrace : nowMs ≤ pending.graceEndsAtMs
  judged : ∃ death, catalog.get pending.judgmentId = .ok (some death) ∧
    death.judgment.outcome = .death ∧ death.authorizesAutomaticLifecycle = true ∧
    ∃ provenance, survivalFunding death metrics =
        .ok (some (provenance, binding.expenditureBasisPoints)) ∧
      survivalBinding provenance supply decimals binding.expenditureBasisPoints = .ok binding

/-- What a staging that returns has done : nothing, or one call for the pending death. -/
inductive Staged (catalog : ValidatedHistoryCatalog) (supply decimals : ℕ)
    (metrics : TentacleMetrics) (nowMs : ℕ) (s : LifecycleState) :
    Bool → LifecycleState → Prop
  | idle : Staged catalog supply decimals metrics nowMs s false s
  | canceled {pending : PendingDeath} {changed : Bool} {s' : LifecycleState}
      (hpending : s.pendingDeath = some pending)
      (hcall : (cancelPendingSurvivalSpends pending.judgmentId).exec s = (.ok changed, s')) :
      Staged catalog supply decimals metrics nowMs s changed s'
  | offered {pending : PendingDeath} {binding : SurvivalSpendBinding} {changed : Bool}
      {s' : LifecycleState} (hpending : s.pendingDeath = some pending)
      (hoffered : Offered catalog supply decimals metrics nowMs pending binding)
      (hcall : (enqueueSurvivalSpendForPendingDeath pending.judgmentId nowMs binding).exec s =
        (.ok changed, s')) : Staged catalog supply decimals metrics nowMs s changed s'

theorem onLifecycle_ok {α : Type} {op : Evolution.Op α} {a : α} :
    (onLifecycle op).exec s = (.ok a, s') ↔ op.exec s = (.ok a, s') := by
  unfold onLifecycle
  rw [Fallible.exec_onPart]
  rcases hop : op.exec s with ⟨error | result, after⟩ <;> simp [hop, Except.mapError]

theorem survivalBinding_spends {provenance : EconomicObservationProvenance} {spend : ℕ}
    {binding : SurvivalSpendBinding}
    (h : survivalBinding provenance supply decimals spend = .ok binding) :
    binding.expenditureBasisPoints = spend := by
  unfold survivalBinding at h
  simp only [except_bind_ok, except_pure_ok] at h
  obtain ⟨_, -, rfl⟩ := h
  rfl

theorem stage_cases
    (h : (stagePendingSurvivalSpend catalog supply decimals metrics nowMs).exec s =
      (.ok changed, s')) : Staged catalog supply decimals metrics nowMs s changed s' := by
  unfold stagePendingSurvivalSpend at h
  rw [Fallible.exec_get_bind] at h
  cases hpending : s.pendingDeath with
  | none =>
    simp only [hpending, Fallible.exec_pure, Prod.mk.injEq, Except.ok.injEq] at h
    obtain ⟨rfl, rfl⟩ := h
    exact .idle
  | some pending =>
    simp only [hpending] at h
    split_ifs at h with hlate
    · exact .canceled hpending (onLifecycle_ok.mp h)
    obtain ⟨found, hfound, h⟩ := Fallible.lift_bind_ok.mp h
    cases found with
    | none =>
      obtain ⟨-, -, h⟩ := Fallible.lift_bind_ok.mp h
      simp only [Fallible.exec_pure, Prod.mk.injEq, Except.ok.injEq] at h
      obtain ⟨rfl, rfl⟩ := h
      exact .idle
    | some death =>
      obtain ⟨_, hdeath, h⟩ := Fallible.lift_bind_ok.mp h
      obtain ⟨funding, hfunding, h⟩ := Fallible.lift_bind_ok.mp h
      cases funding with
      | none => exact .canceled hpending (onLifecycle_ok.mp h)
      | some paid =>
        obtain ⟨provenance, spend⟩ := paid
        obtain ⟨binding, after, hbinding, h⟩ := Fallible.bind_ok.mp h
        have hbound := onLifecycle_ok.mp hbinding
        rw [Fallible.exec_lift, Prod.mk.injEq] at hbound
        obtain ⟨hbound, rfl⟩ := hbound
        rw [failIf_ok, Bool.not_eq_true', Bool.not_eq_false, Bool.and_eq_true, decide_eq_true_eq]
          at hdeath
        have hspends := survivalBinding_spends hbound
        exact .offered hpending ⟨not_lt.mp hlate, death, except_mapError_ok.mp hfound, hdeath.1,
          hdeath.2, provenance, hspends ▸ hfunding, hspends ▸ hbound⟩ (onLifecycle_ok.mp h)

/-! ## Runs with stagings -/

inductive StagedEvent
  | call (request : Request)
  /-- The save after it may fail. -/
  | stage (catalog : ValidatedHistoryCatalog) (supply decimals : ℕ) (metrics : TentacleMetrics)
      (nowMs : ℕ) (saved : Bool)

/-- The runtime keeps what a staging leaves when it returns and is saved. -/
def stagedMachine (initial : LifecycleState) : Machine LifecycleState StagedEvent where
  init := initial
  Allowed
    | s, .call request => (request.run.exec s).1 = .ok ()
    | _, .stage .. => True
  next
    | s, .call request => request.run.after s
    | s, .stage catalog supply decimals metrics nowMs saved =>
      match (stagePendingSurvivalSpend catalog supply decimals metrics nowMs).exec s with
      | (.ok _, s') => if saved then s' else s
      | (.error _, _) => s

/-- A call that returns is a step of the lifecycle. -/
theorem reachable_call {request : Request} {op : Evolution.Op Bool}
    (h : (lifecycleMachine initial).Reachable s) (hrun : request.run = do let _ ← op)
    (hop : op.exec s = (.ok changed, s')) : (lifecycleMachine initial).Reachable s' := by
  have hexec : request.run.exec s = (.ok (), s') := by
    rw [hrun, Fallible.exec_bind, hop]
    rfl
  have hnext : (lifecycleMachine initial).next s request = s' := congrArg Prod.snd hexec
  exact hnext ▸ h.next (congrArg Prod.fst hexec)

theorem reachable_staged (h : (stagedMachine initial).Reachable s) :
    (lifecycleMachine initial).Reachable s := by
  refine h.invariant .init fun s event _ hs hallowed => ?_
  cases event with
  | call request => exact hs.next hallowed
  | stage catalog supply decimals metrics nowMs saved =>
    unfold stagedMachine
    dsimp only
    rcases hstage : (stagePendingSurvivalSpend catalog supply decimals metrics nowMs).exec s with
      ⟨error | changed, s'⟩
    · exact hs
    cases saved with
    | false => exact hs
    | true =>
      cases stage_cases hstage with
      | idle => exact hs
      | canceled _ hcall =>
        exact @reachable_call _ _ _ _ _ _ (.cancelPendingSurvivalSpends _) _ hs rfl hcall
      | offered _ _ hcall =>
        exact @reachable_call _ _ _ _ _ _ (.enqueueSurvivalSpend _ _ _) _ hs rfl hcall

/-- A run with stagings ends where calls of the lifecycle alone can. A staging that returns has
done nothing, or made one call for the pending death, and a spend that is offered is positive and no
more than the treasury was last seen to hold. -/
theorem staging_safe (h : (stagedMachine initial).Reachable s) :
    (lifecycleMachine initial).Reachable s ∧ ∀ catalog supply decimals metrics nowMs,
      (∀ changed s', (stagePendingSurvivalSpend catalog supply decimals metrics nowMs).exec s =
        (.ok changed, s') → Staged catalog supply decimals metrics nowMs s changed s') ∧
      ∀ pending binding, Offered catalog supply decimals metrics nowMs pending binding →
        ∃ current ∈ metrics.tokenEconomics, 0 < binding.expenditureBasisPoints ∧
          binding.expenditureBasisPoints ≤ current.snapshot.balanceBasisPoints := by
  refine ⟨reachable_staged h, fun _ _ _ _ _ => ⟨fun _ _ => stage_cases, ?_⟩⟩
  intro pending binding hoffered
  obtain ⟨death, -, -, -, provenance, hfunding, -⟩ := hoffered.judged
  obtain ⟨r, current, -, -, hcurrent, -, -, -, ⟨hpos, hle⟩, -⟩ := survivalFunding_ok.mp hfunding
  exact ⟨current, hcurrent, hpos, hle.trans (Nat.min_le_left _ _)⟩

end

attribute [local instance] sampleCodec Evolution.sampleHashing

def sampleDeath : Request :=
  .scheduleDeath (Evolution.sampleDigits '3') 0 10 none

/-- A death is scheduled, and its grace is over. -/
def sampleStaged : List StagedEvent :=
  [.call sampleDeath, .stage {} 0 0 (sampleMetrics true) 11 true]

theorem staging_safe_sample : (lifecycleMachine Evolution.sampleState).Reachable
    (sampleStaged.foldl (stagedMachine Evolution.sampleState).next Evolution.sampleState) := by
  have hcall : (lifecycleMachine Evolution.sampleState).Allowed Evolution.sampleState
      sampleDeath := by
    decide +kernel
  have hadmits : (stagedMachine Evolution.sampleState).Admits Evolution.sampleState sampleStaged :=
    ⟨hcall, trivial, trivial⟩
  exact (staging_safe (Machine.Reachable.init.run hadmits)).1

end Cthuwu.Scales
