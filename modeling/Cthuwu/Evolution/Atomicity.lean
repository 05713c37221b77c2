import Cthuwu.Evolution.Storable

/-!
# Atomic calls

A call is atomic in a state when it returns or leaves the state as it was. The calls here write before
they count, and the longer ones write before they check, so that not every call is atomic. A call is
`Whole` in a state when what it is about to write can be finished, and `atomicAt_run` shows that a call
is atomic exactly then. `atomic_iff` is the same for the states of runs, also after calls that failed.
-/

namespace Cthuwu.Evolution

open Council Fallible
open LifecycleState

section Calls

variable [Hashing] {s : LifecycleState} {action : LifecycleAction} {judgmentId : String}

/-! ## Intents -/

/-- An action that passes its checks and has a name. -/
def Accepts (action : LifecycleAction) : Prop :=
  validateLifecycleAction action = .ok () ∧ ∃ id, lifecycleActionId action = .ok id

/-- The name under which an action would be kept as a new intent. -/
def LifecycleState.newId (s : LifecycleState) (action : LifecycleAction) : Option String :=
  match validateLifecycleAction action, lifecycleActionId action with
  | .ok _, .ok id => if s.intents.contains id then none else some id
  | _, _ => none

/-- So many changes can still be counted. -/
def LifecycleState.HasRoom (s : LifecycleState) (changes : ℕ) : Prop :=
  s.revision + changes ≤ u64Max

variable {createdAtMs scheduledAtMs gracePeriodMs nowMs : ℕ} {id actionId : String}
  {f : LifecycleState → LifecycleState} {binding : SurvivalSpendBinding} {pending : PendingDeath}
  {spend : Option SurvivalSpendBinding} {target : Option String}

theorem newId_some : s.newId action = some id ↔
    validateLifecycleAction action = .ok () ∧ lifecycleActionId action = .ok id ∧
      s.intents.get id = none := by
  unfold LifecycleState.newId HashMap.contains
  cases validateLifecycleAction action with
  | error e => simp
  | ok u =>
    cases lifecycleActionId action with
    | error e => simp
    | ok name =>
      dsimp only
      split_ifs with hkept
      · simp only [Except.ok.injEq, false_iff, not_and, true_and]
        rintro rfl hnone
        rw [hnone] at hkept
        cases hkept
      · rw [Bool.not_eq_true, Option.isSome_eq_false_iff, Option.isNone_iff_eq_none] at hkept
        simp only [Option.some.injEq, Except.ok.injEq, true_and]
        constructor
        · rintro rfl
          exact ⟨rfl, hkept⟩
        · exact And.left

theorem accepts_of_newId (h : s.newId action = some id) : Accepts action :=
  ⟨((newId_some).mp h).1, id, ((newId_some).mp h).2.1⟩

/-- What becomes of an action that is to be kept. -/
inductive Insertion (s : LifecycleState) (createdAtMs : ℕ) (action : LifecycleAction) :
    Except EvolutionError LifecycleIntent × LifecycleState → Prop
  | refused (e : EvolutionError) (h : ¬Accepts action) : Insertion s createdAtMs action (.error e, s)
  | present (intent : LifecycleIntent) (h : Accepts action) (hid : s.newId action = none) :
      Insertion s createdAtMs action (.ok intent, s)
  | full (id : String) (hid : s.newId action = some id) (hroom : ¬s.HasRoom 1) :
      Insertion s createdAtMs action
        (.error (.limit "lifecycle revision"), s.addIntent ⟨id, createdAtMs, action⟩)
  | added (id : String) (hid : s.newId action = some id) (hroom : s.HasRoom 1) :
      Insertion s createdAtMs action
        (.ok ⟨id, createdAtMs, action⟩, (s.addIntent ⟨id, createdAtMs, action⟩).bumped)

theorem insertion (s : LifecycleState) (createdAtMs : ℕ) (action : LifecycleAction) :
    Insertion s createdAtMs action ((insertIntent createdAtMs action).exec s) := by
  unfold insertIntent
  rw [exec_lift_bind]
  cases hvalid : validateLifecycleAction action with
  | error e =>
    refine .refused e fun h => ?_
    rw [h.1] at hvalid
    cases hvalid
  | ok u =>
    dsimp only
    rw [exec_lift_bind]
    cases hid : lifecycleActionId action with
    | error e =>
      refine .refused e fun h => ?_
      obtain ⟨-, id, hid'⟩ := h
      rw [hid] at hid'
      cases hid'
    | ok id =>
      dsimp only
      rw [exec_get_bind]
      cases hget : s.intents.get id with
      | some intent =>
        refine .present intent ⟨hvalid, id, hid⟩ ?_
        unfold LifecycleState.newId HashMap.contains
        rw [hvalid, hid]
        dsimp only
        rw [hget]
        exact if_pos rfl
      | none =>
        have hnew := (newId_some).mpr ⟨hvalid, hid, hget⟩
        dsimp only
        rw [exec_bind, exec_commit]
        split_ifs with hroom
        · exact .added id hnew hroom
        · exact .full id hnew hroom

theorem addIntent_ne {intent : LifecycleIntent} (h : s.intents.get intent.actionId = none) :
    s.addIntent intent ≠ s := by
  intro heq
  have hget : (s.addIntent intent).intents.get intent.actionId = some intent := HashMap.get_insert
  rw [heq, h] at hget
  cases hget

theorem fresh_of_newId (h : s.newId action = some id) : s.intents.get id = none :=
  ((newId_some).mp h).2.2

theorem atomicAt_insertIntent : AtomicAt (insertIntent createdAtMs action) s ↔
    (s.newId action ≠ none → s.HasRoom 1) := by
  have hcase := insertion s createdAtMs action
  unfold AtomicAt Fallible.after
  generalize (insertIntent createdAtMs action).exec s = outcome at hcase ⊢
  cases hcase with
  | refused e h =>
    refine iff_of_true (fun _ _ => rfl) fun hid => ?_
    obtain ⟨id, hid⟩ := Option.ne_none_iff_exists'.mp hid
    exact absurd (accepts_of_newId hid) h
  | present intent h hid => exact iff_of_true (fun _ he => by cases he) fun hne => absurd hid hne
  | full id hid hroom =>
    refine iff_of_false (fun h => ?_) fun h => hroom (h (by rw [hid]; exact Option.some_ne_none id))
    exact addIntent_ne (fresh_of_newId hid) (h _ rfl)
  | added id hid hroom => exact iff_of_true (fun _ he => by cases he) fun _ => hroom

theorem succeeds_insertIntent {createdAtMs : ℕ} : Succeeds (insertIntent createdAtMs action) s ↔
    Accepts action ∧ (s.newId action ≠ none → s.HasRoom 1) := by
  have hcase := insertion s createdAtMs action
  unfold Succeeds
  generalize (insertIntent createdAtMs action).exec s = outcome at hcase ⊢
  cases hcase with
  | refused e h => exact iff_of_false (fun ⟨_, _, he⟩ => by cases he) fun h' => h h'.1
  | present intent h hid => exact iff_of_true ⟨_, _, rfl⟩ ⟨h, fun hne => absurd hid hne⟩
  | full id hid hroom =>
    refine iff_of_false (fun ⟨_, _, he⟩ => by cases he) fun h => hroom (h.2 ?_)
    rw [hid]
    exact Option.some_ne_none id
  | added id hid hroom => exact iff_of_true ⟨_, _, rfl⟩ ⟨accepts_of_newId hid, fun _ => hroom⟩

/-! ## Single writes -/

theorem atomicAt_commit {α : Type} {a : α} (hne : f s ≠ s) (hrevision : (f s).revision = s.revision)
    : AtomicAt (do commit f; return a : Op α) s ↔ s.HasRoom 1 := by
  rw [atomicAt_bind_infallible fun _ => infallible_pure a]
  unfold AtomicAt Fallible.after LifecycleState.HasRoom
  rw [exec_commit, hrevision]
  split_ifs with hroom
  · exact iff_of_true (fun _ he => by cases he) hroom
  · exact iff_of_false (fun h => hne (h _ rfl)) hroom

theorem atomicAt_setAutoSpawnEnabled {enabled : Bool} :
    AtomicAt (setAutoSpawnEnabled enabled) s ↔ (s.autoSpawnEnabled ≠ enabled → s.HasRoom 1) := by
  unfold setAutoSpawnEnabled
  rw [atomicAt_get_bind_iff]
  split_ifs with hsame
  · exact iff_of_true (atomicAt_pure false s) fun hne => absurd hsame hne
  · rw [atomicAt_commit (fun heq => hsame (congrArg autoSpawnEnabled heq).symm) rfl]
    exact ⟨fun h _ => h, fun h => h hsame⟩

theorem atomicAt_cancelPendingSurvivalSpends :
    AtomicAt (cancelPendingSurvivalSpends judgmentId) s ↔ (isHexOf 64 judgmentId = true →
      (∃ id ∈ s.unreceipted (·.spendsFor judgmentId), id ∉ s.canceledActionIds) → s.HasRoom 1) := by
  unfold cancelPendingSurvivalSpends
  rw [atomicAt_check_iff, atomicAt_get_bind_iff, validateSha256_ok]
  dsimp only
  refine imp_congr_right fun _ => ?_
  by_cases hopen : ∃ id ∈ s.unreceipted (·.spendsFor judgmentId), id ∉ s.canceledActionIds
  · rw [if_pos (List.any_eq_true.mpr (by simpa only [decide_eq_true_eq] using hopen)),
      atomicAt_commit ?_ rfl]
    · exact ⟨fun h _ => h, fun h => h hopen⟩
    · intro heq
      obtain ⟨id, hmem, hfree⟩ := hopen
      refine hfree (congrArg canceledActionIds heq ▸ ?_)
      exact Finset.mem_union_right _ (List.mem_toFinset.mpr hmem)
  · rw [if_neg fun hany => hopen (by simpa only [List.any_eq_true, decide_eq_true_eq] using hany)]
    exact iff_of_true (atomicAt_pure false s) fun h => absurd h hopen

theorem atomicAt_retireLegacyDeathAsDormancy : AtomicAt retireLegacyDeathAsDormancy s ↔
    ∀ pending, s.pendingDeath = some pending → s.hasAbsorbed pending.judgmentId = false →
      s.hasUnappliedAbsorptionProjection = false → s.HasRoom 1 := by
  unfold retireLegacyDeathAsDormancy
  rw [atomicAt_get_bind_iff]
  cases hpending : s.pendingDeath with
  | none => exact iff_of_true (atomicAt_pure false s) nofun
  | some pending =>
    dsimp only
    rw [atomicAt_check_iff, failIf_ok, not_or, Bool.not_eq_true, Bool.not_eq_true, atomicAt_commit ?_ rfl]
    · simp only [Option.some.injEq, forall_eq', and_imp]
    · intro heq
      have hnone := congrArg pendingDeath heq
      rw [hpending] at hnone
      cases hnone

theorem atomicAt_reconcileAbsorptionProjectionTracking :
    AtomicAt reconcileAbsorptionProjectionTracking s ↔
      ((∃ id ∈ s.expectedProjections, id ∉ s.pendingAbsorptionProjectionActionIds) →
        s.HasRoom 1) := by
  unfold reconcileAbsorptionProjectionTracking
  rw [atomicAt_get_bind_iff]
  dsimp only
  by_cases hopen : ∃ id ∈ s.expectedProjections, id ∉ s.pendingAbsorptionProjectionActionIds
  · rw [if_neg fun hall => ?_, atomicAt_commit ?_ rfl]
    · exact ⟨fun h _ => h, fun h => h hopen⟩
    · intro heq
      obtain ⟨id, hmem, hfree⟩ := hopen
      refine hfree (congrArg pendingAbsorptionProjectionActionIds heq ▸ ?_)
      exact Finset.mem_union_right _ (List.mem_toFinset.mpr hmem)
    · obtain ⟨id, hmem, hfree⟩ := hopen
      exact hfree (of_decide_eq_true (List.all_eq_true.mp hall id hmem))
  · rw [if_pos (List.all_eq_true.mpr fun id hmem => decide_eq_true (by_contra fun hfree =>
      hopen ⟨id, hmem, hfree⟩))]
    exact iff_of_true (atomicAt_pure false s) fun h => absurd h hopen

theorem projectAbsorption_ne {projection : AbsorptionProjection}
    (h : s.absorptionProjections.get actionId = none) :
    s.projectAbsorption actionId projection ≠ s := by
  intro heq
  have hget : (s.projectAbsorption actionId projection).absorptionProjections.get actionId =
      some projection := HashMap.get_insert
  rw [heq, h] at hget
  cases hget

theorem projectSpawn_ne {projection : SpawnProjection} (h : s.spawnProjections.get actionId = none) :
    s.projectSpawn actionId projection ≠ s := by
  intro heq
  have hget : (s.projectSpawn actionId projection).spawnProjections.get actionId =
      some projection := HashMap.get_insert
  rw [heq, h] at hget
  cases hget

theorem atomicAt_recordAbsorptionProjection (h : s.Linked) {projectedAtMs : ℕ} :
    AtomicAt (recordAbsorptionProjection actionId projectedAtMs) s ↔
      ((Move.projectAbsorption actionId ⟨projectedAtMs⟩).Justified s → s.HasRoom 1) := by
  unfold recordAbsorptionProjection
  simp only [atomicAt_get_bind_iff, atomicAt_lift_bind_iff, forall_unit, okOr_ok, failIf_ok,
    validateSha256_ok, Bool.not_eq_true', Bool.not_eq_false, not_or, not_not, not_lt]
  constructor
  · rintro hatomic ⟨intent, receipt, hintent, hreceipt, habsorb, hstatus, htime, hnone⟩
    have hhex := isHexOf_lifecycleActionId (h.intents _ _ hintent).canonical
    have hwrite := hatomic hhex intent hintent habsorb receipt hreceipt ⟨hstatus, htime⟩
    rw [hnone] at hwrite
    exact (atomicAt_commit (projectAbsorption_ne hnone) rfl).mp hwrite
  · intro hroom _ intent hintent habsorb receipt hreceipt htime
    cases hprojection : s.absorptionProjections.get actionId with
    | some existing => exact atomicAt_check_iff.mpr fun _ => atomicAt_pure false s
    | none =>
      exact (atomicAt_commit (projectAbsorption_ne hprojection) rfl).mpr
        (hroom ⟨intent, receipt, hintent, hreceipt, habsorb, htime.1, htime.2, hprojection⟩)

theorem atomicAt_recordSpawnProjection (h : s.Linked) {completedAtMs : ℕ} {metrics : ℤ} :
    AtomicAt (recordSpawnProjection actionId completedAtMs metrics) s ↔
      ((Move.projectSpawn actionId ⟨completedAtMs, metrics⟩).Justified s → s.HasRoom 1) := by
  unfold recordSpawnProjection
  simp only [atomicAt_get_bind_iff, atomicAt_lift_bind_iff, forall_unit, okOr_ok, failIf_ok,
    validateSha256_ok, Bool.not_eq_true', Bool.not_eq_false, not_or, not_not, not_lt]
  constructor
  · rintro hatomic ⟨intent, receipt, hintent, hreceipt, hspawn, hstatus, htime, hmetrics, hnone⟩
    have hhex := isHexOf_lifecycleActionId (h.intents _ _ hintent).canonical
    have hwrite := hatomic hhex intent hintent hspawn receipt hreceipt
      ⟨hstatus, htime.symm, hmetrics⟩
    rw [hnone] at hwrite
    exact (atomicAt_commit (projectSpawn_ne hnone) rfl).mp hwrite
  · intro hroom _ intent hintent hspawn receipt hreceipt htime
    cases hprojection : s.spawnProjections.get actionId with
    | some existing => exact atomicAt_check_iff.mpr fun _ => atomicAt_pure false s
    | none =>
      exact (atomicAt_commit (projectSpawn_ne hprojection) rfl).mpr
        (hroom ⟨intent, receipt, hintent, hreceipt, hspawn, htime.1, htime.2.1.symm, htime.2.2,
          hprojection⟩)

theorem acknowledge_ne {intent : LifecycleIntent} {receipt : LifecycleReceipt} :
    s.acknowledge intent receipt ≠ s := by
  intro heq
  have hreceipts : (s.acknowledge intent receipt).receipts = s.receipts ++ [receipt] := by
    have hcase := acknowledged s intent receipt
    generalize s.acknowledge intent receipt = s' at hcase ⊢
    cases hcase <;> rfl
  rw [heq] at hreceipts
  cases List.self_eq_append_right.mp hreceipts

theorem atomicAt_acknowledgeAction {receipt : LifecycleReceipt} :
    AtomicAt (acknowledgeAction receipt) s ↔
      ∀ intent, (Move.acknowledge intent receipt).Justified s → s.HasRoom 1 := by
  by_cases hjustified : ∃ intent, (Move.acknowledge intent receipt).Justified s
  · obtain ⟨intent, hjustified⟩ := hjustified
    have hcommit := atomicAt_commit (a := (intent.action, true)) (@acknowledge_ne _ s intent receipt)
      revision_acknowledge
    unfold AtomicAt Fallible.after at hcommit ⊢
    rw [exec_acknowledgeAction hjustified, hcommit]
    exact ⟨fun h _ _ => h, fun h => h intent hjustified⟩
  · rw [not_exists] at hjustified
    refine iff_of_true (fun _ _ => after_acknowledgeAction_refused hjustified) fun intent h => ?_
    exact absurd h (hjustified intent)

/-! ## Deaths -/

/-- What a survival spend of a death would write. -/
def LifecycleState.WritesSpend (s : LifecycleState) (pending : PendingDeath)
    (binding : SurvivalSpendBinding) : Prop :=
  match s.unreceiptedSpend pending.judgmentId with
  | some existing => existing.actionId ∈ s.canceledActionIds
  | none => s.newId (s.nextSpend pending binding) ≠ none

/-- A survival spend of a death passes its checks. -/
def LifecycleState.AcceptsSpend (s : LifecycleState) (pending : PendingDeath)
    (binding : SurvivalSpendBinding) : Prop :=
  match s.unreceiptedSpend pending.judgmentId with
  | some existing => binding.binds pending.graceEndsAtMs existing.action = true
  | none => Accepts (s.nextSpend pending binding)

theorem reopen_ne (h : actionId ∈ s.canceledActionIds) : s.reopen actionId ≠ s := by
  intro heq
  have hcanceled : s.canceledActionIds.erase actionId = s.canceledActionIds :=
    congrArg canceledActionIds heq
  exact Finset.notMem_erase actionId _ (hcanceled.symm ▸ h)

theorem succeeds_commit {α : Type} {a : α} :
    Succeeds (do commit f; return a : Op α) s ↔ (f s).HasRoom 1 := by
  unfold LifecycleState.HasRoom
  rw [succeeds_bind]
  constructor
  · rintro ⟨u, s', hexec, -⟩
    exact (commit_ok.mp hexec).1
  · exact fun hroom => ⟨(), _, commit_ok.mpr ⟨hroom, rfl⟩, succeeds_pure a _⟩

theorem atomicAt_enqueueSurvivalSpend :
    AtomicAt (enqueueSurvivalSpendForPendingDeath judgmentId createdAtMs binding) s ↔
      ∀ pending, s.pendingDeath = some pending → pending.judgmentId = judgmentId →
        createdAtMs ≤ pending.graceEndsAtMs → s.AcceptsSpend pending binding →
          s.WritesSpend pending binding → s.HasRoom 1 := by
  unfold enqueueSurvivalSpendForPendingDeath LifecycleState.AcceptsSpend LifecycleState.WritesSpend
  simp only [atomicAt_get_bind_iff, atomicAt_lift_bind_iff, forall_unit, okOr_ok, failIf_ok, not_or,
    not_not, not_lt, and_imp]
  refine forall₄_congr fun pending hpending hjudgment hopen => ?_
  subst hjudgment
  cases s.unreceiptedSpend pending.judgmentId with
  | some existing =>
    unfold offerAgain
    simp only [atomicAt_lift_bind_iff, forall_unit, failIf_ok, Bool.not_eq_true', Bool.not_eq_false,
      atomicAt_get_bind_iff]
    refine imp_congr_right fun _ => ?_
    split_ifs with hcanceled
    · rw [atomicAt_commit (reopen_ne hcanceled) rfl]
      exact ⟨fun h _ => h, fun h => h hcanceled⟩
    · exact iff_of_true (atomicAt_pure false s) fun h => absurd h hcanceled
  | none =>
    dsimp only
    rw [atomicAt_bind_infallible, atomicAt_insertIntent]
    · constructor
      · exact fun h _ => h
      · intro h hid
        obtain ⟨id, hsome⟩ := Option.ne_none_iff_exists'.mp hid
        exact h (accepts_of_newId hsome) hid
    · exact fun _ s' => ⟨_, rfl⟩

theorem succeeds_enqueueSurvivalSpend (hpending : s.pendingDeath = some pending)
    (hopen : createdAtMs ≤ pending.graceEndsAtMs) :
    Succeeds (enqueueSurvivalSpendForPendingDeath pending.judgmentId createdAtMs binding) s ↔
      s.AcceptsSpend pending binding ∧ (s.WritesSpend pending binding → s.HasRoom 1) := by
  unfold enqueueSurvivalSpendForPendingDeath LifecycleState.AcceptsSpend LifecycleState.WritesSpend
  simp only [succeeds_get_bind, succeeds_lift_bind, exists_unit, okOr_ok, failIf_ok, not_or, not_not,
    not_lt, hpending, Option.some.injEq, exists_eq_left', true_and, hopen]
  cases s.unreceiptedSpend pending.judgmentId with
  | some existing =>
    unfold offerAgain
    simp only [succeeds_lift_bind, exists_unit, failIf_ok, Bool.not_eq_true', Bool.not_eq_false,
      succeeds_get_bind]
    refine and_congr_right fun _ => ?_
    split_ifs with hcanceled
    · rw [succeeds_commit]
      exact ⟨fun h _ => h, fun h => h hcanceled⟩
    · exact iff_of_true (succeeds_pure false s) fun h => absurd h hcanceled
  | none =>
    dsimp only
    rw [← @succeeds_insertIntent _ s _ createdAtMs, succeeds_bind]
    constructor
    · rintro ⟨intent, s', hexec, -⟩
      exact ⟨intent, s', hexec⟩
    · rintro ⟨intent, s', hexec⟩
      exact ⟨intent, s', hexec, _, _, rfl⟩

/-- An operation that surely writes is atomic only when it returns. -/
theorem atomicAt_of_written {α : Type} {x : Op α} (h : x.after s ≠ s) :
    AtomicAt x s ↔ Succeeds x s :=
  atomicAt_iff.trans (or_iff_left h)

/-- The rest of `scheduleDeath`, once the death is pending. -/
theorem succeeds_scheduled {judgmentId : String} (hpending : s.pendingDeath =
      some ⟨judgmentId, scheduledAtMs, scheduledAtMs + gracePeriodMs⟩) :
    Succeeds (match spend.filter fun binding => 0 < binding.expenditureBasisPoints with
      | some binding => do
        let _ ← enqueueSurvivalSpendForPendingDeath judgmentId scheduledAtMs binding
        return true
      | none => return true : Op Bool) s ↔
    ∀ binding, spend = some binding → 0 < binding.expenditureBasisPoints →
      s.AcceptsSpend ⟨judgmentId, scheduledAtMs, scheduledAtMs + gracePeriodMs⟩ binding ∧
        (s.WritesSpend ⟨judgmentId, scheduledAtMs, scheduledAtMs + gracePeriodMs⟩ binding →
          s.HasRoom 1) := by
  cases spend with
  | none => exact iff_of_true (succeeds_pure true s) nofun
  | some binding =>
    rw [Option.filter_some]
    simp only [Option.some.injEq, forall_eq', decide_eq_true_eq]
    split_ifs with hpositive
    · rw [← succeeds_enqueueSurvivalSpend hpending (Nat.le_add_right ..), succeeds_bind]
      constructor
      · rintro ⟨offered, s', hexec, -⟩ -
        exact ⟨offered, s', hexec⟩
      · intro h
        obtain ⟨offered, s', hexec⟩ := h hpositive
        exact ⟨offered, s', hexec, succeeds_pure true s'⟩
    · exact iff_of_true (succeeds_pure true s) fun h => absurd h hpositive

theorem pendingDeath_scheduled (judgmentId : String) (scheduledAtMs : ℕ)
    (spend : Option SurvivalSpendBinding) (h : s.Linked) (hpending : s.pendingDeath = some pending)
    : ((match spend.filter fun binding => 0 < binding.expenditureBasisPoints with
      | some binding => do
        let _ ← enqueueSurvivalSpendForPendingDeath judgmentId scheduledAtMs binding
        return true
      | none => return true : Op Bool).after s).pendingDeath = some pending := by
  cases spend.filter fun binding => 0 < binding.expenditureBasisPoints with
  | none => exact hpending
  | some binding =>
    have hmakes : (Request.reconcileExpiredDeath 0 none).Makes (do
        let _ ← enqueueSurvivalSpendForPendingDeath judgmentId scheduledAtMs binding
        return true) s := (does_enqueueSurvivalSpend h).bind fun _ _ _ => Moves.does_pure true
    exact (keepsPending hmakes h).2.trans hpending

theorem atomicAt_scheduleDeath (h : s.Linked) :
    AtomicAt (scheduleDeath judgmentId scheduledAtMs gracePeriodMs spend) s ↔
      (isHexOf 64 judgmentId = true → s.pendingDeath = none →
        scheduledAtMs + gracePeriodMs ≤ u64Max → s.HasRoom 1 ∧
          ∀ binding, spend = some binding → 0 < binding.expenditureBasisPoints →
            s.AcceptsSpend ⟨judgmentId, scheduledAtMs, scheduledAtMs + gracePeriodMs⟩ binding ∧
              (s.WritesSpend ⟨judgmentId, scheduledAtMs, scheduledAtMs + gracePeriodMs⟩ binding →
                s.HasRoom 2)) := by
  unfold scheduleDeath
  rw [atomicAt_check_iff, atomicAt_get_bind_iff, validateSha256_ok]
  refine imp_congr_right fun hjudgment => ?_
  cases hpending : s.pendingDeath with
  | some existing =>
    exact iff_of_true (atomicAt_check_iff.mpr fun _ => atomicAt_pure false s) nofun
  | none =>
    dsimp only
    rw [atomicAt_check_iff, failIf_ok, not_lt]
    refine Iff.trans ?_ (imp_iff_right rfl).symm
    refine imp_congr_right fun _ => ?_
    have hwritten := linked_apply h (m := .schedule
      ⟨judgmentId, scheduledAtMs, scheduledAtMs + gracePeriodMs⟩)
      ⟨hpending, hjudgment, Nat.le_add_right ..⟩
    rw [atomicAt_of_written, succeeds_bind]
    · constructor
      · rintro ⟨u, s', hexec, hrest⟩
        obtain ⟨hroom, rfl⟩ := commit_ok.mp hexec
        refine ⟨hroom, fun binding hspend hpositive => ?_⟩
        obtain ⟨haccepts, hroom'⟩ := (succeeds_scheduled rfl).mp hrest binding hspend hpositive
        exact ⟨haccepts, fun hwrites => hroom' hwrites⟩
      · rintro ⟨hroom, hspend⟩
        refine ⟨(), _, commit_ok.mpr ⟨hroom, rfl⟩, (succeeds_scheduled rfl).mpr ?_⟩
        exact fun binding hsome hpositive => hspend binding hsome hpositive
    · intro heq
      have hkept := pendingDeath_scheduled judgmentId scheduledAtMs spend (linked_bumped hwritten) rfl
      have hnone := congrArg pendingDeath heq
      unfold Fallible.after at hnone hkept
      rw [exec_bind, exec_commit, hpending] at hnone
      split_ifs at hnone
      exact Option.some_ne_none _ (hkept.symm.trans hnone)

/-! ### Deadlines -/

/-- The shutdown that waits for the absorption that is kept. -/
def LifecycleState.nextShutdown (s : LifecycleState) (judgmentId : String) : LifecycleAction :=
  .shutdown s.tentacleId judgmentId (s.ownAbsorption judgmentId)

theorem bumpIf_cases (changed : Bool) (hfits : s.revision ≤ u64Max) :
    (s.HasRoom changed.toNat ∧ ∃ s', (bumpIf changed).exec s = (.ok (), s') ∧
      (s' = s ∨ s' = s.bumped)) ∨
    (¬s.HasRoom changed.toNat ∧ ∃ e, (bumpIf changed).exec s = (.error e, s)) := by
  unfold bumpIf
  cases changed with
  | false => exact .inl ⟨hfits, s, rfl, .inl rfl⟩
  | true =>
    rw [if_pos rfl, exec_bumpRevision]
    by_cases hroom : s.revision < u64Max
    · rw [if_pos hroom]
      exact .inl ⟨hroom, _, rfl, .inr rfl⟩
    · rw [if_neg hroom]
      exact .inr ⟨hroom, _, rfl⟩

inductive Settlement (s : LifecycleState) (judgmentId : String) (changed : Bool) :
    Except EvolutionError Bool × LifecycleState → Prop
  | refused (e : EvolutionError) (h : ¬Accepts (s.nextShutdown judgmentId)) :
      Settlement s judgmentId changed (.error e, s)
  | present (b : Bool) (s' : LifecycleState) (h : Accepts (s.nextShutdown judgmentId))
      (hid : s.newId (s.nextShutdown judgmentId) = none) (hroom : s.HasRoom changed.toNat)
      (hs' : s' = s ∨ s' = s.bumped) : Settlement s judgmentId changed (.ok b, s')
  | full (e : EvolutionError) (hid : s.newId (s.nextShutdown judgmentId) = none)
      (hroom : ¬s.HasRoom changed.toNat) : Settlement s judgmentId changed (.error e, s)
  | added (b : Bool) (s' : LifecycleState) (intent : LifecycleIntent)
      (hid : s.newId (s.nextShutdown judgmentId) = some intent.actionId)
      (hroom : s.HasRoom (1 + changed.toNat))
      (hs' : s' = (s.addIntent intent).bumped ∨ s' = (s.addIntent intent).bumped.bumped) :
      Settlement s judgmentId changed (.ok b, s')
  | uncounted (e : EvolutionError) (s' : LifecycleState) (intent : LifecycleIntent)
      (hid : s.newId (s.nextShutdown judgmentId) = some intent.actionId)
      (hroom : ¬s.HasRoom (1 + changed.toNat))
      (hs' : s' = s.addIntent intent ∨ s' = (s.addIntent intent).bumped) :
      Settlement s judgmentId changed (.error e, s')

theorem settlement (hfits : s.revision ≤ u64Max) (judgmentId : String) (nowMs : ℕ)
    (changed : Bool) :
    Settlement s judgmentId changed ((orderShutdown nowMs judgmentId changed).exec s) := by
  unfold orderShutdown
  rw [exec_get_bind, exec_bind]
  have hcase := insertion s nowMs (s.nextShutdown judgmentId)
  change Insertion s nowMs _ ((insertIntent nowMs
    (.shutdown s.tentacleId judgmentId (s.ownAbsorption judgmentId))).exec s) at hcase
  generalize (insertIntent nowMs
    (.shutdown s.tentacleId judgmentId (s.ownAbsorption judgmentId))).exec s = outcome at hcase ⊢
  cases hcase with
  | refused e h => exact .refused e h
  | present intent h hid =>
    dsimp only
    rw [exec_bind]
    rcases bumpIf_cases changed hfits with ⟨hroom, s', hexec, hs'⟩ | ⟨hroom, e, hexec⟩
    · rw [hexec]
      exact .present _ s' h hid hroom hs'
    · rw [hexec]
      exact .full e hid hroom
  | full id hid hroom =>
    refine .uncounted _ _ ⟨id, nowMs, _⟩ hid (fun h => hroom ?_) (.inl rfl)
    unfold LifecycleState.HasRoom at h ⊢
    omega
  | added id hid hroom =>
    dsimp only
    rw [exec_bind]
    have hcount : (s.addIntent ⟨id, nowMs, s.nextShutdown judgmentId⟩).bumped.HasRoom
        changed.toNat ↔ s.HasRoom (1 + changed.toNat) := by
      unfold LifecycleState.HasRoom
      change s.revision + 1 + changed.toNat ≤ u64Max ↔ _
      omega
    rcases bumpIf_cases changed (s := (s.addIntent ⟨id, nowMs, s.nextShutdown judgmentId⟩).bumped)
      hroom with ⟨hroom', s', hexec, hs'⟩ | ⟨hroom', e, hexec⟩
    · rw [hexec]
      exact .added _ s' _ hid (hcount.mp hroom') hs'
    · rw [hexec]
      exact .uncounted e _ _ hid (mt hcount.mpr hroom') (.inr rfl)

theorem Settlement.frame {changed : Bool} {outcome : Except EvolutionError Bool × LifecycleState}
    (h : Settlement s judgmentId changed outcome) :
    outcome.2.canceledActionIds = s.canceledActionIds ∧ s.revision ≤ outcome.2.revision := by
  have hbumped : s.revision ≤ s.revision + 1 + 1 := by omega
  cases h with
  | refused e h => exact ⟨rfl, le_rfl⟩
  | full e hid hroom => exact ⟨rfl, le_rfl⟩
  | present b s' h hid hroom hs' =>
    rcases hs' with rfl | rfl
    · exact ⟨rfl, le_rfl⟩
    · exact ⟨rfl, Nat.le_succ _⟩
  | added b s' intent hid hroom hs' =>
    rcases hs' with rfl | rfl
    · exact ⟨rfl, Nat.le_succ _⟩
    · exact ⟨rfl, hbumped⟩
  | uncounted e s' intent hid hroom hs' =>
    rcases hs' with rfl | rfl
    · exact ⟨rfl, le_rfl⟩
    · exact ⟨rfl, Nat.le_succ _⟩

/-- The shutdown is settled in full when it passes its checks and its changes can be counted. -/
theorem succeeds_orderShutdown (hfits : s.revision ≤ u64Max) {nowMs : ℕ} {changed : Bool} :
    Succeeds (orderShutdown nowMs judgmentId changed) s ↔ Accepts (s.nextShutdown judgmentId) ∧
      s.HasRoom ((s.newId (s.nextShutdown judgmentId)).isSome.toNat + changed.toNat) := by
  have hcase := settlement hfits judgmentId nowMs changed
  unfold Succeeds
  generalize (orderShutdown nowMs judgmentId changed).exec s = outcome at hcase ⊢
  cases hcase with
  | refused e h => exact iff_of_false (fun ⟨_, _, he⟩ => by cases he) fun h' => h h'.1
  | present b s' h hid hroom hs' =>
    rw [hid]
    refine iff_of_true ⟨b, s', rfl⟩ ⟨h, ?_⟩
    rwa [Option.isSome_none, Bool.toNat_false, zero_add]
  | full e hid hroom =>
    rw [hid, Option.isSome_none, Bool.toNat_false, zero_add]
    exact iff_of_false (fun ⟨_, _, he⟩ => by cases he) fun h => hroom h.2
  | added b s' intent hid hroom hs' =>
    refine iff_of_true ⟨b, s', rfl⟩ ⟨accepts_of_newId hid, ?_⟩
    rwa [hid, Option.isSome_some, Bool.toNat_true]
  | uncounted e s' intent hid hroom hs' =>
    rw [hid, Option.isSome_some, Bool.toNat_true]
    exact iff_of_false (fun ⟨_, _, he⟩ => by cases he) fun h => hroom h.2

/-- On its own it is atomic also when it adds nothing. -/
theorem atomicAt_orderShutdown (hfits : s.revision ≤ u64Max) {nowMs : ℕ} {changed : Bool} :
    AtomicAt (orderShutdown nowMs judgmentId changed) s ↔
      Succeeds (orderShutdown nowMs judgmentId changed) s ∨
        s.newId (s.nextShutdown judgmentId) = none := by
  rw [atomicAt_iff]
  have hcase := settlement hfits judgmentId nowMs changed
  unfold Succeeds Fallible.after
  generalize (orderShutdown nowMs judgmentId changed).exec s = outcome at hcase ⊢
  cases hcase with
  | refused e h =>
    refine iff_of_true (.inr rfl) (.inr ?_)
    by_contra hne
    obtain ⟨id, hid⟩ := Option.ne_none_iff_exists'.mp hne
    exact h (accepts_of_newId hid)
  | present b s' h hid hroom hs' => exact iff_of_true (.inl ⟨b, s', rfl⟩) (.inr hid)
  | full e hid hroom => exact iff_of_true (.inr rfl) (.inr hid)
  | added b s' intent hid hroom hs' => exact iff_of_true (.inl ⟨b, s', rfl⟩) (.inl ⟨b, s', rfl⟩)
  | uncounted e s' intent hid hroom hs' =>
    refine or_congr_right (iff_of_false ?_ ?_)
    · rcases hs' with rfl | rfl
      · exact addIntent_ne (fresh_of_newId hid)
      · intro heq
        exact absurd (congrArg revision heq) (Nat.succ_ne_self _)
    · rw [hid]
      exact Option.some_ne_none _

namespace LifecycleState

/-- The spends that a deadline cancels anew. -/
def cancelsSpends (s : LifecycleState) (judgmentId : String) : Bool :=
  (s.unreceipted (·.spendsFor judgmentId)).any (· ∉ s.canceledActionIds)

def askedAbsorption (s : LifecycleState) (target : Option String) (judgmentId : String) :
    Option LifecycleAction :=
  if (s.ownAbsorption judgmentId).isSome then none
  else target.map fun targetId => .absorb s.tentacleId targetId judgmentId

/-- The name of the absorption that a deadline adds. -/
def addedAbsorption (s : LifecycleState) (target : Option String) (judgmentId : String) :
    Option String :=
  (s.askedAbsorption target judgmentId).bind s.newId

/-- The shutdown that a deadline asks for, after the absorption that is kept or added. -/
def askedShutdown (s : LifecycleState) (target : Option String) (judgmentId : String) :
    LifecycleAction :=
  .shutdown s.tentacleId judgmentId
    ((s.ownAbsorption judgmentId).or (s.addedAbsorption target judgmentId))

def addedShutdown (s : LifecycleState) (target : Option String) (judgmentId : String) :
    Option String :=
  (s.newId (s.askedShutdown target judgmentId)).filter
    (some · ≠ s.addedAbsorption target judgmentId)

def deadlineChanges (s : LifecycleState) (target : Option String) (judgmentId : String) : ℕ :=
  (s.addedAbsorption target judgmentId).isSome.toNat +
    (s.addedShutdown target judgmentId).isSome.toNat +
      (s.cancelsSpends judgmentId || (s.askedAbsorption target judgmentId).isSome).toNat

/-- A deadline passes all checks and can be counted, or it writes nothing. -/
def EndsWhole (s : LifecycleState) (target : Option String) (judgmentId : String) : Prop :=
  ((∀ action, s.askedAbsorption target judgmentId = some action → Accepts action) ∧
    Accepts (s.askedShutdown target judgmentId) ∧ s.HasRoom (s.deadlineChanges target judgmentId)) ∨
  (s.cancelsSpends judgmentId = false ∧ s.addedAbsorption target judgmentId = none ∧
    (s.addedShutdown target judgmentId = none ∨
      ∃ action, s.askedAbsorption target judgmentId = some action ∧ ¬Accepts action))

end LifecycleState

theorem cancel_ne (h : s.cancelsSpends judgmentId = true) {s' : LifecycleState}
    (hcanceled : s'.canceledActionIds =
      (s.cancel (s.unreceipted (·.spendsFor judgmentId))).canceledActionIds) : s' ≠ s := by
  rintro rfl
  obtain ⟨id, hmem, hfree⟩ := List.any_eq_true.mp h
  refine of_decide_eq_true hfree (hcanceled ▸ ?_)
  exact Finset.mem_union_right _ (List.mem_toFinset.mpr hmem)

theorem cancel_eq (h : s.cancelsSpends judgmentId = false) :
    s.cancel (s.unreceipted (·.spendsFor judgmentId)) = s := by
  have hunion : s.canceledActionIds ∪ (s.unreceipted (·.spendsFor judgmentId)).toFinset =
      s.canceledActionIds := by
    refine Finset.union_eq_left.mpr fun id hmem => ?_
    have hall := List.any_eq_false.mp h id (List.mem_toFinset.mp hmem)
    simpa only [decide_eq_true_eq, not_not] using hall
  unfold LifecycleState.cancel
  rw [hunion]

theorem newId_addIntent {intent : LifecycleIntent} :
    (s.addIntent intent).newId action = (s.newId action).filter (· ≠ intent.actionId) := by
  ext id
  simp only [newId_some, Option.filter_eq_some_iff, decide_eq_true_eq]
  change _ ∧ _ ∧ (s.intents.insert intent.actionId intent).get id = none ↔ _
  rw [HashMap.get_insert_apply]
  split_ifs with hid
  · simp [hid]
  · simp [hid]

theorem ownAbsorption_addIntent {intent : LifecycleIntent} (h : s.ownAbsorption judgmentId = none)
    (habsorbs : intent.action.absorbs s.tentacleId judgmentId = true) :
    (s.addIntent intent).ownAbsorption judgmentId = some intent.actionId := by
  unfold ownAbsorption at h ⊢
  rw [Option.map_eq_none_iff, List.find?_eq_none] at h
  rw [Option.map_eq_some_iff]
  have hmem : intent ∈ (s.addIntent intent).sortedIntents :=
    mem_sortedIntents.mpr ⟨intent.actionId, HashMap.get_insert⟩
  cases hfound : (s.addIntent intent).sortedIntents.find? fun intent =>
      intent.action.absorbs (s.addIntent intent).tentacleId judgmentId with
  | none => exact absurd habsorbs (List.find?_eq_none.mp hfound intent hmem)
  | some other =>
    refine ⟨other, hfound, ?_⟩
    obtain ⟨key, hget⟩ := mem_sortedIntents.mp (List.mem_of_find?_eq_some hfound)
    change (s.intents.insert intent.actionId intent).get key = some other at hget
    rw [HashMap.get_insert_apply] at hget
    split_ifs at hget with hkey
    · cases hget
      rfl
    · exact absurd (List.find?_some hfound) (h other (mem_sortedIntents.mpr ⟨key, hget⟩))

/-- A deadline first cancels, and then offers what is left to do. -/
theorem exec_expire {nowMs : ℕ} {target : Option String} : (expire nowMs target judgmentId).exec s =
      (offerAbsorption nowMs target judgmentId >>= fun offered =>
        orderShutdown nowMs judgmentId (s.cancelsSpends judgmentId || offered)).exec
        (s.cancel (s.unreceipted (·.spendsFor judgmentId))) := by
  unfold expire
  rw [exec_get_bind, exec_modify_bind]
  rfl

theorem exec_offerAbsorption : (offerAbsorption nowMs target judgmentId).exec s =
      match s.askedAbsorption target judgmentId with
      | none => (.ok false, s)
      | some action => (do let _ ← insertIntent nowMs action; return true : Op Bool).exec s := by
  unfold offerAbsorption askedAbsorption
  rw [exec_get_bind]
  cases target with
  | none =>
    rw [Option.map_none, ite_self]
    rfl
  | some targetId =>
    dsimp only
    split_ifs <;> rfl

/-- Where nothing is asked for, the shutdown that is asked for is the next one. -/
theorem askedShutdown_of_none (h : s.addedAbsorption target judgmentId = none) :
    s.askedShutdown target judgmentId = s.nextShutdown judgmentId := by
  unfold askedShutdown nextShutdown
  rw [h, Option.or_none]

theorem addedShutdown_of_none (h : s.addedAbsorption target judgmentId = none) :
    s.addedShutdown target judgmentId = s.newId (s.nextShutdown judgmentId) := by
  unfold addedShutdown
  rw [askedShutdown_of_none h, h]
  cases s.newId (s.nextShutdown judgmentId) with
  | none => rfl
  | some id =>
    rw [Option.filter_some]
    exact if_pos (decide_eq_true (Option.some_ne_none id))

/-- A deadline that adds no absorption goes on to the shutdown. -/
theorem atomicAt_expire_settled (hfits : s.revision ≤ u64Max)
    (hadded : s.addedAbsorption target judgmentId = none)
    (haccepts : ∀ action, s.askedAbsorption target judgmentId = some action → Accepts action)
    (hexec : (expire nowMs target judgmentId).exec s =
      (orderShutdown nowMs judgmentId (s.cancelsSpends judgmentId ||
        (s.askedAbsorption target judgmentId).isSome)).exec
        (s.cancel (s.unreceipted (·.spendsFor judgmentId)))) :
    AtomicAt (expire nowMs target judgmentId) s ↔ s.EndsWhole target judgmentId := by
  have hchanges : s.deadlineChanges target judgmentId =
      (s.newId (s.nextShutdown judgmentId)).isSome.toNat +
        (s.cancelsSpends judgmentId || (s.askedAbsorption target judgmentId).isSome).toNat := by
    unfold deadlineChanges
    rw [hadded, addedShutdown_of_none hadded, Option.isSome_none, Bool.toNat_false, zero_add]
  unfold LifecycleState.EndsWhole
  rw [hchanges, askedShutdown_of_none hadded, addedShutdown_of_none hadded]
  cases hcancels : s.cancelsSpends judgmentId with
  | true =>
    rw [hcancels] at hexec
    have hsucceeds := @succeeds_orderShutdown _ (s.cancel (s.unreceipted (·.spendsFor judgmentId)))
      judgmentId hfits nowMs (true || (s.askedAbsorption target judgmentId).isSome)
    have hframe := (@settlement _ (s.cancel (s.unreceipted (·.spendsFor judgmentId))) hfits judgmentId
      nowMs (true || (s.askedAbsorption target judgmentId).isSome)).frame
    rw [atomicAt_of_written (cancel_ne hcancels ?_)]
    · unfold Succeeds at hsucceeds ⊢
      rw [hexec, hsucceeds]
      constructor
      · exact fun h => .inl ⟨haccepts, h⟩
      · rintro (⟨-, h⟩ | ⟨hfalse, -⟩)
        · exact h
        · cases hfalse
    · unfold Fallible.after
      rw [hexec]
      exact hframe.1
  | false =>
    rw [hcancels, cancel_eq hcancels] at hexec
    have hatomic := @atomicAt_orderShutdown _ s judgmentId hfits nowMs
      (false || (s.askedAbsorption target judgmentId).isSome)
    rw [succeeds_orderShutdown hfits] at hatomic
    unfold AtomicAt Fallible.after at hatomic ⊢
    rw [hexec]
    refine hatomic.trans (or_congr ⟨fun h => ⟨haccepts, h⟩, And.right⟩ ?_)
    constructor
    · exact fun hid => ⟨rfl, hadded, .inl hid⟩
    · rintro ⟨-, -, hid | ⟨action, hasked, hrefused⟩⟩
      · exact hid
      · exact absurd (haccepts action hasked) hrefused

/-- The absorption that is added is the one that the shutdown waits for. -/
theorem nextShutdown_added {target : Option String} {nowMs : ℕ} {id : String}
    (hasked : s.askedAbsorption target judgmentId = some action) (hid : s.newId action = some id) :
    ((s.addIntent ⟨id, nowMs, action⟩).bumped).nextShutdown judgmentId =
        s.askedShutdown target judgmentId ∧
      ((s.addIntent ⟨id, nowMs, action⟩).bumped).newId (s.askedShutdown target judgmentId) =
        s.addedShutdown target judgmentId := by
  have hadded : s.addedAbsorption target judgmentId = some id := by
    unfold addedAbsorption
    rw [hasked, Option.bind_some, hid]
  unfold askedAbsorption at hasked
  split_ifs at hasked with hown
  rw [Option.not_isSome_iff_eq_none] at hown
  obtain ⟨targetId, -, rfl⟩ := Option.map_eq_some_iff.mp hasked
  constructor
  · have hkept := @ownAbsorption_addIntent _ s judgmentId
      ⟨id, nowMs, .absorb s.tentacleId targetId judgmentId⟩ hown
      (by simp only [LifecycleAction.absorbs, decide_true, Bool.and_self])
    unfold askedShutdown
    rw [hown, hadded, Option.none_or]
    exact congrArg (LifecycleAction.shutdown s.tentacleId judgmentId) hkept
  · have hnew := @newId_addIntent _ s (s.askedShutdown target judgmentId)
      ⟨id, nowMs, .absorb s.tentacleId targetId judgmentId⟩
    unfold addedShutdown
    rw [hadded]
    refine Eq.trans hnew (congrArg (Option.filter · _) (funext fun other => ?_))
    rw [decide_eq_decide, ne_eq, ne_eq, Option.some.injEq]

theorem atomicAt_expire (hfits : s.revision ≤ u64Max) :
    AtomicAt (expire nowMs target judgmentId) s ↔ s.EndsWhole target judgmentId := by
  have hexec := @exec_expire _ s judgmentId nowMs target
  rw [exec_bind, exec_offerAbsorption] at hexec
  have hsame : (s.cancel (s.unreceipted (·.spendsFor judgmentId))).askedAbsorption target judgmentId =
      s.askedAbsorption target judgmentId := rfl
  rw [hsame] at hexec
  cases hasked : s.askedAbsorption target judgmentId with
  | none =>
    have hadded : s.addedAbsorption target judgmentId = none := by
      unfold addedAbsorption
      rw [hasked, Option.bind_none]
    refine atomicAt_expire_settled hfits hadded (by rw [hasked]; exact nofun) ?_
    rw [hexec, hasked, Option.isSome_none]
  | some action =>
    have hadded : s.addedAbsorption target judgmentId = s.newId action := by
      unfold addedAbsorption
      rw [hasked, Option.bind_some]
    rw [hasked] at hexec
    dsimp only at hexec
    rw [exec_bind] at hexec
    have hcase := insertion (s.cancel (s.unreceipted (·.spendsFor judgmentId))) nowMs action
    generalize (insertIntent nowMs action).exec
      (s.cancel (s.unreceipted (·.spendsFor judgmentId))) = outcome at hcase hexec
    cases hcase with
    | refused e h =>
      have hnone : s.newId action = none := by
        by_contra hne
        obtain ⟨id, hid⟩ := Option.ne_none_iff_exists'.mp hne
        exact h (accepts_of_newId hid)
      unfold AtomicAt Fallible.after LifecycleState.EndsWhole
      rw [hexec, hadded, hnone]
      constructor
      · intro hatomic
        refine .inr ⟨?_, rfl, .inr ⟨action, hasked, h⟩⟩
        by_contra hcancels
        rw [Bool.not_eq_false] at hcancels
        exact cancel_ne hcancels rfl (hatomic e rfl)
      · rintro (⟨haccepts, -⟩ | ⟨hcancels, -⟩)
        · exact absurd (haccepts action hasked) h
        · exact fun _ _ => cancel_eq hcancels
    | present intent h hid =>
      refine atomicAt_expire_settled hfits (hadded.trans hid) ?_ ?_
      · rintro _ hsome
        obtain rfl := Option.some.inj (hasked.symm.trans hsome)
        exact h
      · rw [hexec, hasked, Option.isSome_some]
        rfl
    | full id hid hroom =>
      unfold AtomicAt Fallible.after LifecycleState.EndsWhole deadlineChanges
      rw [hexec, hadded, show s.newId action = some id from hid, Option.isSome_some, Bool.toNat_true]
      refine iff_of_false (fun hatomic => ?_) ?_
      · have hintents := congrArg LifecycleState.intents (hatomic _ rfl)
        have hget : (s.intents.insert id ⟨id, nowMs, action⟩).get id = some ⟨id, nowMs, action⟩ :=
          HashMap.get_insert
        rw [show s.intents.insert id ⟨id, nowMs, action⟩ = s.intents from hintents,
          fresh_of_newId (s := s) hid] at hget
        cases hget
      · rintro (⟨-, -, hcounts⟩ | ⟨-, hnone, -⟩)
        · refine hroom ?_
          unfold LifecycleState.HasRoom at hcounts ⊢
          change s.revision + 1 ≤ u64Max
          omega
        · cases hnone
    | added id hid hroom =>
      have hsettles : (expire nowMs target judgmentId).exec s =
          (orderShutdown nowMs judgmentId (s.cancelsSpends judgmentId || true)).exec
            ((s.cancel (s.unreceipted (·.spendsFor judgmentId))).addIntent
              ⟨id, nowMs, action⟩).bumped := hexec
      obtain ⟨hnext, hnew⟩ := @nextShutdown_added _
        (s.cancel (s.unreceipted (·.spendsFor judgmentId))) action judgmentId target nowMs id hasked hid
      have hsucceeds := @succeeds_orderShutdown _
        ((s.cancel (s.unreceipted (·.spendsFor judgmentId))).addIntent ⟨id, nowMs, action⟩).bumped
        judgmentId hroom nowMs (s.cancelsSpends judgmentId || true)
      have hframe := (@settlement _
        ((s.cancel (s.unreceipted (·.spendsFor judgmentId))).addIntent ⟨id, nowMs, action⟩).bumped
        hroom judgmentId nowMs (s.cancelsSpends judgmentId || true)).frame
      rw [hnext, hnew, Bool.or_true, Bool.toNat_true] at hsucceeds
      rw [Bool.or_true] at hframe hsettles
      rw [atomicAt_of_written]
      · unfold Succeeds at hsucceeds ⊢
        rw [hsettles, hsucceeds]
        unfold LifecycleState.EndsWhole deadlineChanges LifecycleState.HasRoom
        rw [hadded, show s.newId action = some id from hid, hasked, Option.isSome_some,
          Option.isSome_some, Bool.or_true, Bool.toNat_true]
        change Accepts (s.askedShutdown target judgmentId) ∧ s.revision + 1 +
          ((s.addedShutdown target judgmentId).isSome.toNat + 1) ≤ u64Max ↔ _
        constructor
        · rintro ⟨haccepts, hcounts⟩
          refine .inl ⟨?_, haccepts, by omega⟩
          rintro _ ⟨⟩
          exact accepts_of_newId hid
        · rintro (⟨-, haccepts, hcounts⟩ | ⟨-, hnone, -⟩)
          · exact ⟨haccepts, by omega⟩
          · cases hnone
      · intro heq
        have hrevision : s.revision + 1 ≤ ((expire nowMs target judgmentId).after s).revision := by
          unfold Fallible.after
          rw [hsettles]
          exact hframe.2
        rw [heq] at hrevision
        omega

theorem atomicAt_reconcileExpiredDeath (hfits : s.revision ≤ u64Max) :
    AtomicAt (reconcileExpiredDeath nowMs target) s ↔
      ∀ pending, s.pendingDeath = some pending → pending.graceEndsAtMs ≤ nowMs →
        s.EndsWhole target pending.judgmentId := by
  unfold reconcileExpiredDeath
  rw [atomicAt_get_bind_iff]
  cases hpending : s.pendingDeath with
  | none => exact iff_of_true (atomicAt_pure false s) nofun
  | some pending =>
    dsimp only
    simp only [Option.some.injEq, forall_eq']
    split_ifs with hgrace
    · exact iff_of_true (atomicAt_pure false s) fun h => absurd h (Nat.not_le_of_lt hgrace)
    · rw [atomicAt_expire hfits]
      exact ⟨fun h _ => h, fun h => h (Nat.le_of_not_lt hgrace)⟩

/-- What the call is about to write can be finished. -/
def Request.Whole (s : LifecycleState) : Request → Prop
  | .setAutoSpawnEnabled enabled => s.autoSpawnEnabled ≠ enabled → s.HasRoom 1
  | .enqueueVeniceKeyReward _ action =>
    action.isVeniceKeyReward = true → s.newId action ≠ none → s.HasRoom 1
  | .enqueueAcolyteContributionReward _ action =>
    action.isContributionReward = true → s.newId action ≠ none → s.HasRoom 1
  | .enqueueSpawn _ plan => s.newId (.spawn plan) ≠ none → s.HasRoom 1
  | .enqueueAbsorption _ sourceId targetId judgmentId =>
    s.newId (.absorb sourceId targetId judgmentId) ≠ none → s.HasRoom 1
  | .enqueueSurvivalSpend judgmentId createdAtMs binding =>
    ∀ pending, s.pendingDeath = some pending → pending.judgmentId = judgmentId →
      createdAtMs ≤ pending.graceEndsAtMs → s.AcceptsSpend pending binding →
        s.WritesSpend pending binding → s.HasRoom 1
  | .cancelPendingSurvivalSpends judgmentId => isHexOf 64 judgmentId = true →
      (∃ id ∈ s.unreceipted (·.spendsFor judgmentId), id ∉ s.canceledActionIds) → s.HasRoom 1
  | .scheduleDeath judgmentId scheduledAtMs gracePeriodMs spend =>
    isHexOf 64 judgmentId = true → s.pendingDeath = none →
      scheduledAtMs + gracePeriodMs ≤ u64Max → s.HasRoom 1 ∧
        ∀ binding, spend = some binding → 0 < binding.expenditureBasisPoints →
          s.AcceptsSpend ⟨judgmentId, scheduledAtMs, scheduledAtMs + gracePeriodMs⟩ binding ∧
            (s.WritesSpend ⟨judgmentId, scheduledAtMs, scheduledAtMs + gracePeriodMs⟩ binding →
              s.HasRoom 2)
  | .retireLegacyDeathAsDormancy => ∀ pending, s.pendingDeath = some pending →
      s.hasAbsorbed pending.judgmentId = false → s.hasUnappliedAbsorptionProjection = false →
        s.HasRoom 1
  | .reconcileExpiredDeath nowMs target => ∀ pending, s.pendingDeath = some pending →
      pending.graceEndsAtMs ≤ nowMs → s.EndsWhole target pending.judgmentId
  | .reconcileAbsorptionProjectionTracking =>
    (∃ id ∈ s.expectedProjections, id ∉ s.pendingAbsorptionProjectionActionIds) → s.HasRoom 1
  | .recordAbsorptionProjection actionId projectedAtMs =>
    (Move.projectAbsorption actionId ⟨projectedAtMs⟩).Justified s → s.HasRoom 1
  | .recordSpawnProjection actionId completedAtMs metrics =>
    (Move.projectSpawn actionId ⟨completedAtMs, metrics⟩).Justified s → s.HasRoom 1
  | .acknowledgeAction receipt =>
    ∀ intent, (Move.acknowledge intent receipt).Justified s → s.HasRoom 1

/-- A call is atomic exactly when what it is about to write can be finished. -/
theorem atomicAt_run (h : s.Linked) (hfits : s.revision ≤ u64Max) (request : Request) :
    AtomicAt request.run s ↔ request.Whole s := by
  have hdiscard {α : Type} {x : Op α} :
      AtomicAt (x >>= fun _ => pure () : Op Unit) s ↔ AtomicAt x s :=
    atomicAt_bind_infallible fun _ => infallible_pure ()
  cases request with
  | setAutoSpawnEnabled enabled => exact hdiscard.trans atomicAt_setAutoSpawnEnabled
  | enqueueVeniceKeyReward createdAtMs action =>
    refine hdiscard.trans (atomicAt_check_iff.trans ?_)
    rw [failIf_ok, Bool.not_eq_true', Bool.not_eq_false, atomicAt_insertIntent]
    exact Iff.rfl
  | enqueueAcolyteContributionReward createdAtMs action =>
    refine hdiscard.trans (atomicAt_check_iff.trans ?_)
    rw [failIf_ok, Bool.not_eq_true', Bool.not_eq_false, atomicAt_insertIntent]
    exact Iff.rfl
  | enqueueSpawn createdAtMs plan => exact hdiscard.trans atomicAt_insertIntent
  | enqueueAbsorption createdAtMs sourceId targetId judgmentId =>
    exact hdiscard.trans atomicAt_insertIntent
  | enqueueSurvivalSpend judgmentId createdAtMs binding =>
    exact hdiscard.trans atomicAt_enqueueSurvivalSpend
  | cancelPendingSurvivalSpends judgmentId =>
    exact hdiscard.trans atomicAt_cancelPendingSurvivalSpends
  | scheduleDeath judgmentId scheduledAtMs gracePeriodMs spend =>
    exact hdiscard.trans (atomicAt_scheduleDeath h)
  | retireLegacyDeathAsDormancy => exact hdiscard.trans atomicAt_retireLegacyDeathAsDormancy
  | reconcileExpiredDeath nowMs target =>
    exact hdiscard.trans (atomicAt_reconcileExpiredDeath hfits)
  | reconcileAbsorptionProjectionTracking =>
    exact hdiscard.trans atomicAt_reconcileAbsorptionProjectionTracking
  | recordAbsorptionProjection actionId projectedAtMs =>
    exact hdiscard.trans (atomicAt_recordAbsorptionProjection h)
  | recordSpawnProjection actionId completedAtMs metrics =>
    exact hdiscard.trans (atomicAt_recordSpawnProjection h)
  | acknowledgeAction receipt => exact hdiscard.trans atomicAt_acknowledgeAction

/-! ## Runs -/

/-- Calls one after another, whether they return or fail. -/
def callMachine (initial : LifecycleState) : Machine LifecycleState Request where
  init := initial
  Allowed _ _ := True
  next s request := request.run.after s

theorem fits_run (h : s.Linked) (hfits : s.revision ≤ u64Max) (request : Request) :
    (request.run.after s).revision ≤ u64Max := by
  obtain ⟨ms, hperforms, -, -⟩ := run_does request h
  exact hperforms.invariant hfits fun _ _ _ => revision_le_apply

/-- In every state of every run, a call is atomic exactly when it is whole. -/
theorem atomic_iff {initial : LifecycleState} (hnew : IsNew initial)
    (h : (callMachine initial).Reachable s) (request : Request) :
    AtomicAt request.run s ↔ request.Whole s := by
  have hsound : s.Linked ∧ s.revision ≤ u64Max := by
    refine h.invariant (P := fun s => s.Linked ∧ s.revision ≤ u64Max) ?_
      fun s request _ hs _ => ⟨linked_run hs.1, fits_run hs.1 hs.2 request⟩
    obtain ⟨hlinked, hcounted⟩ := reachable_sound hnew .init
    exact ⟨hlinked, hcounted.fits⟩
  exact atomicAt_run hsound.1 hsound.2 request

end Calls

/-! ## A death with an invalid binding -/

attribute [local instance] sampleHashing

def sampleInvalid : SurvivalSpendBinding :=
  ⟨10000, 0, 1, 2, 4, ⟨1, 0, 10000, "1"⟩⟩

def sampleDeath : Request :=
  .scheduleDeath (sampleDigits '3') 0 2000 (some sampleInvalid)

theorem sampleDeath_run : (sampleDeath.run.exec sampleState).1 =
      .error (.invalid "survival spend is missing its bound chain, token, treasury, or configuration") ∧
    (sampleDeath.run.after sampleState).pendingDeath = some ⟨sampleDigits '3', 0, 2000⟩ := by
  decide +kernel

theorem atomic_iff_sample : AtomicAt sampleDeath.run sampleState ↔ sampleDeath.Whole sampleState :=
  atomic_iff isNew_sampleState .init sampleDeath

/-- The call fails and leaves the death pending. -/
theorem invalid_binding_leaves_death : ¬∀ initial, IsNew initial →
    ∀ s, (callMachine initial).Reachable s → ∀ request : Request, AtomicAt request.run s := by
  intro h
  obtain ⟨herror, hpending⟩ := sampleDeath_run
  have hsame : sampleDeath.run.after sampleState = sampleState :=
    h sampleState isNew_sampleState _ .init sampleDeath _ herror
  rw [hsame] at hpending
  cases hpending

end Cthuwu.Evolution
