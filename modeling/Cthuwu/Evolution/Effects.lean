import Cthuwu.Evolution.Linked

/-!
# The moves of a call

Each operation is read as the moves it makes, up to where it returns or fails (`run_does`). A call
keeps every property that its moves keep (`linked_run`), and one that returns has counted what it
added to the log.
-/

namespace Cthuwu.Evolution

open Council Moves
open Fallible

/-! ## Counting -/

theorem exec_bumpRevision (s : LifecycleState) : bumpRevision.exec s =
    if s.revision < u64Max then (.ok (), s.bumped) else (.error (.limit "lifecycle revision"), s) := by
  unfold bumpRevision
  rw [exec_get_bind, exec_lift_bind]
  unfold failIf
  by_cases h : s.revision < u64Max
  · rw [if_neg (by omega), if_pos h]
    rfl
  · rw [if_pos (by omega), if_neg h]

theorem exec_commit (f : LifecycleState → LifecycleState) (s : LifecycleState) :
    (commit f).exec s = if (f s).revision < u64Max then (.ok (), (f s).bumped)
      else (.error (.limit "lifecycle revision"), f s) := by
  unfold commit
  rw [exec_modify_bind, exec_bumpRevision]

variable {createdAtMs nowMs : ℕ} {f : LifecycleState → LifecycleState} {α : Type}
  {intent : LifecycleIntent} {actionId : String} {target : Option String}
  {receipt : LifecycleReceipt}

theorem commit_ok {s s' : LifecycleState} {u : Unit} :
    (commit f).exec s = (.ok u, s') ↔ (f s).revision < u64Max ∧ s' = (f s).bumped := by
  rw [exec_commit]
  split_ifs with h
  · simp only [Prod.mk.injEq, true_and, h, eq_comm]
  · simp only [Prod.mk.injEq, reduceCtorEq, false_and, h]

variable [Hashing] {s : LifecycleState} {request : Request} {judgmentId : String}
  {action : LifecycleAction}

/-- From `s`, the operation makes the moves of a request. -/
abbrev Request.Makes {α : Type} (request : Request) (x : Op α) (s : LifecycleState) : Prop :=
  lifecycleMoves.Does Move.weight request.Does x s

theorem does_bumpRevision : request.Makes bumpRevision s := by
  unfold Request.Makes Moves.Does Fallible.after
  rw [exec_bumpRevision]
  split_ifs with h
  · refine ⟨[.bump], performs_singleton h, fun m hm => ?_, fun _ _ => by decide⟩
    rw [List.mem_singleton.mp hm]
    exact trivial
  · exact ⟨[], rfl, fun m hm => absurd hm List.not_mem_nil, fun _ _ => le_rfl⟩

/-- A write that is one move, and the count of it. -/
theorem does_commit {m : Move} (hm : m.Justified s) (hf : f s = m.apply s) (hkind : request.Does m)
    (hweight : m.weight ≤ 1) : request.Makes (commit f) s := by
  unfold Request.Makes Moves.Does Fallible.after
  rw [exec_commit, hf]
  split_ifs with h
  · refine ⟨[m, .bump], ⟨hm, h, rfl⟩, ?_, fun _ _ => ?_⟩
    · intro m' hm'
      rcases List.mem_pair.mp hm' with rfl | rfl
      · exact hkind
      · exact trivial
    · change m.weight + (-1 + 0) ≤ 0
      omega
  · refine ⟨[m], performs_singleton hm, fun m' hm' => ?_, fun _ ha => by cases ha⟩
    rwa [List.mem_singleton.mp hm']

theorem does_commit_pure {m : Move} {a : α} (hm : m.Justified s) (hf : f s = m.apply s)
    (hkind : request.Does m) (hweight : m.weight ≤ 1) : request.Makes (do commit f; return a) s :=
  (does_commit hm hf hkind hweight).bind fun _ _ _ => does_pure a

/-! ## Intents -/

theorem does_insertIntent {m : LifecycleIntent → Move}
    (hm : ∀ intent, s.Admits intent → intent.action = action →
      (m intent).Justified s ∧ request.Does (m intent))
    (happly : ∀ intent, (m intent).apply s = s.addIntent intent)
    (hweight : ∀ intent, (m intent).weight = 1) :
    request.Makes (insertIntent createdAtMs action) s := by
  unfold insertIntent
  refine does_lift_bind fun _ hvalid => does_lift_bind fun actionId hid => does_get_bind ?_
  cases hget : s.intents.get actionId with
  | some intent => exact does_pure intent
  | none =>
    obtain ⟨hjustified, hkind⟩ := hm ⟨actionId, createdAtMs, action⟩ ⟨hget, hvalid, hid⟩ rfl
    exact does_commit_pure hjustified (happly _).symm hkind (hweight _).le

theorem does_offer (hoffer : s.CanOffer action) :
    request.Makes (insertIntent createdAtMs action) s :=
  does_insertIntent (m := .offer) (fun intent hadmits haction =>
    ⟨⟨hadmits, by rwa [haction]⟩, trivial⟩) (fun _ => rfl) fun _ => rfl

/-- What a call enqueues is neither a spend nor a shutdown. -/
theorem does_enqueue (hspend : action.isSpend = false) (hshutdown : action.isShutdown = false)
    (henqueues : request.enqueues = some action) :
    request.Makes (insertIntent createdAtMs action) s :=
  does_insertIntent (m := .enqueue) (fun intent hadmits haction => by
    subst haction
    exact ⟨⟨hadmits, hspend, hshutdown⟩, henqueues⟩) (fun _ => rfl) fun _ => rfl

/-! ## Survival spends -/

theorem unreceiptedSpend_mem (h : s.unreceiptedSpend judgmentId = some intent) :
    (∃ key, s.intents.get key = some intent) ∧ intent.action.spendsFor judgmentId = true ∧
      s.receipt intent.actionId = none := by
  have hmem := List.mem_of_find?_eq_some h
  have hfound := List.find?_some h
  rw [Bool.and_eq_true, Option.isNone_iff_eq_none] at hfound
  exact ⟨mem_sortedIntents.mp hmem, hfound⟩

theorem does_offerAgain (hget : s.intents.get actionId = some intent)
    (hspends : intent.action.spendsFor judgmentId = true) (hdies : s.dies judgmentId = true) :
    request.Makes (offerAgain actionId) s := by
  unfold offerAgain
  refine does_get_bind ?_
  split_ifs with hcanceled
  · exact does_commit_pure (m := .reopen actionId) ⟨intent, judgmentId, hget, hspends, hdies⟩ rfl
      trivial zero_le_one
  · exact does_pure false

theorem does_enqueueSurvivalSpend (h : s.Linked) {binding : SurvivalSpendBinding} :
    request.Makes (enqueueSurvivalSpendForPendingDeath judgmentId createdAtMs binding) s := by
  unfold enqueueSurvivalSpendForPendingDeath
  refine does_get_bind (does_lift_bind fun pending hpending => does_lift_bind fun _ hopen => ?_)
  rw [okOr_ok] at hpending
  rw [failIf_ok, not_or, not_not] at hopen
  have hdies : s.dies judgmentId = true := dies_iff.mpr ⟨pending, hpending, hopen.1⟩
  cases hunreceipted : s.unreceiptedSpend judgmentId with
  | some existing =>
    obtain ⟨⟨key, hget⟩, hspends, -⟩ := unreceiptedSpend_mem hunreceipted
    obtain rfl := (h.intents key existing hget).key
    exact does_lift_bind fun _ _ => does_offerAgain hget hspends hdies
  | none =>
    have hoffer : s.CanOffer (s.nextSpend pending binding) := by
      change s.dies pending.judgmentId = true ∧ s.unreceiptedSpend pending.judgmentId = none
      rw [hopen.1]
      exact ⟨hdies, hunreceipted⟩
    exact (does_offer hoffer).bind fun _ _ _ => does_get_bind (does_pure _)

theorem does_cancelPendingSurvivalSpends (h : s.Linked) :
    request.Makes (cancelPendingSurvivalSpends judgmentId) s := by
  unfold cancelPendingSurvivalSpends
  refine does_lift_bind fun _ _ => does_get_bind ?_
  dsimp only
  split_ifs with hopen
  · refine does_commit_pure (m := .cancel _) (fun actionId hmem => ?_) rfl trivial zero_le_one
    exact (h.unreceipted.mp hmem).imp fun _ h => ⟨h.1, h.2.2⟩
  · exact does_pure false

theorem does_scheduleDeath (h : s.Linked) {scheduledAtMs gracePeriodMs : ℕ}
    {spend : Option SurvivalSpendBinding} :
    (Request.scheduleDeath judgmentId scheduledAtMs gracePeriodMs spend).Makes
      (scheduleDeath judgmentId scheduledAtMs gracePeriodMs spend) s := by
  unfold scheduleDeath
  refine does_lift_bind fun _ hjudgment => does_get_bind ?_
  rw [validateSha256_ok] at hjudgment
  cases hpending : s.pendingDeath with
  | some existing => exact does_lift_bind fun _ _ => does_pure false
  | none =>
    refine does_lift_bind fun _ hfits => ?_
    rw [failIf_ok, not_lt] at hfits
    have hjustified : (Move.schedule
        ⟨judgmentId, scheduledAtMs, scheduledAtMs + gracePeriodMs⟩).Justified s :=
      ⟨hpending, hjudgment, Nat.le_add_right ..⟩
    have hkind : (Request.scheduleDeath judgmentId scheduledAtMs gracePeriodMs spend).Does
        (.schedule ⟨judgmentId, scheduledAtMs, scheduledAtMs + gracePeriodMs⟩) := if_pos hfits
    refine (does_commit hjustified rfl hkind le_rfl).bind fun _ s' hexec => ?_
    obtain ⟨-, rfl⟩ := (commit_ok).mp hexec
    have hlinked := linked_bumped (linked_apply h hjustified)
    cases spend.filter fun binding => 0 < binding.expenditureBasisPoints with
    | some binding => exact (does_enqueueSurvivalSpend hlinked).bind fun _ _ _ => does_pure true
    | none => exact does_pure true

theorem does_retireLegacyDeathAsDormancy :
    Request.retireLegacyDeathAsDormancy.Makes retireLegacyDeathAsDormancy s := by
  unfold retireLegacyDeathAsDormancy
  refine does_get_bind ?_
  cases hpending : s.pendingDeath with
  | none => exact does_pure false
  | some pending =>
    refine does_lift_bind fun _ hopen => ?_
    rw [failIf_ok, not_or, Bool.not_eq_true] at hopen
    exact does_commit_pure (m := .retire pending.judgmentId)
      ⟨dies_iff.mpr ⟨pending, hpending, rfl⟩, hopen.1⟩ rfl rfl zero_le_one

/-! ### Deadlines -/

theorem ownAbsorption_some (h : s.Linked) (hown : s.ownAbsorption judgmentId = some actionId) :
    ∃ intent, s.intents.get actionId = some intent ∧
      intent.action.absorbs s.tentacleId judgmentId = true := by
  obtain ⟨intent, hfound, rfl⟩ := Option.map_eq_some_iff.mp hown
  obtain ⟨key, hget⟩ := mem_sortedIntents.mp (List.mem_of_find?_eq_some hfound)
  obtain rfl := (h.intents key intent hget).key
  exact ⟨intent, hget, (List.find?_some hfound :)⟩

/-- The shutdown of the pending death waits for its absorption. -/
theorem canOffer_shutdown (h : s.Linked) (hdies : s.dies judgmentId = true) :
    s.CanOffer (.shutdown s.tentacleId judgmentId (s.ownAbsorption judgmentId)) := by
  refine ⟨hdies, ?_⟩
  cases hown : s.ownAbsorption judgmentId with
  | none => rfl
  | some actionId =>
    obtain ⟨intent, hget, habsorbs⟩ := ownAbsorption_some h hown
    unfold LifecycleState.validateDependency
    simp only [except_bind_ok, okOr_ok, failIf_ok, Bool.not_eq_true', Bool.not_eq_false]
    exact ⟨intent, hget, habsorbs⟩

theorem does_offerAbsorption (hdies : s.dies judgmentId = true) :
    request.Makes (offerAbsorption nowMs target judgmentId) s := by
  unfold offerAbsorption
  refine does_get_bind ?_
  cases target with
  | none => exact does_pure false
  | some targetId =>
    dsimp only
    split_ifs
    · exact does_pure false
    · have hoffer : s.CanOffer (.absorb s.tentacleId targetId judgmentId) := hdies
      exact (does_offer hoffer).bind fun _ _ _ => does_pure true

/-- Past the first write, a deadline only offers and counts. -/
theorem keepsPending {x : Op α} (hx : (Request.reconcileExpiredDeath nowMs target).Makes x s)
    (h : s.Linked) : (x.after s).Linked ∧ (x.after s).pendingDeath = s.pendingDeath := by
  obtain ⟨ms, hperforms, hkind, -⟩ := hx
  refine hperforms.invariant (P := fun s' => s'.Linked ∧ s'.pendingDeath = s.pendingDeath)
    ⟨h, rfl⟩ fun s' m hm h' hjustified => ⟨linked_apply h'.1 hjustified, ?_⟩
  have hkind := hkind m hm
  cases m with
  | schedule pending => cases hkind
  | retire judgmentId => cases hkind
  | acknowledge intent receipt => cases hkind
  | _ => exact h'.2

theorem after_of_exec {x : Op α} {s' : LifecycleState} {a : Except EvolutionError α}
    (h : x.exec s = (a, s')) : x.after s = s' :=
  congrArg Prod.snd h

theorem does_orderShutdown (h : s.Linked) {changed : Bool} (hdies : s.dies judgmentId = true) :
    request.Makes (orderShutdown nowMs judgmentId changed) s := by
  unfold orderShutdown
  refine does_get_bind ((does_offer (canOffer_shutdown h hdies)).bind fun _ _ _ => ?_)
  refine Does.bind ?_ fun _ _ _ => does_get_bind (does_pure _)
  unfold bumpIf
  split_ifs
  · exact does_bumpRevision
  · exact does_pure ()

theorem does_expire (h : s.Linked) (hdies : s.dies judgmentId = true) :
    (Request.reconcileExpiredDeath nowMs target).Makes (expire nowMs target judgmentId) s := by
  have hcancel : (Move.cancel (s.unreceipted (·.spendsFor judgmentId))).Justified s :=
    fun actionId hmem => (h.unreceipted.mp hmem).imp fun _ h => ⟨h.1, h.2.2⟩
  have hlinked : (s.cancel (s.unreceipted (·.spendsFor judgmentId))).Linked :=
    linked_apply h hcancel
  have hdies' : (s.cancel (s.unreceipted (·.spendsFor judgmentId))).dies judgmentId = true := hdies
  unfold expire
  refine does_get_bind ?_
  have hmodify : (Request.reconcileExpiredDeath nowMs target).Makes
      (modify (LifecycleState.cancel (s.unreceipted (·.spendsFor judgmentId)))) s :=
    does_modify (m := .cancel _) hcancel trivial rfl le_rfl
  refine hmodify.bind fun _ canceled hexec => ?_
  obtain rfl : _ = canceled := congrArg Prod.snd hexec
  have hoffers : (Request.reconcileExpiredDeath nowMs target).Makes
      (offerAbsorption nowMs target judgmentId)
      (s.cancel (s.unreceipted (·.spendsFor judgmentId))) := does_offerAbsorption hdies'
  refine hoffers.bind fun offered s' hexec => ?_
  obtain ⟨hlinked', hpending⟩ := keepsPending hoffers hlinked
  rw [after_of_exec hexec] at hlinked' hpending
  refine does_orderShutdown hlinked' ?_
  unfold LifecycleState.dies at hdies ⊢
  rwa [hpending]

theorem does_reconcileExpiredDeath (h : s.Linked) :
    (Request.reconcileExpiredDeath nowMs target).Makes (reconcileExpiredDeath nowMs target) s := by
  unfold reconcileExpiredDeath
  refine does_get_bind ?_
  cases hpending : s.pendingDeath with
  | none => exact does_pure false
  | some pending =>
    dsimp only
    split_ifs
    · exact does_pure false
    · exact does_expire h (dies_iff.mpr ⟨pending, hpending, rfl⟩)

/-! ## Projections -/

theorem trackable_of_expected (h : s.Linked) (hmem : actionId ∈ s.expectedProjections) :
    s.Trackable actionId := by
  unfold LifecycleState.expectedProjections HashMap.contains at hmem
  simp only [List.mem_filterMap, List.mem_filter, decide_eq_true_eq, Option.map_eq_some_iff,
    Option.filter_eq_some_iff, Bool.and_eq_true, Bool.not_eq_true', Option.isSome_eq_false_iff,
    Option.isNone_iff_eq_none] at hmem
  obtain ⟨receipt, ⟨hreceipt, hstatus⟩, intent, ⟨hget, ⟨habsorption, -⟩, hnone⟩, rfl⟩ := hmem
  have hkey := (h.intents _ _ hget).key
  rw [← hkey] at hnone ⊢
  exact ⟨intent, receipt, hget, receipt_of_mem h.receiptIds hreceipt, habsorption, hstatus, hnone⟩

theorem does_reconcileAbsorptionProjectionTracking (h : s.Linked) :
    request.Makes reconcileAbsorptionProjectionTracking s := by
  unfold reconcileAbsorptionProjectionTracking
  refine does_get_bind ?_
  dsimp only
  split_ifs
  · exact does_pure false
  · exact does_commit_pure (m := .track _) (fun _ hmem => trackable_of_expected h hmem) rfl trivial
      zero_le_one

theorem does_recordAbsorptionProjection {projectedAtMs : ℕ} :
    request.Makes (recordAbsorptionProjection actionId projectedAtMs) s := by
  unfold recordAbsorptionProjection
  refine does_lift_bind fun _ _ => does_get_bind (does_lift_bind fun intent hintent =>
    does_lift_bind fun _ habsorb => does_lift_bind fun receipt hreceipt =>
      does_lift_bind fun _ htime => ?_)
  simp only [okOr_ok, failIf_ok, Bool.not_eq_true', Bool.not_eq_false, not_or, not_not,
    not_lt] at hintent habsorb hreceipt htime
  cases hprojection : s.absorptionProjections.get actionId with
  | some existing => exact does_lift_bind fun _ _ => does_pure false
  | none =>
    exact does_commit_pure (m := .projectAbsorption actionId ⟨projectedAtMs⟩)
      ⟨intent, receipt, hintent, hreceipt, habsorb, htime.1, htime.2, hprojection⟩ rfl trivial le_rfl

theorem does_recordSpawnProjection {completedAtMs : ℕ} {metrics : ℤ} :
    request.Makes (recordSpawnProjection actionId completedAtMs metrics) s := by
  unfold recordSpawnProjection
  refine does_lift_bind fun _ _ => does_get_bind (does_lift_bind fun intent hintent =>
    does_lift_bind fun _ hspawn => does_lift_bind fun receipt hreceipt =>
      does_lift_bind fun _ htime => ?_)
  simp only [okOr_ok, failIf_ok, Bool.not_eq_true', Bool.not_eq_false, not_or, not_not,
    not_lt] at hintent hspawn hreceipt htime
  cases hprojection : s.spawnProjections.get actionId with
  | some existing => exact does_lift_bind fun _ _ => does_pure false
  | none =>
    exact does_commit_pure (m := .projectSpawn actionId ⟨completedAtMs, metrics⟩)
      ⟨intent, receipt, hintent, hreceipt, hspawn, htime.1, htime.2.1.symm, htime.2.2, hprojection⟩
      rfl trivial le_rfl

/-! ## Receipts -/

theorem does_acknowledgeAction :
    (Request.acknowledgeAction receipt).Makes (acknowledgeAction receipt) s := by
  unfold acknowledgeAction
  refine does_get_bind (does_lift_bind fun intent hintent => does_lift_bind fun _ hvalid => ?_)
  rw [okOr_ok] at hintent
  cases hreceipt : s.receipt receipt.actionId with
  | some existing => exact does_lift_bind fun _ _ => does_pure _
  | none =>
    refine does_lift_bind fun _ hsuccess => ?_
    exact does_commit_pure (m := .acknowledge intent receipt) ⟨hintent, hvalid, hreceipt, hsuccess⟩
      rfl rfl le_rfl

theorem exec_acknowledgeAction (h : (Move.acknowledge intent receipt).Justified s) :
    (acknowledgeAction receipt).exec s =
      (do commit (LifecycleState.acknowledge intent receipt)
          return (intent.action, true) : Op (LifecycleAction × Bool)).exec s := by
  obtain ⟨hintent, hvalid, hreceipt, hsuccess⟩ := h
  unfold acknowledgeAction
  rw [exec_get_bind, exec_lift_bind, hintent]
  dsimp only [okOr]
  rw [exec_lift_bind, hvalid]
  dsimp only
  rw [hreceipt]
  dsimp only
  rw [exec_lift_bind, hsuccess]

theorem after_acknowledgeAction (h : (Move.acknowledge intent receipt).Justified s) :
    (acknowledgeAction receipt).after s = s.acknowledge intent receipt ∨
      (acknowledgeAction receipt).after s = (s.acknowledge intent receipt).bumped := by
  unfold Fallible.after
  rw [exec_acknowledgeAction h, exec_bind, exec_commit]
  split_ifs
  · exact .inr rfl
  · exact .inl rfl

theorem after_acknowledgeAction_refused
    (h : ∀ intent, ¬(Move.acknowledge intent receipt).Justified s) :
    (acknowledgeAction receipt).after s = s := by
  unfold acknowledgeAction Fallible.after
  rw [exec_get_bind, exec_lift_bind]
  cases hintent : okOr (s.intents.get receipt.actionId)
    (EvolutionError.notFound receipt.actionId) with
  | error e => rfl
  | ok intent =>
    rw [okOr_ok] at hintent
    dsimp only
    rw [exec_lift_bind]
    cases hvalid : validateLifecycleReceipt intent receipt with
    | error e => rfl
    | ok u =>
      dsimp only
      cases hreceipt : s.receipt receipt.actionId with
      | some existing =>
        dsimp only
        rw [exec_lift_bind]
        split <;> rfl
      | none =>
        dsimp only
        rw [exec_lift_bind]
        cases hsuccess : s.checkSuccess intent receipt with
        | error e => rfl
        | ok u => exact absurd ⟨hintent, hvalid, hreceipt, hsuccess⟩ (h intent)

/-! ## Calls -/

/-- What a call returns is left out of what it does. -/
theorem after_discard (x : Op α) : (x >>= fun _ => pure () : Op Unit).after s = x.after s := by
  unfold Fallible.after
  rw [exec_bind]
  rcases x.exec s with ⟨_ | _, _⟩ <;> rfl

theorem run_does (request : Request) (h : s.Linked) : request.Makes request.run s := by
  have hrest {α : Type} {x : Op α} (hx : request.Makes x s) :
      request.Makes (x >>= fun _ => pure ()) s := hx.bind fun _ _ _ => does_pure ()
  cases request with
  | setAutoSpawnEnabled enabled =>
    refine hrest ?_
    unfold setAutoSpawnEnabled
    refine does_get_bind ?_
    split_ifs
    · exact does_pure false
    · exact does_commit_pure (m := .setAutoSpawn enabled) trivial rfl trivial zero_le_one
  | enqueueVeniceKeyReward createdAtMs action =>
    refine hrest (does_lift_bind fun _ hkind => ?_)
    rw [failIf_ok, Bool.not_eq_true', Bool.not_eq_false] at hkind
    refine does_enqueue ?_ ?_ rfl
    all_goals cases action <;> first | rfl | cases hkind
  | enqueueAcolyteContributionReward createdAtMs action =>
    refine hrest (does_lift_bind fun _ hkind => ?_)
    rw [failIf_ok, Bool.not_eq_true', Bool.not_eq_false] at hkind
    refine does_enqueue ?_ ?_ rfl
    all_goals cases action <;> first | rfl | cases hkind
  | enqueueSpawn createdAtMs plan => exact hrest (does_enqueue rfl rfl rfl)
  | enqueueAbsorption createdAtMs sourceId targetId judgmentId =>
    exact hrest (does_enqueue rfl rfl rfl)
  | enqueueSurvivalSpend judgmentId createdAtMs binding =>
    exact hrest (does_enqueueSurvivalSpend h)
  | cancelPendingSurvivalSpends judgmentId => exact hrest (does_cancelPendingSurvivalSpends h)
  | scheduleDeath judgmentId scheduledAtMs gracePeriodMs spend =>
    exact hrest (does_scheduleDeath h)
  | retireLegacyDeathAsDormancy => exact hrest does_retireLegacyDeathAsDormancy
  | reconcileExpiredDeath nowMs target => exact hrest (does_reconcileExpiredDeath h)
  | reconcileAbsorptionProjectionTracking =>
    exact hrest (does_reconcileAbsorptionProjectionTracking h)
  | recordAbsorptionProjection actionId projectedAtMs =>
    exact hrest does_recordAbsorptionProjection
  | recordSpawnProjection actionId completedAtMs metrics => exact hrest does_recordSpawnProjection
  | acknowledgeAction receipt => exact hrest does_acknowledgeAction

theorem linked_run (h : s.Linked) : (request.run.after s).Linked := by
  obtain ⟨ms, hperforms, -, -⟩ := run_does request h
  exact hperforms.invariant h fun _ _ _ h hjustified => linked_apply h hjustified

theorem linked_new {tentacleId : String} {autoSpawnEnabled : Bool}
    (h : LifecycleState.new tentacleId autoSpawnEnabled = .ok s) : s.Linked := by
  unfold LifecycleState.new validateId at h
  simp only [except_check_ok, failIf_ok, Bool.not_eq_true', Bool.not_eq_false, except_pure_ok] at h
  obtain ⟨hsafe, rfl⟩ := h
  refine ⟨rfl, hsafe, fun _ h => ?_, fun _ _ h => ?_, fun _ h => ?_, List.nodup_nil, fun _ h => ?_,
    fun _ h => ?_, fun _ _ h => ?_, fun _ _ h => ?_, fun h => ?_⟩
  all_goals cases h

end Cthuwu.Evolution
