import Cthuwu.Evolution.Effects
import Cthuwu.Lib.Runs

/-!
# States that can be stored

The runs of a lifecycle are the lists of calls that return, from a new state. Their states keep every
link, count every change and hold one receipt for an action. What they may not keep is that a token
transaction is consumed once : `acknowledge_action` compares a burn with earlier burns only, and a
reward with nothing. `lifecycle_storable_iff` says which runs have states that `validate` accepts.
-/

namespace Cthuwu.Evolution

open Council Moves

variable {s : LifecycleState} {intent : LifecycleIntent} {receipt : LifecycleReceipt}

/-! ## The log -/

section Log

variable [Hashing] {request : Request} {m : Move}

/-- What the log has grown by, beyond what has been counted. -/
def uncounted (s : LifecycleState) : ℤ :=
  s.logSize - s.revision

theorem logSize_addIntent (hfresh : s.intents.get intent.actionId = none) :
    (s.addIntent intent).logSize = s.logSize + 1 := by
  have hlen : (s.addIntent intent).intents.len = s.intents.len + 1 :=
    HashMap.len_insert_fresh hfresh
  unfold LifecycleState.logSize
  rw [hlen]
  change s.intents.len + 1 + s.receipts.length + s.spawnProjections.len +
    s.absorptionProjections.len + (if s.pendingDeath.isSome then 1 else 0) = _
  omega

theorem logSize_receive : (s.receive receipt).logSize = s.logSize + 1 := by
  have hlength : (s.receive receipt).receipts.length = s.receipts.length + 1 :=
    List.length_append.trans rfl
  unfold LifecycleState.logSize
  rw [hlength]
  change s.intents.len + (s.receipts.length + 1) + s.spawnProjections.len +
    s.absorptionProjections.len + (if s.pendingDeath.isSome then 1 else 0) = _
  omega

theorem logSize_ended {s' : LifecycleState} (hintents : s'.intents = s.intents)
    (hreceipts : s'.receipts = s.receipts) (hspawns : s'.spawnProjections = s.spawnProjections)
    (habsorptions : s'.absorptionProjections = s.absorptionProjections)
    (hpending : s'.pendingDeath = none) : s'.logSize ≤ s.logSize := by
  unfold LifecycleState.logSize
  rw [hintents, hreceipts, hspawns, habsorptions, hpending]
  exact Nat.add_le_add_left (Nat.zero_le _) _

theorem logSize_acknowledge : (s.acknowledge intent receipt).logSize ≤ s.logSize + 1 := by
  have hcase := acknowledged s intent receipt
  generalize s.acknowledge intent receipt = s' at hcase ⊢
  cases hcase with
  | @rescued spend hstatus haction =>
    have hended : (s.rescue intent.actionId spend.judgmentId).logSize ≤ s.logSize :=
      logSize_ended rfl rfl rfl rfl rfl
    rw [logSize_receive]
    exact Nat.add_le_add_right hended 1
  | shutDown hstatus haction hopen => exact (@logSize_receive s receipt).le
  | tracked htracks => exact (@logSize_receive s receipt).le
  | kept hspend => exact (@logSize_receive s receipt).le

theorem revision_acknowledge : (s.acknowledge intent receipt).revision = s.revision := by
  have hcase := acknowledged s intent receipt
  generalize s.acknowledge intent receipt = s' at hcase ⊢
  cases hcase <;> rfl

/-- A move adds to the log no more than it weighs. -/
theorem uncounted_apply (hm : m.Justified s) : uncounted (m.apply s) ≤ uncounted s + m.weight := by
  unfold uncounted
  cases m with
  | bump =>
    change ((s.logSize : ℤ) - (s.revision + 1 : ℕ)) ≤ s.logSize - s.revision + -1
    omega
  | schedule pending =>
    have hlog : (Move.apply s (.schedule pending)).logSize = s.logSize + 1 := by
      unfold LifecycleState.logSize
      rw [hm.1]
      rfl
    rw [hlog]
    change ((s.logSize + 1 : ℕ) : ℤ) - s.revision ≤ s.logSize - s.revision + 1
    omega
  | retire judgmentId =>
    have hlog : (s.retire judgmentId).logSize ≤ s.logSize := logSize_ended rfl rfl rfl rfl rfl
    change ((s.retire judgmentId).logSize : ℤ) - s.revision ≤ s.logSize - s.revision + 0
    omega
  | offer intent =>
    change ((s.addIntent intent).logSize : ℤ) - s.revision ≤ s.logSize - s.revision + 1
    rw [logSize_addIntent hm.1.fresh]
    omega
  | enqueue intent =>
    change ((s.addIntent intent).logSize : ℤ) - s.revision ≤ s.logSize - s.revision + 1
    rw [logSize_addIntent hm.1.fresh]
    omega
  | acknowledge intent receipt =>
    have hrevision : (s.acknowledge intent receipt).revision = s.revision := revision_acknowledge
    have hlog := @logSize_acknowledge s intent receipt _
    change ((s.acknowledge intent receipt).logSize : ℤ) - (s.acknowledge intent receipt).revision ≤
      s.logSize - s.revision + 1
    omega
  | projectAbsorption actionId projection =>
    obtain ⟨-, -, -, -, -, -, -, hnone⟩ := hm
    have hlen : (s.projectAbsorption actionId projection).absorptionProjections.len =
        s.absorptionProjections.len + 1 := HashMap.len_insert_fresh hnone
    have hlog : (s.projectAbsorption actionId projection).logSize = s.logSize + 1 := by
      unfold LifecycleState.logSize
      rw [hlen]
      change s.intents.len + s.receipts.length + s.spawnProjections.len +
        (s.absorptionProjections.len + 1) + (if s.pendingDeath.isSome then 1 else 0) = _
      omega
    change ((s.projectAbsorption actionId projection).logSize : ℤ) - s.revision ≤
      s.logSize - s.revision + 1
    omega
  | projectSpawn actionId projection =>
    obtain ⟨-, -, -, -, -, -, -, -, hnone⟩ := hm
    have hlen : (s.projectSpawn actionId projection).spawnProjections.len =
        s.spawnProjections.len + 1 := HashMap.len_insert_fresh hnone
    have hlog : (s.projectSpawn actionId projection).logSize = s.logSize + 1 := by
      unfold LifecycleState.logSize
      rw [hlen]
      change s.intents.len + s.receipts.length + (s.spawnProjections.len + 1) +
        s.absorptionProjections.len + (if s.pendingDeath.isSome then 1 else 0) = _
      omega
    change ((s.projectSpawn actionId projection).logSize : ℤ) - s.revision ≤
      s.logSize - s.revision + 1
    omega
  | setAutoSpawn enabled => exact (add_zero _).ge
  | cancel actionIds => exact (add_zero _).ge
  | reopen actionId => exact (add_zero _).ge
  | track actionIds => exact (add_zero _).ge

/-- The revision has counted the log, and fits in a word. -/
structure LifecycleState.Counted (s : LifecycleState) : Prop where
  counted : s.logSize ≤ s.revision
  fits : s.revision ≤ u64Max

theorem revision_le_apply (hfits : s.revision ≤ u64Max) (hm : m.Justified s) :
    (m.apply s).revision ≤ u64Max := by
  cases m with
  | bump => exact hm
  | acknowledge intent receipt => exact (revision_acknowledge).trans_le hfits
  | _ => exact hfits

/-- A call that returns has counted what it added. -/
theorem counted_run (h : s.Linked) (hcounted : s.Counted) {u : Unit}
    (hok : (request.run.exec s).1 = .ok u) : (request.run.after s).Counted := by
  obtain ⟨ms, hperforms, -, hweight⟩ := run_does request h
  have hmeasure := @Moves.Performs.measure _ _ _ _ _ _ Move.weight uncounted hperforms
    fun s m => uncounted_apply
  have hzero := hweight u hok
  refine ⟨?_, hperforms.invariant hcounted.fits fun s m _ => revision_le_apply⟩
  have hbefore := hcounted.counted
  unfold uncounted at hmeasure
  omega

end Log

/-! ## Consumed transactions -/

section Consumed

variable [Hashing] {request : Request} {m : Move}

/-- Intents that stay tell the same about receipts. -/
theorem consumed_of_grows {s' : LifecycleState} (h : s.Linked) (hgrows : s.Grows s')
    (hreceipts : s'.receipts = s.receipts) : s'.consumed = s.consumed := by
  unfold LifecycleState.consumed
  rw [hreceipts]
  refine List.filterMap_congr fun receipt hmem => ?_
  obtain ⟨intent, hget, -⟩ := h.receipts receipt hmem
  unfold LifecycleState.consumedBy
  rw [hget, hgrows.intents _ _ hget]

theorem consumed_receive (hget : s.intents.get receipt.actionId = some intent) :
    (s.receive receipt).consumed = s.consumed ++ (intent.consumes receipt).toList := by
  have hlast : (s.receive receipt).consumedBy receipt = intent.consumes receipt := by
    change (s.intents.get receipt.actionId).bind _ = _
    rw [hget, Option.bind_some]
  unfold LifecycleState.consumed
  change (s.receipts ++ [receipt]).filterMap (s.receive receipt).consumedBy = _
  rw [List.filterMap_append]
  congr 1
  cases hconsumes : intent.consumes receipt with
  | none =>
    rw [List.filterMap_cons_none (hlast.trans hconsumes)]
    rfl
  | some hash =>
    rw [List.filterMap_cons_some (hlast.trans hconsumes)]
    rfl

theorem consumed_acknowledge (hget : s.intents.get receipt.actionId = some intent) :
    (s.acknowledge intent receipt).consumed = s.consumed ++ (intent.consumes receipt).toList := by
  rw [← consumed_receive hget]
  have hcase := acknowledged s intent receipt
  generalize s.acknowledge intent receipt = s' at hcase ⊢
  cases hcase <;> rfl

/-- Only receipts consume. -/
theorem consumed_apply (h : s.Linked) (hm : m.Justified s)
    (hother : ∀ intent receipt, m ≠ .acknowledge intent receipt) :
    (m.apply s).consumed = s.consumed := by
  cases m with
  | acknowledge intent receipt => exact absurd rfl (hother intent receipt)
  | offer intent => exact consumed_of_grows h (grows_addIntent hm.1.fresh) rfl
  | enqueue intent => exact consumed_of_grows h (grows_addIntent hm.1.fresh) rfl
  | _ => rfl

/-- The transaction that a call would consume is not consumed yet. -/
def Unused (s : LifecycleState) (request : Request) : Prop :=
  ∀ intent receipt, request = .acknowledgeAction receipt →
    (Move.acknowledge intent receipt).Justified s →
      ∀ hash, intent.consumes receipt = some hash → hash ∉ s.consumed

theorem consumed_other (h : s.Linked) (hother : ∀ receipt, request ≠ .acknowledgeAction receipt) :
    (request.run.after s).consumed = s.consumed := by
  obtain ⟨ms, hperforms, hkind, -⟩ := run_does request h
  refine (hperforms.invariant (P := fun s' => s'.Linked ∧ s'.consumed = s.consumed) ⟨h, rfl⟩
    fun s' m hm h' hjustified => ⟨linked_apply h'.1 hjustified, ?_⟩).2
  refine (consumed_apply h'.1 hjustified ?_).trans h'.2
  rintro intent receipt rfl
  exact hother receipt (hkind _ hm)

/-- A call keeps consumed transactions apart when what it would consume is new. -/
theorem consumed_nodup_run (h : s.Linked) (hnodup : s.consumed.Nodup) :
    (request.run.after s).consumed.Nodup ↔ Unused s request := by
  by_cases hacknowledges : ∃ receipt, request = .acknowledgeAction receipt
  · obtain ⟨receipt, rfl⟩ := hacknowledges
    have hafter : (Request.acknowledgeAction receipt).run.after s =
        (acknowledgeAction receipt).after s := after_discard _
    rw [hafter]
    by_cases hjustified : ∃ intent, (Move.acknowledge intent receipt).Justified s
    · obtain ⟨intent, hjustified⟩ := hjustified
      have hconsumed : ((acknowledgeAction receipt).after s).consumed =
          s.consumed ++ (intent.consumes receipt).toList := by
        rw [← consumed_acknowledge hjustified.1]
        rcases after_acknowledgeAction hjustified with hafter | hafter
        · rw [hafter]
        · rw [hafter]
          rfl
      rw [hconsumed, List.nodup_append]
      constructor
      · rintro ⟨-, -, hapart⟩ other _ ⟨⟩ hother hash hconsumes hmem
        obtain rfl : other = intent := Option.some.inj (hother.1.symm.trans hjustified.1)
        exact hapart hash hmem hash (Option.mem_toList.mpr hconsumes) rfl
      · intro hunused
        refine ⟨hnodup, ?_, ?_⟩
        · cases intent.consumes receipt <;> simp
        · rintro hash hmem _ hconsumes rfl
          exact hunused intent receipt rfl hjustified hash (Option.mem_toList.mp hconsumes) hmem
    · rw [not_exists] at hjustified
      rw [after_acknowledgeAction_refused hjustified]
      refine iff_of_true hnodup ?_
      rintro intent _ ⟨⟩ hjustified'
      exact absurd hjustified' (hjustified intent)
  · rw [not_exists] at hacknowledges
    rw [consumed_other h hacknowledges]
    exact iff_of_true hnodup fun _ receipt hrequest => absurd hrequest (hacknowledges receipt)

end Consumed

/-! ## Runs -/

section Runs

variable [Hashing] {initial : LifecycleState}

def lifecycleMachine (initial : LifecycleState) : Machine LifecycleState Request where
  init := initial
  Allowed s request := (request.run.exec s).1 = .ok ()
  next s request := request.run.after s

/-- A stored state : it passes `validate`, consumes no transaction twice, has one receipt for an
action and has counted its log. -/
structure LifecycleState.Storable (s : LifecycleState) : Prop where
  validates : s.validate = .ok ()
  consumedOnce : s.consumed.Nodup
  receivedOnce : (s.receipts.map (·.actionId)).Nodup
  counted : s.logSize ≤ s.revision

/-- The first state of a run is one that `new` returns. -/
def IsNew (initial : LifecycleState) : Prop :=
  ∃ tentacleId autoSpawnEnabled, LifecycleState.new tentacleId autoSpawnEnabled = .ok initial

theorem reachable_sound (hnew : IsNew initial) (h : (lifecycleMachine initial).Reachable s) :
    s.Linked ∧ s.Counted := by
  obtain ⟨tentacleId, autoSpawnEnabled, hnew⟩ := hnew
  refine h.invariant (P := fun s => s.Linked ∧ s.Counted) ⟨linked_new hnew, ?_⟩
    fun s request _ hs hallowed => ⟨linked_run hs.1, counted_run hs.1 hs.2 hallowed⟩
  unfold LifecycleState.new at hnew
  simp only [except_check_ok, except_pure_ok] at hnew
  obtain ⟨-, rfl⟩ := hnew
  exact ⟨le_rfl, Nat.zero_le _⟩

/-- In a run, storing a state comes to consuming no transaction twice. -/
theorem storable_of_sound (h : s.Linked) (hcounted : s.Counted) :
    s.Storable ↔ s.consumed.Nodup := by
  constructor
  · exact fun hstorable => hstorable.consumedOnce
  · intro hnodup
    exact ⟨validate_ok.mpr ⟨h, hnodup, hcounted.counted.trans hcounted.fits, hcounted.counted⟩,
      hnodup, h.receiptIds, hcounted.counted⟩

/-- The states of a run can be stored when no receipt presents a transaction that is consumed. -/
theorem lifecycle_storable_iff (hnew : IsNew initial) {requests : List Request}
    (hadmits : (lifecycleMachine initial).Admits initial requests) :
    (∀ n, ((requests.take n).foldl (lifecycleMachine initial).next initial).Storable) ↔
      ((lifecycleMachine initial).restrict Unused).Admits initial requests := by
  refine Machine.admits_restrict_iff (fun s request hreachable hs hallowed => ?_) .init ?_ hadmits
  · obtain ⟨h, hcounted⟩ := reachable_sound hnew hreachable
    obtain ⟨h', hcounted'⟩ := reachable_sound hnew (hreachable.next hallowed)
    rw [storable_of_sound h' hcounted']
    exact consumed_nodup_run h hs.consumedOnce
  · obtain ⟨h, hcounted⟩ := reachable_sound hnew .init
    refine (storable_of_sound h hcounted).mpr ?_
    obtain ⟨tentacleId, autoSpawnEnabled, hnew⟩ := hnew
    unfold LifecycleState.new at hnew
    simp only [except_check_ok, except_pure_ok] at hnew
    obtain ⟨-, rfl⟩ := hnew
    exact List.nodup_nil

end Runs

instance [Hashing] {initial : LifecycleState} (s : LifecycleState) (request : Request) :
    Decidable ((lifecycleMachine initial).Allowed s request) :=
  inferInstanceAs (Decidable ((request.run.exec s).1 = .ok ()))

/-! ## Two rewards with one transaction -/

def sampleDigits (c : Char) : String :=
  String.ofList (List.replicate 64 c)

/-- The SHA-256 digests of the sample's actions. -/
@[reducible] def sampleHashing : Hashing where
  actionSha256 _ action := .ok <| match action with
    | .rewardVeniceKey _ event _ =>
      if event = sampleDigits '1' then
        0xb227fead7d041673932ab4b95796b8b0547f64c8b906e173df984a9e9b5fc010
      else 0x30f4015d0276babdb7ba13089e52fe34f15c109f0db21123de1a1c1a0c43529b
    | .spendForSurvival _ => 0x56c67743e71c94ed897b78f74ec1e7acb88e63739913e96988ad7ecf89c79785
    | .shutdown .. => 0x330f3a75799a2bf8d7c8190697275495983aa3710e8f9a7c111bb6dd07ecdc81
    | _ => 0
  natureSha256 _ := .ok 0

attribute [local instance] sampleHashing

def sampleState : LifecycleState :=
  ⟨lifecycleSchemaVersion, 0, "root", false, none, none, .empty, [], ∅, ∅, .empty, .empty⟩

theorem isNew_sampleState : IsNew sampleState :=
  ⟨"root", false, rfl⟩

def sampleReward (event : Char) : LifecycleAction :=
  .rewardVeniceKey "root" (sampleDigits event) ⟨8453, 1, 2, 3, 4, ⟨1, 0, "1"⟩⟩

def sampleTransfer (actionId : String) : LifecycleReceipt :=
  ⟨actionId, 1000, .succeeded, none, none, none,
    some ⟨8453, "0x" ++ sampleDigits 'a', 1, 1, 1, 2, 3, 4, ⟨1, 0, "1"⟩⟩, none⟩

def sampleReuse : List Request :=
  [.enqueueVeniceKeyReward 0 (sampleReward '1'), .enqueueVeniceKeyReward 0 (sampleReward '2'),
    .acknowledgeAction
      (sampleTransfer "b227fead7d041673932ab4b95796b8b0547f64c8b906e173df984a9e9b5fc010"),
    .acknowledgeAction
      (sampleTransfer "30f4015d0276babdb7ba13089e52fe34f15c109f0db21123de1a1c1a0c43529b")]

theorem sampleReuse_run : (lifecycleMachine sampleState).Admits sampleState sampleReuse ∧
    ¬(sampleReuse.foldl (lifecycleMachine sampleState).next sampleState).consumed.Nodup := by
  decide +kernel

theorem lifecycle_storable_iff_sample :
    (∀ n, ((sampleReuse.take n).foldl (lifecycleMachine sampleState).next sampleState).Storable) ↔
      ((lifecycleMachine sampleState).restrict Unused).Admits sampleState sampleReuse :=
  lifecycle_storable_iff isNew_sampleState sampleReuse_run.1

/-- Both receipts are accepted, and the state that they lead to is refused. -/
theorem reused_transaction_refused : ¬∀ initial, IsNew initial →
    ∀ s, (lifecycleMachine initial).Reachable s → s.Storable := by
  intro h
  obtain ⟨hadmits, hreused⟩ := sampleReuse_run
  exact hreused (h sampleState isNew_sampleState _ (Machine.Reachable.run .init hadmits)).consumedOnce

end Cthuwu.Evolution
