import Cthuwu.Evolution.Moves

/-!
# The references of a lifecycle state

`LifecycleState.Linked` holds when every reference between intents, receipts, cancellations and
projections leads where it should. Each justified move keeps it (`linked_apply`). With a log that is
counted, and no transaction consumed twice, it is what `validate` checks (`validate_ok`).
-/

namespace Cthuwu.Evolution

open Council

variable {s : LifecycleState} {intent intent' : LifecycleIntent} {receipt receipt' : LifecycleReceipt}
  {id judgmentId : String} {action : LifecycleAction}

/-! ## Looking things up -/

theorem mem_sortedIntents : intent ∈ s.sortedIntents ↔ ∃ id, s.intents.get id = some intent := by
  unfold LifecycleState.sortedIntents
  rw [List.mem_map]
  constructor
  · rintro ⟨⟨id, _⟩, hmem, rfl⟩
    exact ⟨id, HashMap.mem_pairs.mp (s.intents.sortedPairs_perm.mem_iff.mp hmem)⟩
  · rintro ⟨id, hget⟩
    exact ⟨(id, intent), s.intents.sortedPairs_perm.mem_iff.mpr (HashMap.mem_pairs.mpr hget), rfl⟩

variable {p : LifecycleAction → Bool} {projection : AbsorptionProjection}
  {seen : Finset String × Finset String}

theorem mem_unreceipted : id ∈ s.unreceipted p ↔
    ∃ key intent, s.intents.get key = some intent ∧ p intent.action = true ∧
      s.receipt intent.actionId = none ∧ intent.actionId = id := by
  unfold LifecycleState.unreceipted
  simp only [List.mem_map, List.mem_filter, mem_sortedIntents, Bool.and_eq_true,
    Option.isNone_iff_eq_none]
  constructor
  · rintro ⟨intent, ⟨⟨key, hget⟩, hp, hreceipt⟩, rfl⟩
    exact ⟨key, intent, hget, hp, hreceipt, rfl⟩
  · rintro ⟨key, intent, hget, hp, hreceipt, rfl⟩
    exact ⟨intent, ⟨⟨key, hget⟩, hp, hreceipt⟩, rfl⟩

theorem receipt_mem (h : s.receipt id = some receipt) :
    receipt ∈ s.receipts ∧ receipt.actionId = id :=
  ⟨List.mem_of_find?_eq_some h, of_decide_eq_true (List.find?_some h :)⟩

theorem receipt_none : s.receipt id = none ↔ id ∉ s.receipts.map (·.actionId) := by
  unfold LifecycleState.receipt
  simp only [List.find?_eq_none, decide_eq_true_eq, List.mem_map, not_exists, not_and]

/-- Where no receipt repeats an action, each is found under its own. -/
theorem receipt_of_mem (hnodup : (s.receipts.map (·.actionId)).Nodup)
    (h : receipt ∈ s.receipts) : s.receipt receipt.actionId = some receipt := by
  cases hfound : s.receipt receipt.actionId with
  | none => exact absurd (List.mem_map_of_mem h) ((receipt_none).mp hfound)
  | some found =>
    obtain ⟨hmem, hid⟩ := receipt_mem hfound
    rw [List.inj_on_of_nodup_map hnodup hmem h hid]

theorem receipt_append (receipts : List LifecycleReceipt) :
    (receipts ++ [receipt]).find? (fun receipt => receipt.actionId = id) =
      (receipts.find? fun receipt => receipt.actionId = id).or
        (if receipt.actionId = id then some receipt else none) := by
  rw [List.find?_append, List.find?_singleton]
  simp only [decide_eq_true_eq]

theorem dies_iff : s.dies judgmentId = true ↔
    ∃ pending, s.pendingDeath = some pending ∧ pending.judgmentId = judgmentId := by
  unfold LifecycleState.dies
  simp only [Option.any_eq_true, decide_eq_true_eq]

theorem isPendingAbsorption_iff : s.isPendingAbsorption action = true ↔
    action.isAbsorb = true ∧ ∃ judgmentId, action.death = some judgmentId ∧
      s.dies judgmentId = true := by
  unfold LifecycleState.isPendingAbsorption
  simp only [Bool.and_eq_true, Option.any_eq_true]

/-! ## Links -/

variable [Hashing]

/-- An intent as it is kept under an identifier. -/
structure LifecycleState.Keeps (s : LifecycleState) (id : String) (intent : LifecycleIntent) :
    Prop where
  key : id = intent.actionId
  valid : validateLifecycleAction intent.action = .ok ()
  canonical : lifecycleActionId intent.action = .ok id
  dependency : s.validateDependency intent.action = .ok ()

/-- The receipt that an absorption was projected after. -/
def LifecycleState.Absorbed (s : LifecycleState) (id : String)
    (projection : AbsorptionProjection) : Prop :=
  ∃ intent receipt, s.intents.get id = some intent ∧ s.receipt id = some receipt ∧
    intent.action.isAbsorb = true ∧ receipt.status = .succeeded ∧
      receipt.completedAtMs ≤ projection.latestReceiptMs

/-- The receipt that a spawn was projected from. -/
def LifecycleState.Spawned (s : LifecycleState) (id : String) (projection : SpawnProjection) :
    Prop :=
  ∃ intent receipt, s.intents.get id = some intent ∧ s.receipt id = some receipt ∧
    intent.action.isSpawn = true ∧ receipt.status = .succeeded ∧
      projection.completedAtMs = receipt.completedAtMs ∧
        0 ≤ projection.metricsPeriodStartedAtUnixSeconds

/-- Every reference leads where it should. -/
structure LifecycleState.Linked (s : LifecycleState) : Prop where
  schema : s.schemaVersion = lifecycleSchemaVersion
  tentacle : isSafeId s.tentacleId = true
  pending : ∀ pending, s.pendingDeath = some pending →
    isHexOf 64 pending.judgmentId = true ∧ pending.scheduledAtMs ≤ pending.graceEndsAtMs
  intents : ∀ id intent, s.intents.get id = some intent → s.Keeps id intent
  receipts : ∀ receipt ∈ s.receipts, ∃ intent, s.intents.get receipt.actionId = some intent ∧
    validateLifecycleReceipt intent receipt = .ok ()
  receiptIds : (s.receipts.map (·.actionId)).Nodup
  canceled : ∀ id ∈ s.canceledActionIds, ∃ intent, s.intents.get id = some intent
  tracked : ∀ id ∈ s.pendingAbsorptionProjectionActionIds, s.Trackable id
  absorbed : ∀ id projection, s.absorptionProjections.get id = some projection →
    s.Absorbed id projection
  spawned : ∀ id projection, s.spawnProjections.get id = some projection → s.Spawned id projection
  shutdown : s.shutdownCompletedAtMs.isSome = true → s.hasShutDown = true

theorem LifecycleState.Linked.unreceipted (h : s.Linked) :
    id ∈ s.unreceipted p ↔ ∃ intent, s.intents.get id = some intent ∧ p intent.action = true ∧
      s.receipt id = none := by
  rw [mem_unreceipted]
  constructor
  · rintro ⟨key, intent, hget, hp, hreceipt, rfl⟩
    obtain rfl := (h.intents key intent hget).key
    exact ⟨intent, hget, hp, hreceipt⟩
  · rintro ⟨intent, hget, hp, hreceipt⟩
    obtain rfl := (h.intents id intent hget).key
    exact ⟨_, intent, hget, hp, hreceipt, rfl⟩

/-- Without a pending death nothing is tracked. -/
theorem not_trackable (hpending : s.pendingDeath = none) : ¬s.Trackable id := by
  rintro ⟨intent, receipt, -, -, habsorption, -⟩
  obtain ⟨-, judgmentId, -, hdies⟩ := (isPendingAbsorption_iff).mp habsorption
  obtain ⟨pending, hsome, -⟩ := (dies_iff).mp hdies
  rw [hpending] at hsome
  cases hsome

/-! ## Growth -/

/-- `s'` has the intents and the receipts of `s`. -/
structure LifecycleState.Grows (s s' : LifecycleState) : Prop where
  intents : ∀ id intent, s.intents.get id = some intent → s'.intents.get id = some intent
  receipts : ∀ id receipt, s.receipt id = some receipt → s'.receipt id = some receipt
  receiptList : ∀ receipt ∈ s.receipts, receipt ∈ s'.receipts

section Growth

variable {s' : LifecycleState}

/-- Where neither intents nor receipts change, nothing is lost. -/
theorem grows_of_eq (hintents : s'.intents = s.intents) (hreceipts : s'.receipts = s.receipts) :
    s.Grows s' := by
  refine ⟨fun id intent hget => by rw [hintents, hget], fun id receipt hget => ?_,
    fun receipt hmem => by rwa [hreceipts]⟩
  unfold LifecycleState.receipt at hget ⊢
  rw [hreceipts, hget]

theorem LifecycleState.Grows.dependency (h : s.Grows s')
    (hok : s.validateDependency action = .ok ()) : s'.validateDependency action = .ok () := by
  unfold LifecycleState.validateDependency at hok ⊢
  split at hok
  · simp only [except_bind_ok, okOr_ok] at hok ⊢
    obtain ⟨dependency, hget, hmatches⟩ := hok
    exact ⟨dependency, h.intents _ _ hget, hmatches⟩
  · rfl

theorem LifecycleState.Grows.keeps (h : s.Grows s') (hkeeps : s.Keeps id intent) :
    s'.Keeps id intent :=
  ⟨hkeeps.key, hkeeps.valid, hkeeps.canonical, h.dependency hkeeps.dependency⟩

theorem LifecycleState.Grows.absorbed {projection : AbsorptionProjection} (h : s.Grows s') :
    s.Absorbed id projection → s'.Absorbed id projection := by
  rintro ⟨intent, receipt, hintent, hreceipt, hrest⟩
  exact ⟨intent, receipt, h.intents _ _ hintent, h.receipts _ _ hreceipt, hrest⟩

theorem LifecycleState.Grows.spawned {projection : SpawnProjection} (h : s.Grows s') :
    s.Spawned id projection → s'.Spawned id projection := by
  rintro ⟨intent, receipt, hintent, hreceipt, hrest⟩
  exact ⟨intent, receipt, h.intents _ _ hintent, h.receipts _ _ hreceipt, hrest⟩

theorem LifecycleState.Grows.hasShutDown (h : s.Grows s') (hdone : s.hasShutDown = true) :
    s'.hasShutDown = true := by
  unfold LifecycleState.hasShutDown at hdone ⊢
  simp only [List.any_eq_true, Bool.and_eq_true, decide_eq_true_eq, Option.any_eq_true] at hdone ⊢
  obtain ⟨receipt, hmem, hstatus, intent, hget, hshutdown⟩ := hdone
  exact ⟨receipt, h.receiptList receipt hmem, hstatus, intent, h.intents _ _ hget, hshutdown⟩

/-- A trackable action stays one while the death is pending and it has no projection. -/
theorem LifecycleState.Grows.trackable (h : s.Grows s') (hpending : s'.pendingDeath = s.pendingDeath)
    (hprojection : s'.absorptionProjections.get id = none) :
    s.Trackable id → s'.Trackable id := by
  rintro ⟨intent, receipt, hintent, hreceipt, habsorption, hstatus, -⟩
  refine ⟨intent, receipt, h.intents _ _ hintent, h.receipts _ _ hreceipt, ?_, hstatus, hprojection⟩
  unfold LifecycleState.isPendingAbsorption LifecycleState.dies at habsorption ⊢
  rwa [hpending]

/-- What is kept is kept as long as the intents are the same. -/
theorem LifecycleState.Linked.keeps (h : s.Linked) (hintents : s'.intents = s.intents) :
    ∀ id intent, s'.intents.get id = some intent → s'.Keeps id intent := by
  intro id intent hget
  have hkeeps := h.intents id intent (hintents ▸ hget)
  refine ⟨hkeeps.key, hkeeps.valid, hkeeps.canonical, ?_⟩
  have hdependency := hkeeps.dependency
  unfold LifecycleState.validateDependency at hdependency ⊢
  rwa [hintents]

end Growth

/-! ## Moves keep the links -/

theorem linked_bumped (h : s.Linked) : s.bumped.Linked :=
  { h with intents := h.keeps rfl }

theorem linked_setAutoSpawn (h : s.Linked) (enabled : Bool) :
    { s with autoSpawnEnabled := enabled }.Linked :=
  { h with intents := h.keeps rfl }

theorem linked_schedule {pending : PendingDeath} (h : s.Linked) (hnone : s.pendingDeath = none)
    (hjudgment : isHexOf 64 pending.judgmentId = true)
    (hgrace : pending.scheduledAtMs ≤ pending.graceEndsAtMs) :
    { s with pendingDeath := some pending }.Linked :=
  { h with
    intents := h.keeps rfl
    pending := by
      rintro _ ⟨⟩
      exact ⟨hjudgment, hgrace⟩
    tracked := fun id hid => absurd (h.tracked id hid) (not_trackable hnone) }

/-- A trackable absorption of a death has succeeded. -/
theorem hasAbsorbed_of_trackable (hdies : s.dies judgmentId = true) (h : s.Trackable id) :
    s.hasAbsorbed judgmentId = true := by
  obtain ⟨intent, receipt, hintent, hreceipt, habsorption, hstatus, -⟩ := h
  obtain ⟨habsorb, judgment, hdeath, hdies'⟩ := (isPendingAbsorption_iff).mp habsorption
  obtain ⟨pending, hpending, rfl⟩ := (dies_iff).mp hdies
  obtain ⟨_, hpending', rfl⟩ := (dies_iff).mp hdies'
  rw [hpending] at hpending'
  cases hpending'
  obtain ⟨hmem, rfl⟩ := receipt_mem hreceipt
  unfold LifecycleState.hasAbsorbed
  simp only [List.any_eq_true, Bool.and_eq_true, decide_eq_true_eq, Option.any_eq_true]
  exact ⟨receipt, hmem, hstatus, intent, hintent, habsorb, hdeath⟩

theorem linked_cancel {ids : List String} (h : s.Linked)
    (hids : ∀ id ∈ ids, ∃ intent, s.intents.get id = some intent) : (s.cancel ids).Linked :=
  { h with
    intents := h.keeps rfl
    canceled := by
      intro id hid
      rcases Finset.mem_union.mp hid with hid | hid
      · exact h.canceled id hid
      · exact hids id (List.mem_toFinset.mp hid) }

theorem linked_retire (h : s.Linked) (hdies : s.dies judgmentId = true)
    (habsorbed : s.hasAbsorbed judgmentId = false) : (s.retire judgmentId).Linked := by
  have hcancel : (s.cancel (s.unreceipted fun action => action.death = some judgmentId)).Linked :=
    linked_cancel h fun id hid => (h.unreceipted.mp hid).imp fun _ h => h.1
  refine { hcancel with intents := h.keeps rfl, pending := ?_, tracked := ?_, shutdown := ?_ }
  · intro pending hpending
    cases hpending
  · intro id hid
    have htrue := hasAbsorbed_of_trackable hdies (h.tracked id hid)
    rw [habsorbed] at htrue
    cases htrue
  · intro hsome
    cases hsome

/-- A new intent leaves the others where they are. -/
theorem grows_addIntent (hfresh : s.intents.get intent.actionId = none) :
    s.Grows (s.addIntent intent) := by
  refine ⟨fun id old hget => ?_, fun _ _ hget => hget, fun _ hmem => hmem⟩
  have hne : id ≠ intent.actionId := fun heq => by
    rw [heq, hfresh] at hget
    cases hget
  exact (HashMap.get_insert_ne hne).trans hget

theorem linked_addIntent (h : s.Linked) (hadmits : s.Admits intent)
    (hdependency : s.validateDependency intent.action = .ok ()) : (s.addIntent intent).Linked := by
  have hgrows := grows_addIntent hadmits.fresh
  refine { h with
    intents := ?_, receipts := ?_, canceled := ?_, tracked := ?_, absorbed := ?_, spawned := ?_,
    shutdown := ?_ }
  · intro id kept hget
    change (s.intents.insert intent.actionId intent).get id = some kept at hget
    rw [HashMap.get_insert_apply] at hget
    split_ifs at hget with hid
    · cases hget
      rw [hid]
      exact ⟨rfl, hadmits.valid, hadmits.canonical, hgrows.dependency hdependency⟩
    · exact hgrows.keeps (h.intents id kept hget)
  · intro receipt hmem
    obtain ⟨intent, hget, hvalid⟩ := h.receipts receipt hmem
    exact ⟨intent, hgrows.intents _ _ hget, hvalid⟩
  · intro id hid
    obtain ⟨intent, hget⟩ := h.canceled id hid
    exact ⟨intent, hgrows.intents _ _ hget⟩
  · intro id hid
    have htrackable := h.tracked id hid
    obtain ⟨-, -, -, -, -, -, hnone⟩ := htrackable
    exact hgrows.trackable rfl hnone (h.tracked id hid)
  · exact fun id projection hget => hgrows.absorbed (h.absorbed id projection hget)
  · exact fun id projection hget => hgrows.spawned (h.spawned id projection hget)
  · exact fun hsome => hgrows.hasShutDown (h.shutdown hsome)

theorem linked_reopen (h : s.Linked) : (s.reopen id).Linked :=
  { h with
    intents := h.keeps rfl
    canceled := fun other hother => h.canceled other (Finset.mem_of_mem_erase hother) }

theorem linked_track {ids : List String} (h : s.Linked) (hids : ∀ id ∈ ids, s.Trackable id) :
    (s.track ids).Linked :=
  { h with
    intents := h.keeps rfl
    tracked := by
      intro id hid
      rcases Finset.mem_union.mp hid with hid | hid
      · exact h.tracked id hid
      · exact hids id (List.mem_toFinset.mp hid) }

theorem linked_projectAbsorption (h : s.Linked) (habsorbed : s.Absorbed id projection) :
    (s.projectAbsorption id projection).Linked := by
  have hgrows : s.Grows (s.projectAbsorption id projection) := grows_of_eq rfl rfl
  refine { h with intents := h.keeps rfl, tracked := ?_, absorbed := ?_ }
  · intro other hother
    obtain ⟨hne, hmem⟩ := Finset.mem_erase.mp hother
    obtain ⟨intent, receipt, hintent, hreceipt, habsorption, hstatus, hnone⟩ := h.tracked other hmem
    refine hgrows.trackable rfl ?_ (h.tracked other hmem)
    exact (HashMap.get_insert_ne hne).trans hnone
  · intro other kept hget
    change (s.absorptionProjections.insert id projection).get other = some kept at hget
    rw [HashMap.get_insert_apply] at hget
    split_ifs at hget with hid
    · cases hget
      rw [hid]
      exact habsorbed
    · exact h.absorbed other kept hget

theorem linked_projectSpawn {projection : SpawnProjection} (h : s.Linked)
    (hspawned : s.Spawned id projection) : (s.projectSpawn id projection).Linked :=
  { h with
    intents := h.keeps rfl
    spawned := by
      intro other kept hget
      change (s.spawnProjections.insert id projection).get other = some kept at hget
      rw [HashMap.get_insert_apply] at hget
      split_ifs at hget with hid
      · cases hget
        rw [hid]
        exact hspawned
      · exact h.spawned other kept hget }

/-! ### Receipts -/

inductive Acknowledged (s : LifecycleState) (intent : LifecycleIntent) (receipt : LifecycleReceipt) :
    LifecycleState → Prop
  | rescued {spend : SurvivalSpend} (hstatus : receipt.status = .succeeded)
      (haction : intent.action = .spendForSurvival spend) :
      Acknowledged s intent receipt ((s.rescue intent.actionId spend.judgmentId).receive receipt)
  | shutDown {tentacleId judgmentId : String} {afterActionId : Option String}
      (hstatus : receipt.status = .succeeded)
      (haction : intent.action = .shutdown tentacleId judgmentId afterActionId)
      (hopen : receipt.actionId ∉ s.canceledActionIds) :
      Acknowledged s intent receipt
        { s.receive receipt with shutdownCompletedAtMs := some receipt.completedAtMs }
  | tracked (htracks : s.tracks intent receipt = true) :
      Acknowledged s intent receipt ((s.receive receipt).track [intent.actionId])
  | kept (hspend : receipt.status = .succeeded → intent.action.isSpend = false) :
      Acknowledged s intent receipt (s.receive receipt)

theorem tracks_iff : s.tracks intent receipt = true ↔ receipt.status = .succeeded ∧
    s.isPendingAbsorption intent.action = true ∧ receipt.actionId ∉ s.canceledActionIds := by
  unfold LifecycleState.tracks
  simp only [Bool.and_eq_true, decide_eq_true_eq, and_assoc]

theorem acknowledged (s : LifecycleState) (intent : LifecycleIntent) (receipt : LifecycleReceipt) :
    Acknowledged s intent receipt (s.acknowledge intent receipt) := by
  have htracks : s.tracks intent receipt = true → intent.action.isAbsorb = true := fun h =>
    ((isPendingAbsorption_iff).mp ((tracks_iff).mp h).2.1).1
  unfold LifecycleState.acknowledge LifecycleState.carryOut
  by_cases hstatus : receipt.status = .succeeded
  · rw [if_pos hstatus]
    cases haction : intent.action with
    | spendForSurvival spend =>
      rw [if_neg fun h => by rw [haction] at htracks; cases htracks h]
      exact .rescued hstatus haction
    | shutdown tentacleId judgmentId afterActionId =>
      rw [if_neg fun h => by rw [haction] at htracks; cases htracks h]
      dsimp only
      split_ifs with hcanceled
      · exact .kept fun _ => by rw [haction]; rfl
      · exact .shutDown hstatus haction hcanceled
    | absorb sourceId targetId judgmentId =>
      dsimp only
      split_ifs with h
      · exact .tracked h
      · exact .kept fun _ => by rw [haction]; rfl
    | spawn plan =>
      rw [if_neg fun h => by rw [haction] at htracks; cases htracks h]
      exact .kept fun _ => by rw [haction]; rfl
    | rewardVeniceKey tentacleId eventId binding =>
      rw [if_neg fun h => by rw [haction] at htracks; cases htracks h]
      exact .kept fun _ => by rw [haction]; rfl
    | rewardAcolyteContribution tentacleId eventId kind hunger binding =>
      rw [if_neg fun h => by rw [haction] at htracks; cases htracks h]
      exact .kept fun _ => by rw [haction]; rfl
  · rw [if_neg hstatus, if_neg fun h => hstatus ((tracks_iff).mp h).1]
    exact .kept fun h => absurd h hstatus

theorem grows_receive : s.Grows (s.receive receipt) := by
  refine ⟨fun _ _ hget => hget, fun id old hget => ?_, fun _ hmem => List.mem_append_left _ hmem⟩
  unfold LifecycleState.receipt LifecycleState.receive at *
  rw [receipt_append, hget, Option.some_or]

theorem receipt_receive (hnone : s.receipt receipt.actionId = none) :
    (s.receive receipt).receipt receipt.actionId = some receipt := by
  unfold LifecycleState.receipt LifecycleState.receive at *
  rw [receipt_append, hnone, if_pos rfl, Option.none_or]

theorem linked_receive (h : s.Linked) (hget : s.intents.get receipt.actionId = some intent)
    (hvalid : validateLifecycleReceipt intent receipt = .ok ())
    (hnone : s.receipt receipt.actionId = none) : (s.receive receipt).Linked := by
  have hgrows : s.Grows (s.receive receipt) := grows_receive
  refine { h with
    intents := h.keeps rfl, receipts := ?_, receiptIds := ?_, tracked := ?_, absorbed := ?_,
    spawned := ?_, shutdown := ?_ }
  · intro other hmem
    rcases List.mem_append.mp hmem with hmem | hmem
    · exact h.receipts other hmem
    · rw [List.mem_singleton.mp hmem]
      exact ⟨intent, hget, hvalid⟩
  · change ((s.receipts ++ [receipt]).map (·.actionId)).Nodup
    rw [List.map_append, List.map_singleton, ← List.concat_eq_append, List.nodup_concat]
    exact ⟨(receipt_none).mp hnone, h.receiptIds⟩
  · intro id hid
    obtain ⟨-, -, -, -, -, -, hprojection⟩ := h.tracked id hid
    exact hgrows.trackable rfl hprojection (h.tracked id hid)
  · exact fun id projection hget => hgrows.absorbed (h.absorbed id projection hget)
  · exact fun id projection hget => hgrows.spawned (h.spawned id projection hget)
  · exact fun hsome => hgrows.hasShutDown (h.shutdown hsome)

theorem mem_absorptionsOf : intent ∈ s.absorptionsOf judgmentId ↔
    (∃ key, s.intents.get key = some intent) ∧ intent.action.isAbsorb = true ∧
      intent.action.death = some judgmentId := by
  unfold LifecycleState.absorptionsOf
  rw [List.mem_filter, mem_sortedIntents, Bool.and_eq_true, decide_eq_true_eq]

/-- The rescue of the pending death leaves nothing to be projected. -/
theorem linked_rescue (h : s.Linked) (hdies : s.dies judgmentId = true) (actionId : String) :
    (s.rescue actionId judgmentId).Linked := by
  refine { h with intents := h.keeps rfl, pending := ?_, canceled := ?_, tracked := ?_ }
  · rintro _ ⟨⟩
  · intro id hid
    rcases Finset.mem_union.mp hid with hid | hid
    · exact h.canceled id (Finset.mem_of_mem_erase hid)
    · obtain ⟨hmem, -⟩ := List.mem_filter.mp (List.mem_toFinset.mp hid)
      exact (h.unreceipted.mp hmem).imp fun _ h => h.1
  · intro id hid
    obtain ⟨hmem, hcompleted⟩ := Finset.mem_sdiff.mp hid
    refine absurd ?_ hcompleted
    obtain ⟨intent, receipt, hintent, hreceipt, habsorption, hstatus, -⟩ := h.tracked id hmem
    obtain ⟨habsorb, judgment, hdeath, hdies'⟩ := (isPendingAbsorption_iff).mp habsorption
    obtain ⟨pending, hpending, rfl⟩ := (dies_iff).mp hdies
    obtain ⟨_, hpending', rfl⟩ := (dies_iff).mp hdies'
    rw [hpending] at hpending'
    cases hpending'
    have hkey := (h.intents id intent hintent).key
    rw [List.mem_toFinset, List.mem_map]
    refine ⟨intent, List.mem_filter.mpr ⟨(mem_absorptionsOf).mpr ⟨⟨id, hintent⟩, habsorb, hdeath⟩, ?_⟩,
      hkey.symm⟩
    rw [← hkey, hreceipt, Option.any_some, decide_eq_true hstatus]

/-- A burn that passes its checks is for the pending death. -/
theorem checkSuccess_dies {spend : SurvivalSpend} (hok : s.checkSuccess intent receipt = .ok ())
    (hstatus : receipt.status = .succeeded) (haction : intent.action = .spendForSurvival spend) :
    s.dies spend.judgmentId = true := by
  unfold LifecycleState.checkSuccess LifecycleState.checkSpend at hok
  rw [haction] at hok
  dsimp only at hok
  rw [if_pos hstatus] at hok
  simp only [except_bind_ok, exists_unit, okOr_ok, failIf_ok, not_or, not_not] at hok
  obtain ⟨-, pending, hpending, hjudgment, -⟩ := hok
  exact (dies_iff).mpr ⟨pending, hpending, hjudgment⟩

theorem linked_acknowledge (h : s.Linked) (hget : s.intents.get receipt.actionId = some intent)
    (hvalid : validateLifecycleReceipt intent receipt = .ok ())
    (hnone : s.receipt receipt.actionId = none)
    (hok : s.checkSuccess intent receipt = .ok ()) : (s.acknowledge intent receipt).Linked := by
  have hreceive := linked_receive h hget hvalid hnone
  have hkey := (h.intents _ _ hget).key
  have hcase := acknowledged s intent receipt
  generalize s.acknowledge intent receipt = s' at hcase ⊢
  cases hcase with
  | @rescued spend hstatus haction =>
    exact linked_receive (linked_rescue h (checkSuccess_dies hok hstatus haction) _) hget hvalid hnone
  | shutDown hstatus haction hopen =>
    refine { hreceive with intents := h.keeps rfl, shutdown := fun _ => ?_ }
    unfold LifecycleState.hasShutDown
    simp only [List.any_eq_true, Bool.and_eq_true, decide_eq_true_eq, Option.any_eq_true]
    refine ⟨receipt, List.mem_append_right _ (List.mem_singleton_self receipt), hstatus, intent, hget,
      ?_⟩
    rw [haction]
    rfl
  | tracked htracks =>
    obtain ⟨hstatus, habsorption, -⟩ := (tracks_iff).mp htracks
    refine linked_track hreceive fun id hid => ?_
    rw [List.mem_singleton.mp hid, ← hkey]
    refine ⟨intent, receipt, hget, receipt_receive hnone, habsorption, hstatus, ?_⟩
    by_contra hprojected
    obtain ⟨projection, hprojection⟩ := Option.ne_none_iff_exists'.mp hprojected
    obtain ⟨-, old, -, hreceipt, -⟩ := h.absorbed _ projection hprojection
    rw [hnone] at hreceipt
    cases hreceipt
  | kept hspend => exact hreceive

theorem linked_apply (h : s.Linked) {m : Move} (hm : m.Justified s) : (m.apply s).Linked := by
  cases m with
  | bump => exact linked_bumped h
  | setAutoSpawn enabled => exact linked_setAutoSpawn h enabled
  | schedule pending => exact linked_schedule h hm.1 hm.2.1 hm.2.2
  | retire judgmentId => exact linked_retire h hm.1 hm.2
  | offer intent =>
    obtain ⟨hadmits, hoffer⟩ := hm
    refine linked_addIntent h hadmits ?_
    cases haction : intent.action with
    | shutdown tentacleId judgmentId afterActionId =>
      rw [haction] at hoffer
      exact hoffer.2
    | _ => rfl
  | enqueue intent =>
    obtain ⟨hadmits, -, hshutdown⟩ := hm
    refine linked_addIntent h hadmits ?_
    cases haction : intent.action with
    | shutdown tentacleId judgmentId afterActionId =>
      rw [haction] at hshutdown
      cases hshutdown
    | _ => rfl
  | cancel ids => exact linked_cancel h fun id hid => (hm id hid).imp fun _ h => h.1
  | reopen id => exact linked_reopen h
  | track ids => exact linked_track h hm
  | acknowledge intent receipt =>
    obtain ⟨hget, hvalid, hnone, hok⟩ := hm
    exact linked_acknowledge h hget hvalid hnone hok
  | projectAbsorption id projection =>
    obtain ⟨intent, receipt, hget, hreceipt, habsorb, hstatus, htime, -⟩ := hm
    exact linked_projectAbsorption h ⟨intent, receipt, hget, hreceipt, habsorb, hstatus, htime⟩
  | projectSpawn id projection =>
    obtain ⟨intent, receipt, hget, hreceipt, hspawn, hstatus, htime, hmetrics, -⟩ := hm
    exact linked_projectSpawn h ⟨intent, receipt, hget, hreceipt, hspawn, hstatus, htime, hmetrics⟩

/-! ## Validation -/

/-- The token transaction that a receipt has consumed. -/
def LifecycleState.consumedBy (s : LifecycleState) (receipt : LifecycleReceipt) : Option String :=
  (s.intents.get receipt.actionId).bind fun intent => intent.consumes receipt

/-- The token transactions consumed so far. -/
def LifecycleState.consumed (s : LifecycleState) : List String :=
  s.receipts.filterMap s.consumedBy

theorem validateReceipt_ok {seen' : Finset String × Finset String} :
    s.validateReceipt seen receipt = .ok seen' ↔ isHexOf 64 receipt.actionId = true ∧
      (∃ intent, s.intents.get receipt.actionId = some intent ∧
        validateLifecycleReceipt intent receipt = .ok ()) ∧ receipt.actionId ∉ seen.1 ∧
      (∀ hash, s.consumedBy receipt = some hash → hash ∉ seen.2) ∧
      seen' = (insert receipt.actionId seen.1,
        (s.consumedBy receipt).elim seen.2 (insert · seen.2)) := by
  unfold LifecycleState.validateReceipt LifecycleState.consumedBy
  simp only [except_bind_ok, exists_unit, validateSha256_ok, okOr_ok, failIf_ok, except_pure_ok]
  constructor
  · rintro ⟨hhex, intent, hget, hfresh, hvalid, hunused, rfl⟩
    rw [hget, Option.bind_some]
    refine ⟨hhex, ⟨intent, rfl, hvalid⟩, hfresh, fun hash hhash hmem => hunused ?_, rfl⟩
    rw [hhash, Option.any_some, decide_eq_true hmem]
  · rintro ⟨hhex, ⟨intent, hget, hvalid⟩, hfresh, hunused, rfl⟩
    rw [hget, Option.bind_some] at hunused ⊢
    refine ⟨hhex, intent, rfl, hfresh, hvalid, fun hany => ?_, rfl⟩
    simp only [Option.any_eq_true, decide_eq_true_eq] at hany
    obtain ⟨hash, hhash, hmem⟩ := hany
    exact hunused hash hhash hmem

/-- The loop passes when every receipt does, and no action and no transaction repeats. -/
theorem validateReceipts_ok {receipts : List LifecycleReceipt} :
    (∃ seen', receipts.foldlM s.validateReceipt seen = .ok seen') ↔
      (∀ receipt ∈ receipts, isHexOf 64 receipt.actionId = true ∧
        ∃ intent, s.intents.get receipt.actionId = some intent ∧
          validateLifecycleReceipt intent receipt = .ok ()) ∧
      ((receipts.map (·.actionId)).Nodup ∧ ∀ id ∈ receipts.map (·.actionId), id ∉ seen.1) ∧
      (receipts.filterMap s.consumedBy).Nodup ∧
        ∀ hash ∈ receipts.filterMap s.consumedBy, hash ∉ seen.2 := by
  induction receipts generalizing seen with
  | nil => simp [pure, Except.pure]
  | cons receipt receipts ih =>
    rw [List.foldlM_cons]
    simp only [except_bind_ok, validateReceipt_ok]
    rw [List.forall_mem_cons, List.map_cons, List.nodup_cons, List.forall_mem_cons]
    constructor
    · rintro ⟨seen', _, ⟨hhex, hintent, hfresh, hunused, rfl⟩, hrest⟩
      obtain ⟨hall, ⟨hnodup, hids⟩, hnodup', hhashes⟩ := ih.mp ⟨seen', hrest⟩
      refine ⟨⟨⟨hhex, hintent⟩, hall⟩, ⟨⟨?_, hnodup⟩, hfresh, ?_⟩, ?_⟩
      · exact fun hmem => hids _ hmem (Finset.mem_insert_self ..)
      · exact fun id hmem hseen => hids id hmem (Finset.mem_insert_of_mem hseen)
      · cases hconsumed : s.consumedBy receipt with
        | none =>
          rw [List.filterMap_cons_none hconsumed]
          rw [hconsumed] at hhashes
          exact ⟨hnodup', hhashes⟩
        | some hash =>
          rw [List.filterMap_cons_some hconsumed, List.nodup_cons, List.forall_mem_cons]
          rw [hconsumed] at hhashes
          refine ⟨⟨fun hmem => ?_, hnodup'⟩, hunused hash hconsumed, fun other hmem hseen => ?_⟩
          · exact hhashes hash hmem (Finset.mem_insert_self ..)
          · exact hhashes other hmem (Finset.mem_insert_of_mem hseen)
    · rintro ⟨⟨⟨hhex, hintent⟩, hall⟩, ⟨⟨hnew, hnodup⟩, hfresh, hids⟩, hnodup', hhashes⟩
      have hunused : ∀ hash, s.consumedBy receipt = some hash → hash ∉ seen.2 := by
        intro hash hconsumed
        exact hhashes hash (List.mem_filterMap.mpr ⟨receipt, List.mem_cons_self, hconsumed⟩)
      have hrest : ∃ seen', receipts.foldlM s.validateReceipt (insert receipt.actionId seen.1,
          (s.consumedBy receipt).elim seen.2 (insert · seen.2)) = .ok seen' := by
        refine ih.mpr ⟨hall, ⟨hnodup, fun id hmem hseen => ?_⟩, ?_⟩
        · rcases Finset.mem_insert.mp hseen with rfl | hseen
          · exact hnew hmem
          · exact hids id hmem hseen
        · cases hconsumed : s.consumedBy receipt with
          | none =>
            rw [List.filterMap_cons_none hconsumed] at hnodup' hhashes
            exact ⟨hnodup', hhashes⟩
          | some hash =>
            rw [List.filterMap_cons_some hconsumed, List.nodup_cons] at hnodup'
            rw [List.filterMap_cons_some hconsumed, List.forall_mem_cons] at hhashes
            refine ⟨hnodup'.2, fun other hmem hseen => ?_⟩
            rcases Finset.mem_insert.mp hseen with rfl | hseen
            · exact hnodup'.1 hmem
            · exact hhashes.2 other hmem hseen
      obtain ⟨seen', hrest⟩ := hrest
      exact ⟨seen', _, ⟨hhex, hintent, hfresh, hunused, rfl⟩, hrest⟩

theorem validateIntent_ok : s.validateIntent id intent = .ok () ↔ s.Keeps id intent := by
  unfold LifecycleState.validateIntent
  simp only [except_bind_ok, exists_unit, validateSha256_ok, failIf_ok, not_not]
  constructor
  · rintro ⟨-, hkey, hvalid, canonical, hcanonical, rfl, hdependency⟩
    exact ⟨hkey, hvalid, hcanonical, hdependency⟩
  · rintro ⟨hkey, hvalid, hcanonical, hdependency⟩
    exact ⟨isHexOf_lifecycleActionId hcanonical, hkey, hvalid, id, hcanonical, rfl, hdependency⟩

theorem validateCanceled_ok : s.validateCanceled id = .ok () ↔
    isHexOf 64 id = true ∧ ∃ intent, s.intents.get id = some intent := by
  unfold LifecycleState.validateCanceled HashMap.contains
  simp only [except_check_ok, validateSha256_ok, failIf_ok, Bool.not_eq_true', Bool.not_eq_false,
    Option.isSome_iff_exists]

theorem validatePendingProjection_ok : s.validatePendingProjection id = .ok () ↔
    isHexOf 64 id = true ∧ s.Trackable id := by
  unfold LifecycleState.validatePendingProjection LifecycleState.Trackable HashMap.contains
  simp only [except_bind_ok, exists_unit, validateSha256_ok, okOr_ok, failIf_ok, not_or, not_not,
    Bool.not_eq_true', Bool.not_eq_false, Bool.not_eq_true, Option.isSome_eq_false_iff,
    Option.isNone_iff_eq_none]
  constructor
  · rintro ⟨hhex, intent, hintent, receipt, hreceipt, habsorption, hstatus, hnone⟩
    exact ⟨hhex, intent, receipt, hintent, hreceipt, habsorption, hstatus, hnone⟩
  · rintro ⟨hhex, intent, receipt, hintent, hreceipt, habsorption, hstatus, hnone⟩
    exact ⟨hhex, intent, hintent, receipt, hreceipt, habsorption, hstatus, hnone⟩

theorem validateAbsorptionProjection_ok :
    s.validateAbsorptionProjection id projection = .ok () ↔ isHexOf 64 id = true ∧
      s.Absorbed id projection ∧ id ∉ s.pendingAbsorptionProjectionActionIds := by
  unfold LifecycleState.validateAbsorptionProjection LifecycleState.Absorbed
  simp only [except_bind_ok, exists_unit, validateSha256_ok, okOr_ok, failIf_ok, not_or, not_not,
    Bool.not_eq_true', Bool.not_eq_false, not_lt]
  constructor
  · rintro ⟨hhex, intent, hintent, receipt, hreceipt, habsorb, hstatus, htime, hfree⟩
    exact ⟨hhex, ⟨intent, receipt, hintent, hreceipt, habsorb, hstatus, htime⟩, hfree⟩
  · rintro ⟨hhex, ⟨intent, receipt, hintent, hreceipt, habsorb, hstatus, htime⟩, hfree⟩
    exact ⟨hhex, intent, hintent, receipt, hreceipt, habsorb, hstatus, htime, hfree⟩

theorem created_le_completed (h : validateLifecycleReceipt intent receipt = .ok ()) :
    intent.createdAtMs ≤ receipt.completedAtMs := by
  unfold validateLifecycleReceipt at h
  simp only [except_check_ok, failIf_ok, not_lt] at h
  exact h.2.2.1

theorem validateSpawnProjection_ok {projection : SpawnProjection}
    (hreceipts : ∀ receipt ∈ s.receipts, ∃ intent, s.intents.get receipt.actionId = some intent ∧
        validateLifecycleReceipt intent receipt = .ok ()) :
    s.validateSpawnProjection id projection = .ok () ↔
      isHexOf 64 id = true ∧ s.Spawned id projection := by
  unfold LifecycleState.validateSpawnProjection LifecycleState.Spawned
  simp only [except_bind_ok, exists_unit, validateSha256_ok, okOr_ok, failIf_ok, not_or, not_not,
    Bool.not_eq_true', Bool.not_eq_false, not_lt]
  constructor
  · rintro ⟨hhex, intent, hintent, hspawn, receipt, hreceipt, hstatus, htime, -, hmetrics⟩
    exact ⟨hhex, intent, receipt, hintent, hreceipt, hspawn, hstatus, htime, hmetrics⟩
  · rintro ⟨hhex, intent, receipt, hintent, hreceipt, hspawn, hstatus, htime, hmetrics⟩
    refine ⟨hhex, intent, hintent, hspawn, receipt, hreceipt, hstatus, htime, ?_, hmetrics⟩
    obtain ⟨hmem, rfl⟩ := receipt_mem hreceipt
    obtain ⟨intent', hintent', hvalid⟩ := hreceipts receipt hmem
    rw [hintent] at hintent'
    cases hintent'
    rw [htime]
    exact created_le_completed hvalid

/-- A state is stored when its references lead where they should, no transaction is consumed twice,
and its revision has counted its log. -/
theorem validate_ok : s.validate = .ok () ↔ s.Linked ∧ s.consumed.Nodup ∧ s.logSize ≤ u64Max ∧
    s.logSize ≤ s.revision := by
  unfold LifecycleState.validate validateId LifecycleState.validatePendingDeath
  simp only [except_bind_ok, exists_unit, failIf_ok, not_not, Bool.not_eq_true', Bool.not_eq_false,
    forM_ok, Option.mem_toList, HashMap.forall_sortedPairs, mem_sorted, validateSha256_ok,
    exists_and_right, validateReceipts_ok, validateIntent_ok, validateCanceled_ok,
    validatePendingProjection_ok, validateAbsorptionProjection_ok, not_lt, not_and, Finset.notMem_empty, not_false_eq_true,
    implies_true, and_true]
  constructor
  · rintro ⟨hschema, htentacle, hpending, hintents, ⟨hreceipts, hids, hconsumed⟩, hcanceled, htracked,
      habsorbed, hspawned, hshutdown, hfits, hcounted⟩
    have hreceipts' := fun receipt hmem => (hreceipts receipt hmem).2
    refine ⟨⟨hschema, htentacle, hpending, hintents, hreceipts', hids,
      fun id hid => (hcanceled id hid).2, fun id hid => (htracked id hid).2,
      fun id projection hget => (habsorbed id projection hget).2.1, fun id projection hget => ?_,
      hshutdown⟩, hconsumed, hfits, hcounted⟩
    exact ((validateSpawnProjection_ok hreceipts').mp (hspawned id projection hget)).2
  · rintro ⟨h, hconsumed, hfits, hcounted⟩
    have hhex : ∀ id intent, s.intents.get id = some intent → isHexOf 64 id = true :=
      fun id intent hget => isHexOf_lifecycleActionId (h.intents id intent hget).canonical
    refine ⟨h.schema, h.tentacle, h.pending, h.intents, ⟨fun receipt hmem => ?_, h.receiptIds,
      hconsumed⟩, fun id hid => ?_, fun id hid => ?_, fun id projection hget => ?_,
      fun id projection hget => ?_, h.shutdown, hfits, hcounted⟩
    · obtain ⟨intent, hget, hvalid⟩ := h.receipts receipt hmem
      exact ⟨hhex _ _ hget, intent, hget, hvalid⟩
    · obtain ⟨intent, hget⟩ := h.canceled id hid
      exact ⟨hhex _ _ hget, intent, hget⟩
    · have htrackable := h.tracked id hid
      obtain ⟨intent, -, hget, -⟩ := h.tracked id hid
      exact ⟨hhex _ _ hget, htrackable⟩
    · obtain ⟨intent, -, hintent, -⟩ := h.absorbed id projection hget
      refine ⟨hhex _ _ hintent, h.absorbed id projection hget, fun hid => ?_⟩
      obtain ⟨-, -, -, -, -, -, hnone⟩ := h.tracked id hid
      rw [hget] at hnone
      cases hnone
    · obtain ⟨intent, -, hintent, -⟩ := h.spawned id projection hget
      exact (validateSpawnProjection_ok h.receipts).mpr
        ⟨hhex _ _ hintent, h.spawned id projection hget⟩

end Cthuwu.Evolution
