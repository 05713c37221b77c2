import Cthuwu.Evolution.Storable

/-!
# Rescue and shutdown

A survival burn that an executor proves rescues the pending death, whenever the proof comes. Nothing
that was to be done for a rescued death is due again (`Settled`), and its shutdown is not the one that
has ended the process, as long as the death is not scheduled or absorbed anew and its shutdown has not
come first (`rescue_excludes_shutdown`). At any time a death has at most one spend without a receipt.
-/

namespace Cthuwu.Evolution

open Council Moves

variable {s : LifecycleState} {intent intent' : LifecycleIntent} {receipt : LifecycleReceipt}
  {id judgmentId : String} {action : LifecycleAction}

/-- A survival burn for this death has succeeded. -/
def LifecycleState.rescued (s : LifecycleState) (judgmentId : String) : Bool :=
  s.receipts.any fun receipt => receipt.status = .succeeded &&
    (s.intents.get receipt.actionId).any fun intent => intent.action.spendsFor judgmentId

/-- Nothing of a rescued death is due, and it is no longer pending. -/
structure LifecycleState.Settled (s : LifecycleState) : Prop where
  canceled : ∀ judgmentId, s.rescued judgmentId = true → ∀ id intent,
    s.intents.get id = some intent → intent.action.death = some judgmentId →
      s.receipt id = none → id ∈ s.canceledActionIds
  ended : ∀ judgmentId, s.rescued judgmentId = true → s.dies judgmentId = false

/-- A death has at most one spend without a receipt. -/
def LifecycleState.SpendsOnce (s : LifecycleState) : Prop :=
  ∀ judgmentId intent intent', (∃ id, s.intents.get id = some intent) →
    (∃ id, s.intents.get id = some intent') → intent.action.spendsFor judgmentId = true →
      intent'.action.spendsFor judgmentId = true → s.receipt intent.actionId = none →
        s.receipt intent'.actionId = none → intent = intent'

/-! ## Actions of a death -/

theorem death_of_spendsFor (h : action.spendsFor judgmentId = true) :
    action.isSpend = true ∧ action.death = some judgmentId := by
  unfold LifecycleAction.spendsFor at h
  rwa [Bool.and_eq_true, decide_eq_true_eq] at h

theorem isShutdown_of_isSpend (h : action.isSpend = true) : action.isShutdown = false := by
  cases action <;> first | rfl | cases h

section Runs

variable [Hashing] {request : Request} {m : Move}

/-- Only actions of the pending death are offered. -/
theorem dies_of_canOffer (h : s.CanOffer action) (hdeath : action.death = some judgmentId) :
    s.dies judgmentId = true := by
  cases action with
  | spendForSurvival spend =>
    cases hdeath
    exact h.1
  | absorb sourceId targetId judgmentId =>
    cases hdeath
    exact h
  | shutdown tentacleId judgmentId afterActionId =>
    cases hdeath
    exact h.1
  | _ => cases hdeath

theorem endsWith_of_death (h : s.Linked) (hget : s.intents.get id = some intent)
    (hdeath : intent.action.death = some judgmentId) :
    intent.action.endsWith judgmentId ((s.absorptionsOf judgmentId).map (·.actionId)) = true := by
  have hdependency := (h.intents id intent hget).dependency
  cases haction : intent.action with
  | spendForSurvival spend =>
    rw [haction] at hdeath
    exact decide_eq_true (Option.some.inj hdeath)
  | absorb sourceId targetId judgment =>
    rw [haction] at hdeath
    exact decide_eq_true (Option.some.inj hdeath)
  | shutdown tentacleId judgment afterActionId =>
    rw [haction] at hdeath hdependency
    obtain rfl : judgment = judgmentId := Option.some.inj hdeath
    unfold LifecycleAction.endsWith
    simp only [Bool.and_eq_true, decide_true, true_and]
    cases afterActionId with
    | none => rfl
    | some dependencyId =>
      unfold LifecycleState.validateDependency at hdependency
      simp only [except_bind_ok, okOr_ok, failIf_ok, Bool.not_eq_true', Bool.not_eq_false]
        at hdependency
      obtain ⟨dependency, hdependency, habsorbs⟩ := hdependency
      rw [Option.all_some, List.contains_iff_mem, (h.intents _ _ hdependency).key]
      refine List.mem_map_of_mem (mem_absorptionsOf.mpr ⟨⟨_, hdependency⟩, ?_⟩)
      cases hdepends : dependency.action with
      | absorb source target judgment' =>
        rw [hdepends] at habsorbs
        unfold LifecycleAction.absorbs at habsorbs
        rw [Bool.and_eq_true, decide_eq_true_eq, decide_eq_true_eq] at habsorbs
        exact ⟨rfl, congrArg some habsorbs.2⟩
      | _ =>
        rw [hdepends] at habsorbs
        cases habsorbs
  | _ =>
    rw [haction] at hdeath
    cases hdeath

/-! ## Rescues -/

theorem rescued_of_grows {s' : LifecycleState} (h : s.Linked) (hgrows : s.Grows s')
    (hreceipts : s'.receipts = s.receipts) : s'.rescued judgmentId = s.rescued judgmentId := by
  unfold LifecycleState.rescued
  rw [hreceipts, Bool.eq_iff_iff, List.any_eq_true, List.any_eq_true]
  refine exists_congr fun receipt => and_congr_right fun hmem => ?_
  obtain ⟨intent, hget, -⟩ := h.receipts receipt hmem
  rw [hget, hgrows.intents _ _ hget]

theorem rescued_receive (hget : s.intents.get receipt.actionId = some intent) :
    (s.receive receipt).rescued judgmentId = true ↔ s.rescued judgmentId = true ∨
      receipt.status = .succeeded ∧ intent.action.spendsFor judgmentId = true := by
  unfold LifecycleState.rescued LifecycleState.receive
  rw [List.any_append, List.any_cons, List.any_nil, Bool.or_false, hget, Option.any_some,
    Bool.or_eq_true, Bool.and_eq_true, decide_eq_true_eq]

/-- Only receipts rescue. -/
theorem rescued_apply (h : s.Linked) (hm : m.Justified s)
    (hother : ∀ intent receipt, m ≠ .acknowledge intent receipt) :
    (m.apply s).rescued judgmentId = s.rescued judgmentId := by
  cases m with
  | acknowledge intent receipt => exact absurd rfl (hother intent receipt)
  | offer intent => exact rescued_of_grows h (grows_addIntent hm.1.fresh) rfl
  | enqueue intent => exact rescued_of_grows h (grows_addIntent hm.1.fresh) rfl
  | _ => rfl

/-- Keeping a receipt that rescues nobody leaves less to be canceled. -/
theorem settled_receive (hs : s.Settled) (hget : s.intents.get receipt.actionId = some intent)
    (hspend : receipt.status = .succeeded → intent.action.isSpend = false) :
    (s.receive receipt).Settled := by
  have hrescued : ∀ judgmentId, (s.receive receipt).rescued judgmentId = true →
      s.rescued judgmentId = true := by
    intro judgmentId hrescued
    rcases (rescued_receive hget).mp hrescued with hrescued | ⟨hstatus, hspends⟩
    · exact hrescued
    · have htrue := (death_of_spendsFor hspends).1
      rw [hspend hstatus] at htrue
      cases htrue
  refine ⟨fun judgmentId hresc id intent hget' hdeath hnone => ?_,
    fun judgmentId hresc => hs.ended judgmentId (hrescued judgmentId hresc)⟩
  refine hs.canceled judgmentId (hrescued judgmentId hresc) id intent hget' hdeath ?_
  rw [receipt_none] at hnone ⊢
  exact fun hmem => hnone (List.map_append ▸ List.mem_append_left _ hmem)

/-- A rescue cancels everything else that its death still had to do. -/
theorem settled_rescue (h : s.Linked) (hs : s.Settled) {spend : SurvivalSpend}
    (hget : s.intents.get receipt.actionId = some intent)
    (haction : intent.action = .spendForSurvival spend) :
    ((s.rescue intent.actionId spend.judgmentId).receive receipt).Settled := by
  have hkey := (h.intents _ _ hget).key
  refine ⟨fun judgmentId hrescued id other hother hdeath hnone => ?_, fun _ _ => rfl⟩
  obtain ⟨hfresh, hne⟩ : s.receipt id = none ∧ id ≠ intent.actionId := by
    rw [receipt_none] at hnone ⊢
    refine ⟨fun hmem => hnone (List.map_append ▸ List.mem_append_left _ hmem), ?_⟩
    rintro rfl
    exact hnone (List.mem_map.mpr ⟨receipt, List.mem_append_right _ List.mem_cons_self, hkey⟩)
  have hrescues : s.rescued judgmentId = true ∨
      receipt.status = .succeeded ∧ intent.action.spendsFor judgmentId = true :=
    (rescued_receive (s := s.rescue intent.actionId spend.judgmentId) hget).mp hrescued
  refine Finset.mem_union.mpr ?_
  rcases hrescues with hbefore | ⟨-, hspends⟩
  · left
    exact Finset.mem_erase.mpr ⟨hne, hs.canceled judgmentId hbefore id other hother hdeath hfresh⟩
  · right
    obtain ⟨-, hdeath'⟩ := death_of_spendsFor hspends
    rw [haction] at hdeath'
    obtain rfl : spend.judgmentId = judgmentId := Option.some.inj hdeath'
    refine List.mem_toFinset.mpr (List.mem_filter.mpr ⟨h.unreceipted.mpr ?_, decide_eq_true hne⟩)
    exact ⟨other, hother, endsWith_of_death h hother hdeath, hfresh⟩

theorem settled_acknowledge (h : s.Linked) (hs : s.Settled)
    (hget : s.intents.get receipt.actionId = some intent) :
    (s.acknowledge intent receipt).Settled := by
  have hcase := acknowledged s intent receipt
  generalize s.acknowledge intent receipt = s' at hcase ⊢
  cases hcase with
  | @rescued spend hstatus haction => exact settled_rescue h hs hget haction
  | shutDown hstatus haction hopen =>
    have hreceive := settled_receive hs hget fun _ => by rw [haction]; rfl
    exact ⟨hreceive.canceled, hreceive.ended⟩
  | tracked htracks =>
    have habsorb := (isPendingAbsorption_iff.mp (tracks_iff.mp htracks).2.1).1
    have hreceive := settled_receive hs hget fun _ => by
      cases haction : intent.action <;> rw [haction] at habsorb <;> first | rfl | cases habsorb
    exact ⟨hreceive.canceled, hreceive.ended⟩
  | kept hspend => exact settled_receive hs hget hspend

/-! ## Moves -/

/-- A call schedules and enqueues nothing for a rescued death. -/
structure Request.Spares (request : Request) (s : LifecycleState) : Prop where
  schedules : ∀ pending, request.schedules = some pending → (Move.schedule pending).Justified s →
    s.rescued pending.judgmentId = false
  enqueues : ∀ intent, request.enqueues = some intent.action → s.Admits intent →
    ∀ judgmentId, intent.action.death = some judgmentId → s.rescued judgmentId = false

/-- A new intent is not one of a rescued death. -/
theorem settled_addIntent (h : s.Linked) (hs : s.Settled)
    (hfresh : s.intents.get intent.actionId = none)
    (hspares : ∀ judgmentId, intent.action.death = some judgmentId →
      s.rescued judgmentId = false) : (s.addIntent intent).Settled := by
  have hrescued : ∀ judgmentId, (s.addIntent intent).rescued judgmentId = true →
      s.rescued judgmentId = true := fun judgmentId hresc =>
    (rescued_of_grows h (grows_addIntent hfresh) rfl).symm.trans hresc
  refine ⟨fun judgmentId hresc id other hget hdeath hnone => ?_,
    fun judgmentId hresc => hs.ended judgmentId (hrescued judgmentId hresc)⟩
  change (s.intents.insert intent.actionId intent).get id = some other at hget
  rw [HashMap.get_insert_apply] at hget
  split_ifs at hget with hid
  · cases hget
    have hresc := hrescued judgmentId hresc
    rw [hspares judgmentId hdeath] at hresc
    cases hresc
  · exact hs.canceled judgmentId (hrescued judgmentId hresc) id other hget hdeath hnone

theorem settled_apply (h : s.Linked) (hs : s.Settled) (hm : m.Justified s)
    (hkind : request.Does m) (hspares : request.Spares s) : (m.apply s).Settled := by
  cases m with
  | schedule pending =>
    refine ⟨hs.canceled, fun judgmentId hrescued => ?_⟩
    refine decide_eq_false ?_
    rintro rfl
    have hresc : s.rescued pending.judgmentId = true := hrescued
    rw [hspares.schedules pending hkind hm] at hresc
    cases hresc
  | retire judgmentId =>
    refine ⟨fun judgmentId hrescued id intent hget hdeath hnone => ?_, fun _ _ => rfl⟩
    exact Finset.mem_union_left _ (hs.canceled judgmentId hrescued id intent hget hdeath hnone)
  | offer intent =>
    refine settled_addIntent h hs hm.1.fresh fun judgmentId hdeath => ?_
    by_contra hrescued
    rw [Bool.not_eq_false] at hrescued
    have hdies := dies_of_canOffer hm.2 hdeath
    rw [hs.ended judgmentId hrescued] at hdies
    cases hdies
  | enqueue intent =>
    exact settled_addIntent h hs hm.1.fresh (hspares.enqueues intent hkind hm.1)
  | cancel actionIds =>
    refine ⟨fun judgmentId hrescued id intent hget hdeath hnone => ?_, hs.ended⟩
    exact Finset.mem_union_left _ (hs.canceled judgmentId hrescued id intent hget hdeath hnone)
  | reopen actionId =>
    refine ⟨fun judgmentId hrescued id intent hget hdeath hnone => ?_, hs.ended⟩
    refine Finset.mem_erase.mpr ⟨?_, hs.canceled judgmentId hrescued id intent hget hdeath hnone⟩
    rintro rfl
    obtain ⟨spend, judgment, hspend, hspends, hdies⟩ := hm
    obtain rfl : spend = intent := Option.some.inj (hspend.symm.trans hget)
    obtain ⟨-, hdeath'⟩ := death_of_spendsFor hspends
    obtain rfl : judgment = judgmentId := Option.some.inj (hdeath'.symm.trans hdeath)
    rw [hs.ended judgment hrescued] at hdies
    cases hdies
  | acknowledge intent receipt => exact settled_acknowledge h hs hm.1
  | _ => exact ⟨hs.canceled, hs.ended⟩

/-- An intent that is new after a move was new before it. -/
theorem fresh_of_apply (h : (m.apply s).intents.get id = none) : s.intents.get id = none := by
  have hinsert : ∀ intent, (s.addIntent intent).intents.get id = none →
      s.intents.get id = none := by
    intro intent hget
    change (s.intents.insert intent.actionId intent).get id = none at hget
    rw [HashMap.get_insert_apply] at hget
    split_ifs at hget
    exact hget
  cases m with
  | offer intent => exact hinsert intent h
  | enqueue intent => exact hinsert intent h
  | acknowledge intent receipt =>
    change (s.acknowledge intent receipt).intents.get id = none at h
    have hcase := acknowledged s intent receipt
    generalize s.acknowledge intent receipt = s' at hcase h
    cases hcase <;> exact h
  | _ => exact h

/-- What a call spares, it spares until it returns. -/
theorem spares_apply (h : s.Linked) (hm : m.Justified s) (hkind : request.Does m)
    (hspares : request.Spares s) : request.Spares (m.apply s) := by
  by_cases hacknowledge : ∃ intent receipt, m = .acknowledge intent receipt
  · obtain ⟨intent, receipt, rfl⟩ := hacknowledge
    obtain rfl : request = .acknowledgeAction receipt := hkind
    refine ⟨fun _ hschedules => ?_, fun _ henqueues => ?_⟩
    · cases hschedules
    · cases henqueues
  · have hrescued {judgmentId : String} := @rescued_apply s judgmentId _ m h hm
      fun intent receipt heq => hacknowledge ⟨intent, receipt, heq⟩
    refine ⟨fun pending hschedules hschedule => ?_, fun intent henqueues hadmits judgmentId hdeath => ?_⟩
    · rw [hrescued]
      refine hspares.schedules pending hschedules ⟨?_, hschedule.2⟩
      have hnone := hschedule.1
      cases m with
      | schedule other => cases hnone
      | retire judgmentId =>
        obtain rfl : request = .retireLegacyDeathAsDormancy := hkind
        cases hschedules
      | acknowledge intent receipt => exact absurd ⟨intent, receipt, rfl⟩ hacknowledge
      | _ => exact hnone
    · rw [hrescued]
      exact hspares.enqueues intent henqueues
        ⟨fresh_of_apply hadmits.fresh, hadmits.valid, hadmits.canonical⟩ judgmentId hdeath

/-- A call that spares the rescued deaths leaves them settled, whether it returns or fails. -/
theorem settled_run (h : s.Linked) (hs : s.Settled) (hspares : request.Spares s) :
    (request.run.after s).Settled := by
  obtain ⟨ms, hperforms, hkind, -⟩ := run_does request h
  refine (hperforms.invariant (P := fun s => s.Linked ∧ s.Settled ∧ request.Spares s)
    ⟨h, hs, hspares⟩ fun s m hm ⟨h, hs, hspares⟩ hjustified => ⟨linked_apply h hjustified,
      settled_apply h hs hjustified (hkind m hm) hspares,
      spares_apply h hjustified (hkind m hm) hspares⟩).2.1

/-! ## Spends -/

/-- A new intent is no spend of a death that has one without a receipt. -/
theorem spendsOnce_addIntent (hs : s.SpendsOnce)
    (hnew : ∀ judgmentId, intent.action.spendsFor judgmentId = true → ∀ other,
      (∃ id, s.intents.get id = some other) → other.action.spendsFor judgmentId = true →
        s.receipt other.actionId ≠ none) : (s.addIntent intent).SpendsOnce := by
  have hkept : ∀ other, (∃ id, (s.addIntent intent).intents.get id = some other) →
      other = intent ∨ ∃ id, s.intents.get id = some other := by
    rintro other ⟨id, hget⟩
    change (s.intents.insert intent.actionId intent).get id = some other at hget
    rw [HashMap.get_insert_apply] at hget
    split_ifs at hget
    · exact .inl (Option.some.inj hget).symm
    · exact .inr ⟨id, hget⟩
  intro judgmentId first second hfirst hsecond hspends hspends' hnone hnone'
  rcases hkept first hfirst with hnew' | hfirst'
  · rcases hkept second hsecond with hnew'' | hsecond'
    · rw [hnew', hnew'']
    · rw [hnew'] at hspends
      exact absurd hnone' (hnew judgmentId hspends second hsecond' hspends')
  · rcases hkept second hsecond with hnew'' | hsecond'
    · rw [hnew''] at hspends'
      exact absurd hnone (hnew judgmentId hspends' first hfirst' hspends)
    · exact hs judgmentId first second hfirst' hsecond' hspends hspends' hnone hnone'

theorem unreceiptedSpend_none (h : s.unreceiptedSpend judgmentId = none)
    (hget : ∃ id, s.intents.get id = some intent)
    (hspends : intent.action.spendsFor judgmentId = true) : s.receipt intent.actionId ≠ none := by
  intro hnone
  have hfalse := List.find?_eq_none.mp h intent (mem_sortedIntents.mpr hget)
  rw [hspends, hnone] at hfalse
  exact hfalse rfl

theorem spendsOnce_apply (hs : s.SpendsOnce) (hm : m.Justified s) : (m.apply s).SpendsOnce := by
  cases m with
  | offer intent =>
    refine spendsOnce_addIntent hs fun judgmentId hspends other hother hspends' => ?_
    have hoffer := hm.2
    cases haction : intent.action with
    | spendForSurvival spend =>
      obtain ⟨-, hdeath⟩ := death_of_spendsFor hspends
      rw [haction] at hdeath hoffer
      obtain rfl : spend.judgmentId = judgmentId := Option.some.inj hdeath
      exact unreceiptedSpend_none hoffer.2 hother hspends'
    | _ =>
      rw [haction] at hspends
      cases hspends
  | enqueue intent =>
    refine spendsOnce_addIntent hs fun judgmentId hspends other hother hspends' => ?_
    have htrue := (death_of_spendsFor hspends).1
    rw [hm.2.1] at htrue
    cases htrue
  | acknowledge intent receipt =>
    have hreceive : (s.receive receipt).SpendsOnce := by
      intro judgmentId first second hfirst hsecond hspends hspends' hnone hnone'
      rw [receipt_none] at hnone hnone'
      refine hs judgmentId first second hfirst hsecond hspends hspends' ?_ ?_
      · exact receipt_none.mpr fun hmem => hnone (List.map_append ▸ List.mem_append_left _ hmem)
      · exact receipt_none.mpr fun hmem => hnone' (List.map_append ▸ List.mem_append_left _ hmem)
    change (s.acknowledge intent receipt).SpendsOnce
    have hcase := acknowledged s intent receipt
    generalize s.acknowledge intent receipt = s' at hcase ⊢
    cases hcase <;> exact hreceive
  | _ => exact hs

/-! ## Runs with restarts -/

/-- The death whose shutdown an acknowledgement carries out. -/
def LifecycleState.shutdownOf (s : LifecycleState) : Request → Option String
  | .acknowledgeAction receipt => (s.intents.get receipt.actionId).bind fun intent =>
    if receipt.status = .succeeded ∧ receipt.actionId ∉ s.canceledActionIds ∧
      intent.action.isShutdown then intent.action.death else none
  | _ => none

/-- A state, and the death whose shutdown has set `shutdownCompletedAtMs`. -/
structure Process where
  state : LifecycleState
  shutdownBy : Option String

/-- Make a call. The field is set when the receipt of a shutdown is kept. -/
def Process.call (p : Process) (request : Request) : Process where
  state := request.run.after p.state
  shutdownBy :=
    if (request.run.after p.state).shutdownCompletedAtMs = none then none
    else if (request.run.after p.state).receipts = p.state.receipts then p.shutdownBy
    else (p.state.shutdownOf request).or p.shutdownBy

/-- A running process, and what it has saved. -/
structure World where
  live : Process
  saved : Process

inductive Event
  | call (request : Request)
  | save
  | restart

def World.next (w : World) : Event → World
  | .call request => { w with live := w.live.call request }
  | .save => { w with saved := w.live }
  | .restart => { w with live := w.saved }

/-- Calls return or fail, and what is saved passes `validate`. -/
def rescueMachine (initial : LifecycleState) : Machine World Event where
  init := ⟨⟨initial, none⟩, ⟨initial, none⟩⟩
  Allowed
    | w, .save => w.live.state.validate = .ok ()
    | _, _ => True
  next := World.next

/-- A rescued death has nothing due, and the process has not been ended by its shutdown. -/
structure Process.Exclusive (p : Process) : Prop where
  notDue : ∀ judgmentId, p.state.rescued judgmentId = true → ∀ excluded intent,
    p.state.nextDueActionExcluding excluded = some intent → intent.action.death ≠ some judgmentId
  notShutDown : ∀ judgmentId, p.state.rescued judgmentId = true → p.shutdownBy ≠ some judgmentId

/-- A call spares the rescued deaths, and keeps no burn of a death whose shutdown has come first. -/
def Clear (w : World) : Event → Prop
  | .call request => request.Spares w.live.state ∧ ∀ intent receipt judgmentId,
      request = .acknowledgeAction receipt →
        (Move.acknowledge intent receipt).Justified w.live.state → receipt.status = .succeeded →
          intent.action.spendsFor judgmentId = true → w.live.shutdownBy ≠ some judgmentId
  | _ => True

/-! ## Exclusion -/

theorem rescued_other (h : s.Linked) (hother : ∀ receipt, request ≠ .acknowledgeAction receipt) :
    (request.run.after s).rescued judgmentId = s.rescued judgmentId := by
  obtain ⟨ms, hperforms, hkind, -⟩ := run_does request h
  refine (hperforms.invariant
    (P := fun s' => s'.Linked ∧ s'.rescued judgmentId = s.rescued judgmentId) ⟨h, rfl⟩
    fun s' m hm h' hjustified => ⟨linked_apply h'.1 hjustified, ?_⟩).2
  refine (rescued_apply h'.1 hjustified ?_).trans h'.2
  rintro intent receipt rfl
  exact hother receipt (hkind _ hm)

theorem rescued_acknowledge (hget : s.intents.get receipt.actionId = some intent) :
    (s.acknowledge intent receipt).rescued judgmentId = true ↔ s.rescued judgmentId = true ∨
      receipt.status = .succeeded ∧ intent.action.spendsFor judgmentId = true := by
  rw [← rescued_receive hget]
  have hcase := acknowledged s intent receipt
  generalize s.acknowledge intent receipt = s' at hcase ⊢
  cases hcase <;> rfl

theorem rescued_run (h : s.Linked) (hrescued : (request.run.after s).rescued judgmentId = true) :
    s.rescued judgmentId = true ∨ ∃ intent receipt, request = .acknowledgeAction receipt ∧
      (Move.acknowledge intent receipt).Justified s ∧ receipt.status = .succeeded ∧
        intent.action.spendsFor judgmentId = true := by
  by_cases hacknowledges : ∃ receipt, request = .acknowledgeAction receipt
  · obtain ⟨receipt, rfl⟩ := hacknowledges
    have hafter : (Request.acknowledgeAction receipt).run.after s =
        (acknowledgeAction receipt).after s := after_discard _
    rw [hafter] at hrescued
    by_cases hjustified : ∃ intent, (Move.acknowledge intent receipt).Justified s
    · obtain ⟨intent, hjustified⟩ := hjustified
      have hkept : (s.acknowledge intent receipt).rescued judgmentId = true := by
        rcases after_acknowledgeAction hjustified with hafter | hafter
        · rwa [hafter] at hrescued
        · rwa [hafter] at hrescued
      exact ((rescued_acknowledge hjustified.1).mp hkept).imp_right fun ⟨hstatus, hspends⟩ =>
        ⟨intent, receipt, rfl, hjustified, hstatus, hspends⟩
    · rw [not_exists] at hjustified
      rw [after_acknowledgeAction_refused hjustified] at hrescued
      exact .inl hrescued
  · rw [not_exists] at hacknowledges
    rw [rescued_other h hacknowledges] at hrescued
    exact .inl hrescued

theorem shutdownOf_some (h : s.shutdownOf request = some judgmentId) :
    ∃ intent receipt, request = .acknowledgeAction receipt ∧
      s.intents.get receipt.actionId = some intent ∧ receipt.actionId ∉ s.canceledActionIds ∧
        intent.action.isShutdown = true ∧ intent.action.death = some judgmentId := by
  cases request with
  | acknowledgeAction receipt =>
    obtain ⟨intent, hget, hdeath⟩ := Option.bind_eq_some_iff.mp h
    split_ifs at hdeath with hshutdown
    exact ⟨intent, receipt, rfl, hget, hshutdown.2.1, hshutdown.2.2, hdeath⟩
  | _ => cases h

/-- A call marks the shutdown that it carries out, or leaves the mark. -/
theorem shutdownBy_call {p : Process} (h : (p.call request).shutdownBy = some judgmentId) :
    p.shutdownBy = some judgmentId ∨ p.state.shutdownOf request = some judgmentId ∧
      (request.run.after p.state).receipts ≠ p.state.receipts := by
  unfold Process.call at h
  dsimp only at h
  split_ifs at h with hopen hkept
  · exact .inl h
  · cases hshutdown : p.state.shutdownOf request with
    | none =>
      rw [hshutdown, Option.none_or] at h
      exact .inl h
    | some judgment =>
      rw [hshutdown, Option.some_or] at h
      exact .inr ⟨h, hkept⟩

/-- A state that can go on : its references hold, its rescued deaths are settled and none of them
has ended the process. -/
structure Process.Sound (p : Process) : Prop where
  linked : p.state.Linked
  settled : p.state.Settled
  notShutDown : ∀ judgmentId, p.state.rescued judgmentId = true → p.shutdownBy ≠ some judgmentId

/-- A receipt that is new belongs to an action that had none. -/
theorem receipts_ne {receipt : LifecycleReceipt}
    (h : ((Request.acknowledgeAction receipt).run.after s).receipts ≠ s.receipts) :
    ∃ intent, (Move.acknowledge intent receipt).Justified s := by
  by_contra hjustified
  rw [not_exists] at hjustified
  have hafter : (Request.acknowledgeAction receipt).run.after s =
      (acknowledgeAction receipt).after s := after_discard _
  exact h (by rw [hafter, after_acknowledgeAction_refused hjustified])

theorem sound_call {w : World} (h : w.live.Sound) (hclear : Clear w (.call request)) :
    (w.live.call request).Sound := by
  obtain ⟨hspares, hburns⟩ := hclear
  refine ⟨linked_run h.linked, settled_run h.linked h.settled hspares,
    fun judgmentId hrescued hshutdown => ?_⟩
  rcases shutdownBy_call hshutdown with hbefore | ⟨hshuts, hne⟩
  · rcases rescued_run h.linked hrescued with hold | ⟨intent, receipt, hrequest, hkept⟩
    · exact h.notShutDown judgmentId hold hbefore
    · exact hburns intent receipt judgmentId hrequest hkept.1 hkept.2.1 hkept.2.2 hbefore
  · obtain ⟨intent, receipt, rfl, hget, hopen, hisShutdown, hdeath⟩ := shutdownOf_some hshuts
    obtain ⟨other, hjustified⟩ := receipts_ne hne
    rcases rescued_run h.linked hrescued with hold | ⟨burn, _, ⟨⟩, hjustified', -, hspends⟩
    · exact hopen (h.settled.canceled judgmentId hold _ intent hget hdeath hjustified.2.2.1)
    · obtain rfl : burn = intent := Option.some.inj (hjustified'.1.symm.trans hget)
      have hspend := (death_of_spendsFor hspends).1
      rw [isShutdown_of_isSpend hspend] at hisShutdown
      cases hisShutdown

theorem exclusive_of_sound {p : Process} (h : p.Sound) : p.Exclusive := by
  refine ⟨fun judgmentId hrescued excluded intent hdue hdeath => ?_, h.notShutDown⟩
  obtain ⟨hmem, hdue⟩ := List.mem_filter.mp (List.argmin_mem hdue)
  obtain ⟨key, hget⟩ := mem_sortedIntents.mp hmem
  obtain rfl := (h.linked.intents key intent hget).key
  unfold LifecycleState.isDue at hdue
  simp only [Bool.and_eq_true, Option.isNone_iff_eq_none, decide_eq_true_eq] at hdue
  exact hdue.1.1.2 (h.settled.canceled judgmentId hrescued _ intent hget hdeath hdue.1.1.1)

theorem sound_new {initial : LifecycleState} (hnew : IsNew initial) :
    (Process.mk initial none).Sound ∧ initial.SpendsOnce := by
  obtain ⟨tentacleId, autoSpawnEnabled, hnew⟩ := hnew
  have hlinked := linked_new hnew
  unfold LifecycleState.new at hnew
  simp only [except_check_ok, except_pure_ok] at hnew
  obtain ⟨-, rfl⟩ := hnew
  refine ⟨⟨hlinked, ⟨fun _ h => ?_, fun _ h => ?_⟩, fun _ h => ?_⟩, ?_⟩
  · cases h
  · cases h
  · cases h
  · rintro judgmentId intent intent' ⟨id, hget⟩
    cases hget

theorem spendsOnce_run (h : s.Linked) (hs : s.SpendsOnce) : (request.run.after s).SpendsOnce := by
  obtain ⟨ms, hperforms, -, -⟩ := run_does request h
  exact hperforms.invariant hs fun _ _ _ hs hjustified => spendsOnce_apply hs hjustified

/-- In every run a death has at most one spend without a receipt. Where every call is clear, a rescued
death has nothing due and has not ended the process. -/
theorem rescue_excludes_shutdown {initial : LifecycleState} (hnew : IsNew initial) :
    (∀ w, (rescueMachine initial).Reachable w → w.live.state.SpendsOnce) ∧
      ∀ w, ((rescueMachine initial).restrict Clear).Reachable w → w.live.Exclusive := by
  obtain ⟨hsound, hspends⟩ := sound_new hnew
  constructor
  · intro w h
    refine (h.invariant (P := fun w => (w.live.state.Linked ∧ w.live.state.SpendsOnce) ∧
      w.saved.state.Linked ∧ w.saved.state.SpendsOnce)
      ⟨⟨hsound.linked, hspends⟩, hsound.linked, hspends⟩ fun w event _ hw _ => ?_).1.2
    cases event with
    | call request => exact ⟨⟨linked_run hw.1.1, spendsOnce_run hw.1.1 hw.1.2⟩, hw.2⟩
    | save => exact ⟨hw.1, hw.1⟩
    | restart => exact ⟨hw.2, hw.2⟩
  · intro w h
    refine exclusive_of_sound (h.invariant (P := fun w => w.live.Sound ∧ w.saved.Sound)
      ⟨hsound, hsound⟩ fun w event _ hw hallowed => ?_).1
    cases event with
    | call request => exact ⟨sound_call hw.1 hallowed.2, hw.2⟩
    | save => exact ⟨hw.1, hw.1⟩
    | restart => exact ⟨hw.2, hw.2⟩

end Runs

/-! ## A shutdown before the burn -/

attribute [local instance] sampleHashing

def sampleBinding : SurvivalSpendBinding :=
  ⟨10000, 8453, 1, 2, 4, ⟨1, 0, 10000, "1"⟩⟩

def sampleBurn : LifecycleReceipt :=
  ⟨"56c67743e71c94ed897b78f74ec1e7acb88e63739913e96988ad7ecf89c79785", 3000, .succeeded, none, none,
    some ⟨8453, "0x" ++ sampleDigits 'a', 1, 1, 1, 2, 0, 4, ⟨1, 0, 10000, "1"⟩, .burn⟩, none, none⟩

def sampleShutdown : LifecycleReceipt :=
  ⟨"330f3a75799a2bf8d7c8190697275495983aa3710e8f9a7c111bb6dd07ecdc81", 2500, .succeeded,
    some "controller", none, none, none, none⟩

def sampleSchedule : Event :=
  .call (.scheduleDeath (sampleDigits '3') 0 2000 (some sampleBinding))

/-- The deadline passes, the shutdown is carried out, and then the burn is proved. -/
def sampleLate : List Event :=
  [sampleSchedule, .call (.reconcileExpiredDeath 2000 none),
    .call (.acknowledgeAction sampleShutdown), .call (.acknowledgeAction sampleBurn)]

def sampleRun (events : List Event) : World :=
  events.foldl (rescueMachine sampleState).next (rescueMachine sampleState).init

theorem sampleLate_run : (sampleRun sampleLate).live.state.rescued (sampleDigits '3') = true ∧
    (sampleRun sampleLate).live.shutdownBy = some (sampleDigits '3') := by
  decide +kernel

/-- The burn rescues a death whose shutdown has ended the process. -/
theorem late_burn_after_shutdown : ¬∀ initial, IsNew initial →
    ∀ w, (rescueMachine initial).Reachable w → w.live.Exclusive := by
  intro h
  obtain ⟨hrescued, hshutdown⟩ := sampleLate_run
  have hreachable : (rescueMachine sampleState).Reachable (sampleRun sampleLate) :=
    Machine.Reachable.run .init ⟨trivial, trivial, trivial, trivial, trivial⟩
  exact (h sampleState isNew_sampleState _ hreachable).notShutDown _ hrescued hshutdown

def sampleRescue : List Event :=
  [sampleSchedule, .call (.acknowledgeAction sampleBurn)]

theorem sampleRescue_run : (sampleRun sampleRescue).live.state.rescued (sampleDigits '3') = true ∧
    (sampleRun [sampleSchedule]).live.state.receipts = [] ∧
      (sampleRun [sampleSchedule]).live.shutdownBy = none := by
  decide +kernel

theorem clear_of_receipts {w : World} (hreceipts : w.live.state.receipts = [])
    (hshutdown : w.live.shutdownBy = none) (event : Event) : Clear w event := by
  have hrescued : ∀ judgmentId, w.live.state.rescued judgmentId = false := by
    intro judgmentId
    unfold LifecycleState.rescued
    rw [hreceipts, List.any_nil]
  cases event with
  | call request =>
    refine ⟨⟨fun _ _ _ => hrescued _, fun _ _ _ _ _ => hrescued _⟩, fun _ _ _ _ _ _ _ => ?_⟩
    rw [hshutdown]
    exact nofun
  | _ => exact trivial

theorem rescue_excludes_shutdown_sample :
    (sampleRun sampleRescue).live.state.rescued (sampleDigits '3') = true ∧
      (sampleRun sampleRescue).live.Exclusive := by
  obtain ⟨hrescued, hreceipts, hshutdown⟩ := sampleRescue_run
  refine ⟨hrescued, (rescue_excludes_shutdown isNew_sampleState).2 _ ?_⟩
  refine Machine.Reachable.run .init ⟨⟨trivial, ?_⟩, ⟨trivial, ?_⟩, trivial⟩
  · exact clear_of_receipts rfl rfl _
  · exact clear_of_receipts hreceipts hshutdown _

end Cthuwu.Evolution
