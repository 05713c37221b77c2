import Cthuwu.Growth.Lifecycle
import Cthuwu.Growth.Atomicity

/-!
# Referrals and payouts over a run

A run calls, crashes and restarts. A referrer that is set stays, a phase goes only forward, and the
gateway is invoked only for what a record is owed, never again after the record is confirmed
(`LifecycleSafe`). All of it holds as long as a restart finds on the disk what the records in
memory have reached : a call that fails in the middle may leave memory ahead of the disk, and the
restart then takes the record back.
-/

namespace Cthuwu.Growth

open Council TokenEye Fallible

section Runs

variable [Hashing]

/-- The bounty of a record with a referrer and a complete onboarding, with its own action. -/
def Invocation.IsOwed (s : GrowthSnapshot) (invocation : Invocation) : Prop :=
  ∃ r ∈ s.records, r.acolyte = invocation.acolyte ∧ r.referrer = some invocation.referrer ∧
    r.onboardingCompletedAtUnix ≠ none ∧ r.rewardActionId = some invocation.actionId ∧
    invocation.actionId = rewardActionId r.acolyte ∧ r.phase ≠ .confirmed

/-- What the invocations that follow have in common. -/
def World.Invokes (w w' : World) (P : Invocation → Prop) : Prop :=
  ∃ invocations, w'.runtime.invocations = w.runtime.invocations ++ invocations ∧
    ∀ invocation ∈ invocations, P invocation

/-- Every run of the machine goes forward, and pays only what is owed, once. -/
structure LifecycleSafe (M : Machine World Event) : Prop where
  advances : ∀ w, M.Reachable w → ∀ events, M.Admits w events →
    w.runtime.state.Advances (events.foldl M.next w).runtime.state
  owed : ∀ w, M.Reachable w → ∀ event, M.Allowed w event →
    w.Invokes (M.next w event) fun invocation => invocation.IsOwed w.runtime.state
  final : ∀ w, M.Reachable w → ∀ r ∈ w.runtime.state.records, r.phase = .confirmed →
    ∀ events, M.Admits w events →
      w.Invokes (events.foldl M.next w) fun invocation => invocation.acolyte ≠ r.acolyte

/-- A restart finds all that the records in memory have reached. -/
def Event.Saved (w : World) : Event → Prop
  | .call _ _ => True
  | .crash _ _ _ => w.runtime.state.Advances w.runtime.disk
  | .restart _ => w.runtime.state.Advances w.runtime.disk

/-! ## One event -/

/-- What holds while a call is made, from the runtime where it starts. -/
structure Calling (policy : Policy) (r₀ r : Runtime) : Prop where
  ordered : r.state.Ordered policy
  advances : r₀.state.Advances r.state
  saved : r₀.state.Advances r₀.disk → r₀.state.Advances r.disk
  invoked : ∃ invocations, r.invocations = r₀.invocations ++ invocations ∧
    ∀ invocation ∈ invocations, invocation.IsDue policy r₀.state

variable {policy : Policy} {r₀ r : Runtime} {m : Move} {request : Request}

theorem Calling.move (h : Calling policy r₀ r) (hjustified : m.Justified policy r)
    (hallowed : request.Allows policy r₀.state m) : Calling policy r₀ (m.apply policy r) := by
  refine ⟨ordered_move hjustified h.ordered, h.advances.trans (advances_move hjustified h.ordered),
    ?_, ?_⟩
  · cases m with
    | save => exact fun _ => h.advances
    | write _ | enroll _ _ _ | invoke _ => exact h.saved
  · cases m with
    | invoke invocation =>
      obtain ⟨invocations, heq, hdue⟩ := h.invoked
      refine ⟨invocations ++ [invocation], ?_, fun other hother => ?_⟩
      · change r.invocations ++ [invocation] = _
        rw [heq, List.append_assoc]
      · rcases List.mem_append.mp hother with hother | hother
        · exact hdue other hother
        · rw [List.mem_singleton.mp hother]
          exact hallowed.invokes invocation rfl
    | write _ | enroll _ _ _ | save => exact h.invoked

theorem calling_called {w : World} (h : w.runtime.state.Ordered w.policy) (request : Request)
    (faults : Faults) : Calling w.policy w.runtime (w.called request faults).runtime := by
  have hdoes : Does w.policy w.runtime.state request (request.run w.policy faults) w.runtime :=
    run_does request faults w.runtime
  obtain ⟨ms, hperforms, hallowed, -⟩ := hdoes
  refine hperforms.invariant (P := Calling w.policy w.runtime)
    ⟨h, .refl _, id, [], (List.append_nil _).symm, fun _ hi => absurd hi List.not_mem_nil⟩
    fun r m hm hr hjustified => hr.move hjustified (hallowed m hm)

variable {s : GrowthSnapshot} {invocation : Invocation} {reopening : Reopening}

theorem isOwed_of_isDue (h : s.Ordered policy) (hdue : invocation.IsDue policy s) :
    invocation.IsOwed s := by
  obtain ⟨r, hr, referrer, actionId, hphase, hreferrer, haction, rfl⟩ := hdue
  have hordered := h.records r hr
  have hsome : r.rewardActionId ≠ none := by
    rw [haction]
    exact Option.some_ne_none _
  refine ⟨r, hr, rfl, hreferrer, (hordered.late hsome).2, haction, hordered.own actionId haction, ?_⟩
  rcases hphase with hphase | hphase <;> rw [hphase] <;> decide

/-- Only amounts change when a snapshot is loaded. -/
theorem records_load {disk : GrowthSnapshot}
    (h : load reopening.policy reopening.fault disk reopening.now = .ok s) :
    s.records = disk.records.map (ReferralRecord.migrate reopening.policy) := by
  unfold load at h
  simp only [except_check_ok] at h
  obtain ⟨-, h⟩ := h
  split_ifs at h
  · simp only [except_check_ok] at h
    obtain ⟨-, h⟩ := h
    cases hfault : reopening.fault with
    | some error =>
      rw [hfault] at h
      cases h
    | none =>
      rw [hfault] at h
      obtain rfl := except_pure_ok.mp h
      rfl
  · obtain rfl := except_pure_ok.mp h
    rfl

/-- A valid snapshot is loaded as it is, under its own policy. -/
theorem load_valid (h : s.Valid policy) (fault : Option String) (now : ℕ) :
    load policy fault s now = .ok s := by
  have hearly : ∀ r ∈ s.records, r.isEarly = true →
      r.rewardAmountBaseUnits = policy.rewardAmountBaseUnits := by
    intro r hr hphase
    refine (h.records r hr).policy fun hconfirmed => ?_
    rw [ReferralRecord.isEarly, hconfirmed] at hphase
    cases hphase
  have hmigrate : s.records.map (ReferralRecord.migrate policy) = s.records := by
    refine (List.map_congr_left fun r hr => ?_).trans (List.map_id _)
    unfold ReferralRecord.migrate
    split_ifs with hphase
    · rw [← hearly r hr hphase]
      rfl
    · rfl
  unfold load
  dsimp only
  rw [hmigrate, validateSnapshot_ok.mpr h, if_neg]
  · rfl
  · rw [List.any_eq_true]
    rintro ⟨r, hr, hdue⟩
    rw [Bool.and_eq_true, decide_eq_true_eq] at hdue
    exact hdue.2 (hearly r hr hdue.1)

theorem advances_load {disk : GrowthSnapshot}
    (h : load reopening.policy reopening.fault disk reopening.now = .ok s) : disk.Advances s := by
  intro r hr
  refine ⟨r.migrate reopening.policy, ?_, ?_⟩
  · rw [records_load h]
    exact List.mem_map_of_mem hr
  · unfold ReferralRecord.migrate
    split_ifs
    · exact ⟨rfl, fun _ => rfl, fun _ => rfl, fun _ => rfl, r.phase.reaches_self⟩
    · exact .refl r

theorem reopened_of_load {w : World}
    (h : load reopening.policy reopening.fault w.runtime.disk reopening.now = .ok s) :
    w.CanReopen reopening ∧ (w.next (.restart reopening)).runtime.state = s := by
  constructor
  · unfold World.CanReopen
    rw [h]
    rfl
  · change (w.reopened reopening).runtime.state = s
    unfold World.reopened
    rw [h]

/-- A node that comes up again has what was on the disk, further along. -/
theorem reopened_spec {w : World} (h : w.CanReopen reopening) :
    (w.reopened reopening).runtime.state.Ordered (w.reopened reopening).policy ∧
      w.runtime.disk.Advances (w.reopened reopening).runtime.state ∧
      (w.reopened reopening).runtime.invocations = w.runtime.invocations := by
  unfold World.CanReopen at h
  unfold World.reopened
  cases hload : load reopening.policy reopening.fault w.runtime.disk reopening.now with
  | error error =>
    rw [hload] at h
    cases h
  | ok s => exact ⟨(valid_load hload).ordered, advances_load hload, rfl⟩

variable {now : ℕ} {w : World}

/-- What an event does to the records, and what is invoked in it. -/
theorem next_spec {event : Event} (h : w.runtime.state.Ordered w.policy)
    (hallowed : ((machine policy now).restrict Event.Saved).Allowed w event) :
    (w.next event).runtime.state.Ordered (w.next event).policy ∧
      w.runtime.state.Advances (w.next event).runtime.state ∧
      w.Invokes (w.next event) fun invocation => invocation.IsOwed w.runtime.state := by
  have howed : ∀ request faults,
      w.Invokes (w.called request faults) fun invocation => invocation.IsOwed w.runtime.state := by
    intro request faults
    obtain ⟨invocations, heq, hdue⟩ := (calling_called h request faults).invoked
    exact ⟨invocations, heq, fun invocation hi => isOwed_of_isDue h (hdue invocation hi)⟩
  cases event with
  | call request faults =>
    have hcalled := calling_called h request faults
    exact ⟨hcalled.ordered, hcalled.advances, howed request faults⟩
  | crash request faults reopening =>
    obtain ⟨hordered, hadvances, hinvoked⟩ := reopened_spec hallowed.1
    refine ⟨hordered, ((calling_called h request faults).saved hallowed.2).trans hadvances, ?_⟩
    obtain ⟨invocations, heq, hi⟩ := howed request faults
    exact ⟨invocations, hinvoked.trans heq, hi⟩
  | restart reopening =>
    obtain ⟨hordered, hadvances, hinvoked⟩ := reopened_spec hallowed.1
    exact ⟨hordered, hallowed.2.trans hadvances, [],
      hinvoked.trans (List.append_nil _).symm, fun _ hi => absurd hi List.not_mem_nil⟩

/-! ## Runs -/

theorem ordered_reachable (h : ((machine policy now).restrict Event.Saved).Reachable w) :
    w.runtime.state.Ordered w.policy :=
  h.invariant (P := fun w => w.runtime.state.Ordered w.policy) (valid_new policy now).ordered
    fun _ _ _ hw hallowed => (next_spec hw hallowed).1

/-- Nothing more is owed for a confirmed record. -/
theorem acolyte_ne_of_confirmed (h : s.Ordered policy) {r : ReferralRecord} (hr : r ∈ s.records)
    (hphase : r.phase = .confirmed) (howed : invocation.IsOwed s) :
    invocation.acolyte ≠ r.acolyte := by
  obtain ⟨r', hr', hacolyte, -, -, -, -, hopen⟩ := howed
  intro hsame
  obtain rfl := List.inj_on_of_nodup_map h.acolytes hr' hr (hacolyte.trans hsame)
  exact hopen hphase

/-- A referrer that is set stays and none is set after the onboarding, a phase goes only forward,
the gateway is invoked only for what is owed, and no more after the record is confirmed. -/
theorem lifecycle_safe (policy : Policy) (now : ℕ) :
    LifecycleSafe ((machine policy now).restrict Event.Saved) where
  advances w hw events hevents := by
    induction events generalizing w with
    | nil => exact .refl _
    | cons event events ih =>
      have hstep := next_spec (ordered_reachable hw) hevents.1
      exact hstep.2.1.trans (ih _ (hw.next hevents.1) hevents.2)
  owed w hw event hallowed := (next_spec (ordered_reachable hw) hallowed).2.2
  final w hw r hr hphase events hevents := by
    induction events generalizing w r with
    | nil => exact ⟨[], (List.append_nil _).symm, fun _ hi => absurd hi List.not_mem_nil⟩
    | cons event events ih =>
      have hordered := ordered_reachable hw
      obtain ⟨-, hadvances, invocations, heq, howed⟩ := next_spec hordered hevents.1
      obtain ⟨r', hr', hadvance⟩ := hadvances r hr
      have hphase' : r'.phase = .confirmed := by
        have hreaches := hadvance.phase
        rw [hphase] at hreaches
        exact of_decide_eq_true hreaches
      obtain ⟨later, hlater, hother⟩ := ih _ (hw.next hevents.1) r' hr' hphase' hevents.2
      refine ⟨invocations ++ later, ?_, fun invocation hi => ?_⟩
      · rw [← List.append_assoc, ← heq]
        exact hlater
      · rcases List.mem_append.mp hi with hi | hi
        · exact acolyte_ne_of_confirmed hordered hr hphase (howed invocation hi)
        · rw [← hadvance.acolyte]
          exact hother invocation hi

/-- A restart that takes a record back is in some run. -/
theorem not_lifecycleSafe {ahead : World} {request : Request} {faults : Faults}
    (hw : (machine policy now).Reachable w) (hahead : ahead = w.called request faults)
    (hreopen : ahead.CanReopen reopening)
    (hnot : ¬ahead.runtime.state.Advances (ahead.next (.restart reopening)).runtime.state) :
    ¬LifecycleSafe (machine policy now) := by
  intro h
  subst hahead
  exact hnot (h.advances _ (hw.next (l := Event.call request faults) trivial) [.restart reopening]
    ⟨hreopen, trivial⟩)

theorem runtime_called {request : Request} {faults : Faults} (h : w.policy = policy) :
    (w.called request faults).runtime = (request.run policy faults).after w.runtime := by
  subst h
  rfl

end Runs

/-! ## A restart that takes a record back -/

attribute [local instance] sampleHashing

def sampleReopening : Reopening :=
  ⟨samplePolicy, none, 4⟩

def sampleAhead : World :=
  sampleWorld.called sampleCompletion sampleFaults

theorem sampleAhead_runtime : sampleAhead.runtime =
    (sampleCompletion.run samplePolicy sampleFaults).after sampleWorld.runtime := by
  unfold sampleAhead
  exact runtime_called sampleWorld_policy

theorem sampleAhead_load : load sampleReopening.policy sampleReopening.fault
    sampleAhead.runtime.disk sampleReopening.now = .ok sampleWorld.runtime.state := by
  have hsynced : Runtime.Synced samplePolicy sampleWorld.runtime :=
    synced_reachable sampleWorld_whole
  rw [sampleAhead_runtime, sampleCompletion_run.2.2.1, hsynced.saved]
  exact load_valid hsynced.valid none 4

theorem sampleAhead_not_advances : ¬sampleAhead.runtime.state.Advances
    (sampleAhead.next (.restart sampleReopening)).runtime.state := by
  intro hadvances
  rw [(reopened_of_load sampleAhead_load).2] at hadvances
  obtain ⟨-, hafter, -, hbefore, -⟩ := sampleCompletion_run
  have hcomplete : ReferralRewardPhase.onboardingComplete ∈
      sampleAhead.runtime.state.records.map (·.phase) := by
    rw [sampleAhead_runtime, hafter]
    exact List.mem_singleton_self _
  obtain ⟨r, hr, hphase⟩ := List.mem_map.mp hcomplete
  obtain ⟨r', hr', hadvance⟩ := hadvances r hr
  have hattributed : r'.phase = .attributed := by
    have hmem := List.mem_map_of_mem (f := (·.phase)) hr'
    rw [hbefore] at hmem
    exact List.mem_singleton.mp hmem
  have hreaches := hadvance.phase
  rw [hphase, hattributed] at hreaches
  cases hreaches

theorem restart_takes_back : ¬∀ (policy : Policy) (now : ℕ),
    LifecycleSafe (machine policy now) := by
  intro h
  have hahead : sampleAhead = sampleWorld.called sampleCompletion sampleFaults := by
    unfold sampleAhead
    rfl
  exact not_lifecycleSafe sampleWorld_whole.of_restrict hahead
    (reopened_of_load sampleAhead_load).1 sampleAhead_not_advances (h samplePolicy 0)

end Cthuwu.Growth
