import Cthuwu.Lib.Runs
import Cthuwu.Protocol.Tentacle

/-!
# The liveness tracker

Tracks what Tentacles announce and how long ago they were heard of. The tracker updates an entry
where it stands : `announce` runs `applyUpdate` on the entry, writes the rest of the
announcement and only then validates it. `assess` looks at the clock, which may go backwards.

Whatever is announced and whatever the clock says, an entry only moves on : its generation and
its last heartbeat never go back, and a stopped incarnation is left only by a newer one, which
starts at Starting. One call makes of an entry one that follows it (`step_get`), and the rest is
induction on the calls (`run_get`, `run_restarted`).
-/

namespace Cthuwu.Liveness

open Council Protocol
open Fallible

def maxFutureHeartbeatSkewSeconds : ℕ := 300

def u64Max : ℕ := 18446744073709551615

inductive LivenessError
  | invalid (error : ValidationError)
  | unknownTentacle
  | invalidThresholds

structure LivenessTracker where
  suspectAfterSeconds : ℕ
  unavailableAfterSeconds : ℕ
  tentacles : HashMap TentacleId Tentacle

def LivenessTracker.new (suspectAfterSeconds unavailableAfterSeconds : ℕ) :
    Except LivenessError LivenessTracker := do
  failIf (suspectAfterSeconds = 0 ∨ unavailableAfterSeconds ≤ suspectAfterSeconds)
    .invalidThresholds
  return ⟨suspectAfterSeconds, unavailableAfterSeconds, .empty⟩

abbrev Op (α : Type) := Fallible LivenessError LivenessTracker α

/-- A heartbeat from the far future, or from before 1970, is refused. -/
def validateHeartbeatTime (now : ℕ) (heartbeat : Timestamp) : Except LivenessError Unit := do
  failIf (heartbeat < 0) (.invalid ⟨"heartbeat", .outOfRange⟩)
  failIf (min (now + maxFutureHeartbeatSkewSeconds) u64Max < heartbeat.toNat)
    (.invalid ⟨"heartbeat", .outOfRange⟩)

/-- What an announcement says of the state of its Tentacle. -/
def announcedUpdate (announced : Tentacle) : TentacleLifecycleUpdate where
  tentacleId := announced.id
  owner := announced.owner
  incarnation := announced.incarnation
  lifecycle := announced.lifecycle
  health := announced.health
  currentLoadPerMille := announced.currentLoadPerMille
  lastHeartbeat := announced.lastHeartbeat

def setEntry (id : TentacleId) (t : Tentacle) (tracker : LivenessTracker) : LivenessTracker :=
  { tracker with tentacles := tracker.tentacles.replace id t }

/-- Run an operation on an entry, found to be `current`, where it stands. -/
def onEntry (id : TentacleId) (current : Tentacle) (op : TentacleOp Unit) : Op Unit :=
  Fallible.onPart LivenessError.invalid (fun tracker => (tracker.tentacles.get id).getD current)
    (setEntry id) op

def enter (announced : Tentacle) (tracker : LivenessTracker) : LivenessTracker :=
  { tracker with tentacles := tracker.tentacles.insert announced.id announced }

/-- Take over an announcement of a known Tentacle. -/
def replace (announced : Tentacle) : TentacleOp Unit := do
  applyUpdate (announcedUpdate announced)
  modify fun t => { t with xmtpEndpoint := announced.xmtpEndpoint }
  modify fun t => { t with capabilities := announced.capabilities }
  modify fun t => { t with capacity := announced.capacity }
  modify fun t => { t with visibility := announced.visibility }
  modify fun t => { t with protocolVersion := announced.protocolVersion }
  let current ← get
  liftM current.validate

def announce (now : ℕ) (announced : Tentacle) : Op Unit := do
  liftM (announced.validate.mapError LivenessError.invalid)
  liftM (validateHeartbeatTime now announced.lastHeartbeat)
  let tracker ← get
  match tracker.tentacles.get announced.id with
  | some current => onEntry announced.id current (replace announced)
  | none => modify (enter announced)

def heartbeat (now : ℕ) (update : TentacleLifecycleUpdate) : Op Unit := do
  liftM (validateHeartbeatTime now update.lastHeartbeat)
  let tracker ← get
  let current ← liftM
    (okOr (tracker.tentacles.get update.tentacleId) LivenessError.unknownTentacle)
  onEntry update.tentacleId current (applyUpdate update)

/-- What a Tentacle of some age becomes. `last_heartbeat` is cast to `u64`. -/
def LivenessTracker.assessed (tracker : LivenessTracker) (now : ℕ) (t : Tentacle) : Tentacle :=
  let age := now - (t.lastHeartbeat % (u64Max + 1)).toNat
  if t.lifecycle = .stopped then
    { t with health := { t.health with status := .unavailable } }
  else if tracker.unavailableAfterSeconds ≤ age then
    { t with
      health := { t.health with status := .unavailable }
      lifecycle :=
        if t.lifecycle ≠ .unavailable ∧ t.lifecycle.canTransitionTo .unavailable then .unavailable
        else t.lifecycle }
  else if tracker.suspectAfterSeconds ≤ age then
    { t with health := { t.health with status := .suspect } }
  else t

def assess (now : ℕ) : Op Unit :=
  modify fun tracker =>
    { tracker with tentacles := tracker.tentacles.mapWithKey fun _ => tracker.assessed now }

/-- A call, with what the clock says at the time. -/
inductive Request
  | announce (now : ℕ) (announced : Tentacle)
  | heartbeat (now : ℕ) (update : TentacleLifecycleUpdate)
  | assess (now : ℕ)

def Request.run : Request → Op Unit
  | announce now announced => Liveness.announce now announced
  | heartbeat now update => Liveness.heartbeat now update
  | assess now => Liveness.assess now

/-- The Tentacle a request speaks for, and the incarnation it claims. -/
def Request.claim : Request → Option (TentacleId × Incarnation)
  | announce _ announced => some (announced.id, announced.incarnation)
  | heartbeat _ update => some (update.tentacleId, update.incarnation)
  | assess _ => none

/-! ## What a call does

`run_ok` is the one place where the calls are taken apart : a call that returns has entered a new
Tentacle, written a valid follower of a known one over it, or assessed every Tentacle.
-/

/-- `t'` may come after `t` : it was heard of no earlier, and its state follows. -/
structure Follows (t t' : Tentacle) : Prop where
  lastHeartbeat : t.lastHeartbeat ≤ t'.lastHeartbeat
  precedes : t.Precedes t'.incarnation t'.lifecycle

inductive Performed (tracker : LivenessTracker) : Request → LivenessTracker → Prop
  | entered {now : ℕ} {announced : Tentacle} (hvalid : announced.validate = .ok ())
      (hget : tracker.tentacles.get announced.id = none) :
      Performed tracker (.announce now announced) (enter announced tracker)
  | written {request : Request} {id : TentacleId} {t t' : Tentacle}
      (hget : tracker.tentacles.get id = some t) (hclaim : request.claim = some (id, t'.incarnation))
      (hfollows : Follows t t') (hvalid : t.validate = .ok () → t'.validate = .ok ()) :
      Performed tracker request (setEntry id t' tracker)
  | assessed {now : ℕ} : Performed tracker (.assess now)
      { tracker with tentacles := tracker.tentacles.mapWithKey fun _ => tracker.assessed now }

variable {tracker tracker' : LivenessTracker} {t t' announced : Tentacle} {id : TentacleId}
  {now : ℕ} {request : Request} {update : TentacleLifecycleUpdate}

variable {op : TentacleOp Unit}

theorem onEntry_exec (h : tracker.tentacles.get id = some t) : (onEntry id t op).exec tracker =
      ((op.exec t).1.mapError .invalid, setEntry id (op.exec t).2 tracker) := by
  unfold onEntry
  rw [exec_onPart, h, Option.getD_some]

theorem onEntry_ok (h : tracker.tentacles.get id = some t) :
    (onEntry id t op).exec tracker = (.ok (), tracker') ↔
      ∃ t', op.exec t = (.ok (), t') ∧ tracker' = setEntry id t' tracker := by
  rw [onEntry_exec h]
  rcases op.exec t with ⟨e | u, s⟩
  · refine ⟨fun heq => ?_, fun ⟨_, heq, _⟩ => ?_⟩
    · cases (Prod.mk.inj heq).1
    · cases heq
  · constructor
    · intro heq
      exact ⟨s, rfl, (Prod.mk.inj heq).2.symm⟩
    · rintro ⟨t', heq, rfl⟩
      cases heq
      rfl

theorem atomicAt_onEntry (h : tracker.tentacles.get id = some t) (hop : Fallible.AtomicAt op t) :
    Fallible.AtomicAt (onEntry id t op) tracker := by
  refine atomicAt_onPart ?_ ?_
  · rwa [h, Option.getD_some]
  · unfold setEntry
    rw [h, Option.getD_some, HashMap.replace_self h]

/-- The announced Tentacle takes the place of the known one. -/
theorem replace_eq : (replace announced).exec t =
    match (applyUpdate (announcedUpdate announced)).exec t with
    | (.ok _, _) => (announced.validate, announced)
    | (.error e, s) => (.error e, s) := by
  unfold replace
  rw [exec_bind]
  cases h : (applyUpdate (announcedUpdate announced)).exec t with
  | mk result s =>
    cases result with
    | error e => rfl
    | ok u =>
      obtain ⟨-, ⟨hid, howner⟩, -, -, rfl⟩ := applyUpdate_ok.mp h
      simp only [exec_modify_bind, exec_get_bind, exec_lift]
      have hid' : announced.id = t.id := hid
      have howner' : announced.owner = t.owner := howner
      unfold Tentacle.updated announcedUpdate
      rw [← hid', ← howner']

/-- The last check of an announcement finds what the first one let through. -/
theorem atomicAt_replace (h : announced.validate = .ok ()) :
    Fallible.AtomicAt (replace announced) t := by
  intro e he
  unfold Fallible.after
  rw [replace_eq] at he ⊢
  cases happlied : (applyUpdate (announcedUpdate announced)).exec t with
  | mk result s =>
    rw [happlied] at he
    cases result with
    | error e' =>
      have hafter := atomic_applyUpdate t e' (congrArg Prod.fst happlied)
      unfold Fallible.after at hafter
      rwa [happlied] at hafter
    | ok u =>
      have hok : announced.validate = .error e := he
      rw [h] at hok
      cases hok

theorem replace_ok (h : (replace announced).exec t = (.ok (), t')) :
    t' = announced ∧ Follows t announced := by
  rw [replace_eq] at h
  cases happlied : (applyUpdate (announcedUpdate announced)).exec t with
  | mk result s =>
    rw [happlied] at h
    cases result with
    | error e => cases (Prod.mk.inj h).1
    | ok u =>
      obtain ⟨-, -, hheartbeat, hprecedes, -⟩ := applyUpdate_ok.mp happlied
      exact ⟨(Prod.mk.inj h).2.symm, hheartbeat, hprecedes⟩

theorem run_ok (h : request.run.exec tracker = (.ok (), tracker')) :
    Performed tracker request tracker' := by
  cases request with
  | announce now announced =>
    unfold Request.run announce at h
    simp only [lift_bind_ok, exists_unit, except_mapError_ok, exec_get_bind] at h
    obtain ⟨hvalid, -, h⟩ := h
    cases hget : tracker.tentacles.get announced.id with
    | none =>
      simp only [hget, exec_modify, Prod.mk.injEq, true_and] at h
      exact h ▸ .entered hvalid hget
    | some t =>
      simp only [hget] at h
      obtain ⟨t', hreplaced, rfl⟩ := (onEntry_ok hget).mp h
      obtain ⟨rfl, hfollows⟩ := replace_ok hreplaced
      exact .written hget rfl hfollows fun _ => hvalid
  | heartbeat now update =>
    unfold Request.run heartbeat at h
    simp only [lift_bind_ok, exists_unit, exec_get_bind, okOr_ok] at h
    obtain ⟨-, t, hget, h⟩ := h
    obtain ⟨t', happlied, rfl⟩ := (onEntry_ok hget).mp h
    obtain ⟨hvalid, -, hheartbeat, hprecedes, rfl⟩ := applyUpdate_ok.mp happlied
    exact .written hget rfl ⟨hheartbeat, hprecedes⟩ fun ht => Tentacle.validate_updated ht hvalid
  | assess now =>
    cases (Prod.mk.inj h).2
    exact .assessed

/-- A call that fails leaves the tracker as it was. -/
theorem atomic_run : Fallible.Atomic request.run := by
  intro tracker
  cases request with
  | announce now announced =>
    change Fallible.AtomicAt (announce now announced) tracker
    refine atomicAt_lift_bind fun _ hvalid => ?_
    refine atomicAt_lift_bind fun _ _ => atomicAt_get_bind ?_
    cases hget : tracker.tentacles.get announced.id with
    | none => exact (infallible_modify _).atomic.at tracker
    | some t => exact atomicAt_onEntry hget (atomicAt_replace (except_mapError_ok.mp hvalid))
  | heartbeat now update =>
    change Fallible.AtomicAt (heartbeat now update) tracker
    refine atomicAt_lift_bind fun _ _ => atomicAt_get_bind ?_
    refine atomicAt_lift_bind fun t hget => ?_
    exact atomicAt_onEntry (okOr_ok.mp hget) (atomic_applyUpdate.at t)
  | assess now => exact (infallible_modify _).atomic.at tracker

end Cthuwu.Liveness

/-! ## Safety of the liveness tracker -/

namespace Cthuwu.Liveness

open Council Protocol

/-- The tracker after a call, whether it returned or failed. -/
def LivenessTracker.step (tracker : LivenessTracker) (request : Request) : LivenessTracker :=
  request.run.after tracker

def LivenessTracker.run (tracker : LivenessTracker) (requests : List Request) : LivenessTracker :=
  requests.foldl LivenessTracker.step tracker

def LivenessTracker.Valid (tracker : LivenessTracker) : Prop :=
  ∀ id t, tracker.tentacles.get id = some t → t.validate = .ok ()

variable {tracker : LivenessTracker} {t t' : Tentacle} {id : TentacleId} {request : Request}

theorem Follows.refl (t : Tentacle) : Follows t t :=
  ⟨le_rfl, .inr ⟨rfl, .inl rfl⟩⟩

/-- A step does nothing, or what a call that returns does. -/
theorem step_cases (tracker : LivenessTracker) (request : Request) :
    tracker.step request = tracker ∨ Performed tracker request (tracker.step request) := by
  unfold LivenessTracker.step Fallible.after
  cases h : request.run.exec tracker with
  | mk result tracker' =>
    cases result with
    | error e =>
      have hafter := atomic_run tracker e (congrArg Prod.fst h)
      unfold Fallible.after at hafter
      rw [h] at hafter
      exact .inl hafter
    | ok u => exact .inr (run_ok h)

theorem assessed_follows (now : ℕ) : Follows t (tracker.assessed now t) := by
  unfold LivenessTracker.assessed
  dsimp only
  split_ifs with hstopped hunavailable hmoves hsuspect
  · exact ⟨le_rfl, .inr ⟨rfl, .inl rfl⟩⟩
  · exact ⟨le_rfl, .inr ⟨rfl, .inr hmoves.2⟩⟩
  · exact ⟨le_rfl, .inr ⟨rfl, .inl rfl⟩⟩
  · exact ⟨le_rfl, .inr ⟨rfl, .inl rfl⟩⟩
  · exact .refl t

/-- An assessment changes nothing that validation looks at. -/
theorem assessed_validate (now : ℕ) : (tracker.assessed now t).validate = t.validate := by
  unfold LivenessTracker.assessed
  dsimp only
  split_ifs <;> rfl

/-! ## One call -/

theorem performed_get {tracker' : LivenessTracker} (h : Performed tracker request tracker')
    (hget : tracker.tentacles.get id = some t) :
    ∃ t', tracker'.tentacles.get id = some t' ∧ Follows t t' := by
  cases h with
  | entered hvalid hnone =>
    refine ⟨t, ?_, .refl t⟩
    have hne : id ≠ _ := fun heq => by
      rw [heq, hnone] at hget
      cases hget
    exact (HashMap.get_insert_ne hne).trans hget
  | @written _ key s s' hwritten hclaim hfollows hvalid =>
    unfold setEntry
    rw [HashMap.get_replace hwritten]
    split_ifs with heq
    · rw [heq, hwritten] at hget
      cases hget
      exact ⟨s', rfl, hfollows⟩
    · exact ⟨t, hget, .refl t⟩
  | @assessed now =>
    refine ⟨tracker.assessed now t, ?_, assessed_follows now⟩
    rw [HashMap.get_mapWithKey, hget, Option.map_some]

/-- A call makes of an entry one that follows it. -/
theorem step_get (hget : tracker.tentacles.get id = some t) :
    ∃ t', (tracker.step request).tentacles.get id = some t' ∧ Follows t t' := by
  rcases step_cases tracker request with h | h
  · rw [h]
    exact ⟨t, hget, .refl t⟩
  · exact performed_get h hget

theorem valid_step (h : tracker.Valid) : (tracker.step request).Valid := by
  rcases step_cases tracker request with hstep | hstep
  · rwa [hstep]
  generalize tracker.step request = tracker' at hstep
  intro id t' hget
  cases hstep with
  | entered hvalid hnone =>
    unfold enter at hget
    dsimp only at hget
    rw [HashMap.get_insert_apply] at hget
    split_ifs at hget with heq
    · cases hget
      exact hvalid
    · exact h id t' hget
  | @written _ key s s' hwritten hclaim hfollows hvalid =>
    unfold setEntry at hget
    dsimp only at hget
    rw [HashMap.get_replace hwritten] at hget
    split_ifs at hget with heq
    · cases hget
      exact hvalid (h key s hwritten)
    · exact h id t' hget
  | assessed =>
    rw [HashMap.get_mapWithKey] at hget
    obtain ⟨t, hbefore, rfl⟩ := Option.map_eq_some_iff.mp hget
    rw [assessed_validate]
    exact h id t hbefore

/-! ## Runs -/

theorem valid_run (h : tracker.Valid) (requests : List Request) : (tracker.run requests).Valid := by
  induction requests generalizing tracker with
  | nil => exact h
  | cons request requests ih => exact ih (valid_step h)

theorem Follows.generation_le (h : Follows t t') :
    t.incarnation.generation ≤ t'.incarnation.generation := by
  rcases h.precedes with ⟨hlt, -⟩ | ⟨heq, -⟩
  · exact hlt.le
  · rw [heq]

/-- Over any calls an entry stays, and neither its generation nor its heartbeat goes back. -/
theorem run_get (requests : List Request) (hget : tracker.tentacles.get id = some t) :
    ∃ t', (tracker.run requests).tentacles.get id = some t' ∧
      t.incarnation.generation ≤ t'.incarnation.generation ∧
        t.lastHeartbeat ≤ t'.lastHeartbeat := by
  induction requests generalizing tracker t with
  | nil => exact ⟨t, hget, le_rfl, le_rfl⟩
  | cons request requests ih =>
    obtain ⟨s, hs, hfollows⟩ := step_get hget
    obtain ⟨t', ht', hgeneration, hheartbeat⟩ := ih hs
    exact ⟨t', ht', hfollows.generation_le.trans hgeneration,
      hfollows.lastHeartbeat.trans hheartbeat⟩

/-- A stopped entry is found otherwise only after one of the calls has started a newer
generation. -/
theorem run_restarted (requests : List Request) (hget : tracker.tentacles.get id = some t)
    (hstopped : t.lifecycle = .stopped)
    (hlater : (tracker.run requests).tentacles.get id = some t') (hleft : t'.lifecycle ≠ .stopped) :
    ∃ before request after u, requests = before ++ request :: after ∧
      (tracker.run (before ++ [request])).tentacles.get id = some u ∧
      t.incarnation.generation < u.incarnation.generation ∧ u.lifecycle = .starting := by
  induction requests generalizing tracker t with
  | nil =>
    have hsame : some t = some t' := hget.symm.trans hlater
    cases hsame
    exact absurd hstopped hleft
  | cons request requests ih =>
    obtain ⟨s, hs, hfollows⟩ : ∃ s, (tracker.step request).tentacles.get id = some s ∧
        Follows t s := step_get hget
    rcases hfollows.precedes with ⟨hlt, hstarting⟩ | ⟨heq, hmove⟩
    · exact ⟨[], request, requests, s, rfl, hs, hlt, hstarting⟩
    · have hstill : s.lifecycle = .stopped := by
        rcases hmove with hsame | hmoves
        · rw [hsame, hstopped]
        · rw [hstopped, TentacleLifecycle.not_canTransitionTo_stopped] at hmoves
          cases hmoves
      obtain ⟨before, next, after, u, rfl, hu, hgeneration, hstarting⟩ := ih hs hstill hlater
      refine ⟨request :: before, next, after, u, rfl, hu, ?_, hstarting⟩
      rwa [heq]

/-- What a call that returns claims is the incarnation it finds, or a newer one. -/
theorem claim_current {inc : Incarnation} (hget : tracker.tentacles.get id = some t)
    (hclaim : request.claim = some (id, inc))
    (hok : (request.run.exec tracker).1 = .ok ()) :
    t.incarnation.generation < inc.generation ∨ inc = t.incarnation := by
  cases h : request.run.exec tracker with
  | mk result tracker' =>
    rw [h] at hok
    obtain rfl : result = .ok () := hok
    cases run_ok h with
    | entered hvalid hnone =>
      cases hclaim
      rw [hnone] at hget
      cases hget
    | written hwritten hclaimed hfollows hvalid =>
      rw [hclaimed] at hclaim
      cases hclaim
      rw [hwritten] at hget
      cases hget
      rcases hfollows.precedes with ⟨hlt, -⟩ | ⟨heq, -⟩
      · exact .inl hlt
      · exact .inr heq.symm
    | assessed => cases hclaim

/-- The tracker is safe whatever is called and whatever the clock says. Every entry is valid. A
call that fails leaves the tracker as it was. A claimed incarnation is accepted only when it is
the current one or newer. From any state, further calls never take back a generation or a
heartbeat, and a stopped entry is ready again only after a newer generation has started. -/
theorem liveness_safe {suspectAfterSeconds unavailableAfterSeconds : ℕ} {initial : LivenessTracker}
    (hnew : LivenessTracker.new suspectAfterSeconds unavailableAfterSeconds = .ok initial)
    (requests : List Request) : (initial.run requests).Valid ∧
    (∀ (request : Request) e, (request.run.exec (initial.run requests)).1 = .error e →
      request.run.after (initial.run requests) = initial.run requests) ∧
    (∀ (request : Request) id t inc, (initial.run requests).tentacles.get id = some t →
      request.claim = some (id, inc) → (request.run.exec (initial.run requests)).1 = .ok () →
        t.incarnation.generation < inc.generation ∨ inc = t.incarnation) ∧
    ∀ later id t, (initial.run requests).tentacles.get id = some t →
      ∃ t', ((initial.run requests).run later).tentacles.get id = some t' ∧
        t.incarnation.generation ≤ t'.incarnation.generation ∧
        t.lastHeartbeat ≤ t'.lastHeartbeat ∧
        (t.lifecycle = .stopped → t'.lifecycle = .ready →
          ∃ before request after u, later = before ++ request :: after ∧
            ((initial.run requests).run (before ++ [request])).tentacles.get id = some u ∧
            t.incarnation.generation < u.incarnation.generation ∧ u.lifecycle = .starting) := by
  refine ⟨?_, fun request e he => atomic_run _ e he, ?_, ?_⟩
  · refine valid_run (fun id t hget => ?_) requests
    unfold LivenessTracker.new at hnew
    simp only [except_check_ok, failIf_ok, except_pure_ok] at hnew
    obtain ⟨-, rfl⟩ := hnew
    cases (HashMap.get_empty id).symm.trans hget
  · exact fun request id t inc hget hclaim hok => claim_current hget hclaim hok
  · intro later id t hget
    obtain ⟨t', ht', hgeneration, hheartbeat⟩ := run_get later hget
    refine ⟨t', ht', hgeneration, hheartbeat, fun hstopped hready => ?_⟩
    refine run_restarted later hget hstopped ht' ?_
    rw [hready]
    exact fun h => by cases h

/-! ## A sample run -/

def sampleTentacle : Tentacle where
  id := ⟨"tentacle_home", by decide⟩
  owner := ⟨"cthulhu_home", by decide⟩
  xmtpEndpoint := ⟨⟨"012345abcdef", by decide⟩, "dev"⟩
  incarnation := ⟨⟨"incarnation_first", by decide⟩, 1⟩
  lifecycle := .starting
  capabilities := ⟨.first, [.first], [], 16384, [], [], [], .onSite, ⟨4, 4, 16384⟩, .council, []⟩
  health := ⟨.healthy, 100⟩
  capacity := ⟨4, 4, 16384⟩
  currentLoadPerMille := 0
  visibility := .council
  protocolVersion := .first
  lastHeartbeat := 100

/-- It is announced, stops, and is announced again, started anew. -/
def sampleRequests : List Request :=
  [.announce 100 sampleTentacle, .announce 110 { sampleTentacle with lifecycle := .stopped },
    .assess 90,
    .announce 120 { sampleTentacle with
      incarnation := ⟨⟨"incarnation_second", by decide⟩, 2⟩ }]

theorem liveness_safe_sample : LivenessTracker.new 10 20 = .ok ⟨10, 20, .empty⟩ ∧
      ((LivenessTracker.mk 10 20 .empty).run sampleRequests).Valid := by
  have hnew : LivenessTracker.new 10 20 = .ok ⟨10, 20, .empty⟩ := rfl
  exact ⟨hnew, (liveness_safe hnew sampleRequests).1⟩

end Cthuwu.Liveness
