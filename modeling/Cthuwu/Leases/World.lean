import Cthuwu.Lib.Runs
import Cthuwu.Leases.Moves

/-!
# Runs of the lease manager

`machine` runs any requests in any order, with any callers and any times. A `World` records
beside the manager the leases in the order they were granted. `step_moves` reduces a step to
justified moves, and `invariant` is the rule by which the later modules prove a property of
every run.
-/

namespace Cthuwu.Leases

open Council Routing LeaseManager Fallible

structure World where
  manager : LeaseManager
  grants : List Lease

def World.init : World where
  manager := .fresh
  grants := []

def World.step (w : World) (request : Request) : World :=
  match request.run.exec w.manager with
  | (.ok reply, manager) => ⟨manager, w.grants ++ reply.granted.toList⟩
  | (.error _, manager) => ⟨manager, w.grants⟩

def machine : Machine World Request where
  init := .init
  Allowed _ _ := True
  next := World.step

instance (w : World) (request : Request) : Decidable (machine.Allowed w request) :=
  inferInstanceAs (Decidable True)

def World.move (w : World) (move : Move) : World where
  manager := move.apply w.manager
  grants := w.grants ++ move.grant.toList

variable {w : World} {request : Request}

theorem move_eq (w : World) (moves : List Move) : moves.foldl World.move w =
      ⟨moves.foldl Move.apply w.manager, w.grants ++ moves.filterMap Move.grant⟩ := by
  induction moves generalizing w with
  | nil => rw [List.foldl_nil, List.foldl_nil, List.filterMap_nil, List.append_nil]
  | cons move moves ih =>
    rw [List.foldl_cons, List.foldl_cons, ih, World.move, List.append_assoc, List.filterMap_cons]
    cases move.grant <;> rfl

theorem Performs.eq {manager manager' : LeaseManager} {moves : List Move}
    (h : Performs manager moves manager') : manager' = moves.foldl Move.apply manager := by
  induction moves generalizing manager with
  | nil => exact h
  | cons move moves ih => exact ih h.2

/-- A step is the moves of its request, and none when the request fails. -/
theorem step_moves (w : World) (request : Request) :
    ∃ moves manager, Performs w.manager moves manager ∧ w.step request = moves.foldl World.move w ∧
      ∀ id lease renewal, .renewed id lease renewal ∈ moves →
        w.manager.leases.get id = some lease ∧ (∃ reply, (request.run.exec w.manager).1 = .ok reply) ∧
          ∃ tentacle incarnation generation,
            request = .renew id tentacle incarnation generation renewal := by
  unfold World.step
  rcases h : request.run.exec w.manager with ⟨err | reply, manager⟩
  · have hsame := run_atomic w.manager err (congrArg Prod.fst h)
    rw [Fallible.after, h] at hsame
    obtain rfl : manager = w.manager := hsame
    exact ⟨[], w.manager, rfl, rfl, fun _ _ _ hmem => absurd hmem List.not_mem_nil⟩
  · obtain ⟨moves, hmoves⟩ := run_moves h
    refine ⟨moves, manager, hmoves.performs, ?_, fun id lease renewal hmem => ?_⟩
    · rw [move_eq, hmoves.granted, ← hmoves.performs.eq]
    · obtain ⟨hfound, hasked⟩ := hmoves.renewed id lease renewal hmem
      exact ⟨hfound, ⟨reply, rfl⟩, hasked⟩

/-- What justified moves of a list keep is kept by all of them. -/
theorem moves_invariant {P : World → Prop} {moves : List Move} {manager : LeaseManager}
    (hperforms : Performs w.manager moves manager) (hw : P w)
    (hmove : ∀ w, ∀ move ∈ moves, P w → Justified w.manager move → P (w.move move)) :
    P (moves.foldl World.move w) := by
  induction moves generalizing w with
  | nil => exact hw
  | cons move moves ih =>
    refine ih (w := w.move move) hperforms.2 (hmove w move List.mem_cons_self hw hperforms.1) ?_
    exact fun w next hnext => hmove w next (List.mem_cons_of_mem _ hnext)

/-- What holds of a fresh manager and is kept by every justified move holds after every run. -/
theorem invariant {P : World → Prop} (hinit : P .init)
    (hmove : ∀ w move, P w → Justified w.manager move → P (w.move move))
    (h : machine.Reachable w) : P w := by
  refine h.invariant hinit fun w request _ hw _ => ?_
  obtain ⟨moves, manager, hperforms, hstep, -⟩ := step_moves w request
  change P (w.step request)
  rw [hstep]
  exact moves_invariant hperforms hw fun w move _ => hmove w move

/-! ## Sample runs -/

def sampleFirst : LeaseId :=
  ⟨"lease_first", by decide +kernel⟩

def sampleSecond : LeaseId :=
  ⟨"lease_second", by decide +kernel⟩

def sampleSession : SessionId :=
  ⟨"session_sample", by decide +kernel⟩

def sampleRequestId : RequestId :=
  ⟨"request_sample", by decide +kernel⟩

def sampleCthulhu : CthulhuId :=
  ⟨"cthulhu_sample", by decide +kernel⟩

def sampleTentacle : TentacleId :=
  ⟨"tentacle_lease", by decide +kernel⟩

def sampleIncarnation : Incarnation :=
  ⟨⟨"incarnation_sample", by decide +kernel⟩, 1⟩

def sampleRoutingRequest : RoutingRequest where
  requestId := sampleRequestId
  sessionId := sampleSession
  requirements := ⟨∅, ∅, ∅, ∅, ∅, false, 0⟩
  explicitCthulhu := none
  explicitTentacle := none
  affinityTentacle := none
  homeTentacle := none
  userOwnedTentacles := ∅
  trustPolicy := ⟨false, false, none⟩
  maximumLoadPercent := 100
  expiresAt := 1000000

def sampleDecision (requestId : RequestId) : RoutingDecision where
  requestId
  selectedCthulhu := sampleCthulhu
  selectedTentacle := sampleTentacle
  selectedIncarnation := sampleIncarnation
  endpoint := "https://sample"
  explanation := []

def sampleAccepted : List Request :=
  [.grant sampleFirst sampleRoutingRequest (sampleDecision sampleRequestId) (.rendezvous "sample")
      sampleCthulhu ⟨0, 86400, 80000⟩,
    .accept sampleFirst sampleTentacle sampleIncarnation 1 1]

def sampleRun (requests : List Request) : World :=
  requests.foldl World.step .init

theorem reachable_sampleRun (requests : List Request) : machine.Reachable (sampleRun requests) :=
  Machine.Reachable.init.run (Machine.admits_of_forall fun _ _ => trivial)

/-! ## Refused requests -/

/-- A request that fails leaves the leases, the generations and the index as they were. So does
a failover whose new lease is refused after the old one was revoked on the copy. -/
theorem refused_unchanged {err : LeaseError} {manager : LeaseManager}
    (h : request.run.exec w.manager = (.error err, manager)) :
    manager = w.manager ∧ w.step request = w := by
  have hsame := run_atomic w.manager err (congrArg Prod.fst h)
  rw [Fallible.after, h] at hsame
  refine ⟨hsame, ?_⟩
  unfold World.step
  rw [h]
  exact congrArg (World.mk · w.grants) hsame

def sampleOtherRequestId : RequestId :=
  ⟨"request_other", by decide +kernel⟩

/-- A decision about another request refuses the new lease, and the old one is still active. -/
theorem refused_unchanged_sample :
    (((sampleRun sampleAccepted).step (.failover sampleFirst sampleSecond
      (sampleDecision sampleOtherRequestId) sampleCthulhu ⟨10, 86400, 80000⟩)).manager.leases.get
        sampleFirst).map (·.status) = some .active := by
  have hrefused : ((Request.failover sampleFirst sampleSecond
      (sampleDecision sampleOtherRequestId) sampleCthulhu ⟨10, 86400, 80000⟩).run.exec
        (sampleRun sampleAccepted).manager).1.isOk = false := by
    decide +kernel
  rcases hrun : (Request.failover sampleFirst sampleSecond (sampleDecision sampleOtherRequestId)
    sampleCthulhu ⟨10, 86400, 80000⟩).run.exec (sampleRun sampleAccepted).manager
    with ⟨err | reply, manager⟩
  · rw [(refused_unchanged hrun).2]
    decide +kernel
  · rw [hrun] at hrefused
    cases hrefused

end Cthuwu.Leases
