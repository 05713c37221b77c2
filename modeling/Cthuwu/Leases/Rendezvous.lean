import Cthuwu.Leases.Fencing
import Cthuwu.Routing.Choice

/-!
# The rendezvous

A user who asks for a session is routed to one of the Tentacles on offer, and that one is granted
the session's lease. The manager of the leases takes other requests in between, and a request that
fails leaves no trace (`request_cases`). So the leases are those of a run of the manager alone, and
a session that is asked for again goes to its new holder only (`rendezvous_safe`).
-/

namespace Cthuwu.Leases

open Council Routing LeaseManager Fallible

structure RendezvousRequest where
  id : RequestId
  sessionId : SessionId
  user : UserReference
  routing : RoutingRequest
  leaseId : LeaseId
  leaseExpiresAt : ℕ
  renewalDeadline : ℕ

structure RendezvousResponse where
  decision : RoutingDecision
  lease : Lease
  directXmtpEndpoint : String

inductive RendezvousError
  | invalid (what : String)
  | routing (error : RoutingError)
  | lease (error : LeaseError)

structure LocalRendezvous where
  issuer : CthulhuId
  leases : LeaseManager

/-- The call of `grant`. -/
def RendezvousRequest.grants (request : RendezvousRequest) (decision : RoutingDecision)
    (issuer : CthulhuId) (now : ℕ) : Op Lease :=
  grant request.leaseId request.routing decision request.user issuer
    ⟨now, request.leaseExpiresAt, request.renewalDeadline⟩

/-- `RendezvousService::request`. -/
def RendezvousRequest.run (request : RendezvousRequest) (offers : List RouteCandidate) (now : ℕ) :
    Fallible RendezvousError LocalRendezvous RendezvousResponse := do
  let service ← get
  failIf (request.id ≠ request.routing.requestId ∨ request.sessionId ≠ request.routing.sessionId ∨
    request.renewalDeadline ≤ now ∨ request.leaseExpiresAt ≤ request.renewalDeadline)
    (RendezvousError.invalid "identifiers or lease timing do not match")
  let decision ← (route request.routing offers now).mapError RendezvousError.routing
  let lease ← onPart RendezvousError.lease LocalRendezvous.leases
    (fun leases service => { service with leases }) (request.grants decision service.issuer now)
  return ⟨decision, lease, decision.endpoint⟩

/-! ## Runs -/

structure Answer where
  request : RendezvousRequest
  offers : List RouteCandidate
  response : RendezvousResponse

/-- A rendezvous and what it has answered. -/
structure Hall where
  issuer : CthulhuId
  world : World
  answers : List Answer

inductive HallEvent
  | ask (request : RendezvousRequest) (offers : List RouteCandidate) (now : ℕ)
  /-- A request through `leases_mut`. -/
  | manage (request : Request)

variable {hall : Hall} {request : RendezvousRequest} {offers : List RouteCandidate} {now : ℕ}
  {issuer : CthulhuId} {manager manager' : LeaseManager} {lease : Lease} {w : World}

def Hall.next (hall : Hall) : HallEvent → Hall
  | .ask request offers now =>
    match (request.run offers now).exec ⟨hall.issuer, hall.world.manager⟩ with
    | (.ok response, service) =>
      { hall with
        world := ⟨service.leases, hall.world.grants ++ [response.lease]⟩
        answers := hall.answers ++ [⟨request, offers, response⟩] }
    | (.error _, service) => { hall with world := ⟨service.leases, hall.world.grants⟩ }
  | .manage request => { hall with world := hall.world.step request }

/-- Any events in any order. -/
def hallMachine (issuer : CthulhuId) : Machine Hall HallEvent where
  init := ⟨issuer, .init, []⟩
  Allowed _ _ := True
  next := Hall.next

/-- A request fails and leaves the leases, or its session's lease is granted as it was routed. -/
theorem request_cases :
    (∃ error, (request.run offers now).exec ⟨issuer, manager⟩ =
      (.error error, ⟨issuer, manager⟩)) ∨
    ∃ decision lease leases, route request.routing offers now = .ok decision ∧
      request.sessionId = request.routing.sessionId ∧
      (request.grants decision issuer now).exec manager = (.ok lease, leases) ∧
      (request.run offers now).exec ⟨issuer, manager⟩ =
        (.ok ⟨decision, lease, decision.endpoint⟩, ⟨issuer, leases⟩) := by
  unfold RendezvousRequest.run
  rw [exec_get_bind, exec_lift_bind]
  by_cases hbad : request.id ≠ request.routing.requestId ∨
      request.sessionId ≠ request.routing.sessionId ∨ request.renewalDeadline ≤ now ∨
        request.leaseExpiresAt ≤ request.renewalDeadline
  · rw [failIf, if_pos hbad]
    exact .inl ⟨_, rfl⟩
  rw [failIf, if_neg hbad]
  simp only [exec_lift_bind]
  cases hroute : route request.routing offers now with
  | error error => exact .inl ⟨_, rfl⟩
  | ok decision =>
    simp only [Except.mapError, exec_bind, exec_onPart]
    rcases hgrant : (request.grants decision issuer now).exec manager with ⟨error | lease, leases⟩
    · obtain rfl : leases = manager := by
        have hsame := atomic_grant manager error (congrArg Prod.fst hgrant)
        change ((request.grants decision issuer now).exec manager).2 = manager at hsame
        rwa [hgrant] at hsame
      exact .inl ⟨_, rfl⟩
    · exact .inr ⟨decision, lease, leases, rfl, not_not.mp (not_or.mp (not_or.mp hbad).2).1,
        hgrant, rfl⟩

theorem grants_ok {decision : RoutingDecision}
    (h : (request.grants decision issuer now).exec manager = (.ok lease, manager')) :
    lease.sessionId = request.routing.sessionId ∧ lease.id = request.leaseId ∧
      lease.user = request.user ∧ lease.assignedTentacle = decision.selectedTentacle ∧
      lease.tentacleIncarnation = decision.selectedIncarnation := by
  unfold RendezvousRequest.grants grant at h
  simp only [exec_get_bind, lift_bind_ok, exec_modify_bind, exec_pure, Prod.mk.injEq,
    Except.ok.injEq] at h
  obtain ⟨-, -, -, -, -, -, -, -, -, -, -, -, -, -, -, -, -, -, rfl, -⟩ := h
  exact ⟨rfl, rfl, rfl, rfl, rfl⟩

/-! ## Sessions across runs -/

/-- The answer was routed to one of the Tentacles on offer, and its lease is that one's. -/
def Answer.Routed (a : Answer) : Prop :=
  ∃ c ∈ a.offers, Meets a.request.routing c ∧ a.response.directXmtpEndpoint = c.endpoint ∧
    a.response.lease.assignedTentacle = c.tentacleId ∧
    a.response.lease.tentacleIncarnation = c.incarnation ∧
    a.response.lease.sessionId = a.request.sessionId ∧ a.response.lease.id = a.request.leaseId ∧
    a.response.lease.user = a.request.user

/-- A session's later grant has the greater generation. -/
theorem Recorded.increasing (h : Recorded w) : w.grants.Pairwise fun lease lease' =>
    lease.sessionId = lease'.sessionId → lease.generation < lease'.generation := by
  rw [List.pairwise_iff_forall_sublist]
  intro lease lease' hsub hsession
  have hpair : [lease.generation, lease'.generation].Sublist (w.generationsOf lease.sessionId) := by
    have hboth := (hsub.filter fun l => decide (l.sessionId = lease.sessionId)).map
      fun l => l.generation
    simpa [hsession, World.generationsOf] using hboth
  rw [h.contiguous] at hpair
  have hlt := List.Pairwise.sublist hpair List.pairwise_lt_range'
  exact (List.pairwise_cons.mp hlt).1 _ (List.mem_singleton_self _)

structure Hall.Tracks (hall : Hall) : Prop where
  world : machine.Reachable hall.world
  routed : ∀ a ∈ hall.answers, a.Routed
  granted : (hall.answers.map (·.response.lease)).Sublist hall.world.grants

theorem Hall.Tracks.next (h : hall.Tracks) (event : HallEvent) : (hall.next event).Tracks := by
  cases event with
  | manage request =>
    refine ⟨h.world.next trivial, h.routed, h.granted.trans ?_⟩
    change hall.world.grants.Sublist (hall.world.step request).grants
    unfold World.step
    split
    · exact List.sublist_append_left _ _
    · exact List.Sublist.refl _
  | ask request offers now =>
    unfold Hall.next
    rcases @request_cases request offers now hall.issuer hall.world.manager with
      ⟨error, hrun⟩ | ⟨decision, lease, leases, hroute, hsession, hgrant, hrun⟩
    · simp only [hrun]
      exact h
    · simp only [hrun]
      obtain ⟨hof, hid, huser, htentacle, hincarnation⟩ := grants_ok hgrant
      obtain ⟨c, hc, ⟨-, hselected, hrun', hendpoint⟩, hmeets⟩ := route_meets hroute
      refine ⟨?_, ?_, ?_⟩
      · -- the manager's own step
        have hstep : machine.next hall.world (.grant request.leaseId request.routing decision
            request.user hall.issuer ⟨now, request.leaseExpiresAt, request.renewalDeadline⟩) =
            ⟨leases, hall.world.grants ++ [lease]⟩ := by
          unfold RendezvousRequest.grants at hgrant
          change World.step _ _ = _
          unfold World.step
          rw [Request.run, exec_bind, hgrant]
          rfl
        exact hstep ▸ h.world.next trivial
      · intro a ha
        rcases List.mem_append.mp ha with ha | ha
        · exact h.routed a ha
        · rw [List.mem_singleton.mp ha]
          exact ⟨c, hc, hmeets, hendpoint, htentacle.trans hselected, hincarnation.trans hrun',
            hof.trans hsession.symm, hid, huser⟩
      · rw [List.map_append]
        exact h.granted.append (List.Sublist.refl _)

theorem reachable_tracks (h : (hallMachine issuer).Reachable hall) : hall.Tracks :=
  h.invariant ⟨.init, fun _ ha => absurd ha List.not_mem_nil, List.nil_sublist _⟩
    fun _ event _ htracks _ => htracks.next event

/-- The holder of an earlier lease of the session is authorized for nothing. -/
def Superseded (manager : LeaseManager) (lease : Lease) : Prop :=
  ∀ tentacle incarnation now, ¬∃ found,
    manager.authorizeWork lease.sessionId tentacle incarnation lease.generation now = .ok found

theorem superseded {lease' : Lease} (h : machine.Reachable w) (hgrant : lease' ∈ w.grants)
    (hsession : lease.sessionId = lease'.sessionId) (hlt : lease.generation < lease'.generation) :
    Superseded w.manager lease := by
  rintro tentacle incarnation now ⟨found, hwork⟩
  obtain ⟨id, hnamed, hheld, hgeneration, -⟩ := authorizeWork_ok.mp hwork
  obtain ⟨stored, hstored, hof, -⟩ := (reachable_indexed h).active lease.sessionId id hnamed
  obtain rfl : stored = found := Option.some.inj (hstored.symm.trans hheld.found)
  have hnewest := (reachable_indexed h).not_stale (reachable_recorded h) hheld.found hheld.live
    hgrant (hof.trans hsession)
  omega

/-- After any events : the leases are those of a run of the manager alone. Every answer names a
Tentacle that was on offer and meets the request, and the lease it got is stored. When a session is
answered again, the earlier lease has the lesser generation, and no longer authorizes anything. A
request that fails leaves the leases as they were. -/
theorem rendezvous_safe (h : (hallMachine issuer).Reachable hall) :
    machine.Reachable hall.world ∧ (∀ a ∈ hall.answers, a.Routed ∧
      ∃ lease, hall.world.manager.leases.get a.request.leaseId = some lease ∧
        lease.GrantedAs a.response.lease) ∧
    (hall.answers.Pairwise fun a b => a.request.sessionId = b.request.sessionId →
      a.response.lease.generation < b.response.lease.generation ∧
        Superseded hall.world.manager a.response.lease) ∧
    ∀ request offers now error, ((request.run offers now).exec
      ⟨hall.issuer, hall.world.manager⟩).1 = .error error →
        (hall.next (.ask request offers now)) = hall := by
  have htracks := reachable_tracks h
  have hrecorded := reachable_recorded htracks.world
  have hgrants : ∀ a ∈ hall.answers, a.response.lease ∈ hall.world.grants := fun a ha =>
    htracks.granted.subset (List.mem_map_of_mem ha)
  refine ⟨htracks.world, fun a ha => ⟨htracks.routed a ha, ?_⟩, ?_, ?_⟩
  · obtain ⟨c, -, -, -, -, -, -, hid, -⟩ := htracks.routed a ha
    exact hid ▸ hrecorded.stored _ (hgrants a ha)
  · have hincreasing := List.pairwise_map.mp (hrecorded.increasing.sublist htracks.granted)
    refine hincreasing.imp_of_mem fun {a b} ha hb hlt hsession => ?_
    obtain ⟨-, -, -, -, -, -, hofa, -⟩ := htracks.routed a ha
    obtain ⟨-, -, -, -, -, -, hofb, -⟩ := htracks.routed b hb
    have hsame := (hofa.trans hsession).trans hofb.symm
    exact ⟨hlt hsame, superseded htracks.world (hgrants b hb) hsame (hlt hsame)⟩
  · intro request offers now error herror
    unfold Hall.next
    rcases @request_cases request offers now hall.issuer hall.world.manager with
      ⟨error', hrun⟩ | ⟨decision, lease, leases, -, -, -, hrun⟩
    · simp only [hrun]
    · rw [hrun] at herror
      cases herror

def sampleAsk (leaseId : LeaseId) : HallEvent :=
  .ask ⟨Routing.sampleRequest.requestId, Routing.sampleRequest.sessionId, .rendezvous "sample",
    Routing.sampleRequest, leaseId, 86400, 80000⟩ [ownedCandidate, roomyCandidate] 0

/-- A session is answered, its lease is revoked, and it is answered again. -/
def sampleHall : Hall :=
  [sampleAsk sampleFirst, .manage (.revoke sampleFirst), sampleAsk sampleSecond].foldl Hall.next
    (hallMachine sampleCthulhu).init

theorem rendezvous_safe_sample : ∃ a b, sampleHall.answers = [a, b] ∧
    Superseded sampleHall.world.manager a.response.lease := by
  have hsessions : sampleHall.answers.map (·.request.sessionId) =
      [Routing.sampleRequest.sessionId, Routing.sampleRequest.sessionId] := by
    decide +kernel
  obtain ⟨a, rest, hanswers, ha, hrest⟩ := List.map_eq_cons_iff.mp hsessions
  obtain ⟨b, rfl, hb⟩ := List.map_eq_singleton_iff.mp hrest
  have hreachable : (hallMachine sampleCthulhu).Reachable sampleHall :=
    Machine.Reachable.init.run (Machine.admits_of_forall fun _ _ => trivial)
  have hpair := (rendezvous_safe hreachable).2.2.1
  rw [hanswers, List.pairwise_pair] at hpair
  exact ⟨a, b, hanswers, (hpair (ha.trans hb.symm)).2⟩

end Cthuwu.Leases
