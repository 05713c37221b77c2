import Cthuwu.Leases.Manager

/-!
# What an operation does

A `Request` is one call of a public operation. What it writes is a list of `Move`s, each of
which grants, accepts, renews or ends one lease : one for most operations, two for a failover
and one for each overdue lease when leases expire. `Justified` says when a move can happen, and
`run_moves` inverts every successful request into justified moves. A request that fails leaves
the manager as it was (`run_atomic`), because `failover` works on a copy and every other
operation writes only after its last check.
-/

namespace Cthuwu.Leases

open Council Routing LeaseManager Fallible

/-! ## Requests -/

inductive Request
  | grant (leaseId : LeaseId) (request : RoutingRequest) (decision : RoutingDecision)
      (user : UserReference) (issuer : CthulhuId) (timing : LeaseTiming)
  | accept (id : LeaseId) (tentacle : TentacleId) (incarnation : Incarnation) (generation now : ℕ)
  | renew (id : LeaseId) (tentacle : TentacleId) (incarnation : Incarnation) (generation : ℕ)
      (renewal : LeaseRenewal)
  | release (id : LeaseId) (tentacle : TentacleId) (incarnation : Incarnation) (generation now : ℕ)
  | revoke (id : LeaseId)
  | expire (now : ℕ)
  | failover (oldLeaseId newLeaseId : LeaseId) (decision : RoutingDecision) (issuer : CthulhuId)
      (timing : LeaseTiming)

inductive Reply
  | lease (lease : Lease)
  | done
  | expired (ids : List LeaseId)

def Reply.granted : Reply → Option Lease
  | lease granted => some granted
  | _ => none

/-- The lease and the generation that a message of a holder presents. -/
def Request.presented : Request → Option (LeaseId × ℕ)
  | accept id _ _ generation _ => some (id, generation)
  | renew id _ _ generation _ => some (id, generation)
  | release id _ _ generation _ => some (id, generation)
  | _ => none

def Request.run : Request → Op Reply
  | grant leaseId request decision user issuer timing => do
    let lease ← LeaseManager.grant leaseId request decision user issuer timing
    return .lease lease
  | accept id tentacle incarnation generation now => do
    LeaseManager.accept id tentacle incarnation generation now
    return .done
  | renew id tentacle incarnation generation renewal => do
    LeaseManager.renew id tentacle incarnation generation renewal
    return .done
  | release id tentacle incarnation generation now => do
    LeaseManager.release id tentacle incarnation generation now
    return .done
  | revoke id => do
    LeaseManager.revoke id
    return .done
  | expire now => do
    let ids ← LeaseManager.expire now
    return .expired ids
  | failover oldLeaseId newLeaseId decision issuer timing => do
    let lease ← LeaseManager.failover oldLeaseId newLeaseId decision issuer timing
    return .lease lease

/-! ## Moves -/

inductive Move
  | granted (lease : Lease)
  | accepted (id : LeaseId) (lease : Lease)
  | renewed (id : LeaseId) (lease : Lease) (renewal : LeaseRenewal)
  | ended (id : LeaseId) (lease : Lease) (status : LeaseStatus)

def Lease.renew (lease : Lease) (renewal : LeaseRenewal) : Lease :=
  { lease with renewalDeadline := renewal.renewalDeadline, expiresAt := renewal.expiresAt }

def Move.apply (manager : LeaseManager) : Move → LeaseManager
  | granted lease => manager.enter lease
  | accepted id lease => manager.setLease id { lease with status := .active }
  | renewed id lease renewal => manager.setLease id (lease.renew renewal)
  | ended id lease status =>
    clearSession lease.sessionId (manager.setLease id { lease with status })

def Move.grant : Move → Option Lease
  | granted lease => some lease
  | _ => none

structure Grantable (manager : LeaseManager) (lease : Lease) : Prop where
  room : manager.leases.len < maxLeases
  request : validateRequest lease.routingRequest lease.issuedAt
    (.invalid "routing request is invalid or expired") = .ok ()
  vacant : manager.liveLease lease.sessionId = none
  fresh : manager.leases.get lease.id = none
  sessions : manager.generations.len < maxSessions ∨
    manager.generations.contains lease.sessionId = true
  generation : lease.generation = manager.nextGeneration lease.sessionId
  valid : lease.validate = .ok ()
  status : lease.status = .granted

/-- A live lease whose holder has presented itself at `now`. -/
structure HeldAt (manager : LeaseManager) (id : LeaseId) (lease : Lease) (now : ℕ) : Prop where
  found : manager.leases.get id = some lease
  live : lease.status.isLive = true
  issued : lease.issuedAt ≤ now
  unexpired : now < lease.expiresAt
  deadline : now ≤ lease.renewalDeadline

structure Renewable (lease : Lease) (renewal : LeaseRenewal) : Prop where
  status : lease.status = .active
  later : renewal.now < renewal.renewalDeadline
  expires : renewal.renewalDeadline < renewal.expiresAt
  lifetime : renewal.expiresAt - renewal.now ≤ maxLeaseLifetimeSeconds

inductive Justified (manager : LeaseManager) : Move → Prop
  | granted {lease : Lease} (grantable : Grantable manager lease) :
      Justified manager (.granted lease)
  | accepted {id : LeaseId} {lease : Lease} {now : ℕ} (held : HeldAt manager id lease now) :
      Justified manager (.accepted id lease)
  | renewed {id : LeaseId} {lease : Lease} {renewal : LeaseRenewal}
      (held : HeldAt manager id lease renewal.now) (renewable : Renewable lease renewal) :
      Justified manager (.renewed id lease renewal)
  | ended {id : LeaseId} {lease : Lease} {status : LeaseStatus}
      (found : manager.leases.get id = some lease) (live : lease.status.isLive = true)
      (final : status.isLive = false) : Justified manager (.ended id lease status)

/-- The moves happen one after another, and lead to `manager'`. -/
def Performs (manager : LeaseManager) : List Move → LeaseManager → Prop
  | [], manager' => manager' = manager
  | move :: moves, manager' => Justified manager move ∧ Performs (move.apply manager) moves manager'

variable {manager manager' manager'' : LeaseManager} {id : LeaseId} {lease : Lease} {now : ℕ}
  {tentacle : TentacleId} {incarnation : Incarnation} {generation : ℕ}

theorem Justified.performs {move : Move} (h : Justified manager move) :
    Performs manager [move] (move.apply manager) :=
  ⟨h, rfl⟩

/-! ## From requests to moves -/

variable {oldLeaseId newLeaseId : LeaseId} {request : Request} {decision : RoutingDecision}
  {issuer : CthulhuId} {timing : LeaseTiming} {u : Unit} {renewal : LeaseRenewal}

/-- Everything `grant` checks of the lease it stores. -/
theorem grant_ok {leaseId : LeaseId} {request : RoutingRequest} {user : UserReference}
    (h : (grant leaseId request decision user issuer timing).exec manager = (.ok lease, manager')) :
    Justified manager (.granted lease) ∧ manager' = Move.apply manager (.granted lease) := by
  unfold grant at h
  simp only [exec_get_bind, lift_bind_ok, exists_unit, failIf_ok, exec_modify_bind, exec_pure,
    Prod.mk.injEq, Except.ok.injEq, not_le, not_lt, not_and, Bool.not_eq_true] at h
  obtain ⟨hroom, hrequest, -, -, hvacant, hfresh, hsessions, -, hvalid, rfl, rfl⟩ := h
  refine ⟨.granted ⟨hroom, hrequest, ?_, ?_, ?_, rfl, hvalid, rfl⟩, rfl⟩
  · simpa using hvacant
  · simpa [HashMap.contains] using hfresh
  · by_cases hlen : manager.generations.len < maxSessions
    · exact .inl hlen
    · exact .inr (by simpa using hsessions (not_lt.mp hlen))

theorem activeLease_ok : manager.activeLease id tentacle incarnation generation now = .ok lease ↔
    HeldAt manager id lease now ∧ generation = lease.generation ∧
      lease.assignedTentacle = tentacle ∧ lease.tentacleIncarnation = incarnation := by
  unfold activeLease verifyAssignee
  simp only [except_bind_ok, exists_unit, okOr_ok, failIf_ok, except_pure_ok, not_or, not_not,
    not_lt, not_le, Bool.not_eq_true', Bool.not_eq_false, ne_eq]
  constructor
  · rintro ⟨_, hfound, ⟨hgeneration, ⟨htentacle, hincarnation⟩, hissued, ⟨hunexpired, hdeadline⟩,
      hlive⟩, rfl⟩
    exact ⟨⟨hfound, hlive, hissued, hunexpired, hdeadline⟩, hgeneration, htentacle, hincarnation⟩
  · rintro ⟨⟨hfound, hlive, hissued, hunexpired, hdeadline⟩, hgeneration, htentacle, hincarnation⟩
    exact ⟨lease, hfound, ⟨hgeneration, ⟨htentacle, hincarnation⟩, hissued, ⟨hunexpired, hdeadline⟩,
      hlive⟩, rfl⟩

theorem accept_ok
    (h : (accept id tentacle incarnation generation now).exec manager = (.ok u, manager')) :
    ∃ lease, generation = lease.generation ∧ Justified manager (.accepted id lease) ∧
      manager' = Move.apply manager (.accepted id lease) := by
  unfold accept at h
  simp only [exec_get_bind, lift_bind_ok, exists_unit, activeLease_ok, failIf_ok, exec_modify,
    Prod.mk.injEq] at h
  obtain ⟨lease, ⟨hheld, hgeneration, -⟩, -, -, rfl⟩ := h
  exact ⟨lease, hgeneration, .accepted hheld, rfl⟩

theorem renew_ok
    (h : (renew id tentacle incarnation generation renewal).exec manager = (.ok u, manager')) :
    ∃ lease, generation = lease.generation ∧ Justified manager (.renewed id lease renewal) ∧
      manager' = Move.apply manager (.renewed id lease renewal) := by
  unfold renew at h
  simp only [exec_get_bind, lift_bind_ok, exists_unit, activeLease_ok, failIf_ok, exec_modify,
    Prod.mk.injEq, not_or, not_not, not_le, not_lt, ne_eq] at h
  obtain ⟨lease, ⟨hheld, hgeneration, -⟩, ⟨hstatus, -, hlater, hexpires, hlifetime⟩, -, rfl⟩ := h
  exact ⟨lease, hgeneration, .renewed hheld ⟨hstatus, hlater, hexpires, hlifetime⟩, rfl⟩

/-- A release ends a live lease, or finds its own lease released already. -/
theorem release_ok
    (h : (release id tentacle incarnation generation now).exec manager = (.ok u, manager')) :
    manager' = manager ∨ ∃ lease, generation = lease.generation ∧
      Justified manager (.ended id lease .released) ∧
      manager' = Move.apply manager (.ended id lease .released) := by
  unfold release at h
  rw [exec_get_bind] at h
  cases hreleased : (manager.leases.get id).filter (·.status = .released) with
  | some lease =>
    rw [hreleased] at h
    simp only [lift_bind_ok, exec_lift, Prod.mk.injEq] at h
    obtain ⟨-, -, -, rfl⟩ := h
    exact .inl rfl
  | none =>
    rw [hreleased] at h
    simp only [lift_bind_ok, activeLease_ok, exec_modify_bind, exec_modify, Prod.mk.injEq] at h
    obtain ⟨lease, ⟨hheld, hgeneration, -⟩, -, rfl⟩ := h
    exact .inr ⟨lease, hgeneration, .ended hheld.found hheld.live rfl, rfl⟩

theorem revoke_ok (h : (revoke id).exec manager = (.ok u, manager')) :
    ∃ lease, manager.leases.get id = some lease ∧ Justified manager (.ended id lease .revoked) ∧
      manager' = Move.apply manager (.ended id lease .revoked) := by
  unfold revoke at h
  simp only [exec_get_bind, lift_bind_ok, exists_unit, okOr_ok, failIf_ok, exec_modify_bind,
    exec_modify, Prod.mk.injEq, Bool.not_eq_true', Bool.not_eq_false] at h
  obtain ⟨lease, hfound, hlive, -, rfl⟩ := h
  exact ⟨lease, hfound, .ended hfound hlive rfl, rfl⟩

/-- Ending overdue leases one by one : those not reached yet are still as they were. -/
theorem expire_moves (now : ℕ) (entries : List (LeaseId × Lease)) (manager : LeaseManager)
    (ids : List LeaseId)
    (hkeys : (entries.map (·.1)).Nodup)
    (hfound : ∀ entry ∈ entries, manager.leases.get entry.1 = some entry.2) :
    ∃ moves, Performs manager moves (entries.foldl (expireEntry now) (manager, ids)).1 ∧
      ∀ move ∈ moves, ∃ id lease, move = .ended id lease .expired := by
  induction entries generalizing manager ids with
  | nil => exact ⟨[], rfl, fun move hmem => absurd hmem List.not_mem_nil⟩
  | cons entry entries ih =>
    rw [List.map_cons, List.nodup_cons] at hkeys
    rw [List.foldl_cons, expireEntry]
    split_ifs with hoverdue
    · have hlive : entry.2.status.isLive = true := (Bool.and_eq_true_iff.mp hoverdue).1
      have hended : Justified manager (.ended entry.1 entry.2 .expired) :=
        .ended (hfound entry List.mem_cons_self) hlive rfl
      have hrest : ∀ other ∈ entries, (Move.apply manager
          (.ended entry.1 entry.2 .expired)).leases.get other.1 = some other.2 := by
        intro other hother
        have hne : other.1 ≠ entry.1 := fun heq => hkeys.1 (heq ▸ List.mem_map_of_mem hother)
        exact (HashMap.get_insert_ne hne).trans (hfound other (List.mem_cons_of_mem _ hother))
      obtain ⟨moves, hmoves, hall⟩ := ih _ (ids ++ [entry.2.id]) hkeys.2 hrest
      exact ⟨_ :: moves, ⟨hended, hmoves⟩, List.forall_mem_cons.mpr ⟨⟨_, _, rfl⟩, hall⟩⟩
    · exact ih manager ids hkeys.2 fun other hother => hfound other (List.mem_cons_of_mem _ hother)

theorem expire_ok {ids : List LeaseId} (h : (expire now).exec manager = (.ok ids, manager')) :
    ∃ moves, Performs manager moves manager' ∧
      ∀ move ∈ moves, ∃ id lease, move = .ended id lease .expired := by
  unfold expire at h
  rw [exec_get_bind] at h
  simp only [exec_set_bind, exec_pure, Prod.mk.injEq] at h
  obtain ⟨-, rfl⟩ := h
  have hperm := manager.leases.sortedPairs_perm
  refine expire_moves now _ manager [] ?_ fun entry hentry => ?_
  · exact (hperm.map _).nodup_iff.mpr manager.leases.nodup_keys
  · exact HashMap.mem_pairs.mp (hperm.mem_iff.mp hentry)

theorem failover_ok (h : (failover oldLeaseId newLeaseId decision issuer timing).exec manager =
      (.ok lease, manager')) :
    ∃ old, Performs manager [.ended oldLeaseId old .revoked, .granted lease] manager' := by
  unfold failover at h
  rw [exec_get_bind, lift_bind_ok] at h
  obtain ⟨found, -, h⟩ := h
  split at h
  · rename_i replacement staged hstaged
    simp only [exec_set_bind, exec_pure, Prod.mk.injEq, Except.ok.injEq] at h
    obtain ⟨rfl, rfl⟩ := h
    rw [Fallible.bind_ok] at hstaged
    obtain ⟨_, middle, hrevoke, hgrant⟩ := hstaged
    obtain ⟨old, -, hended, rfl⟩ := revoke_ok hrevoke
    obtain ⟨hgranted, rfl⟩ := grant_ok hgrant
    exact ⟨old, hended, hgranted, rfl⟩
  · simp only [exec_throw, Prod.mk.injEq, reduceCtorEq, false_and] at h

/-- The moves of a request : they lead to `manager'`, what they grant is what the reply reports,
and what they renew is the stored lease the request names. -/
structure Performed (manager : LeaseManager) (request : Request) (reply : Reply)
    (manager' : LeaseManager) (moves : List Move) : Prop where
  performs : Performs manager moves manager'
  granted : moves.filterMap Move.grant = reply.granted.toList
  renewed : ∀ id lease renewal, .renewed id lease renewal ∈ moves →
    manager.leases.get id = some lease ∧
      ∃ tentacle incarnation generation, request = .renew id tentacle incarnation generation renewal

theorem Justified.performed {move : Move} {reply : Reply} (h : Justified manager move)
    (hgrant : move.grant = reply.granted)
    (hrenew : ∀ id lease renewal, move ≠ .renewed id lease renewal) :
    ∃ moves, Performed manager request reply (move.apply manager) moves := by
  refine ⟨[move], h.performs, ?_, fun id lease renewal hmem => ?_⟩
  · rw [List.filterMap_cons, hgrant]
    cases reply.granted <;> rfl
  · exact absurd (List.mem_singleton.mp hmem).symm (hrenew id lease renewal)

/-- A successful request performs justified moves. -/
theorem run_moves {reply : Reply} (h : request.run.exec manager = (.ok reply, manager')) :
    ∃ moves, Performed manager request reply manager' moves := by
  cases request
  all_goals
    simp only [Request.run, Fallible.bind_ok, exec_pure, Prod.mk.injEq, Except.ok.injEq] at h
    obtain ⟨result, middle, h, rfl, rfl⟩ := h
  case grant =>
    obtain ⟨hjustified, rfl⟩ := grant_ok h
    exact hjustified.performed rfl (by simp)
  case accept =>
    obtain ⟨lease, -, hjustified, rfl⟩ := accept_ok h
    exact hjustified.performed rfl (by simp)
  case renew id tentacle incarnation generation renewal =>
    obtain ⟨lease, -, hjustified, rfl⟩ := renew_ok h
    refine ⟨_, hjustified.performs, rfl, fun other found asked hmem => ?_⟩
    cases List.mem_singleton.mp hmem
    cases hjustified with
    | renewed hheld => exact ⟨hheld.found, tentacle, incarnation, generation, rfl⟩
  case release =>
    rcases release_ok h with rfl | ⟨lease, -, hjustified, rfl⟩
    · exact ⟨[], rfl, rfl, fun _ _ _ hmem => absurd hmem List.not_mem_nil⟩
    · exact hjustified.performed rfl (by simp)
  case revoke =>
    obtain ⟨lease, -, hjustified, rfl⟩ := revoke_ok h
    exact hjustified.performed rfl (by simp)
  case expire =>
    obtain ⟨moves, hmoves, hall⟩ := expire_ok h
    refine ⟨moves, hmoves, List.filterMap_eq_nil_iff.mpr fun move hmem => ?_,
      fun id lease renewal hmem => ?_⟩
    · obtain ⟨id, lease, rfl⟩ := hall move hmem
      rfl
    · obtain ⟨_, _, heq⟩ := hall _ hmem
      cases heq
  case failover =>
    obtain ⟨old, hmoves⟩ := failover_ok h
    refine ⟨_, hmoves, rfl, fun id lease renewal hmem => ?_⟩
    simp at hmem

/-! ## Failures -/

theorem atomic_grant {leaseId : LeaseId} {request : RoutingRequest} {user : UserReference} :
    Atomic (grant leaseId request decision user issuer timing) := by
  refine readOnly_get.bind_atomic fun manager => (readOnly_lift _).bind_atomic fun _ => ?_
  refine (readOnly_lift _).bind_atomic fun _ => (readOnly_lift _).bind_atomic fun _ => ?_
  refine (readOnly_lift _).bind_atomic fun _ => (readOnly_lift _).bind_atomic fun _ => ?_
  refine (readOnly_lift _).bind_atomic fun _ => (readOnly_lift _).bind_atomic fun _ => ?_
  refine (readOnly_lift _).bind_atomic fun _ => (readOnly_lift _).bind_atomic fun _ => ?_
  exact ((infallible_modify _).bind fun _ => infallible_pure _).atomic

theorem atomic_accept : Atomic (accept id tentacle incarnation generation now) := by
  refine readOnly_get.bind_atomic fun manager => (readOnly_lift _).bind_atomic fun lease => ?_
  exact (readOnly_lift _).bind_atomic fun _ => (infallible_modify _).atomic

theorem atomic_renew : Atomic (renew id tentacle incarnation generation renewal) := by
  refine readOnly_get.bind_atomic fun manager => (readOnly_lift _).bind_atomic fun lease => ?_
  exact (readOnly_lift _).bind_atomic fun _ => (infallible_modify _).atomic

theorem atomic_release : Atomic (release id tentacle incarnation generation now) := by
  refine readOnly_get.bind_atomic fun manager => ?_
  cases (manager.leases.get id).filter (·.status = .released) with
  | some lease => exact (readOnly_lift _).bind_atomic fun _ => (readOnly_lift _).atomic
  | none =>
    refine (readOnly_lift _).bind_atomic fun lease => ?_
    exact ((infallible_modify _).bind fun _ => infallible_modify _).atomic

theorem atomic_revoke : Atomic (revoke id) := by
  refine readOnly_get.bind_atomic fun manager => (readOnly_lift _).bind_atomic fun lease => ?_
  refine (readOnly_lift _).bind_atomic fun _ => ?_
  exact ((infallible_modify _).bind fun _ => infallible_modify _).atomic

theorem infallible_expire : Infallible (expire now) := fun _ => ⟨_, rfl⟩

/-- A failover whose grant is refused never touched the manager. -/
theorem atomic_failover : Atomic (failover oldLeaseId newLeaseId decision issuer timing) := by
  refine readOnly_get.bind_atomic fun manager => (readOnly_lift _).bind_atomic fun old => ?_
  split
  · exact ((infallible_set _).bind fun _ => infallible_pure _).atomic
  · exact atomic_throw _

/-- A request that fails leaves the manager as it was. -/
theorem run_atomic : Atomic request.run := by
  cases request
  case grant => exact (atomic_grant).bind_infallible fun _ => infallible_pure _
  case accept => exact (atomic_accept).bind_infallible fun _ => infallible_pure _
  case renew => exact (atomic_renew).bind_infallible fun _ => infallible_pure _
  case release => exact (atomic_release).bind_infallible fun _ => infallible_pure _
  case revoke => exact (atomic_revoke).bind_infallible fun _ => infallible_pure _
  case expire => exact (infallible_expire).atomic.bind_infallible fun _ => infallible_pure _
  case failover => exact (atomic_failover).bind_infallible fun _ => infallible_pure _

end Cthuwu.Leases
