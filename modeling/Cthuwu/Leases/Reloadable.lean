import Cthuwu.Leases.Fencing

/-!
# Reloading a lease manager

`validate_loaded_state` accepts what a run of the operations has left, with one exception. A
renewal may end a lifetime after the renewal, but the loader admits no lease that ends more
than a lifetime after it was issued. `accepted_iff` shows that nothing else is refused, so that
the runs whose every state can be reloaded are those whose renewals stay within a lifetime of
the grant (`reload_iff_within_lifetime`).
-/

namespace Cthuwu.Leases

open Council Routing LeaseManager Fallible

variable {w : World} {manager : LeaseManager} {request : Request} {id : LeaseId}
  {lease lease' : Lease} {session : SessionId}

/-! ## What the loader checks -/

/-- A lease that can be stored, its lifetime apart. -/
structure Storable (lease : Lease) : Prop where
  user : lease.user.validate = .ok ()
  incarnation : lease.tentacleIncarnation.generation ≠ 0
  generation : lease.generation ≠ 0
  expires : lease.issuedAt < lease.expiresAt
  deadline : lease.issuedAt < lease.renewalDeadline
  ordered : lease.renewalDeadline ≤ lease.expiresAt
  session : lease.routingRequest.sessionId = lease.sessionId
  request : lease.routingRequest.validate lease.issuedAt = .ok ()

/-- The lease ends at most a lifetime after it was issued. -/
def Lease.WithinLifetime (lease : Lease) : Prop :=
  lease.expiresAt - lease.issuedAt ≤ maxLeaseLifetimeSeconds

theorem validateRequest_ok {routingRequest : RoutingRequest} {now : ℕ} {err : LeaseError} :
    validateRequest routingRequest now err = .ok () ↔ routingRequest.validate now = .ok () := by
  unfold validateRequest
  cases routingRequest.validate now with
  | error e => simp [Except.mapError]
  | ok u => simp [Except.mapError]

theorem validate_ok : lease.validate = .ok () ∧ lease.routingRequest.validate lease.issuedAt = .ok () ↔
    Storable lease ∧ lease.WithinLifetime := by
  unfold Lease.validate validateIncarnation Lease.WithinLifetime
  simp only [except_check_ok, failIf_ok, not_or, not_le, not_lt, ne_eq, not_not]
  constructor
  · rintro ⟨⟨huser, hincarnation, hgeneration, hexpires, hlifetime, hdeadline, hordered, hsession⟩,
      hrequest⟩
    exact ⟨⟨huser, hincarnation, hgeneration, hexpires, hdeadline, hordered, hsession, hrequest⟩,
      hlifetime⟩
  · rintro ⟨⟨huser, hincarnation, hgeneration, hexpires, hdeadline, hordered, hsession, hrequest⟩,
      hlifetime⟩
    exact ⟨⟨huser, hincarnation, hgeneration, hexpires, hlifetime, hdeadline, hordered, hsession⟩,
      hrequest⟩

theorem validateEntry_ok : manager.validateEntry (id, lease) = .ok () ↔
    id = lease.id ∧ (Storable lease ∧ lease.WithinLifetime) ∧
      (manager.activeBySession.get lease.sessionId = some id ↔ lease.status.isLive = true) := by
  unfold validateEntry
  simp only [except_check_ok, failIf_ok, validateRequest_ok, ne_eq, not_not, ← validate_ok,
    and_assoc]
  refine and_congr_right fun _ => and_congr_right fun _ => and_congr_right fun _ => ?_
  rw [Bool.eq_iff_iff, decide_eq_true_iff]

theorem validateActive_ok : manager.validateActive (session, id) = .ok () ↔
    ∃ lease, manager.leases.get id = some lease ∧ lease.sessionId = session := by
  unfold validateActive
  simp only [except_bind_ok, okOr_ok, failIf_ok, ne_eq, not_not]

/-- The generations of a session are to be an interval from one. -/
theorem validateGenerations_interval {newest : ℕ} (hpositive : 0 < newest) :
    manager.validateGenerations (session, Finset.Icc 1 newest) = .ok () ↔
      newest ≤ maxLeases ∧ manager.generations.get session = some newest := by
  have hmax : (Finset.Icc 1 newest).sup (fun generation => generation) = newest := by
    refine le_antisymm (Finset.sup_le fun generation h => (Finset.mem_Icc.mp h).2) ?_
    exact Finset.le_sup (f := fun generation => generation) (Finset.mem_Icc.mpr ⟨hpositive, le_rfl⟩)
  have hcard : (Finset.Icc 1 newest).card = newest := by
    rw [Nat.card_Icc, Nat.add_sub_cancel]
  change failIf (maxLeases < (Finset.Icc 1 newest).sup (fun generation => generation) ∨
    manager.generations.get session ≠ some ((Finset.Icc 1 newest).sup fun generation => generation) ∨
    (Finset.Icc 1 newest).card ≠ (Finset.Icc 1 newest).sup (fun generation => generation) ∨
    Finset.Icc 1 newest ≠ Finset.Icc 1 ((Finset.Icc 1 newest).sup fun generation => generation))
    _ = _ ↔ _
  rw [hmax, hcard, failIf_ok]
  simp only [not_or, not_lt, ne_eq, not_not, and_true]

/-- Everything a reload checks. -/
structure Accepted (manager : LeaseManager) : Prop where
  leases : manager.leases.len ≤ maxLeases
  active : manager.activeBySession.len ≤ maxSessions
  sessions : manager.generations.len ≤ maxSessions
  entries : ∀ id lease, manager.leases.get id = some lease →
    manager.validateEntry (id, lease) = .ok ()
  index : ∀ session id, manager.activeBySession.get session = some id →
    manager.validateActive (session, id) = .ok ()
  counters : manager.generations.len = manager.generationsBySession.len
  history : ∀ session generations, manager.generationsBySession.get session = some generations →
    manager.validateGenerations (session, generations) = .ok ()

theorem validateLoadedState_ok : manager.validateLoadedState = .ok () ↔ Accepted manager := by
  unfold validateLoadedState
  simp only [except_check_ok, failIf_ok, forM_ok, HashMap.forall_sortedPairs,
    not_or, not_lt, ne_eq, not_not]
  constructor
  · rintro ⟨⟨hleases, hactive, hsessions⟩, hentries, hindex, hcounters, hhistory⟩
    exact ⟨hleases, hactive, hsessions, hentries, hindex, hcounters, hhistory⟩
  · rintro ⟨hleases, hactive, hsessions, hentries, hindex, hcounters, hhistory⟩
    exact ⟨⟨hleases, hactive, hsessions⟩, hentries, hindex, hcounters, hhistory⟩

/-! ## What every run keeps -/

structure Stored (manager : LeaseManager) : Prop where
  leases : manager.leases.len ≤ maxLeases
  sessions : manager.generations.len ≤ maxSessions
  storable : ∀ id lease, manager.leases.get id = some lease → Storable lease

theorem stored_fresh : Stored .fresh where
  leases := Nat.zero_le _
  sessions := Nat.zero_le _
  storable := fun id lease h => by cases (HashMap.get_empty id).symm.trans h

theorem Stored.enter (h : Stored manager) (hgrantable : Grantable manager lease) :
    Stored (Move.apply manager (.granted lease)) := by
  refine ⟨?_, ?_, fun id found hfound => ?_⟩
  · have hlen : (manager.leases.insert lease.id lease).len = manager.leases.len + 1 :=
      HashMap.len_insert_fresh hgrantable.fresh
    have hroom := hgrantable.room
    change (manager.leases.insert lease.id lease).len ≤ maxLeases
    omega
  · change (manager.generations.insert lease.sessionId lease.generation).len ≤ maxSessions
    cases hget : manager.generations.get lease.sessionId with
    | some generation =>
      rw [HashMap.len_insert_present hget]
      exact h.sessions
    | none =>
      have hroom : manager.generations.len < maxSessions := by
        refine hgrantable.sessions.resolve_right ?_
        rw [HashMap.contains, hget]
        decide
      rw [HashMap.len_insert_fresh hget]
      exact hroom
  · have hget : (manager.leases.insert lease.id lease).get id = some found := hfound
    rw [HashMap.get_insert_apply] at hget
    split_ifs at hget with heq
    · cases hget
      exact ((validate_ok).mp ⟨hgrantable.valid, (validateRequest_ok).mp hgrantable.request⟩).1
    · exact h.storable id found hget

/-- Another storable lease in the place of a stored one. -/
theorem Stored.rewrite (h : Stored manager) (hfound : manager.leases.get id = some lease)
    (hstorable : Storable lease') {manager' : LeaseManager}
    (hleases : manager'.leases = manager.leases.insert id lease')
    (hgenerations : manager'.generations = manager.generations) : Stored manager' := by
  refine ⟨?_, ?_, fun other found hother => ?_⟩
  · rw [hleases, HashMap.len_insert_present hfound]
    exact h.leases
  · rw [hgenerations]
    exact h.sessions
  · rw [hleases, HashMap.get_insert_apply] at hother
    split_ifs at hother with heq
    · cases hother
      exact hstorable
    · exact h.storable other found hother

/-- A renewal is storable, though it may end too late. -/
theorem Storable.renew (h : Storable lease) {renewal : LeaseRenewal}
    (hissued : lease.issuedAt ≤ renewal.now) (hrenewable : Renewable lease renewal) :
    Storable (lease.renew renewal) where
  user := h.user
  incarnation := h.incarnation
  generation := h.generation
  expires := hissued.trans_lt (hrenewable.later.trans hrenewable.expires)
  deadline := hissued.trans_lt hrenewable.later
  ordered := hrenewable.expires.le
  session := h.session
  request := h.request

theorem Storable.restate (h : Storable lease) (status : LeaseStatus) :
    Storable { lease with status } :=
  ⟨h.user, h.incarnation, h.generation, h.expires, h.deadline, h.ordered, h.session, h.request⟩

theorem stored_move {move : Move} (h : Stored manager) (hmove : Justified manager move) :
    Stored (move.apply manager) := by
  cases hmove with
  | granted hgrantable => exact h.enter hgrantable
  | accepted hheld =>
    exact h.rewrite hheld.found ((h.storable _ _ hheld.found).restate .active) rfl rfl
  | renewed hheld hrenewable =>
    have hstorable := (h.storable _ _ hheld.found).renew hheld.issued hrenewable
    exact h.rewrite hheld.found hstorable rfl rfl
  | @ended id lease status hfound =>
    exact h.rewrite hfound ((h.storable _ _ hfound).restate status) rfl rfl

theorem reachable_stored (h : machine.Reachable w) : Stored w.manager :=
  invariant (P := fun w => Stored w.manager) stored_fresh (fun _ _ => stored_move) h

/-- The generations the loader collects for a session are those of its grants. -/
theorem get_generationsBySession (h : Recorded w) (session : SessionId) :
    w.manager.generationsBySession.get session =
      (w.manager.generations.get session).map (Finset.Icc 1) := by
  have hmem : ∀ generation, (∃ id lease, w.manager.leases.get id = some lease ∧
      lease.sessionId = session ∧ lease.generation = generation) ↔
        generation ∈ w.generationsOf session := by
    intro generation
    unfold World.generationsOf
    simp only [List.mem_map, List.mem_filter, decide_eq_true_eq]
    constructor
    · rintro ⟨id, lease, hfound, hsession, hgeneration⟩
      obtain ⟨grant, hgrant, hsame⟩ := h.granted id lease hfound
      exact ⟨grant, ⟨hgrant, hsame.sessionId_eq.symm.trans hsession⟩,
        hsame.generation_eq.symm.trans hgeneration⟩
    · rintro ⟨grant, ⟨hgrant, hsession⟩, hgeneration⟩
      obtain ⟨lease, hfound, hsame⟩ := h.stored grant hgrant
      exact ⟨grant.id, lease, hfound, hsame.sessionId_eq.trans hsession,
        hsame.generation_eq.trans hgeneration⟩
  have hentry : ∀ id lease, (id, lease) ∈ w.manager.leases.sortedPairs ↔
      w.manager.leases.get id = some lease := fun id lease =>
    w.manager.leases.sortedPairs_perm.mem_iff.trans HashMap.mem_pairs
  unfold generationsBySession
  rw [get_groupBy, foldl_insert, Finset.union_empty]
  cases hnewest : w.manager.generations.get session with
  | none =>
    have hnone : w.generationsOf session = [] := by
      rw [h.contiguous, hnewest]
      rfl
    rw [Option.map_none, if_neg]
    intro hin
    obtain ⟨⟨id, lease⟩, hpair, hsession⟩ := List.mem_map.mp hin
    have := (hmem lease.generation).mp ⟨id, lease, (hentry id lease).mp hpair, hsession, rfl⟩
    rw [hnone] at this
    exact absurd this List.not_mem_nil
  | some newest =>
    have hcontiguous := h.contiguous session
    rw [hnewest, Option.getD_some] at hcontiguous
    have hpositive := h.positive session newest hnewest
    have hfirst : newest ∈ w.generationsOf session := by
      rw [hcontiguous, List.mem_range'_1]
      omega
    obtain ⟨id, lease, hfound, hsession, -⟩ := (hmem newest).mpr hfirst
    have hin : session ∈ w.manager.leases.sortedPairs.map fun entry => entry.2.sessionId :=
      List.mem_map.mpr ⟨(id, lease), (hentry id lease).mpr hfound, hsession⟩
    rw [if_pos hin, Option.map_some]
    congr 1
    ext generation
    have hinterval : generation ∈ w.generationsOf session ↔ generation ∈ Finset.Icc 1 newest := by
      rw [hcontiguous, List.mem_range'_1, Finset.mem_Icc]
      omega
    rw [← hinterval, ← hmem, List.mem_toFinset, List.mem_map]
    simp only [List.mem_filter, decide_eq_true_eq]
    constructor
    · rintro ⟨⟨id, lease⟩, ⟨hpair, hsession⟩, hgeneration⟩
      exact ⟨id, lease, (hentry id lease).mp hpair, hsession, hgeneration⟩
    · rintro ⟨id, lease, hfound, hsession, hgeneration⟩
      exact ⟨(id, lease), ⟨(hentry id lease).mpr hfound, hsession⟩, hgeneration⟩

/-- A session has no more generations than there are leases. -/
theorem newest_le (h : Recorded w) (hstored : Stored w.manager) {newest : ℕ}
    (hnewest : w.manager.generations.get session = some newest) : newest ≤ maxLeases := by
  have hlength : newest = (w.generationsOf session).length := by
    rw [h.contiguous, hnewest, List.length_range', Option.getD_some]
  have hgrants : (w.grants.map (·.id)).length ≤ w.manager.leases.len := by
    refine HashMap.length_le_len h.nodup fun id hid => ?_
    obtain ⟨grant, hgrant, rfl⟩ := List.mem_map.mp hid
    obtain ⟨lease, hfound, -⟩ := h.stored grant hgrant
    exact ⟨lease, hfound⟩
  have hfilter : (w.generationsOf session).length ≤ w.grants.length := by
    unfold World.generationsOf
    rw [List.length_map]
    exact List.length_filter_le _ _
  have hleases := hstored.leases
  rw [List.length_map] at hgrants
  omega

/-! ## Reloading a run -/

/-- Of what a run has left, the loader refuses only leases that end too late. -/
theorem accepted_iff (h : machine.Reachable w) : w.manager.validateLoadedState = .ok () ↔
    ∀ id lease, w.manager.leases.get id = some lease → lease.WithinLifetime := by
  have hrecorded := reachable_recorded h
  have hindexed := reachable_indexed h
  have hstored := reachable_stored h
  have hgenerations := get_generationsBySession hrecorded
  rw [validateLoadedState_ok]
  refine ⟨fun hall id lease hfound => ((validateEntry_ok).mp (hall.entries id lease hfound)).2.1.2,
    fun hlifetime => ?_⟩
  refine ⟨hstored.leases, ?_, hstored.sessions, fun id lease hfound => ?_, fun session id hnamed => ?_,
    ?_, fun session generations hgroup => ?_⟩
  · refine le_trans (HashMap.len_le_len fun session id hnamed => ?_) hstored.sessions
    obtain ⟨lease, hfound, rfl, hlive⟩ := hindexed.active session id hnamed
    exact ⟨_, (hindexed.live id lease hfound hlive).2⟩
  · refine (validateEntry_ok).mpr ⟨(hrecorded.key id lease hfound).symm,
      ⟨hstored.storable id lease hfound, hlifetime id lease hfound⟩, fun hnamed => ?_,
      fun hlive => (hindexed.live id lease hfound hlive).1⟩
    obtain ⟨found, hsame, -, hlive⟩ := hindexed.active _ id hnamed
    rw [hfound] at hsame
    cases hsame
    exact hlive
  · obtain ⟨lease, hfound, hsession, -⟩ := hindexed.active session id hnamed
    exact (validateActive_ok).mpr ⟨lease, hfound, hsession⟩
  · refine le_antisymm (HashMap.len_le_len fun session newest hnewest => ?_)
      (HashMap.len_le_len fun session generations hgroup => ?_)
    · exact ⟨Finset.Icc 1 newest, by rw [hgenerations, hnewest, Option.map_some]⟩
    · rw [hgenerations, Option.map_eq_some_iff] at hgroup
      obtain ⟨newest, hnewest, -⟩ := hgroup
      exact ⟨newest, hnewest⟩
  · rw [hgenerations, Option.map_eq_some_iff] at hgroup
    obtain ⟨newest, hnewest, rfl⟩ := hgroup
    exact (validateGenerations_interval (hrecorded.positive session newest hnewest)).mpr
      ⟨newest_le hrecorded hstored hnewest, hnewest⟩

/-- The request does not fail. -/
def Succeeds (w : World) (request : Request) : Prop :=
  (request.run.exec w.manager).1.isOk = true

instance (w : World) (request : Request) : Decidable (Succeeds w request) :=
  inferInstanceAs (Decidable (_ = true))

/-- A renewal ends at most a lifetime after its lease was issued. -/
def RenewsWithinLifetime (w : World) : Request → Prop
  | .renew id _ _ _ renewal =>
    ∀ lease ∈ w.manager.leases.get id, (lease.renew renewal).WithinLifetime
  | _ => True

theorem withinLifetime_move {move : Move} (hmove : Justified w.manager move)
    (h : ∀ id lease, w.manager.leases.get id = some lease → lease.WithinLifetime)
    (hrenewed : ∀ id lease renewal, move = .renewed id lease renewal →
      (lease.renew renewal).WithinLifetime) :
    ∀ id lease, (w.move move).manager.leases.get id = some lease → lease.WithinLifetime := by
  have hinsert : ∀ id lease, lease.WithinLifetime → ∀ other found,
      (w.manager.leases.insert id lease).get other = some found → found.WithinLifetime := by
    intro id lease hlease other found hother
    rw [HashMap.get_insert_apply] at hother
    split_ifs at hother with heq
    · cases hother
      exact hlease
    · exact h other found hother
  cases hmove with
  | granted hgrantable =>
    refine hinsert _ _ ?_
    exact ((validate_ok).mp ⟨hgrantable.valid, (validateRequest_ok).mp hgrantable.request⟩).2
  | @accepted id lease now hheld =>
    have hkept : lease.WithinLifetime := h id lease hheld.found
    exact hinsert id _ hkept
  | renewed hheld => exact hinsert _ _ (hrenewed _ _ _ rfl)
  | @ended id lease status hfound =>
    have hkept : lease.WithinLifetime := h id lease hfound
    exact hinsert id _ hkept

/-- Of a manager that can be reloaded, a request leaves one that can be unless it renews a lease
beyond its lifetime. -/
theorem accepted_step (h : machine.Reachable w) (haccepted : w.manager.validateLoadedState = .ok ())
    (hsucceeds : Succeeds w request) :
    (w.step request).manager.validateLoadedState = .ok () ↔ RenewsWithinLifetime w request := by
  have hnext : machine.Reachable (w.step request) := h.next trivial
  rw [accepted_iff h] at haccepted
  rw [accepted_iff hnext]
  constructor
  · intro hall
    cases request
    case renew id tentacle incarnation generation renewal =>
      intro lease hfound
      unfold Succeeds at hsucceeds
      unfold World.step at hall
      rcases hrun : (Request.renew id tentacle incarnation generation renewal).run.exec w.manager
        with ⟨err | reply, manager⟩
      · rw [hrun] at hsucceeds
        cases hsucceeds
      · rw [hrun] at hall
        simp only [Request.run, Fallible.bind_ok, exec_pure, Prod.mk.injEq] at hrun
        obtain ⟨_, _, hrun, -, rfl⟩ := hrun
        obtain ⟨found, -, hmove, rfl⟩ := renew_ok hrun
        cases hmove with
        | renewed hheld =>
          obtain rfl : found = lease := Option.some.inj (hheld.found.symm.trans hfound)
          exact hall id (found.renew renewal) HashMap.get_insert
    all_goals exact trivial
  · intro hwithin
    obtain ⟨moves, manager, hperforms, hstep, hrenewals⟩ := step_moves w request
    rw [hstep]
    refine moves_invariant (P := fun w => ∀ id lease, w.manager.leases.get id = some lease →
      lease.WithinLifetime) hperforms haccepted fun w' move hmem hkept hmove => ?_
    refine withinLifetime_move hmove hkept fun id lease renewal heq => ?_
    obtain ⟨hfound, -, tentacle, incarnation, generation, rfl⟩ :=
      hrenewals id lease renewal (heq ▸ hmem)
    exact hwithin lease hfound

/-- The states of a run of successful requests can all be reloaded exactly when no renewal ends
more than a lifetime after its lease was issued. -/
theorem reload_iff_within_lifetime {requests : List Request}
    (h : (machine.restrict Succeeds).Admits .init requests) :
    (∀ n, ((requests.take n).foldl World.step .init).manager.validateLoadedState = .ok ()) ↔
      ((machine.restrict Succeeds).restrict RenewsWithinLifetime).Admits .init requests := by
  have hinit : World.init.manager.validateLoadedState = .ok () := by
    refine (accepted_iff Machine.Reachable.init).mpr fun id lease hfound => ?_
    cases (HashMap.get_empty id).symm.trans hfound
  exact Machine.admits_restrict_iff (P := fun w => w.manager.validateLoadedState = .ok ())
    (fun w request hw haccepted hrequest => accepted_step hw.of_restrict haccepted hrequest.2)
    Machine.Reachable.init hinit h

instance (w : World) : (request : Request) → Decidable (RenewsWithinLifetime w request)
  | .renew id _ _ _ renewal =>
    inferInstanceAs (Decidable (∀ lease ∈ w.manager.leases.get id,
      renewal.expiresAt - lease.issuedAt ≤ maxLeaseLifetimeSeconds))
  | .grant .. | .accept .. | .release .. | .revoke .. | .expire .. | .failover .. =>
    inferInstanceAs (Decidable True)

def sampleRenewal (now renewalDeadline expiresAt : ℕ) : Request :=
  .renew sampleFirst sampleTentacle sampleIncarnation 1 ⟨now, renewalDeadline, expiresAt⟩

theorem sample_succeeds (requests : List Request)
    (h : requests = sampleAccepted ++ [sampleRenewal 100 80000 86400] ∨
      requests = sampleAccepted ++ [sampleRenewal 80000 80001 160000]) :
    (machine.restrict Succeeds).Admits .init requests := by
  rcases h with rfl | rfl <;> decide

/-- A renewal up to the lifetime. -/
theorem reload_iff_within_lifetime_sample :
    (sampleRun (sampleAccepted ++ [sampleRenewal 100 80000 86400])).manager.validateLoadedState =
      .ok () := by
  have hall := (reload_iff_within_lifetime (sample_succeeds _ (.inl rfl))).mpr (by decide) 3
  exact hall

/-- A permitted renewal ends 160000 seconds after its lease was issued, and the state it leaves
is refused. -/
theorem renewal_not_reloadable : (machine.restrict Succeeds).Admits .init
      (sampleAccepted ++ [sampleRenewal 80000 80001 160000]) ∧
    (sampleRun (sampleAccepted ++ [sampleRenewal 80000 80001 160000])).manager.validateLoadedState ≠
      .ok () := by
  refine ⟨sample_succeeds _ (.inr rfl), fun h => ?_⟩
  have hlifetimes := (accepted_iff (reachable_sampleRun _)).mp h
  have hstored : ((sampleRun (sampleAccepted ++ [sampleRenewal 80000 80001 160000])).manager.leases.get
      sampleFirst).map (fun lease => lease.expiresAt - lease.issuedAt) = some 160000 := by
    decide
  obtain ⟨lease, hfound, hlate⟩ := Option.map_eq_some_iff.mp hstored
  have hwithin : lease.expiresAt - lease.issuedAt ≤ 86400 := hlifetimes sampleFirst lease hfound
  omega

end Cthuwu.Leases
