import Cthuwu.Leases.World

/-!
# Fencing

A session's leases are numbered by their generations. `Recorded` ties the stored leases to the
list of grants : they differ in their status and times only, and the generations of a session
are 1, 2, 3, ... in the order of its grants. `Indexed` says that the leases in force are those
that `active_by_session` names, and that each has its session's newest generation. Both hold
after every run, so that a message with an older generation finds nothing to change
(`fencing`).
-/

namespace Cthuwu.Leases

open Council Routing LeaseManager Fallible

/-- The lease is the granted one, in another status or with other times. -/
def Lease.GrantedAs (lease grant : Lease) : Prop :=
  lease = { grant with
    status := lease.status
    expiresAt := lease.expiresAt
    renewalDeadline := lease.renewalDeadline }

/-- The generations of a session's leases, in the order they were granted. -/
def World.generationsOf (w : World) (session : SessionId) : List ℕ :=
  (w.grants.filter (·.sessionId = session)).map (·.generation)

variable {w : World} {manager : LeaseManager} {request : Request} {id : LeaseId}
  {lease lease' grant : Lease} {session : SessionId}

/-! ## Terms of a lease -/

theorem Lease.GrantedAs.id_eq (h : lease.GrantedAs grant) : lease.id = grant.id := by
  rw [Lease.GrantedAs] at h
  rw [h]

theorem Lease.GrantedAs.sessionId_eq (h : lease.GrantedAs grant) :
    lease.sessionId = grant.sessionId := by
  rw [Lease.GrantedAs] at h
  rw [h]

theorem Lease.GrantedAs.generation_eq (h : lease.GrantedAs grant) :
    lease.generation = grant.generation := by
  rw [Lease.GrantedAs] at h
  rw [h]

theorem Lease.GrantedAs.refl (lease : Lease) : lease.GrantedAs lease := rfl

theorem Lease.GrantedAs.trans (h : lease'.GrantedAs lease) (h' : lease.GrantedAs grant) :
    lease'.GrantedAs grant := by
  unfold Lease.GrantedAs at *
  rw [h'] at h
  exact h

/-! ## The record of grants -/

structure Recorded (w : World) : Prop where
  key : ∀ id lease, w.manager.leases.get id = some lease → lease.id = id
  granted : ∀ id lease, w.manager.leases.get id = some lease →
    ∃ grant ∈ w.grants, lease.GrantedAs grant
  stored : ∀ grant ∈ w.grants, ∃ lease, w.manager.leases.get grant.id = some lease ∧
    lease.GrantedAs grant
  nodup : (w.grants.map (·.id)).Nodup
  contiguous : ∀ session, w.generationsOf session =
    List.range' 1 ((w.manager.generations.get session).getD 0)
  positive : ∀ session generation, w.manager.generations.get session = some generation →
    0 < generation

theorem recorded_init : Recorded .init where
  key := fun id lease h => by cases (HashMap.get_empty id).symm.trans h
  granted := fun id lease h => by cases (HashMap.get_empty id).symm.trans h
  stored := fun grant h => absurd h List.not_mem_nil
  nodup := List.nodup_nil
  contiguous := fun session => by
    have hnone : World.init.manager.generations.get session = none := HashMap.get_empty session
    rw [hnone]
    rfl
  positive := fun session generation h => by cases (HashMap.get_empty session).symm.trans h

theorem Recorded.enter (h : Recorded w) (hgrantable : Grantable w.manager lease) :
    Recorded (w.move (.granted lease)) := by
  have hget : ∀ id, (w.move (.granted lease)).manager.leases.get id =
      if id = lease.id then some lease else w.manager.leases.get id :=
    fun id => HashMap.get_insert_apply
  have hgenerations : ∀ session, (w.move (.granted lease)).manager.generations.get session =
      if session = lease.sessionId then some lease.generation
      else w.manager.generations.get session :=
    fun session => HashMap.get_insert_apply
  have hgrants : (w.move (.granted lease)).grants = w.grants ++ [lease] := rfl
  have hother : ∀ grant ∈ w.grants, grant.id ≠ lease.id := by
    intro grant hgrant heq
    obtain ⟨stored, hstored, -⟩ := h.stored grant hgrant
    rw [heq, hgrantable.fresh] at hstored
    cases hstored
  refine ⟨?_, ?_, ?_, ?_, ?_, ?_⟩
  · intro id found hfound
    rw [hget] at hfound
    split_ifs at hfound with heq
    · cases hfound
      exact heq.symm
    · exact h.key id found hfound
  · intro id found hfound
    rw [hget] at hfound
    rw [hgrants]
    split_ifs at hfound with heq
    · cases hfound
      exact ⟨lease, List.mem_append_right _ (List.mem_singleton_self _), .refl _⟩
    · obtain ⟨grant, hgrant, hsame⟩ := h.granted id found hfound
      exact ⟨grant, List.mem_append_left _ hgrant, hsame⟩
  · intro grant hgrant
    rw [hgrants] at hgrant
    rw [hget]
    rcases List.mem_append.mp hgrant with hgrant | hgrant
    · rw [if_neg (hother grant hgrant)]
      exact h.stored grant hgrant
    · rw [List.mem_singleton.mp hgrant, if_pos rfl]
      exact ⟨lease, rfl, .refl _⟩
  · rw [hgrants, List.map_append, List.nodup_append]
    refine ⟨h.nodup, List.nodup_singleton _, fun id hid other hmem => ?_⟩
    obtain ⟨grant, hgrant, rfl⟩ := List.mem_map.mp hid
    rw [List.mem_singleton.mp hmem]
    exact hother grant hgrant
  · intro session
    have hsplit : (w.move (.granted lease)).generationsOf session = w.generationsOf session ++
        (if lease.sessionId = session then [lease.generation] else []) := by
      unfold World.generationsOf
      rw [hgrants, List.filter_append, List.map_append]
      split_ifs with heq <;> simp [heq]
    rw [hsplit, hgenerations, h.contiguous session]
    by_cases heq : session = lease.sessionId
    · subst heq
      have hnext : lease.generation = (w.manager.generations.get lease.sessionId).getD 0 + 1 :=
        hgrantable.generation
      rw [if_pos rfl, if_pos rfl, hnext, Option.getD_some, List.range'_1_concat, Nat.add_comm 1]
    · rw [if_neg heq, if_neg (Ne.symm heq), List.append_nil]
  · intro session generation hgeneration
    rw [hgenerations] at hgeneration
    split_ifs at hgeneration with heq
    · cases hgeneration
      rw [hgrantable.generation]
      exact Nat.succ_pos _
    · exact h.positive session generation hgeneration

variable {move : Move} {generation : ℕ}

/-- Another status or other times for a stored lease. -/
theorem Recorded.rewrite (h : Recorded w) (hfound : w.manager.leases.get id = some lease)
    (hsame : lease'.GrantedAs lease) (hmove : move.grant = none)
    (hleases : (move.apply w.manager).leases = w.manager.leases.insert id lease')
    (hgenerations : (move.apply w.manager).generations = w.manager.generations) :
    Recorded (w.move move) := by
  have hgrants : (w.move move).grants = w.grants := by
    rw [World.move, hmove]
    exact List.append_nil _
  have hget : ∀ other, (w.move move).manager.leases.get other =
      if other = id then some lease' else w.manager.leases.get other := by
    intro other
    change (move.apply w.manager).leases.get other = _
    rw [hleases]
    exact HashMap.get_insert_apply
  have hcounters : (w.move move).manager.generations = w.manager.generations := hgenerations
  refine ⟨?_, ?_, ?_, ?_, ?_, ?_⟩
  · intro other found hother
    rw [hget] at hother
    split_ifs at hother with heq
    · cases hother
      rw [heq, hsame.id_eq]
      exact h.key id lease hfound
    · exact h.key other found hother
  · intro other found hother
    rw [hget] at hother
    rw [hgrants]
    split_ifs at hother with heq
    · cases hother
      obtain ⟨grant, hgrant, hterms⟩ := h.granted id lease hfound
      exact ⟨grant, hgrant, hsame.trans hterms⟩
    · exact h.granted other found hother
  · intro grant hgrant
    rw [hgrants] at hgrant
    rw [hget]
    obtain ⟨found, hstored, hterms⟩ := h.stored grant hgrant
    split_ifs with heq
    · rw [heq, hfound] at hstored
      cases hstored
      exact ⟨lease', rfl, hsame.trans hterms⟩
    · exact ⟨found, hstored, hterms⟩
  · rw [hgrants]
    exact h.nodup
  · intro session
    rw [hcounters, World.generationsOf, hgrants]
    exact h.contiguous session
  · rw [hcounters]
    exact h.positive

theorem recorded_move (h : Recorded w) (hmove : Justified w.manager move) :
    Recorded (w.move move) := by
  cases hmove with
  | granted hgrantable => exact h.enter hgrantable
  | @accepted id lease now hheld =>
    have hsame : Lease.GrantedAs { lease with status := .active } lease := rfl
    exact h.rewrite hheld.found hsame rfl rfl rfl
  | @renewed id lease renewal hheld =>
    have hsame : (lease.renew renewal).GrantedAs lease := rfl
    exact h.rewrite hheld.found hsame rfl rfl rfl
  | @ended id lease status hfound =>
    have hsame : Lease.GrantedAs { lease with status } lease := rfl
    exact h.rewrite hfound hsame rfl rfl rfl

theorem reachable_recorded (h : machine.Reachable w) : Recorded w :=
  invariant recorded_init (fun _ _ => recorded_move) h

/-- A session's newest generation is no older than any granted. -/
theorem Recorded.newest (h : Recorded w) (hgrant : grant ∈ w.grants) :
    ∃ newest, w.manager.generations.get grant.sessionId = some newest ∧
      grant.generation ≤ newest := by
  have hmem : grant.generation ∈ w.generationsOf grant.sessionId :=
    List.mem_map_of_mem (List.mem_filter.mpr ⟨hgrant, decide_eq_true rfl⟩)
  rw [h.contiguous, List.mem_range'_1] at hmem
  cases hget : w.manager.generations.get grant.sessionId with
  | none =>
    rw [hget, Option.getD_none] at hmem
    omega
  | some newest =>
    rw [hget, Option.getD_some] at hmem
    exact ⟨newest, rfl, by omega⟩

/-! ## Leases in force -/

structure Indexed (manager : LeaseManager) : Prop where
  live : ∀ id lease, manager.leases.get id = some lease → lease.status.isLive = true →
    manager.activeBySession.get lease.sessionId = some id ∧
      manager.generations.get lease.sessionId = some lease.generation
  active : ∀ session id, manager.activeBySession.get session = some id →
    ∃ lease, manager.leases.get id = some lease ∧ lease.sessionId = session ∧
      lease.status.isLive = true

theorem indexed_fresh : Indexed .fresh where
  live := fun id lease h => by cases (HashMap.get_empty id).symm.trans h
  active := fun session id h => by cases (HashMap.get_empty session).symm.trans h

/-- A session without a live lease has no lease in force. -/
theorem Indexed.vacant (h : Indexed manager) (hvacant : manager.liveLease session = none)
    (hfound : manager.leases.get id = some lease) (hlive : lease.status.isLive = true) :
    lease.sessionId ≠ session := by
  rintro rfl
  have hactive := (h.live id lease hfound hlive).1
  unfold liveLease at hvacant
  rw [hactive, Option.bind_some, hfound, Option.filter_some, if_pos hlive] at hvacant
  cases hvacant

theorem Indexed.enter (h : Indexed manager) (hgrantable : Grantable manager lease) :
    Indexed (Move.apply manager (.granted lease)) := by
  have hget : ∀ id, (manager.enter lease).leases.get id =
      if id = lease.id then some lease else manager.leases.get id :=
    fun id => HashMap.get_insert_apply
  have hactive : ∀ session, (manager.enter lease).activeBySession.get session =
      if session = lease.sessionId then some lease.id else manager.activeBySession.get session :=
    fun session => HashMap.get_insert_apply
  have hgenerations : ∀ session, (manager.enter lease).generations.get session =
      if session = lease.sessionId then some lease.generation
      else manager.generations.get session :=
    fun session => HashMap.get_insert_apply
  refine ⟨fun id found hfound hlive => ?_, fun session id hnamed => ?_⟩
  · change (manager.enter lease).leases.get id = some found at hfound
    change (manager.enter lease).activeBySession.get found.sessionId = some id ∧
      (manager.enter lease).generations.get found.sessionId = some found.generation
    rw [hget] at hfound
    rw [hactive, hgenerations]
    split_ifs at hfound with heq
    · cases hfound
      rw [if_pos rfl, if_pos rfl, heq]
      exact ⟨rfl, rfl⟩
    · have hsession := h.vacant hgrantable.vacant hfound hlive
      rw [if_neg hsession, if_neg hsession]
      exact h.live id found hfound hlive
  · change (manager.enter lease).activeBySession.get session = some id at hnamed
    change ∃ found, (manager.enter lease).leases.get id = some found ∧ _
    rw [hactive] at hnamed
    rw [hget]
    split_ifs at hnamed with heq
    · cases hnamed
      rw [if_pos rfl]
      refine ⟨lease, rfl, heq.symm, ?_⟩
      rw [hgrantable.status]
      rfl
    · obtain ⟨found, hfound, hsession, hlive⟩ := h.active session id hnamed
      have hne : id ≠ lease.id := by
        rintro rfl
        rw [hgrantable.fresh] at hfound
        cases hfound
      rw [if_neg hne]
      exact ⟨found, hfound, hsession, hlive⟩

theorem Indexed.rewrite (h : Indexed manager) (hfound : manager.leases.get id = some lease)
    (hwas : lease.status.isLive = true) (hsame : lease'.GrantedAs lease)
    (hlive : lease'.status.isLive = true) : Indexed (manager.setLease id lease') := by
  have hget : ∀ other, (manager.setLease id lease').leases.get other =
      if other = id then some lease' else manager.leases.get other :=
    fun other => HashMap.get_insert_apply
  refine ⟨fun other found hother hotherLive => ?_, fun session other hnamed => ?_⟩
  · change manager.activeBySession.get found.sessionId = some other ∧
      manager.generations.get found.sessionId = some found.generation
    rw [hget] at hother
    split_ifs at hother with heq
    · cases hother
      rw [hsame.sessionId_eq, hsame.generation_eq, heq]
      exact h.live id lease hfound hwas
    · exact h.live other found hother hotherLive
  · obtain ⟨found, hstored, hsession, hfoundLive⟩ := h.active session other hnamed
    rw [hget]
    split_ifs with heq
    · rw [heq, hfound] at hstored
      cases hstored
      exact ⟨lease', rfl, hsame.sessionId_eq.trans hsession, hlive⟩
    · exact ⟨found, hstored, hsession, hfoundLive⟩

/-- A live lease ends, and its session has none in force. -/
theorem Indexed.end (h : Indexed manager) (hfound : manager.leases.get id = some lease)
    (hwas : lease.status.isLive = true) {status : LeaseStatus} (hfinal : status.isLive = false) :
    Indexed (Move.apply manager (.ended id lease status)) := by
  have hget : ∀ other, (Move.apply manager (.ended id lease status)).leases.get other =
      if other = id then some { lease with status } else manager.leases.get other :=
    fun other => HashMap.get_insert_apply
  have hactive : ∀ session, (Move.apply manager (.ended id lease status)).activeBySession.get session =
      if session = lease.sessionId then none else manager.activeBySession.get session :=
    fun session => HashMap.get_erase_apply
  have hnamed := (h.live id lease hfound hwas).1
  refine ⟨fun other found hother hlive => ?_, fun session other hother => ?_⟩
  · rw [hget] at hother
    split_ifs at hother with heq
    · cases hother
      exact absurd (hfinal.symm.trans hlive) (by decide)
    · obtain ⟨hindexed, hgeneration⟩ := h.live other found hother hlive
      have hne : found.sessionId ≠ lease.sessionId := by
        intro hsession
        rw [hsession, hnamed] at hindexed
        exact heq (Option.some.inj hindexed).symm
      rw [hactive, if_neg hne]
      exact ⟨hindexed, hgeneration⟩
  · rw [hactive] at hother
    split_ifs at hother with hsession
    obtain ⟨found, hstored, hfoundSession, hlive⟩ := h.active session other hother
    have hne : other ≠ id := by
      rintro rfl
      rw [hfound] at hstored
      cases hstored
      exact hsession hfoundSession.symm
    rw [hget, if_neg hne]
    exact ⟨found, hstored, hfoundSession, hlive⟩

theorem indexed_move (h : Indexed manager) (hmove : Justified manager move) :
    Indexed (move.apply manager) := by
  cases hmove with
  | granted hgrantable => exact h.enter hgrantable
  | @accepted id lease now hheld =>
    have hsame : Lease.GrantedAs { lease with status := .active } lease := rfl
    exact h.rewrite hheld.found hheld.live hsame rfl
  | @renewed id lease renewal hheld =>
    have hsame : (lease.renew renewal).GrantedAs lease := rfl
    exact h.rewrite hheld.found hheld.live hsame hheld.live
  | ended hfound hlive hfinal => exact h.end hfound hlive hfinal

theorem reachable_indexed (h : machine.Reachable w) : Indexed w.manager :=
  invariant (P := fun w => Indexed w.manager) indexed_fresh (fun _ _ => indexed_move) h

/-! ## Superseded leases -/

theorem Justified.keeps_ended (h : Justified manager move)
    (hfound : manager.leases.get id = some lease) (hended : lease.status.isLive = false) :
    (move.apply manager).leases.get id = some lease := by
  have hlive : ∀ other found, manager.leases.get other = some found →
      found.status.isLive = true → id ≠ other := by
    rintro other found hother hfoundLive rfl
    rw [hfound] at hother
    cases hother
    exact absurd (hended.symm.trans hfoundLive) (by decide)
  cases h with
  | @granted new hgrantable =>
    have hne : id ≠ new.id := by
      rintro rfl
      rw [hgrantable.fresh] at hfound
      cases hfound
    exact (HashMap.get_insert_ne hne).trans hfound
  | accepted hheld =>
    exact (HashMap.get_insert_ne (hlive _ _ hheld.found hheld.live)).trans hfound
  | renewed hheld =>
    exact (HashMap.get_insert_ne (hlive _ _ hheld.found hheld.live)).trans hfound
  | ended hother hwas => exact (HashMap.get_insert_ne (hlive _ _ hother hwas)).trans hfound

theorem step_keeps_ended (w : World) (request : Request)
    (hfound : w.manager.leases.get id = some lease) (hended : lease.status.isLive = false) :
    (w.step request).manager.leases.get id = some lease := by
  obtain ⟨moves, manager, hperforms, hstep, -⟩ := step_moves w request
  rw [hstep]
  exact moves_invariant (P := fun w => w.manager.leases.get id = some lease) hperforms hfound
    fun w move _ hw hmove => hmove.keeps_ended hw hended

theorem run_keeps_ended (requests : List Request) (hfound : w.manager.leases.get id = some lease)
    (hended : lease.status.isLive = false) :
    (requests.foldl World.step w).manager.leases.get id = some lease := by
  induction requests generalizing w with
  | nil => exact hfound
  | cons request requests ih => exact ih (step_keeps_ended w request hfound hended)

/-- The holder of a live lease presents its session's newest generation. -/
theorem Indexed.not_stale (h : Indexed w.manager) (hrecorded : Recorded w)
    (hfound : w.manager.leases.get id = some lease) (hlive : lease.status.isLive = true)
    (hgrant : grant ∈ w.grants) (hsession : lease.sessionId = grant.sessionId) :
    grant.generation ≤ lease.generation := by
  obtain ⟨newest, hnewest, hle⟩ := hrecorded.newest hgrant
  have hgeneration := (h.live id lease hfound hlive).2
  rw [hsession, hnewest] at hgeneration
  cases hgeneration
  exact hle

/-- A message with an older generation than one granted since changes nothing. -/
theorem stale_unchanged (h : machine.Reachable w)
    (hpresented : request.presented = some (id, generation))
    (hfound : w.manager.leases.get id = some lease) (hgrant : grant ∈ w.grants)
    (hsession : lease.sessionId = grant.sessionId) (hstale : generation < grant.generation) :
    (w.step request).manager = w.manager := by
  have hindexed := reachable_indexed h
  have hnot : ∀ found, w.manager.leases.get id = some found → found.status.isLive = true →
      generation ≠ found.generation := by
    rintro found hstored hlive rfl
    rw [hfound] at hstored
    cases hstored
    have := hindexed.not_stale (reachable_recorded h) hfound hlive hgrant hsession
    omega
  unfold World.step
  rcases hrun : request.run.exec w.manager with ⟨err | reply, manager⟩
  · have hsame := run_atomic w.manager err (congrArg Prod.fst hrun)
    rw [Fallible.after, hrun] at hsame
    exact hsame
  · cases request
    case accept other tentacle incarnation presented now =>
      cases hpresented
      simp only [Request.run, Fallible.bind_ok, exec_pure, Prod.mk.injEq] at hrun
      obtain ⟨_, _, hrun, -, rfl⟩ := hrun
      obtain ⟨found, hgeneration, hmove, rfl⟩ := accept_ok hrun
      cases hmove with
      | accepted hheld => exact absurd hgeneration (hnot found hheld.found hheld.live)
    case renew other tentacle incarnation presented renewal =>
      cases hpresented
      simp only [Request.run, Fallible.bind_ok, exec_pure, Prod.mk.injEq] at hrun
      obtain ⟨_, _, hrun, -, rfl⟩ := hrun
      obtain ⟨found, hgeneration, hmove, rfl⟩ := renew_ok hrun
      cases hmove with
      | renewed hheld => exact absurd hgeneration (hnot found hheld.found hheld.live)
    case release other tentacle incarnation presented now =>
      cases hpresented
      simp only [Request.run, Fallible.bind_ok, exec_pure, Prod.mk.injEq] at hrun
      obtain ⟨_, _, hrun, -, rfl⟩ := hrun
      rcases release_ok hrun with rfl | ⟨found, hgeneration, hmove, rfl⟩
      · rfl
      · cases hmove with
        | ended hstored hlive => exact absurd hgeneration (hnot found hstored hlive)
    all_goals cases hpresented

/-- Everything `authorize_work` checks. -/
theorem authorizeWork_ok {tentacle : TentacleId} {incarnation : Incarnation} {now : ℕ} :
    manager.authorizeWork session tentacle incarnation generation now = .ok lease ↔
      ∃ id, manager.activeBySession.get session = some id ∧ HeldAt manager id lease now ∧
        generation = lease.generation ∧ lease.assignedTentacle = tentacle ∧
        lease.tentacleIncarnation = incarnation ∧ lease.status = .active := by
  unfold authorizeWork verifyAssignee
  simp only [except_bind_ok, exists_unit, okOr_ok, failIf_ok, except_pure_ok, not_or, not_not,
    not_lt, not_le, Bool.not_eq_true', Bool.not_eq_false, ne_eq]
  constructor
  · rintro ⟨id, hnamed, _, hfound, ⟨hgeneration, ⟨htentacle, hincarnation⟩, hissued,
      ⟨hunexpired, hdeadline⟩, hlive⟩, hstatus, rfl⟩
    exact ⟨id, hnamed, ⟨hfound, hlive, hissued, hunexpired, hdeadline⟩, hgeneration, htentacle,
      hincarnation, hstatus⟩
  · rintro ⟨id, hnamed, ⟨hfound, hlive, hissued, hunexpired, hdeadline⟩, hgeneration, htentacle,
      hincarnation, hstatus⟩
    exact ⟨id, hnamed, lease, hfound, ⟨hgeneration, ⟨htentacle, hincarnation⟩, hissued,
      ⟨hunexpired, hdeadline⟩, hlive⟩, hstatus, rfl⟩

/-! ## The fence -/

/-- What work may be done at `now` : by the assignee of the session's newest lease, while that
lease is active and its times allow it. -/
structure Authorized (w : World) (session : SessionId) (tentacle : TentacleId)
    (incarnation : Incarnation) (generation now : ℕ) (lease : Lease) : Prop where
  stored : w.manager.leases.get lease.id = some lease
  ofSession : lease.sessionId = session
  assignee : lease.assignedTentacle = tentacle ∧ lease.tentacleIncarnation = incarnation
  presented : lease.generation = generation
  newest : ∀ grant ∈ w.grants, grant.sessionId = session → grant.generation ≤ generation
  status : lease.status = .active
  issued : lease.issuedAt ≤ now
  unexpired : now < lease.expiresAt
  deadline : now ≤ lease.renewalDeadline

/-- After any requests of any callers at any times : the stored leases are those granted, a
session has at most one that is live, and its generations are 1, 2, 3, ... in the order of the
grants. Work is authorized only to the assignee of the newest one, while it is active and
unexpired. Once a later generation has been granted, an earlier one authorizes nothing and a
message that presents it changes nothing. A lease that has ended stays as it is whatever
follows. -/
theorem fencing (h : machine.Reachable w) : (∀ id lease, w.manager.leases.get id = some lease →
      lease.id = id ∧ ∃ grant ∈ w.grants, lease.GrantedAs grant) ∧
    (∀ grant ∈ w.grants, ∃ lease, w.manager.leases.get grant.id = some lease ∧
      lease.GrantedAs grant) ∧
    (∀ id id' lease lease', w.manager.leases.get id = some lease →
      w.manager.leases.get id' = some lease' → lease.sessionId = lease'.sessionId →
      lease.status.isLive = true → lease'.status.isLive = true → id = id') ∧
    (∀ session, w.generationsOf session = List.range' 1 (w.generationsOf session).length) ∧
    (∀ session tentacle incarnation generation now lease,
      w.manager.authorizeWork session tentacle incarnation generation now = .ok lease →
        Authorized w session tentacle incarnation generation now lease) ∧
    (∀ grant ∈ w.grants, ∀ generation < grant.generation,
      (∀ tentacle incarnation now lease, w.manager.authorizeWork grant.sessionId tentacle
        incarnation generation now ≠ .ok lease) ∧
      ∀ request id lease, request.presented = some (id, generation) →
        w.manager.leases.get id = some lease → lease.sessionId = grant.sessionId →
          (w.step request).manager = w.manager) ∧
    ∀ id lease, w.manager.leases.get id = some lease → lease.status.isLive = false →
      ∀ requests : List Request,
        (requests.foldl World.step w).manager.leases.get id = some lease := by
  have hrecorded := reachable_recorded h
  have hindexed := reachable_indexed h
  have hauthorized : ∀ session tentacle incarnation generation now lease,
      w.manager.authorizeWork session tentacle incarnation generation now = .ok lease →
        Authorized w session tentacle incarnation generation now lease := by
    intro session tentacle incarnation generation now lease hwork
    obtain ⟨id, hnamed, hheld, rfl, rfl, rfl, hstatus⟩ := (authorizeWork_ok).mp hwork
    obtain ⟨found, hfound, rfl, -⟩ := hindexed.active session id hnamed
    obtain rfl : found = lease := Option.some.inj (hfound.symm.trans hheld.found)
    have hid := hrecorded.key id found hfound
    refine ⟨hid ▸ hfound, rfl, ⟨rfl, rfl⟩, rfl, fun grant hgrant hsession => ?_, hstatus,
      hheld.issued, hheld.unexpired, hheld.deadline⟩
    exact hindexed.not_stale hrecorded hfound hheld.live hgrant hsession.symm
  refine ⟨fun id lease hfound => ⟨hrecorded.key id lease hfound, hrecorded.granted id lease hfound⟩,
    hrecorded.stored, ?_, ?_, hauthorized, ?_, fun id lease hfound hended requests =>
      run_keeps_ended requests hfound hended⟩
  · intro id id' lease lease' hfound hfound' hsession hlive hlive'
    have hnamed := (hindexed.live id lease hfound hlive).1
    rw [hsession, (hindexed.live id' lease' hfound' hlive').1] at hnamed
    exact (Option.some.inj hnamed).symm
  · intro session
    have hcontiguous := hrecorded.contiguous session
    have hlength := congrArg List.length hcontiguous
    rw [List.length_range'] at hlength
    rw [hlength]
    exact hcontiguous
  · intro grant hgrant generation hstale
    refine ⟨fun tentacle incarnation now lease hwork => ?_,
      fun request id lease hpresented hfound hsession =>
        stale_unchanged h hpresented hfound hgrant hsession hstale⟩
    have hnewest := (hauthorized _ _ _ _ _ _ hwork).newest grant hgrant rfl
    omega

/-- The accepted lease is superseded, and the next one is accepted. -/
def sampleSuperseded : List Request :=
  sampleAccepted ++
    [.failover sampleFirst sampleSecond (sampleDecision sampleRequestId) sampleCthulhu
        ⟨10, 86400, 80000⟩,
      .accept sampleSecond sampleTentacle sampleIncarnation 2 11]

/-- The superseded holder is not authorized, the present one is. -/
theorem fencing_sample : (sampleRun sampleSuperseded).generationsOf sampleSession = [1, 2] ∧
    ((sampleRun sampleSuperseded).manager.authorizeWork sampleSession sampleTentacle
      sampleIncarnation 2 20).toOption.map (·.id) = some sampleSecond ∧
    ∀ lease, (sampleRun sampleSuperseded).manager.authorizeWork sampleSession sampleTentacle
      sampleIncarnation 1 20 ≠ .ok lease := by
  have hgenerations : (sampleRun sampleSuperseded).generationsOf sampleSession = [1, 2] := by
    decide
  refine ⟨hgenerations, by decide, fun lease hwork => ?_⟩
  have hlast : 2 ∈ (sampleRun sampleSuperseded).generationsOf sampleSession := by
    rw [hgenerations]
    decide
  obtain ⟨grant, hmem, hgeneration⟩ := List.mem_map.mp hlast
  obtain ⟨hgrant, hsession⟩ := List.mem_filter.mp hmem
  have hnewest := ((fencing (reachable_sampleRun sampleSuperseded)).2.2.2.2.1
    sampleSession sampleTentacle sampleIncarnation 1 20 lease hwork).newest grant hgrant
    (of_decide_eq_true hsession)
  omega

end Cthuwu.Leases
