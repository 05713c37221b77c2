import Cthuwu.ChatControl.World

/-!
# The limits of the gate

What each operation of the gate does to its grants, and what letting a join in asks of them. In
every run the admitted queries keep to their limits in every window, and none is admitted again
before its deadline (`limited_run`).
-/

namespace Cthuwu.ChatControl

open TokenEye
open LivenessGate

/-! ## Grants -/

namespace LivenessGate

variable {gate gate' : LivenessGate} {nowMs : ℤ} {senderInboxId : String}
  {senderAddress : Address} {query : LivenessQuery} {tentacleAgentId : String}
  {request : GrantRequest}

/-- The grants of a gate are grants of another one. -/
def SubGrants (gate gate' : LivenessGate) : Prop :=
  ∀ key grant, gate'.grants.get key = some grant → gate.grants.get key = some grant

theorem subGrants_prune : gate.SubGrants (gate.prune nowMs) :=
  fun _ _ h => (get_prune_grants.mp h).1

variable {grant : LivenessGrant}

theorem get_erase {key key' : String} (h : (gate.grants.erase key).get key' = some grant) :
    key' ≠ key ∧ gate.grants.get key' = some grant := by
  rw [HashMap.get_erase_apply] at h
  split_ifs at h with hkey
  exact ⟨hkey, h⟩

structure Issues (nowMs : ℤ) (senderInboxId : String) (senderAddress : Address)
    (query : LivenessQuery) (tentacleAgentId : String) (gate gate' : LivenessGate) : Prop where
  counts : (gate.prune nowMs).SameCounts gate'
  grants : gate'.grants = (gate.prune nowMs).grants.insert (key senderInboxId query.requestId)
    (.of nowMs senderInboxId senderAddress query tentacleAgentId)
  bounded : gate.Bounded → gate'.Bounded

theorem issueGrant_cases (nowMs : ℤ) (senderInboxId : String) (senderAddress : Address)
    (query : LivenessQuery) (tentacleAgentId : String) (gate : LivenessGate) :
    gate.issueGrant nowMs senderInboxId senderAddress query tentacleAgentId =
      (false, gate.prune nowMs) ∨
    ∃ gate', gate.issueGrant nowMs senderInboxId senderAddress query tentacleAgentId =
      (true, gate') ∧
        Issues nowMs senderInboxId senderAddress query tentacleAgentId gate gate' := by
  unfold issueGrant
  dsimp only
  split_ifs with hrefused hdeadline
  · exact .inl rfl
  · exact .inl rfl
  · refine .inr ⟨_, rfl, ⟨fun _ => rfl, rfl, rfl⟩, rfl, fun h => ?_⟩
    simp only [not_or, not_not, Bool.not_eq_true, not_le] at hrefused
    obtain ⟨-, -, -, -, hfresh, hroom⟩ := hrefused
    have h : (gate.prune nowMs).Bounded := h.prune
    exact
      { senders := h.senders
        perSender := h.perSender
        all := h.all
        replays := h.replays
        grants := by
          dsimp only
          unfold HashMap.contains at hfresh
          rw [Option.isSome_eq_false_iff, Option.isNone_iff_eq_none] at hfresh
          rw [HashMap.len_insert_fresh hfresh]
          exact hroom }

theorem allows_iff : grant.allows nowMs request = true ↔
    nowMs < grant.expiresAtMs ∧ grant.senderInboxId = request.senderInboxId ∧
      grant.senderAddress = request.senderAddress ∧
      grant.livenessRequestId = request.livenessRequestId ∧
      grant.tentacleAgentId = request.tentacleAgentId := by
  unfold LivenessGrant.allows
  simp only [Bool.and_eq_true, decide_eq_true_eq, and_assoc]

theorem hasGrant_true : (gate.hasGrant nowMs request).1 = true ↔
    ∃ grant, gate.grants.get (key request.senderInboxId request.livenessRequestId) =
      some grant ∧ grant.allows nowMs request = true := by
  unfold hasGrant
  dsimp only
  rw [Option.any_eq_true]
  constructor
  · rintro ⟨grant, hget, hallows⟩
    exact ⟨grant, (get_prune_grants.mp hget).1, hallows⟩
  · rintro ⟨grant, hget, hallows⟩
    exact ⟨grant, get_prune_grants.mpr ⟨hget, ((allows_iff).mp hallows).1⟩, hallows⟩

/-- What is left of a gate after a grant is asked for : no grant that allows what was asked. -/
structure Consumes (nowMs : ℤ) (request : GrantRequest) (gate gate' : LivenessGate) : Prop where
  counts : (gate.prune nowMs).SameCounts gate'
  sub : gate.SubGrants gate'
  live : ∀ key grant, gate'.grants.get key = some grant → nowMs < grant.expiresAtMs
  gone : ∀ grant, gate'.grants.get (key request.senderInboxId request.livenessRequestId) =
    some grant → grant.allows nowMs request = false
  bounded : gate.Bounded → gate'.Bounded

theorem consumeGrant_consumes (nowMs : ℤ) (request : GrantRequest) (gate : LivenessGate) :
    Consumes nowMs request gate (gate.consumeGrant nowMs request).2 := by
  unfold consumeGrant hasGrant
  dsimp only
  split_ifs with hhas
  · refine ⟨⟨fun _ => rfl, rfl, rfl⟩, fun key grant h => ?_, fun key grant h => ?_,
      fun grant h => absurd rfl (get_erase h).1, fun h => ?_⟩
    · exact subGrants_prune key grant (get_erase h).2
    · exact (get_prune_grants.mp (get_erase h).2).2
    · have h : (gate.prune nowMs).Bounded := h.prune
      exact
        { senders := h.senders
          perSender := h.perSender
          all := h.all
          replays := h.replays
          grants := HashMap.len_erase_le.trans h.grants }
  · refine ⟨⟨fun _ => rfl, rfl, rfl⟩, subGrants_prune, fun key grant h =>
      (get_prune_grants.mp h).2, fun grant h => ?_, .prune⟩
    rw [h, Option.any_some, Bool.not_eq_true] at hhas
    exact hhas

theorem Bounded.revoke (h : gate.Bounded) {requestId : String} :
    (gate.revokeGrant senderInboxId requestId).Bounded :=
  { senders := h.senders
    perSender := h.perSender
    all := h.all
    replays := h.replays
    grants := HashMap.len_erase_le.trans h.grants }

end LivenessGate

/-- What letting a join in does to the gate, and when it is a grant that lets it in. -/
theorem letIn_spec {self : Tentacle} {nowMs : ℤ} {join : JoinControl} {senderInboxId : String}
    {senderAddress : Address} {kind : EnrollmentKind} {enrollments : List Enrollment}
    {gate : LivenessGate} {admitted : Option (Option String)} {gate' : Option LivenessGate}
    (h : self.letIn nowMs join senderInboxId senderAddress kind enrollments (some gate) =
      (admitted, gate')) :
    (gate' = some gate ∨ gate' = some (gate.prune nowMs)) ∧
      ∀ requestId, admitted = some (some requestId) → (gate.hasGrant nowMs
        { senderInboxId := senderInboxId
          senderAddress := senderAddress
          livenessRequestId := requestId
          tentacleAgentId := self.agentId }).1 = true := by
  unfold Tentacle.letIn at h
  cases kind with
  | controller | intro =>
    cases join <;>
    · obtain ⟨rfl, rfl⟩ := Prod.mk.inj h
      exact ⟨.inl rfl, nofun⟩
  | liveness =>
    dsimp only at h
    split_ifs at h with henrolled
    · obtain ⟨rfl, rfl⟩ := Prod.mk.inj h
      exact ⟨.inl rfl, nofun⟩
    · cases join with
      | join requestId =>
        obtain ⟨rfl, rfl⟩ := Prod.mk.inj h
        exact ⟨.inl rfl, nofun⟩
      | livenessJoin requestId livenessRequestId =>
        obtain ⟨rfl, rfl⟩ := Prod.mk.inj h
        refine ⟨.inr rfl, fun asked hasked => ?_⟩
        split_ifs at hasked with hhas
        obtain rfl := Option.some.inj (Option.some.inj hasked)
        exact hhas

/-! ## Limits -/

structure World.Limited (world : World) : Prop where
  bounded : world.gate.Bounded
  counted : ∃ cutoff, cutoff ≤ world.nowMs - livenessWindowMs ∧
    world.gate.Counted world.admissions cutoff world.nowMs
  sorted : (times world.admissions).Pairwise (· ≤ ·)
  past : ∀ a ∈ world.admissions, a.atMs ≤ world.nowMs
  deadline : ∀ a ∈ world.admissions, a.atMs * 1000000 < a.expiresAtNs ∧
    a.expiresAtNs ≤ (a.atMs + livenessWindowMs) * 1000000
  all : WindowBounded livenessWindowMs livenessGlobalPerWindow (times world.admissions)
  perSender : ∀ sender, WindowBounded livenessWindowMs livenessPerSenderPerWindow
    (times (bySender sender world.admissions))
  once : world.admissions.Pairwise fun a b => a.senderInboxId = b.senderInboxId →
    a.requestId = b.requestId → (a.expiresAtNs : ℤ) ≤ b.atMs * 1000000

theorem limited_start (nowMs : ℤ) (enrollments : List Enrollment) :
    (World.start nowMs enrollments).Limited :=
  { bounded := bounded_new
    counted := ⟨_, le_rfl, fun sender => congrArg (Option.getD · []) (HashMap.get_empty sender),
      rfl, nofun⟩
    sorted := .nil
    past := nofun
    deadline := nofun
    all := windowBounded_nil
    perSender := fun _ => windowBounded_nil
    once := .nil }

variable {self : Tentacle} {world world' : World}

/-- Without a new admission the limits stay kept. -/
theorem World.Limited.keep (h : world.Limited) (hadmissions : world'.admissions = world.admissions)
    (hnow : world'.nowMs = world.nowMs)
    (hcounts : world.gate.SameCounts world'.gate ∨
      (world.gate.prune world.nowMs).SameCounts world'.gate)
    (hbounded : world'.gate.Bounded) : world'.Limited :=
  { bounded := hbounded
    counted := by
      obtain ⟨cutoff, hcutoff, hcounted⟩ := h.counted
      rw [hadmissions, hnow]
      rcases hcounts with hcounts | hcounts
      · exact ⟨cutoff, hcutoff, hcounted.same hcounts⟩
      · exact ⟨_, le_rfl, (hcounted.prune h.sorted hcutoff).same hcounts⟩
    sorted := hadmissions ▸ h.sorted
    past := fun a ha => hnow ▸ h.past a (hadmissions ▸ ha)
    deadline := fun a ha => h.deadline a (hadmissions ▸ ha)
    all := hadmissions ▸ h.all
    perSender := fun sender => hadmissions ▸ h.perSender sender
    once := hadmissions ▸ h.once }

theorem World.Limited.same (h : world.Limited) (hadmissions : world'.admissions = world.admissions)
    (hnow : world'.nowMs = world.nowMs) (hgate : world'.gate = world.gate) : world'.Limited :=
  h.keep hadmissions hnow (.inl (hgate ▸ LivenessGate.same_refl.toSameCounts)) (hgate ▸ h.bounded)

theorem World.Limited.wait (h : world.Limited) (elapsed : ℕ) :
    { world with nowMs := world.nowMs + elapsed }.Limited :=
  { bounded := h.bounded
    counted := by
      obtain ⟨cutoff, hcutoff, hcounted⟩ := h.counted
      refine ⟨cutoff, ?_, hcounted.later ?_⟩ <;> dsimp only <;> omega
    sorted := h.sorted
    past := fun a ha => (h.past a ha).trans (by dsimp only; omega)
    deadline := h.deadline
    all := h.all
    perSender := h.perSender
    once := h.once }

theorem times_append {admissions : List Admission} {a : Admission} :
    times (admissions ++ [a]) = times admissions ++ [a.atMs] :=
  List.map_append

theorem limited_receive (h : world.Limited) (localAgentId : Option String)
    (senderInboxId : String) (query : LivenessQuery) :
    (world.receive localAgentId senderInboxId query).Limited := by
  unfold World.receive
  cases localAgentId with
  | none => exact h
  | some tentacleAgentId =>
    dsimp only
    split_ifs with htarget
    · exact h
    obtain ⟨hlet, hadmits⟩ | ⟨hlet, haway⟩ := admitQuery_cases world.nowMs
      senderInboxId query world.gate
    · rw [hlet]
      obtain ⟨cutoff, hcutoff, hcounted⟩ := h.counted
      have hpruned := hcounted.prune h.sorted hcutoff
      have hpast : ∀ t ∈ times world.admissions, t ≤ world.nowMs := fun t ht => by
        obtain ⟨a, ha, rfl⟩ := List.mem_map.mp ht
        exact h.past a ha
      refine
        { bounded := hadmits.bounded h.bounded
          counted := ⟨_, le_rfl, hpruned.admit hadmits⟩
          sorted := ?_
          past := fun a ha => ?_
          deadline := fun a ha => ?_
          all := ?_
          perSender := fun sender => ?_
          once := ?_ }
      · dsimp only
        rw [times_append, List.pairwise_append]
        exact ⟨h.sorted, List.pairwise_singleton .., fun t ht t' ht' =>
          List.mem_singleton.mp ht' ▸ hpast t ht⟩
      · rcases List.mem_append.mp ha with ha | ha
        · exact h.past a ha
        · rw [List.mem_singleton.mp ha]
      · rcases List.mem_append.mp ha with ha | ha
        · exact h.deadline a ha
        · rw [List.mem_singleton.mp ha]
          exact ⟨hadmits.live, hadmits.deadline⟩
      · dsimp only
        rw [times_append]
        refine windowBounded_concat h.all hpast ?_
        rw [← hpruned.all]
        exact hadmits.room
      · dsimp only
        rw [bySender_append]
        split_ifs with hsender
        · rw [times_append]
          refine windowBounded_concat (h.perSender sender) (fun t ht => ?_) ?_
          · obtain ⟨a, ha, rfl⟩ := List.mem_map.mp ht
            exact h.past a (List.mem_of_mem_filter ha)
          · rw [← hpruned.countOf, ← hsender]
            exact hadmits.sender
        · rw [List.append_nil]
          exact h.perSender sender
      · refine List.pairwise_append.mpr ⟨h.once, List.pairwise_singleton .., ?_⟩
        intro a ha b hb hsender hrequest
        obtain rfl := List.mem_singleton.mp hb
        have hkept := hpruned.kept a ha
        have hkey : a.key = LivenessGate.key senderInboxId query.requestId := by
          unfold Admission.key
          rw [hsender, hrequest]
        rw [hkey, hadmits.fresh] at hkept
        have hdeadline := (h.deadline a ha).2
        dsimp only at hkept ⊢
        omega
    · rw [hlet]
      exact h.keep rfl rfl (haway.same.imp (·.toSameCounts) (·.toSameCounts))
        (haway.bounded h.bounded)

theorem limited_resolve (h : world.Limited) (index : ℕ) (senderAddress : Option Address) :
    (world.resolve index senderAddress).Limited := by
  unfold World.resolve
  cases world.probes[index]? with
  | none => exact h
  | some probe =>
    cases senderAddress with
    | none => exact h.same rfl rfl rfl
    | some senderAddress =>
      dsimp only
      obtain hissue | ⟨gate', hissue, hissues⟩ := issueGrant_cases world.nowMs
        probe.senderInboxId senderAddress probe.query probe.tentacleAgentId world.gate
      · rw [hissue]
        exact h.keep rfl rfl (.inr LivenessGate.same_refl.toSameCounts) h.bounded.prune
      · rw [hissue]
        exact h.keep rfl rfl (.inr hissues.counts) (hissues.bounded h.bounded)

theorem limited_answer (h : world.Limited) (index : ℕ) (sent : Bool) :
    (world.answer index sent).Limited := by
  unfold World.answer
  cases world.answers[index]? with
  | none => exact h
  | some answer =>
    dsimp only
    split_ifs
    · exact h.same rfl rfl rfl
    · exact h.keep rfl rfl (.inl ⟨fun _ => rfl, rfl, rfl⟩) h.bounded.revoke

theorem limited_join (h : world.Limited) (join : JoinControl) (senderInboxId : String)
    (senderAddress : Address) (resolution : AssignmentResolution) :
    (world.join self join senderInboxId senderAddress resolution).Limited := by
  unfold World.join
  split_ifs
  · exact h
  cases self.assigned resolution with
  | none => exact h
  | some assigned =>
    dsimp only
    cases hletIn : self.letIn world.nowMs join senderInboxId senderAddress assigned.2
        world.enrollments (some world.gate) with
    | mk admitted gate' =>
      have hgate : (gate'.getD world.gate) = world.gate ∨
          (gate'.getD world.gate) = world.gate.prune world.nowMs :=
        (letIn_spec hletIn).1.imp (fun hgate => by rw [hgate]; rfl) fun hgate => by rw [hgate]; rfl
      have hnext : { world with gate := gate'.getD world.gate }.Limited := by
        rcases hgate with hgate | hgate
        · exact h.same rfl rfl hgate
        · exact h.keep rfl rfl (.inr (hgate ▸ LivenessGate.same_refl.toSameCounts))
            (hgate ▸ h.bounded.prune)
      cases admitted with
      | none => exact hnext
      | some consumes => exact hnext.same rfl rfl rfl

theorem limited_enroll (h : world.Limited) (saved : Bool) : (world.enroll self saved).Limited := by
  unfold World.enroll
  cases world.enrolling with
  | none => exact h
  | some enrolling =>
    by_cases hsaved : saved = true
    · simp only [hsaved, not_true, if_false]
      cases enrolling.consumes with
      | none => exact h.same rfl rfl rfl
      | some requestId =>
        have hconsumes := consumeGrant_consumes world.nowMs
          { senderInboxId := enrolling.enrollment.inboxId
            senderAddress := enrolling.enrollment.address
            livenessRequestId := requestId
            tentacleAgentId := self.agentId } world.gate
        exact h.keep rfl rfl (.inr hconsumes.counts) (hconsumes.bounded h.bounded)
    · simp only [hsaved]
      exact h.same rfl rfl rfl

theorem limited_next (h : world.Limited) (event : ℕ × Event) : (world.next self event).Limited := by
  have h := h.wait event.1
  obtain ⟨elapsed, event⟩ := event
  unfold World.next World.perform
  cases event with
  | query localAgentId senderInboxId query => exact limited_receive h ..
  | resolved probe senderAddress => exact limited_resolve h ..
  | answered answer sent => exact limited_answer h ..
  | join join senderInboxId senderAddress resolution => exact limited_join h ..
  | enrolled saved => exact limited_enroll h saved
  | swept enrollments =>
    dsimp only
    split_ifs
    · exact h
    · exact h.same rfl rfl rfl

theorem limited_run (h : world.Limited) (events : List (ℕ × Event)) :
    (world.run self events).Limited := by
  induction events generalizing world with
  | nil => exact h
  | cons event events ih => exact ih (limited_next h event)

end Cthuwu.ChatControl
