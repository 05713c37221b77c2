import Cthuwu.Lib.Runs
import Cthuwu.ChatControl.Membership

/-!
# Sweeping, and whole runs

A sweep of the Acolytes group keeps the members that `SweepRequest.kept` says are still assigned
here, and their enrollments. With what `enroll` leaves (`ends_enroll`), every call of a run whose
calls meet their conditions leaves the members and the enrollments alike (`Call.Holds`).
-/

namespace Cthuwu.ChatControl

open TokenEye
open Fallible

variable {self : Tentacle} {node node' : Node} {request : SweepRequest}

/-! ## What a sweep learns of a member -/

/-- The enrollment that a member keeps. Without one it is removed. -/
def SweepRequest.kept (self : Tentacle) (request : SweepRequest) (enrollments : List Enrollment)
    (member : String) : Option Enrollment :=
  (enrollments.find? (·.inboxId = member)).bind fun persisted =>
    match request.addressOf persisted with
    | .error _ | .ok none => none
    | .ok (some address) =>
      match request.resolve address with
      | .registryUnavailable => some persisted
      | resolution =>
        (self.assigned resolution).map fun (revision, _) => ⟨member, address, revision⟩

/-- A resolution has shown that an enrolled inbox is no longer assigned here : it has no address any
more, or the registry was read and does not assign it. -/
def SweepRequest.Moved (self : Tentacle) (request : SweepRequest) (enrollment : Enrollment) :
    Prop :=
  request.addressOf enrollment = .ok none ∨
    ∃ address, request.addressOf enrollment = .ok (some address) ∧
      request.resolve address ≠ .registryUnavailable ∧
      self.assigned (request.resolve address) = none

def SweepRequest.Resolves (request : SweepRequest) (enrollments : List Enrollment)
    (member : String) : Prop :=
  ∀ persisted, enrollments.find? (·.inboxId = member) = some persisted →
    ∃ address, request.addressOf persisted = .ok address

variable {members removed : List String} {enrollments : List Enrollment} {member : String}

theorem kept_inboxId {e : Enrollment} (h : request.kept self enrollments member = some e) :
    e.inboxId = member := by
  unfold SweepRequest.kept at h
  obtain ⟨persisted, hfind, h⟩ := Option.bind_eq_some_iff.mp h
  have hmember := List.find?_some hfind
  split at h
  · cases h
  · cases h
  · split at h
    · obtain rfl := Option.some.inj h
      exact of_decide_eq_true hmember
    · obtain ⟨_, -, rfl⟩ := Option.map_eq_some_iff.mp h
      rfl

/-- An enrolled member that is not kept has moved. -/
theorem moved_of_kept {persisted : Enrollment} (hresolves : request.Resolves enrollments member)
    (hfind : enrollments.find? (·.inboxId = member) = some persisted)
    (h : request.kept self enrollments member = none) : request.Moved self persisted := by
  obtain ⟨address, haddress⟩ := hresolves persisted hfind
  unfold SweepRequest.kept at h
  rw [hfind, Option.bind_some, haddress] at h
  cases address with
  | none => exact .inl haddress
  | some address =>
    dsimp only at h
    cases hresolution : request.resolve address with
    | registryUnavailable =>
      rw [hresolution] at h
      cases h
    | _ =>
      rw [hresolution] at h
      refine .inr ⟨address, haddress, ?_, ?_⟩
      · rw [hresolution]
        exact nofun
      · rw [hresolution]
        exact Option.map_eq_none_iff.mp h

theorem sweepMember_ok {swept swept' : List String × List Enrollment}
    (h : sweepMember self request enrollments swept member = .ok swept') :
    (member = self.inboxId ∧ swept' = swept) ∨ (member ≠ self.inboxId ∧
      request.Resolves enrollments member ∧
      swept' = match request.kept self enrollments member with
        | none => (swept.1 ++ [member], swept.2)
        | some e => (swept.1, swept.2 ++ [e])) := by
  obtain ⟨removed, retained⟩ := swept
  unfold sweepMember at h
  dsimp only at h
  split_ifs at h with hmember
  · exact .inl ⟨hmember, (Except.ok.inj h).symm⟩
  refine .inr ⟨hmember, ?_⟩
  unfold SweepRequest.Resolves SweepRequest.kept
  cases hfind : enrollments.find? (·.inboxId = member) with
  | none =>
    rw [hfind] at h
    exact ⟨nofun, (Except.ok.inj h).symm⟩
  | some persisted =>
    rw [hfind] at h
    dsimp only at h
    obtain ⟨address, haddress, h⟩ := except_bind_ok.mp h
    refine ⟨fun _ hpersisted => ⟨address, Option.some.inj hpersisted ▸ haddress⟩, ?_⟩
    rw [Option.bind_some, haddress]
    cases address with
    | none => exact (Except.ok.inj h).symm
    | some address =>
      dsimp only at h ⊢
      cases hresolution : request.resolve address with
      | registryUnavailable =>
        rw [hresolution] at h
        exact (Except.ok.inj h).symm
      | _ =>
        rw [hresolution] at h
        dsimp only at h ⊢
        cases hassigned : self.assigned _ with
        | none =>
          rw [hassigned] at h
          exact (Except.ok.inj h).symm
        | some assigned =>
          rw [hassigned] at h
          exact (Except.ok.inj h).symm

/-- The members that a sweep asks about. -/
def others (self : Tentacle) (members : List String) : List String :=
  members.filter (· ≠ self.inboxId)

/-- A sweep that returns has asked about every member, and keeps those it says it keeps. -/
theorem sweepMembers_ok {retained : List Enrollment}
    (h : sweepMembers self request enrollments members = .ok (removed, retained)) :
    (∀ member ∈ others self members, request.Resolves enrollments member) ∧
      removed = (others self members).filter (request.kept self enrollments · = none) ∧
      retained = (others self members).filterMap (request.kept self enrollments) := by
  have hfold : ∀ (members : List String) (swept swept' : List String × List Enrollment),
      members.foldlM (sweepMember self request enrollments) swept = .ok swept' →
      (∀ member ∈ others self members, request.Resolves enrollments member) ∧
        swept'.1 = swept.1 ++ (others self members).filter
          (request.kept self enrollments · = none) ∧
        swept'.2 = swept.2 ++ (others self members).filterMap (request.kept self enrollments) := by
    intro members
    induction members with
    | nil =>
      intro swept swept' h
      obtain rfl := Except.ok.inj h
      exact ⟨nofun, (List.append_nil _).symm, (List.append_nil _).symm⟩
    | cons member members ih =>
      intro swept swept' h
      rw [List.foldlM_cons] at h
      obtain ⟨next, hnext, h⟩ := except_bind_ok.mp h
      obtain ⟨hresolves, hremoved, hretained⟩ := ih next swept' h
      rcases sweepMember_ok hnext with ⟨hmember, rfl⟩ | ⟨hmember, hresolve, rfl⟩
      · have hothers : others self (member :: members) = others self members :=
          List.filter_cons_of_neg (by simpa using hmember)
        rw [hothers]
        exact ⟨hresolves, hremoved, hretained⟩
      · have hothers : others self (member :: members) = member :: others self members :=
          List.filter_cons_of_pos (by simpa using hmember)
        rw [hothers]
        refine ⟨List.forall_mem_cons.mpr ⟨hresolve, hresolves⟩, ?_⟩
        rw [hremoved, hretained]
        cases hkept : request.kept self enrollments member with
        | none =>
          rw [List.filter_cons_of_pos (by simpa using hkept), List.filterMap_cons_none hkept]
          exact ⟨List.append_assoc _ _ _, rfl⟩
        | some e =>
          rw [List.filter_cons_of_neg (by simp [hkept]), List.filterMap_cons_some hkept]
          exact ⟨rfl, List.append_assoc _ _ _⟩
  have := hfold members ([], []) (removed, retained) h
  exact this

/-! ## One sweep -/

/-- The sweep gets as far as the members that go, and one does. -/
structure SweepRequest.Removes (tentacle : Tentacle) (request : SweepRequest) (node : Node) :
    Prop where
  load : (ChatControl.load tentacle request.load).exec node = (.ok node.state, node)
  bound : node.state.acolytesGroupId.isSome = true
  group : request.group = none
  members : request.members = none
  resolves : ∀ member ∈ others tentacle node.members, request.Resolves node.state.enrollments member
  goes : ∃ member ∈ others tentacle node.members,
    request.kept tentacle node.state.enrollments member = none

/-- The condition on a sweep : if members go, the group and the file are both changed. -/
structure SweepRequest.Meets (tentacle : Tentacle) (request : SweepRequest) (node : Node) :
    Prop where
  removed : request.Removes tentacle node → ∀ e, request.remove ≠ .unconfirmed e
  saved : request.Removes tentacle node → request.remove = .written → Storable tentacle
      { node.state with
        enrollments := (others tentacle node.members).filterMap
          (request.kept tentacle node.state.enrollments) } ∧
      ∀ e, request.save ≠ .refused e

/-- What a sweep leaves : the members are the enrolled inboxes, and those removed have moved. -/
structure Sweeps (tentacle : Tentacle) (request : SweepRequest) (node : Node)
    (r : Except Failure ℕ) (node' : Node) : Prop where
  consistent : node'.Consistent tentacle
  moved : ∀ inboxId ∈ node.members, inboxId ∉ node'.members →
    ∃ e ∈ node.state.enrollments, e.inboxId = inboxId ∧ request.Moved tentacle e

theorem sweeps_same {r : Except Failure ℕ} (h : node.Consistent self) :
    Sweeps self request node r node :=
  ⟨h, fun _ hmember hnot => absurd hmember hnot⟩

theorem mem_others : member ∈ others self members ↔ member ∈ members ∧ member ≠ self.inboxId := by
  unfold others
  rw [List.mem_filter, decide_eq_true_eq]

theorem Group.removeMembers_id (inboxIds : List String) (group : Group) :
    (group.removeMembers inboxIds).id = group.id := rfl

theorem Group.removeMembers_nil (group : Group) : group.removeMembers [] = group := by
  unfold Group.removeMembers
  simp only [List.not_mem_nil, not_false_eq_true, decide_true, List.filter_true]

theorem onGroup_same {id : String} {change : Group → Group} (groups : List Group)
    (h : ∀ group, change group = group) : onGroup id change groups = groups := by
  unfold onGroup
  simp only [h, ite_self, List.map_id']

/-- The group keeps those it says it keeps, and so does the file. -/
theorem sweeps_saved {r : Except Failure ℕ} {id : String} {group : Group} (h : node.Consistent self)
    (hid : node.state.acolytesGroupId = some id)
    (hgroup : node.groups.find? (·.id = id) = some group)
    (hresolves : ∀ member ∈ others self node.members,
      request.Resolves node.state.enrollments member)
    (hremoved : removed = (others self node.members).filter
      (request.kept self node.state.enrollments · = none))
    (hgroups : node'.groups = onGroup id (·.removeMembers removed) node.groups)
    (hfile : node'.file = some
      { node.state with
        enrollments := (others self node.members).filterMap
          (request.kept self node.state.enrollments) }) : Sweeps self request node r node' := by
  have hstate : node'.state =
      { node.state with
        enrollments := (others self node.members).filterMap
          (request.kept self node.state.enrollments) } :=
    congrArg (Option.getD · _) hfile
  have hmembers : ∀ inboxId, inboxId ∈ node'.members ↔ inboxId ∈ node.members ∧
      inboxId ∉ removed := fun inboxId => by
    unfold Node.members
    rw [membersOf_bound (show _ = some id by rw [hstate]; exact hid), hgroups,
      find_onGroup node.groups (Group.removeMembers_id removed), membersOf_bound hid, hgroup]
    exact Group.mem_removeMembers
  have hgone : ∀ inboxId, inboxId ∈ removed ↔ inboxId ∈ others self node.members ∧
      request.kept self node.state.enrollments inboxId = none := fun inboxId => by
    rw [hremoved, List.mem_filter, decide_eq_true_eq]
  refine ⟨fun inboxId => ?_, fun inboxId hmember hnot => ?_⟩
  · rw [hmembers, hstate, hgone, mem_others]
    constructor
    · rintro ⟨⟨hmember, hstays⟩, hother⟩
      obtain ⟨e, hkept⟩ := Option.ne_none_iff_exists'.mp fun hnone =>
        hstays ⟨⟨hmember, hother⟩, hnone⟩
      exact ⟨e, List.mem_filterMap.mpr ⟨inboxId, (mem_others).mpr ⟨hmember, hother⟩, hkept⟩,
        kept_inboxId hkept⟩
    · rintro ⟨e, he, rfl⟩
      obtain ⟨member, hmember, hkept⟩ := List.mem_filterMap.mp he
      obtain rfl := kept_inboxId hkept
      obtain ⟨hmember, hother⟩ := (mem_others).mp hmember
      refine ⟨⟨hmember, fun ⟨_, hnone⟩ => ?_⟩, hother⟩
      rw [hkept] at hnone
      cases hnone
  · have hremoved : inboxId ∈ removed := by
      by_contra hstays
      exact hnot ((hmembers inboxId).mpr ⟨hmember, hstays⟩)
    obtain ⟨hother, hnone⟩ := (hgone inboxId).mp hremoved
    obtain ⟨e, he, henrolled⟩ := (h inboxId).mp ((mem_others).mp hother)
    have hsome : (node.state.enrollments.find? (·.inboxId = inboxId)).isSome = true :=
      List.find?_isSome.mpr ⟨e, he, decide_eq_true henrolled⟩
    obtain ⟨persisted, hfind⟩ := Option.isSome_iff_exists.mp hsome
    have hinbox := List.find?_some hfind
    exact ⟨persisted, List.mem_of_find?_eq_some hfind, of_decide_eq_true hinbox,
      moved_of_kept (hresolves inboxId hother) hfind hnone⟩

/-- The file gets the new state, or nothing changes. -/
theorem ends_saveSwept {Q : Except Failure ℕ → Node → Prop} {state : ChatControlState} (count : ℕ)
    (hrefused : ∀ e, (Storable self state → ∃ e, request.save = .refused e) → Q (.error e) node)
    (hsaved : ∀ r after, after.groups = node.groups → after.file = some state → Q r after) :
    Fallible.Ends Q (save self request.save state >>= fun _ => pure count) node := by
  refine ends_bind ?_
  unfold Fallible.Ends
  by_cases hstorable : Storable self state
  · rw [save_exec hstorable]
    cases hsave : request.save with
    | written => exact hsaved _ _ rfl rfl
    | unconfirmed error => exact hsaved _ _ rfl rfl
    | refused error => exact hrefused _ fun _ => ⟨error, hsave⟩
  · have hexec : ∃ e, (save self request.save state).exec node = (.error e, node) :=
      save_not_storable hstorable
    obtain ⟨e, hexec⟩ := hexec
    rw [hexec]
    exact hrefused e fun h => absurd h hstorable

theorem ends_pruneMovedAssignments (h : node.Consistent self) (hmeets : request.Meets self node) :
    Fallible.Ends (Sweeps self request node) (pruneMovedAssignments self request) node := by
  unfold pruneMovedAssignments
  refine (ends_load request.load).bind (fun state loaded hload => ?_) fun e loaded hload => ?_
  swap
  · obtain ⟨-, rfl, -⟩ := hload
    exact sweeps_same h
  obtain ⟨hexec, rfl, hstate, -⟩ := hload
  obtain rfl := hstate state rfl
  cases hid : loaded.state.acolytesGroupId with
  | none => exact ends_pure (sweeps_same h)
  | some id =>
    refine ends_get_bind ?_
    cases hgroup : loaded.groups.find? (·.id = id) with
    | none => exact ends_throw (sweeps_same h)
    | some group =>
      have hmembers : loaded.members = group.members := by
        unfold Node.members
        rw [membersOf_bound hid, hgroup]
        rfl
      dsimp only
      refine ends_lift_bind (fun _ _ => sweeps_same h) fun _ hgroupFault => ?_
      refine ends_lift_bind (fun _ _ => sweeps_same h) fun _ hmembersFault => ?_
      refine ends_lift_bind (fun _ _ => sweeps_same h) fun swept hswept => ?_
      obtain ⟨removed, retained⟩ := swept
      rw [← hmembers] at hswept
      obtain ⟨hresolves, hremoved, hretained⟩ := sweepMembers_ok hswept
      have hswept : ({ loaded.state with
              acolytesGroupId := some id
              enrollments := retained } : ChatControlState) =
            { loaded.state with
              enrollments := (others self loaded.members).filterMap
                (request.kept self loaded.state.enrollments) } := by
        rw [hretained, ← hid]
      have hafter : ∀ (r : Except Failure ℕ) (after : Node),
          after.groups = onGroup id (·.removeMembers removed) loaded.groups →
          after.file = some
            { loaded.state with
              acolytesGroupId := some id
              enrollments := retained } →
          Sweeps self request loaded r after := fun _ _ hgroups hfile =>
        sweeps_saved h hid hgroup hresolves hremoved hgroups (hfile.trans (congrArg some hswept))
      by_cases hnone : removed = []
      · have hsame : onGroup id (·.removeMembers removed) loaded.groups = loaded.groups :=
          onGroup_same loaded.groups fun group => hnone ▸ group.removeMembers_nil
        rw [if_neg (not_not_intro hnone)]
        exact ends_saveSwept _ (fun _ _ => sweeps_same h) fun r after hgroups hfile =>
          hafter r after (hgroups.trans hsame.symm) hfile
      · have hremoves : request.Removes self loaded := by
          obtain ⟨member, hmember⟩ := List.exists_mem_of_ne_nil removed hnone
          rw [hremoved, List.mem_filter, decide_eq_true_eq] at hmember
          exact
            { load := hexec
              bound := by rw [hid]; rfl
              group := attempt_ok hgroupFault
              members := attempt_ok hmembersFault
              resolves := hresolves
              goes := ⟨member, hmember⟩ }
        rw [if_pos hnone]
        unfold changeGroup
        refine ends_bind (ends_get_bind ?_)
        cases hremove : request.remove with
        | refused error => exact sweeps_same h
        | unconfirmed error => exact absurd hremove (hmeets.removed hremoves error)
        | written =>
          obtain ⟨hstorable, hsave⟩ := hmeets.saved hremoves hremove
          refine ends_saveSwept _ (fun e hrefused => ?_) fun r after hgroups hfile =>
            hafter r after hgroups hfile
          obtain ⟨error, herror⟩ := hrefused (hswept ▸ hstorable)
          exact absurd herror (hsave error)

/-! ## Whole runs -/

/-- A call, or a change of the gate : a query, or a restart. -/
inductive Call
  | enroll (globalGroupId : String) (request : EnrollRequest)
  | pruneMovedAssignments (request : SweepRequest)
  | gate (gate : Option LivenessGate)

def Call.next (self : Tentacle) (node : Node) : Call → Node
  | .enroll globalGroupId request => (ChatControl.enroll self globalGroupId request).after node
  | .pruneMovedAssignments request =>
    (ChatControl.pruneMovedAssignments self request).after node
  | .gate changed => { node with gate := changed }

def Call.Meets (self : Tentacle) (node : Node) : Call → Prop
  | .enroll globalGroupId request => request.Meets self globalGroupId node
  | .pruneMovedAssignments request => request.Meets self node
  | .gate _ => True

/-- What is asked of a call. -/
def Call.Holds (self : Tentacle) (node : Node) : Call → Prop
  | .enroll globalGroupId request =>
    (ChatControl.enroll self globalGroupId request).Ends (Enrolls self node) node
  | .pruneMovedAssignments request =>
    (ChatControl.pruneMovedAssignments self request).Ends (Sweeps self request node) node
  | .gate changed => Node.Consistent self { node with gate := changed }

def calls (self : Tentacle) (start : Node) : Machine Node Call :=
  { init := start
    Allowed := fun _ _ => True
    next := Call.next self }

theorem Call.holds {call : Call} (h : node.Consistent self) (hmeets : call.Meets self node) :
    call.Holds self node := by
  cases call with
  | enroll globalGroupId request => exact ends_enroll h hmeets
  | pruneMovedAssignments request => exact ends_pruneMovedAssignments h hmeets
  | gate gate => exact h

theorem Call.Holds.consistent {call : Call} (h : call.Holds self node) :
    (call.next self node).Consistent self := by
  cases call with
  | enroll globalGroupId request => exact Fallible.Ends.after h fun _ _ h => h.consistent
  | pruneMovedAssignments request => exact Fallible.Ends.after h fun _ _ h => h.consistent
  | gate gate => exact h

/-- In a run whose calls all meet their conditions, every call leaves the members of the Acolytes
group and the enrollments alike, removes only who has moved, and saves what is loaded again. -/
theorem membership_is_enrollment {start : Node} (hstart : start.Consistent self)
    (hreach : ((calls self start).restrict fun node call => call.Meets self node).Reachable node)
    {call : Call} (hmeets : call.Meets self node) : call.Holds self node := by
  have hnode : node.Consistent self := by
    refine hreach.invariant hstart fun s call _ h hallowed => ?_
    exact (Call.holds h hallowed.2).consistent
  exact Call.holds hnode hmeets

/-! ## Two runs -/

def exampleTentacle : Tentacle :=
  { inboxId := "bbbbbbbbbbbbbbbbbbbbbbbbbbbbbbbbbbbbbbbbbbbbbbbbbbbbbbbbbbbbbbbb"
    agentId := "7" }

def exampleSender : String :=
  "aaaaaaaaaaaaaaaaaaaaaaaaaaaaaaaaaaaaaaaaaaaaaaaaaaaaaaaaaaaaaaaa"

def exampleGroupId : String :=
  "cccccccccccccccccccccccccccccccccccccccccccccccccccccccccccccccc"

def exampleGlobalGroupId : String :=
  "dddddddddddddddddddddddddddddddddddddddddddddddddddddddddddddddd"

def exampleRevision : String :=
  "1:0x0000000000000000000000000000000000000000000000000000000000000000"

def exampleNode : Node :=
  { gate := none
    groups := [.empty exampleTentacle exampleGroupId]
    globalMembers := []
    file := some
      { acolytesGroupId := some exampleGroupId
        globalGroupId := none
        enrollments := [] } }

/-- A join of an introduced acolyte. Only the Global group may fail. -/
def exampleEnroll (globalAdd : Storage) : EnrollRequest :=
  { join := .join "1"
    senderInboxId := exampleSender
    senderAddress := some 1
    resolution :=
      .assignedHere exampleRevision exampleTentacle.agentId exampleTentacle.inboxId .intro
    nowMs := 0
    savedMs := 0
    createdId := exampleGroupId
    faults :=
      { load := none
        direct := none
        acolytes := none
        create := .written
        created := none
        bind := .written
        global := none
        acolytesMembers := none
        acolytesAdd := .written
        globalMembers := none
        globalAdd := globalAdd
        save := .written } }

/-- A sweep that finds everyone assigned elsewhere. -/
def exampleSweep : SweepRequest :=
  { load := none
    group := none
    members := none
    addressOf := fun enrollment => .ok (some enrollment.address)
    resolve := fun _ => .assignedElsewhere exampleRevision
    remove := .written
    save := .written }

theorem exampleNode_consistent : exampleNode.Consistent exampleTentacle := fun inboxId =>
  iff_of_false (fun h => h.2 (List.mem_singleton.mp (show inboxId ∈ [_] from h.1))) nofun

/-- Someone is enrolled, and removed when assigned elsewhere. -/
theorem membership_is_enrollment_moved : Call.Holds exampleTentacle
      (Call.next exampleTentacle exampleNode
        (.enroll exampleGlobalGroupId (exampleEnroll .written)))
      (.pruneMovedAssignments exampleSweep) := by
  have henroll : Call.Meets exampleTentacle exampleNode
      (.enroll exampleGlobalGroupId (exampleEnroll .written)) :=
    { binds := nofun
      finishes := fun _ _ _ _ =>
        { other := by decide
          writes := fun enrollment henrollment => by
            obtain rfl := Option.some.inj (henrollment.symm.trans
              (show _ = some ⟨exampleSender, 1, exampleRevision⟩ from rfl))
            decide +kernel
          added := nofun
          saved := fun _ _ => ⟨rfl, .inr rfl, nofun⟩ } }
  refine membership_is_enrollment exampleNode_consistent (.next .init ⟨trivial, henroll⟩) ?_
  exact
    { removed := nofun
      saved := fun _ _ => ⟨by decide +kernel, nofun⟩ }

/-- A sender whom the Global group refuses stays a member of the Acolytes group. -/
theorem refused_sender_stays_member :
    ¬∀ (tentacle : Tentacle) (globalGroupId : String) (request : EnrollRequest) (node : Node),
      node.Consistent tentacle →
      ((enroll tentacle globalGroupId request).exec node).1.toOption = none →
      ∀ inboxId ∈ ((enroll tentacle globalGroupId request).after node).members,
        inboxId ≠ tentacle.inboxId →
        ∃ e ∈ ((enroll tentacle globalGroupId request).after node).state.enrollments,
          e.inboxId = inboxId := by
  intro h
  have hfails : ((enroll exampleTentacle exampleGlobalGroupId
      (exampleEnroll (.refused "offline"))).exec exampleNode).1.toOption = none := by
    decide
  have hmember : exampleSender ∈ ((enroll exampleTentacle exampleGlobalGroupId
      (exampleEnroll (.refused "offline"))).after exampleNode).members := by
    decide
  have hnone : ((enroll exampleTentacle exampleGlobalGroupId
      (exampleEnroll (.refused "offline"))).after exampleNode).state.enrollments = [] := by
    decide
  obtain ⟨e, he, -⟩ := h exampleTentacle exampleGlobalGroupId _ exampleNode exampleNode_consistent
    hfails exampleSender hmember (by decide)
  rw [hnone] at he
  cases he

end Cthuwu.ChatControl
