import Cthuwu.Lib.Outcome
import Cthuwu.ChatControl.Service

/-!
# Members and enrollments

The members of the Acolytes group are the enrolled inboxes (`Node.Consistent`) as long as no call
fails between the group and the file.
-/

namespace Cthuwu.ChatControl

open TokenEye
open Fallible

/-! ## What is saved is loaded -/

/-- A state that may be saved. -/
def Storable (self : Tentacle) (state : ChatControlState) : Prop :=
  parseChatState state = .ok state ∧ state.bytes self ≤ maxStateBytes

instance (self : Tentacle) (state : ChatControlState) : Decidable (Storable self state) :=
  inferInstanceAs (Decidable (_ ∧ _))

theorem parseChatState_ok {state state' : ChatControlState}
    (h : parseChatState state = .ok state') : state' = state := by
  unfold parseChatState at h
  simp only [except_bind_ok, exists_unit, except_pure_ok] at h
  obtain ⟨-, -, -, rfl⟩ := h
  rfl

def Node.state (node : Node) : ChatControlState :=
  node.file.getD .fresh

variable {self : Tentacle} {node node' : Node}

theorem load_storable {state : ChatControlState} (h : Storable self state)
    (hfile : node.file = some state) : (load self none).exec node = (.ok state, node) := by
  unfold load attempt
  rw [exec_lift_bind]
  dsimp only
  rw [exec_get_bind, hfile]
  dsimp only
  rw [exec_lift_bind]
  unfold failIf
  rw [if_neg (not_lt.mpr h.2)]
  dsimp only
  rw [exec_lift, h.1]

variable {id inboxId member sender globalGroupId : String} {storage : Storage} {groups : List Group}
  {group : Group} {enrollments : List Enrollment} {fault : Option String} {e : Failure} {α : Type}

theorem save_exec {state : ChatControlState} (h : Storable self state) :
    (save self storage state).exec node =
      ((storage.write node.file (some state)).1.mapError Failure.outside,
        { node with file := (storage.write node.file (some state)).2 }) := by
  unfold save
  rw [exec_lift_bind, h.1]
  dsimp only
  rw [exec_lift_bind]
  unfold failIf
  rw [if_neg (not_lt.mpr h.2)]
  dsimp only
  rw [exec_get_bind]
  rfl

theorem save_not_storable {state : ChatControlState} (h : ¬Storable self state) :
    ∃ e, (save self storage state).exec node = (.error e, node) := by
  unfold save
  rw [exec_lift_bind]
  cases hparse : parseChatState state with
  | error e => exact ⟨e, rfl⟩
  | ok canonical =>
    obtain rfl := parseChatState_ok hparse
    dsimp only
    rw [exec_lift_bind]
    unfold failIf
    rw [if_pos (not_le.mp fun hbytes => h ⟨hparse, hbytes⟩)]
    exact ⟨_, rfl⟩

/-! ## Members -/

/-- The members of the Acolytes group : the one that the file names, or one to be recovered. -/
def membersOf (state : ChatControlState) (groups : List Group) : List String :=
  match state.acolytesGroupId with
  | some id => (groups.find? (·.id = id)).elim [] (·.members)
  | none => groups.flatMap (·.members)

def Node.members (node : Node) : List String :=
  membersOf node.state node.groups

/-- The members other than the Tentacle are the inboxes with an enrollment. -/
def Node.Consistent (self : Tentacle) (node : Node) : Prop :=
  ∀ inboxId, (inboxId ∈ node.members ∧ inboxId ≠ self.inboxId) ↔
    ∃ e ∈ node.state.enrollments, e.inboxId = inboxId

theorem membersOf_bound {state : ChatControlState} (hid : state.acolytesGroupId = some id) :
    membersOf state groups = (groups.find? (·.id = id)).elim [] (·.members) := by
  unfold membersOf
  rw [hid]

theorem find_onGroup {change : Group → Group} (groups : List Group)
    (hchange : ∀ group, (change group).id = group.id) :
    (onGroup id change groups).find? (·.id = id) = (groups.find? (·.id = id)).map change := by
  unfold onGroup
  rw [List.find?_map]
  have hsame : ((fun group : Group => decide (group.id = id)) ∘ fun group =>
      if group.id = id then change group else group) = fun group => decide (group.id = id) := by
    funext group
    by_cases hgroup : group.id = id
    · simp only [Function.comp_apply, if_pos hgroup, hchange]
    · simp only [Function.comp_apply, if_neg hgroup]
  rw [hsame]
  cases hfind : groups.find? (·.id = id) with
  | none => rfl
  | some group =>
    have hid := List.find?_some hfind
    rw [Option.map_some, Option.map_some, if_pos (of_decide_eq_true hid)]

theorem Group.addMember_id (inboxId : String) (group : Group) :
    (group.addMember inboxId).id = group.id := by
  unfold Group.addMember
  split_ifs <;> rfl

theorem Group.mem_addMember :
    member ∈ (group.addMember inboxId).members ↔ member = inboxId ∨ member ∈ group.members := by
  unfold Group.addMember
  split_ifs with h
  · exact ⟨.inr, fun hmember => hmember.elim (fun heq => heq ▸ h) fun hmember => hmember⟩
  · exact List.mem_cons

theorem Group.mem_removeMembers {inboxIds : List String} :
    member ∈ (group.removeMembers inboxIds).members ↔
      member ∈ group.members ∧ member ∉ inboxIds := by
  unfold Group.removeMembers
  rw [List.mem_filter, decide_eq_true_eq]

/-- The members when one is added to the group that the file names. -/
theorem mem_membersOf_add {state : ChatControlState} (hid : state.acolytesGroupId = some id)
    (hgroup : (groups.find? (·.id = id)).isSome = true) :
    member ∈ membersOf state (onGroup id (·.addMember inboxId) groups) ↔
      member = inboxId ∨ member ∈ membersOf state groups := by
  rw [membersOf_bound hid, membersOf_bound hid, find_onGroup _ (Group.addMember_id inboxId)]
  obtain ⟨group, hgroup⟩ := Option.isSome_iff_exists.mp hgroup
  rw [hgroup]
  exact Group.mem_addMember

theorem mem_enrolled {enrollment e : Enrollment} : e ∈ enrolled enrollments enrollment ↔
      (e ∈ enrollments ∧ e.inboxId ≠ enrollment.inboxId) ∨ e = enrollment := by
  unfold enrolled
  rw [(List.mergeSort_perm _ _).mem_iff, List.mem_append, List.mem_filter, List.mem_singleton,
    decide_eq_true_eq]

/-- The inboxes enrolled are the old ones and the new one. -/
theorem exists_enrolled {enrollment : Enrollment} :
    (∃ e ∈ enrolled enrollments enrollment, e.inboxId = inboxId) ↔
      inboxId = enrollment.inboxId ∨ ∃ e ∈ enrollments, e.inboxId = inboxId := by
  constructor
  · rintro ⟨e, he, rfl⟩
    rcases (mem_enrolled).mp he with ⟨he, -⟩ | rfl
    · exact .inr ⟨e, he, rfl⟩
    · exact .inl rfl
  · rintro (rfl | ⟨e, he, rfl⟩)
    · exact ⟨enrollment, (mem_enrolled).mpr (.inr rfl), rfl⟩
    · by_cases hsame : e.inboxId = enrollment.inboxId
      · exact ⟨enrollment, (mem_enrolled).mpr (.inr rfl), hsame.symm⟩
      · exact ⟨e, (mem_enrolled).mpr (.inl ⟨he, hsame⟩), rfl⟩

/-! ## One enrollment -/

/-- A node that only differs in who may be told of a change. -/
structure Node.Alike (tentacle : Tentacle) (node node' : Node) : Prop where
  members : ∀ inboxId, inboxId ≠ tentacle.inboxId →
    (inboxId ∈ node'.members ↔ inboxId ∈ node.members)
  grows : ∀ inboxId ∈ node.members, inboxId ∈ node'.members
  enrollments : node'.state.enrollments = node.state.enrollments
  globalMembers : node'.globalMembers = node.globalMembers

theorem alike_of_same (hgroups : node'.groups = node.groups) (hfile : node'.file = node.file)
    (hglobal : node'.globalMembers = node.globalMembers) : node.Alike self node' := by
  have hstate : node'.state = node.state := congrArg (Option.getD · _) hfile
  have hmembers : node'.members = node.members := by
    unfold Node.members
    rw [hstate, hgroups]
  exact
    { members := fun _ _ => by rw [hmembers]
      grows := fun _ h => hmembers ▸ h
      enrollments := congrArg _ hstate
      globalMembers := hglobal }

theorem Node.Alike.consistent (h : node.Alike self node') (hnode : node.Consistent self) :
    node'.Consistent self := fun inboxId => by
  rw [h.enrollments, ← hnode inboxId]
  exact ⟨fun ⟨hmember, hother⟩ => ⟨(h.members inboxId hother).mp hmember, hother⟩,
    fun ⟨hmember, hother⟩ => ⟨(h.members inboxId hother).mpr hmember, hother⟩⟩

/-- The ID of the Acolytes group that the call finds, recovers or creates. -/
def EnrollRequest.groupId (request : EnrollRequest) (node : Node) : String :=
  match node.state.acolytesGroupId, node.groups with
  | some id, _ => id
  | none, [group] => group.id
  | none, _ => request.createdId

/-- The Acolytes group is found, or recovered or created and then saved. -/
def EnrollRequest.Binds (request : EnrollRequest) (node : Node) : Prop :=
  request.faults.acolytes = none ∧
    match node.state.acolytesGroupId, node.groups with
    | some id, groups => groups.any (·.id = id) = true
    | none, [] =>
      request.faults.create = .written ∧ request.faults.created = none ∧
        request.faults.bind = .written
    | none, [_] => request.faults.created = none ∧ request.faults.bind = .written
    | none, _ :: _ :: _ => False

/-- The enrollment that the call makes if it makes one. -/
def EnrollRequest.enrollment (self : Tentacle) (request : EnrollRequest) : Option Enrollment := do
  let senderAddress ← request.senderAddress
  let (revision, _) ← self.assigned request.resolution
  return ⟨request.senderInboxId, senderAddress, revision⟩

variable {request : EnrollRequest}

theorem attempt_ok {u : Unit} (h : attempt fault = .ok u) : fault = none := by
  unfold attempt at h
  cases fault with
  | none => rfl
  | some error => cases h

theorem attempt_error (h : attempt fault = .error e) : e ≠ exceedsBound := by
  unfold attempt at h
  cases fault with
  | none => cases h
  | some error =>
    obtain rfl := Except.error.inj h
    exact nofun

/-- A write that does not return leaves an error from outside. -/
theorem write_error {old new : α}
    (h : (storage.write old new).1.mapError Failure.outside = .error e) : e ≠ exceedsBound := by
  cases storage with
  | written => cases h
  | refused error | unconfirmed error =>
    obtain rfl := Except.error.inj h
    exact nofun

/-- What `acolytesGroup` leaves. -/
structure Bound (tentacle : Tentacle) (request : EnrollRequest) (node : Node)
    (r : Except Failure (ChatControlState × String)) (node' : Node) : Prop where
  alike : node.Alike tentacle node'
  fits : r ≠ .error exceedsBound
  binds : ∀ state id, r = .ok (state, id) → request.Binds node ∧ id = request.groupId node ∧
    state = { node.state with acolytesGroupId := some id } ∧ node'.state = state ∧
      (node'.groups.find? (·.id = id)).isSome = true

theorem bound_error (hgroups : node'.groups = node.groups) (hfile : node'.file = node.file)
    (hglobal : node'.globalMembers = node.globalMembers) (he : e ≠ exceedsBound) :
    Bound self request node (.error e) node' :=
  ⟨alike_of_same hgroups hfile hglobal, fun h => he (Except.error.inj h), nofun⟩

/-- A group that no file names yet is bound : the only one there is. -/
theorem ends_bindGroup {created : Node} (hid : node.state.acolytesGroupId = none)
    (hcreated : created.groups = [group]) (hfile : created.file = node.file)
    (hglobal : created.globalMembers = node.globalMembers)
    (hmembers : ∀ inboxId, inboxId ≠ self.inboxId →
      (inboxId ∈ group.members ↔ inboxId ∈ node.members))
    (hgrows : ∀ inboxId ∈ node.members, inboxId ∈ group.members)
    (hgroup : group.id = request.groupId node)
    (hfaults : request.faults.created = none → request.faults.bind = .written → request.Binds node)
    (hbinds : Storable self { node.state with acolytesGroupId := some (request.groupId node) }) :
    Fallible.Ends (Bound self request node)
      (bindGroup self request.faults node.state group.id) created := by
  have hunbound : created.members = group.members := by
    have hstate : created.state = node.state := congrArg (Option.getD · _) hfile
    unfold Node.members membersOf
    rw [hstate, hid, hcreated]
    exact List.append_nil _
  have halike : node.Alike self created :=
    { members := fun inboxId hother => by
        rw [hunbound]
        exact hmembers inboxId hother
      grows := fun inboxId hmember => hunbound ▸ hgrows inboxId hmember
      enrollments := congrArg (ChatControlState.enrollments ∘ (Option.getD · _)) hfile
      globalMembers := hglobal }
  have hbound : ∀ created' : Node, created'.groups = [group] →
      created'.file = some { node.state with acolytesGroupId := some group.id } →
      created'.globalMembers = node.globalMembers → node.Alike self created' ∧
        created'.state = { node.state with acolytesGroupId := some group.id } ∧
        (created'.groups.find? (·.id = group.id)).isSome = true := by
    intro created' hgroups hfile' hglobal'
    have hstate : created'.state = { node.state with acolytesGroupId := some group.id } :=
      congrArg (Option.getD · _) hfile'
    have hfind : created'.groups.find? (·.id = group.id) = some group := by
      rw [hgroups, List.find?_cons_of_pos (by exact decide_eq_true rfl)]
    have hall : created'.members = group.members := by
      unfold Node.members
      rw [membersOf_bound (show _ = some group.id by rw [hstate]), hfind]
      rfl
    refine ⟨?_, hstate, by rw [hfind]; rfl⟩
    exact
      { members := fun inboxId hother => by
          rw [hall]
          exact hmembers inboxId hother
        grows := fun inboxId hmember => hall ▸ hgrows inboxId hmember
        enrollments := by rw [hstate]
        globalMembers := hglobal' }
  unfold bindGroup
  refine ends_lift_bind (fun e he => ?_) fun _ hcreated' => ?_
  · exact ⟨halike, fun h => attempt_error he (Except.error.inj h), nofun⟩
  rw [← hgroup] at hbinds
  refine Fallible.Ends.bind (ends_of_exec (save_exec hbinds) rfl)
    (P := fun r created' => (r, created') = ((request.faults.bind.write created.file
      (some { node.state with acolytesGroupId := some group.id })).1.mapError Failure.outside,
      { created with file := (request.faults.bind.write created.file
        (some { node.state with acolytesGroupId := some group.id })).2 })) ?_ ?_
  · intro _ created' h
    cases hwrite : request.faults.bind with
    | refused error | unconfirmed error =>
      rw [hwrite] at h
      cases (Prod.mk.inj h).1
    | written =>
      rw [hwrite] at h
      obtain ⟨-, rfl⟩ := Prod.mk.inj h
      obtain ⟨halike', hstate, hfind⟩ := hbound { created with file := some _ } hcreated rfl hglobal
      refine ends_pure ⟨halike', nofun, fun state id hok => ?_⟩
      obtain ⟨rfl, rfl⟩ := Prod.mk.inj (Except.ok.inj hok)
      exact ⟨hfaults (attempt_ok hcreated') hwrite, hgroup, rfl, hstate, hfind⟩
  · intro e created' h
    obtain ⟨he, rfl⟩ := Prod.mk.inj h
    refine ⟨?_, fun hexceeds => write_error he.symm (Except.error.inj hexceeds), nofun⟩
    cases hwrite : request.faults.bind with
    | written =>
      rw [hwrite] at he
      cases he
    | refused error => exact halike
    | unconfirmed error => exact (hbound { created with file := some _ } hcreated rfl hglobal).1

theorem ends_acolytesGroup (hbinds : request.faults.acolytes = none →
      node.state.acolytesGroupId = none →
      Storable self { node.state with acolytesGroupId := some (request.groupId node) }) :
    Fallible.Ends (Bound self request node) (acolytesGroup self request node.state) node := by
  unfold acolytesGroup
  refine ends_lift_bind (fun e he => ?_) fun _ hacolytes => ends_get_bind ?_
  · exact bound_error rfl rfl rfl (attempt_error he)
  cases hid : node.state.acolytesGroupId with
  | some id =>
    dsimp only
    split_ifs with hgroup
    · refine ends_pure ⟨alike_of_same rfl rfl rfl, nofun, fun state id' hok => ?_⟩
      obtain ⟨rfl, rfl⟩ := Prod.mk.inj (Except.ok.inj hok)
      refine ⟨?_, ?_, ?_, rfl, ?_⟩
      · unfold EnrollRequest.Binds
        rw [hid]
        exact ⟨attempt_ok hacolytes, hgroup⟩
      · unfold EnrollRequest.groupId
        rw [hid]
      · rw [← hid]
      · rw [List.find?_isSome]
        exact List.any_eq_true.mp hgroup
    · exact ends_throw (bound_error rfl rfl rfl nofun)
  | none =>
    have hbinds := hbinds (attempt_ok hacolytes) hid
    dsimp only
    cases hgroups : node.groups with
    | nil =>
      have hid' : (Group.empty self request.createdId).id = request.groupId node := by
        unfold EnrollRequest.groupId
        rw [hid, hgroups]
        rfl
      have hnone : node.members = [] := by
        unfold Node.members membersOf
        rw [hid, hgroups]
        rfl
      have hmembers : ∀ inboxId, inboxId ≠ self.inboxId →
          (inboxId ∈ (Group.empty self request.createdId).members ↔ inboxId ∈ node.members) :=
        fun inboxId hother => by
          rw [hnone]
          exact iff_of_false (fun h => hother (List.mem_singleton.mp h)) List.not_mem_nil
      have hgrows : ∀ inboxId ∈ node.members,
          inboxId ∈ (Group.empty self request.createdId).members := fun inboxId h =>
        absurd (hnone ▸ h) List.not_mem_nil
      dsimp only
      cases hcreate : request.faults.create with
      | refused error => exact bound_error hgroups.symm rfl rfl nofun
      | written =>
        have hcreated : Fallible.Ends (Bound self request node)
            (bindGroup self request.faults node.state (Group.empty self request.createdId).id)
            { node with groups := [.empty self request.createdId] } := by
          refine ends_bindGroup hid rfl rfl rfl hmembers hgrows hid' (fun hcreated hbind => ?_)
            hbinds
          unfold EnrollRequest.Binds
          rw [hid, hgroups]
          exact ⟨attempt_ok hacolytes, hcreate, hcreated, hbind⟩
        exact hcreated
      | unconfirmed error =>
        refine ⟨?_, nofun, nofun⟩
        have hunbound : membersOf node.state [.empty self request.createdId] = [self.inboxId] := by
          unfold membersOf
          rw [hid]
          rfl
        exact
          { members := fun inboxId hother => by
              rw [hnone]
              refine iff_of_false (fun h => hother ?_) List.not_mem_nil
              exact List.mem_singleton.mp (hunbound ▸ (show inboxId ∈ membersOf _ _ from h))
            grows := fun inboxId h => absurd (hnone ▸ h) List.not_mem_nil
            enrollments := rfl
            globalMembers := rfl }
    | cons group rest =>
      cases rest with
      | cons second rest => exact ends_throw (bound_error rfl rfl rfl nofun)
      | nil =>
        have hall : node.members = group.members := by
          unfold Node.members membersOf
          rw [hid, hgroups]
          exact List.append_nil _
        refine ends_bindGroup hid hgroups rfl rfl (fun _ _ => by rw [hall])
          (fun _ h => hall ▸ h) ?_ (fun hcreated hbind => ?_) hbinds
        · unfold EnrollRequest.groupId
          rw [hid, hgroups]
        · unfold EnrollRequest.Binds
          rw [hid, hgroups]
          exact ⟨attempt_ok hacolytes, hcreated, hbind⟩

/-- The join is let in, and the call gets as far as the Acolytes group. -/
structure EnrollRequest.Starts (tentacle : Tentacle) (globalGroupId : String)
    (request : EnrollRequest) (node : Node) : Prop where
  sender : isCanonicalId request.senderInboxId = true
  letIn : ∃ address revision kind, request.senderAddress = some address ∧
    tentacle.assigned request.resolution = some (revision, kind) ∧
    (tentacle.letIn request.nowMs request.join request.senderInboxId address kind
      node.state.enrollments node.gate).1.isSome = true
  load : (load tentacle request.faults.load).exec node = (.ok node.state, node)
  direct : request.faults.direct = none
  configured : ¬node.state.globalGroupId.any (· ≠ globalGroupId) = true

/-- The sender is another inbox, what is to be written fits the file, and nothing fails between the
group that gets a new member and the file. -/
structure EnrollRequest.Finishes (tentacle : Tentacle) (globalGroupId : String)
    (request : EnrollRequest) (node : Node) : Prop where
  other : request.senderInboxId ≠ tentacle.inboxId
  writes : ∀ enrollment, request.enrollment tentacle = some enrollment → Storable tentacle
    { acolytesGroupId := some (request.groupId node)
      globalGroupId := some globalGroupId
      enrollments := enrolled node.state.enrollments enrollment }
  added : request.senderInboxId ∉ node.members → ∀ e, request.faults.acolytesAdd ≠ .unconfirmed e
  saved : request.senderInboxId ∉ node.members → request.faults.acolytesAdd = .written →
    request.faults.globalMembers = none ∧
      (request.senderInboxId ∈ node.globalMembers ∨ request.faults.globalAdd = .written) ∧
      ∀ e, request.faults.save ≠ .refused e

/-- The condition on a call to `enroll`. -/
structure EnrollRequest.Meets (tentacle : Tentacle) (globalGroupId : String)
    (request : EnrollRequest) (node : Node) : Prop where
  binds : request.Starts tentacle globalGroupId node → request.faults.acolytes = none →
    node.state.acolytesGroupId = none →
    Storable tentacle { node.state with acolytesGroupId := some (request.groupId node) }
  finishes : request.Starts tentacle globalGroupId node → request.Binds node →
    request.faults.global = none → request.faults.acolytesMembers = none →
    request.Finishes tentacle globalGroupId node

/-- What a call leaves : the members are the enrolled inboxes and none is removed. -/
structure Keeps {α : Type} (tentacle : Tentacle) (node : Node) (r : Except Failure α)
    (node' : Node) : Prop where
  consistent : node'.Consistent tentacle
  grows : ∀ inboxId ∈ node.members, inboxId ∈ node'.members
  fits : r ≠ .error exceedsBound

theorem keeps_alike {r : Except Failure α} (h : node.Consistent self)
    (halike : node.Alike self node') (hfits : r ≠ .error exceedsBound) : Keeps self node r node' :=
  ⟨halike.consistent h, halike.grows, hfits⟩

/-- What an assignment leaves. -/
structure Assigns {α : Type} (tentacle : Tentacle) (node : Node) (r : Except Failure α)
    (node' : Node) : Prop extends Keeps tentacle node r node' where
  saved : ∀ a, r = .ok a → ∃ state, node'.file = some state ∧ Storable tentacle state

theorem assigns_error (h : node.Consistent self) (halike : node.Alike self node')
    (he : e ≠ exceedsBound) : Assigns self node (.error e : Except Failure α) node' :=
  ⟨keeps_alike h halike fun hexceeds => he (Except.error.inj hexceeds), nofun⟩

theorem Node.Alike.assigns {r : Except Failure α} {bound : Node} (halike : node.Alike self bound)
    (h : Assigns self bound r node') : Assigns self node r node' :=
  { consistent := h.consistent
    grows := fun inboxId hmember => h.grows inboxId (halike.grows inboxId hmember)
    fits := h.fits
    saved := h.saved }

/-- The sender is a member, and nothing else has changed of the group and the file. -/
structure Joined (sender : String) (node node' : Node) : Prop where
  members : ∀ inboxId, inboxId ∈ node'.members ↔ inboxId = sender ∨ inboxId ∈ node.members
  file : node'.file = node.file

/-- A sender who is a member already changes nothing by joining. -/
theorem Joined.consistent (h : Joined sender node node') (hsender : sender ∈ node.members)
    (hnode : node.Consistent self) : node'.Consistent self :=
  fun inboxId => by
    have hmembers : inboxId ∈ node'.members ↔ inboxId ∈ node.members :=
      (h.members inboxId).trans ⟨fun hmember => hmember.elim (· ▸ hsender) id, .inr⟩
    have hstate : node'.state = node.state := congrArg (Option.getD · _) h.file
    rw [hmembers, hstate]
    exact hnode inboxId

theorem Joined.enrolls {enrollment : Enrollment} {saved : Node}
    (h : Joined enrollment.inboxId node node') (hnode : node.Consistent self)
    (hid : node.state.acolytesGroupId = some id) (hother : enrollment.inboxId ≠ self.inboxId)
    (hgroups : saved.groups = node'.groups) (hfile : saved.file = some
      { node.state with
        globalGroupId := some globalGroupId
        enrollments := enrolled node.state.enrollments enrollment }) :
    saved.Consistent self ∧ ∀ inboxId ∈ node.members, inboxId ∈ saved.members := by
  have hsaved : saved.state =
      { node.state with
        globalGroupId := some globalGroupId
        enrollments := enrolled node.state.enrollments enrollment } :=
    congrArg (Option.getD · _) hfile
  have hstate : node'.state = node.state := congrArg (Option.getD · _) h.file
  have hmembers : saved.members = node'.members := by
    unfold Node.members
    rw [membersOf_bound (show _ = some id by rw [hsaved]; exact hid), hgroups,
      membersOf_bound (show _ = some id by rw [hstate]; exact hid)]
  refine ⟨fun inboxId => ?_, fun inboxId hmember => ?_⟩
  · rw [hmembers, h.members, hsaved, exists_enrolled, ← hnode inboxId]
    constructor
    · rintro ⟨rfl | hmember, hne⟩
      · exact .inl rfl
      · exact .inr ⟨hmember, hne⟩
    · rintro (rfl | ⟨hmember, hne⟩)
      · exact ⟨.inl rfl, hother⟩
      · exact ⟨.inr hmember, hne⟩
  · rw [hmembers, h.members]
    exact .inr hmember

/-- The end of an enrollment, once the sender has joined the group. -/
theorem ends_save (globalGroupId : String) {enrollment : Enrollment} {id : String}
    {saved : ChatControlState} {joined : Node} {α : Type} {rest : PUnit → Run α}
    (hjoined : Joined enrollment.inboxId node joined) (hnode : node.Consistent self)
    (hid : node.state.acolytesGroupId = some id) (hother : enrollment.inboxId ≠ self.inboxId)
    (hsaved : saved =
      { node.state with
        globalGroupId := some globalGroupId
        enrollments := enrolled node.state.enrollments enrollment })
    (hwrites : Storable self saved)
    (hfinishes : enrollment.inboxId ∉ node.members → ∀ e, request.faults.save ≠ .refused e)
    (hrest : ∀ after : Node, after.Consistent self → (∀ i ∈ node.members, i ∈ after.members) →
      after.file = some saved → Fallible.Ends (Assigns self node) (rest ⟨⟩) after) :
    Fallible.Ends (Assigns self node) (save self request.faults.save saved >>= rest) joined := by
  have hafter : ∀ after : Node, after.groups = joined.groups → after.file = some saved →
      after.Consistent self ∧ ∀ i ∈ node.members, i ∈ after.members := fun after hgroups hfile =>
    hjoined.enrolls hnode hid hother hgroups (hsaved ▸ hfile)
  refine ends_bind ?_
  unfold Fallible.Ends
  rw [save_exec hwrites]
  cases hwrite : request.faults.save with
  | written =>
    obtain ⟨hconsistent, hgrows⟩ := hafter { joined with file := some saved } rfl rfl
    exact hrest _ hconsistent hgrows rfl
  | unconfirmed error =>
    obtain ⟨hconsistent, hgrows⟩ := hafter { joined with file := some saved } rfl rfl
    exact ⟨⟨hconsistent, hgrows, nofun⟩, nofun⟩
  | refused error =>
    have hsender : enrollment.inboxId ∈ node.members := by
      by_contra hsender
      exact hfinishes hsender error hwrite
    exact ⟨⟨hjoined.consistent hsender hnode, fun i hi => (hjoined.members i).mpr (.inr hi),
      nofun⟩, nofun⟩

/-- A call that fails after the sender has joined leaves a member who was enrolled before. -/
theorem Joined.fails (h : Joined sender node node') (hsender : sender ∈ node.members)
    (hnode : node.Consistent self) (he : e ≠ exceedsBound) :
    Assigns self node (.error e : Except Failure α) node' :=
  ⟨⟨h.consistent hsender hnode, fun i hi => (h.members i).mpr (.inr hi),
    fun hexceeds => he (Except.error.inj hexceeds)⟩, nofun⟩

theorem ends_addGlobal {joined : Node} {rest : Unit → Run α} (hjoined : Joined sender node joined)
    (hnode : node.Consistent self) (hglobal : joined.globalMembers = node.globalMembers)
    (hfinishes : sender ∉ node.members → request.faults.globalMembers = none ∧
      (sender ∈ node.globalMembers ∨ request.faults.globalAdd = .written))
    (hrest : ∀ after : Node, Joined sender node after →
      Fallible.Ends (Assigns self node) (rest ()) after) :
    Fallible.Ends (Assigns self node) (addGlobal request.faults sender >>= rest) joined := by
  refine ends_bind ?_
  unfold addGlobal
  refine ends_lift_bind (fun e he => ?_) fun _ _ => ends_get_bind ?_
  · refine hjoined.fails ?_ hnode (attempt_error he)
    by_contra hsender
    rw [(hfinishes hsender).1] at he
    cases he
  split_ifs with hmember
  · exact ends_pure (hrest joined hjoined)
  · have hjoined' : ∀ members : List String,
        Joined sender node { joined with globalMembers := members } := fun _ =>
      ⟨hjoined.members, hjoined.file⟩
    have hsender : ∀ e, request.faults.globalAdd ≠ .written → request.faults.globalAdd = e →
        sender ∈ node.members := fun e hne _ => by
      by_contra hsender
      exact (hfinishes hsender).2.elim (fun h => hmember (hglobal ▸ h)) hne
    cases hadd : request.faults.globalAdd with
    | written => exact hrest _ (hjoined' _)
    | refused error | unconfirmed error =>
      rw [hadd] at hsender
      exact (hjoined' _).fails (hsender _ nofun rfl) hnode nofun

theorem ends_addAcolyte {rest : Unit → Run α} (hnode : node.Consistent self)
    (hid : node.state.acolytesGroupId = some id)
    (hgroup : (node.groups.find? (·.id = id)).isSome = true)
    (hfinishes : request.faults.acolytesMembers = none → sender ∉ node.members →
      ∀ e, request.faults.acolytesAdd ≠ .unconfirmed e)
    (hrest : ∀ after : Node, Joined sender node after → after.globalMembers = node.globalMembers →
      (sender ∉ node.members → request.faults.acolytesAdd = .written) →
      request.faults.acolytesMembers = none →
      Fallible.Ends (Assigns self node) (rest ()) after) :
    Fallible.Ends (Assigns self node) (addAcolyte request.faults id sender >>= rest) node := by
  have hsame : ∀ {e : Failure}, e ≠ exceedsBound → Assigns self node (.error e : Except _ α) node :=
    assigns_error hnode (alike_of_same rfl rfl rfl)
  refine ends_bind ?_
  unfold addAcolyte
  refine ends_lift_bind (fun e he => hsame (attempt_error he)) fun _ hmembers =>
    ends_get_bind ?_
  have hmembers := attempt_ok hmembers
  have hfind : (node.groups.find? (·.id = id)).any (sender ∈ ·.members) = true ↔
      sender ∈ node.members := by
    unfold Node.members
    rw [membersOf_bound hid]
    cases node.groups.find? (·.id = id) with
    | none => exact iff_of_false nofun List.not_mem_nil
    | some group => exact decide_eq_true_iff
  by_cases hsender : sender ∈ node.members
  · rw [if_pos (hfind.mpr hsender)]
    refine ends_pure (hrest node ⟨fun i => ⟨.inr, fun h => ?_⟩, rfl⟩ rfl
      (fun h => absurd hsender h) hmembers)
    exact h.elim (· ▸ hsender) fun hmember => hmember
  · rw [if_neg (hsender ∘ hfind.mp)]
    have hjoined : Joined sender node
        { node with groups := onGroup id (·.addMember sender) node.groups } :=
      ⟨fun _ => mem_membersOf_add hid hgroup, rfl⟩
    unfold changeGroup
    refine ends_get_bind ?_
    cases hadd : request.faults.acolytesAdd with
    | written => exact hrest _ hjoined rfl (fun _ => hadd) hmembers
    | refused error => exact hsame nofun
    | unconfirmed error => exact absurd hadd (hfinishes hmembers hsender error)

theorem ends_completeEnrollment {enrollment : Enrollment} {consumes : Option String}
    (h : node.Consistent self) (hmeets : request.faults.direct = none →
      ¬node.state.globalGroupId.any (· ≠ globalGroupId) = true →
      (request.faults.acolytes = none → node.state.acolytesGroupId = none →
        Storable self { node.state with acolytesGroupId := some (request.groupId node) }) ∧
      (request.Binds node → request.faults.global = none →
        request.faults.acolytesMembers = none → request.Finishes self globalGroupId node))
    (henrollment : request.enrollment self = some enrollment) : Fallible.Ends (Assigns self node)
      (completeEnrollment self globalGroupId request node.state enrollment consumes) node := by
  have hsender : enrollment.inboxId = request.senderInboxId := by
    simp only [EnrollRequest.enrollment, Option.bind_eq_bind,
      Option.bind_eq_some_iff] at henrollment
    obtain ⟨_, -, _, -, henrollment⟩ := henrollment
    exact congrArg Enrollment.inboxId (Option.some.inj henrollment).symm
  have hsame : ∀ {e : Failure}, e ≠ exceedsBound →
      Assigns self node (.error e : Except _ Assignment) node :=
    assigns_error h (alike_of_same rfl rfl rfl)
  unfold completeEnrollment
  refine ends_lift_bind (fun e he => hsame (attempt_error he)) fun _ hdirect => ?_
  refine ends_lift_bind (fun e he => hsame ?_) fun _ hconfigured => ?_
  · obtain ⟨-, rfl⟩ := failIf_error.mp he
    exact nofun
  obtain ⟨hstorable, hfinishes⟩ := hmeets (attempt_ok hdirect) (failIf_ok.mp hconfigured)
  refine (ends_acolytesGroup hstorable).bind (fun ⟨state, id⟩ bound hbound => ?_)
    fun e bound hbound => assigns_error h hbound.alike fun he => hbound.fits (he ▸ rfl)
  obtain ⟨hbinds, rfl, hstate, hstate', hgroup⟩ := hbound.binds state id rfl
  have hconsistent := hbound.alike.consistent h
  have hid : bound.state.acolytesGroupId = some (request.groupId node) := by
    rw [hstate', hstate]
  have hmember : enrollment.inboxId ∉ bound.members → request.senderInboxId ∉ node.members :=
    fun hnot hmember => hnot (hsender ▸ hbound.alike.grows _ hmember)
  refine Fallible.Ends.mono (Q := Assigns self bound) ?_ fun _ _ => hbound.alike.assigns
  dsimp only
  refine ends_lift_bind (fun e he => ?_) fun _ hglobal => ?_
  · exact assigns_error hconsistent (alike_of_same rfl rfl rfl) (attempt_error he)
  have hfinishes := hfinishes hbinds (attempt_ok hglobal)
  refine ends_addAcolyte hconsistent hid hgroup
    (fun hmembers hnot => (hfinishes hmembers).added (hmember hnot))
    fun joined hjoined hglobalMembers hwritten hmembers => ?_
  have hfinishes := hfinishes hmembers
  have hsaved := fun hnot => hfinishes.saved (hmember hnot) (hwritten hnot)
  refine ends_addGlobal hjoined hconsistent hglobalMembers
    (fun hnot => ⟨(hsaved hnot).1, ?_⟩) fun after hafter => ?_
  · rw [hsender, hbound.alike.globalMembers]
    exact (hsaved hnot).2.1
  have hwrites := hfinishes.writes enrollment henrollment
  refine ends_save globalGroupId hafter hconsistent hid (hsender ▸ hfinishes.other) ?_ ?_
    (fun hnot => (hsaved hnot).2.2) fun saved hsaved hgrows hfile => ?_
  · rw [hstate']
  · rw [hstate]
    exact hwrites
  refine ends_get_bind ?_
  exact ⟨⟨hsaved, hgrows, nofun⟩, fun _ _ => ⟨_, hfile, by rw [hstate]; exact hwrites⟩⟩

/-- What a call to `enroll` leaves. -/
structure Enrolls (tentacle : Tentacle) (node : Node) (r : Except Failure (Option Assignment))
    (node' : Node) : Prop extends Keeps tentacle node r node' where
  loads : ∀ a, r = .ok (some a) → ∃ state, node'.file = some state ∧
    (load tentacle none).exec node' = (.ok state, node')

theorem enrolls_alike {r : Except Failure (Option Assignment)} (h : node.Consistent self)
    (halike : node.Alike self node') (hfits : r ≠ .error exceedsBound)
    (hnone : ∀ a, r ≠ .ok (some a)) : Enrolls self node r node' :=
  ⟨keeps_alike h halike hfits, fun a ha => absurd ha (hnone a)⟩

/-- A state that is refused is not refused for its size. -/
theorem parseChatState_error {state : ChatControlState} (h : parseChatState state = .error e) :
    e ≠ exceedsBound := by
  have hfold : ∀ (enrollments : List Enrollment) (seen : List String),
      enrollments.foldlM parseEnrollment seen = .error e →
        e = .refused "persisted chat-control enrollment is invalid" := by
    intro enrollments
    induction enrollments with
    | nil => intro _ h; cases h
    | cons enrollment enrollments ih =>
      intro seen h
      rw [List.foldlM_cons] at h
      rcases except_bind_error.mp h with h | ⟨_, -, h⟩
      · unfold parseEnrollment at h
        rcases except_bind_error.mp h with h | ⟨_, -, h⟩
        · exact (failIf_error.mp h).2.symm
        · cases h
      · exact ih _ h
  unfold parseChatState at h
  rcases except_bind_error.mp h with h | ⟨_, -, h⟩
  · obtain ⟨-, rfl⟩ := failIf_error.mp h
    exact ne_of_beq_false rfl
  · rcases except_bind_error.mp h with h | ⟨_, -, h⟩
    · obtain rfl := hfold _ _ h
      exact ne_of_beq_false rfl
    · cases h

/-- What `load` leaves : the node, and the state that the file says if it returns one. -/
structure Loads (tentacle : Tentacle) (fault : Option String) (node : Node)
    (r : Except Failure ChatControlState) (node' : Node) : Prop where
  exec : (load tentacle fault).exec node = (r, node')
  same : node' = node
  state : ∀ state, r = .ok state → state = node.state
  fits : r ≠ .error exceedsBound

theorem ends_load (fault : Option String) :
    Fallible.Ends (Loads self fault node) (load self fault) node := by
  have hends : Fallible.Ends (fun r node' => node' = node ∧
      (∀ state, r = .ok state → state = node.state) ∧ r ≠ .error exceedsBound)
      (load self fault) node := by
    unfold load
    refine ends_lift_bind (fun e he => ⟨rfl, nofun, fun h => ?_⟩) fun _ _ =>
      ends_get_bind ?_
    · exact attempt_error he (Except.error.inj h)
    cases hfile : node.file with
    | none =>
      refine ends_pure ⟨rfl, fun state hstate => ?_, nofun⟩
      unfold Node.state
      rw [hfile]
      exact (Except.ok.inj hstate).symm
    | some file =>
      refine ends_lift_bind (fun e he => ⟨rfl, nofun, fun h => ?_⟩) fun _ _ => ?_
      · obtain ⟨-, rfl⟩ := failIf_error.mp he
        exact absurd (Except.error.inj h) (by decide)
      · unfold Fallible.Ends
        rw [exec_lift]
        refine ⟨rfl, fun state hstate => ?_, fun h => parseChatState_error h rfl⟩
        unfold Node.state
        rw [hfile]
        exact parseChatState_ok hstate
  exact ⟨rfl, hends.1, hends.2.1, hends.2.2⟩

theorem ends_enroll (h : node.Consistent self) (hmeets : request.Meets self globalGroupId node) :
    Fallible.Ends (Enrolls self node) (enroll self globalGroupId request) node := by
  have hnone : ∀ gate, Enrolls self node (.ok none) { node with gate := gate } := fun gate =>
    enrolls_alike h (alike_of_same rfl rfl rfl) nofun nofun
  unfold enroll
  split_ifs with hsender
  swap
  · exact ends_pure (hnone node.gate)
  cases haddress : request.senderAddress with
  | none => exact ends_pure (hnone node.gate)
  | some senderAddress =>
    cases hassigned : self.assigned request.resolution with
    | none => exact ends_pure (hnone node.gate)
    | some assigned =>
      obtain ⟨revision, kind⟩ := assigned
      have henrollment : request.enrollment self =
          some ⟨request.senderInboxId, senderAddress, revision⟩ := by
        unfold EnrollRequest.enrollment
        rw [haddress, hassigned]
        rfl
      refine (ends_load request.faults.load).bind (fun state loaded hload => ?_)
        fun e loaded hload => ?_
      · obtain ⟨hexec, rfl, hstate, -⟩ := hload
        obtain rfl := hstate state rfl
        refine ends_get_bind ?_
        rcases hletIn : self.letIn request.nowMs request.join request.senderInboxId senderAddress
          kind loaded.state.enrollments loaded.gate with ⟨_ | consumes, gate⟩
        · exact hnone gate
        · have hcomplete : Fallible.Ends (Assigns self { loaded with gate := gate })
              (completeEnrollment self globalGroupId request loaded.state
                ⟨request.senderInboxId, senderAddress, revision⟩ consumes)
              { loaded with gate := gate } := by
            refine ends_completeEnrollment h (fun hdirect hconfigured => ?_) henrollment
            have hstarts : request.Starts self globalGroupId loaded :=
              { sender := hsender
                letIn := ⟨senderAddress, revision, kind, haddress, hassigned, by rw [hletIn]; rfl⟩
                load := hexec
                direct := hdirect
                configured := hconfigured }
            refine ⟨hmeets.binds hstarts, fun hbinds hglobal hmembers => ?_⟩
            have hfinishes := hmeets.finishes hstarts hbinds hglobal hmembers
            exact ⟨hfinishes.other, hfinishes.writes, hfinishes.added, hfinishes.saved⟩
          have halike : loaded.Alike self { loaded with gate := gate } := alike_of_same rfl rfl rfl
          refine ends_set_bind (hcomplete.bind (fun assignment after hafter => ?_)
            fun e after hafter => ?_)
          · have hassigns := halike.assigns hafter
            obtain ⟨state, hfile, hstorable⟩ := hassigns.saved assignment rfl
            exact ends_pure ⟨⟨hassigns.consistent, hassigns.grows, nofun⟩,
              fun _ _ => ⟨state, hfile, load_storable hstorable hfile⟩⟩
          · have hassigns := halike.assigns hafter
            refine ⟨⟨hassigns.consistent, hassigns.grows, fun he => hassigns.fits ?_⟩, nofun⟩
            exact congrArg _ (Except.error.inj he)
      · obtain ⟨-, rfl, -, hfits⟩ := hload
        refine enrolls_alike h (alike_of_same rfl rfl rfl) (fun he => hfits ?_) nofun
        exact congrArg _ (Except.error.inj he)

end Cthuwu.ChatControl
