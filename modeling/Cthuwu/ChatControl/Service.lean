import Cthuwu.ChatControl.Gate
import Cthuwu.Lib.Storage

/-!
# The chat-control service

A Tentacle keeps its acolytes in a group, and their enrollments in a file. `enroll` adds a sender to
the group and then to the file; `pruneMovedAssignments` removes from both whoever is assigned
elsewhere. The group, the file and the registry are outside, and each use of one may fail.
-/

namespace Cthuwu.ChatControl

open TokenEye

def maxStateBytes : ℕ := 256 * 1024
def maxEnrollments : ℕ := 10000

structure ChatControlState where
  acolytesGroupId : Option String
  globalGroupId : Option String
  enrollments : List Enrollment
  deriving DecidableEq

def ChatControlState.fresh : ChatControlState :=
  { acolytesGroupId := none
    globalGroupId := none
    enrollments := [] }

/-- An error thrown by the service itself, or by what it uses. -/
inductive Failure
  | refused (error : String)
  | outside (error : String)
  deriving DecidableEq

/-! ## The state file -/

/-- `/^(?:0|[1-9][0-9]{0,31}):0x[0-9a-f]{64}$/`. -/
def isRevision (value : String) : Bool :=
  let number := value.toList.takeWhile (· ≠ ':')
  let rest := value.toList.dropWhile (· ≠ ':')
  number ≠ [] && number.length ≤ 32 && number.all Char.isDigit &&
    (number = ['0'] || number.head? ≠ some '0') &&
    rest.take 3 = [':', '0', 'x'] && (rest.drop 3).length = 64 &&
    (rest.drop 3).all fun c => c.isDigit || ('a' ≤ c && c ≤ 'f')

/-- What `parseChatState` asks of an enrollment. An address has one checksummed form. -/
def validEnrollment (seen : List String) (candidate : Enrollment) : Bool :=
  isCanonicalId candidate.inboxId && candidate.address ≠ 0 && isRevision candidate.revision &&
    candidate.inboxId ∉ seen

def parseEnrollment (seen : List String) (candidate : Enrollment) :
    Except Failure (List String) := do
  failIf (¬validEnrollment seen candidate = true)
    (.refused "persisted chat-control enrollment is invalid")
  return candidate.inboxId :: seen

variable (self : Tentacle) (faults : EnrollFaults) (state : ChatControlState) (id : String)
  (request : SweepRequest)

def parseChatState : Except Failure ChatControlState := do
  failIf (state.acolytesGroupId.any (¬isCanonicalId ·) = true ∨
      state.globalGroupId.any (¬isCanonicalId ·) = true ∨
      maxEnrollments < state.enrollments.length)
    (.refused "persisted chat-control state is invalid or belongs to another Tentacle")
  let _ ← state.enrollments.foldlM parseEnrollment []
  return state

/-- The bytes of a text field in indented JSON, its line included. The texts are ASCII. -/
def fieldBytes (indent : ℕ) (name value : ℕ) : ℕ :=
  indent + (name + 2) + 2 + (value + 2) + 2

/-- The bytes of an enrollment in indented JSON, its separator included : its two braces, and its
three fields, the last one without a comma. -/
def Enrollment.bytes (enrollment : Enrollment) : ℕ :=
  6 + fieldBytes 6 "inboxId".utf8ByteSize enrollment.inboxId.utf8ByteSize +
    fieldBytes 6 "address".utf8ByteSize 42 +
    (fieldBytes 6 "revision".utf8ByteSize enrollment.revision.utf8ByteSize - 1) + 7

/-- The bytes of the enrollments in indented JSON, with their brackets. -/
def enrollmentsBytes : List Enrollment → ℕ
  | [] => 2
  | enrollments => 2 + (enrollments.map Enrollment.bytes).sum - 1 + 3

def ChatControlState.bytes : ℕ :=
  2 + ("  \"version\": 1,\n".utf8ByteSize + fieldBytes 2 "environment".utf8ByteSize 10 +
    fieldBytes 2 "tentacleAgentId".utf8ByteSize self.agentId.utf8ByteSize +
    fieldBytes 2 "tentacleInboxId".utf8ByteSize self.inboxId.utf8ByteSize +
    (state.acolytesGroupId.elim 0 fun id =>
      fieldBytes 2 "acolytesGroupId".utf8ByteSize id.utf8ByteSize) +
    (state.globalGroupId.elim 0 fun id =>
      fieldBytes 2 "globalGroupId".utf8ByteSize id.utf8ByteSize) +
    ("  \"enrollments\": ".utf8ByteSize + enrollmentsBytes state.enrollments + 1)) + 2

/-! ## Groups and files -/

/-- A group of the Tentacle's own, with the appData of an Acolytes group. -/
structure Group where
  id : String
  members : List String
  nodup : members.Nodup

def Group.empty : Group :=
  { id := id
    members := [self.inboxId]
    nodup := List.nodup_singleton _ }

def Group.addMember (inboxId : String) (group : Group) : Group :=
  if h : inboxId ∈ group.members then group
  else
    { id := group.id
      members := inboxId :: group.members
      nodup := List.nodup_cons.mpr ⟨h, group.nodup⟩ }

def Group.removeMembers (inboxIds : List String) (group : Group) : Group :=
  { id := group.id
    members := group.members.filter (· ∉ inboxIds)
    nodup := group.nodup.filter _ }

/-- A change of the group with an ID. -/
def onGroup (change : Group → Group) (groups : List Group) : List Group :=
  groups.map fun group => if group.id = id then change group else group

/-- What the service works on, and what a crash leaves of it but the gate. -/
structure Node where
  gate : Option LivenessGate
  groups : List Group
  globalMembers : List String
  file : Option ChatControlState

abbrev Run := Fallible Failure Node

/-- An operation outside that may fail. -/
def attempt (fault : Option String) : Except Failure Unit :=
  match fault with
  | none => .ok ()
  | some error => .error (.outside error)

def load (fault : Option String) : Run ChatControlState := do
  attempt fault
  match (← get).file with
  | none => return .fresh
  | some file => do
    failIf (maxStateBytes < file.bytes self)
      (Failure.refused "chat-control state is not a bounded regular file")
    parseChatState file

def exceedsBound : Failure :=
  .refused "chat-control state exceeds its bound"

def save (storage : Storage) (state : ChatControlState) : Run Unit := do
  let canonical ← parseChatState state
  failIf (maxStateBytes < canonical.bytes self) exceedsBound
  let node ← get
  let (result, file) := storage.write node.file (some canonical)
  set { node with file := file }
  liftM (result.mapError Failure.outside)

/-- Members are added to a group, or removed from it. -/
def changeGroup (storage : Storage) (id : String) (change : Group → Group) : Run Unit := do
  let node ← get
  let (result, groups) := storage.write node.groups (onGroup id change node.groups)
  set { node with groups := groups }
  liftM (result.mapError Failure.outside)

/-! ## Enrolling -/

/-- What fails of the operations of one `enroll`. -/
structure EnrollFaults where
  load : Option String
  direct : Option String
  /-- The persisted group cannot be found or trusted. -/
  acolytes : Option String
  create : Storage
  /-- A group that was recovered or created cannot be trusted. -/
  created : Option String
  bind : Storage
  global : Option String
  acolytesMembers : Option String
  acolytesAdd : Storage
  globalMembers : Option String
  globalAdd : Storage
  save : Storage

structure EnrollRequest where
  join : JoinControl
  senderInboxId : String
  senderAddress : Option Address
  resolution : AssignmentResolution
  nowMs : ℤ
  savedMs : ℤ
  createdId : String
  faults : EnrollFaults

structure Assignment where
  requestId : String
  revision : String
  acolytesGroupId : String
  globalGroupId : String

def JoinControl.requestId : JoinControl → String
  | join requestId | livenessJoin requestId _ => requestId

/-- A group that is not persisted yet is checked, and its ID is saved. -/
def bindGroup :
    Run (ChatControlState × String) := do
  attempt faults.created
  let state := { state with acolytesGroupId := some id }
  save self faults.bind state
  return (state, id)

/-- The Acolytes group, with the state that names it. -/
def acolytesGroup (request : EnrollRequest) (state : ChatControlState) :
    Run (ChatControlState × String) := do
  attempt request.faults.acolytes
  let node ← get
  match state.acolytesGroupId with
  | some id =>
    if node.groups.any (·.id = id) then return (state, id)
    else throw (.refused "persisted Acolytes group is unavailable; refusing replacement")
  | none =>
    match node.groups with
    | [] => do
      let (result, groups) := request.faults.create.write [] [.empty self request.createdId]
      set { node with groups := groups }
      liftM (result.mapError Failure.outside)
      bindGroup self request.faults state request.createdId
    | [group] => bindGroup self request.faults state group.id
    | _ :: _ :: _ =>
      throw (.refused "multiple self-created Acolytes groups exist; refusing ambiguous recovery")

def addAcolyte (id senderInboxId : String) : Run Unit := do
  attempt faults.acolytesMembers
  let node ← get
  if (node.groups.find? (·.id = id)).any (senderInboxId ∈ ·.members) = true then return
  else changeGroup faults.acolytesAdd id (·.addMember senderInboxId)

def addGlobal (senderInboxId : String) : Run Unit := do
  attempt faults.globalMembers
  let node ← get
  if senderInboxId ∈ node.globalMembers then return
  else do
    let (result, members) :=
      faults.globalAdd.write node.globalMembers (node.globalMembers ++ [senderInboxId])
    set { node with globalMembers := members }
    liftM (result.mapError Failure.outside)

/-- A saved enrollment consumes the grant that let it in, if one did. -/
def consume (nowMs : ℤ) (senderInboxId : String) (senderAddress : Address)
    (consumes : Option String) (gate : LivenessGate) : LivenessGate :=
  match consumes with
  | none => gate
  | some livenessRequestId =>
    (gate.consumeGrant nowMs
      { senderInboxId := senderInboxId
        senderAddress := senderAddress
        livenessRequestId := livenessRequestId
        tentacleAgentId := self.agentId }).2

/-- The part of `enroll` after the join is let in. -/
def completeEnrollment (globalGroupId : String) (request : EnrollRequest)
    (state : ChatControlState) (enrollment : Enrollment) (consumes : Option String) :
    Run Assignment := do
  attempt request.faults.direct
  failIf (state.globalGroupId.any (· ≠ globalGroupId) = true)
    (Failure.refused "configured Global group conflicts with persisted binding")
  let (state, acolytesGroupId) ← acolytesGroup self request state
  attempt request.faults.global
  addAcolyte request.faults acolytesGroupId enrollment.inboxId
  addGlobal request.faults enrollment.inboxId
  save self request.faults.save
    { state with
      globalGroupId := some globalGroupId
      enrollments := enrolled state.enrollments enrollment }
  let node ← get
  set
    { node with
      gate := node.gate.map
        (consume self request.savedMs enrollment.inboxId enrollment.address consumes) }
  return {
    requestId := request.join.requestId
    revision := enrollment.revision
    acolytesGroupId := acolytesGroupId
    globalGroupId := globalGroupId }

def enroll (globalGroupId : String) (request : EnrollRequest) :
    Run (Option Assignment) := do
  if ¬isCanonicalId request.senderInboxId = true then return none
  else
    match request.senderAddress with
    | none => return none
    | some senderAddress =>
      match self.assigned request.resolution with
      | none => return none
      | some (revision, kind) => do
        let state ← load self request.faults.load
        let node ← get
        let (admitted, gate) := self.letIn request.nowMs request.join request.senderInboxId
          senderAddress kind state.enrollments node.gate
        set { node with gate := gate }
        match admitted with
        | none => return none
        | some consumes => do
          let assignment ← completeEnrollment self globalGroupId request state
            ⟨request.senderInboxId, senderAddress, revision⟩ consumes
          return some assignment

/-! ## Sweeping -/

/-- What one sweep learns, and what fails of its operations. `addressOf` is the fresh address of a
member's inbox, or the persisted one without a lookup. -/
structure SweepRequest where
  load : Option String
  group : Option String
  members : Option String
  addressOf : Enrollment → Except Failure (Option Address)
  resolve : Address → AssignmentResolution
  remove : Storage
  save : Storage

/-- A member goes, or stays with what is known of it. -/
def sweepMember (enrollments : List Enrollment)
    (swept : List String × List Enrollment) (member : String) :
    Except Failure (List String × List Enrollment) := do
  let (removed, retained) := swept
  if member = self.inboxId then return (removed, retained)
  else
    match enrollments.find? (·.inboxId = member) with
    | none => return (removed ++ [member], retained)
    | some persisted => do
      match ← request.addressOf persisted with
      | none => return (removed ++ [member], retained)
      | some address =>
        match request.resolve address with
        | .registryUnavailable => return (removed, retained ++ [persisted])
        | resolution =>
          match self.assigned resolution with
          | some (revision, _) => return (removed, retained ++ [⟨member, address, revision⟩])
          | none => return (removed ++ [member], retained)

def sweepMembers (enrollments : List Enrollment)
    (members : List String) : Except Failure (List String × List Enrollment) :=
  members.foldlM (sweepMember self request enrollments) ([], [])

def pruneMovedAssignments : Run ℕ := do
  let state ← load self request.load
  match state.acolytesGroupId with
  | none => return 0
  | some id => do
    let node ← get
    match node.groups.find? (·.id = id) with
    | none => throw (.refused "persisted Acolytes group is unavailable during reassignment sweep")
    | some group => do
      attempt request.group
      attempt request.members
      let (removed, retained) ←
        sweepMembers self request state.enrollments group.members
      if removed ≠ [] then changeGroup request.remove id (·.removeMembers removed) else pure ()
      save self request.save { state with enrollments := retained }
      return removed.length

end Cthuwu.ChatControl
