import Cthuwu.Lib.Maps
import Cthuwu.Lib.Window
import Cthuwu.TokenEye.Address

/-!
# The liveness gate

Any sender may ask a Tentacle whether it is alive. The gate admits few queries of a sender in a
minute, and few in all; a query that is answered leaves its sender a grant, good for one enrollment
within a minute. What has run out is dropped before each decision.
-/

namespace Cthuwu.ChatControl

open TokenEye

def livenessWindowMs : ℤ := 60000
def livenessPerSenderPerWindow : ℕ := 8
def livenessGlobalPerWindow : ℕ := 256
def maxLivenessSenders : ℕ := 1024
def maxLivenessReplays : ℕ := 4096
def maxLivenessGrants : ℕ := 2048

/-- `/^[0-9a-f]{64}$/`. -/
def isCanonicalId (value : String) : Bool :=
  value.length = 64 && value.toList.all fun c => c.isDigit || ('a' ≤ c && c ≤ 'f')

/-- `/^(0|[1-9][0-9]{0,77})$/`, below `2 ^ 256`. -/
def isCanonicalAgentId (value : String) : Bool :=
  value ≠ "" && value.length ≤ 78 && value.toList.all Char.isDigit &&
    (value = "0" || value.toList.head? ≠ some '0') &&
    Nat.ofDigitChars 10 value.toList 0 < 2 ^ 256

/-- The parsed control, with its deadline as the number it writes. -/
structure LivenessQuery where
  requestId : String
  expiresAtNs : ℕ
  targetAgentId : String

structure LivenessGrant where
  senderInboxId : String
  senderAddress : Address
  livenessRequestId : String
  tentacleAgentId : String
  expiresAtMs : ℤ

variable (nowMs : ℤ) (request : GrantRequest) (gate : LivenessGate) (senderInboxId : String)

def LivenessGrant.of (senderAddress : Address)
    (query : LivenessQuery) (tentacleAgentId : String) : LivenessGrant :=
  { senderInboxId := senderInboxId
    senderAddress := senderAddress
    livenessRequestId := query.requestId
    tentacleAgentId := tentacleAgentId
    expiresAtMs := nowMs + livenessWindowMs }

/-- What a join asks a grant to say. -/
structure GrantRequest where
  senderInboxId : String
  senderAddress : Address
  livenessRequestId : String
  tentacleAgentId : String

/-- The grant is live and says what the join asks. -/
def LivenessGrant.allows (grant : LivenessGrant) : Bool :=
  nowMs < grant.expiresAtMs && grant.senderInboxId = request.senderInboxId &&
    grant.senderAddress = request.senderAddress &&
    grant.livenessRequestId = request.livenessRequestId &&
    grant.tentacleAgentId = request.tentacleAgentId

structure LivenessGate where
  senderAdmissions : HashMap String (List ℤ)
  globalAdmissions : List ℤ
  replays : HashMap String ℤ
  grants : HashMap String LivenessGrant

namespace LivenessGate

def new : LivenessGate :=
  { senderAdmissions := .empty
    globalAdmissions := []
    replays := .empty
    grants := .empty }

def key (senderInboxId requestId : String) : String :=
  senderInboxId ++ ":" ++ requestId

def prune : LivenessGate :=
  let cutoff := nowMs - livenessWindowMs
  { senderAdmissions :=
      (gate.senderAdmissions.mapWithKey fun _ admissions =>
        admissions.dropWhile (· ≤ cutoff)).retain
        fun _ admissions => admissions ≠ []
    globalAdmissions := gate.globalAdmissions.dropWhile (· ≤ cutoff)
    replays := gate.replays.retain fun _ expiresAtMs => ¬expiresAtMs ≤ nowMs
    grants := gate.grants.retain fun _ grant => ¬grant.expiresAtMs ≤ nowMs }

/-- The count of a sender, and the gate that counts it. A new sender is counted from none. -/
def countSender : Option (List ℤ × LivenessGate) :=
  match gate.senderAdmissions.get senderInboxId with
  | some sender => some (sender, gate)
  | none =>
    if maxLivenessSenders ≤ gate.senderAdmissions.len then none
    else some ([],
      { gate with senderAdmissions := gate.senderAdmissions.insert senderInboxId [] })

def admitQuery (query : LivenessQuery)
    (gate : LivenessGate) : Bool × LivenessGate :=
  if nowMs < 0 ∨ 2 ^ 53 ≤ nowMs ∨ ¬isCanonicalId senderInboxId = true then (false, gate)
  else
    let nowNs := nowMs * 1000000
    if query.expiresAtNs ≤ nowNs ∨ nowNs + livenessWindowMs * 1000000 < query.expiresAtNs then
      (false, gate)
    else
      let gate := gate.prune nowMs
      let key := key senderInboxId query.requestId
      if gate.replays.contains key = true then (false, gate)
      else
        match gate.countSender senderInboxId with
        | none => (false, gate)
        | some (sender, gate) =>
          if livenessPerSenderPerWindow ≤ sender.length ∨
              livenessGlobalPerWindow ≤ gate.globalAdmissions.length ∨
              maxLivenessReplays ≤ gate.replays.len then (false, gate)
          else (true,
            { gate with
              senderAdmissions := gate.senderAdmissions.insert senderInboxId (sender ++ [nowMs])
              globalAdmissions := gate.globalAdmissions ++ [nowMs]
              replays := gate.replays.insert key (nowMs + livenessWindowMs) })

def issueGrant (senderAddress : Address)
    (query : LivenessQuery) (tentacleAgentId : String) (gate : LivenessGate) :
    Bool × LivenessGate :=
  let gate := gate.prune nowMs
  let key := key senderInboxId query.requestId
  if ¬gate.replays.contains key = true ∨ ¬isCanonicalId senderInboxId = true ∨
      ¬isCanonicalAgentId tentacleAgentId = true ∨ query.targetAgentId ≠ tentacleAgentId ∨
      gate.grants.contains key = true ∨ maxLivenessGrants ≤ gate.grants.len then (false, gate)
  else
    let queryExpiresAtMs : ℤ := (query.expiresAtNs / 1000000 : ℕ)
    if queryExpiresAtMs ≤ nowMs then (false, gate)
    else (true,
      { gate with
        grants := gate.grants.insert key
          (.of nowMs senderInboxId senderAddress query tentacleAgentId) })

def hasGrant : Bool × LivenessGate :=
  let gate := gate.prune nowMs
  ((gate.grants.get (key request.senderInboxId request.livenessRequestId)).any
    (·.allows nowMs request), gate)

def consumeGrant : Bool × LivenessGate :=
  let (has, gate) := gate.hasGrant nowMs request
  if has = true then
    (true,
      { gate with
        grants := gate.grants.erase (key request.senderInboxId request.livenessRequestId) })
  else (false, gate)

def revokeGrant (senderInboxId livenessRequestId : String) (gate : LivenessGate) :
    LivenessGate :=
  { gate with grants := gate.grants.erase (key senderInboxId livenessRequestId) }

end LivenessGate

/-! ## Joining -/

inductive EnrollmentKind
  | controller
  | liveness
  | intro

inductive AssignmentResolution
  | assignedHere (revision tentacleAgentId tentacleInboxId : String) (enrollment : EnrollmentKind)
  | assignedElsewhere (revision : String)
  | registryUnavailable

/-- A join with its request, and the query it answers if it is bound to one. -/
inductive JoinControl
  | join (requestId : String)
  | livenessJoin (requestId livenessRequestId : String)

structure Enrollment where
  inboxId : String
  address : Address
  revision : String
  deriving DecidableEq

structure Tentacle where
  inboxId : String
  agentId : String

/-- The resolution assigns its address to this Tentacle. -/
def Tentacle.assigned (self : Tentacle) : AssignmentResolution → Option (String × EnrollmentKind)
  | .assignedHere revision tentacleAgentId tentacleInboxId enrollment =>
    if tentacleAgentId ≠ self.agentId ∨ tentacleInboxId ≠ self.inboxId then none
    else some (revision, enrollment)
  | .assignedElsewhere _ | .registryUnavailable => none

/-- Whether `enroll` lets a join in, and the query whose grant it is to consume. -/
def Tentacle.letIn (self : Tentacle) (nowMs : ℤ) (join : JoinControl) (senderInboxId : String)
    (senderAddress : Address) (kind : EnrollmentKind) (enrollments : List Enrollment)
    (gate : Option LivenessGate) : Option (Option String) × Option LivenessGate :=
  match kind with
  | .liveness =>
    if enrollments.any (fun enrollment =>
        enrollment.inboxId = senderInboxId ∧ enrollment.address = senderAddress) then
      (some none, gate)
    else
      match join, gate with
      | .livenessJoin _ livenessRequestId, some gate =>
        let (has, gate) := gate.hasGrant nowMs
          { senderInboxId := senderInboxId
            senderAddress := senderAddress
            livenessRequestId := livenessRequestId
            tentacleAgentId := self.agentId }
        (if has = true then some (some livenessRequestId) else none, some gate)
      | .livenessJoin _ _, none | .join _, _ => (none, gate)
  | .controller | .intro =>
    match join with
    | .join _ => (some none, gate)
    | .livenessJoin _ _ => (none, gate)

/-- The enrollments with one more, which takes the place of any of its inbox. -/
def enrolled (enrollments : List Enrollment) (enrollment : Enrollment) : List Enrollment :=
  (enrollments.filter (·.inboxId ≠ enrollment.inboxId) ++ [enrollment]).mergeSort
    fun left right => decide (left.inboxId ≤ right.inboxId)

end Cthuwu.ChatControl
