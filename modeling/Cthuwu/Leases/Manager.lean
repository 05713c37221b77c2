import Mathlib.Data.Finset.Lattice.Fold
import Mathlib.Order.Interval.Finset.Nat
import Mathlib.Order.Lattice.Nat
import Cthuwu.Routing.Engine

/-!
# Session leases

A `Lease` assigns a session to one incarnation of a Tentacle for a time, and `LeaseManager`
is the state of the source with its public operations. A session's generations count its
leases, so that messages of a superseded holder can be told from those of the present one.
-/

namespace Cthuwu.Leases

open Council Routing

/-! ## Leases -/

def maxLeases : ℕ := 16384

def maxSessions : ℕ := 16384

/-- `24 * 60 * 60`. -/
def maxLeaseLifetimeSeconds : ℕ := 86400

def u64Max : ℕ := 18446744073709551615

inductive LeaseError
  | invalid (what : String)
  | notActive
  | wrongAssignee
  | staleGeneration
  | expired
  | notYetActive
  | activeLeaseExists
  | notFound

inductive UserReference
  | xmtpInbox (inbox : XmtpInboxRef)
  /-- The source's `Opaque`, a rendezvous reference with no conversation content. -/
  | rendezvous (value : String)

def isRendezvous (value : String) : Bool :=
  value ≠ "" && value.toList.length ≤ 256 &&
    value.toList.all fun c => c.isAlphanum || ['-', '_', '.', ':'].contains c

def UserReference.validate : UserReference → Except LeaseError Unit
  | xmtpInbox _ => .ok ()
  | rendezvous value => failIf (!isRendezvous value) (.invalid "invalid opaque user reference")

inductive LeaseStatus
  | granted
  | active
  | released
  | revoked
  | expired
  deriving DecidableEq

/-- `matches!(status, Granted | Active)`. -/
def LeaseStatus.isLive : LeaseStatus → Bool
  | granted => true
  | active => true
  | _ => false

structure Lease where
  id : LeaseId
  sessionId : SessionId
  user : UserReference
  assignedCthulhu : CthulhuId
  assignedTentacle : TentacleId
  tentacleIncarnation : Incarnation
  generation : ℕ
  issuedAt : ℕ
  expiresAt : ℕ
  renewalDeadline : ℕ
  routingRequest : RoutingRequest
  issuer : CthulhuId
  status : LeaseStatus

/-- `Incarnation::validate`, whose error its callers replace. -/
def validateIncarnation (incarnation : Incarnation) (err : LeaseError) : Except LeaseError Unit :=
  failIf (incarnation.generation = 0) err

/-- `RoutingRequest::validate`, whose error its callers replace. -/
def validateRequest (request : RoutingRequest) (now : ℕ) (err : LeaseError) :
    Except LeaseError Unit :=
  (request.validate now).mapError fun _ => err

def Lease.validate (lease : Lease) : Except LeaseError Unit := do
  lease.user.validate
  validateIncarnation lease.tentacleIncarnation (.invalid "Tentacle incarnation is invalid")
  failIf (lease.generation = 0 ∨ lease.expiresAt ≤ lease.issuedAt ∨
    maxLeaseLifetimeSeconds < lease.expiresAt - lease.issuedAt ∨
    lease.renewalDeadline ≤ lease.issuedAt ∨ lease.expiresAt < lease.renewalDeadline ∨
    lease.routingRequest.sessionId ≠ lease.sessionId) (.invalid "lease bounds are inconsistent")

def verifyAssignee (lease : Lease) (tentacle : TentacleId) (incarnation : Incarnation)
    (generation now : ℕ) : Except LeaseError Unit := do
  failIf (generation ≠ lease.generation) .staleGeneration
  failIf (lease.assignedTentacle ≠ tentacle ∨ lease.tentacleIncarnation ≠ incarnation) .wrongAssignee
  failIf (now < lease.issuedAt) .notYetActive
  failIf (lease.expiresAt ≤ now ∨ lease.renewalDeadline < now) .expired
  failIf (!lease.status.isLive) .notActive

/-! ## State -/

structure LeaseManager where
  leases : HashMap LeaseId Lease
  activeBySession : HashMap SessionId LeaseId
  generations : HashMap SessionId ℕ

/-- `LeaseManager::default`. -/
def LeaseManager.fresh : LeaseManager where
  leases := .empty
  activeBySession := .empty
  generations := .empty

structure LeaseTiming where
  issuedAt : ℕ
  expiresAt : ℕ
  renewalDeadline : ℕ

structure LeaseRenewal where
  now : ℕ
  renewalDeadline : ℕ
  expiresAt : ℕ

abbrev Op (α : Type) := Fallible LeaseError LeaseManager α

/-- `failIf` for operations. -/
abbrev rejectIf (c : Prop) [Decidable c] (err : LeaseError) : Except LeaseError Unit :=
  failIf c err

/-- `okOr` for operations. -/
abbrev orReject {α : Type} (o : Option α) (err : LeaseError) : Except LeaseError α :=
  okOr o err

namespace LeaseManager

/-- The lease that `active_by_session` names for the session, when it is live. -/
def liveLease (manager : LeaseManager) (session : SessionId) : Option Lease :=
  ((manager.activeBySession.get session).bind manager.leases.get).filter (·.status.isLive)

/-- The generation of the session's next lease. -/
def nextGeneration (manager : LeaseManager) (session : SessionId) : ℕ :=
  (manager.generations.get session).getD 0 + 1

/-- Store a lease as its session's present one. -/
def enter (lease : Lease) (manager : LeaseManager) : LeaseManager where
  generations := manager.generations.insert lease.sessionId lease.generation
  activeBySession := manager.activeBySession.insert lease.sessionId lease.id
  leases := manager.leases.insert lease.id lease

def setLease (id : LeaseId) (lease : Lease) (manager : LeaseManager) : LeaseManager :=
  { manager with leases := manager.leases.insert id lease }

/-- Forget the session's present lease. -/
def clearSession (session : SessionId) (manager : LeaseManager) : LeaseManager :=
  { manager with activeBySession := manager.activeBySession.erase session }

/-! ## Operations -/

def grant (leaseId : LeaseId) (request : RoutingRequest) (decision : RoutingDecision)
    (user : UserReference) (issuer : CthulhuId) (timing : LeaseTiming) : Op Lease := do
  let manager ← get
  rejectIf (maxLeases ≤ manager.leases.len) (.invalid "lease store is full")
  validateRequest request timing.issuedAt (.invalid "routing request is invalid or expired")
  validateIncarnation decision.selectedIncarnation
    (.invalid "routing decision incarnation is invalid")
  rejectIf (request.requestId ≠ decision.requestId) (.invalid "routing request and decision mismatch")
  rejectIf (manager.liveLease request.sessionId).isSome .activeLeaseExists
  rejectIf (manager.leases.contains leaseId) (.invalid "duplicate lease ID")
  rejectIf (maxSessions ≤ manager.generations.len ∧
    !manager.generations.contains request.sessionId) (.invalid "session generation store is full")
  rejectIf (u64Max < manager.nextGeneration request.sessionId)
    (.invalid "lease generation overflow")
  let lease : Lease :=
    { id := leaseId
      sessionId := request.sessionId
      user
      assignedCthulhu := decision.selectedCthulhu
      assignedTentacle := decision.selectedTentacle
      tentacleIncarnation := decision.selectedIncarnation
      generation := manager.nextGeneration request.sessionId
      issuedAt := timing.issuedAt
      expiresAt := timing.expiresAt
      renewalDeadline := timing.renewalDeadline
      routingRequest := request
      issuer
      status := .granted }
  lease.validate
  modify (enter lease)
  return lease

/-- `active_mut` : the lease that its caller then writes. -/
def activeLease (manager : LeaseManager) (id : LeaseId) (tentacle : TentacleId)
    (incarnation : Incarnation) (generation now : ℕ) : Except LeaseError Lease := do
  let lease ← okOr (manager.leases.get id) .notFound
  verifyAssignee lease tentacle incarnation generation now
  return lease

def accept (id : LeaseId) (tentacle : TentacleId) (incarnation : Incarnation)
    (generation now : ℕ) : Op Unit := do
  let manager ← get
  let lease ← manager.activeLease id tentacle incarnation generation now
  rejectIf (lease.status ≠ .granted) .notActive
  modify (setLease id { lease with status := .active })

def renew (id : LeaseId) (tentacle : TentacleId) (incarnation : Incarnation) (generation : ℕ)
    (renewal : LeaseRenewal) : Op Unit := do
  let manager ← get
  let lease ← manager.activeLease id tentacle incarnation generation renewal.now
  rejectIf (lease.status ≠ .active ∨ lease.renewalDeadline < renewal.now ∨
    renewal.renewalDeadline ≤ renewal.now ∨ renewal.expiresAt ≤ renewal.renewalDeadline ∨
    maxLeaseLifetimeSeconds < renewal.expiresAt - renewal.now) .expired
  modify (setLease id
    { lease with renewalDeadline := renewal.renewalDeadline, expiresAt := renewal.expiresAt })

def release (id : LeaseId) (tentacle : TentacleId) (incarnation : Incarnation)
    (generation now : ℕ) : Op Unit := do
  let manager ← get
  match (manager.leases.get id).filter (·.status = .released) with
  | some lease => do
    rejectIf (generation ≠ lease.generation) .staleGeneration
    rejectIf (lease.assignedTentacle ≠ tentacle ∨ lease.tentacleIncarnation ≠ incarnation)
      .wrongAssignee
  | none => do
    let lease ← manager.activeLease id tentacle incarnation generation now
    modify (setLease id { lease with status := .released })
    modify (clearSession lease.sessionId)

def revoke (id : LeaseId) : Op Unit := do
  let manager ← get
  let lease ← orReject (manager.leases.get id) .notFound
  rejectIf (!lease.status.isLive) .notActive
  modify (setLease id { lease with status := .revoked })
  modify (clearSession lease.sessionId)

/-- Whether `expire` ends the lease. -/
def isOverdue (now : ℕ) (lease : Lease) : Bool :=
  lease.status.isLive && (lease.expiresAt ≤ now || lease.renewalDeadline < now)

/-- What `expire` does with one entry. -/
def expireEntry (now : ℕ) (result : LeaseManager × List LeaseId) (entry : LeaseId × Lease) :
    LeaseManager × List LeaseId :=
  if isOverdue now entry.2 then
    (clearSession entry.2.sessionId
      (setLease entry.1 { entry.2 with status := .expired } result.1), result.2 ++ [entry.2.id])
  else result

def expire (now : ℕ) : Op (List LeaseId) := do
  let manager ← get
  let (manager, expired) := manager.leases.sortedPairs.foldl (expireEntry now) (manager, [])
  set manager
  return expired

/-- Revoke the active generation and issue the next one, on a copy that replaces the manager
when both succeed. -/
def failover (oldLeaseId newLeaseId : LeaseId) (decision : RoutingDecision) (issuer : CthulhuId)
    (timing : LeaseTiming) : Op Lease := do
  let manager ← get
  let old ← orReject (manager.leases.get oldLeaseId) .notFound
  match Fallible.exec (do
    revoke oldLeaseId
    grant newLeaseId old.routingRequest decision old.user issuer timing) manager with
  | (.ok replacement, staged) => do
    set staged
    return replacement
  | (.error err, _) => throw err

def authorizeWork (manager : LeaseManager) (session : SessionId) (tentacle : TentacleId)
    (incarnation : Incarnation) (generation now : ℕ) : Except LeaseError Lease := do
  let id ← okOr (manager.activeBySession.get session) .notActive
  let lease ← okOr (manager.leases.get id) .notFound
  verifyAssignee lease tentacle incarnation generation now
  failIf (lease.status ≠ .active) .notActive
  return lease

/-! ## Reloading -/

/-- What a reload checks of an entry of the lease store. -/
def validateEntry (manager : LeaseManager) (entry : LeaseId × Lease) : Except LeaseError Unit := do
  failIf (entry.1 ≠ entry.2.id) (.invalid "lease map key and lease ID differ")
  entry.2.validate
  validateRequest entry.2.routingRequest entry.2.issuedAt
    (.invalid "persisted routing request is invalid")
  failIf (decide (manager.activeBySession.get entry.2.sessionId = some entry.1) ≠
    entry.2.status.isLive) (.invalid "active lease index is inconsistent")

/-- What a reload checks of an entry of the active index. -/
def validateActive (manager : LeaseManager) (entry : SessionId × LeaseId) :
    Except LeaseError Unit := do
  let lease ← okOr (manager.leases.get entry.2)
    (.invalid "active lease index references a missing lease")
  failIf (lease.sessionId ≠ entry.1) (.invalid "active lease session is inconsistent")

/-- The generations of each session's leases. -/
def generationsBySession (manager : LeaseManager) : HashMap SessionId (Finset ℕ) :=
  groupBy (fun entry : LeaseId × Lease => entry.2.sessionId) ∅
    (fun generations entry => insert entry.2.generation generations) manager.leases.sortedPairs

/-- What a reload checks of the generations of a session. -/
def validateGenerations (manager : LeaseManager) (entry : SessionId × Finset ℕ) :
    Except LeaseError Unit :=
  let maximum := entry.2.sup id
  failIf (maxLeases < maximum ∨ manager.generations.get entry.1 ≠ some maximum ∨
    entry.2.card ≠ maximum ∨ entry.2 ≠ Finset.Icc 1 maximum)
    (.invalid "lease generation history is inconsistent")

/-- Revalidate all indexes and generation fences after loading durable state. -/
def validateLoadedState (manager : LeaseManager) : Except LeaseError Unit := do
  failIf (maxLeases < manager.leases.len ∨ maxSessions < manager.activeBySession.len ∨
    maxSessions < manager.generations.len) (.invalid "persisted lease state is unbounded")
  manager.leases.sortedPairs.forM manager.validateEntry
  manager.activeBySession.sortedPairs.forM manager.validateActive
  failIf (manager.generations.len ≠ manager.generationsBySession.len)
    (.invalid "session generation index is inconsistent")
  manager.generationsBySession.sortedPairs.forM manager.validateGenerations

end LeaseManager

end Cthuwu.Leases
