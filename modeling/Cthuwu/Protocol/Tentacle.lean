import Cthuwu.Lib.Maps
import Cthuwu.Routing.Types

/-!
# Tentacles

The errors of the protocol types, the checks on text, counts and lists that they share, and
the small values these checks make safe to hold : versions, names, content hashes and registry
references. A `Timestamp` is an `i64` of Unix seconds. It is written as an integer : the checks
only compare times, with sums and differences whose overflow falls on the side of the bound
where they already are.

A Tentacle is a durable agent, and an incarnation is one runtime generation of it. `applyUpdate`
takes what the Tentacle says of itself, unless it comes from an older or a conflicting
incarnation : it writes field by field, but every check comes before the first write
(`atomic_applyUpdate`), and `applyUpdate_ok` says what an accepted update has written.
-/

namespace Cthuwu.Protocol

open Council Routing

inductive ValidationErrorKind
  | empty
  | tooLong (max actual : ℕ)
  | tooMany (max actual : ℕ)
  | invalidFormat
  | outOfRange
  | unsupported
  | expired
  | replay
  | nonMonotonicSequence
  | senderMismatch
  | staleIncarnation
  | invalidLifecycleTransition
  | signatureMissing
  | signatureInvalid
  deriving DecidableEq

/-- What is wrong with a field. -/
structure ValidationError where
  field : String
  kind : ValidationErrorKind
  deriving DecidableEq

abbrev Timestamp := ℤ

/-- Fail at a field when `c` holds. -/
abbrev rejectIf (c : Prop) [Decidable c] (field : String) (kind : ValidationErrorKind) :
    Except ValidationError Unit :=
  failIf c ⟨field, kind⟩

/-! ## Text, counts and lists -/

def boundedText (field value : String) (max : ℕ) : Except ValidationError Unit := do
  rejectIf (value = "") field .empty
  rejectIf (max < value.utf8ByteSize) field (.tooLong max value.utf8ByteSize)
  rejectIf (value.toList.any isControl) field .invalidFormat

def boundedOptionalText (field : String) (value : Option String) (max : ℕ) :
    Except ValidationError Unit :=
  value.toList.forM fun value => boundedText field value max

def boundedCount (field : String) (actual max : ℕ) : Except ValidationError Unit :=
  rejectIf (max < actual) field (.tooMany max actual)

def isAscii (value : String) : Bool :=
  value.toList.all fun c => c.toNat < 128

/-- `unique_text` and `ensure_unique` : no two elements are equal. -/
def ensureUnique {α : Type} [DecidableEq α] (field : String) (values : List α) :
    Except ValidationError Unit :=
  rejectIf (¬values.Nodup) field .invalidFormat

/-- Lowercase letters, digits and single separators, none of them first or last. -/
def isSlug (value : String) : Bool :=
  value.toList.all (fun c => c.isLower || c.isDigit || isSeparator c) &&
    !value.toList.head?.any isSeparator && !value.toList.getLast?.any isSeparator &&
    (value.toList.zip value.toList.tail).all fun (a, b) => !(isSeparator a && isSeparator b)

def validateSlug (field value : String) (max : ℕ) : Except ValidationError Unit := do
  boundedText field value max
  rejectIf (!isSlug value) field .invalidFormat

/-! ## Values -/

/-- Only version 1.0 is supported. -/
def requireSupported (version : ProtocolVersion) : Except ValidationError Unit :=
  rejectIf (version ≠ .first) "version" .unsupported

/-- The name of a capability, a slug of at most 64 bytes. -/
@[ext] structure CapabilityName where
  text : String
  accepted : validateSlug "capabilityName" text 64 = .ok ()

instance : DecidableEq CapabilityName := fun a b =>
  decidable_of_iff (a.text = b.text) CapabilityName.ext_iff.symm

/-- A content-addressed SHA-256 digest. -/
@[ext] structure ContentHash where
  text : String
  accepted : isContentHash text = true

instance : DecidableEq ContentHash := fun a b =>
  decidable_of_iff (a.text = b.text) ContentHash.ext_iff.symm

def ContentHash.new (value : String) : Except ValidationError ContentHash :=
  if h : isContentHash value = true then .ok ⟨value, h⟩ else .error ⟨"contentHash", .invalidFormat⟩

/-- A public identity reference that says nothing of the chain behind it. -/
structure RegistryRef where
  registry : String
  reference : String

def RegistryRef.validate (r : RegistryRef) : Except ValidationError Unit := do
  validateSlug "registry.registry" r.registry 64
  boundedText "registry.reference" r.reference 256
  rejectIf (r.reference.toList.any isWhiteSpace ∨ !isAscii r.reference ∨
    hasDoubleDot r.reference ∨ r.reference.toList.any fun c => c = '\x5c' || c = '\x00')
    "registry.reference" .invalidFormat

end Cthuwu.Protocol

/-! ## Tentacles and their lifecycle -/

namespace Cthuwu.Protocol

open Council Routing

/-! ## Capabilities -/

def maxProtocolVersions : ℕ := 8

def maxModelClasses : ℕ := 32

def maxTools : ℕ := 64

def maxMemoryModes : ℕ := 8

def maxPrivacyProperties : ℕ := 16

def maxTrustMechanisms : ℕ := 16

inductive MemoryMode
  | none
  | session
  | localContact
  | localSemantic
  deriving DecidableEq

inductive PrivacyProperty
  | noCouncilContent
  | localMemoryOnly
  | noRemoteInference
  | ephemeralSession
  | operatorControlledRetention
  deriving DecidableEq

inductive InferenceLocation
  | onSite
  | remote
  | hybrid

inductive TrustMechanism
  | localAllowlist
  | operatorAttestation
  | registryAssociation
  | registryReputation
  | councilMembership
  deriving DecidableEq

inductive CapabilityVisibility
  | hidden
  | council
  | everyone
  deriving DecidableEq

structure Capacity where
  maxConcurrentSessions : ℕ
  availableSessions : ℕ
  maxContextTokens : ℕ
  deriving DecidableEq

def Capacity.validate (c : Capacity) : Except ValidationError Unit :=
  rejectIf (c.maxConcurrentSessions = 0 ∨ c.maxConcurrentSessions < c.availableSessions ∨
    c.maxContextTokens = 0 ∨ 100000000 < c.maxContextTokens) "capabilities.capacity" .outOfRange

structure CapabilityManifest where
  schemaVersion : ProtocolVersion
  protocolVersions : List ProtocolVersion
  modelClasses : List CapabilityName
  contextLimitTokens : ℕ
  tools : List CapabilityName
  memoryModes : List MemoryMode
  privacyProperties : List PrivacyProperty
  inferenceLocation : InferenceLocation
  capacity : Capacity
  visibility : CapabilityVisibility
  supportedTrustMechanisms : List TrustMechanism

def CapabilityManifest.validate (m : CapabilityManifest) : Except ValidationError Unit := do
  requireSupported m.schemaVersion
  rejectIf (m.protocolVersions = []) "capabilities.protocolVersions" .empty
  boundedCount "capabilities.protocolVersions" m.protocolVersions.length maxProtocolVersions
  m.protocolVersions.forM requireSupported
  boundedCount "capabilities.modelClasses" m.modelClasses.length maxModelClasses
  boundedCount "capabilities.tools" m.tools.length maxTools
  boundedCount "capabilities.memoryModes" m.memoryModes.length maxMemoryModes
  boundedCount "capabilities.privacyProperties" m.privacyProperties.length maxPrivacyProperties
  boundedCount "capabilities.supportedTrustMechanisms" m.supportedTrustMechanisms.length
    maxTrustMechanisms
  rejectIf (m.contextLimitTokens = 0 ∨ 100000000 < m.contextLimitTokens)
    "capabilities.contextLimitTokens" .outOfRange
  ensureUnique "capabilities.protocolVersions" m.protocolVersions
  ensureUnique "capabilities.modelClasses" m.modelClasses
  ensureUnique "capabilities.tools" m.tools
  ensureUnique "capabilities.memoryModes" m.memoryModes
  ensureUnique "capabilities.privacyProperties" m.privacyProperties
  ensureUnique "capabilities.supportedTrustMechanisms" m.supportedTrustMechanisms
  m.capacity.validate

/-! ## Tentacles -/

structure XmtpEndpoint where
  inboxId : XmtpInboxRef
  network : String

def XmtpEndpoint.validate (e : XmtpEndpoint) : Except ValidationError Unit :=
  validateSlug "tentacle.xmtpEndpoint.network" e.network 32

def validateIncarnation (incarnation : Incarnation) : Except ValidationError Unit :=
  rejectIf (incarnation.generation = 0) "tentacle.incarnation.generation" .outOfRange

inductive TentacleLifecycle
  | starting
  | ready
  | draining
  | unavailable
  | stopped
  deriving DecidableEq

def TentacleLifecycle.canTransitionTo : TentacleLifecycle → TentacleLifecycle → Bool
  | starting, ready | starting, unavailable | starting, stopped => true
  | ready, draining | ready, unavailable | ready, stopped => true
  | draining, unavailable | draining, stopped => true
  | unavailable, ready | unavailable, stopped => true
  | _, _ => false

inductive HealthStatus
  | healthy
  | suspect
  | unavailable
  deriving DecidableEq

structure TentacleHealth where
  status : HealthStatus
  observedAt : Timestamp

structure Tentacle where
  id : TentacleId
  owner : CthulhuId
  xmtpEndpoint : XmtpEndpoint
  incarnation : Incarnation
  lifecycle : TentacleLifecycle
  capabilities : CapabilityManifest
  health : TentacleHealth
  capacity : Capacity
  /-- In thousandths. -/
  currentLoadPerMille : ℕ
  visibility : CapabilityVisibility
  protocolVersion : ProtocolVersion
  lastHeartbeat : Timestamp

def Tentacle.validate (t : Tentacle) : Except ValidationError Unit := do
  t.xmtpEndpoint.validate
  validateIncarnation t.incarnation
  t.capabilities.validate
  t.capacity.validate
  requireSupported t.protocolVersion
  rejectIf (1000 < t.currentLoadPerMille) "tentacle.currentLoadPerMille" .outOfRange
  rejectIf (t.capacity ≠ t.capabilities.capacity) "tentacle.capacity" .invalidFormat
  rejectIf (t.visibility ≠ t.capabilities.visibility) "tentacle.visibility" .invalidFormat
  rejectIf (t.lastHeartbeat < t.health.observedAt) "tentacle.health.observedAt" .outOfRange

/-- What a Tentacle says of its own state. -/
structure TentacleLifecycleUpdate where
  tentacleId : TentacleId
  owner : CthulhuId
  incarnation : Incarnation
  lifecycle : TentacleLifecycle
  health : TentacleHealth
  currentLoadPerMille : ℕ
  lastHeartbeat : Timestamp

def TentacleLifecycleUpdate.validate (u : TentacleLifecycleUpdate) :
    Except ValidationError Unit := do
  validateIncarnation u.incarnation
  rejectIf (1000 < u.currentLoadPerMille ∨ u.lastHeartbeat < u.health.observedAt) "tentacle.update"
    .outOfRange

/-! ## Updates -/

abbrev TentacleOp (α : Type) := Fallible ValidationError Tentacle α

/-- The writes that every accepted update ends with. -/
def writeState (update : TentacleLifecycleUpdate) : TentacleOp Unit := do
  modify fun t => { t with health := update.health }
  modify fun t => { t with currentLoadPerMille := update.currentLoadPerMille }
  modify fun t => { t with lastHeartbeat := update.lastHeartbeat }

/-- Apply what a Tentacle says of itself, unless it comes from an older or a conflicting
incarnation. -/
def applyUpdate (update : TentacleLifecycleUpdate) : TentacleOp Unit := do
  liftM update.validate
  let current ← get
  liftM (rejectIf (update.tentacleId ≠ current.id ∨ update.owner ≠ current.owner)
    "tentacle.update.sender" .senderMismatch)
  liftM (rejectIf (update.incarnation.generation < current.incarnation.generation ∨
    (update.incarnation.generation = current.incarnation.generation ∧
      update.incarnation.id ≠ current.incarnation.id) ∨
    update.lastHeartbeat < current.lastHeartbeat) "tentacle.update.incarnation" .staleIncarnation)
  if current.incarnation.generation < update.incarnation.generation then
    liftM (rejectIf (update.lifecycle ≠ .starting) "tentacle.update.lifecycle"
      .invalidLifecycleTransition)
    modify fun t => { t with incarnation := update.incarnation }
    modify fun t => { t with lifecycle := update.lifecycle }
    writeState update
  else if update.lifecycle ≠ current.lifecycle then
    liftM (rejectIf (!current.lifecycle.canTransitionTo update.lifecycle)
      "tentacle.update.lifecycle" .invalidLifecycleTransition)
    modify fun t => { t with lifecycle := update.lifecycle }
    writeState update
  else
    writeState update

/-- The state `u` claims may follow that of `t` : a newer incarnation starts, and the same one
stays where it is or moves on. -/
def Tentacle.Precedes (t : Tentacle) (incarnation : Incarnation) (lifecycle : TentacleLifecycle) :
    Prop :=
  (t.incarnation.generation < incarnation.generation ∧ lifecycle = .starting) ∨
    (t.incarnation = incarnation ∧
      (lifecycle = t.lifecycle ∨ t.lifecycle.canTransitionTo lifecycle = true))

def Tentacle.updated (t : Tentacle) (u : TentacleLifecycleUpdate) : Tentacle :=
  { t with
    incarnation := u.incarnation
    lifecycle := u.lifecycle
    health := u.health
    currentLoadPerMille := u.currentLoadPerMille
    lastHeartbeat := u.lastHeartbeat }

variable {t t' : Tentacle} {u : TentacleLifecycleUpdate}

theorem exec_writeState : (writeState u).exec t = (.ok (),
    { t with
      health := u.health
      currentLoadPerMille := u.currentLoadPerMille
      lastHeartbeat := u.lastHeartbeat }) :=
  rfl

theorem infallible_writeState : Fallible.Infallible (writeState u) := fun _ => ⟨(), rfl⟩

/-- An incarnation is known by its generation and its identifier. -/
theorem incarnation_ext {a b : Incarnation} (hgeneration : a.generation = b.generation)
    (hid : a.id = b.id) : a = b := by
  cases a
  cases b
  cases hgeneration
  cases hid
  rfl

/-- An update is applied exactly when it is valid, speaks for the Tentacle it is applied to, is
not older than the last one, and claims a state that may follow. -/
theorem applyUpdate_ok : (applyUpdate u).exec t = (.ok (), t') ↔ u.validate = .ok () ∧
    (u.tentacleId = t.id ∧ u.owner = t.owner) ∧ t.lastHeartbeat ≤ u.lastHeartbeat ∧
      t.Precedes u.incarnation u.lifecycle ∧ t' = t.updated u := by
  unfold applyUpdate Tentacle.Precedes
  simp only [Fallible.lift_bind_ok, exists_unit, Fallible.exec_get_bind, failIf_ok, not_or,
    not_not, not_lt, not_and]
  refine and_congr_right fun _ => and_congr_right fun _ => ?_
  constructor
  · rintro ⟨⟨hold, hconflict, hlate⟩, h⟩
    refine ⟨hlate, ?_⟩
    split_ifs at h with hnewer hmoved
    · simp only [Fallible.lift_bind_ok, exists_unit, failIf_ok, not_not, Fallible.exec_modify_bind,
        exec_writeState, Prod.mk.injEq, true_and] at h
      exact ⟨.inl ⟨hnewer, h.1⟩, h.2.symm⟩
    · have hsame : t.incarnation = u.incarnation := by
        have hgeneration := le_antisymm (not_lt.mp hnewer) hold
        exact (incarnation_ext hgeneration (hconflict hgeneration)).symm
      simp only [Fallible.lift_bind_ok, exists_unit, failIf_ok, Bool.not_eq_true', Bool.not_eq_false,
        Fallible.exec_modify_bind, exec_writeState, Prod.mk.injEq, true_and] at h
      refine ⟨.inr ⟨hsame, .inr h.1⟩, ?_⟩
      rw [← h.2, Tentacle.updated, hsame]
    · have hsame : t.incarnation = u.incarnation := by
        have hgeneration := le_antisymm (not_lt.mp hnewer) hold
        exact (incarnation_ext hgeneration (hconflict hgeneration)).symm
      have hlifecycle : u.lifecycle = t.lifecycle := not_not.mp hmoved
      simp only [exec_writeState, Prod.mk.injEq, true_and] at h
      refine ⟨.inr ⟨hsame, .inl hlifecycle⟩, ?_⟩
      rw [← h, Tentacle.updated, hsame, hlifecycle]
  · rintro ⟨hlate, hfollows, rfl⟩
    rcases hfollows with ⟨hnewer, hstarting⟩ | ⟨hsame, hmove⟩
    · refine ⟨⟨hnewer.le, fun h => absurd h hnewer.ne', hlate⟩, ?_⟩
      rw [if_pos hnewer]
      simp only [Fallible.lift_bind_ok, exists_unit, failIf_ok, not_not, Fallible.exec_modify_bind,
        exec_writeState]
      exact ⟨hstarting, rfl⟩
    · have hgeneration : ¬t.incarnation.generation < u.incarnation.generation := by
        rw [hsame]
        exact lt_irrefl _
      refine ⟨⟨by rw [hsame], fun _ => by rw [hsame], hlate⟩, ?_⟩
      rw [if_neg hgeneration]
      split_ifs with hmoved
      · simp only [Fallible.lift_bind_ok, exists_unit, failIf_ok, Bool.not_eq_true',
          Bool.not_eq_false, Fallible.exec_modify_bind, exec_writeState]
        refine ⟨hmove.resolve_left hmoved, ?_⟩
        rw [Tentacle.updated, hsame]
      · rw [exec_writeState, Tentacle.updated, hsame, not_not.mp hmoved]

/-- Every check of an update comes before its first write. -/
theorem atomic_applyUpdate : Fallible.Atomic (applyUpdate u) := by
  intro t
  unfold applyUpdate
  refine Fallible.atomicAt_lift_bind fun _ _ => Fallible.atomicAt_get_bind ?_
  refine Fallible.atomicAt_lift_bind fun _ _ => Fallible.atomicAt_lift_bind fun _ _ => ?_
  split_ifs
  · refine Fallible.atomicAt_lift_bind fun _ _ => ?_
    exact Fallible.atomicAt_of_ok (a := ()) rfl
  · refine Fallible.atomicAt_lift_bind fun _ _ => ?_
    exact Fallible.atomicAt_of_ok (a := ()) rfl
  · exact (infallible_writeState).atomic.at t

/-! ## Validity -/

theorem Tentacle.validate_ok : t.validate = .ok () ↔ t.xmtpEndpoint.validate = .ok () ∧
    validateIncarnation t.incarnation = .ok () ∧ t.capabilities.validate = .ok () ∧
    t.capacity.validate = .ok () ∧ requireSupported t.protocolVersion = .ok () ∧
    t.currentLoadPerMille ≤ 1000 ∧ t.capacity = t.capabilities.capacity ∧
    t.visibility = t.capabilities.visibility ∧ t.health.observedAt ≤ t.lastHeartbeat := by
  unfold Tentacle.validate
  simp only [except_check_ok, failIf_ok, not_lt, not_not]

theorem TentacleLifecycleUpdate.validate_ok : u.validate = .ok () ↔
    validateIncarnation u.incarnation = .ok () ∧ u.currentLoadPerMille ≤ 1000 ∧
      u.health.observedAt ≤ u.lastHeartbeat := by
  unfold TentacleLifecycleUpdate.validate
  simp only [except_check_ok, failIf_ok, not_or, not_lt]

theorem Tentacle.validate_updated (ht : t.validate = .ok ()) (hu : u.validate = .ok ()) :
    (t.updated u).validate = .ok () := by
  obtain ⟨hendpoint, -, hcapabilities, hcapacity, hversion, -, hsame, hvisible, -⟩ :=
    (Tentacle.validate_ok).mp ht
  obtain ⟨hincarnation, hload, hobserved⟩ := (TentacleLifecycleUpdate.validate_ok).mp hu
  exact (Tentacle.validate_ok).mpr ⟨hendpoint, hincarnation, hcapabilities, hcapacity, hversion,
    hload, hsame, hvisible, hobserved⟩

/-- A stopped incarnation is left only by a newer one. -/
theorem TentacleLifecycle.not_canTransitionTo_stopped (next : TentacleLifecycle) :
    TentacleLifecycle.stopped.canTransitionTo next = false := by
  cases next <;> rfl

end Cthuwu.Protocol
