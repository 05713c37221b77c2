import Cthuwu.Protocol.Tentacle

/-!
# The local registry

The public records of Tentacles, one a Tentacle, with the inboxes they answer at. The updater
(`registerOrUpdate`), the loader (`LocalRegistry.validateLoadedState`) and the migration of the
older format, which kept records by Cthulhu (`migrateV1`), each check the records for themselves.
`validateLoadedState_ok` reads the loader as two conditions, one on the records
(`LocalRegistry.Registered`) and one on what is kept of a migration.
-/

namespace Cthuwu.Registry

open Council Protocol

def maxEndpoints : ℕ := 32

def maxAgents : ℕ := 4096

def maxCapabilityRefs : ℕ := 64

def maxSignals : ℕ := 64

def maxReferenceLength : ℕ := 512

inductive RegistryError
  | invalid (reason : String)
  | notFound
  | staleUpdate
  deriving DecidableEq

def validateLabel (value name : String) (maximum : ℕ) : Except RegistryError Unit :=
  failIf (isBlank value ∨ maximum < value.utf8ByteSize ∨ value.toList.any isControl) (.invalid name)

/-! ## Records -/

structure RegistryEndpoint where
  tentacleId : TentacleId
  xmtpInbox : XmtpInboxRef
  active : Bool

structure TrustSignal where
  provenance : String
  kind : String
  value : ℤ
  observedAt : ℕ
  evidenceRef : Option String

def TrustSignal.validate (s : TrustSignal) : Except RegistryError Unit := do
  validateLabel s.provenance "trust provenance" 128
  validateLabel s.kind "trust signal kind" 64
  failIf (¬(-1000 ≤ s.value ∧ s.value ≤ 1000)) (.invalid "trust value is out of bounds")
  failIf (s.evidenceRef.any fun value => maxReferenceLength < value.utf8ByteSize)
    (.invalid "trust evidence reference is too long")

structure RegisteredTentacle where
  id : TentacleId
  displayName : String
  registryRef : Option RegistryRef
  endpoints : List RegistryEndpoint
  capabilityRefs : List String
  trustSignals : List TrustSignal
  active : Bool
  metadataVersion : ℕ

def RegisteredTentacle.validate (t : RegisteredTentacle) : Except RegistryError Unit := do
  validateLabel t.displayName "display name" 128
  failIf (t.metadataVersion = 0) (.invalid "metadata version must be positive")
  t.registryRef.toList.forM fun reference =>
    reference.validate.mapError fun _ => .invalid "registry reference is invalid"
  failIf (maxEndpoints < t.endpoints.length) (.invalid "too many registered endpoints")
  failIf (maxCapabilityRefs < t.capabilityRefs.length) (.invalid "too many capability references")
  failIf (maxSignals < t.trustSignals.length) (.invalid "too many trust signals")
  let _ ← insertAll
    (fun endpoint => failIf (endpoint.tentacleId ≠ t.id)
      (.invalid "registry endpoint belongs to a different Tentacle"))
    RegistryEndpoint.xmtpInbox (.invalid "duplicate registry endpoint") (fun _ _ => .ok ()) ∅
    t.endpoints
  t.capabilityRefs.forM fun reference =>
    validateLabel reference "capability reference" maxReferenceLength
  t.trustSignals.forM TrustSignal.validate

/-- The inboxes a record answers at. -/
def RegisteredTentacle.inboxes (t : RegisteredTentacle) : List XmtpInboxRef :=
  t.endpoints.map (·.xmtpInbox)

/-! ## The registry -/

structure LegacyRegistryMigration where
  sourceSchemaVersion : ℕ
  legacyCthulhuIds : List CthulhuId

structure LocalRegistry where
  tentacles : HashMap TentacleId RegisteredTentacle
  migration : Option LegacyRegistryMigration

/-- `LocalRegistry::default`. -/
def LocalRegistry.default : LocalRegistry :=
  ⟨.empty, none⟩

/-- One record of the loader's loop, with the inboxes that have an owner by then. -/
def claimInboxes (owners : Finset XmtpInboxRef) (entry : TentacleId × RegisteredTentacle) :
    Except RegistryError (Finset XmtpInboxRef) := do
  failIf (entry.1 ≠ entry.2.id) (.invalid "registry key and Tentacle ID differ")
  entry.2.validate
  insertAll (fun _ => .ok ()) RegistryEndpoint.xmtpInbox
    (.invalid "XMTP endpoint association must be unique") (fun _ (_ : Unit) => .ok ()) owners
    entry.2.endpoints

/-- What is kept of a migration. -/
def LegacyRegistryMigration.validate (migration : LegacyRegistryMigration) (tentacles : ℕ) :
    Except RegistryError Unit := do
  failIf (migration.sourceSchemaVersion ≠ 1 ∨ (migration.legacyCthulhuIds = [] ∧ tentacles ≠ 0))
    (.invalid "legacy registry migration provenance is invalid")
  failIf (¬migration.legacyCthulhuIds.Nodup)
    (.invalid "legacy registry migration provenance contains duplicates")

def LocalRegistry.validateLoadedState (registry : LocalRegistry) : Except RegistryError Unit := do
  failIf (maxAgents < registry.tentacles.len) (.invalid "too many registered Tentacles")
  registry.migration.toList.forM fun migration => migration.validate registry.tentacles.len
  let _ ← registry.tentacles.sortedPairs.foldlM claimInboxes ∅
  return ()

abbrev Op (α : Type) := Fallible RegistryError LocalRegistry α

/-- Another record answers at an inbox of this one. -/
def LocalRegistry.inboxTaken (registry : LocalRegistry) (agent : RegisteredTentacle) : Bool :=
  registry.tentacles.values.any fun other =>
    other.id ≠ agent.id && other.endpoints.any fun existing =>
      agent.endpoints.any fun incoming => existing.xmtpInbox = incoming.xmtpInbox

def LocalRegistry.enter (agent : RegisteredTentacle) (registry : LocalRegistry) : LocalRegistry :=
  { registry with tentacles := registry.tentacles.insert agent.id agent }

def registerOrUpdate (agent : RegisteredTentacle) : Op Unit := do
  liftM agent.validate
  let registry ← get
  liftM (failIf (maxAgents ≤ registry.tentacles.len ∧ !registry.tentacles.contains agent.id)
    (RegistryError.invalid "too many registered Tentacles"))
  liftM (failIf ((registry.tentacles.get agent.id).any fun current =>
    agent.metadataVersion ≤ current.metadataVersion) RegistryError.staleUpdate)
  liftM (failIf (registry.inboxTaken agent)
    (RegistryError.invalid "XMTP inbox is already associated with another Tentacle"))
  modify (LocalRegistry.enter agent)

def LocalRegistry.resolve (registry : LocalRegistry) (id : TentacleId) :
    Except RegistryError RegisteredTentacle :=
  okOr (registry.tentacles.get id) .notFound

def LocalRegistry.verifyEndpointAssociation (registry : LocalRegistry) (id tentacleId : TentacleId)
    (inbox : XmtpInboxRef) : Except RegistryError Bool :=
  if id ≠ tentacleId then .ok false
  else do
    let record ← registry.resolve id
    return record.active && record.endpoints.any fun endpoint =>
      endpoint.active && endpoint.tentacleId = tentacleId && endpoint.xmtpInbox = inbox

/-! ## Migration -/

structure LegacyRegisteredCthulhuV1 where
  id : CthulhuId
  displayName : String
  registryRef : Option RegistryRef
  endpoints : List RegistryEndpoint
  capabilityRefs : List String
  trustSignals : List TrustSignal
  active : Bool
  metadataVersion : ℕ

structure LocalRegistryV1 where
  agents : HashMap CthulhuId LegacyRegisteredCthulhuV1

def LegacyRegisteredCthulhuV1.onlyEndpoint (agent : LegacyRegisteredCthulhuV1) :
    Except RegistryError RegistryEndpoint :=
  match agent.endpoints with
  | [endpoint] => .ok endpoint
  | _ => .error (.invalid
      "legacy Cthulhu registry records require exactly one Tentacle for migration")

/-- The record of a Tentacle that keeps the data of a Cthulhu. -/
def LegacyRegisteredCthulhuV1.migrated (agent : LegacyRegisteredCthulhuV1) (id : TentacleId) :
    RegisteredTentacle where
  id := id
  displayName := agent.displayName
  registryRef := agent.registryRef
  endpoints := agent.endpoints
  capabilityRefs := agent.capabilityRefs
  trustSignals := agent.trustSignals
  active := agent.active
  metadataVersion := agent.metadataVersion

def migrateAgent (done : HashMap TentacleId RegisteredTentacle × List CthulhuId)
    (entry : CthulhuId × LegacyRegisteredCthulhuV1) :
    Except RegistryError (HashMap TentacleId RegisteredTentacle × List CthulhuId) := do
  failIf (entry.1 ≠ entry.2.id) (.invalid "legacy registry key and Cthulhu ID differ")
  let endpoint ← entry.2.onlyEndpoint
  (entry.2.migrated endpoint.tentacleId).validate
  failIf (done.1.contains endpoint.tentacleId)
    (.invalid "legacy registry maps multiple coordination profiles to one Tentacle")
  return (done.1.insert endpoint.tentacleId (entry.2.migrated endpoint.tentacleId),
    done.2 ++ [entry.1])

def migrateV1 (legacy : LocalRegistryV1) : Except RegistryError LocalRegistry := do
  failIf (maxAgents < legacy.agents.len) (.invalid "too many legacy registered agents")
  let done ← legacy.agents.sortedPairs.foldlM migrateAgent (.empty, [])
  let registry := ⟨done.1, some ⟨1, done.2.insertionSort (· ≤ ·)⟩⟩
  registry.validateLoadedState
  return registry

/-! ## What the loader accepts -/

variable {registry registry' : LocalRegistry} {t t' agent : RegisteredTentacle}
  {id id' : TentacleId} {inbox : XmtpInboxRef}

theorem RegisteredTentacle.validate_inboxes (h : t.validate = .ok ()) : t.inboxes.Nodup := by
  unfold RegisteredTentacle.validate at h
  simp only [except_bind_ok, exists_unit] at h
  obtain ⟨-, -, -, -, -, -, seen, hseen, -⟩ := h
  exact (insertAll_empty_ok.mp hseen).2.1

/-- The loop passes when every record does and no inbox repeats. -/
theorem claimInboxes_ok {owners : Finset XmtpInboxRef}
    {entries : List (TentacleId × RegisteredTentacle)} :
    (∃ owners', entries.foldlM claimInboxes owners = .ok owners') ↔
      (∀ x ∈ entries, x.1 = x.2.id ∧ x.2.validate = .ok ()) ∧
        (entries.flatMap fun x => x.2.inboxes).Nodup ∧
          ∀ inbox ∈ entries.flatMap fun x => x.2.inboxes, inbox ∉ owners := by
  induction entries generalizing owners with
  | nil => simp [pure, Except.pure]
  | cons x entries ih =>
    have hstep : ∀ owners', claimInboxes owners x = .ok owners' ↔
        (x.1 = x.2.id ∧ x.2.validate = .ok ()) ∧ (∀ inbox ∈ x.2.inboxes, inbox ∉ owners) ∧
          x.2.inboxes.Nodup ∧ owners' = owners ∪ x.2.inboxes.toFinset := by
      intro owners'
      unfold claimInboxes RegisteredTentacle.inboxes
      simp only [except_check_ok, failIf_ok, not_not, insertAll_ok, List.forall_mem_map, and_assoc,
        exists_const, and_true]
    rw [List.foldlM_cons]
    simp only [except_bind_ok, hstep]
    rw [List.forall_mem_cons, List.flatMap_cons, List.nodup_append]
    have hsplit : (∀ inbox ∈ x.2.inboxes ++ entries.flatMap fun x => x.2.inboxes, inbox ∉ owners) ↔
        (∀ inbox ∈ x.2.inboxes, inbox ∉ owners) ∧
          ∀ inbox ∈ entries.flatMap fun x => x.2.inboxes, inbox ∉ owners :=
      List.forall_mem_append
    rw [hsplit]
    constructor
    · rintro ⟨owners', _, ⟨hentry, hfresh, hnodup, rfl⟩, hrest⟩
      obtain ⟨hentries, hnodup', hfresh'⟩ := ih.mp ⟨owners', hrest⟩
      refine ⟨⟨hentry, hentries⟩, ⟨hnodup, hnodup', fun i hi j hj heq => ?_⟩, hfresh, ?_⟩
      · refine hfresh' j hj (Finset.mem_union_right _ ?_)
        rw [← heq, List.mem_toFinset]
        exact hi
      · exact fun i hi hmem => hfresh' i hi (Finset.mem_union_left _ hmem)
    · rintro ⟨⟨hentry, hentries⟩, ⟨hnodup, hnodup', hdisjoint⟩, hfresh, hfresh'⟩
      have hrest : ∃ owners', entries.foldlM claimInboxes (owners ∪ x.2.inboxes.toFinset) =
          .ok owners' := by
        refine ih.mpr ⟨hentries, hnodup', fun i hi hmem => ?_⟩
        rcases Finset.mem_union.mp hmem with hmem | hmem
        · exact hfresh' i hi hmem
        · exact hdisjoint i (List.mem_toFinset.mp hmem) i hi rfl
      obtain ⟨owners', hrest⟩ := hrest
      exact ⟨owners', _, ⟨hentry, hfresh, hnodup, rfl⟩, hrest⟩

/-- The records are valid, each under its identifier, and no two share an inbox. -/
structure LocalRegistry.Registered (registry : LocalRegistry) : Prop where
  size : registry.tentacles.len ≤ maxAgents
  entries : ∀ id t, registry.tentacles.get id = some t → id = t.id ∧ t.validate = .ok ()
  owners : ∀ id id' t t', registry.tentacles.get id = some t →
    registry.tentacles.get id' = some t' → ∀ inbox ∈ t.inboxes, inbox ∈ t'.inboxes → id = id'

/-- What is kept of a migration names someone, once there are records. -/
def LocalRegistry.Provenance (registry : LocalRegistry) : Prop :=
  ∀ migration, registry.migration = some migration →
    migration.validate registry.tentacles.len = .ok ()

/-- No inbox repeats exactly when no two records share one. -/
theorem nodup_inboxes_iff
    (hentries : ∀ id t, registry.tentacles.get id = some t → id = t.id ∧ t.validate = .ok ()) :
    (registry.tentacles.sortedPairs.flatMap fun x => x.2.inboxes).Nodup ↔
      ∀ id id' t t', registry.tentacles.get id = some t → registry.tentacles.get id' = some t' →
        ∀ inbox ∈ t.inboxes, inbox ∈ t'.inboxes → id = id' := by
  have hmem : ∀ {id t}, (id, t) ∈ registry.tentacles.sortedPairs ↔
      registry.tentacles.get id = some t := by
    intro id t
    rw [registry.tentacles.sortedPairs_perm.mem_iff, HashMap.mem_pairs]
  have hnodup : registry.tentacles.sortedPairs.Nodup :=
    (registry.tentacles.sortedPairs_perm.nodup_iff).mpr
      (List.Nodup.of_map _ registry.tentacles.nodup_keys)
  rw [List.nodup_flatMap]
  constructor
  · rintro ⟨-, hdisjoint⟩ id id' t t' hget hget' inbox hinbox hinbox'
    by_contra hne
    have hne' : (id, t) ≠ (id', t') := fun heq => hne (congrArg Prod.fst heq)
    have : Std.Symm (Function.onFun List.Disjoint
        fun x : TentacleId × RegisteredTentacle => x.2.inboxes) := ⟨fun _ _ h => h.symm⟩
    exact hdisjoint.forall (hmem.mpr hget) (hmem.mpr hget') hne' hinbox hinbox'
  · intro howners
    refine ⟨fun x hx => (hentries x.1 x.2 (hmem.mp hx)).2 |> x.2.validate_inboxes, ?_⟩
    refine hnodup.pairwise_of_forall_ne fun x hx y hy hne inbox hinbox hinbox' => hne ?_
    have hkey := howners x.1 y.1 x.2 y.2 (hmem.mp hx) (hmem.mp hy) inbox hinbox hinbox'
    have hx' := hmem.mp hx
    rw [hkey, hmem.mp hy] at hx'
    exact Prod.ext hkey (Option.some.inj hx').symm

theorem validateLoadedState_ok :
    registry.validateLoadedState = .ok () ↔ registry.Registered ∧ registry.Provenance := by
  unfold LocalRegistry.validateLoadedState LocalRegistry.Provenance
  simp only [except_bind_ok, exists_unit, failIf_ok, not_lt, forM_ok, Option.mem_toList,
    except_pure_ok, and_true, claimInboxes_ok, Finset.notMem_empty, not_false_eq_true,
    implies_true, HashMap.forall_sortedPairs]
  constructor
  · rintro ⟨hsize, hprovenance, hentries, hnodup⟩
    exact ⟨⟨hsize, hentries, (nodup_inboxes_iff hentries).mp hnodup⟩, hprovenance⟩
  · rintro ⟨h, hprovenance⟩
    exact ⟨h.size, hprovenance, h.entries, (nodup_inboxes_iff h.entries).mpr h.owners⟩

end Cthuwu.Registry
