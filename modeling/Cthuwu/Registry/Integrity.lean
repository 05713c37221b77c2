import Cthuwu.Registry.Local

/-!
# Integrity of the local registry

Updates keep the records sound whatever they are (`registered_run`), and what they leave of a
migration as it was. The loader, though, refuses a migration that names nobody next to a record,
and a file of the older format may be empty : what starts from such a file can be loaded again
until its first valid update, and never after it (`registry_integrity_iff`).
-/

namespace Cthuwu.Registry

open Council Protocol
open Fallible

variable {registry registry' : LocalRegistry} {t t' agent : RegisteredTentacle}
  {id id' : TentacleId} {inbox : XmtpInboxRef} {updates : List RegisteredTentacle}

/-! ## One update -/

theorem inboxTaken_iff : registry.inboxTaken agent = true ↔
    ∃ id t, registry.tentacles.get id = some t ∧ t.id ≠ agent.id ∧
      ∃ inbox ∈ t.inboxes, inbox ∈ agent.inboxes := by
  unfold LocalRegistry.inboxTaken
  simp only [List.any_eq_true, HashMap.mem_values, Bool.and_eq_true, decide_eq_true_eq]
  constructor
  · rintro ⟨t, ⟨id, hget⟩, hne, e, he, e', he', heq⟩
    exact ⟨id, t, hget, hne, e.xmtpInbox, List.mem_map_of_mem he, heq ▸ List.mem_map_of_mem he'⟩
  · rintro ⟨id, t, hget, hne, inbox, hinbox, hinbox'⟩
    obtain ⟨e, he, rfl⟩ := List.mem_map.mp hinbox
    obtain ⟨e', he', heq⟩ := List.mem_map.mp hinbox'
    exact ⟨t, ⟨id, hget⟩, hne, e, he, e', he', heq.symm⟩

theorem registerOrUpdate_ok : (registerOrUpdate agent).exec registry = (.ok (), registry') ↔
    agent.validate = .ok () ∧
      (registry.tentacles.len < maxAgents ∨ registry.tentacles.contains agent.id = true) ∧
      (∀ current, registry.tentacles.get agent.id = some current →
        current.metadataVersion < agent.metadataVersion) ∧
      registry.inboxTaken agent = false ∧ registry.enter agent = registry' := by
  unfold registerOrUpdate
  simp only [lift_bind_ok, exists_unit, exec_get_bind, failIf_ok,
    exec_modify, Prod.mk.injEq, true_and, not_and_or, not_le, Bool.not_eq_true',
    Bool.not_eq_false, Bool.not_eq_true, Option.any_eq_false, decide_eq_false_iff_not]

theorem atomic_registerOrUpdate : Fallible.Atomic (registerOrUpdate agent) :=
  (readOnly_lift _).bind_atomic fun _ => Fallible.readOnly_get.bind_atomic fun _ =>
    (readOnly_lift _).bind_atomic fun _ => (readOnly_lift _).bind_atomic fun _ =>
      (readOnly_lift _).bind_atomic fun _ => (infallible_modify _).atomic

theorem registered_enter (h : registry.Registered)
    (hok : (registerOrUpdate agent).exec registry = (.ok (), registry')) :
    registry'.Registered := by
  obtain ⟨hvalid, hroom, -, htaken, rfl⟩ := (registerOrUpdate_ok).mp hok
  have hfree : ∀ id t, registry.tentacles.get id = some t → id ≠ agent.id →
      ∀ inbox ∈ t.inboxes, inbox ∉ agent.inboxes := by
    intro id t hget hne inbox hinbox hagent
    have hid := (h.entries id t hget).1
    have htaken' : registry.inboxTaken agent = true :=
      (inboxTaken_iff).mpr ⟨id, t, hget, hid ▸ hne, inbox, hinbox, hagent⟩
    rw [htaken] at htaken'
    cases htaken'
  unfold LocalRegistry.enter
  refine ⟨?_, ?_, ?_⟩
  · dsimp only
    cases hget : registry.tentacles.get agent.id with
    | none =>
      rw [HashMap.len_insert_fresh hget]
      refine hroom.resolve_right fun hcontains => ?_
      unfold HashMap.contains at hcontains
      rw [hget] at hcontains
      cases hcontains
    | some current =>
      rw [HashMap.len_insert_present hget]
      exact h.size
  · intro id t hget
    rw [HashMap.get_insert_apply] at hget
    split_ifs at hget with hid
    · cases hget
      exact ⟨hid, hvalid⟩
    · exact h.entries id t hget
  · intro id id' t t' hget hget' inbox hinbox hinbox'
    rw [HashMap.get_insert_apply] at hget hget'
    split_ifs at hget hget' with hid hid' hid'
    · rw [hid, hid']
    · cases hget
      exact absurd hinbox (hfree id' t' hget' hid' inbox hinbox')
    · cases hget'
      exact absurd hinbox' (hfree id t hget hid inbox hinbox)
    · exact h.owners id id' t t' hget hget' inbox hinbox hinbox'

/-- The registry after an update, whether it was accepted or not. -/
def LocalRegistry.step (registry : LocalRegistry) (agent : RegisteredTentacle) : LocalRegistry :=
  (registerOrUpdate agent).after registry

def LocalRegistry.run (registry : LocalRegistry) (updates : List RegisteredTentacle) :
    LocalRegistry :=
  updates.foldl LocalRegistry.step registry

/-- An update does nothing, or enters its record. -/
theorem step_cases (registry : LocalRegistry) (agent : RegisteredTentacle) :
    registry.step agent = registry ∨
      (registerOrUpdate agent).exec registry = (.ok (), registry.enter agent) ∧
        registry.step agent = registry.enter agent := by
  unfold LocalRegistry.step
  rcases hexec : (registerOrUpdate agent).exec registry with ⟨result, registry'⟩
  cases result with
  | error e => exact .inl (atomic_registerOrUpdate registry e (congrArg Prod.fst hexec))
  | ok u =>
    obtain ⟨-, -, -, -, rfl⟩ := (registerOrUpdate_ok).mp hexec
    exact .inr ⟨rfl, congrArg Prod.snd hexec⟩

theorem registered_step (h : registry.Registered) : (registry.step agent).Registered := by
  rcases step_cases registry agent with hstep | ⟨hok, hstep⟩
  · rwa [hstep]
  · rw [hstep]
    exact registered_enter h hok

theorem registered_run (h : registry.Registered) (updates : List RegisteredTentacle) :
    (registry.run updates).Registered := by
  induction updates generalizing registry with
  | nil => exact h
  | cons agent updates ih => exact ih (registered_step h)

theorem run_migration (registry : LocalRegistry) (updates : List RegisteredTentacle) :
    (registry.run updates).migration = registry.migration := by
  induction updates generalizing registry with
  | nil => rfl
  | cons agent updates ih =>
    refine (ih (registry.step agent)).trans ?_
    rcases step_cases registry agent with hstep | ⟨-, hstep⟩
    · rw [hstep]
    · rw [hstep]
      rfl

/-! ## The first record -/

theorem get_of_len_zero (h : registry.tentacles.len = 0) (id : TentacleId) :
    registry.tentacles.get id = none := by
  by_contra hne
  obtain ⟨t, hget⟩ := Option.ne_none_iff_exists'.mp hne
  have hmem := HashMap.get_mem_values hget
  rw [List.length_eq_zero_iff.mp (HashMap.length_values.trans h)] at hmem
  exact absurd hmem List.not_mem_nil

theorem step_empty (h : registry.tentacles.len = 0) :
    (registry.step agent).tentacles.len = 0 ↔ agent.validate ≠ .ok () := by
  constructor
  · intro hlen hvalid
    have hok : (registerOrUpdate agent).exec registry = (.ok (), registry.enter agent) := by
      refine (registerOrUpdate_ok).mpr ⟨hvalid, .inl ?_, ?_, ?_, rfl⟩
      · rw [h]
        exact Nat.zero_lt_succ _
      · intro current hget
        rw [get_of_len_zero h] at hget
        cases hget
      · refine Bool.not_eq_true _ ▸ fun htaken => ?_
        obtain ⟨id, t, hget, -⟩ := (inboxTaken_iff).mp htaken
        rw [get_of_len_zero h] at hget
        cases hget
    have hstep : registry.step agent = registry.enter agent := congrArg Prod.snd hok
    rw [hstep] at hlen
    have hentered := HashMap.len_insert_fresh (v := agent) (get_of_len_zero h agent.id)
    change (registry.tentacles.insert agent.id agent).len = 0 at hlen
    omega
  · intro hinvalid
    rcases step_cases registry agent with hstep | ⟨hok, -⟩
    · rw [hstep, h]
    · exact absurd ((registerOrUpdate_ok).mp hok).1 hinvalid

theorem len_step_le : registry.tentacles.len ≤ (registry.step agent).tentacles.len := by
  rcases step_cases registry agent with hstep | ⟨-, hstep⟩
  · rw [hstep]
  · rw [hstep]
    unfold LocalRegistry.enter
    dsimp only
    cases hget : registry.tentacles.get agent.id with
    | none =>
      rw [HashMap.len_insert_fresh hget]
      omega
    | some current => rw [HashMap.len_insert_present hget]

theorem len_run_le (updates : List RegisteredTentacle) :
    registry.tentacles.len ≤ (registry.run updates).tentacles.len := by
  induction updates generalizing registry with
  | nil => exact le_rfl
  | cons agent updates ih =>
    have hstep : registry.tentacles.len ≤ (registry.step agent).tentacles.len := len_step_le
    exact hstep.trans ih

/-- An empty registry stays empty exactly while no update is valid. -/
theorem run_empty (h : registry.tentacles.len = 0) :
    (registry.run updates).tentacles.len = 0 ↔ ∀ update ∈ updates, update.validate ≠ .ok () := by
  induction updates generalizing registry with
  | nil => exact iff_of_true h fun _ hmem => absurd hmem List.not_mem_nil
  | cons agent updates ih =>
    rw [List.forall_mem_cons]
    constructor
    · intro hrun
      have hstep : (registry.step agent).tentacles.len = 0 :=
        Nat.le_zero.mp (hrun ▸ len_run_le updates)
      exact ⟨(step_empty h).mp hstep, (ih hstep).mp hrun⟩
    · rintro ⟨hagent, hupdates⟩
      exact (ih ((step_empty h).mpr hagent)).mpr hupdates

/-! ## Where a registry comes from -/

inductive Start
  | fresh
  | legacy (file : LocalRegistryV1)

def Start.load : Start → Except RegistryError LocalRegistry
  | fresh => .ok .default
  | legacy file => migrateV1 file

/-- A file of the older format without any record. -/
def Start.FromEmptyFile : Start → Prop
  | fresh => False
  | legacy file => file.agents.len = 0

theorem registered_default : LocalRegistry.default.Registered where
  size := Nat.zero_le _
  entries id _ h := nomatch (HashMap.get_empty id).symm.trans h
  owners id _ _ _ h := nomatch (HashMap.get_empty id).symm.trans h

/-- The migration keeps the identifier of every record. -/
theorem migrateAgent_length {done done' : HashMap TentacleId RegisteredTentacle × List CthulhuId}
    {entries : List (CthulhuId × LegacyRegisteredCthulhuV1)}
    (h : entries.foldlM migrateAgent done = .ok done') :
    done'.2.length = done.2.length + entries.length := by
  induction entries generalizing done with
  | nil =>
    cases h
    rfl
  | cons entry entries ih =>
    rw [List.foldlM_cons, except_bind_ok] at h
    obtain ⟨next, hnext, hrest⟩ := h
    unfold migrateAgent at hnext
    simp only [except_bind_ok, exists_unit, except_pure_ok] at hnext
    obtain ⟨-, endpoint, -, -, -, rfl⟩ := hnext
    rw [ih hrest, List.length_append, List.length_singleton, List.length_cons]
    omega

/-- What a migration gives can be loaded, and names nobody only when the file was empty. -/
theorem migrateV1_ok {legacy : LocalRegistryV1} (h : migrateV1 legacy = .ok registry) :
    registry.validateLoadedState = .ok () ∧ ∃ migration, registry.migration = some migration ∧
      (migration.legacyCthulhuIds = [] ↔ legacy.agents.len = 0) := by
  unfold migrateV1 at h
  simp only [except_bind_ok, exists_unit, except_pure_ok] at h
  obtain ⟨-, done, hdone, hvalid, rfl⟩ := h
  refine ⟨hvalid, _, rfl, ?_⟩
  have hlength := migrateAgent_length hdone
  rw [List.length_nil, Nat.zero_add, legacy.agents.sortedPairs_perm.length_eq] at hlength
  have hpairs : legacy.agents.pairs.length = legacy.agents.len := List.length_map ..
  rw [← List.length_eq_zero_iff, List.length_insertionSort, hlength, hpairs]

/-! ## The condition -/

variable {start : Start} {initial : LocalRegistry}

/-- With what is kept of a migration unchanged, the loader refuses only a first record next to a
migration that names nobody. -/
theorem provenance_run (hvalid : initial.validateLoadedState = .ok ()) :
    (initial.run updates).Provenance ↔ ∀ migration, initial.migration = some migration →
      migration.legacyCthulhuIds = [] → (initial.run updates).tentacles.len = 0 := by
  obtain ⟨-, hprovenance⟩ := validateLoadedState_ok.mp hvalid
  unfold LocalRegistry.Provenance at hprovenance ⊢
  rw [run_migration]
  refine forall₂_congr fun migration hmigration => ?_
  have hbefore := hprovenance migration hmigration
  unfold LegacyRegistryMigration.validate at hbefore ⊢
  simp only [except_check_ok, failIf_ok, not_or, not_and, not_not] at hbefore ⊢
  obtain ⟨⟨hversion, -⟩, hnodup⟩ := hbefore
  exact ⟨fun h => h.1.2, fun h => ⟨⟨hversion, h⟩, hnodup⟩⟩

/-- A run can be loaded again exactly until the first valid update of a registry that was migrated
from an empty file. -/
theorem loadable_run (hload : start.load = .ok initial) :
    (initial.run updates).validateLoadedState = .ok () ↔
      ¬(start.FromEmptyFile ∧ ∃ update ∈ updates, update.validate = .ok ()) := by
  cases start with
  | fresh =>
    cases hload
    refine iff_of_true (validateLoadedState_ok.mpr ⟨registered_run registered_default _, ?_⟩)
      fun h => h.1
    intro migration hmigration
    rw [run_migration] at hmigration
    cases hmigration
  | legacy file =>
    obtain ⟨hvalid, migration, hmigration, hnobody⟩ := migrateV1_ok hload
    obtain ⟨hregistered, hprovenance⟩ := validateLoadedState_ok.mp hvalid
    have hrun := registered_run hregistered updates
    rw [validateLoadedState_ok, and_iff_right hrun, provenance_run hvalid, hmigration]
    unfold Start.FromEmptyFile
    simp only [Option.some.injEq, forall_eq', hnobody, not_and, not_exists]
    refine imp_congr_right fun hempty => ?_
    have hlen : initial.tentacles.len = 0 := by
      have hnow := hprovenance migration hmigration
      unfold LegacyRegistryMigration.validate at hnow
      simp only [except_check_ok, failIf_ok, not_or, not_and, not_not] at hnow
      exact hnow.1.2 (hnobody.mpr hempty)
    exact run_empty hlen

theorem verifyEndpointAssociation_true {tentacleId : TentacleId}
    (h : registry.verifyEndpointAssociation id tentacleId inbox = .ok true) :
    tentacleId = id ∧ ∃ t, registry.tentacles.get id = some t ∧ inbox ∈ t.inboxes := by
  unfold LocalRegistry.verifyEndpointAssociation LocalRegistry.resolve at h
  split_ifs at h with hid
  · cases h
  · simp only [except_bind_ok, okOr_ok, except_pure_ok, Bool.and_eq_true, List.any_eq_true,
      decide_eq_true_eq] at h
    obtain ⟨t, hget, -, e, he, -, heq⟩ := h
    rw [not_ne_iff] at hid
    exact ⟨hid.symm, t, hget, List.mem_map.mpr ⟨e, he, heq⟩⟩

/-- Every state of a run can be loaded exactly when it does not start from an empty file of the
older format or no update is valid. In every state no inbox belongs to two Tentacles, an inbox is
verified for at most one, an accepted update has a newer version and takes effect, and a refused
one changes nothing. -/
theorem registry_integrity_iff (hload : start.load = .ok initial)
    (updates : List RegisteredTentacle) :
    ((∀ n, (initial.run (updates.take n)).validateLoadedState = .ok ()) ↔
      ¬(start.FromEmptyFile ∧ ∃ update ∈ updates, update.validate = .ok ())) ∧
    (∀ id id' t t' inbox, (initial.run updates).tentacles.get id = some t →
      (initial.run updates).tentacles.get id' = some t' → inbox ∈ t.inboxes → inbox ∈ t'.inboxes →
        id = id') ∧
    (∀ id id' tentacleId tentacleId' inbox,
      (initial.run updates).verifyEndpointAssociation id tentacleId inbox = .ok true →
      (initial.run updates).verifyEndpointAssociation id' tentacleId' inbox = .ok true → id = id') ∧
    (∀ agent, ((registerOrUpdate agent).exec (initial.run updates)).1 = .ok () →
      (∀ current, (initial.run updates).tentacles.get agent.id = some current →
        current.metadataVersion < agent.metadataVersion) ∧
      ((registerOrUpdate agent).after (initial.run updates)).tentacles.get agent.id = some agent) ∧
    ∀ agent e, ((registerOrUpdate agent).exec (initial.run updates)).1 = .error e →
      (registerOrUpdate agent).after (initial.run updates) = initial.run updates := by
  have hregistered : initial.Registered := by
    cases start with
    | fresh =>
      cases hload
      exact registered_default
    | legacy file => exact (validateLoadedState_ok.mp (migrateV1_ok hload).1).1
  have howners := (registered_run hregistered updates).owners
  refine ⟨?_, ?_, ?_, ?_, fun agent e he => atomic_registerOrUpdate _ e he⟩
  · simp only [loadable_run hload]
    constructor
    · intro h
      have hall := h updates.length
      rwa [List.take_length] at hall
    · rintro h n ⟨hempty, update, hmem, hvalid⟩
      exact h ⟨hempty, update, List.mem_of_mem_take hmem, hvalid⟩
  · exact fun id id' t t' inbox hget hget' => howners id id' t t' hget hget' inbox
  · intro id id' tentacleId tentacleId' inbox h h'
    obtain ⟨-, t, hget, hinbox⟩ := verifyEndpointAssociation_true h
    obtain ⟨-, t', hget', hinbox'⟩ := verifyEndpointAssociation_true h'
    exact howners id id' t t' hget hget' inbox hinbox hinbox'
  · intro agent hok
    have hexec : (registerOrUpdate agent).exec (initial.run updates) =
        (.ok (), (registerOrUpdate agent).after (initial.run updates)) := Prod.ext hok rfl
    obtain ⟨-, -, hversion, -, hafter⟩ := (registerOrUpdate_ok).mp hexec
    refine ⟨hversion, ?_⟩
    rw [← hafter]
    exact HashMap.get_insert

/-! ## An empty file -/

def sampleRecord : RegisteredTentacle where
  id := ⟨"tentacle_sea", by decide⟩
  displayName := "Home"
  registryRef := none
  endpoints := [⟨⟨"tentacle_sea", by decide⟩, ⟨"abcdef012345", by decide⟩, true⟩]
  capabilityRefs := []
  trustSignals := []
  active := true
  metadataVersion := 1

theorem registry_integrity_iff_sample : Start.fresh.load = .ok .default ∧
    (LocalRegistry.default.run [sampleRecord]).validateLoadedState = .ok () := by
  have hload : Start.fresh.load = .ok .default := rfl
  exact ⟨hload, (registry_integrity_iff hload [sampleRecord]).1.mpr (fun h => h.1) 1⟩

/-- A registry that was migrated from an empty file takes a record and cannot be loaded again. -/
theorem empty_file_breaks_registry : ∃ initial, migrateV1 ⟨.empty⟩ = .ok initial ∧
    ((registerOrUpdate sampleRecord).exec initial).1 = .ok () ∧
    ((registerOrUpdate sampleRecord).after initial).validateLoadedState =
      .error (.invalid "legacy registry migration provenance is invalid") :=
  ⟨⟨.empty, some ⟨1, []⟩⟩, rfl, by decide, by decide⟩

end Cthuwu.Registry
