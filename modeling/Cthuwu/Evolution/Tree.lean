import Cthuwu.Evolution.Replay

/-!
# Lineages that are loaded

What `validateState` says of a lineage, part by part (`LineageState.Valid`), and what follows. The
edges are the same in both directions, and the walk from the root meets every node, so that the nodes
are one tree (`Valid.isTree`) and every node is led to the root by its parents (`Valid.ancestors`).
Generations grow along the edges but for the last one, where the check of an edge saturates
(`saturated_generation_loads`).
-/

namespace Cthuwu.Evolution

namespace LineageState

variable {s : LineageState} {id parentId : String} {node parent : LineageNode}

/-! ## The checks, part by part -/

structure NodeHolds (id : String) (node : LineageNode) : Prop where
  safeId : isSafeId id = true
  keyed : node.tentacleId = id
  nature : node.nature.validate = .ok ()
  generation : node.nature.generation = node.generation
  childIds : ∀ childId ∈ node.children, isSafeId childId = true
  once : node.children.Nodup
  ended : ∀ into atMs, node.lifecycle = .absorbed into atMs →
    isSafeId into = true ∧ node.spawnedAtMs ≤ atMs

structure EdgeHolds (s : LineageState) (parentId : String) (parent node : LineageNode) : Prop where
  apart : parentId ≠ node.tentacleId
  listed : node.tentacleId ∈ parent.children
  generation : node.generation = min (parent.generation + 1) u64Max
  spawnedLater : parent.spawnedAtMs ≤ node.spawnedAtMs
  spawn : ∃ spawn, s.spawnRecords.find? (·.childId = node.tentacleId) = some spawn ∧
    spawn.parentId = parentId ∧ node.nature.parentNatureId = some spawn.parentNatureId
  ended : ∀ into atMs, parent.lifecycle = .absorbed into atMs → node.spawnedAtMs ≤ atMs

structure SpawnHolds (record : SpawnRecord) (child : LineageNode) : Prop where
  parentId : child.parentId = some record.parentId
  generation : child.generation = record.generation
  atMs : child.spawnedAtMs = record.atMs
  natureId : child.nature.natureId = record.childNatureId
  parentNatureId : child.nature.parentNatureId = some record.parentNatureId

theorem checkNode_ok : checkNode (id, node) = .ok () ∧ checkRest node = .ok () ↔
    NodeHolds id node := by
  have hended : checkAbsorbed node node.lifecycle = .ok () ↔ ∀ into atMs,
      node.lifecycle = .absorbed into atMs → isSafeId into = true ∧ node.spawnedAtMs ≤ atMs := by
    cases node.lifecycle with
    | active => exact iff_of_true rfl nofun
    | absorbed into atMs => simp [checkAbsorbed, except_check_ok, validateId_ok]
  unfold checkNode checkRest
  simp only [except_bind_ok, exists_unit, validateId_ok, failIf_ok, insertAll_empty_ok, not_not,
    hended, and_true, List.map_id]
  constructor
  · rintro ⟨⟨hid, -, hkey, hnature, hgeneration⟩, _, ⟨hchildren, honce, -⟩, hend⟩
    exact ⟨hid, hkey.symm, hnature, hgeneration, hchildren, honce, hend⟩
  · intro h
    refine ⟨⟨h.safeId, ?_, h.keyed.symm, h.nature, h.generation⟩, _,
      ⟨h.childIds, h.once, rfl⟩, h.ended⟩
    exact h.keyed.symm ▸ h.safeId

theorem checkParent_root (h : node.parentId = none) : s.checkParent node = .ok () ↔
    node.tentacleId = s.rootId ∧
      (s.externalParentId = none → node.nature.parentNatureId = none) := by
  unfold checkParent
  rw [h]
  simp only [except_bind_ok, exists_unit, failIf_ok, not_not, not_and, Bool.not_eq_true,
    Option.isSome_eq_false_iff, Option.isNone_iff_eq_none]
  exact and_congr_right fun hroot => ⟨fun himp => himp hroot, fun himp _ => himp⟩

theorem checkParent_child (h : node.parentId = some parentId) : s.checkParent node = .ok () ↔
    ∃ parent, s.nodes.get parentId = some parent ∧ s.EdgeHolds parentId parent node := by
  have hended : ∀ parent : LineageNode, checkParentEnd node parent.lifecycle = .ok () ↔
      ∀ into atMs, parent.lifecycle = .absorbed into atMs → node.spawnedAtMs ≤ atMs := by
    intro parent
    cases parent.lifecycle with
    | active => exact iff_of_true rfl nofun
    | absorbed into atMs => simp [checkParentEnd]
  unfold checkParent
  rw [h]
  simp only [except_bind_ok, exists_unit, failIf_ok, okOr_ok, not_not, not_or, not_lt,
    Bool.not_eq_true, Bool.not_eq_false', List.contains_iff_mem, hended]
  constructor
  · rintro ⟨parent, hget, hapart, hlisted, hgeneration, hlater, spawn, hfind, ⟨hparent, hnature⟩,
      hend⟩
    exact ⟨parent, hget, hapart, hlisted, hgeneration, hlater, ⟨spawn, hfind, hparent, hnature⟩,
      hend⟩
  · rintro ⟨parent, hget, hedge⟩
    obtain ⟨spawn, hfind, hparent, hnature⟩ := hedge.spawn
    exact ⟨parent, hget, hedge.apart, hedge.listed, hedge.generation, hedge.spawnedLater, spawn,
      hfind, ⟨hparent, hnature⟩, hedge.ended⟩

theorem checkEdges_ok : s.checkEdges node = .ok () ↔ s.checkParent node = .ok () ∧
    ∀ childId ∈ node.children, ∃ child, s.nodes.get childId = some child ∧
      child.parentId = some node.tentacleId := by
  unfold checkEdges
  simp only [except_bind_ok, exists_unit, forM_ok, okOr_ok, failIf_ok, not_not]

theorem checkSpawned_ok {record : SpawnRecord} : s.checkSpawned record = .ok () ↔
    record.childId ≠ s.rootId ∧
      ∃ child, s.nodes.get record.childId = some child ∧ SpawnHolds record child := by
  unfold checkSpawned
  simp only [except_bind_ok, exists_unit, failIf_ok, okOr_ok, not_or, not_not]
  refine and_congr_right fun _ => exists_congr fun child => and_congr_right fun _ => ?_
  constructor
  · rintro ⟨hparent, hgeneration, htime, hnature, hparentNature⟩
    exact ⟨hparent, hgeneration, htime, hnature, hparentNature⟩
  · exact fun h => ⟨h.parentId, h.generation, h.atMs, h.natureId, h.parentNatureId⟩

/-! ## All checks -/

/-- What `validateState` says but for the walk from the root. -/
structure Sound (s : LineageState) : Prop where
  schema : s.schemaVersion = lineageSchemaVersion
  rootId : isSafeId s.rootId = true
  spawnCount : s.spawnRecords.length = s.nodes.len - 1
  bounded : s.spawnRecords.length + s.absorptionRecords.length ≤ u64Max
  revision : s.revision = s.spawnRecords.length + s.absorptionRecords.length
  root : ∃ root, s.nodes.get s.rootId = some root ∧ root.parentId = none ∧ s.checkRoot root = .ok ()
  node : ∀ id node, s.nodes.get id = some node → NodeHolds id node
  natureIds : (s.nodes.values.map (·.nature.natureId)).Nodup
  parentless : ∀ id node, s.nodes.get id = some node → node.parentId = none →
    node.tentacleId = s.rootId ∧ (s.externalParentId = none → node.nature.parentNatureId = none)
  parent : ∀ id node, s.nodes.get id = some node → ∀ parentId, node.parentId = some parentId →
    ∃ parent, s.nodes.get parentId = some parent ∧ s.EdgeHolds parentId parent node
  child : ∀ id node, s.nodes.get id = some node → ∀ childId ∈ node.children,
    ∃ child, s.nodes.get childId = some child ∧ child.parentId = some node.tentacleId
  spawnRecord : ∀ record ∈ s.spawnRecords, checkSpawnRecord record = .ok ()
  spawned : ∀ record ∈ s.spawnRecords, record.childId ≠ s.rootId ∧
    ∃ child, s.nodes.get record.childId = some child ∧ SpawnHolds record child
  spawnedOnce : (s.spawnRecords.map (·.childId)).Nodup
  absorptions : s.AbsorptionsHold

/-- What `validateState` says. -/
structure Valid (s : LineageState) : Prop extends s.Sound where
  visited : ∃ visited, s.visitLineage (s.nodes.len + 1) ∅ s.rootId ∅ = .ok visited ∧
    visited.card = s.nodes.len

theorem edges_ok : (∀ id node, s.nodes.get id = some node → s.checkEdges node = .ok ()) ↔
    (∀ id node, s.nodes.get id = some node → node.parentId = none → node.tentacleId = s.rootId ∧
        (s.externalParentId = none → node.nature.parentNatureId = none)) ∧
    (∀ id node, s.nodes.get id = some node → ∀ parentId, node.parentId = some parentId →
      ∃ parent, s.nodes.get parentId = some parent ∧ s.EdgeHolds parentId parent node) ∧
    (∀ id node, s.nodes.get id = some node → ∀ childId ∈ node.children,
      ∃ child, s.nodes.get childId = some child ∧ child.parentId = some node.tentacleId) := by
  simp only [checkEdges_ok]
  constructor
  · intro h
    refine ⟨fun id node hget hnone => ?_, fun id node hget parentId hsome => ?_,
      fun id node hget => (h id node hget).2⟩
    · exact (checkParent_root hnone).mp (h id node hget).1
    · exact (checkParent_child hsome).mp (h id node hget).1
  · rintro ⟨hroot, hparent, hchild⟩ id node hget
    refine ⟨?_, hchild id node hget⟩
    cases hp : node.parentId with
    | none => exact (checkParent_root hp).mpr (hroot id node hget hp)
    | some parentId => exact (checkParent_child hp).mpr (hparent id node hget parentId hp)

end LineageState

open LineageState

theorem validateState_ok {s : LineageState} : validateState s = .ok () ↔ s.Valid := by
  have hnatures : (s.nodes.sortedPairs.map fun entry => entry.2.nature.natureId).Perm
      (s.nodes.values.map (·.nature.natureId)) := by
    unfold HashMap.values
    rw [List.map_map]
    exact s.nodes.sortedPairs_perm.map _
  unfold validateState
  simp only [except_bind_ok, failIf_ok, okOr_ok, exists_unit, validateId_ok, insertAll_empty_ok,
    forM_ok, HashMap.forall_sortedPairs, not_not, not_lt, Bool.not_eq_true,
    Option.isSome_eq_false_iff, Option.isNone_iff_eq_none, hnatures.nodup_iff, checkNode_ok,
    edges_ok, checkSpawned_ok, validateAbsorptions_ok]
  constructor
  · rintro ⟨hschema, hroot, hlen, hcount, hbounded, hrevision, root, hget, hparent, hcheck, _,
      ⟨hnodes, hnatures, -⟩, ⟨hparentless, hparents, hchildren⟩, visited, hvisit, hcard, _,
      ⟨hspawned, honce, -⟩, habsorb⟩
    exact ⟨⟨hschema, hroot, hcount, hbounded, hrevision, ⟨root, hget, hparent, hcheck⟩, hnodes,
      hnatures, hparentless, hparents, hchildren, fun record hmem => (hspawned record hmem).1,
      fun record hmem => (hspawned record hmem).2, honce, habsorb⟩, ⟨visited, hvisit, hcard⟩⟩
  · intro h
    obtain ⟨root, hget, hparent, hcheck⟩ := h.root
    obtain ⟨visited, hvisit, hcard⟩ := h.visited
    refine ⟨h.schema, h.rootId, fun hzero => ?_, h.spawnCount, h.bounded, h.revision, root, hget,
      hparent, hcheck, _, ⟨h.node, h.natureIds, rfl⟩, ⟨h.parentless, h.parent, h.child⟩, visited,
      hvisit, hcard, _, ⟨fun record hmem => ⟨h.spawnRecord record hmem, h.spawned record hmem⟩,
      h.spawnedOnce, rfl⟩, h.absorptions⟩
    have hmem := HashMap.get_mem_values hget
    rw [List.eq_nil_of_length_eq_zero (HashMap.length_values.trans hzero)] at hmem
    cases hmem

namespace LineageState

variable {s : LineageState} {id : String} {node : LineageNode} {path : List String}

/-! ## The tree -/

def HasParent (s : LineageState) (id parentId : String) : Prop :=
  ∃ node, s.nodes.get id = some node ∧ node.parentId = some parentId

/-- The nodes are one tree below the root, and the edges are the same in both directions. -/
structure IsTree (s : LineageState) : Prop where
  keyed : s.Keyed
  root : ∃ root, s.nodes.get s.rootId = some root ∧ root.parentId = none
  onlyRoot : ∀ id node, s.nodes.get id = some node → node.parentId = none → id = s.rootId
  parent : ∀ id parentId, s.HasParent id parentId →
    ∃ parent, s.nodes.get parentId = some parent ∧ id ∈ parent.children
  child : ∀ id node, s.nodes.get id = some node → ∀ childId ∈ node.children, s.HasParent childId id
  once : ∀ id node, s.nodes.get id = some node → node.children.Nodup
  descends : ∀ id node, s.nodes.get id = some node → Descends s.childrenOf s.rootId id
  acyclic : ∀ id, ¬ Relation.TransGen (Edge s.childrenOf) id id

theorem childrenOf_ok {found : List String} : s.childrenOf id = .ok found ↔
    ∃ node, s.nodes.get id = some node ∧ node.children = found := by
  unfold childrenOf
  simp only [except_bind_ok, okOr_ok, except_pure_ok]

theorem edge_iff {a b : String} : Edge s.childrenOf a b ↔
    ∃ node, s.nodes.get a = some node ∧ b ∈ node.children := by
  unfold Edge
  simp only [childrenOf_ok]
  constructor
  · rintro ⟨_, ⟨node, hget, rfl⟩, hmem⟩
    exact ⟨node, hget, hmem⟩
  · rintro ⟨node, hget, hmem⟩
    exact ⟨node.children, ⟨node, hget, rfl⟩, hmem⟩

namespace Sound

theorem keyed (h : s.Sound) : s.Keyed :=
  fun id node hget => (h.node id node hget).keyed

theorem onlyRoot (h : s.Sound) (hget : s.nodes.get id = some node) (hnone : node.parentId = none) :
    id = s.rootId :=
  (h.keyed id node hget).symm.trans (h.parentless id node hget hnone).1

theorem hasParent (h : s.Sound) {a b : String} (hab : Edge s.childrenOf a b) : s.HasParent b a := by
  obtain ⟨node, hget, hmem⟩ := (edge_iff).mp hab
  obtain ⟨child, hchild, hparent⟩ := h.child a node hget b hmem
  exact ⟨child, hchild, hparent.trans (congrArg some (h.keyed a node hget))⟩

theorem edge (h : s.Sound) {a b : String} (hba : s.HasParent b a) : Edge s.childrenOf a b := by
  obtain ⟨node, hget, hparent⟩ := hba
  obtain ⟨parent, hgetParent, hedge⟩ := h.parent b node hget a hparent
  exact (edge_iff).mpr ⟨parent, hgetParent, h.keyed b node hget ▸ hedge.listed⟩

/-- No path leads from a node below the root back to it. -/
theorem acyclic_of_descends (h : s.Sound) (hdescends : Descends s.childrenOf s.rootId id) :
    ¬ Relation.TransGen (Edge s.childrenOf) id id := by
  induction hdescends with
  | refl =>
    intro hcycle
    obtain ⟨_, -, hlast⟩ := Relation.TransGen.tail'_iff.mp hcycle
    obtain ⟨root, hroot, hnone, -⟩ := h.root
    obtain ⟨child, hchild, hparent⟩ := h.hasParent hlast
    cases hroot.symm.trans hchild
    cases hnone.symm.trans hparent
  | tail _ hedge ih =>
    intro hcycle
    obtain ⟨_, hpath, hlast⟩ := Relation.TransGen.tail'_iff.mp hcycle
    -- the last edge of the cycle comes from the one parent there is
    obtain ⟨child, hchild, hparent⟩ := h.hasParent hedge
    obtain ⟨child', hchild', hparent'⟩ := h.hasParent hlast
    cases hchild.symm.trans hchild'
    cases hparent.symm.trans hparent'
    exact ih (Relation.TransGen.head' hedge hpath)

end Sound

namespace Valid

/-- The walk from the root meets every node. -/
theorem descends (h : s.Valid) (hget : s.nodes.get id = some node) :
    Descends s.childrenOf s.rootId id := by
  obtain ⟨visited, hvisit, hcard⟩ := h.visited
  have hsubset : visited ⊆ s.nodes.keys.toFinset := by
    intro v hv
    rw [List.mem_toFinset, HashMap.mem_keys]
    rcases Relation.ReflTransGen.cases_tail ((mem_visit hvisit).mp hv) with rfl | ⟨_, -, hedge⟩
    · exact h.root.imp fun _ hroot => hroot.1
    · exact (h.hasParent hedge).imp fun _ hchild => hchild.1
  have hall : visited = s.nodes.keys.toFinset := by
    refine Finset.eq_of_subset_of_card_le hsubset ?_
    rw [List.toFinset_card_of_nodup s.nodes.nodup_keys, HashMap.length_keys, hcard]
  refine (mem_visit hvisit).mp ?_
  rw [hall, List.mem_toFinset, HashMap.mem_keys]
  exact ⟨node, hget⟩

theorem isTree (h : s.Valid) : s.IsTree where
  keyed := h.keyed
  root := h.root.imp fun _ hroot => ⟨hroot.1, hroot.2.1⟩
  onlyRoot _ _ hget hnone := h.onlyRoot hget hnone
  parent _ _ hparent := (edge_iff).mp (h.edge hparent)
  child _ node hget _ hmem := h.hasParent ((edge_iff).mpr ⟨node, hget, hmem⟩)
  once id node hget := (h.node id node hget).once
  descends _ _ hget := h.descends hget
  acyclic id hcycle := by
    obtain ⟨_, hfirst, -⟩ := Relation.TransGen.head'_iff.mp hcycle
    obtain ⟨node, hget, -⟩ := (edge_iff).mp hfirst
    exact h.acyclic_of_descends (h.descends hget) hcycle

end Valid

/-! ## Ancestors -/

/-- The parents of a node, one after another up to the root. -/
def LeadsUp (s : LineageState) (id : String) (path : List String) : Prop :=
  (id :: path).IsChain s.HasParent ∧ (id :: path).getLast? = some s.rootId

theorem IsTree.exists_leadsUp (h : s.IsTree) (hdescends : Descends s.childrenOf s.rootId id) :
    ∃ path, s.LeadsUp id path := by
  induction hdescends with
  | refl => exact ⟨[], .singleton _, rfl⟩
  | @tail a b _ hedge ih =>
    obtain ⟨path, hchain, hlast⟩ := ih
    obtain ⟨node, hget, hmem⟩ := (edge_iff).mp hedge
    refine ⟨a :: path, List.isChain_cons_cons.mpr ⟨h.child a node hget b hmem, hchain⟩, ?_⟩
    rw [List.getLast?_cons_cons]
    exact hlast

/-- The loop of `ancestors` collects the path to the root, and then the parent of the root. -/
theorem IsTree.ancestorsFrom (h : s.IsTree) {n : ℕ} {result : List String}
    (hpath : s.LeadsUp id path) (hget : s.nodes.get id = some node) (hn : path.length < n) :
    s.ancestorsFrom n node result = some (.ok (result ++ (path ++ s.externalParentId.toList))) := by
  induction path generalizing id node n result with
  | nil =>
    obtain ⟨n, rfl⟩ := Nat.exists_eq_add_one.mpr (Nat.zero_lt_of_lt hn)
    have hid : id = s.rootId := Option.some.inj hpath.2
    obtain ⟨root, hroot, hnone⟩ := h.root
    rw [hid, hroot] at hget
    cases hget
    unfold LineageState.ancestorsFrom
    rw [hnone]
    dsimp only
    rw [if_pos (h.keyed _ _ hroot), List.nil_append]
  | cons parentId path ih =>
    obtain ⟨n, rfl⟩ := Nat.exists_eq_add_one.mpr (Nat.zero_lt_of_lt hn)
    obtain ⟨hfirst, hchain⟩ := List.isChain_cons_cons.mp hpath.1
    obtain ⟨parent, hgetParent, -⟩ := h.parent id parentId hfirst
    obtain ⟨_, hget', hparent⟩ := hfirst
    cases hget.symm.trans hget'
    have hlast := hpath.2
    rw [List.getLast?_cons_cons] at hlast
    unfold LineageState.ancestorsFrom
    rw [hparent]
    dsimp only
    rw [hgetParent]
    dsimp only
    rw [ih ⟨hchain, hlast⟩ hgetParent (Nat.lt_of_succ_lt_succ hn), List.append_assoc,
      List.singleton_append, List.cons_append]

theorem IsTree.ancestors (h : s.IsTree) {n : ℕ} (hpath : s.LeadsUp id path)
    (hget : s.nodes.get id = some node) (hn : path.length < n) :
    s.ancestors n id = some (.ok (path ++ s.externalParentId.toList)) := by
  unfold LineageState.ancestors
  rw [hget]
  dsimp only
  rw [h.ancestorsFrom hpath hget hn, List.nil_append]

/-- A lineage whose nodes are one tree, from each of which its parents lead to the root and its
absorptions to an end, and whose generations count the edges. -/
structure LoadSound (s : LineageState) : Prop where
  tree : s.IsTree
  ancestors : ∀ id node, s.nodes.get id = some node → ∃ path, s.LeadsUp id path ∧
    ∀ n, path.length < n → s.ancestors n id = some (.ok (path ++ s.externalParentId.toList))
  generations : ∀ id node parentId parent, s.nodes.get id = some node →
    node.parentId = some parentId → s.nodes.get parentId = some parent →
    node.generation = parent.generation + 1
  acyclic : ∀ id, ¬ Relation.TransGen s.AbsorbedInto id id
  ends : ∀ id node, s.nodes.get id = some node →
    ∃ last, Relation.ReflTransGen s.AbsorbedInto id last ∧ s.IsEnd last

end LineageState

/-- A lineage that is loaded is sound where no parent has the last generation. -/
theorem lineage_load_sound {s t : LineageState} (h : fromState s = .ok t) :
    t.LoadSound ↔ ∀ id node, t.nodes.get id = some node → node.children ≠ [] →
      node.generation < u64Max := by
  unfold fromState at h
  rw [except_bind_ok] at h
  simp only [exists_unit, except_pure_ok] at h
  obtain ⟨hvalid, rfl⟩ := h
  have hvalid : s.Valid := (validateState_ok).mp hvalid
  have htree := hvalid.isTree
  constructor
  · intro hsound id node hget hne
    obtain ⟨childId, hmem⟩ := List.exists_mem_of_ne_nil _ hne
    obtain ⟨child, hchild, hparent⟩ := htree.child id node hget childId hmem
    obtain ⟨_, hget', hedge⟩ := hvalid.parent childId child hchild id hparent
    cases hget.symm.trans hget'
    have hgeneration := hsound.generations childId child id node hchild hparent hget
    have hmin := hedge.generation
    omega
  · intro hbelow
    refine ⟨htree, fun id node hget => ?_, fun id node parentId parent hget hparent hgetParent => ?_,
      fun id => hvalid.absorptions.acyclic hvalid.keyed,
      fun id node hget => hvalid.absorptions.exists_last hvalid.keyed hget⟩
    · obtain ⟨path, hpath⟩ := htree.exists_leadsUp (htree.descends id node hget)
      exact ⟨path, hpath, fun n hn => htree.ancestors hpath hget hn⟩
    · obtain ⟨_, hget', hedge⟩ := hvalid.parent id node hget parentId hparent
      cases hgetParent.symm.trans hget'
      have hlt := hbelow parentId parent hgetParent (List.ne_nil_of_mem hedge.listed)
      have hmin := hedge.generation
      omega

/-! ## A root of the last generation -/

/-- A Nature of a generation, with an id of one digit repeated. -/
def sampleNature (digit : Char) (generation : ℕ) (parent : Option Char) : TentacleNature where
  schemaVersion := natureSchemaVersion
  natureId := .ofList (List.replicate 32 digit)
  generation := generation
  parentNatureId := parent.map fun digit => .ofList (List.replicate 32 digit)
  engagement := 50
  growth := 50
  wealth := 50
  influence := 50
  cooperation := 50
  stability := 50
  transparency := 50
  sacredBan := .profit

def sampleHash : String := .ofList (List.replicate 64 '0')

/-- A child root with one child, of the generation that saturates. -/
def sampleLineage (generation : ℕ) : LineageState where
  schemaVersion := lineageSchemaVersion
  revision := 1
  rootId := "r"
  externalParentId := some "p"
  nodes := (HashMap.empty.insert "r"
      ⟨"r", none, generation, sampleNature 'a' generation (some 'f'), 10, ["c"], .active⟩).insert "c"
    ⟨"c", some "r", min (generation + 1) u64Max,
      sampleNature 'b' (min (generation + 1) u64Max) (some 'a'), 20, [], .active⟩
  spawnRecords := [⟨"r", (sampleNature 'a' 0 none).natureId, "c", (sampleNature 'b' 0 none).natureId,
    sampleHash, "o", sampleHash, min (generation + 1) u64Max, 20⟩]
  absorptionRecords := []

theorem validateState_sampleLineage : validateState (sampleLineage 1) = .ok () ∧
    validateState (sampleLineage u64Max) = .ok () := by
  decide +kernel

theorem fromState_sampleLineage : fromState (sampleLineage 1) = .ok (sampleLineage 1) ∧
    fromState (sampleLineage u64Max) = .ok (sampleLineage u64Max) := by
  unfold fromState
  rw [validateState_sampleLineage.1, validateState_sampleLineage.2]
  exact ⟨rfl, rfl⟩

theorem lineage_load_sound_sample : (sampleLineage 1).LoadSound ↔ ∀ id node,
    (sampleLineage 1).nodes.get id = some node → node.children ≠ [] → node.generation < u64Max :=
  lineage_load_sound fromState_sampleLineage.1

/-- A root and its child may both be of the last generation. -/
theorem saturated_generation_loads : ¬ ∀ s t : LineageState, fromState s = .ok t → t.LoadSound := by
  intro h
  have hsound := h _ _ fromState_sampleLineage.2
  have hchild := hsound.generations "c" _ "r" _ rfl rfl rfl
  exact absurd hchild (by decide +kernel)

end Cthuwu.Evolution
