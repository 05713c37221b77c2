import Cthuwu.Evolution.Tree

/-!
# What a lineage keeps

The operations on a lineage check their own preconditions and never run the checks of a load. What they
keep is that the checks hold part by part and that generations count the edges (`LineageState.Kept`),
from which the walk of a load succeeds, with the generation as its rank (`Kept.valid`). A rewrite of
one node that leaves its edges alone keeps it (`Kept.rewrite`), which is what a new Nature of the root
and an absorption are (`Kept.updateNature`, `Kept.absorb`), and so does a new leaf (`Kept.addChild`).
-/

namespace Cthuwu.Evolution

namespace LineageState

variable {s t : LineageState} {id : String} {node node' : LineageNode}

/-- The checks hold part by part, and generations count the edges. -/
structure Kept (s : LineageState) : Prop extends s.Sound where
  strict : ∀ id node parentId parent, s.nodes.get id = some node → node.parentId = some parentId →
    s.nodes.get parentId = some parent → node.generation = parent.generation + 1

namespace Kept

/-! ## The walk -/

theorem hasParent_mem (h : s.Kept) {a b : String} (hab : Edge s.childrenOf a b) :
    ∃ node parent, s.nodes.get b = some node ∧ s.nodes.get a = some parent ∧
      node.generation = parent.generation + 1 := by
  obtain ⟨node, hget, hparent⟩ := h.hasParent hab
  obtain ⟨parent, hgetParent, -⟩ := edge_iff.mp hab
  exact ⟨node, parent, hget, hgetParent, h.strict b node a parent hget hparent hgetParent⟩

theorem descends (h : s.Kept) (hget : s.nodes.get id = some node) :
    Descends s.childrenOf s.rootId id := by
  -- a parent is of an earlier generation
  induction hk : node.generation using Nat.strong_induction_on generalizing id node with
  | _ k ih =>
    cases hparent : node.parentId with
    | none =>
      rw [h.onlyRoot hget hparent]
    | some parentId =>
      obtain ⟨parent, hgetParent, -⟩ := h.parent id node hget parentId hparent
      have hlt := h.strict id node parentId parent hget hparent hgetParent
      exact (ih _ (by omega) hgetParent rfl).tail (h.edge ⟨node, hget, hparent⟩)

/-- The walk of a load succeeds and meets every node. -/
theorem valid (h : s.Kept) : s.Valid where
  toSound := h.toSound
  visited := by
    have hchildren : ∀ a ∈ s.nodes.keys.toFinset, ∃ found, s.childrenOf a = .ok found ∧
        ∀ c ∈ found, c ∈ s.nodes.keys.toFinset ∧ ((s.nodes.get a).map (·.generation)).getD 0 <
            ((s.nodes.get c).map (·.generation)).getD 0 := by
      intro a ha
      rw [List.mem_toFinset, HashMap.mem_keys] at ha
      obtain ⟨node, hget⟩ := ha
      refine ⟨node.children, childrenOf_ok.mpr ⟨node, hget, rfl⟩, fun c hc => ?_⟩
      obtain ⟨child, parent, hchild, hparent, hlt⟩ := h.hasParent_mem (edge_iff.mpr ⟨node, hget, hc⟩)
      refine ⟨List.mem_toFinset.mpr (HashMap.mem_keys.mpr ⟨child, hchild⟩), ?_⟩
      rw [hparent, hchild]
      simp [hlt]
    have hroot : s.rootId ∈ s.nodes.keys.toFinset :=
      List.mem_toFinset.mpr (HashMap.mem_keys.mpr (h.root.imp fun _ hroot => hroot.1))
    have hcard : s.nodes.keys.toFinset.card = s.nodes.len := by
      rw [List.toFinset_card_of_nodup s.nodes.nodup_keys, HashMap.length_keys]
    have hsucceeds : ∃ visited, s.visitLineage (s.nodes.len + 1) ∅ s.rootId ∅ = .ok visited :=
      visit_succeeds hchildren hroot (by simp) (by simp [hcard])
    obtain ⟨visited, hvisit⟩ := hsucceeds
    refine ⟨visited, hvisit, hcard ▸ congrArg Finset.card ?_⟩
    ext id
    rw [mem_visit hvisit, List.mem_toFinset, HashMap.mem_keys]
    constructor
    · intro hdescends
      rcases Relation.ReflTransGen.cases_tail hdescends with rfl | ⟨_, -, hedge⟩
      · exact h.root.imp fun _ hroot => hroot.1
      · exact (h.hasParent hedge).imp fun _ hchild => hchild.1
    · rintro ⟨node, hget⟩
      exact h.descends hget

end Kept

/-- A child was not spawned after its parent was absorbed. -/
theorem Kept.spawned_le (h : s.Kept) {childId into : String} {child : LineageNode} {atMs : ℕ}
    (hget : s.nodes.get id = some node) (hmem : childId ∈ node.children)
    (hchild : s.nodes.get childId = some child) (hlifecycle : node.lifecycle = .absorbed into atMs) :
    child.spawnedAtMs ≤ atMs := by
  obtain ⟨child', hchild', hparent⟩ := h.hasParent (edge_iff.mpr ⟨node, hget, hmem⟩)
  cases hchild.symm.trans hchild'
  obtain ⟨node', hget', hedge⟩ := h.parent childId child hchild id hparent
  cases hget.symm.trans hget'
  exact hedge.ended into atMs hlifecycle

/-! ## A node is rewritten -/

structure SameEdges (a b : LineageNode) : Prop where
  tentacleId : b.tentacleId = a.tentacleId
  parentId : b.parentId = a.parentId
  generation : b.generation = a.generation
  spawnedAtMs : b.spawnedAtMs = a.spawnedAtMs
  children : b.children = a.children

theorem SameEdges.refl (a : LineageNode) : SameEdges a a :=
  ⟨rfl, rfl, rfl, rfl, rfl⟩

variable {root source : LineageNode} {k : String} {record : AbsorptionRecord}
  {nature : TentacleNature}

/-- Every node that is there after a rewrite was there before. -/
theorem get_of_rewrite (hget : s.nodes.get id = some node) (hsame : SameEdges node node')
    {v : LineageNode} (h : (s.nodes.insert id node').get k = some v) :
    ∃ u, s.nodes.get k = some u ∧ SameEdges u v ∧
      (k ≠ id ∧ v = u ∨ k = id ∧ u = node ∧ v = node') := by
  rw [HashMap.get_insert_apply] at h
  split_ifs at h with hk
  · cases h
    exact ⟨node, hk ▸ hget, hsame, .inr ⟨hk, rfl, rfl⟩⟩
  · exact ⟨v, h, .refl v, .inl ⟨hk, rfl⟩⟩

theorem get_rewrite (hget : s.nodes.get id = some node) (hsame : SameEdges node node')
    {u : LineageNode} (h : s.nodes.get k = some u) :
    ∃ v, (s.nodes.insert id node').get k = some v ∧ SameEdges u v ∧
      (k ≠ id ∧ v = u ∨ k = id ∧ u = node ∧ v = node') := by
  rw [HashMap.get_insert_apply]
  split_ifs with hk
  · cases (hk ▸ h).symm.trans hget
    exact ⟨node', rfl, hsame, .inr ⟨hk, rfl, rfl⟩⟩
  · exact ⟨u, h, .refl u, .inl ⟨hk, rfl⟩⟩

/-- A rewrite of one node that leaves its edges alone. -/
theorem Kept.rewrite (h : s.Kept) {records : List AbsorptionRecord} {revision : ℕ}
    (hget : s.nodes.get id = some node) (hsame : SameEdges node node')
    (ht : t = { s with nodes := s.nodes.insert id node', absorptionRecords := records,
                       revision := revision })
    (hroot : id = s.rootId → t.checkRoot node' = .ok ()) (hnode : NodeHolds id node')
    (hnatures : (t.nodes.values.map (·.nature.natureId)).Nodup)
    (hparentless : id = s.rootId → s.externalParentId = none → node'.nature.parentNatureId = none)
    (hnature : id ≠ s.rootId → node'.nature = node.nature)
    (hended : ∀ into atMs, node'.lifecycle = .absorbed into atMs → ∀ childId ∈ node.children,
      ∀ child, s.nodes.get childId = some child → child.spawnedAtMs ≤ atMs)
    (hrevision : revision = s.spawnRecords.length + records.length) (hbounded : revision ≤ u64Max)
    (habsorb : t.AbsorptionsHold) : t.Kept := by
  subst ht
  have hback : ∀ {k v}, (s.nodes.insert id node').get k = some v → _ := get_of_rewrite hget hsame
  have hforth : ∀ {k u}, s.nodes.get k = some u → _ := get_rewrite hget hsame
  have hchildRoot : ∀ {k u p}, s.nodes.get k = some u → u.parentId = some p → k ≠ s.rootId := by
    rintro k u p hk hp rfl
    obtain ⟨root, hgetRoot, hnone, -⟩ := h.root
    cases hk.symm.trans hgetRoot
    cases hp.symm.trans hnone
  refine
    { schema := h.schema, rootId := h.rootId, spawnCount := ?spawnCount,
      bounded := hrevision ▸ hbounded, revision := hrevision, root := ?root, node := ?node,
      natureIds := hnatures, parentless := ?parentless, parent := ?parent, child := ?child,
      spawnRecord := h.spawnRecord, spawned := ?spawned, spawnedOnce := h.spawnedOnce,
      absorptions := habsorb, strict := ?strict }
  case spawnCount =>
    exact h.spawnCount.trans (congrArg (· - 1) (HashMap.len_insert_present hget).symm)
  case root =>
    obtain ⟨root, hgetRoot, hnone, hcheck⟩ := h.root
    obtain ⟨v, hv, hedges, hcase⟩ := hforth hgetRoot
    refine ⟨v, hv, hedges.parentId.trans hnone, ?_⟩
    rcases hcase with ⟨-, rfl⟩ | ⟨hid, rfl, rfl⟩
    · exact hcheck
    · exact hroot hid.symm
  case node =>
    intro k v hv
    obtain ⟨u, hu, -, ⟨-, rfl⟩ | ⟨rfl, rfl, rfl⟩⟩ := hback hv
    · exact h.node k v hu
    · exact hnode
  case parentless =>
    intro k v hv hnone
    obtain ⟨u, hu, hedges, hcase⟩ := hback hv
    obtain ⟨hid, hnature⟩ := h.parentless k u hu (hedges.parentId.symm.trans hnone)
    refine ⟨hedges.tentacleId.trans hid, fun hexternal => ?_⟩
    rcases hcase with ⟨-, rfl⟩ | ⟨rfl, rfl, rfl⟩
    · exact hnature hexternal
    · exact hparentless ((h.keyed k u hu).symm.trans hid) hexternal
  case parent =>
    intro k v hv p hp
    obtain ⟨u, hu, hedges, hcase⟩ := hback hv
    have hpu : u.parentId = some p := hedges.parentId.symm.trans hp
    obtain ⟨parent, hgetParent, hedge⟩ := h.parent k u hu p hpu
    obtain ⟨parent', hgetParent', hparentEdges, hparentCase⟩ := hforth hgetParent
    obtain ⟨spawn, hfind, hspawnParent, hspawnNature⟩ := hedge.spawn
    refine ⟨parent', hgetParent', ?_, ?_, ?_, ?_, ⟨spawn, ?_, hspawnParent, ?_⟩, ?_⟩
    · exact hedges.tentacleId ▸ hedge.apart
    · exact hedges.tentacleId ▸ hparentEdges.children ▸ hedge.listed
    · rw [hedges.generation, hparentEdges.generation]
      exact hedge.generation
    · rw [hedges.spawnedAtMs, hparentEdges.spawnedAtMs]
      exact hedge.spawnedLater
    · exact hedges.tentacleId ▸ hfind
    · rcases hcase with ⟨-, rfl⟩ | ⟨rfl, rfl, rfl⟩
      · exact hspawnNature
      · rw [hnature (hchildRoot hu hpu)]
        exact hspawnNature
    · intro into atMs hlifecycle
      rw [hedges.spawnedAtMs]
      rcases hparentCase with ⟨-, rfl⟩ | ⟨rfl, rfl, rfl⟩
      · exact hedge.ended into atMs hlifecycle
      · exact hended into atMs hlifecycle k (h.keyed k u hu ▸ hedge.listed) u hu
  case child =>
    intro k v hv childId hmem
    obtain ⟨u, hu, hedges, -⟩ := hback hv
    obtain ⟨child, hchild, hparent⟩ := h.child k u hu childId (hedges.children ▸ hmem)
    obtain ⟨child', hchild', hchildEdges, -⟩ := hforth hchild
    refine ⟨child', hchild', ?_⟩
    rw [hchildEdges.parentId, hedges.tentacleId]
    exact hparent
  case spawned =>
    intro record hmem
    obtain ⟨hne, child, hchild, hspawn⟩ := h.spawned record hmem
    obtain ⟨child', hchild', hedges, hcase⟩ := hforth hchild
    refine ⟨hne, child', hchild', hedges.parentId.trans hspawn.parentId,
      hedges.generation.trans hspawn.generation, hedges.spawnedAtMs.trans hspawn.atMs, ?_, ?_⟩
    · rcases hcase with ⟨-, rfl⟩ | ⟨rfl, rfl, rfl⟩
      · exact hspawn.natureId
      · exact hnature hne ▸ hspawn.natureId
    · rcases hcase with ⟨-, rfl⟩ | ⟨rfl, rfl, rfl⟩
      · exact hspawn.parentNatureId
      · exact hnature hne ▸ hspawn.parentNatureId
  case strict =>
    intro k v p parent hv hp hgetParent
    obtain ⟨u, hu, hedges, -⟩ := hback hv
    obtain ⟨parent', hparent', hparentEdges, -⟩ := hback hgetParent
    rw [hedges.generation, hparentEdges.generation]
    exact h.strict k u p parent' hu (hedges.parentId.symm.trans hp) hparent'

/-! ## A leaf is added -/

/-- What is checked of a child before it is recorded. -/
structure MayAdd (s : LineageState) (parentId childId : String) (parent : LineageNode)
    (childNature : TentacleNature) (atMs : ℕ) : Prop where
  apart : parentId ≠ childId
  fresh : s.nodes.get childId = none
  get : s.nodes.get parentId = some parent
  active : parent.lifecycle = .active
  later : parent.spawnedAtMs ≤ atMs
  generation : parent.generation + 1 ≤ u64Max
  nature : childNature.validate = .ok ()
  natureGeneration : childNature.generation = parent.generation + 1
  parentNature : childNature.parentNatureId = some parent.nature.natureId
  natureId : ∀ id node, s.nodes.get id = some node → node.nature.natureId ≠ childNature.natureId
  revision : s.revision + 1 ≤ u64Max

variable {parentId childId : String} {parent : LineageNode} {childNature : TentacleNature}
  {atMs : ℕ} {authorization : SpawnAuthorization}

theorem checkChild_ok : s.checkChild parentId childId childNature atMs = .ok parent ↔
    s.MayAdd parentId childId parent childNature atMs := by
  unfold checkChild require
  simp only [except_bind_ok, exists_unit, failIf_ok, okOr_ok, except_pure_ok, not_not, not_or,
    not_lt, Bool.not_eq_true, HashMap.contains_eq_false, List.any_eq_false, decide_eq_true_eq,
    HashMap.forall_values]
  constructor
  · rintro ⟨hapart, hfresh, _, hget, hactive, hlater, hgeneration, hnature, ⟨hnatureGeneration,
      hparentNature⟩, hnatureId, hrevision, rfl⟩
    exact ⟨hapart, hfresh, hget, hactive, hlater, hgeneration, hnature, hnatureGeneration,
      hparentNature, hnatureId, hrevision⟩
  · intro h
    exact ⟨h.apart, h.fresh, parent, h.get, h.active, h.later, h.generation, h.nature,
      ⟨h.natureGeneration, h.parentNature⟩, h.natureId, h.revision, rfl⟩

def withChildren (node : LineageNode) (more : List String) : LineageNode :=
  { node with children := node.children ++ more }

theorem withChildren_nil (node : LineageNode) : withChildren node [] = node := by
  unfold withChildren
  rw [List.append_nil]

theorem get_addChild :
    (s.addChild parentId childId parent childNature atMs authorization).nodes.get k =
      if k = childId then some (childNode parentId childId parent childNature atMs)
      else if k = parentId then some (withChildren parent [childId]) else s.nodes.get k := by
  unfold addChild
  rw [HashMap.get_insert_apply, HashMap.get_insert_apply]
  rfl

/-- The child is among the children of its parent, and nothing else changes of a node. -/
def Added (parentId childId k : String) (more : List String) : Prop :=
  more = [] ∨ k = parentId ∧ more = [childId]

/-- A node that is there after a child was added is the child, or was there before. -/
theorem get_of_addChild (h : s.MayAdd parentId childId parent childNature atMs) {v : LineageNode}
    (hv : (s.addChild parentId childId parent childNature atMs authorization).nodes.get k = some v)
    : (k = childId ∧ v = childNode parentId childId parent childNature atMs) ∨
      ∃ u more, s.nodes.get k = some u ∧ v = withChildren u more ∧
        Added parentId childId k more := by
  rw [get_addChild] at hv
  split_ifs at hv with hchild hparent
  · exact .inl ⟨hchild, (Option.some.inj hv).symm⟩
  · exact .inr ⟨parent, _, hparent ▸ h.get, (Option.some.inj hv).symm, .inr ⟨hparent, rfl⟩⟩
  · exact .inr ⟨v, [], hv, (withChildren_nil v).symm, .inl rfl⟩

theorem get_addChild_old (h : s.MayAdd parentId childId parent childNature atMs) {u : LineageNode}
    (hu : s.nodes.get k = some u) :
    ∃ more, (s.addChild parentId childId parent childNature atMs authorization).nodes.get k =
      some (withChildren u more) ∧ (k = parentId → more = [childId]) := by
  rw [get_addChild]
  split_ifs with hchild hparent
  · cases h.fresh.symm.trans (hchild ▸ hu)
  · cases (hparent ▸ hu).symm.trans h.get
    exact ⟨_, rfl, fun _ => rfl⟩
  · exact ⟨[], hu.trans (congrArg some (withChildren_nil u).symm), fun heq => absurd heq hparent⟩

theorem Kept.addChild (h : s.Kept) (hadd : s.MayAdd parentId childId parent childNature atMs)
    (hsafe : isSafeId childId = true)
    (hrecord : checkSpawnRecord (spawnRecord parentId childId parent childNature atMs
      authorization) = .ok ())
    (hclear : ∀ record ∈ s.absorptionRecords, record.targetId = childId → atMs ≤ record.atMs) :
    (s.addChild parentId childId parent childNature atMs authorization).Kept := by
  have hback : ∀ {k v}, (s.addChild parentId childId parent childNature atMs
    authorization).nodes.get k = some v → _ := get_of_addChild hadd
  have hforth : ∀ {k u}, s.nodes.get k = some u → ∃ more, (s.addChild parentId childId parent
      childNature atMs authorization).nodes.get k = some (withChildren u more) ∧
        (k = parentId → more = [childId]) := get_addChild_old hadd
  have hold : ∀ {k u}, s.nodes.get k = some u → k ≠ childId := by
    rintro k u hu rfl
    cases hu.symm.trans hadd.fresh
  have hnew : (s.addChild parentId childId parent childNature atMs authorization).nodes.get childId =
      some (childNode parentId childId parent childNature atMs) := by
    rw [get_addChild, if_pos rfl]
  obtain ⟨root, hgetRoot, hnone, hcheck⟩ := h.root
  obtain ⟨moreParent, hgetParent, hmoreParent⟩ := hforth hadd.get
  have hrevision : (s.addChild parentId childId parent childNature atMs authorization).revision =
      (s.addChild parentId childId parent childNature atMs authorization).spawnRecords.length +
        s.absorptionRecords.length := by
    have hcount := h.revision
    unfold LineageState.addChild
    dsimp only
    rw [List.length_append, List.length_singleton]
    omega
  refine
    { schema := h.schema, rootId := h.rootId, spawnCount := ?spawnCount,
      bounded := hrevision ▸ hadd.revision, revision := hrevision, root := ?root, node := ?node,
      natureIds := ?natureIds, parentless := ?parentless, parent := ?parent, child := ?child,
      spawnRecord := ?spawnRecord, spawned := ?spawned, spawnedOnce := ?spawnedOnce,
      absorptions := ?absorptions, strict := ?strict }
  case spawnCount =>
    have hcount := h.spawnCount
    have hpos : 0 < s.nodes.len := by
      rw [← HashMap.length_values]
      exact List.length_pos_of_mem (HashMap.get_mem_values hgetRoot)
    unfold LineageState.addChild
    dsimp only
    rw [HashMap.len_insert_fresh, HashMap.len_insert_present hadd.get, List.length_append,
      List.length_singleton]
    · omega
    · rw [HashMap.get_insert_ne hadd.apart.symm]
      exact hadd.fresh
  case root =>
    obtain ⟨more, hget, -⟩ := hforth hgetRoot
    exact ⟨_, hget, hnone, hcheck⟩
  case node =>
    intro k v hv
    obtain ⟨rfl, rfl⟩ | ⟨u, more, hu, rfl, hmore⟩ := hback hv
    · exact ⟨hsafe, rfl, hadd.nature, hadd.natureGeneration, by simp [childNode],
        by simp [childNode], nofun⟩
    · have hnode := h.node k u hu
      refine ⟨hnode.safeId, hnode.keyed, hnode.nature, hnode.generation, ?_, ?_, hnode.ended⟩
      · intro c hc
        rcases List.mem_append.mp hc with hc | hc
        · exact hnode.childIds c hc
        · obtain rfl | ⟨-, rfl⟩ := hmore
          · cases hc
          · exact List.mem_singleton.mp hc ▸ hsafe
      · refine List.nodup_append.mpr ⟨hnode.once, ?_, ?_⟩
        · obtain rfl | ⟨-, rfl⟩ := hmore
          · exact List.nodup_nil
          · exact List.nodup_singleton childId
        · rintro a ha b hb rfl
          obtain rfl | ⟨-, rfl⟩ := hmore
          · cases hb
          · obtain ⟨child, hchild, -⟩ := h.child k u hu a ha
            exact hold hchild (List.mem_singleton.mp hb)
  case natureIds =>
    have hperm : ((s.nodes.insert parentId (withChildren parent [childId])).values.map
        (·.nature.natureId)).Perm (s.nodes.values.map (·.nature.natureId)) :=
      HashMap.map_values_insert hadd.get rfl
    unfold LineageState.addChild
    dsimp only
    rw [HashMap.values_insert_fresh]
    · refine List.nodup_cons.mpr ⟨fun hmem => ?_, hperm.nodup_iff.mpr h.natureIds⟩
      obtain ⟨v, hv, heq⟩ := List.mem_map.mp (hperm.mem_iff.mp hmem)
      obtain ⟨k, hget⟩ := HashMap.mem_values.mp hv
      exact hadd.natureId k v hget heq
    · rw [HashMap.get_insert_ne hadd.apart.symm]
      exact hadd.fresh
  case parentless =>
    intro k v hv hnone
    obtain ⟨rfl, rfl⟩ | ⟨u, more, hu, rfl, -⟩ := hback hv
    · cases hnone
    · exact h.parentless k u hu hnone
  case parent =>
    intro k v hv p hp
    obtain ⟨rfl, rfl⟩ | ⟨u, more, hu, rfl, -⟩ := hback hv
    · cases hp
      refine ⟨_, hgetParent, hadd.apart, ?_, (min_eq_left hadd.generation).symm, hadd.later,
        ⟨spawnRecord parentId k parent childNature atMs authorization, ?_, rfl, hadd.parentNature⟩,
        fun into end' hlifecycle => ?_⟩
      · exact List.mem_append_right _ (hmoreParent rfl ▸ List.mem_singleton_self k)
      · have hnone : s.spawnRecords.find? (·.childId = k) = none := by
          rw [List.find?_eq_none]
          intro record hmem heq
          obtain ⟨-, child, hchild, -⟩ := h.spawned record hmem
          exact hold hchild (of_decide_eq_true heq)
        unfold LineageState.addChild
        dsimp only
        rw [List.find?_append]
        refine (congrArg (Option.or · _) hnone).trans ?_
        simp [childNode, spawnRecord]
      · cases hadd.active.symm.trans hlifecycle
    · obtain ⟨parent', hgetParent', hedge⟩ := h.parent k u hu p hp
      obtain ⟨more', hget', -⟩ := hforth hgetParent'
      refine ⟨_, hget', hedge.apart, List.mem_append_left _ hedge.listed, hedge.generation,
        hedge.spawnedLater, ?_, hedge.ended⟩
      obtain ⟨spawn, hfind, hrest⟩ := hedge.spawn
      refine ⟨spawn, ?_, hrest⟩
      unfold LineageState.addChild
      dsimp only
      rw [List.find?_append]
      exact congrArg (Option.or · _) hfind
  case child =>
    intro k v hv c hc
    obtain ⟨rfl, rfl⟩ | ⟨u, more, hu, rfl, hmore⟩ := hback hv
    · cases hc
    · rcases List.mem_append.mp hc with hc | hc
      · obtain ⟨child, hchild, hparent⟩ := h.child k u hu c hc
        obtain ⟨more', hget', -⟩ := hforth hchild
        exact ⟨_, hget', hparent⟩
      · obtain rfl | ⟨rfl, rfl⟩ := hmore
        · cases hc
        · rw [List.mem_singleton.mp hc]
          exact ⟨_, hnew, congrArg some (h.keyed k u hu).symm⟩
  case spawnRecord =>
    exact List.forall_mem_append.mpr ⟨h.spawnRecord, List.forall_mem_singleton.mpr hrecord⟩
  case spawned =>
    refine List.forall_mem_append.mpr ⟨fun record hmem => ?_, List.forall_mem_singleton.mpr ?_⟩
    · obtain ⟨hne, child, hchild, hspawn⟩ := h.spawned record hmem
      obtain ⟨more, hget, -⟩ := hforth hchild
      exact ⟨hne, _, hget, hspawn.parentId, hspawn.generation, hspawn.atMs, hspawn.natureId,
        hspawn.parentNatureId⟩
    · exact ⟨(hold hgetRoot).symm, _, hnew, rfl, rfl, rfl, rfl, hadd.parentNature⟩
  case spawnedOnce =>
    unfold LineageState.addChild
    dsimp only
    rw [List.map_append, List.nodup_append]
    refine ⟨h.spawnedOnce, List.nodup_singleton _, ?_⟩
    rintro a ha b hb rfl
    obtain ⟨record, hmem, rfl⟩ := List.mem_map.mp ha
    obtain ⟨-, child, hchild, -⟩ := h.spawned record hmem
    exact hold hchild (List.mem_singleton.mp hb)
  case absorptions =>
    refine ⟨fun record hmem => ?_, h.absorptions.order, fun k v hv => ?_⟩
    · have hholds := h.absorptions.records record hmem
      obtain ⟨source, hsource, hlater⟩ := hholds.source
      obtain ⟨more, hget, -⟩ := hforth hsource
      refine ⟨hholds.sourceId, hholds.targetId, hholds.hashes, hholds.apart, ⟨_, hget, hlater⟩,
        fun hnone => hholds.target ?_, fun target htarget => ?_⟩
      · cases hold : s.nodes.get record.targetId with
        | none => rfl
        | some target =>
          obtain ⟨more, hget, -⟩ := hforth hold
          cases hnone.symm.trans hget
      · obtain ⟨heq, rfl⟩ | ⟨u, more, hu, rfl, -⟩ := hback htarget
        · exact hclear record hmem heq
        · exact hholds.later u hu
    · obtain ⟨rfl, rfl⟩ | ⟨u, more, hu, rfl, -⟩ := hback hv
      · intro record hmem heq
        obtain ⟨source, hsource, -⟩ := (h.absorptions.records record hmem).source
        exact hold hsource heq
      · exact h.absorptions.lifecycle k u hu
  case strict =>
    intro k v p parent' hv hp hparent'
    obtain ⟨rfl, rfl⟩ | ⟨u, more, hu, rfl, -⟩ := hback hv
    · cases hp
      cases hgetParent.symm.trans hparent'
      rfl
    · obtain ⟨old, hgetOld, -⟩ := h.parent k u hu p hp
      obtain ⟨more', hget', -⟩ := hforth hgetOld
      cases hget'.symm.trans hparent'
      exact h.strict k u p old hu hp hgetOld

/-! ## The root changes its Nature -/

theorem RecordHolds.rewrite (h : s.RecordHolds record) (hget : s.nodes.get id = some node)
    (hsame : SameEdges node node') (hnodes : t.nodes = s.nodes.insert id node')
    (hexternal : t.isExternal = s.isExternal) : t.RecordHolds record := by
  obtain ⟨source, hsource, hspawned⟩ := h.source
  obtain ⟨source', hsource', hedges, -⟩ := get_rewrite hget hsame hsource
  refine ⟨h.sourceId, h.targetId, h.hashes, h.apart, ⟨source', hnodes ▸ hsource', ?_⟩,
    fun hnone => ?_, fun target htarget => ?_⟩
  · exact hedges.spawnedAtMs ▸ hspawned
  · rw [hexternal]
    refine h.target ?_
    cases hold : s.nodes.get record.targetId with
    | none => rfl
    | some target =>
      obtain ⟨target', htarget', -⟩ := get_rewrite hget hsame hold
      rw [hnodes, htarget'] at hnone
      cases hnone
  · obtain ⟨old, hold, hedges, -⟩ := get_of_rewrite hget hsame (hnodes ▸ htarget)
    exact hedges.spawnedAtMs ▸ h.later old hold

theorem checkRoot_founder (h : s.externalParentId = none) :
    s.checkRoot root = .ok () ↔ root.generation = 0 ∧ root.nature.parentNatureId = none := by
  unfold checkRoot
  rw [h]
  simp

theorem checkRoot_inherited {parentId : String} (h : s.externalParentId = some parentId) :
    s.checkRoot root = .ok () ↔
      isSafeId parentId = true ∧ parentId ≠ s.rootId ∧ root.generation ≠ 0 ∧
        root.nature.parentNatureId ≠ none := by
  unfold checkRoot
  rw [h]
  simp only [except_bind_ok, exists_unit, validateId_ok, failIf_ok, not_or, ne_eq,
    Option.isNone_iff_eq_none]

/-- The Nature of the root may change where it keeps the place of the root. -/
theorem keepsRoot_ok (hcheck : s.checkRoot root = .ok ())
    (hkeeps : s.keepsRoot root nature = .ok ()) :
    nature.generation = root.generation ∧ s.checkRoot { root with nature := nature } = .ok () := by
  unfold keepsRoot at hkeeps
  simp only [except_bind_ok, exists_unit, failIf_ok, not_and, not_or, not_not, Bool.not_eq_true,
    Option.isNone_iff_eq_none, Option.isSome_eq_false_iff] at hkeeps
  obtain ⟨hfounder, hinherited⟩ := hkeeps
  cases hexternal : s.externalParentId with
  | none =>
    obtain ⟨hgeneration, hparent⟩ := hfounder hexternal
    obtain ⟨hzero, -⟩ := (checkRoot_founder hexternal).mp hcheck
    exact ⟨hgeneration.trans hzero.symm, (checkRoot_founder hexternal).mpr ⟨hzero, hparent⟩⟩
  | some parentId =>
    obtain ⟨hgeneration, hparent⟩ := hinherited (by rw [hexternal]; rfl)
    obtain ⟨hsafe, hne, hpos, -⟩ := (checkRoot_inherited hexternal).mp hcheck
    exact ⟨hgeneration, (checkRoot_inherited hexternal).mpr ⟨hsafe, hne, hpos, hparent⟩⟩

/-- The Nature ids stay apart when one is replaced by a fresh one. -/
theorem nodup_natureIds (h : s.Kept) (hget : s.nodes.get id = some node)
    (hfresh : ∀ k v, s.nodes.get k = some v → k ≠ id → v.nature.natureId ≠ node'.nature.natureId) :
    ((s.nodes.insert id node').values.map (·.nature.natureId)).Nodup := by
  have hperm := (HashMap.values_perm hget).map (·.nature.natureId)
  rw [HashMap.values_insert]
  refine List.nodup_cons.mpr ⟨fun hmem => ?_, (List.nodup_cons.mp (hperm.nodup_iff.mp
    h.natureIds)).2⟩
  obtain ⟨v, hv, heq⟩ := List.mem_map.mp hmem
  obtain ⟨k, hk⟩ := HashMap.mem_values.mp hv
  rw [HashMap.get_erase_apply] at hk
  split_ifs at hk with hne
  exact hfresh k v hk hne heq

/-- The Nature of the root changes, and its place stays. -/
theorem Kept.updateNature (h : s.Kept) (hget : s.nodes.get s.rootId = some root)
    (hnature : nature.validate = .ok ()) (hkeeps : s.keepsRoot root nature = .ok ())
    (hfresh : ∀ id node, s.nodes.get id = some node → id ≠ s.rootId →
      node.nature.natureId ≠ nature.natureId) :
    Kept { s with nodes := s.nodes.insert s.rootId { root with nature := nature } } := by
  have hsame : SameEdges root { root with nature := nature } := ⟨rfl, rfl, rfl, rfl, rfl⟩
  obtain ⟨_, hroot, hnone, hcheck⟩ := h.root
  cases hget.symm.trans hroot
  have hnode := h.node _ _ hget
  obtain ⟨hgeneration, hcheck⟩ := keepsRoot_ok hcheck hkeeps
  refine h.rewrite hget hsame rfl (fun _ => hcheck) ?_ (nodup_natureIds h hget hfresh)
    (fun _ hexternal => ((checkRoot_founder hexternal).mp hcheck).2) (fun hne => absurd rfl hne) ?_
    h.revision (h.revision ▸ h.bounded) ⟨?_, h.absorptions.order, ?_⟩
  · exact ⟨hnode.safeId, hnode.keyed, hnature, hgeneration, hnode.childIds, hnode.once, hnode.ended⟩
  · exact fun into atMs hlifecycle childId hmem child hchild =>
      h.spawned_le hget hmem hchild hlifecycle
  · exact fun record hmem => (h.absorptions.records record hmem).rewrite hget hsame rfl rfl
  · intro k v hv
    obtain ⟨u, hu, hedges, ⟨-, rfl⟩ | ⟨rfl, rfl, rfl⟩⟩ := get_of_rewrite hget hsame hv
    · exact h.absorptions.lifecycle k v hu
    · exact h.absorptions.lifecycle _ u hu

/-! ## A node is absorbed -/

theorem AbsorptionsHold.not_isLate {atMs : ℕ} (h : s.AbsorptionsHold) (hlate : s.isLate atMs = false) :
    ∀ record ∈ s.absorptionRecords, record.atMs ≤ atMs := by
  have horder := h.order
  unfold isLate at hlate
  rcases List.eq_nil_or_concat' s.absorptionRecords with hnil | ⟨before, last, hconcat⟩
  · rw [hnil]
    exact nofun
  · rw [hconcat, List.getLast?_concat, Option.any_some, decide_eq_false_iff_not, not_lt] at hlate
    rw [hconcat, List.pairwise_append] at horder
    rw [hconcat]
    intro record hmem
    rcases List.mem_append.mp hmem with hmem | hmem
    · exact (horder.2.2 record hmem last List.mem_cons_self).1.trans hlate
    · exact List.mem_singleton.mp hmem ▸ hlate

theorem hasLaterChild_eq_false {atMs : ℕ} :
    s.hasLaterChild source atMs = false ↔ ∀ childId ∈ source.children, ∀ child,
      s.nodes.get childId = some child → child.spawnedAtMs ≤ atMs := by
  unfold hasLaterChild
  rw [List.any_eq_false]
  refine forall₂_congr fun childId _ => ?_
  cases s.nodes.get childId <;> simp

theorem Kept.not_source (h : s.Kept) (hget : s.nodes.get id = some node)
    (hactive : node.lifecycle = .active) : ∀ record ∈ s.absorptionRecords, record.sourceId ≠ id := by
  have htold := h.absorptions.lifecycle id node hget
  rw [hactive, h.keyed id node hget] at htold
  exact htold

/-- An active node is absorbed, and into an active one where it is local. -/
theorem Kept.absorb (h : s.Kept) (hget : s.nodes.get record.sourceId = some source)
    (hactive : source.lifecycle = .active) (hlate : s.isLate record.atMs = false)
    (hchildren : s.hasLaterChild source record.atMs = false) (hholds : s.RecordHolds record)
    (htarget : ∀ target, s.nodes.get record.targetId = some target → target.lifecycle = .active)
    (hrevision : s.revision + 1 ≤ u64Max) :
    Kept { s.absorb source record with revision := s.revision + 1 } := by
  have hsame : SameEdges source
      { source with lifecycle := .absorbed record.targetId record.atMs } := ⟨rfl, rfl, rfl, rfl, rfl⟩
  have hnode := h.node _ _ hget
  obtain ⟨_, hgetSource, hspawned⟩ := hholds.source
  cases hget.symm.trans hgetSource
  refine h.rewrite hget hsame rfl (fun hroot => ?_) ?_ ?_ (fun hroot hexternal => ?_)
    (fun _ => rfl) ?_ ?_ hrevision ⟨?_, ?_, ?_⟩
  · obtain ⟨_, hgetRoot, -, hcheck⟩ := h.root
    cases (hroot ▸ hget).symm.trans hgetRoot
    exact hcheck
  · refine ⟨hnode.safeId, hnode.keyed, hnode.nature, hnode.generation, hnode.childIds, hnode.once,
      fun into atMs heq => ?_⟩
    cases heq
    exact ⟨hholds.targetId, hspawned⟩
  · exact (HashMap.map_values_insert hget rfl).nodup_iff.mpr h.natureIds
  · obtain ⟨_, hgetRoot, -, hcheck⟩ := h.root
    cases (hroot ▸ hget).symm.trans hgetRoot
    exact ((checkRoot_founder hexternal).mp hcheck).2
  · intro into atMs heq
    cases heq
    exact (hasLaterChild_eq_false).mp hchildren
  · unfold LineageState.absorb
    dsimp only
    rw [List.length_append, List.length_singleton, h.revision, Nat.add_assoc]
  · refine List.forall_mem_append.mpr ⟨fun earlier hmem => ?_, List.forall_mem_singleton.mpr ?_⟩
    · exact (h.absorptions.records earlier hmem).rewrite hget hsame rfl rfl
    · exact hholds.rewrite hget hsame rfl rfl
  · refine List.pairwise_append.mpr ⟨h.absorptions.order, List.pairwise_singleton _ _, ?_⟩
    intro earlier hmem last hlast
    rw [List.mem_singleton.mp hlast]
    refine ⟨h.absorptions.not_isLate hlate earlier hmem, h.not_source hget hactive earlier hmem,
      fun heq => ?_⟩
    obtain ⟨target, hgetTarget, -⟩ := (h.absorptions.records earlier hmem).source
    rw [heq] at hgetTarget
    exact h.not_source hgetTarget (htarget target hgetTarget) earlier hmem heq
  · intro k v hv
    obtain ⟨u, hu, hedges, ⟨hne, rfl⟩ | ⟨rfl, rfl, rfl⟩⟩ := get_of_rewrite hget hsame hv
    · have htold := h.absorptions.lifecycle k v hu
      cases hlifecycle : v.lifecycle with
      | active =>
        rw [hlifecycle] at htold
        refine List.forall_mem_append.mpr ⟨htold, List.forall_mem_singleton.mpr fun heq => ?_⟩
        exact hne (heq.trans (h.keyed k v hu)).symm
      | absorbed into atMs =>
        rw [hlifecycle] at htold
        obtain ⟨earlier, hmem, hrest⟩ := htold
        exact ⟨earlier, List.mem_append_left _ hmem, hrest⟩
    · exact ⟨record, List.mem_append_right _ List.mem_cons_self, hnode.keyed.symm, rfl, rfl⟩

end LineageState

end Cthuwu.Evolution
