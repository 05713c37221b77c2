import Cthuwu.Evolution.Actions
import Cthuwu.Lib.Search

/-!
# The lineage of a Tentacle

A lineage is a tree of Tentacles below a local root, which may itself be the child of a parent that is
not a node of the tree. Tentacles spawn children and are absorbed by others, and each of both leaves a
record. A lineage that is read from a file is checked from scratch (`validateState`) : its edges, a
walk from the root, the record of every spawn, and a replay of all absorptions.
-/

namespace Cthuwu.Evolution
open EvolutionError

def lineageSchemaVersion : ℕ := 1

def maxAbsorbedKnowledgeHashes : ℕ := 256

inductive TentacleLifecycle
  | active
  | absorbed (into : String) (atMs : ℕ)
  deriving DecidableEq

/-- The lifecycle of a node is the one that was recorded. -/
def TentacleLifecycle.isRecorded : TentacleLifecycle → Option (String × ℕ) → Bool
  | .active, none => true
  | .absorbed into atMs, some (target, recordedAt) => into = target && atMs = recordedAt
  | _, _ => false

structure LineageNode where
  tentacleId : String
  parentId : Option String
  generation : ℕ
  nature : TentacleNature
  spawnedAtMs : ℕ
  children : List String
  lifecycle : TentacleLifecycle

structure SpawnRecord where
  parentId : String
  parentNatureId : String
  childId : String
  childNatureId : String
  authorizationJudgmentId : String
  authorizationOperatorId : String
  authorizationEventIdSha256 : String
  generation : ℕ
  atMs : ℕ

structure SpawnAuthorization where
  judgmentId : String
  operatorId : String
  eventIdSha256 : String

structure AbsorptionRecord where
  sourceId : String
  targetId : String
  atMs : ℕ
  knowledgeHashes : List String
  operatorConfirmed : Bool

structure LineageState where
  schemaVersion : ℕ
  revision : ℕ
  rootId : String
  externalParentId : Option String
  nodes : HashMap String LineageNode
  spawnRecords : List SpawnRecord
  absorptionRecords : List AbsorptionRecord

/-! ## Checks -/

def validateHashes (hashes : List String) : Except EvolutionError Unit := do
  failIf (maxAbsorbedKnowledgeHashes < hashes.length) (.limit "knowledge hash")
  let _ ← insertAll
    (fun hash => failIf (!isHexOf 64 hash) (.invalid "knowledge hashes must be lowercase SHA-256 hex"))
    id (.invalid "duplicate knowledge hash") (fun _ _ => .ok ()) ∅ hashes

namespace LineageState

/-- The root of a founder, or of a child whose parent is elsewhere. -/
def checkRoot (s : LineageState) (root : LineageNode) : Except EvolutionError Unit :=
  match s.externalParentId with
  | none => failIf (root.generation ≠ 0 ∨ root.nature.parentNatureId.isSome = true)
      (.invalid "founder root must have generation zero and no parent Nature")
  | some parentId => do
    validateId parentId "external parent ID"
    failIf (parentId = s.rootId ∨ root.generation = 0 ∨ root.nature.parentNatureId.isNone = true)
      (.invalid "inherited root has invalid external-parent metadata")

/-- What a node says of itself, before its Nature is held against the others. -/
def checkNode (entry : String × LineageNode) : Except EvolutionError Unit := do
  validateId entry.1 "node key"
  validateId entry.2.tentacleId "Tentacle ID"
  failIf (entry.1 ≠ entry.2.tentacleId) (.invalid "node map key does not match its Tentacle ID")
  entry.2.nature.validate
  failIf (entry.2.nature.generation ≠ entry.2.generation)
    (.invalid "node and Nature generations disagree")

def checkAbsorbed (node : LineageNode) : TentacleLifecycle → Except EvolutionError Unit
  | .active => .ok ()
  | .absorbed into atMs => do
    validateId into "absorption target ID"
    failIf (atMs < node.spawnedAtMs) (.invalid "absorption predates the source spawn")

/-- The children and the lifecycle of a node. -/
def checkRest (node : LineageNode) : Except EvolutionError Unit := do
  let _ ← insertAll (fun childId => validateId childId "child ID") id
    (.invalid "duplicate child edge") (fun _ _ => .ok ()) ∅ node.children
  checkAbsorbed node node.lifecycle

/-- A node was not spawned after its parent was absorbed. -/
def checkParentEnd (node : LineageNode) : TentacleLifecycle → Except EvolutionError Unit
  | .active => .ok ()
  | .absorbed _ atMs => failIf (atMs < node.spawnedAtMs)
    (.invalid "child was spawned after its parent was absorbed")

/-- The edge of a node to its parent. -/
def checkParent (s : LineageState) (node : LineageNode) : Except EvolutionError Unit :=
  match node.parentId with
  | none => do
    failIf (node.tentacleId ≠ s.rootId) (.invalid "only the root may omit its parent")
    failIf (node.tentacleId = s.rootId ∧ s.externalParentId.isNone = true ∧
      node.nature.parentNatureId.isSome = true) (.invalid "root Nature unexpectedly has a parent")
  | some parentId => do
    let parent ← okOr (s.nodes.get parentId) (.invalid ("missing parent " ++ parentId))
    failIf (parentId = node.tentacleId) (.invalid "self-parent cycle")
    failIf (!parent.children.contains node.tentacleId)
      (.invalid "parent is missing the reverse child edge")
    failIf (node.generation ≠ min (parent.generation + 1) u64Max)
      (.invalid "child generation is inconsistent")
    failIf (node.spawnedAtMs < parent.spawnedAtMs) (.invalid "child predates its parent")
    let spawn ← okOr (s.spawnRecords.find? (·.childId = node.tentacleId))
      (.invalid "child is missing its immutable spawn record")
    failIf (spawn.parentId ≠ parentId ∨ node.nature.parentNatureId ≠ some spawn.parentNatureId)
      (.invalid "child Nature does not reference its parent Nature at spawn")
    checkParentEnd node parent.lifecycle

/-- The edges of a node, in both directions. -/
def checkEdges (s : LineageState) (node : LineageNode) : Except EvolutionError Unit := do
  s.checkParent node
  node.children.forM fun childId => do
    let child ← okOr (s.nodes.get childId) (.invalid ("missing child " ++ childId))
    failIf (child.parentId ≠ some node.tentacleId)
      (.invalid "child edge does not point back to its parent")

def childrenOf (s : LineageState) (id : String) : Except EvolutionError (List String) := do
  let node ← okOr (s.nodes.get id) (.invalid ("missing node " ++ id))
  return node.children

/-- `visit_lineage`, with at most `n` nested calls. -/
def visitLineage (s : LineageState) (n : ℕ) (visiting : Finset String) (id : String)
    (visited : Finset String) : Except EvolutionError (Finset String) :=
  visit s.childrenOf (.invalid "lineage cycle detected") n visiting id visited

/-- A spawn record by itself. -/
def checkSpawnRecord (record : SpawnRecord) : Except EvolutionError Unit := do
  validateId record.parentId "spawn parent ID"
  validateId record.childId "spawn child ID"
  validateSha256 record.authorizationJudgmentId "spawn authorization judgment ID"
  validateId record.authorizationOperatorId "spawn authorization operator ID"
  validateSha256 record.authorizationEventIdSha256 "spawn authorization event ID digest"

/-- A spawn record against its child. -/
def checkSpawned (s : LineageState) (record : SpawnRecord) : Except EvolutionError Unit := do
  failIf (record.childId = s.rootId) (.invalid "duplicate or root child in spawn records")
  let child ← okOr (s.nodes.get record.childId)
    (.invalid "spawn record references a missing child")
  failIf (child.parentId ≠ some record.parentId ∨ child.generation ≠ record.generation ∨
    child.spawnedAtMs ≠ record.atMs ∨ child.nature.natureId ≠ record.childNatureId ∨
    child.nature.parentNatureId ≠ some record.parentNatureId)
    (.invalid "spawn record disagrees with its child node")

/-- What the replay of the absorptions keeps. -/
structure Replay where
  active : Finset String
  previousTime : ℕ
  absorbed : HashMap String (String × ℕ)

/-- The target of a record is the external parent of the root. -/
def isExternal (s : LineageState) (record : AbsorptionRecord) : Bool :=
  record.sourceId = s.rootId && s.externalParentId = some record.targetId

/-- One turn of the loop over the absorption records. -/
def replayAbsorption (s : LineageState) (r : Replay) (record : AbsorptionRecord) :
    Except EvolutionError Replay := do
  validateId record.sourceId "absorption source ID"
  validateId record.targetId "absorption target ID"
  validateHashes record.knowledgeHashes
  failIf (record.sourceId = record.targetId) (.invalid "self-absorption is not permitted")
  failIf (record.atMs < r.previousTime) (.invalid "absorption records are not chronological")
  let source ← okOr (s.nodes.get record.sourceId) (.invalid "absorption source is missing")
  failIf (s.nodes.get record.targetId = none ∧ s.isExternal record = false)
    (.invalid "absorption target is neither local nor the root's external parent")
  failIf (record.atMs < source.spawnedAtMs ∨
    (s.nodes.get record.targetId).any (record.atMs < ·.spawnedAtMs) = true)
    (.invalid "absorption predates a referenced Tentacle")
  failIf (record.sourceId ∉ r.active ∨ s.nodes.get record.targetId ≠ none ∧
    record.targetId ∉ r.active.erase record.sourceId)
    (.invalid "absorption source or target was already inactive")
  return ⟨r.active.erase record.sourceId, record.atMs,
    r.absorbed.insert record.sourceId (record.targetId, record.atMs)⟩

def validateAbsorptions (s : LineageState) : Except EvolutionError Unit := do
  let r ← s.absorptionRecords.foldlM s.replayAbsorption ⟨s.nodes.keys.toFinset, 0, .empty⟩
  s.nodes.sortedPairs.forM fun entry =>
    failIf (entry.2.lifecycle.isRecorded (r.absorbed.get entry.2.tentacleId) = false)
      (.invalid "node lifecycle disagrees with absorption records")

end LineageState

/-- `validate_state`. -/
def validateState (s : LineageState) : Except EvolutionError Unit := do
  failIf (s.schemaVersion ≠ lineageSchemaVersion)
    (.invalid ("unsupported schema version " ++ toString s.schemaVersion))
  validateId s.rootId "root ID"
  failIf (s.nodes.len = 0) (.invalid "lineage must contain its root node")
  failIf (s.spawnRecords.length ≠ s.nodes.len - 1)
    (.invalid "spawn records must describe every non-root node exactly once")
  failIf (u64Max < s.spawnRecords.length + s.absorptionRecords.length) (.limit "revision")
  failIf (s.revision ≠ s.spawnRecords.length + s.absorptionRecords.length)
    (.invalid "revision does not match the mutation log")
  let root ← okOr (s.nodes.get s.rootId) (.invalid "root ID does not reference a node")
  failIf (root.parentId.isSome = true)
    (.invalid "local root must not reference a parent node inside its projection")
  s.checkRoot root
  let _ ← insertAll LineageState.checkNode (·.2.nature.natureId)
    (.invalid "duplicate Nature ID in lineage") (fun entry _ => LineageState.checkRest entry.2) ∅
    s.nodes.sortedPairs
  s.nodes.sortedPairs.forM fun entry => s.checkEdges entry.2
  let visited ← s.visitLineage (s.nodes.len + 1) ∅ s.rootId ∅
  failIf (visited.card ≠ s.nodes.len) (.invalid "lineage contains a disconnected node or cycle")
  let _ ← insertAll LineageState.checkSpawnRecord SpawnRecord.childId
    (.invalid "duplicate or root child in spawn records") (fun record _ => s.checkSpawned record) ∅
    s.spawnRecords
  s.validateAbsorptions

/-! ## Lineages -/

namespace LineageState

def single (rootId : String) (externalParentId : Option String) (nature : TentacleNature)
    (spawnedAtMs : ℕ) : LineageState where
  schemaVersion := lineageSchemaVersion
  revision := 0
  rootId := rootId
  externalParentId := externalParentId
  nodes := HashMap.empty.insert rootId
    ⟨rootId, none, nature.generation, nature, spawnedAtMs, [], .active⟩
  spawnRecords := []
  absorptionRecords := []

/-- `Lineage::new`. -/
def new (founderId : String) (founderNature : TentacleNature) (spawnedAtMs : ℕ) :
    Except EvolutionError LineageState := do
  validateId founderId "founder ID"
  founderNature.validate
  failIf (founderNature.generation ≠ 0 ∨ founderNature.parentNatureId.isSome = true)
    (.invalid "a lineage founder must have generation zero and no parent nature")
  return .single founderId none founderNature spawnedAtMs

def newChildRoot (tentacleId externalParentId : String) (nature : TentacleNature)
    (spawnedAtMs : ℕ) : Except EvolutionError LineageState := do
  validateId tentacleId "child root ID"
  validateId externalParentId "external parent ID"
  failIf (tentacleId = externalParentId)
    (.conflict "an inherited root cannot be its own external parent")
  nature.validate
  failIf (nature.generation = 0 ∨ nature.parentNatureId.isNone = true)
    (.invalid "an inherited root requires nonzero generation and parent Nature metadata")
  return .single tentacleId (some externalParentId) nature spawnedAtMs

def fromState (s : LineageState) : Except EvolutionError LineageState := do
  validateState s
  return s

end LineageState

abbrev LineageOp (α : Type) := Fallible EvolutionError LineageState α

def LineageState.require (s : LineageState) (id : String) : Except EvolutionError LineageNode :=
  okOr (s.nodes.get id) (.notFound id)

/-- The Nature keeps the place of the root in its lineage. -/
def LineageState.keepsRoot (s : LineageState) (root : LineageNode) (nature : TentacleNature) :
    Except EvolutionError Unit := do
  failIf (s.externalParentId.isNone = true ∧
    (nature.generation ≠ 0 ∨ nature.parentNatureId.isSome = true))
    (.invalid "the founder root must retain founder metadata")
  failIf (s.externalParentId.isSome = true ∧
    (nature.generation ≠ root.generation ∨ nature.parentNatureId.isNone = true))
    (.invalid "an inherited root must retain its generation and parent Nature metadata")

def updateRootNature (authenticated claimed : String) (nature : TentacleNature) :
    LineageOp Unit := do
  liftM (failIf (authenticated ≠ claimed)
    (unauthorized "authenticated Tentacle does not match the Nature update claim"))
  let s ← get
  liftM (failIf (authenticated ≠ s.rootId)
    (unauthorized "only the lineage root Nature can be reconciled locally"))
  liftM nature.validate
  let root ← liftM (s.require authenticated)
  liftM (s.keepsRoot root nature)
  liftM (failIf ((s.nodes.pairs.any fun entry =>
      entry.1 ≠ authenticated && entry.2.nature.natureId = nature.natureId) = true)
    (conflict "updated root Nature ID already exists in the lineage"))
  modify fun s => { s with nodes := s.nodes.insert authenticated { root with nature := nature } }

/-- The Nature that a parent passes on, as its inheritance draws it. -/
def LineageState.planChildNature (s : LineageState) (parentId : String)
    (inherit : TentacleNature → Except EvolutionError TentacleNature) :
    Except EvolutionError TentacleNature := do
  let parent ← s.require parentId
  failIf (parent.lifecycle ≠ .active) (.conflict "an absorbed Tentacle cannot spawn")
  inherit parent.nature

/-- The checks of a child before it is recorded, against its parent. -/
def LineageState.checkChild (s : LineageState) (parentId childId : String)
    (childNature : TentacleNature) (atMs : ℕ) : Except EvolutionError LineageNode := do
  failIf (parentId = childId) (.conflict "a Tentacle cannot be its own child")
  failIf (s.nodes.contains childId = true)
    (.conflict ("Tentacle " ++ childId ++ " already exists"))
  let parent ← s.require parentId
  failIf (parent.lifecycle ≠ .active) (.conflict "an absorbed Tentacle cannot spawn")
  failIf (atMs < parent.spawnedAtMs) (.invalid "a child cannot predate its parent")
  failIf (u64Max < parent.generation + 1) (.limit "generation")
  childNature.validate
  failIf (childNature.generation ≠ parent.generation + 1 ∨
    childNature.parentNatureId ≠ some parent.nature.natureId)
    (.nature "inherited Nature has inconsistent lineage metadata")
  failIf ((s.nodes.values.any (·.nature.natureId = childNature.natureId)) = true)
    (.conflict "inherited Nature ID already exists")
  failIf (u64Max < s.revision + 1) (.limit "revision")
  return parent

def childNode (parentId childId : String) (parent : LineageNode) (childNature : TentacleNature)
    (atMs : ℕ) : LineageNode :=
  ⟨childId, some parentId, parent.generation + 1, childNature, atMs, [], .active⟩

def spawnRecord (parentId childId : String) (parent : LineageNode) (childNature : TentacleNature)
    (atMs : ℕ) (authorization : SpawnAuthorization) : SpawnRecord where
  parentId := parentId
  parentNatureId := parent.nature.natureId
  childId := childId
  childNatureId := childNature.natureId
  authorizationJudgmentId := authorization.judgmentId
  authorizationOperatorId := authorization.operatorId
  authorizationEventIdSha256 := authorization.eventIdSha256
  generation := parent.generation + 1
  atMs := atMs

def LineageState.addChild (s : LineageState) (parentId childId : String) (parent : LineageNode)
    (childNature : TentacleNature) (atMs : ℕ) (authorization : SpawnAuthorization) :
    LineageState :=
  { s with
    nodes := (s.nodes.insert parentId
      { parent with children := parent.children ++ [childId] }).insert childId
        (childNode parentId childId parent childNature atMs)
    spawnRecords := s.spawnRecords ++
      [spawnRecord parentId childId parent childNature atMs authorization]
    revision := s.revision + 1 }

def recordProvisionedChild (authenticatedParent claimedParent childId : String)
    (childNature : TentacleNature) (atMs : ℕ) (authorization : SpawnAuthorization) :
    LineageOp LineageNode := do
  liftM (failIf (authenticatedParent ≠ claimedParent)
    (unauthorized "authenticated parent does not match the spawn claim"))
  liftM (validateId authenticatedParent "parent ID")
  liftM (validateId childId "child ID")
  liftM (validateSha256 authorization.judgmentId "authorization judgment ID")
  liftM (validateId authorization.operatorId "authorization operator ID")
  liftM (validateSha256 authorization.eventIdSha256 "authorization event ID digest")
  let s ← get
  let parent ← liftM (s.checkChild authenticatedParent childId childNature atMs)
  modify (·.addChild authenticatedParent childId parent childNature atMs authorization)
  return childNode authenticatedParent childId parent childNature atMs

def spawnChild (inherit : TentacleNature → Except EvolutionError TentacleNature)
    (authenticatedParent claimedParent childId : String) (atMs : ℕ)
    (authorization : SpawnAuthorization) : LineageOp LineageNode := do
  liftM (failIf (authenticatedParent ≠ claimedParent)
    (unauthorized "authenticated parent does not match the spawn claim"))
  let s ← get
  let childNature ← liftM (s.planChildNature authenticatedParent inherit)
  recordProvisionedChild authenticatedParent claimedParent childId childNature atMs authorization

/-- The last absorption was later. -/
def LineageState.isLate (s : LineageState) (atMs : ℕ) : Bool :=
  s.absorptionRecords.getLast?.any (atMs < ·.atMs)

/-- A child of the node was spawned later. -/
def LineageState.hasLaterChild (s : LineageState) (source : LineageNode) (atMs : ℕ) : Bool :=
  source.children.any fun child => (s.nodes.get child).any (atMs < ·.spawnedAtMs)

/-- The source is absorbed, and the absorption recorded. -/
def LineageState.absorb (s : LineageState) (source : LineageNode) (record : AbsorptionRecord) :
    LineageState :=
  { s with
    nodes := s.nodes.insert record.sourceId
      { source with lifecycle := .absorbed record.targetId record.atMs }
    absorptionRecords := s.absorptionRecords ++ [record] }

/-- The last steps of an absorption. The revision is counted after the record is made. -/
def commitAbsorption (source : LineageNode) (record : AbsorptionRecord) :
    LineageOp AbsorptionRecord := do
  modify (·.absorb source record)
  let s ← get
  liftM (failIf (u64Max < s.revision + 1) (EvolutionError.limit "revision"))
  modify fun s => { s with revision := s.revision + 1 }
  return record

def LineageState.checkAbsorption (s : LineageState) (targetId sourceId : String) (atMs : ℕ) :
    Except EvolutionError LineageNode := do
  failIf (s.isLate atMs = true) (.invalid "absorption records must be chronological")
  let target ← s.require targetId
  let source ← s.require sourceId
  failIf (target.lifecycle ≠ .active)
    (.conflict "knowledge cannot be absorbed into an inactive Tentacle")
  failIf (source.lifecycle ≠ .active) (.conflict "the source Tentacle was already absorbed")
  failIf (atMs < target.spawnedAtMs ∨ atMs < source.spawnedAtMs)
    (.invalid "an absorption cannot predate either Tentacle")
  failIf (s.hasLaterChild source atMs = true)
    (.invalid "an absorption cannot predate an existing child spawn")
  return source

def recordAbsorption (authenticatedTarget claimedTarget sourceId : String) (atMs : ℕ)
    (knowledgeHashes : List String) (operatorConfirmed : Bool) : LineageOp AbsorptionRecord := do
  liftM (failIf (authenticatedTarget ≠ claimedTarget)
    (unauthorized "authenticated target does not match the absorption claim"))
  liftM (validateId authenticatedTarget "target ID")
  liftM (validateId sourceId "source ID")
  liftM (failIf (authenticatedTarget = sourceId)
    (conflict "a Tentacle cannot absorb itself"))
  liftM (validateHashes knowledgeHashes)
  let s ← get
  let source ← liftM (s.checkAbsorption authenticatedTarget sourceId atMs)
  commitAbsorption source ⟨sourceId, authenticatedTarget, atMs, knowledgeHashes, operatorConfirmed⟩

def LineageState.checkExternalAbsorption (s : LineageState) (sourceId targetId : String)
    (atMs : ℕ) : Except EvolutionError LineageNode := do
  failIf (sourceId ≠ s.rootId ∨ s.externalParentId ≠ some targetId) (.unauthorized
    "external absorption target is not this inherited root's recorded parent")
  failIf (s.isLate atMs = true) (.invalid "absorption records must be chronological")
  let source ← s.require sourceId
  failIf (source.lifecycle ≠ .active) (.conflict "the source Tentacle was already absorbed")
  failIf (atMs < source.spawnedAtMs ∨ s.hasLaterChild source atMs = true)
    (.invalid "external-parent absorption predates the source or one of its children")
  return source

def recordExternalParentAbsorption (sourceId targetId : String) (atMs : ℕ)
    (knowledgeHashes : List String) : LineageOp AbsorptionRecord := do
  liftM (validateId sourceId "external absorption source ID")
  liftM (validateId targetId "external absorption target ID")
  liftM (validateHashes knowledgeHashes)
  let s ← get
  let source ← liftM (s.checkExternalAbsorption sourceId targetId atMs)
  commitAbsorption source ⟨sourceId, targetId, atMs, knowledgeHashes, false⟩

/-- The loop of `ancestors`, for at most `n` turns. -/
def LineageState.ancestorsFrom (s : LineageState) :
    ℕ → LineageNode → List String → Option (Except EvolutionError (List String))
  | 0, _, _ => none
  | n + 1, current, result =>
    match current.parentId with
    | none => some (.ok (result ++
        if current.tentacleId = s.rootId then s.externalParentId.toList else []))
    | some parentId =>
      match s.nodes.get parentId with
      | none => some (.error (.invalid ("missing parent " ++ parentId)))
      | some parent => s.ancestorsFrom n parent (result ++ [parentId])

def LineageState.ancestors (s : LineageState) (n : ℕ) (tentacleId : String) :
    Option (Except EvolutionError (List String)) :=
  match s.nodes.get tentacleId with
  | none => some (.error (.notFound tentacleId))
  | some current => s.ancestorsFrom n current []

end Cthuwu.Evolution
