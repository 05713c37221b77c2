import Mathlib.Data.Prod.Lex
import Cthuwu.Hermes.Node
import Cthuwu.Lib.Moves

/-!
# What an operation does

A `Request` is one call of an operation that writes. It may note what a peer has, and then
does a list of `Move`s : it connects a peer, merges a record into the store, drops or schedules
entries of the queue, or changes the ban. `request_moves` inverts every request into them,
whether it succeeds or fails : a request that fails has done nothing, except for a received
record that no longer fits, whose digest has been noted.
-/

namespace Cthuwu.Hermes

open Council HermesNode Fallible

/-! ## Requests -/

inductive Request
  | setSacredBan (sacredBan : SacredBan)
  | connectPeer (peerId relayKeyId : String)
  | publish (item : KnowledgeItem) (createdAtMs : ℕ) (author : SigningIdentity)
  | applySummary (peerId : String) (summary : AntiEntropySummary) (receivedAtMs : ℕ)
  | acknowledge (peerId : String) (acknowledgements : List KnowledgeDigest) (receivedAtMs : ℕ)
  | receive (peerId : String) (envelope : KnowledgeEnvelope) (receivedAtMs : ℕ)

inductive Reply
  | done
  | merged (outcome : MergeOutcome)
  | planned (plan : AntiEntropyPlan)

/-! ## Moves -/

/-- What a peer shows to have. -/
inductive Note
  | summary (entries : List KnowledgeDigest)
  | acknowledged (accepted : HashMap String String)
  | received (id digest : String)

def Note.extend (known : HashMap String String) : Note → HashMap String String
  | summary entries => remoteDigests entries
  | acknowledged accepted => extendDigests known accepted
  | received id digest => known.insert id digest

inductive Move
  | noted (peerId : String) (receivedAtMs : ℕ) (note : Note)
  | connected (peerId relayKeyId : String)
  | merged (record : StoredKnowledge)
  | dropped (keep : PendingOutbound → Bool)
  | scheduled (entry : PendingOutbound)
  | banned (memorySharingBanned : Bool)

def Move.note : Move → Option (String × ℕ × Note)
  | noted peerId receivedAtMs note => some (peerId, receivedAtMs, note)
  | _ => none

def Move.record : Move → Option StoredKnowledge
  | merged record => some record
  | _ => none

namespace HermesNode

/-- The place of a record in the order that selects one of each item. -/
def standing (node : HermesNode) (record : StoredKnowledge) : ℕ ×ₗ ℕ ×ₗ String :=
  toLex (((node.keyring.authority record.authored.authorKeyId).map (·.rank)).getD 0,
    toLex (record.authored.createdAtMs, record.digest))

/-- Write a record, and forget what is queued of the item. -/
def keep (record : StoredKnowledge) (node : HermesNode) : HermesNode :=
  if node.canSend then
    (node.setKnowledge record.authored.item.id record).setPending
      (node.state.pendingOutbound.filter (·.knowledgeId ≠ record.authored.item.id))
  else node.setKnowledge record.authored.item.id record

/-- The greater of the stored record and another one, with the better path if they are one. -/
def select (record : StoredKnowledge) (node : HermesNode) : HermesNode :=
  match node.state.knowledge.get record.authored.item.id with
  | none => node.keep record
  | some current =>
    if node.standing current < node.standing record then node.keep record
    else if current.digest = record.digest ∧
        comparePaths record.bestPath current.bestPath = .lt then
      node.setKnowledge record.authored.item.id { current with bestPath := record.bestPath }
    else node

/-- Note what a peer has. -/
def noting (peerId : String) (receivedAtMs : ℕ) (note : Note) (node : HermesNode) : HermesNode :=
  match node.state.peers.get peerId with
  | none => node
  | some peer => node.setPeer peerId
    { peer with lastSyncMs := some receivedAtMs, knownDigests := note.extend peer.knownDigests }

end HermesNode

def Move.apply (node : HermesNode) : Move → HermesNode
  | noted peerId receivedAtMs note => node.noting peerId receivedAtMs note
  | connected peerId relayKeyId => node.setPeer peerId ⟨peerId, relayKeyId, none, .empty⟩
  | merged record => node.select record
  | dropped keep => node.setPending (node.state.pendingOutbound.filter keep)
  | scheduled entry => node.schedule entry.peerId entry.knowledgeId entry.digest
  | banned memorySharingBanned =>
    let node := { node with memorySharingBanned }
    if memorySharingBanned then node.setPending [] else node

section

variable [Hashing]

structure Connectable (node : HermesNode) (peerId relayKeyId : String) : Prop where
  peerIdValid : isId peerId = true
  relayKeyIdValid : isId relayKeyId = true
  remote : peerId ≠ node.state.localPeerId
  trusted : (node.keyring.authority relayKeyId).isSome = true
  fresh : node.state.peers.get peerId = none
  room : node.state.peers.len < maxGossipPeers

/-- A signed record with its digest, whose path starts at the node or does not reach it. -/
structure Admissible (node : HermesNode) (record : StoredKnowledge) : Prop where
  verified : verifyAuthored record.authored node.keyring = .ok ()
  digest : record.authored.digest = record.digest
  path : record.bestPath = [node.state.localPeerId] ∨
    validatePath record.bestPath = .ok () ∧ node.state.localPeerId ∉ record.bestPath
  authority : record.authored.item.payload.isSkill = true →
    node.keyring.authority record.authored.authorKeyId = some .operator

/-- An entry of the queue for a connected peer and the stored record. -/
structure Schedulable (node : HermesNode) (entry : PendingOutbound) : Prop where
  peer : ∃ peer, node.state.peers.get entry.peerId = some peer
  record : ∃ record, node.state.knowledge.get entry.knowledgeId = some record ∧
    record.digest = entry.digest

def Note.WellFormed : Note → Prop
  | summary entries => entries.length ≤ maxAntiEntropyEntries ∧
    ∀ entry ∈ entries, isHexDigest entry.knowledgeId = true ∧ isHexDigest entry.digest = true
  | acknowledged accepted => ∀ id digest, accepted.get id = some digest →
    isHexDigest id = true ∧ isHexDigest digest = true
  | received id digest => isHexDigest id = true ∧ isHexDigest digest = true

inductive Justified (node : HermesNode) : Move → Prop
  | noted {peerId : String} {receivedAtMs : ℕ} {note : Note} {peer : PeerState}
      (found : node.state.peers.get peerId = some peer) (wellFormed : note.WellFormed) :
      Justified node (.noted peerId receivedAtMs note)
  | connected {peerId relayKeyId : String} (connectable : Connectable node peerId relayKeyId) :
      Justified node (.connected peerId relayKeyId)
  | merged {record : StoredKnowledge} (admissible : Admissible node record)
      (room : node.state.knowledge.get record.authored.item.id = none →
        node.state.knowledge.len < maxKnowledgeItems) : Justified node (.merged record)
  | dropped {keep : PendingOutbound → Bool} : Justified node (.dropped keep)
  | scheduled {entry : PendingOutbound} (schedulable : Schedulable node entry) :
      Justified node (.scheduled entry)
  | banned {memorySharingBanned : Bool} : Justified node (.banned memorySharingBanned)

def moves : Moves HermesNode Move where
  apply := Move.apply
  Justified := Justified

variable {node node' : HermesNode} {record : StoredKnowledge} {authority : SignatureAuthority}
  {peerId : String} {entry : PendingOutbound}

/-! ## Scheduling -/

theorem schedule_eq (peerId knowledgeId digest : String) (node : HermesNode) :
    ∃ pending, node.schedule peerId knowledgeId digest = node.setPending pending := by
  unfold schedule
  split_ifs
  · exact ⟨node.state.pendingOutbound, rfl⟩
  · exact ⟨node.state.pendingOutbound, rfl⟩
  · exact ⟨_, rfl⟩
  · exact ⟨node.state.pendingOutbound, rfl⟩
  · exact ⟨_, rfl⟩

theorem Schedulable.schedule (h : Schedulable node entry) (other : PendingOutbound) :
    Schedulable (node.schedule other.peerId other.knowledgeId other.digest) entry := by
  obtain ⟨pending, heq⟩ := schedule_eq other.peerId other.knowledgeId other.digest node
  rw [heq]
  exact ⟨h.peer, h.record⟩

/-- Scheduling several entries, each for a connected peer and a stored record. -/
theorem performs_schedule {entries : List PendingOutbound}
    (h : ∀ entry ∈ entries, Schedulable node entry) :
    moves.Performs node (entries.map Move.scheduled)
      (entries.foldl (fun node entry => node.schedule entry.peerId entry.knowledgeId entry.digest)
        node) := by
  induction entries generalizing node with
  | nil => exact Moves.performs_nil
  | cons entry entries ih =>
    have hentry : Justified node (.scheduled entry) := .scheduled (h entry List.mem_cons_self)
    refine ⟨hentry, ih fun other hother => ?_⟩
    exact (h other (List.mem_cons_of_mem _ hother)).schedule entry

end

end Cthuwu.Hermes
