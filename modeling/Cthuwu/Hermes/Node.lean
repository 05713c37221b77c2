import Cthuwu.Hermes.Knowledge

/-!
# A gossip node

`HermesNode` is the state of the source with its public operations. A node keeps at most one
record for each item, the greatest under `compareRecords`, a view of the digests each peer is
known to have, and a bounded queue of what to send next.

`validateState` is what a store checks before it saves a state and after it has loaded one.
The pretty-printed JSON of a file comes from outside the repository and is the `Codec`.
-/

namespace Cthuwu.Hermes

open Council

/-! ## State -/

structure StoredKnowledge where
  authored : AuthoredKnowledge
  digest : String
  bestPath : List String

structure PeerState where
  peerId : String
  relayKeyId : String
  lastSyncMs : Option ℕ
  knownDigests : HashMap String String

structure PendingOutbound where
  peerId : String
  knowledgeId : String
  digest : String

structure HermesState where
  schemaVersion : ℕ
  localPeerId : String
  localRelayKeyId : String
  peers : HashMap String PeerState
  knowledge : HashMap String StoredKnowledge
  pendingOutbound : List PendingOutbound

structure KnowledgeDigest where
  knowledgeId : String
  digest : String

structure AntiEntropySummary where
  schemaVersion : ℕ
  peerId : String
  entries : List KnowledgeDigest

structure AntiEntropyPlan where
  offerToPeer : List String
  requestFromPeer : List String

inductive MergeOutcome
  | inserted
  | replaced
  | unchanged
  deriving DecidableEq

inductive SacredBan
  | recruitment
  | spawning
  | governance
  | profit
  | memorySharing
  deriving DecidableEq

structure HermesNode where
  state : HermesState
  relayIdentity : SigningIdentity
  keyring : TrustedKeyring
  memorySharingBanned : Bool

abbrev Op (α : Type) := Fallible HermesError HermesNode α

/-- `failIf` for operations. -/
abbrev rejectIf (c : Prop) [Decidable c] (err : HermesError) : Except HermesError Unit :=
  failIf c err

/-- `okOr` for operations. -/
abbrev orReject {α : Type} (o : Option α) (err : HermesError) : Except HermesError α :=
  okOr o err

def compareRecords (current : StoredKnowledge) (currentAuthority : SignatureAuthority)
    (incoming : StoredKnowledge) (incomingAuthority : SignatureAuthority) : Ordering :=
  ((compare currentAuthority.rank incomingAuthority.rank).then
    (compare current.authored.createdAtMs incoming.authored.createdAtMs)).then
      (compare current.digest incoming.digest)

def comparePaths (left right : List String) : Ordering :=
  (compare left.length right.length).then (compare left right)

/-! ## Checks -/

def validatePath (path : List String) : Except HermesError Unit := do
  failIf (path = [] ∨ maxPathHops < path.length) (.limit "gossip path")
  let _ ← insertAll (fun peer => validateId peer "path peer ID") id
    (.invalid "gossip path contains a cycle") (fun _ _ => .ok ()) ∅ path
  return ()

def validateEnvelopeSize (envelope : KnowledgeEnvelope) : Except HermesError Unit :=
  failIf (maxEnvelopeBytes < envelope.toJson.utf8ByteSize) (.limit "encoded envelope size")

def validateEnvelopeShape (envelope : KnowledgeEnvelope) : Except HermesError Unit := do
  validateEnvelopeSize envelope
  failIf (envelope.envelopeVersion ≠ 1) (.invalid "unsupported relay-envelope version")
  validateId envelope.relayPeerId "relay peer ID"
  validateId envelope.relayKeyId "relay key ID"
  validateHexDigest envelope.relaySignature "relay signature"
  validatePath envelope.path
  failIf (envelope.path.getLast? ≠ some envelope.relayPeerId)
    (.invalid "relay must be the terminal path hop")

def validateKnowledgeDigest (digest : KnowledgeDigest) : Except HermesError Unit := do
  validateHexDigest digest.knowledgeId "knowledge ID"
  validateHexDigest digest.digest "knowledge digest"

def validateSummary (summary : AntiEntropySummary) : Except HermesError Unit := do
  failIf (summary.schemaVersion ≠ 1) (.invalid "unsupported anti-entropy schema version")
  validateId summary.peerId "summary peer ID"
  failIf (maxAntiEntropyEntries < summary.entries.length) (.limit "anti-entropy entry count")
  let _ ← insertAll validateKnowledgeDigest KnowledgeDigest.knowledgeId
    (.invalid "duplicate knowledge ID in anti-entropy summary") (fun _ _ => .ok ()) ∅
    summary.entries
  return ()

variable (node : HermesNode) (peerId : String)

namespace HermesNode

/-! ## Parts of the state -/

def setPeer (peer : PeerState) (node : HermesNode) : HermesNode :=
  { node with state := { node.state with peers := node.state.peers.insert peerId peer } }

def setKnowledge (id : String) (record : StoredKnowledge) (node : HermesNode) : HermesNode :=
  { node with state := { node.state with knowledge := node.state.knowledge.insert id record } }

def setPending (pending : List PendingOutbound) (node : HermesNode) : HermesNode :=
  { node with state := { node.state with pendingOutbound := pending } }

def canSend : Bool :=
  !node.memorySharingBanned

def requirePeer : Except HermesError PeerState :=
  okOr (node.state.peers.get peerId) (.unknownPeer peerId)

/-- The digest the peer is known to have of the item. -/
def knownDigest (peerId knowledgeId : String) : Option String :=
  (node.state.peers.get peerId).bind fun peer => peer.knownDigests.get knowledgeId

/-- Give the first entry for the peer and the item another digest. -/
def redigest (peerId knowledgeId digest : String) : List PendingOutbound → List PendingOutbound
  | [] => []
  | pending :: rest =>
    if pending.peerId = peerId ∧ pending.knowledgeId = knowledgeId then
      { pending with digest } :: rest
    else pending :: redigest peerId knowledgeId digest rest

def schedule (peerId knowledgeId digest : String) (node : HermesNode) : HermesNode :=
  if !node.canSend then node
  else if node.knownDigest peerId knowledgeId = some digest then node
  else if node.state.pendingOutbound.any fun pending =>
      pending.peerId = peerId && pending.knowledgeId = knowledgeId then
    node.setPending (redigest peerId knowledgeId digest node.state.pendingOutbound)
  else if maxPendingOutbound ≤ node.state.pendingOutbound.length then node
  else node.setPending (node.state.pendingOutbound ++ [⟨peerId, knowledgeId, digest⟩])

/-- The digest of each item, in the order of the items. -/
def digests : List KnowledgeDigest :=
  node.state.knowledge.sortedPairs.map fun entry => ⟨entry.1, entry.2.digest⟩

def scheduleAll (node : HermesNode) : HermesNode :=
  node.digests.foldl (fun node entry => node.schedule peerId entry.knowledgeId entry.digest) node

def scheduleAllForAllPeers : HermesNode :=
  if !node.canSend then node
  else (node.state.peers.sortedPairs.map (·.1)).foldl (fun node peerId => node.scheduleAll peerId)
    node

/-! ## Operations -/

/-- `HermesNode::new`. -/
def new (localPeerId : String) (relayIdentity : SigningIdentity) (keyring : TrustedKeyring)
    (sacredBan : SacredBan) : Except HermesError HermesNode := do
  validateId localPeerId "local peer ID"
  failIf (!keyring.trusted relayIdentity)
    (.unauthorized "local relay key is not in the trusted keyring")
  return {
    state := {
      schemaVersion := 1
      localPeerId
      localRelayKeyId := relayIdentity.keyId
      peers := .empty
      knowledge := .empty
      pendingOutbound := [] }
    relayIdentity
    keyring
    memorySharingBanned := sacredBan = .memorySharing }

def setSacredBan (sacredBan : SacredBan) : Op Unit :=
  modify fun node =>
    let node := { node with memorySharingBanned := decide (sacredBan = SacredBan.memorySharing) }
    if node.memorySharingBanned then node.setPending [] else node.scheduleAllForAllPeers

def connectPeer (peerId relayKeyId : String) : Op Unit := do
  let node ← get
  validateId peerId "peer ID"
  validateId relayKeyId "relay key ID"
  rejectIf (peerId = node.state.localPeerId) (.conflict "a node cannot gossip with itself")
  rejectIf ((node.keyring.authority relayKeyId).isNone)
    (.unauthorized "peer relay key is not trusted")
  match node.state.peers.get peerId with
  | some existing =>
    rejectIf (existing.relayKeyId ≠ relayKeyId)
      (.conflict "peer ID is already bound to another relay key")
  | none => do
    rejectIf (maxGossipPeers ≤ node.state.peers.len) (.limit "peer count")
    modify (setPeer peerId ⟨peerId, relayKeyId, none, .empty⟩)
    modify fun node => if node.canSend then node.scheduleAll peerId else node

/-- Put the incoming record in the place of a lesser one, or its path in the place of a worse
one of the same record. -/
def selectRecord (incoming : StoredKnowledge) (incomingAuthority : SignatureAuthority) :
    Op MergeOutcome := do
  let node ← get
  let id := incoming.authored.item.id
  match node.state.knowledge.get id with
  | none => do
    rejectIf (maxKnowledgeItems ≤ node.state.knowledge.len) (.limit "knowledge item count")
    modify (setKnowledge id incoming)
    return .inserted
  | some current => do
    let currentAuthority ← orReject (node.keyring.authority current.authored.authorKeyId)
      (.unauthorized "stored author key is no longer trusted")
    match compareRecords current currentAuthority incoming incomingAuthority with
    | .lt => do
      modify (setKnowledge id incoming)
      return .replaced
    | _ => do
      modify fun node =>
        if current.digest = incoming.digest ∧
            comparePaths incoming.bestPath current.bestPath = .lt then
          node.setKnowledge id { current with bestPath := incoming.bestPath }
        else node
      return .unchanged

/-- Queue a newly selected record for every peer that neither sent it nor is on its path. -/
def announce (selected : StoredKnowledge) (sourcePeer : Option String) (node : HermesNode) :
    HermesNode :=
  let id := selected.authored.item.id
  if !node.canSend then node
  else (node.state.peers.sortedPairs.map (·.1)).foldl (fun node peerId =>
      if sourcePeer = some peerId ∨ peerId ∈ selected.bestPath then node
      else node.schedule peerId id selected.digest)
    (node.setPending (node.state.pendingOutbound.filter (·.knowledgeId ≠ id)))

def mergeRecord (incoming : StoredKnowledge) (incomingAuthority : SignatureAuthority)
    (sourcePeer : Option String) : Op MergeOutcome := do
  let outcome ← selectRecord incoming incomingAuthority
  modify fun node => if outcome = .unchanged then node else node.announce incoming sourcePeer
  return outcome

variable [Hashing]

def author (item : KnowledgeItem) (createdAtMs : ℕ) (author : SigningIdentity) :
    AuthoredKnowledge :=
  let authored : AuthoredKnowledge :=
    { envelopeVersion := 1, item, createdAtMs, authorKeyId := author.keyId, authorSignature := "" }
  { authored with authorSignature := signAuthor authored author }

variable (node : HermesNode) (peerId : String) (authenticatedPeer : String)

/-- What `publish` checks, and the authority of the author. -/
def checkPublication (item : KnowledgeItem) (author : SigningIdentity) :
    Except HermesError SignatureAuthority := do
  item.validate
  failIf (!node.keyring.trusted author) (.unauthorized "author key is not trusted")
  let authority ← okOr (node.keyring.authority author.keyId)
    (.unauthorized "author key is unknown")
  failIf (item.payload.isSkill ∧ authority ≠ .operator)
    (.unauthorized "operator-created skills require an operator-authority signature")
  return authority

def publish (item : KnowledgeItem) (createdAtMs : ℕ) (author : SigningIdentity) :
    Op MergeOutcome := do
  let node ← get
  let authority ← node.checkPublication item author
  let authored := HermesNode.author item createdAtMs author
  mergeRecord ⟨authored, authored.digest, [node.state.localPeerId]⟩ authority none

/-- `None` under the ban on sharing memory. -/
def outboundSummary : Option AntiEntropySummary :=
  if node.canSend then some ⟨1, node.state.localPeerId, node.digests⟩ else none

/-- What `apply_summary` checks. -/
def checkSummary (summary : AntiEntropySummary) :
    Except HermesError PeerState := do
  let peer ← node.requirePeer authenticatedPeer
  validateSummary summary
  failIf (summary.peerId ≠ authenticatedPeer)
    (.unauthorized "transport peer does not match summary peer")
  return peer

/-- The view of a peer that its summary gives. -/
def remoteDigests (entries : List KnowledgeDigest) : HashMap String String :=
  entries.foldl (fun known entry => known.insert entry.knowledgeId entry.digest) .empty

def applySummary (summary : AntiEntropySummary)
    (receivedAtMs : ℕ) : Op AntiEntropyPlan := do
  let node ← get
  let peer ← node.checkSummary authenticatedPeer summary
  let remote := remoteDigests summary.entries
  modify (setPeer authenticatedPeer
    { peer with lastSyncMs := some receivedAtMs, knownDigests := remote })
  if !node.canSend then
    return ⟨[], []⟩
  else do
    let offered := node.digests.filter fun entry =>
      remote.get entry.knowledgeId ≠ some entry.digest
    modify fun node => offered.foldl
      (fun node entry => node.schedule authenticatedPeer entry.knowledgeId entry.digest) node
    let requested := remote.sortedPairs.filter fun entry =>
      (node.state.knowledge.get entry.1).map (·.digest) ≠ some entry.2
    return ⟨offered.map (·.knowledgeId), requested.map (·.1)⟩

/-- The path of a relayed record, which ends at the node. -/
def relayPath (record : StoredKnowledge) (resetPath : Bool) :
    Except HermesError (List String) :=
  let path := if resetPath then [node.state.localPeerId] else record.bestPath
  if path.getLast? = some node.state.localPeerId then .ok path
  else do
    failIf (maxPathHops ≤ path.length) (.limit "gossip path")
    failIf (node.state.localPeerId ∈ path)
      (.invalid "stored path contains a non-terminal local hop")
    return path ++ [node.state.localPeerId]

/-- The envelope in which the node relays a record. -/
def relayEnvelope (record : StoredKnowledge) (resetPath : Bool) :
    Except HermesError KnowledgeEnvelope := do
  let path ← node.relayPath record resetPath
  let envelope : KnowledgeEnvelope :=
    { envelopeVersion := 1
      authored := record.authored
      path
      relayPeerId := node.state.localPeerId
      relayKeyId := node.relayIdentity.keyId
      relaySignature := "" }
  let envelope := { envelope with relaySignature := signRelay envelope node.relayIdentity }
  validateEnvelopeSize envelope
  return envelope

/-- The records that the queue holds for the peer and that are still current. -/
def pendingFor : List (String × StoredKnowledge) :=
  (node.state.pendingOutbound.filter (·.peerId = peerId)).filterMap fun pending =>
    ((node.state.knowledge.get pending.knowledgeId).filter (·.digest = pending.digest)).map
      fun record => (pending.knowledgeId, record)

/-- Add a record to a batch with room that has no reason to skip it. -/
def offer (limit : ℕ)
    (skip : Finset String → String × StoredKnowledge → Bool)
    (offered : List KnowledgeEnvelope × Finset String) (entry : String × StoredKnowledge) :
    Except HermesError (List KnowledgeEnvelope × Finset String) :=
  if offered.1.length = limit ∨ skip offered.2 entry = true then .ok offered
  else do
    let envelope ← node.relayEnvelope entry.2 (entry.2.bestPath.contains peerId)
    return (offered.1 ++ [envelope], insert entry.1 offered.2)

/-- First what is queued, then what the peer is not known to have. -/
def outboundBatch (requestedLimit : ℕ) :
    Except HermesError (List KnowledgeEnvelope) := do
  let peer ← node.requirePeer peerId
  if !node.canSend ∨ requestedLimit = 0 then
    return []
  else do
    let limit := min requestedLimit maxOutboundBatch
    let offered ← (node.pendingFor peerId).foldlM (node.offer peerId limit fun _ _ => false) ([], ∅)
    if offered.1.length < limit then do
      let offered ← node.state.knowledge.sortedPairs.foldlM
        (node.offer peerId limit fun included entry =>
          entry.1 ∈ included || peer.knownDigests.get entry.1 = some entry.2.digest) offered
      return offered.1
    else return offered.1

/-- Read one acknowledgement of a record that the node still holds. -/
def acceptAcknowledgement (accepted : HashMap String String)
    (acknowledgement : KnowledgeDigest) : Except HermesError (HashMap String String) := do
  validateKnowledgeDigest acknowledgement
  let current ← okOr (node.state.knowledge.get acknowledgement.knowledgeId)
    (.invalid "acknowledgement references unknown knowledge")
  failIf (current.digest ≠ acknowledgement.digest)
    (.invalid "acknowledgement digest is stale or false")
  return accepted.insert acknowledgement.knowledgeId acknowledgement.digest

/-- What `acknowledge` checks, and the digests it accepts. -/
def checkAcknowledgements
    (acknowledgements : List KnowledgeDigest) :
    Except HermesError (PeerState × HashMap String String) := do
  let peer ← node.requirePeer authenticatedPeer
  failIf (maxOutboundBatch < acknowledgements.length) (.limit "acknowledgement batch")
  let accepted ← acknowledgements.foldlM node.acceptAcknowledgement .empty
  return (peer, accepted)

/-- `BTreeMap::extend`. -/
def extendDigests (known accepted : HashMap String String) : HashMap String String :=
  accepted.sortedPairs.foldl (fun known entry => known.insert entry.1 entry.2) known

def acknowledge (acknowledgements : List KnowledgeDigest)
    (receivedAtMs : ℕ) : Op Unit := do
  let node ← get
  let found ← node.checkAcknowledgements authenticatedPeer acknowledgements
  modify (setPeer authenticatedPeer { found.1 with
    lastSyncMs := some receivedAtMs
    knownDigests := extendDigests found.1.knownDigests found.2 })
  modify fun node => node.setPending (node.state.pendingOutbound.filter fun pending =>
    pending.peerId ≠ authenticatedPeer || found.2.get pending.knowledgeId ≠ some pending.digest)

/-- What `receive` checks, and the authority of the author. -/
def checkEnvelope (envelope : KnowledgeEnvelope) :
    Except HermesError (PeerState × SignatureAuthority) := do
  let peer ← node.requirePeer authenticatedPeer
  validateEnvelopeShape envelope
  failIf (envelope.relayPeerId ≠ authenticatedPeer ∨
    envelope.path.getLast? ≠ some authenticatedPeer)
    (.unauthorized "transport peer does not match the signed relay path")
  failIf (envelope.relayKeyId ≠ peer.relayKeyId)
    (.unauthorized "relay key is not the key pinned for this peer")
  failIf (node.state.localPeerId ∈ envelope.path)
    (.invalid "gossip path loops through the receiving node")
  verifyAuthored envelope.authored node.keyring
  verifyRelay envelope node.keyring
  let authority ← okOr (node.keyring.authority envelope.authored.authorKeyId)
    (.unauthorized "author key is unknown")
  failIf (envelope.authored.item.payload.isSkill ∧ authority ≠ .operator)
    (.unauthorized "operator-created skill lacks operator authority")
  return (peer, authority)

/-- The first item of which the peer is known to have another digest than the node. -/
def divergence : Option KnowledgeDigest :=
  (node.state.peers.get peerId).bind fun peer =>
    peer.knownDigests.sortedPairs.findSome? fun entry =>
      ((node.state.knowledge.get entry.1).filter (·.digest ≠ entry.2)).map
        fun record => ⟨entry.1, record.digest⟩

def receive (envelope : KnowledgeEnvelope) (receivedAtMs : ℕ) :
    Op MergeOutcome := do
  let node ← get
  let found ← node.checkEnvelope authenticatedPeer envelope
  let digest := envelope.authored.digest
  modify (setPeer authenticatedPeer { found.1 with
    lastSyncMs := some receivedAtMs
    knownDigests := found.1.knownDigests.insert envelope.authored.item.id digest })
  let outcome ← mergeRecord ⟨envelope.authored, digest, envelope.path⟩ found.2
    (some authenticatedPeer)
  modify fun node =>
    if node.canSend then
      match node.divergence authenticatedPeer with
      | some entry => node.schedule authenticatedPeer entry.knowledgeId entry.digest
      | none => node
    else node
  return outcome

end HermesNode

end Cthuwu.Hermes

/-! ## The stored state -/

namespace Cthuwu.Hermes

variable [Hashing]

def validateDigest (entry : String × String) : Except HermesError Unit := do
  validateHexDigest entry.1 "knowledge ID"
  validateHexDigest entry.2 "knowledge digest"

variable (state : HermesState) (keyring : TrustedKeyring)

def validatePeer (entry : String × PeerState) :
    Except HermesError Unit := do
  validateId entry.1 "peer map key"
  validateId entry.2.peerId "peer ID"
  validateId entry.2.relayKeyId "peer relay key ID"
  failIf (entry.1 ≠ entry.2.peerId ∨ entry.2.peerId = state.localPeerId)
    (.invalid "peer map identity is inconsistent")
  failIf ((keyring.authority entry.2.relayKeyId).isNone)
    (.unauthorized "persisted peer relay key is no longer trusted")
  failIf (maxKnowledgeItems < entry.2.knownDigests.len) (.limit "peer digest count")
  entry.2.knownDigests.sortedPairs.forM validateDigest

def validateRecord (entry : String × StoredKnowledge) :
    Except HermesError Unit := do
  validateHexDigest entry.1 "knowledge map key"
  failIf (entry.1 ≠ entry.2.authored.item.id)
    (.invalid "knowledge map key does not match the signed item")
  verifyAuthored entry.2.authored keyring
  failIf (entry.2.authored.digest ≠ entry.2.digest)
    (.invalid "stored knowledge digest does not match its signed body")
  validatePath entry.2.bestPath
  failIf (entry.2.authored.item.payload.isSkill ∧
    keyring.authority entry.2.authored.authorKeyId ≠ some .operator)
    (.unauthorized "persisted skill lacks operator authority")

/-- What a store checks of an entry of the queue, apart from its repetition. -/
def validatePending (pending : PendingOutbound) :
    Except HermesError Unit := do
  validateId pending.peerId "pending peer ID"
  validateHexDigest pending.knowledgeId "pending knowledge ID"
  validateHexDigest pending.digest "pending digest"
  failIf (!state.peers.contains pending.peerId)
    (.invalid "pending outbound references an unknown peer")
  let record ← okOr (state.knowledge.get pending.knowledgeId)
    (.invalid "pending outbound references missing knowledge")
  failIf (record.digest ≠ pending.digest) (.invalid "pending outbound digest is stale")

def validateState : Except HermesError Unit := do
  failIf (state.schemaVersion ≠ 1)
    (.invalid ("unsupported state schema version " ++ toString state.schemaVersion))
  validateId state.localPeerId "local peer ID"
  validateId state.localRelayKeyId "local relay key ID"
  failIf ((keyring.authority state.localRelayKeyId).isNone)
    (.unauthorized "persisted local relay key is no longer trusted")
  failIf (maxGossipPeers < state.peers.len) (.limit "peer count")
  failIf (maxKnowledgeItems < state.knowledge.len) (.limit "knowledge item count")
  failIf (maxPendingOutbound < state.pendingOutbound.length) (.limit "pending outbound count")
  state.peers.sortedPairs.forM (validatePeer state keyring)
  state.knowledge.sortedPairs.forM (validateRecord keyring)
  let _ ← insertAll (validatePending state) (fun pending => (pending.peerId, pending.knowledgeId))
    (.invalid "duplicate pending outbound entry") (fun _ _ => .ok ()) ∅ state.pendingOutbound
  return ()

/-! ## Saving and loading -/

/-- `serde_json::to_vec_pretty` and `serde_json::from_slice`. -/
structure Codec where
  encode : HermesState → List UInt8
  decode : List UInt8 → Option HermesState

/-- `HermesStore::save` : the bytes it writes. -/
def save (codec : Codec) (node : HermesNode) : Except HermesError (List UInt8) := do
  validateState node.state node.keyring
  failIf (maxStateBytes < (codec.encode node.state).length) (.limit "serialized state size")
  return codec.encode node.state

/-- `HermesStore::load` of a file that is there. -/
def load (codec : Codec) (bytes : List UInt8) (keyring : TrustedKeyring) :
    Except HermesError HermesState := do
  failIf (maxStateBytes < bytes.length) (.limit "serialized state size")
  let state ← okOr (codec.decode bytes) (.invalid "Hermes state JSON is invalid")
  validateState state keyring
  return state

end Cthuwu.Hermes
