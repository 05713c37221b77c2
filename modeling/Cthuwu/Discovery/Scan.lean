import Cthuwu.Lib.Window
import Cthuwu.Discovery.Agent

/-!
# Scanning the logs

What the identity registry has logged, block by block, and what it answers at a block. Its logs are
read in parts, and only as many as the sidecar can bear.

`discoverAgents` finds the agents that the history associates with a wallet, from the start of the
registry or from a checkpoint. What it has found goes into a journal, the checkpoint of the next
discovery.
-/

namespace Cthuwu.Discovery

open TokenEye (Address)

def startBlock : ℕ := 41663783
def logBlockSpan : ℕ := 10000
def maxDiscoveryRawLogsPerChunk : ℕ := 4096
def maxDiscoveryLogs : ℕ := 4096

inductive EventName
  | registered
  | transfer
  | approval
  | approvalForAll
  | metadataSet
  deriving DecidableEq

inductive Event
  | registered (agentId : AgentId) (owner : Address)
  | transfer (recipient : Address) (tokenId : AgentId)
  | approval (approved : Address) (tokenId : AgentId)
  | approvalForAll (owner operator : Address) (approved : Bool)
  | metadataSet (agentId : AgentId) (metadataKey : String) (metadataValue : Bytes)

def Event.name : Event → EventName
  | registered _ _ => .registered
  | transfer _ _ => .transfer
  | approval _ _ => .approval
  | approvalForAll _ _ _ => .approvalForAll
  | metadataSet _ _ _ => .metadataSet

structure Log where
  block : ℕ
  transactionHash : Option Hash
  event : Event

/-- The canonical chain, as far as discovery reads it. -/
structure Chain where
  logs : List Log
  blockHash : ℕ → Hash
  /-- The hash of an indexed metadata key. -/
  keyTopic : String → BitVec 256
  isApprovedForAll : (block : ℕ) → (owner operator : Address) → Bool
  agent : (block : ℕ) → (wallet : Address) → AgentId → Option AgentState
  /-- The sender of a transaction, and its nonce. -/
  transaction : Hash → Address × ℕ

def addressTopic (address : Address) : BitVec 256 :=
  address.setWidth 256

/-- The second indexed argument of an event. -/
def Event.topic (keyTopic : String → BitVec 256) : Event → BitVec 256
  | registered _ owner => addressTopic owner
  | transfer recipient _ => addressTopic recipient
  | approval approved _ => addressTopic approved
  | approvalForAll _ operator _ => addressTopic operator
  | metadataSet _ metadataKey _ => keyTopic metadataKey

local instance lawfulTopic : LawfulBEq (BitVec 256) := inferInstance

/-- `eth_getLogs` of a range, with a choice of events and of their second arguments. -/
def Chain.getLogs (chain : Chain) (eventTopics : List EventName) (topicValues : List (BitVec 256))
    (range : Range) : List Log :=
  chain.logs.filter fun log =>
    range.Has log.block ∧ log.event.name ∈ eventTopics ∧
      log.event.topic chain.keyTopic ∈ topicValues

/-- One part of a range. `budget` counts the logs that were accepted. -/
def readChunk (chain : Chain) (eventTopics : List EventName) (topicValues : List (BitVec 256))
    (accept : Event → Bool) (read : List Log × ℕ) (range : Range) :
    Except SignerError (List Log × ℕ) := do
  let response := chain.getLogs eventTopics topicValues range
  failIf (maxDiscoveryRawLogsPerChunk < response.length)
    (.permanent "candidate_limit" "one bounded identity discovery chunk returned too many logs")
  let decoded := response.filter (accept ·.event)
  let budget := read.2 + decoded.length
  failIf (maxDiscoveryLogs < budget)
    (.permanent "candidate_limit"
      "bounded identity discovery log budget was exceeded; select an agent ID explicitly")
  return (read.1 ++ decoded, budget)

/-- The accepted logs from a block to the observed one. The parts are read by several workers, and
their logs are put in order. -/
def getLogsChunked (chain : Chain) (eventTopics : List EventName)
    (topicValues : List (BitVec 256)) (accept : Event → Bool) (budget : ℕ)
    (observedBlockNumber firstBlock : ℕ) : Except SignerError (List Log × ℕ) :=
  (parts (logBlockSpan - 1) firstBlock observedBlockNumber).foldlM
    (readChunk chain eventTopics topicValues accept) ([], budget)

variable {chain : Chain} {eventTopics : List EventName} {topicValues : List (BitVec 256)}
  {accept : Event → Bool} {budget budget' observedBlockNumber firstBlock : ℕ} {logs : List Log}

theorem readChunk_ok {read read' : List Log × ℕ} {range : Range}
    (h : readChunk chain eventTopics topicValues accept read range = .ok read') :
    read'.1 = read.1 ++ (chain.getLogs eventTopics topicValues range).filter (accept ·.event) := by
  unfold readChunk at h
  simp only [except_bind_ok, exists_unit, except_pure_ok] at h
  obtain ⟨-, -, rfl⟩ := h
  rfl

/-- The logs that are read are those that are accepted, of the whole range. -/
theorem mem_getLogsChunked (h : getLogsChunked chain eventTopics topicValues accept budget
      observedBlockNumber firstBlock = .ok (logs, budget')) {log : Log} :
    log ∈ logs ↔ log ∈ chain.logs ∧ firstBlock ≤ log.block ∧ log.block ≤ observedBlockNumber ∧
      log.event.name ∈ eventTopics ∧ log.event.topic chain.keyTopic ∈ topicValues ∧
      accept log.event = true := by
  have hfold : ∀ (ranges : List Range) (read read' : List Log × ℕ),
      ranges.foldlM (readChunk chain eventTopics topicValues accept) read = .ok read' →
      (log ∈ read'.1 ↔ log ∈ read.1 ∨ (log ∈ chain.logs ∧
        (∃ range ∈ ranges, range.Has log.block) ∧ log.event.name ∈ eventTopics ∧
        log.event.topic chain.keyTopic ∈ topicValues ∧ accept log.event = true)) := by
    intro ranges
    induction ranges with
    | nil =>
      intro read read' h
      obtain rfl := Except.ok.inj h
      simp
    | cons range ranges ih =>
      intro read read' h
      rw [List.foldlM_cons] at h
      obtain ⟨next, hnext, h⟩ := except_bind_ok.mp h
      rw [ih next read' h, readChunk_ok hnext, List.mem_append, List.mem_filter]
      unfold Chain.getLogs
      rw [List.mem_filter, decide_eq_true_eq, List.exists_mem_cons_iff]
      tauto
  rw [hfold _ _ _ h, exists_parts_has]
  simp only [List.not_mem_nil, false_or, and_assoc]

end Cthuwu.Discovery

/-! ## Discovery -/

namespace Cthuwu.Discovery

open TokenEye (Address)

def maxCandidates : ℕ := 64
def maxDiscoveryIds : ℕ := 256
def maxOperatorOwners : ℕ := 64
def recentDiscoveryBlocks : ℕ := 20000

inductive Scope
  | recent
  | exhaustive
  deriving DecidableEq

/-- The block that a discovery observes. -/
inductive Observation
  | finalized
  | latest

structure WalletRegistration where
  agentId : AgentId
  transactionHash : Hash
  deriving DecidableEq

structure MintAuthorization where
  wallet : Address
  tentacleId : String
  xmtpInboxId : String
  fromBlock : ℕ
  throughBlock : ℕ
  throughBlockHash : Hash
  candidateSetHash : Hash
  fingerprint : String

/-- What the fingerprint of a journal covers. -/
structure JournalBase where
  wallet : Address
  tentacleId : String
  xmtpInboxId : String
  fromBlock : ℕ
  throughBlock : ℕ
  throughBlockHash : Hash
  associatedAgentIds : List AgentId
  walletRegistrations : List WalletRegistration
  operatorOwners : List Address

structure DiscoveryJournal extends JournalBase where
  checkpointFingerprint : String
  mintAuthorization : Option MintAuthorization

structure DiscoveryInternalState where
  associatedAgentIds : List AgentId
  walletRegistrations : List WalletRegistration
  operatorOwners : List Address

structure DiscoveryResult where
  complete : Bool
  scope : Scope
  fromCheckpoint : Bool
  fromBlock : ℕ
  observedBlockNumber : ℕ
  observedBlockHash : Hash
  matchedRegistrationAgentIds : List AgentId
  candidates : List Candidate
  internal : DiscoveryInternalState

/-! ## Associations -/

/-- A wallet in the metadata of an agent : twenty bytes. -/
def metadataAddress (value : Bytes) : Option Address :=
  if value.length = 20 then
    some (BitVec.ofNat 160 (value.foldl (fun number byte => number * 256 + byte.toNat) 0))
  else none

/-- The logs that concern a wallet. -/
def concerns (wallet : Address) : Event → Bool
  | .registered _ owner => owner = wallet
  | .transfer recipient _ => recipient = wallet
  | .approval approved _ => approved = wallet
  | .approvalForAll _ operator _ => operator = wallet
  | .metadataSet _ metadataKey metadataValue =>
    metadataKey = "agentWallet" && metadataAddress metadataValue = some wallet

def registeredId : Event → Option AgentId
  | .registered agentId _ => some agentId
  | _ => none

def transferredId : Event → Option AgentId
  | .transfer _ tokenId => some tokenId
  | _ => none

def approvedId : Event → Option AgentId
  | .approval _ tokenId => some tokenId
  | _ => none

def walletMetadataId : Event → Option AgentId
  | .metadataSet agentId _ _ => some agentId
  | _ => none

/-- The logs of the agents that an owner has had. -/
def reaches (owner : Address) : Event → Bool
  | .registered _ registrant => registrant = owner
  | .transfer recipient _ => recipient = owner
  | _ => false

def ownedId : Event → Option AgentId
  | .registered agentId _ => some agentId
  | .transfer _ tokenId => some tokenId
  | _ => none

def addDiscoveryId (ids : List AgentId) (id : AgentId) : Except SignerError (List AgentId) := do
  let ids := if id ∈ ids then ids else ids ++ [id]
  failIf (maxDiscoveryIds < ids.length)
    (.permanent "candidate_limit"
      ("wallet has too many historical identity associations for bounded discovery; " ++
        "select an agent ID explicitly"))
  return ids

def addDiscoveryIds (ids added : List AgentId) : Except SignerError (List AgentId) :=
  added.foldlM addDiscoveryId ids

/-- The owners that have ever approved the wallet for all of their agents, and those that do so in
the range that is read. -/
structure Owners where
  all : List Address
  granted : List Address

def addOperatorOwner (owners : Owners) (event : Event) : Except SignerError Owners := do
  match event with
  | .approvalForAll owner _ approved => do
    let all := if owner ∈ owners.all then owners.all else owners.all ++ [owner]
    let granted := if approved = true then owners.granted ++ [owner] else owners.granted
    failIf (maxOperatorOwners < all.length)
      (.permanent "candidate_limit"
        "wallet has too many historical ERC-721 operator owners for bounded discovery")
    return { all := all, granted := granted }
  | _ => return owners

/-- What one owner's approval associates. A new approval may reveal agents from before the range. -/
def addOwner (chain : Chain) (wallet : Address) (observedBlockNumber firstBlock : ℕ)
    (granted : List Address) (found : List AgentId × ℕ) (owner : Address) :
    Except SignerError (List AgentId × ℕ) := do
  let (ids, budget) := found
  if ¬chain.isApprovedForAll observedBlockNumber owner wallet = true then return (ids, budget)
  else do
    let ownerFirstBlock := if owner ∈ granted then startBlock else firstBlock
    let (ownerLogs, budget) ← getLogsChunked chain [.registered, .transfer] [addressTopic owner]
      (reaches owner) budget observedBlockNumber ownerFirstBlock
    let ids ← addDiscoveryIds ids (ownerLogs.filterMap (ownedId ·.event))
    return (ids, budget)

/-! ## Candidates and registrations -/

/-- The agents that exist, and that discovery is to report. -/
def addCandidate (platform : Platform) (chain : Chain) (wallet : Address)
    (context : Option ClassificationContext) (observedBlockNumber : ℕ)
    (candidates : List Candidate) (id : AgentId) : Except SignerError (List Candidate) := do
  let inspected ← inspectAgentAtBlock platform wallet id observedBlockNumber
    (chain.blockHash observedBlockNumber) (chain.agent observedBlockNumber wallet id)
  match inspected with
  | none => return candidates
  | some inspected => do
    have candidate : Candidate := match context with
      | none => { agent := inspected, classification := none }
      | some context => classifyDiscoveredAgent platform inspected context
    let candidates := if candidate.kept = true then candidates ++ [candidate] else candidates
    failIf (maxCandidates < candidates.length)
      (.permanent "candidate_limit"
        ("wallet has too many current candidate identities for bounded discovery; " ++
          "select an agent ID explicitly"))
    return candidates

/-- A registration event with its transaction. -/
def addRegistration (registrations : List WalletRegistration) (log : Log) :
    Except SignerError (List WalletRegistration) := do
  match log.event with
  | .registered agentId _ => do
    let transactionHash ← okOr log.transactionHash
      (.recoverable "discovery_outcome"
        "provider omitted transaction provenance for a registration event")
    let registration := { agentId := agentId, transactionHash := transactionHash }
    return if registration ∈ registrations then registrations
      else registrations ++ [registration]
  | _ => return registrations

def WalletRegistration.le (registration other : WalletRegistration) : Bool :=
  registration.agentId < other.agentId || (registration.agentId = other.agentId &&
      registration.transactionHash ≤ other.transactionHash)

/-- The agents that the transaction with a nonce has registered. -/
def matchedRegistrations (chain : Chain) (wallet : Address) (registrationNonce : Option ℕ)
    (registrations : List WalletRegistration) : List AgentId :=
  match registrationNonce with
  | none => []
  | some nonce =>
    ((registrations.filter fun registration =>
      chain.transaction registration.transactionHash = (wallet, nonce)).map (·.agentId)).dedup

/-! ## Discovery -/

structure DiscoveryRequest where
  wallet : Address
  registrationNonce : Option ℕ
  scope : Scope
  context : Option ClassificationContext
  observation : Observation

def Observation.text : Observation → String
  | finalized => "finalized"
  | latest => "latest"

def DiscoveryRequest.firstBlock (request : DiscoveryRequest) (observedBlockNumber : ℕ) : ℕ :=
  match request.scope with
  | .recent =>
    if recentDiscoveryBlocks < observedBlockNumber - startBlock + 1 then
      observedBlockNumber - recentDiscoveryBlocks + 1
    else startBlock
  | .exhaustive => startBlock

/-- A checkpoint of another request is not used. -/
def DiscoveryRequest.compatible (request : DiscoveryRequest) (observedBlockNumber : ℕ)
    (checkpoint : DiscoveryJournal) : Prop :=
  request.scope = .exhaustive ∧ checkpoint.wallet = request.wallet ∧ request.context = some
      { tentacleId := checkpoint.tentacleId
        xmtpInboxId := checkpoint.xmtpInboxId } ∧
    checkpoint.fromBlock = startBlock ∧ checkpoint.throughBlock ≤ observedBlockNumber

instance (request : DiscoveryRequest) (observedBlockNumber : ℕ) (checkpoint : DiscoveryJournal) :
    Decidable (request.compatible observedBlockNumber checkpoint) :=
  inferInstanceAs (Decidable (_ ∧ _))

def checkCheckpoint (chain : Chain) (request : DiscoveryRequest) (observedBlockNumber : ℕ)
    (checkpoint : DiscoveryJournal) : Except SignerError Unit := do
  failIf (¬request.compatible observedBlockNumber checkpoint)
    (.recoverable "discovery_checkpoint"
      "durable identity-discovery checkpoint is incompatible with this exhaustive request")
  failIf (chain.blockHash checkpoint.throughBlock ≠ checkpoint.throughBlockHash)
    (.recoverable "discovery_checkpoint_reorg"
      "durable identity-discovery checkpoint is no longer canonical")

structure Known where
  firstBlock : ℕ
  fromBlock : ℕ
  ids : List AgentId
  owners : List Address
  registrations : List WalletRegistration

def known (request : DiscoveryRequest) (observedBlockNumber : ℕ) : Option DiscoveryJournal → Known
  | none =>
    { firstBlock := request.firstBlock observedBlockNumber
      fromBlock := request.firstBlock observedBlockNumber
      ids := []
      owners := []
      registrations := [] }
  | some checkpoint =>
    { firstBlock := checkpoint.throughBlock + 1
      fromBlock := checkpoint.fromBlock
      ids := checkpoint.associatedAgentIds
      owners := checkpoint.operatorOwners
      registrations := checkpoint.walletRegistrations }

def discoverAgents (platform : Platform) (chain : Chain) (request : DiscoveryRequest)
    (checkpoint : Option DiscoveryJournal) (observedBlockNumber : ℕ) :
    Except SignerError DiscoveryResult := do
  failIf (observedBlockNumber < startBlock)
    (.recoverable "discovery_observation"
      s!"provider did not return a usable {request.observation.text} ERC-8004 discovery block")
  checkpoint.forM (checkCheckpoint chain request observedBlockNumber)
  let known := known request observedBlockNumber checkpoint
  let (combined, budget) ← getLogsChunked chain
    [.registered, .transfer, .approval, .approvalForAll, .metadataSet]
    [addressTopic request.wallet, chain.keyTopic "agentWallet"]
    (concerns request.wallet) 0 observedBlockNumber known.firstBlock
  let ids ← addDiscoveryIds known.ids (combined.filterMap (registeredId ·.event))
  let ids ← addDiscoveryIds ids (combined.filterMap (transferredId ·.event))
  let ids ← addDiscoveryIds ids (combined.filterMap (approvedId ·.event))
  let ids ← addDiscoveryIds ids (combined.filterMap (walletMetadataId ·.event))
  let owners ← (combined.map (·.event)).foldlM addOperatorOwner
    { all := known.owners, granted := [] }
  let (ids, _) ← owners.all.foldlM
    (addOwner chain request.wallet observedBlockNumber known.firstBlock owners.granted)
    (ids, budget)
  let ids := ids.mergeSort
  let candidates ← ids.foldlM
    (addCandidate platform chain request.wallet request.context observedBlockNumber) []
  let registrations ← combined.foldlM addRegistration known.registrations
  let registrations := registrations.mergeSort WalletRegistration.le
  failIf (maxDiscoveryIds < registrations.length)
    (.permanent "candidate_limit"
      "wallet has too many historical registrations for bounded recovery")
  let matchedRegistrationAgentIds :=
    matchedRegistrations chain request.wallet request.registrationNonce registrations
  failIf (1 < matchedRegistrationAgentIds.length)
    (.permanent "discovery_outcome"
      "one signer nonce unexpectedly produced multiple ERC-8004 identities")
  return {
    complete := request.scope = .exhaustive && known.fromBlock = startBlock
    scope := request.scope
    fromCheckpoint := checkpoint.isSome
    fromBlock := known.fromBlock
    observedBlockNumber := observedBlockNumber
    observedBlockHash := chain.blockHash observedBlockNumber
    matchedRegistrationAgentIds := matchedRegistrationAgentIds
    candidates := candidates
    internal :=
      { associatedAgentIds := ids
        walletRegistrations := registrations
        operatorOwners := owners.all.mergeSort } }

end Cthuwu.Discovery
