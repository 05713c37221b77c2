import Cthuwu.Lib.Json
import Cthuwu.Lib.Fallible
import Cthuwu.TokenEye.Address

/-!
# Agents as the sidecar finds them

The sidecar reads what the identity registry says of an agent at a block, and classifies it : it is
this Tentacle, it may be, or it is another one. The agent's owner writes all of the agent's texts.
-/

namespace Cthuwu.Discovery

open TokenEye (Address)

abbrev Bytes := List UInt8

/-- A uint256 that names an agent. -/
abbrev AgentId := BitVec 256

abbrev Hash := BitVec 256

def utf8 (value : String) : Bytes :=
  value.toUTF8.data.toList

def allegianceValue : String := "uwu-tentacle-v1"

def protocolValue : String := "1"

def maxUriBytes : ℕ := 8 * 1024

def maxTentacleIdBytes : ℕ := 128

/-- What the sidecar uses of its platform. -/
structure Platform where
  hexToString : Bytes → Option String
  fromBase64 : String → Bytes
  /-- `JSON.parse` of the text of some bytes. -/
  parseJson : Bytes → Option Json

/-- An error of the sidecar : one that may pass, or one that will not. -/
inductive SignerError
  | recoverable (code message : String)
  | permanent (code message : String)

/-! ## Reading an agent -/

/-- What the registry says of an agent, with whether it authorizes the Tentacle's wallet. -/
structure AgentState where
  owner : Address
  agentURI : String
  agentWallet : Address
  allegiance : Bytes
  protocol : Bytes
  tentacleId : Bytes
  authorized : Bool

structure Metadata where
  hex : Bytes
  utf8 : Option String

structure Inspected where
  agentId : AgentId
  owner : Address
  agentURI : String
  agentWallet : Address
  authorized : Bool
  allegiance : Metadata
  protocol : Metadata
  tentacleId : Metadata
  declaresTentacleAllegiance : Bool
  protocolCompatible : Bool
  walletVerified : Bool
  observedBlock : ℕ
  observedBlockHash : Hash

variable (platform : Platform)

def decodeMetadata (value : Bytes) : Metadata :=
  { hex := value
    utf8 := platform.hexToString value }

/-- An agent without an owner does not exist. -/
def inspectAgentAtBlock (wallet : Address) (agentId : AgentId) (blockNumber : ℕ) (blockHash : Hash)
    (state : Option AgentState) : Except SignerError (Option Inspected) := do
  match state with
  | none => return none
  | some state => do
    failIf (maxUriBytes < state.agentURI.utf8ByteSize)
      (.permanent "hostile_profile" "on-chain agentURI exceeds the supported bound")
    return some
      { agentId := agentId
        owner := state.owner
        agentURI := state.agentURI
        agentWallet := state.agentWallet
        authorized := state.authorized
        allegiance := decodeMetadata platform state.allegiance
        protocol := decodeMetadata platform state.protocol
        tentacleId := decodeMetadata platform state.tentacleId
        declaresTentacleAllegiance := state.allegiance = utf8 allegianceValue
        protocolCompatible := state.protocol = utf8 protocolValue
        walletVerified := state.agentWallet = wallet ∧ state.agentWallet ≠ 0
        observedBlock := blockNumber
        observedBlockHash := blockHash }

/-! ## What a profile says -/

def dataJsonPrefix : String := "data:application/json;base64,"

def decodeBoundedDataJson (value : String) : Option Json.Record :=
  if ¬dataJsonPrefix.toList <+: value.toList ∨ maxUriBytes < value.utf8ByteSize then none
  else
    let decoded := platform.fromBase64 (String.ofList (value.toList.drop dataJsonPrefix.length))
    if maxUriBytes < decoded.length then none
    else (platform.parseJson decoded).bind Json.asRecord

/-- `/^xmtp:\/\/([0-9a-f]{64})$/`. -/
def xmtpInbox (endpoint : String) : Option String :=
  let id := endpoint.toList.drop "xmtp://".length
  if "xmtp://".toList <+: endpoint.toList ∧ id.length = 64 ∧
      id.all (fun c => c.isDigit || ('a' ≤ c && c ≤ 'f')) = true then
    some (String.ofList id)
  else none

structure ProfileEvidence where
  tentacleIds : List String
  inboxIds : List String

def ProfileEvidence.none : ProfileEvidence :=
  { tentacleIds := []
    inboxIds := [] }

def ProfileEvidence.append (evidence other : ProfileEvidence) : ProfileEvidence :=
  { tentacleIds := evidence.tentacleIds ++ other.tentacleIds
    inboxIds := evidence.inboxIds ++ other.inboxIds }

/-- A record with an endpoint, or an older one with a URI. A null endpoint is none. -/
def serviceEndpoint (service : Json.Record) : Option String :=
  match service.get "endpoint" with
  | none | some .null => (service.get "uri").bind Json.asString
  | some endpoint => endpoint.asString

def visitRecord (record : Json.Record) : ProfileEvidence :=
  { tentacleIds := ((record.get "tentacleId").bind Json.asString).toList.filter
      (·.utf8ByteSize ≤ maxTentacleIdBytes)
    inboxIds := ((record.get "xmtp").bind Json.asRecord |>.bind (·.get "endpoint")
      |>.bind Json.asString |>.bind xmtpInbox).toList }

/-- What a service says. `manifest` is what its manifest does, at the top. -/
def visitService (manifest : String → ProfileEvidence) (service : Json) : ProfileEvidence :=
  match service.asRecord with
  | none => .none
  | some service =>
    match serviceEndpoint service with
    | none => .none
    | some endpoint =>
      let name := (service.get "name").bind Json.asString
      let inbox : ProfileEvidence :=
        if name = some "CTHUWU-XMTP" ∨ name = some "XMTP" then
          { tentacleIds := []
            inboxIds := (xmtpInbox endpoint).toList }
        else .none
      if name = some "CTHUWU" then inbox.append (manifest endpoint) else inbox

/-- What a record and its services say. -/
def visit (manifest : String → ProfileEvidence) (record : Json.Record) : ProfileEvidence :=
  match (record.get "services").bind Json.asArray with
  | none => visitRecord record
  | some services =>
    if 32 < services.length then visitRecord record
    else services.foldl (fun evidence service => evidence.append (visitService manifest service))
      (visitRecord record)

def profileIdentityEvidence (agentURI : String) : ProfileEvidence :=
  match decodeBoundedDataJson platform agentURI with
  | none => .none
  | some profile =>
    visit (fun endpoint =>
      (decodeBoundedDataJson platform endpoint).elim .none (visit fun _ => .none)) profile

/-! ## Classifying an agent -/

structure ClassificationContext where
  tentacleId : String
  xmtpInboxId : String
  deriving DecidableEq

structure Classification where
  identityEvidence : List String
  sameTentacle : Bool
  ambiguousTentacle : Bool

structure Candidate where
  agent : Inspected
  classification : Option Classification

variable (agent : Inspected) (context : ClassificationContext)

def Inspected.metadataTentacleId : Option String :=
  agent.tentacleId.utf8.filter (· ≠ "")

def Inspected.exactMetadataTentacle : Bool :=
  agent.metadataTentacleId = some context.tentacleId

def Inspected.exactProfileTentacle : Bool :=
  context.tentacleId ∈ (profileIdentityEvidence platform agent.agentURI).tentacleIds

def Inspected.exactXmtp : Bool :=
  context.xmtpInboxId ∈ (profileIdentityEvidence platform agent.agentURI).inboxIds

def Inspected.conflictingTentacleId : Bool :=
  agent.metadataTentacleId.any (· ≠ context.tentacleId) ||
    (profileIdentityEvidence platform agent.agentURI).tentacleIds.any (· ≠ context.tentacleId)

def Inspected.eligibleMarkers : Bool :=
  agent.declaresTentacleAllegiance && agent.protocolCompatible

def Inspected.currentRelationship : Bool :=
  agent.authorized || agent.walletVerified

def Inspected.identityEvidence :
    List String :=
  let evidence :=
    (if agent.exactMetadataTentacle context = true then ["exact-tentacle-id"] else []) ++
    (if agent.exactProfileTentacle platform context = true then ["exact-profile-tentacle-id"]
      else []) ++
    (if agent.exactXmtp platform context = true then ["exact-xmtp-endpoint"] else []) ++
    (if (agent.eligibleMarkers && agent.currentRelationship) = true then ["legacy-allegiance"]
      else [])
  if agent.currentRelationship = true ∧ evidence = [] then ["wallet-only"] else evidence

def Inspected.sameTentacle : Bool :=
  agent.currentRelationship && !agent.conflictingTentacleId platform context &&
    (agent.exactMetadataTentacle context || agent.exactProfileTentacle platform context ||
      (agent.eligibleMarkers && agent.exactXmtp platform context))

def Inspected.provenUnrelated : Bool :=
  agent.conflictingTentacleId platform context && !agent.exactMetadataTentacle context &&
    !agent.exactProfileTentacle platform context && !agent.exactXmtp platform context

/-- A bare relationship may be a registration whose journals are lost : only another identity proves
it unrelated. -/
def Inspected.ambiguousTentacle : Bool :=
  !agent.sameTentacle platform context && !agent.provenUnrelated platform context &&
    (agent.currentRelationship || agent.eligibleMarkers || agent.exactMetadataTentacle context ||
      agent.exactProfileTentacle platform context || agent.exactXmtp platform context)

def classifyDiscoveredAgent (candidate : Inspected) (context : ClassificationContext) :
    Candidate :=
  { agent := candidate
    classification := some
      { identityEvidence := candidate.identityEvidence platform context
        sameTentacle := candidate.sameTentacle platform context
        ambiguousTentacle := candidate.ambiguousTentacle platform context } }

def Candidate.kept (candidate : Candidate) : Bool :=
  candidate.agent.authorized || candidate.agent.walletVerified ||
    candidate.classification.any (·.sameTentacle) ||
    candidate.classification.any (·.ambiguousTentacle)

end Cthuwu.Discovery
