import Cthuwu.Discovery.Scan
import Cthuwu.Lib.Decimal

/-!
# The journal of discovery and its reader

A complete discovery is written down, with what it authorizes : a new registration, if nothing that
was found is this Tentacle or may be. The next discovery starts where the journal ends.

The supervisor checks each candidate that the sidecar reports against the registry's own bytes. It
accepts a candidate exactly when the two agree on it (`candidate_accepted_iff`).
-/

namespace Cthuwu.Discovery

open TokenEye (Address)

def maxDiscoveryJournalBytes : ℕ := 64 * 1024

/-- The fingerprints of a journal, and the length of its text. -/
structure Digests where
  checkpoint : JournalBase → String
  candidateSet : List Candidate → Hash
  authorization : MintAuthorization → String
  journalBytes : DiscoveryJournal → ℕ

def blocked (candidates : List Candidate) : Bool :=
  candidates.any fun candidate =>
    candidate.classification.any fun classification =>
      classification.sameTentacle || classification.ambiguousTentacle

def buildDiscoveryJournal (digests : Digests) (result : DiscoveryResult) (wallet : Address)
    (context : ClassificationContext) : DiscoveryJournal :=
  let base : JournalBase :=
    { wallet := wallet
      tentacleId := context.tentacleId
      xmtpInboxId := context.xmtpInboxId
      fromBlock := result.fromBlock
      throughBlock := result.observedBlockNumber
      throughBlockHash := result.observedBlockHash
      associatedAgentIds := result.internal.associatedAgentIds
      walletRegistrations := result.internal.walletRegistrations
      operatorOwners := result.internal.operatorOwners }
  let authorization : MintAuthorization :=
    { wallet := wallet
      tentacleId := context.tentacleId
      xmtpInboxId := context.xmtpInboxId
      fromBlock := base.fromBlock
      throughBlock := base.throughBlock
      throughBlockHash := base.throughBlockHash
      candidateSetHash := digests.candidateSet result.candidates
      fingerprint := "" }
  { base with
    checkpointFingerprint := digests.checkpoint base
    mintAuthorization :=
      if result.complete = true ∧ base.fromBlock = startBlock ∧
          ¬blocked result.candidates = true then
        some { authorization with fingerprint := digests.authorization authorization }
      else none }

def isControl (c : Char) : Bool :=
  c.toNat ≤ 0x1f || c.toNat = 0x7f

def incompleteJournal : SignerError :=
  .recoverable "discovery_checkpoint"
    "identity-discovery checkpoint is incomplete or does not match its provenance"

/-- A journal that is read back, with a fingerprint of its own. Its numbers and hashes have one
text each. -/
def parseDiscoveryJournal (digests : Digests) (journal : DiscoveryJournal) :
    Except SignerError DiscoveryJournal := do
  failIf (maxDiscoveryIds < journal.associatedAgentIds.length ∨ ¬journal.associatedAgentIds.Nodup)
    incompleteJournal
  failIf (maxDiscoveryIds < journal.walletRegistrations.length) incompleteJournal
  failIf (maxOperatorOwners < journal.operatorOwners.length ∨ (0 : Address) ∈ journal.operatorOwners)
    incompleteJournal
  failIf (journal.wallet = 0 ∨ journal.tentacleId = "" ∨
      maxTentacleIdBytes < journal.tentacleId.utf8ByteSize ∨
      journal.tentacleId.toList.any isControl = true ∨
      xmtpInbox ("xmtp://" ++ journal.xmtpInboxId) = none)
    incompleteJournal
  failIf (digests.checkpoint journal.toJournalBase ≠ journal.checkpointFingerprint)
    incompleteJournal
  return journal

def persistDiscoveryJournal (digests : Digests) (journal : DiscoveryJournal) :
    Except SignerError Unit :=
  failIf (maxDiscoveryJournalBytes < digests.journalBytes journal)
    (.permanent "discovery_journal" "identity-discovery checkpoint exceeds its bound")

/-! ## Chains of discoveries -/

/-- A wallet's journals : the first one of a scan from the start, then each one of a discovery that
starts from the one before, at any later block. -/
inductive Journaled (platform : Platform) (digests : Digests) (chain : Chain) (wallet : Address)
    (context : ClassificationContext) : DiscoveryJournal → Prop
  | first {request : DiscoveryRequest} {block : ℕ} {result : DiscoveryResult}
      (hrequest : request.wallet = wallet ∧ request.context = some context ∧
        request.scope = .exhaustive)
      (hfound : discoverAgents platform chain request none block = .ok result) :
      Journaled platform digests chain wallet context
        (buildDiscoveryJournal digests result wallet context)
  | next {request : DiscoveryRequest} {block : ℕ} {result : DiscoveryResult}
      {journal checkpoint : DiscoveryJournal}
      (hjournal : Journaled platform digests chain wallet context journal)
      (hsaved : persistDiscoveryJournal digests journal = .ok ())
      (hread : parseDiscoveryJournal digests journal = .ok checkpoint)
      (hrequest : request.wallet = wallet ∧ request.context = some context ∧
        request.scope = .exhaustive)
      (hfound : discoverAgents platform chain request (some checkpoint) block = .ok result) :
      Journaled platform digests chain wallet context
        (buildDiscoveryJournal digests result wallet context)

end Cthuwu.Discovery

namespace Cthuwu.Discovery

open TokenEye (Address)

def maxAgentUriBytes : ℕ := 8 * 1024

/-! ## Reading a candidate -/

def requiredString (value field : String) (maximum : ℕ) : Except String String := do
  failIf (maximum < value.utf8ByteSize ∨
      value.toList.any (fun c => c = '\r' || c = '\n' || c = '\x00') = true)
    s!"helper result field {field} is invalid"
  return value

def validateDecimal (value label : String) : Except String Unit := do
  failIf (value = "" ∨ 80 < value.utf8ByteSize) s!"{label} is empty or oversized"
  failIf (¬value.toList.all Char.isDigit = true) s!"{label} must be a decimal integer"
  failIf (value ≠ "0" ∧ value.toList.head? = some '0')
    s!"{label} must not contain leading zeroes"

def validateAgentId (value : String) : Except String Unit := do
  validateDecimal value "agent ID"
  failIf (78 < value.utf8ByteSize) "agent ID exceeds uint256"

/-- Bytes in hex, two digits each. -/
def requiredHex (value : Bytes) (field : String) (maximum : ℕ) : Except String Bytes := do
  failIf (maximum < 2 + 2 * value.length) s!"helper result field {field} is invalid"
  return value

/-- An agent as the supervisor reads it. Hexadecimal texts are the bytes they stand for. -/
structure VerifiedAgentState where
  owner : Address
  agentUri : String
  agentWallet : Address
  authorized : Bool
  allegianceHex : Bytes
  protocolHex : Bytes
  tentacleIdHex : Bytes
  declaresTentacleAllegiance : Bool
  protocolCompatible : Bool
  walletVerified : Bool

def parseVerified (expectedWallet : Address) (value : Inspected) :
    Except String VerifiedAgentState := do
  let agentUri ← requiredString value.agentURI "agentURI" maxAgentUriBytes
  let allegianceHex ← requiredHex value.allegiance.hex "hex" (2 * 256 + 2)
  let protocolHex ← requiredHex value.protocol.hex "hex" (2 * 256 + 2)
  let tentacleIdHex ← requiredHex value.tentacleId.hex "hex" (2 * 256 + 2)
  failIf (value.declaresTentacleAllegiance ≠ decide (allegianceHex = utf8 allegianceValue))
    "helper allegiance boolean did not match byte-exact metadata"
  failIf (value.protocolCompatible ≠ decide (protocolHex = utf8 protocolValue))
    "helper protocol boolean did not match byte-exact metadata"
  failIf (value.walletVerified ≠
      decide (value.agentWallet = expectedWallet ∧ value.agentWallet ≠ 0))
    "helper wallet-verification boolean did not match the expected persistent Tentacle wallet"
  return {
    owner := value.owner
    agentUri := agentUri
    agentWallet := value.agentWallet
    authorized := value.authorized
    allegianceHex := allegianceHex
    protocolHex := protocolHex
    tentacleIdHex := tentacleIdHex
    declaresTentacleAllegiance := value.declaresTentacleAllegiance
    protocolCompatible := value.protocolCompatible
    walletVerified := value.walletVerified }

def knownEvidence : List String :=
  ["exact-tentacle-id", "exact-profile-tentacle-id", "exact-xmtp-endpoint", "legacy-allegiance",
    "wallet-only"]

def validateIdentityEvidence (evidence : List String) : Except String Unit := do
  failIf (8 < evidence.length) "candidate identity evidence is unbounded"
  failIf (evidence.any (· ∉ knownEvidence) = true) "candidate identity evidence is unknown"
  failIf (¬evidence.Nodup) "candidate identity evidence contains duplicates"

/-- A candidate that the supervisor keeps. -/
structure ParsedCandidate where
  agentId : AgentId
  sameTentacle : Bool
  ambiguousTentacle : Bool
  identityEvidence : List String
  /-- What the fingerprint of the inspection covers. -/
  verified : VerifiedAgentState

/-- The checks of `parse_discovery` on one candidate. -/
def parseCandidate (expectedTentacleId : String) (expectedWallet : Address)
    (candidate : Candidate) : Except String ParsedCandidate := do
  let agentId ← requiredString candidate.agent.agentId.toNat.repr "agentId" 80
  validateAgentId agentId
  let verified ← parseVerified expectedWallet candidate.agent
  let classification ← okOr candidate.classification
    "candidate discovery has no identity evidence"
  let identityEvidence := classification.identityEvidence
  validateIdentityEvidence identityEvidence
  let sameTentacle := classification.sameTentacle
  let ambiguousTentacle := classification.ambiguousTentacle
  failIf (sameTentacle = true ∧ ambiguousTentacle = true)
    "candidate cannot be both same-Tentacle and ambiguous"
  let exactTentacleId := decide (verified.tentacleIdHex = utf8 expectedTentacleId)
  let conflictingTentacleId := decide (verified.tentacleIdHex ≠ []) && !exactTentacleId
  let walletOnly := decide ("wallet-only" ∈ identityEvidence)
  let exactTentacleEvidence := decide ("exact-tentacle-id" ∈ identityEvidence)
  let legacyAllegiance := decide ("legacy-allegiance" ∈ identityEvidence)
  let related := verified.authorized || verified.walletVerified
  failIf (walletOnly = true ∧ ¬related = true)
    "wallet-only identity evidence has no current wallet relationship"
  failIf (walletOnly = true ∧ ¬(conflictingTentacleId || sameTentacle || ambiguousTentacle) = true)
    "wallet-only candidate without conflicting durable Tentacle metadata must remain ambiguous"
  failIf (exactTentacleId = true ∧ ¬sameTentacle = true)
    "candidate exact Tentacle ID was not classified as the same Tentacle"
  failIf (exactTentacleEvidence ≠ exactTentacleId)
    "candidate exact Tentacle ID evidence disagrees with canonical metadata"
  failIf (legacyAllegiance = true ∧
      ¬(related && verified.declaresTentacleAllegiance && verified.protocolCompatible) = true)
    "candidate legacy allegiance evidence disagrees with canonical metadata"
  let exactProfileTentacle := decide ("exact-profile-tentacle-id" ∈ identityEvidence)
  let exactXmtp := decide ("exact-xmtp-endpoint" ∈ identityEvidence)
  failIf (sameTentacle = true ∧ ¬(!conflictingTentacleId && related &&
        (exactTentacleId || exactProfileTentacle ||
          (exactXmtp && verified.declaresTentacleAllegiance && verified.protocolCompatible))) = true)
    "same-Tentacle candidate lacks strong current identity evidence"
  return {
    agentId := candidate.agent.agentId
    sameTentacle := sameTentacle
    ambiguousTentacle := ambiguousTentacle
    identityEvidence := identityEvidence
    verified := verified }

/-- A mint authorization comes with no candidate that is this Tentacle, or may be. -/
def checkMintAuthorization (parsed : List ParsedCandidate) : Except String Unit :=
  failIf (¬parsed.all (fun candidate => !candidate.sameTentacle && !candidate.ambiguousTentacle) =
      true)
    "mint authorization was returned despite a credible existing Tentacle identity"

end Cthuwu.Discovery
