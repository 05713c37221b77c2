import Cthuwu.Protocol.Tentacle

/-!
# Council messages

What Council messages carry, with the checks each value makes of itself. A propagation item
carries its full path and one hop for each edge of it. `PropagationItem.validate` checks the hops
against the path in one pass, and a hash over all of it.
-/

namespace Cthuwu.Protocol

open Council Routing

def maxRequirements : ℕ := 64

def maxProvenanceDepth : ℕ := 32

def maxArgumentHashes : ℕ := 16

def maxRouteWindowSeconds : ℤ := 3600

/-- `24 * 60 * 60`. -/
def maxLeaseLifetimeSeconds : ℤ := 86400

/-- `31 * 24 * 60 * 60`. -/
def maxGovernanceLifetimeSeconds : ℤ := 2678400

/-- `30 * 24 * 60 * 60`. -/
def maxPropagationLifetimeSeconds : ℤ := 2592000

def maxFutureClockSkewSeconds : ℤ := 300

/-! ## Members -/

inductive RiskTolerance
  | veryLow
  | low
  | moderate
  | high

inductive PrivacyPreference
  | localOnly
  | minimizeDisclosure
  | councilLimited
  | publicByChoice

structure DecisionTendencies where
  caution : ℕ
  cooperation : ℕ
  noveltySeeking : ℕ
  memoryPreservation : ℕ
  resourceExchange : ℕ
  independence : ℕ

def DecisionTendencies.validate (d : DecisionTendencies) : Except ValidationError Unit :=
  [("personality.decisionTendencies.caution", d.caution),
    ("personality.decisionTendencies.cooperation", d.cooperation),
    ("personality.decisionTendencies.noveltySeeking", d.noveltySeeking),
    ("personality.decisionTendencies.memoryPreservation", d.memoryPreservation),
    ("personality.decisionTendencies.resourceExchange", d.resourceExchange),
    ("personality.decisionTendencies.independence", d.independence)].forM fun (field, value) =>
      rejectIf (100 < value) field .outOfRange

structure PersonalityProfile where
  schemaVersion : ProtocolVersion
  role : String
  voice : String
  values : List String
  motivations : List String
  priorities : List String
  riskTolerance : RiskTolerance
  privacyPreference : PrivacyPreference
  decisionTendencies : DecisionTendencies
  standingConcerns : List String

/-- `MAX_TRAITS`, `MAX_GOALS`. -/
def maxTraits : ℕ := 16

def maxTentacles : ℕ := 32

/-- A bounded list of bounded texts, no two of them equal. -/
def validateTexts (field : String) (values : List String) (max : ℕ) :
    Except ValidationError Unit := do
  boundedCount field values.length maxTraits
  values.forM fun value => boundedText field value max
  ensureUnique field values

def PersonalityProfile.validate (p : PersonalityProfile) : Except ValidationError Unit := do
  requireSupported p.schemaVersion
  boundedText "personality.role" p.role 64
  boundedText "personality.voice" p.voice 256
  validateTexts "personality.values" p.values 128
  validateTexts "personality.motivations" p.motivations 128
  validateTexts "personality.priorities" p.priorities 128
  validateTexts "personality.standingConcerns" p.standingConcerns 128
  p.decisionTendencies.validate

structure OperatorMetadata where
  displayLabel : Option String
  policyReference : Option String
  jurisdiction : Option String

def OperatorMetadata.validate (o : OperatorMetadata) : Except ValidationError Unit := do
  boundedOptionalText "operator.displayLabel" o.displayLabel 128
  boundedOptionalText "operator.policyReference" o.policyReference 256
  boundedOptionalText "operator.jurisdiction" o.jurisdiction 64

/-- A coordination profile. -/
structure CthulhuIdentity where
  schemaVersion : ProtocolVersion
  id : CthulhuId
  displayName : String
  personality : PersonalityProfile
  longTermGoals : List String
  operator : OperatorMetadata
  registry : Option RegistryRef
  tentacles : List TentacleId

def CthulhuIdentity.validate (i : CthulhuIdentity) : Except ValidationError Unit := do
  requireSupported i.schemaVersion
  boundedText "cthulhu.displayName" i.displayName 96
  i.personality.validate
  validateTexts "cthulhu.longTermGoals" i.longTermGoals 256
  i.operator.validate
  i.registry.toList.forM RegistryRef.validate
  rejectIf (i.tentacles = []) "cthulhu.tentacles" .empty
  boundedCount "cthulhu.tentacles" i.tentacles.length maxTentacles
  ensureUnique "cthulhu.tentacles" i.tentacles

/-! ## Routes and leases -/

inductive UserReference
  | xmtpInbox (inbox : XmtpInboxRef)
  | sealed (value : String)

def UserReference.validate : UserReference → Except ValidationError Unit
  | xmtpInbox _ => .ok ()
  | sealed value => validateSlug "userReference" value 128

structure TrustPolicy where
  allowlistedOnly : Bool
  registryAssociationRequired : Bool
  acceptedMechanisms : List TrustMechanism
  acceptedRegistries : List RegistryRef

def TrustPolicy.validate (p : TrustPolicy) : Except ValidationError Unit := do
  boundedCount "routing.trustPolicy.acceptedMechanisms" p.acceptedMechanisms.length 16
  boundedCount "routing.trustPolicy.acceptedRegistries" p.acceptedRegistries.length 16
  p.acceptedRegistries.forM RegistryRef.validate

structure RoutingRequirements where
  protocolVersions : List ProtocolVersion
  modelClasses : List CapabilityName
  tools : List CapabilityName
  requiredPrivacy : List PrivacyProperty
  requireLocalInference : Bool
  preferredCthulhuId : Option CthulhuId
  preferredTentacleId : Option TentacleId
  affinityTentacleId : Option TentacleId
  userOwnedTentacleId : Option TentacleId
  trustPolicy : TrustPolicy
  maximumLoadPerMille : ℕ

def RoutingRequirements.validate (r : RoutingRequirements) : Except ValidationError Unit := do
  rejectIf (r.protocolVersions = []) "routing.protocolVersions" .empty
  boundedCount "routing.protocolVersions" r.protocolVersions.length 8
  let _ ← insertAll requireSupported id ⟨"routing.protocolVersions", .invalidFormat⟩
    (fun _ _ => .ok ()) ∅ r.protocolVersions
  boundedCount "routing.modelClasses" r.modelClasses.length maxRequirements
  boundedCount "routing.tools" r.tools.length maxRequirements
  boundedCount "routing.requiredPrivacy" r.requiredPrivacy.length 16
  rejectIf (1000 < r.maximumLoadPerMille) "routing.maximumLoadPerMille" .outOfRange
  r.trustPolicy.validate

structure RouteRequest where
  requestId : RequestId
  sessionId : SessionId
  requesterCthulhuId : CthulhuId
  requesterTentacleId : TentacleId
  userReference : UserReference
  requirements : RoutingRequirements
  issuedAt : Timestamp
  expiresAt : Timestamp

structure RouteOffer where
  requestId : RequestId
  offeringCthulhuId : CthulhuId
  offeringTentacleId : TentacleId
  incarnation : Incarnation
  availableSessions : ℕ
  currentLoadPerMille : ℕ
  validUntil : Timestamp

inductive RouteRejectReason
  | missingCapability
  | privacyPolicy
  | trustPolicy
  | capacity
  | draining
  | unsupportedProtocol
  | expired
  | localPolicy

structure RouteReject where
  requestId : RequestId
  rejectingCthulhuId : CthulhuId
  rejectingTentacleId : TentacleId
  reason : RouteRejectReason

structure RouteAward where
  requestId : RequestId
  sessionId : SessionId
  leaseId : LeaseId
  awardedCthulhuId : CthulhuId
  awardedTentacleId : TentacleId
  incarnation : Incarnation
  generation : ℕ
  issuerCthulhuId : CthulhuId
  issuerTentacleId : TentacleId

inductive LeaseStatus
  | granted
  | active
  | released
  | revoked
  | expired
  deriving DecidableEq

structure Lease where
  leaseId : LeaseId
  sessionId : SessionId
  userReference : UserReference
  assignedCthulhuId : CthulhuId
  assignedTentacleId : TentacleId
  incarnation : Incarnation
  generation : ℕ
  issuedAt : Timestamp
  expiresAt : Timestamp
  renewalDeadline : Timestamp
  routingRequestId : RequestId
  issuerCthulhuId : CthulhuId
  issuerTentacleId : TentacleId
  status : LeaseStatus

def Lease.validate (l : Lease) : Except ValidationError Unit := do
  l.userReference.validate
  validateIncarnation l.incarnation
  rejectIf (l.generation = 0 ∨ l.expiresAt ≤ l.issuedAt ∨
    maxLeaseLifetimeSeconds < l.expiresAt - l.issuedAt ∨ l.renewalDeadline ≤ l.issuedAt ∨
    l.expiresAt < l.renewalDeadline) "lease" .outOfRange

structure LeaseRenew where
  leaseId : LeaseId
  generation : ℕ
  renewingCthulhuId : CthulhuId
  renewingTentacleId : TentacleId
  incarnation : Incarnation
  expiresAt : Timestamp
  renewalDeadline : Timestamp

structure LeaseRelease where
  leaseId : LeaseId
  generation : ℕ
  releasingCthulhuId : CthulhuId
  releasingTentacleId : TentacleId
  incarnation : Incarnation

structure LeaseRevoke where
  leaseId : LeaseId
  generation : ℕ
  issuerCthulhuId : CthulhuId
  reason : String

structure LeaseExpired where
  leaseId : LeaseId
  generation : ℕ
  issuerCthulhuId : CthulhuId
  expiredAt : Timestamp

/-! ## Governance -/

inductive GovernanceDocumentKind
  | constitution
  | agenda
  | strategy
  | action
  deriving DecidableEq

inductive BoundedAction
  | capabilityRefresh (cthulhuId : Option CthulhuId)
  | protocolSelfTest (tentacleId : Option TentacleId)
  | localResourceSummary (cthulhuId : CthulhuId)
  | routingScenarioEvaluation (scenarioHash : ContentHash)

structure GovernanceDocument where
  kind : GovernanceDocumentKind
  version : ℕ
  hash : ContentHash
  parentHash : Option ContentHash
  title : String
  summary : String
  action : Option BoundedAction

def GovernanceDocument.validate (d : GovernanceDocument) : Except ValidationError Unit := do
  rejectIf (d.version = 0) "governance.document.version" .outOfRange
  boundedText "governance.document.title" d.title 160
  boundedText "governance.document.summary" d.summary 2048
  rejectIf (decide (d.kind = .action) ≠ d.action.isSome) "governance.document.action" .invalidFormat
  rejectIf (1 < d.version ∧ d.parentHash = none) "governance.document.parentHash" .empty

structure GovernanceProposal where
  proposalId : ProposalId
  proposerCthulhuId : CthulhuId
  document : GovernanceDocument
  deadline : Timestamp
  quorumBasisPoints : ℕ
  approvalBasisPoints : ℕ

inductive ArgumentPosition
  | support
  | oppose
  | amend

structure GovernanceArgument where
  proposalId : ProposalId
  authorCthulhuId : CthulhuId
  position : ArgumentPosition
  summary : String
  evidenceHashes : List ContentHash
  suggestedAmendmentHash : Option ContentHash

inductive VoteChoice
  | yes
  | no
  | abstain

structure GovernanceVote where
  proposalId : ProposalId
  voterCthulhuId : CthulhuId
  choice : VoteChoice
  castAt : Timestamp
  replacementSequence : ℕ

structure GovernanceRatified where
  proposalId : ProposalId
  documentHash : ContentHash
  issuerCthulhuId : CthulhuId
  ratifiedAt : Timestamp
  yesVotes : ℕ
  noVotes : ℕ
  abstentions : ℕ

inductive ProposalRejectionReason
  | voteFailed
  | quorumNotMet
  | expired
  | competingParent
  | invalidProposal

structure GovernanceRejected where
  proposalId : ProposalId
  documentHash : ContentHash
  issuerCthulhuId : CthulhuId
  rejectedAt : Timestamp
  reason : ProposalRejectionReason

/-! ## Propagation items -/

abbrev PropagationId := Id .propagation

abbrev MessageId := Id .message

abbrev AcknowledgementId := Id .acknowledgement

abbrev InvitationId := Id .invitation

inductive PropagationContentKind
  | councilInvitation
  | agendaSummary
  | approvedStrategy
  | capabilityRequest
  | resourceNeed
  | resourceOffer
  | protocolUpgrade
  | boundedCampaign

inductive CampaignVisibility
  | invitedOnly
  | council
  | everyone

structure PropagationPolicy where
  policyVersion : ProtocolVersion
  maximumDepth : ℕ
  maximumFanOut : ℕ
  visibility : CampaignVisibility

def PropagationPolicy.validate (p : PropagationPolicy) : Except ValidationError Unit := do
  requireSupported p.policyVersion
  rejectIf (p.maximumDepth = 0 ∨ maxProvenanceDepth < p.maximumDepth ∨ p.maximumFanOut = 0 ∨
    64 < p.maximumFanOut) "propagation.policy" .outOfRange

structure ProvenanceHop where
  senderCthulhuId : CthulhuId
  senderTentacleId : TentacleId
  recipientCthulhuId : CthulhuId
  messageId : MessageId
  forwardedAt : Timestamp
  payloadHash : ContentHash

/-- What is passed on, with the path it took and a hop for each edge of the path. -/
structure PropagationItem where
  propagationId : PropagationId
  contentKind : PropagationContentKind
  payloadHash : ContentHash
  originCthulhuId : CthulhuId
  parentPropagationId : Option PropagationId
  depth : ℕ
  path : List CthulhuId
  provenance : List ProvenanceHop
  chainHash : ContentHash
  createdAt : Timestamp
  expiresAt : Timestamp
  policy : PropagationPolicy

/-- What the chain hash covers : the item without the hash itself. -/
structure HashMaterial where
  domain : String
  propagationId : PropagationId
  contentKind : PropagationContentKind
  payloadHash : ContentHash
  originCthulhuId : CthulhuId
  parentPropagationId : Option PropagationId
  depth : ℕ
  path : List CthulhuId
  provenance : List ProvenanceHop
  createdAt : Timestamp
  expiresAt : Timestamp
  policy : PropagationPolicy

def provenanceHashDomain : String := "cthuwu-council-provenance-v1"

def PropagationItem.material (i : PropagationItem) : HashMaterial where
  domain := provenanceHashDomain
  propagationId := i.propagationId
  contentKind := i.contentKind
  payloadHash := i.payloadHash
  originCthulhuId := i.originCthulhuId
  parentPropagationId := i.parentPropagationId
  depth := i.depth
  path := i.path
  provenance := i.provenance
  createdAt := i.createdAt
  expiresAt := i.expiresAt
  policy := i.policy

/-- The encoding and the digest that hashing an item takes from other crates. -/
class Hashing where
  materialJson : HashMaterial → Except Unit String
  /-- The lowercase hexadecimal digits of the digest. -/
  sha256 : String → String

variable [Hashing]

def PropagationItem.calculatedChainHash (i : PropagationItem) :
    Except ValidationError ContentHash := do
  let encoded ← (Hashing.materialJson i.material).mapError fun _ =>
    ⟨"propagation.chainHash", .invalidFormat⟩
  ContentHash.new (hashStart ++ Hashing.sha256 encoded)

/-- What the loop over the hops remembers. -/
structure HopsSeen where
  index : ℕ
  messageIds : Finset MessageId
  previousForwardedAt : Option Timestamp

/-- One hop : it is the edge at its place of the path, carries the payload, happens within the
life of the item and not before the previous one, and reuses no message. -/
def PropagationItem.validateHop (i : PropagationItem) (seen : HopsSeen) (hop : ProvenanceHop) :
    Except ValidationError HopsSeen := do
  rejectIf (some hop.senderCthulhuId ≠ i.path[seen.index]? ∨
    some hop.recipientCthulhuId ≠ i.path[seen.index + 1]? ∨
    hop.senderCthulhuId = hop.recipientCthulhuId ∨ hop.payloadHash ≠ i.payloadHash ∨
    hop.forwardedAt < i.createdAt ∨ i.expiresAt ≤ hop.forwardedAt ∨
    (seen.previousForwardedAt.any fun previous => hop.forwardedAt < previous) ∨
    hop.messageId ∈ seen.messageIds) "propagation.provenance" .invalidFormat
  return ⟨seen.index + 1, insert hop.messageId seen.messageIds, some hop.forwardedAt⟩

def PropagationItem.validate (i : PropagationItem) : Except ValidationError Unit := do
  i.policy.validate
  rejectIf (i.expiresAt ≤ i.createdAt ∨ maxPropagationLifetimeSeconds < i.expiresAt - i.createdAt ∨
    i.path = [] ∨ i.path.head? ≠ some i.originCthulhuId ∨ i.depth + 1 ≠ i.path.length ∨
    i.policy.maximumDepth < i.depth ∨ i.provenance.length ≠ i.depth ∨
    decide (i.depth = 0) ≠ i.parentPropagationId.isNone) "propagation.item" .invalidFormat
  boundedCount "propagation.path" i.path.length (maxProvenanceDepth + 1)
  boundedCount "propagation.provenance" i.provenance.length maxProvenanceDepth
  ensureUnique "propagation.path" i.path
  let _ ← i.provenance.foldlM i.validateHop ⟨0, ∅, none⟩
  let calculated ← i.calculatedChainHash
  rejectIf (calculated ≠ i.chainHash) "propagation.chainHash" .invalidFormat

inductive AcknowledgementOutcome
  | delivered
  | accepted
  | capabilityMatched
  | resourceMatched

structure PropagationAck where
  acknowledgementId : AcknowledgementId
  propagationId : PropagationId
  acknowledgedMessageId : MessageId
  acknowledgingCthulhuId : CthulhuId
  outcome : AcknowledgementOutcome
  outcomeReferenceHash : ContentHash
  acknowledgedAt : Timestamp

end Cthuwu.Protocol
