import Mathlib.Data.Int.Notation
import Cthuwu.Council.Text
import Cthuwu.Lib.Maps

/-!
# Propagation data

Payloads, strategies, policies, campaigns, candidate profiles, provenance and items, with
the checks each makes of itself. Times are `i64` seconds and counters unsigned, written as
integers and naturals ; arithmetic that saturates in the source saturates here.

The JSON encodings and SHA-256 come from outside the repository and are the fields of
`Hashing`. An encoding may fail.
-/

namespace Cthuwu.Propagation

open Council

abbrev PropagationItemId := Id .message

abbrev CampaignId := Id .propagation

abbrev AcknowledgementId := Id .acknowledgement

abbrev OutcomeId := Id .outcome

/-! ## Bounds -/

def maxCampaigns : ℕ := 256

def maxItems : ℕ := 16384

def maxAcknowledgements : ℕ := 16384

def maxCandidates : ℕ := 4096

def maxLocalRules : ℕ := 16384

def maxLocalPolicyEvents : ℕ := 16384

def maxDepth : ℕ := 16

def maxFanOut : ℕ := 64

def maxRateLimit : ℕ := 128

/-- `30 * 24 * 60 * 60`. -/
def maxCampaignLifetimeSeconds : ℤ := 2592000

/-- `24 * 60 * 60`. -/
def maxRateWindowSeconds : ℤ := 86400

def maxTextBytes : ℕ := 4096

def maxShortTextBytes : ℕ := 256

def maxListItems : ℕ := 64

def maxPayloadBytes : ℕ := 16384

def maxProvenanceHops : ℕ := maxDepth

def maxCreditPerOutcome : ℕ := 5

def maxCreditPerCthulhuPerCampaign : ℕ := 20

def maxTotalCampaignCredit : ℕ := 512

def u8Max : ℕ := 255

def u16Max : ℕ := 65535

def u64Max : ℕ := 18446744073709551615

def i64Min : ℤ := -9223372036854775808

/-- `i64::saturating_sub` of a subtrahend that is not negative. -/
def i64SaturatingSub (a b : ℤ) : ℤ :=
  max (a - b) i64Min

/-! ## Errors -/

inductive PropagationError
  | invalidPolicy (what : String)
  | invalidPayload (field : String)
  | invalidHash
  | limitExceeded (what : String)
  | invalidTimestamp
  | invalidExpiry
  | duplicateCampaign
  | campaignNotFound
  | itemNotFound
  | acknowledgementNotFound
  | campaignExpired
  | campaignRevoked
  | senderMismatch
  | parentNotAccepted
  | messageIdConflict
  | candidateUnknown
  | candidateProfileInUse
  | strategyRejected
  | visibilityDenied
  | depthExceeded
  | fanOutExceeded
  | rateLimited
  | optedOut
  | blocked
  | selfReferral
  | referralLoop
  | duplicateDelivery
  | policyMismatch
  | payloadHashMismatch
  | forgedProvenance
  | conflictingResponse
  | acknowledgementConflict
  | fakeAcknowledgement
  | duplicateOutcome
  | duplicateCreditEvidence
  | invalidCreditEvidence
  | inapplicableOutcome
  | creditCapReached
  | serialization (cause : String)
  | corruptState (what : String)
  deriving DecidableEq

abbrev rejectIf (c : Prop) [Decidable c] (err : PropagationError) : Except PropagationError Unit :=
  failIf c err

abbrev orReject {α : Type} (o : Option α) (err : PropagationError) : Except PropagationError α :=
  okOr o err

/-! ## Text checks -/

def validateHash (value : String) : Except PropagationError Unit :=
  failIf (!isContentHash value) .invalidHash

def validateText (value : String) (max : ℕ) (field : String) (singleLine : Bool) :
    Except PropagationError Unit :=
  failIf (!isText max singleLine value) (.invalidPayload field)

def validateToken (value field : String) : Except PropagationError Unit :=
  failIf (!isToken ['_', '-', '.', ':'] value || hasDoubleDot value) (.invalidPayload field)

def validateTags (values : List String) (field : String) : Except PropagationError Unit := do
  failIf (values = [] ∨ maxListItems < values.length) (.limitExceeded field)
  let _ ← insertAll (validateToken · field) id (.invalidPayload field) (fun _ _ => .ok ()) ∅ values

/-! ## Payloads, strategies and policies -/

inductive PropagationPayload
  | councilInvitation (councilId : CouncilId) (summary : String)
  | agendaSummary (agendaHash summary : String)
  | approvedStrategy (strategyHash summary : String)
  | capabilityRequest (capabilityTags : List String) (summary : String)
  | resourceNeed (categories : List String) (summary : String)
  | resourceOffer (categories : List String) (summary : String)
  | protocolUpgrade (version artifactHash summary : String)
  | boundedCampaign (name summary : String)
  deriving DecidableEq

inductive CampaignVisibility
  | councilMembers
  | invitedBranches
  | publicMetadata
  deriving DecidableEq

inductive PropagationStrategy
  | breadthFirst
  | depthLimited (depth : ℕ)
  | trustedBranchOnly
  | capabilityTargeted (capability : String)
  | geographicOrLatencyAware (preferredRegion : Option String) (maxLatencyMs : ℕ)
  | reputationThresholded (minimumBps : ℕ) (acceptedSources : List String)
  deriving DecidableEq

def PropagationStrategy.validate : PropagationStrategy → Except PropagationError Unit
  | breadthFirst => .ok ()
  | trustedBranchOnly => .ok ()
  | depthLimited depth => failIf (¬(0 < depth ∧ depth ≤ maxDepth)) (.invalidPolicy "strategy depth")
  | capabilityTargeted capability => validateToken capability "target capability"
  | geographicOrLatencyAware preferredRegion maxLatencyMs => do
    failIf (maxLatencyMs = 0 ∨ 60000 < maxLatencyMs) (.invalidPolicy "latency bound")
    match preferredRegion with
    | some region => validateToken region "preferred region"
    | none => .ok ()
  | reputationThresholded minimumBps acceptedSources => do
    failIf (10000 < minimumBps) (.invalidPolicy "reputation threshold")
    validateTags acceptedSources "reputation sources"

structure PropagationPolicy where
  version : ℕ
  maxDepth : ℕ
  maxFanOut : ℕ
  perSenderRateLimit : ℕ
  rateWindowSeconds : ℤ
  visibility : CampaignVisibility

def PropagationPolicy.validate (p : PropagationPolicy) : Except PropagationError Unit :=
  failIf (p.version = 0 ∨ p.maxDepth = 0 ∨ Propagation.maxDepth < p.maxDepth ∨ p.maxFanOut = 0 ∨
      Propagation.maxFanOut < p.maxFanOut ∨ p.perSenderRateLimit = 0 ∨
      maxRateLimit < p.perSenderRateLimit ∨ p.rateWindowSeconds ≤ 0 ∨
      maxRateWindowSeconds < p.rateWindowSeconds)
    (.invalidPolicy "bounds")

/-! ## Candidates -/

structure ReputationSignal where
  source : String
  valueBps : ℕ
  observedAt : ℤ
  deriving DecidableEq

structure CandidateProfile where
  cthulhuId : CthulhuId
  trusted : Bool
  councilMemberships : List CouncilId
  capabilityTags : List String
  region : Option String
  latencyMs : Option ℕ
  reputationSignals : List ReputationSignal
  deriving DecidableEq

def ReputationSignal.validate (signal : ReputationSignal) : Except PropagationError Unit := do
  validateToken signal.source "reputation source"
  failIf (10000 < signal.valueBps ∨ signal.observedAt < 0) (.invalidPolicy "reputation signal")

def CandidateProfile.validate (p : CandidateProfile) : Except PropagationError Unit := do
  failIf (maxListItems < p.councilMemberships.length) (.limitExceeded "Council memberships")
  failIf (p.councilMemberships.toFinset.card ≠ p.councilMemberships.length)
    (.invalidPolicy "duplicate Council membership")
  if p.capabilityTags ≠ [] then
    validateTags p.capabilityTags "candidate capabilities"
  match p.region with
  | some region => validateToken region "candidate region"
  | none => .ok ()
  failIf (p.latencyMs.any (60000 < ·)) (.invalidPolicy "candidate latency")
  failIf (maxListItems < p.reputationSignals.length) (.limitExceeded "reputation signals")
  p.reputationSignals.forM ReputationSignal.validate

/-- The best of the signals from an accepted source, or zero. -/
def reputationValue (profile : CandidateProfile) (acceptedSources : List String) : ℕ :=
  ((profile.reputationSignals.filter (·.source ∈ acceptedSources)).map (·.valueBps)).foldl max 0

/-! ## Items -/

structure ProvenanceHop where
  itemId : PropagationItemId
  sender : CthulhuId
  recipient : CthulhuId
  sentAt : ℤ
  localPolicyGeneration : ℕ
  senderProfileHash : String
  recipientProfileHash : String
  deriving DecidableEq

structure Provenance where
  root : CthulhuId
  hops : List ProvenanceHop
  chainHash : String

inductive ItemStatus
  | pending
  | accepted
  | rejected
  | acknowledged
  deriving DecidableEq

structure PropagationItem where
  id : PropagationItemId
  campaignId : CampaignId
  parentItemId : Option PropagationItemId
  sender : CthulhuId
  recipient : CthulhuId
  depth : ℕ
  policyVersion : ℕ
  payloadHash : String
  createdAt : ℤ
  expiresAt : ℤ
  provenance : Provenance
  status : ItemStatus

/-- `matches!(status, Accepted | Acknowledged)`. -/
def ItemStatus.isAccepted : ItemStatus → Bool
  | accepted => true
  | acknowledged => true
  | _ => false

/-! ## Hashes -/

/-- The encodings and the digest the engine takes from other crates. -/
class Hashing where
  payloadJson : PropagationPayload → Except String String
  profileJson : CandidateProfile → Except String String
  provenanceJson : CampaignId → String → ℕ → List ProvenanceHop → Except String String
  /-- The lowercase hexadecimal digits of the digest. -/
  sha256 : String → String

variable [Hashing]

/-- `format!("sha256:{:x}", Sha256::digest(bytes))`. -/
def contentHashOf (bytes : String) : String :=
  hashStart ++ Hashing.sha256 bytes

variable (c : Campaign) (p : PropagationPayload)

def PropagationPayload.toJson : Except PropagationError String :=
  (Hashing.payloadJson p).mapError .serialization

def PropagationPayload.validate : Except PropagationError Unit := do
  match p with
  | councilInvitation _ summary
  | agendaSummary _ summary
  | approvedStrategy _ summary
  | capabilityRequest _ summary
  | resourceNeed _ summary
  | resourceOffer _ summary
  | protocolUpgrade _ _ summary => validateText summary maxTextBytes "payload summary" false
  | boundedCampaign name summary => do
    validateText name maxShortTextBytes "campaign name" true
    validateText summary maxTextBytes "payload summary" false
  match p with
  | agendaSummary agendaHash _ => validateHash agendaHash
  | approvedStrategy strategyHash _ => validateHash strategyHash
  | capabilityRequest capabilityTags _ => validateTags capabilityTags "capability tags"
  | resourceNeed categories _
  | resourceOffer categories _ => validateTags categories "resource categories"
  | protocolUpgrade version artifactHash _ => do
    validateToken version "protocol version"
    validateHash artifactHash
  | councilInvitation _ _ => .ok ()
  | boundedCampaign _ _ => .ok ()
  let bytes ← p.toJson
  failIf (maxPayloadBytes < bytes.utf8ByteSize) (.limitExceeded "serialized payload")

def PropagationPayload.contentHash : Except PropagationError String := do
  p.validate
  let bytes ← p.toJson
  return contentHashOf bytes

def profileHash (profile : CandidateProfile) : Except PropagationError String := do
  profile.validate
  let bytes ← (Hashing.profileJson profile).mapError .serialization
  return contentHashOf bytes

def provenanceHash (campaignId : CampaignId) (payloadHash : String) (policyVersion : ℕ)
    (hops : List ProvenanceHop) : Except PropagationError String := do
  let bytes ← (Hashing.provenanceJson campaignId payloadHash policyVersion hops).mapError
    .serialization
  return contentHashOf bytes

/-! ## Campaigns -/

structure Campaign where
  id : CampaignId
  councilId : CouncilId
  root : CthulhuId
  payload : PropagationPayload
  payloadHash : String
  strategy : PropagationStrategy
  policy : PropagationPolicy
  createdAt : ℤ
  expiresAt : ℤ
  revokedAt : Option ℤ
  revocationReason : Option String

/-- The checks of a campaign that a revocation does not touch. -/
def Campaign.validateTerms : Except PropagationError Unit := do
  c.payload.validate
  c.strategy.validate
  c.policy.validate
  validateHash c.payloadHash
  let expected ← c.payload.contentHash
  failIf (expected ≠ c.payloadHash) .payloadHashMismatch
  failIf (c.createdAt < 0 ∨ c.expiresAt ≤ c.createdAt ∨
      maxCampaignLifetimeSeconds < c.expiresAt - c.createdAt)
    .invalidExpiry

def Campaign.validateRevocation : Except PropagationError Unit :=
  match c.revokedAt with
  | some revokedAt => do
    failIf (revokedAt < c.createdAt) .invalidTimestamp
    let reason ← okOr c.revocationReason (.invalidPolicy "missing revocation reason")
    validateText reason maxShortTextBytes "revocation reason" false
  | none =>
    failIf c.revocationReason.isSome (.invalidPolicy "revocation reason without revocation")

def Campaign.validate : Except PropagationError Unit := do
  c.validateTerms
  c.validateRevocation

/-! ## Acknowledgements, outcomes and credit -/

inductive ContributionOutcome
  | successfulIntroduction
  | usefulCapabilityReferral
  | acknowledgedDownstreamDelivery
  | completedResourceMatch
  deriving DecidableEq

def validateOutcomeKind (payload : PropagationPayload) (outcome : ContributionOutcome) :
    Except PropagationError Unit :=
  match outcome, payload with
  | .successfulIntroduction, .councilInvitation .. => .ok ()
  | .usefulCapabilityReferral, .capabilityRequest .. => .ok ()
  | .acknowledgedDownstreamDelivery, _ => .ok ()
  | .completedResourceMatch, .resourceNeed .. => .ok ()
  | .completedResourceMatch, .resourceOffer .. => .ok ()
  | _, _ => .error .inapplicableOutcome

structure Acknowledgement where
  id : AcknowledgementId
  itemId : PropagationItemId
  actor : CthulhuId
  outcome : ContributionOutcome
  evidenceHash : String
  acknowledgedAt : ℤ

structure OutcomeClaim where
  id : OutcomeId
  campaignId : CampaignId
  itemId : PropagationItemId
  acknowledgementId : AcknowledgementId
  contributor : CthulhuId
  beneficiary : CthulhuId
  outcome : ContributionOutcome
  evidenceHash : String
  occurredAt : ℤ
  deriving DecidableEq

structure ContributionCredit where
  campaignId : CampaignId
  cthulhuId : CthulhuId
  points : ℕ
  creditedOutcomes : ℕ

structure CreditContext where
  campaign : Campaign
  item : PropagationItem
  claim : OutcomeClaim

structure ProposedCredit where
  points : ℕ
  reason : String

/-- `IncentiveModel::propose_credit` of some implementation. -/
abbrev IncentiveModel := CreditContext → ProposedCredit

def safeOutcomeCredit : IncentiveModel := fun context =>
  match context.claim.outcome with
  | .successfulIntroduction => ⟨1, "accepted and acknowledged direct introduction"⟩
  | .usefulCapabilityReferral => ⟨3, "acknowledged capability referral"⟩
  | .acknowledgedDownstreamDelivery => ⟨2, "authenticated downstream acknowledgement"⟩
  | .completedResourceMatch => ⟨5, "acknowledged useful resource match"⟩

structure CreditExplanation where
  awardedPoints : ℕ
  reason : String
  directContributorOnly : Bool
  contributorCampaignTotal : ℕ

end Cthuwu.Propagation
