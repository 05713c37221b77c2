import Cthuwu.Propagation.Types

/-!
# The propagation engine

The state of `PropagationEngine` and its public operations. An operation runs in
`Fallible`, so that what it wrote before a failure would stay. Maps whose values the
operations change in place are updated by inserting the changed value.

A `PropagationPolicyValidator` and an `IncentiveModel` are implementations of the traits
the caller passes in : any function.
-/

namespace Cthuwu.Propagation

open Council

/-! ## State -/

structure RateRecord where
  itemId : PropagationItemId
  campaignId : CampaignId
  sender : CthulhuId
  sentAt : ℤ

inductive LocalPolicyEventKind
  | optOut (cthulhuId : CthulhuId) (enabled : Bool)
  | block (owner blocked : CthulhuId) (enabled : Bool)

structure LocalPolicyEvent where
  generation : ℕ
  event : LocalPolicyEventKind

structure PropagationEngine where
  campaigns : HashMap CampaignId Campaign
  items : HashMap PropagationItemId PropagationItem
  acknowledgements : HashMap AcknowledgementId Acknowledgement
  candidateProfiles : HashMap CthulhuId CandidateProfile
  optedOut : Finset CthulhuId
  /-- `(owner, blocked)`; blocking applies in either direction for forwarding. -/
  blocked : Finset (CthulhuId × CthulhuId)
  localPolicyGeneration : ℕ
  localPolicyEvents : List LocalPolicyEvent
  rateRecords : List RateRecord
  outcomes : HashMap OutcomeId OutcomeClaim
  usedAcknowledgements : Finset AcknowledgementId
  credits : List ContributionCredit

/-- `PropagationEngine::default`. -/
def PropagationEngine.fresh : PropagationEngine where
  campaigns := .empty
  items := .empty
  acknowledgements := .empty
  candidateProfiles := .empty
  optedOut := ∅
  blocked := ∅
  localPolicyGeneration := 0
  localPolicyEvents := []
  rateRecords := []
  outcomes := .empty
  usedAcknowledgements := ∅
  credits := []

/-- The opt-outs and block rules in force. -/
structure LocalRules where
  optedOut : Finset CthulhuId
  blocked : Finset (CthulhuId × CthulhuId)
  deriving DecidableEq

def PropagationEngine.rules (engine : PropagationEngine) : LocalRules :=
  ⟨engine.optedOut, engine.blocked⟩

structure PropagationExplanation where
  allowed : Bool
  reasons : List String
  depth : ℕ
  remainingFanOut : ℕ

inductive DeliveryResult
  | created (item : PropagationItem) (explanation : PropagationExplanation)
  | replaySuppressed (item : PropagationItem)

abbrev Op (α : Type) := Fallible PropagationError PropagationEngine α

variable [Hashing]

/-! ## Hop validators -/

/-- `PropagationPolicyValidator::validate_hop` of some implementation. -/
abbrev PropagationPolicyValidator :=
  Campaign → Option PropagationItem → CthulhuId → CthulhuId → ℤ → Except PropagationError String

def strictHopValidator : PropagationPolicyValidator := fun campaign parent sender _ now => do
  campaign.validate
  failIf campaign.revokedAt.isSome .campaignRevoked
  failIf (now < campaign.createdAt ∨ campaign.expiresAt ≤ now) .campaignExpired
  match parent with
  | none => failIf (sender ≠ campaign.root) .senderMismatch
  | some parent => do
    failIf (parent.recipient ≠ sender) .senderMismatch
    failIf (!parent.status.isAccepted) .parentNotAccepted
  return "campaign and authenticated hop policy validated locally"

def noAdditionalHopPolicy : PropagationPolicyValidator := fun _ _ _ _ _ =>
  .ok "no additional local propagation restriction"

variable (engine : PropagationEngine) (campaignId : CampaignId)
  (parentItemId : Option PropagationItemId) (itemId : PropagationItemId) (item : PropagationItem)
  (authenticatedSender recipient : CthulhuId)

namespace PropagationEngine

/-! ## Campaigns, candidates and local rules -/

def createCampaign (id : CampaignId) (councilId : CouncilId) (root : CthulhuId)
    (payload : PropagationPayload) (strategy : PropagationStrategy) (policy : PropagationPolicy)
    (createdAt expiresAt : ℤ) : Op Campaign := do
  let engine ← get
  rejectIf (engine.campaigns.contains id) .duplicateCampaign
  rejectIf (maxCampaigns ≤ engine.campaigns.len) (.limitExceeded "campaigns")
  payload.validate
  let payloadHash ← payload.contentHash
  let campaign : Campaign :=
    { id, councilId, root, payload, payloadHash, strategy, policy, createdAt, expiresAt
      revokedAt := none, revocationReason := none }
  campaign.validate
  modify fun engine => { engine with campaigns := engine.campaigns.insert id campaign }
  let engine ← get
  orReject (engine.campaigns.get id) .campaignNotFound

/-- Some hop of some item was sent or received by `id`. -/
def inHistory (id : CthulhuId) : Bool :=
  engine.items.values.any fun item =>
    item.provenance.hops.any fun hop => hop.sender = id || hop.recipient = id

def registerCandidate (profile : CandidateProfile) : Op Unit := do
  let engine ← get
  profile.validate
  rejectIf (((engine.candidateProfiles.get profile.cthulhuId).any (· ≠ profile)) &&
    engine.inHistory profile.cthulhuId) .candidateProfileInUse
  rejectIf (maxCandidates ≤ engine.candidateProfiles.len ∧
    ¬engine.candidateProfiles.contains profile.cthulhuId) (.limitExceeded "candidate profiles")
  modify fun engine => { engine with
    candidateProfiles := engine.candidateProfiles.insert profile.cthulhuId profile }

def ensureLocalPolicyEventCapacity : Except PropagationError Unit :=
  failIf (maxLocalPolicyEvents ≤ engine.localPolicyEvents.length)
    (.limitExceeded "local policy events")

def nextLocalPolicyGeneration : Except PropagationError ℕ :=
  if engine.localPolicyGeneration + 1 ≤ u64Max then .ok (engine.localPolicyGeneration + 1)
  else .error (.limitExceeded "local policy generation")

def setOptOut (cthulhu : CthulhuId) (optedOut : Bool) : Op Unit := do
  let engine ← get
  if decide (cthulhu ∈ engine.optedOut) = optedOut then
    return ()
  else
    engine.ensureLocalPolicyEventCapacity
    let generation ← engine.nextLocalPolicyGeneration
    rejectIf (optedOut ∧ maxLocalRules ≤ engine.optedOut.card ∧ cthulhu ∉ engine.optedOut)
      (.limitExceeded "opt-out rules")
    modify fun engine => { engine with
      optedOut := if optedOut then insert cthulhu engine.optedOut else engine.optedOut.erase cthulhu
      localPolicyEvents := engine.localPolicyEvents ++ [⟨generation, .optOut cthulhu optedOut⟩]
      localPolicyGeneration := generation }

def setBlocked (owner blocked : CthulhuId) (isBlocked : Bool) : Op Unit := do
  rejectIf (owner = blocked) .selfReferral
  let engine ← get
  if decide ((owner, blocked) ∈ engine.blocked) = isBlocked then
    return ()
  else
    engine.ensureLocalPolicyEventCapacity
    let generation ← engine.nextLocalPolicyGeneration
    rejectIf (isBlocked ∧ maxLocalRules ≤ engine.blocked.card ∧ (owner, blocked) ∉ engine.blocked)
      (.limitExceeded "block rules")
    modify fun engine => { engine with
      blocked :=
        if isBlocked then insert (owner, blocked) engine.blocked
        else engine.blocked.erase (owner, blocked)
      localPolicyEvents :=
        engine.localPolicyEvents ++ [⟨generation, .block owner blocked isBlocked⟩]
      localPolicyGeneration := generation }

/-! ## Checks of one hop -/

/-- The opt-out and blocking checks between a sender and a recipient : each other in both
directions, and every member of the parent's path that the recipient has blocked. -/
def admitPair (rules : LocalRules) (parent : Option PropagationItem)
    (sender recipient : CthulhuId) : Except PropagationError Unit := do
  failIf (sender ∈ rules.optedOut ∨ recipient ∈ rules.optedOut) .optedOut
  failIf ((sender, recipient) ∈ rules.blocked ∨ (recipient, sender) ∈ rules.blocked) .blocked
  failIf (parent.any fun parent => parent.provenance.hops.any fun hop =>
    (recipient, hop.sender) ∈ rules.blocked || (recipient, hop.recipient) ∈ rules.blocked) .blocked

def strategyAllows (campaign : Campaign) (profile : CandidateProfile) (depth : ℕ) :
    Except PropagationError String :=
  match campaign.strategy with
  | .breadthFirst => .ok "breadth-first candidate ordered by stable Cthulhu ID"
  | .depthLimited limit => do
    failIf (limit < depth) .depthExceeded
    return s!"depth {depth} is within strategy limit {limit}"
  | .trustedBranchOnly => do
    failIf (!profile.trusted) .strategyRejected
    return "recipient is in the locally trusted branch set"
  | .capabilityTargeted capability => do
    failIf (capability ∉ profile.capabilityTags) .strategyRejected
    return s!"recipient advertises required capability {capability}"
  | .geographicOrLatencyAware preferredRegion maxLatencyMs => do
    let latency ← okOr profile.latencyMs .strategyRejected
    failIf (maxLatencyMs < latency ∨ preferredRegion.any fun region => profile.region ≠ some region)
      .strategyRejected
    return s!"recipient location and {latency}ms latency satisfy local bounds"
  | .reputationThresholded minimumBps acceptedSources => do
    let value := reputationValue profile acceptedSources
    failIf (value < minimumBps) .strategyRejected
    return s!"selected provenance-bearing reputation signal {value}bps meets threshold"

def isTrusted (id : CthulhuId) : Bool :=
  (engine.candidateProfiles.get id).any (·.trusted)

def validateDepthAndStrategy (campaign : Campaign)
    (parent : Option PropagationItem) (recipient : CthulhuId) (depth : ℕ) :
    Except PropagationError String := do
  failIf (depth = 0 ∨ campaign.policy.maxDepth < depth ∨ maxProvenanceHops < depth) .depthExceeded
  failIf (parent.any fun parent => parent.provenance.hops.any fun hop =>
    hop.sender = recipient || hop.recipient = recipient) .referralLoop
  let profile ← okOr (engine.candidateProfiles.get recipient) .candidateUnknown
  failIf (campaign.policy.visibility = .councilMembers ∧
    campaign.councilId ∉ profile.councilMemberships) .visibilityDenied
  if campaign.strategy = .trustedBranchOnly then
    failIf (!profile.trusted) .strategyRejected
    failIf (parent.any fun parent => !parent.provenance.hops.all fun hop =>
      engine.isTrusted hop.sender && engine.isTrusted hop.recipient) .strategyRejected
  strategyAllows campaign profile depth

/-! ## Items -/

/-- The hops of an item in order, each after `previous` and with the members `seen` so
far. -/
def validateHops (campaign : Campaign) (seen : Finset CthulhuId) (previous : Option ProvenanceHop) :
    List ProvenanceHop → Except PropagationError Unit
  | [] => .ok ()
  | hop :: hops => do
    validateHash hop.senderProfileHash
    validateHash hop.recipientProfileHash
    failIf (hop.sentAt < campaign.createdAt ∨ campaign.expiresAt ≤ hop.sentAt ∨
      hop.recipient ∈ seen) .forgedProvenance
    failIf (previous.any fun previous => previous.recipient ≠ hop.sender ||
        previous.recipientProfileHash ≠ hop.senderProfileHash ||
        previous.localPolicyGeneration > hop.localPolicyGeneration)
      .forgedProvenance
    validateHops campaign (insert hop.recipient seen) (some hop) hops

def validateParentLink :
    Except PropagationError Unit :=
  match item.parentItemId with
  | some parentId => do
    let parent ← okOr (engine.items.get parentId) .itemNotFound
    failIf (parent.campaignId ≠ item.campaignId ∨ parent.recipient ≠ item.sender ∨
      parent.provenance.hops ≠ item.provenance.hops.dropLast) .forgedProvenance
  | none => failIf (item.depth ≠ 1) .forgedProvenance

def validateItemValue (now : ℤ) :
    Except PropagationError Unit := do
  let campaign ← okOr (engine.campaigns.get item.campaignId) .campaignNotFound
  failIf (item.policyVersion ≠ campaign.policy.version ∨
    item.payloadHash ≠ campaign.payloadHash ∨ item.expiresAt ≠ campaign.expiresAt) .policyMismatch
  failIf (now < item.createdAt ∨ item.expiresAt ≤ now) .campaignExpired
  failIf (item.depth ≠ item.provenance.hops.length ∨ item.depth = 0 ∨
    campaign.policy.maxDepth < item.depth) .depthExceeded
  failIf (item.provenance.root ≠ campaign.root) .forgedProvenance
  let first ← okOr item.provenance.hops.head? .forgedProvenance
  let last ← okOr item.provenance.hops.getLast? .forgedProvenance
  failIf (first.sender ≠ campaign.root ∨ last.itemId ≠ item.id ∨ last.sender ≠ item.sender ∨
      last.recipient ≠ item.recipient ∨ last.sentAt ≠ item.createdAt ∨
      engine.localPolicyGeneration < last.localPolicyGeneration)
    .forgedProvenance
  let senderProfile ← okOr (engine.candidateProfiles.get item.sender) .candidateUnknown
  let recipientProfile ← okOr (engine.candidateProfiles.get item.recipient) .candidateUnknown
  let senderProfileHash ← profileHash senderProfile
  failIf (senderProfileHash ≠ last.senderProfileHash) .forgedProvenance
  let recipientProfileHash ← profileHash recipientProfile
  failIf (recipientProfileHash ≠ last.recipientProfileHash) .forgedProvenance
  validateHops campaign {campaign.root} none item.provenance.hops
  engine.validateParentLink item
  let expected ← provenanceHash campaign.id campaign.payloadHash campaign.policy.version
    item.provenance.hops
  failIf (expected ≠ item.provenance.chainHash) .forgedProvenance

/-! ## Sending -/

def findParent :
    Except PropagationError (Option PropagationItem) :=
  match parentItemId with
  | none => .ok none
  | some id => some <$> okOr (engine.items.get id) .itemNotFound

/-- What `send_with_validator` does with a new item identifier before it writes. -/
def prepareDelivery (now : ℤ) (validator : PropagationPolicyValidator) :
    Except PropagationError (PropagationItem × PropagationExplanation) := do
  failIf (maxItems ≤ engine.items.len) (.limitExceeded "propagation items")
  failIf (authenticatedSender = recipient) .selfReferral
  let campaign ← okOr (engine.campaigns.get campaignId) .campaignNotFound
  let parent ← engine.findParent parentItemId
  let strictReason ← strictHopValidator campaign parent authenticatedSender recipient now
  let localReason ← validator campaign parent authenticatedSender recipient now
  validateText localReason maxShortTextBytes "local policy explanation" false
  admitPair engine.rules parent authenticatedSender recipient
  failIf (parent.any fun parent => parent.campaignId ≠ campaign.id ||
    parent.policyVersion ≠ campaign.policy.version || parent.payloadHash ≠ campaign.payloadHash)
    .policyMismatch
  let depth := parent.elim 1 fun item => min (item.depth + 1) u8Max
  let strategyReason ← engine.validateDepthAndStrategy campaign parent recipient depth
  let senderProfile ← okOr (engine.candidateProfiles.get authenticatedSender) .candidateUnknown
  let recipientProfile ← okOr (engine.candidateProfiles.get recipient) .candidateUnknown
  let senderProfileHash ← profileHash senderProfile
  let recipientProfileHash ← profileHash recipientProfile
  failIf (engine.items.values.any fun item =>
    item.campaignId = campaign.id && item.recipient = recipient) .duplicateDelivery
  let fanOut := engine.items.values.countP fun item =>
    item.campaignId = campaign.id && item.sender = authenticatedSender
  failIf (campaign.policy.maxFanOut ≤ fanOut) .fanOutExceeded
  let recent := engine.rateRecords.countP fun record =>
    record.campaignId = campaign.id && record.sender = authenticatedSender &&
      now - campaign.policy.rateWindowSeconds < record.sentAt && record.sentAt ≤ now
  failIf (campaign.policy.perSenderRateLimit ≤ recent) .rateLimited
  let hops := parent.elim [] fun item => item.provenance.hops
  failIf (hops.any fun hop => hop.sender = recipient || hop.recipient = recipient) .referralLoop
  failIf (parent = none ∧ authenticatedSender ≠ campaign.root) .senderMismatch
  let hop : ProvenanceHop :=
    { itemId, sender := authenticatedSender, recipient, sentAt := now
      localPolicyGeneration := engine.localPolicyGeneration
      senderProfileHash, recipientProfileHash }
  let chainHash ← provenanceHash campaign.id campaign.payloadHash campaign.policy.version
    (hops ++ [hop])
  let item : PropagationItem :=
    { id := itemId, campaignId := campaign.id, parentItemId, sender := authenticatedSender
      recipient, depth, policyVersion := campaign.policy.version
      payloadHash := campaign.payloadHash, createdAt := now, expiresAt := campaign.expiresAt
      provenance := { root := campaign.root, hops := hops ++ [hop], chainHash }
      status := .pending }
  engine.validateItemValue item now
  return (item,
    { allowed := true
      reasons := [strictReason, localReason, strategyReason,
        "duplicate, loop, depth, fan-out, rate, opt-out, and blocking checks passed"]
      depth
      remainingFanOut := campaign.policy.maxFanOut - fanOut - 1 })

def sendWithValidator (now : ℤ)
    (validator : PropagationPolicyValidator) : Op DeliveryResult := do
  let engine ← get
  match engine.items.get itemId with
  | some existing =>
    if existing.campaignId = campaignId ∧ existing.parentItemId = parentItemId ∧
        existing.sender = authenticatedSender ∧ existing.recipient = recipient then
      return .replaySuppressed existing
    else
      throw .messageIdConflict
  | none =>
    let (item, explanation) ← engine.prepareDelivery campaignId parentItemId itemId
      authenticatedSender recipient now validator
    modify fun engine => { engine with
      items := engine.items.insert itemId item
      rateRecords := engine.rateRecords ++
        [{ itemId, campaignId := item.campaignId, sender := authenticatedSender, sentAt := now }] }
    return .created item explanation

def sendInitial (now : ℤ) : Op DeliveryResult :=
  sendWithValidator campaignId none itemId authenticatedSender recipient now noAdditionalHopPolicy

def forward (parentItemId itemId : PropagationItemId) (authenticatedSender recipient : CthulhuId)
    (now : ℤ) : Op DeliveryResult := do
  let engine ← get
  let parent ← orReject (engine.items.get parentItemId) .itemNotFound
  sendWithValidator parent.campaignId (some parentItemId) itemId authenticatedSender recipient now
    noAdditionalHopPolicy

/-! ## Responses and acknowledgements -/

/-- The item, after checking that its campaign has not been revoked. -/
def liveItem :
    Except PropagationError PropagationItem := do
  let item ← okOr (engine.items.get itemId) .itemNotFound
  let campaign ← okOr (engine.campaigns.get item.campaignId) .campaignNotFound
  failIf campaign.revokedAt.isSome .campaignRevoked
  return item

def setStatus (status : ItemStatus)
    (engine : PropagationEngine) : PropagationEngine :=
  { engine with items := engine.items.insert itemId { item with status } }

def respond (authenticatedRecipient : CthulhuId) (accept : Bool)
    (now : ℤ) : Op ItemStatus := do
  let engine ← get
  let item ← engine.liveItem itemId
  rejectIf (item.recipient ≠ authenticatedRecipient) .senderMismatch
  rejectIf (now < item.createdAt ∨ item.expiresAt ≤ now) .campaignExpired
  let desired : ItemStatus := if accept then .accepted else .rejected
  if item.status = .pending then
    modify (setStatus itemId item desired)
    return desired
  else
    rejectIf (item.status ≠ desired) .conflictingResponse
    return item.status

def acknowledgeOutcome (acknowledgementId : AcknowledgementId)
    (authenticatedRecipient : CthulhuId) (outcome : ContributionOutcome) (evidenceHash : String)
    (now : ℤ) : Op Acknowledgement := do
  validateHash evidenceHash
  let engine ← get
  match engine.acknowledgements.get acknowledgementId with
  | some existing =>
    rejectIf (¬(existing.itemId = itemId ∧ existing.actor = authenticatedRecipient ∧
      existing.outcome = outcome ∧ existing.evidenceHash = evidenceHash)) .acknowledgementConflict
    return existing
  | none =>
    rejectIf (maxAcknowledgements ≤ engine.acknowledgements.len) (.limitExceeded "acknowledgements")
    let item ← engine.liveItem itemId
    rejectIf (item.recipient ≠ authenticatedRecipient) .fakeAcknowledgement
    rejectIf (item.status ≠ .accepted ∨ now < item.createdAt ∨ item.expiresAt ≤ now)
      .fakeAcknowledgement
    modify (setStatus itemId item .acknowledged)
    modify fun engine => { engine with
      acknowledgements := engine.acknowledgements.insert acknowledgementId
        { id := acknowledgementId, itemId, actor := authenticatedRecipient, outcome, evidenceHash
          acknowledgedAt := now } }
    let engine ← get
    orReject (engine.acknowledgements.get acknowledgementId) .acknowledgementNotFound

def acknowledge (acknowledgementId : AcknowledgementId)
    (authenticatedRecipient : CthulhuId) (now : ℤ) : Op Acknowledgement :=
  acknowledgeOutcome itemId acknowledgementId authenticatedRecipient
    .acknowledgedDownstreamDelivery (contentHashOf ("delivery:" ++ itemId.text)) now

def revokeCampaign (authenticatedRoot : CthulhuId) (reason : String)
    (now : ℤ) : Op Unit := do
  validateText reason maxShortTextBytes "revocation reason" false
  let engine ← get
  let campaign ← orReject (engine.campaigns.get campaignId) .campaignNotFound
  rejectIf (campaign.root ≠ authenticatedRoot) .senderMismatch
  rejectIf (now < campaign.createdAt) .invalidTimestamp
  if campaign.revokedAt = none then
    modify fun engine => { engine with
      campaigns := engine.campaigns.insert campaignId
        { campaign with revokedAt := some now, revocationReason := some reason } }

/-! ## Credit -/

/-- The credit entry of a contributor to a campaign. -/
def creditFor (contributor : CthulhuId) (credit : ContributionCredit) :
    Bool :=
  credit.campaignId = campaignId && credit.cthulhuId = contributor

/-- The points of the first entry of a contributor, as `record_outcome` reads them. -/
def contributorPoints
    (contributor : CthulhuId) : ℕ :=
  (engine.credits.find? (creditFor campaignId contributor)).elim 0 (·.points)

def campaignPoints : ℕ :=
  ((engine.credits.filter (·.campaignId = campaignId)).map (·.points)).foldl
    (fun total points => min (total + points) u16Max) 0

/-- Add to the contributor's first entry, or push a new one. -/
def addCredit (campaignId : CampaignId) (contributor : CthulhuId) (awarded : ℕ) :
    List ContributionCredit → List ContributionCredit
  | [] => [⟨campaignId, contributor, awarded, 1⟩]
  | credit :: credits =>
    if creditFor campaignId contributor credit then
      { credit with
        points := min (credit.points + awarded) u16Max
        creditedOutcomes := min (credit.creditedOutcomes + 1) u16Max } :: credits
    else credit :: addCredit campaignId contributor awarded credits

/-- What `record_outcome` awards a claim, before it writes. -/
def evaluateOutcome (claim : OutcomeClaim) (model : IncentiveModel) :
    Except PropagationError (ℕ × ProposedCredit) := do
  validateHash claim.evidenceHash
  failIf (engine.outcomes.contains claim.id) .duplicateOutcome
  failIf (claim.acknowledgementId ∈ engine.usedAcknowledgements) .duplicateCreditEvidence
  failIf (claim.contributor = claim.beneficiary) .selfReferral
  let campaign ← okOr (engine.campaigns.get claim.campaignId) .campaignNotFound
  failIf (campaign.revokedAt.isSome ∨ campaign.expiresAt ≤ claim.occurredAt) .campaignRevoked
  let item ← okOr (engine.items.get claim.itemId) .itemNotFound
  let acknowledgement ← okOr (engine.acknowledgements.get claim.acknowledgementId)
    .acknowledgementNotFound
  failIf (item.campaignId ≠ claim.campaignId ∨ item.sender ≠ claim.contributor ∨
      item.recipient ≠ claim.beneficiary ∨ acknowledgement.itemId ≠ item.id ∨
      acknowledgement.actor ≠ claim.beneficiary ∨ acknowledgement.outcome ≠ claim.outcome ∨
      acknowledgement.evidenceHash ≠ claim.evidenceHash ∨ item.status ≠ .acknowledged ∨
      claim.occurredAt < acknowledgement.acknowledgedAt)
    .invalidCreditEvidence
  validateOutcomeKind campaign.payload claim.outcome
  let proposed := model { campaign, item, claim }
  validateText proposed.reason maxShortTextBytes "credit reason" false
  let existing := engine.contributorPoints claim.campaignId claim.contributor
  let awarded := min (min (min proposed.points maxCreditPerOutcome)
    (maxCreditPerCthulhuPerCampaign - existing))
    (maxTotalCampaignCredit - engine.campaignPoints claim.campaignId)
  failIf (awarded = 0) .creditCapReached
  return (awarded, proposed)

def recordOutcome (claim : OutcomeClaim) (model : IncentiveModel) : Op CreditExplanation := do
  let engine ← get
  let (awarded, proposed) ← engine.evaluateOutcome claim model
  modify fun engine => { engine with
    credits := addCredit claim.campaignId claim.contributor awarded engine.credits
    usedAcknowledgements := insert claim.acknowledgementId engine.usedAcknowledgements
    outcomes := engine.outcomes.insert claim.id claim }
  return {
    awardedPoints := awarded
    reason := s!"{proposed.reason}; no ancestor or recruitment-count credit was assigned"
    directContributorOnly := true
    contributorCampaignTotal :=
      engine.contributorPoints claim.campaignId claim.contributor + awarded }

end PropagationEngine

end Cthuwu.Propagation
