import Cthuwu.Lib.Replay
import Cthuwu.Lib.Window
import Cthuwu.Propagation.Engine

/-!
# Reloading a persisted engine

`validate_loaded_state_with_policy` : the checks a restored engine must pass before the
service forwards from it again, one definition per stage in the order of the source. A
stage that collects a set or counts into a map hands it to the stages after it.
-/

namespace Cthuwu.Propagation

open Council

variable [Hashing]

variable (engine : PropagationEngine) (now : ℤ) (item : PropagationItem)
  (validator : PropagationPolicyValidator) (rules : LocalRules)

namespace PropagationEngine

/-! ## Size limits and map entries -/

def validateLimits : Except PropagationError Unit :=
  failIf (now < 0 ∨ maxCampaigns < engine.campaigns.len ∨ maxItems < engine.items.len ∨
      maxAcknowledgements < engine.acknowledgements.len ∨
      maxCandidates < engine.candidateProfiles.len ∨ maxLocalRules < engine.optedOut.card ∨
      maxLocalRules < engine.blocked.card ∨
      maxLocalPolicyEvents < engine.localPolicyEvents.length ∨
      maxItems < engine.rateRecords.length ∨ maxAcknowledgements < engine.outcomes.len ∨
      maxAcknowledgements < engine.usedAcknowledgements.card ∨
      maxCandidates * maxCampaigns < engine.credits.length)
    (.limitExceeded "persisted state")

def validateCampaignEntry (entry : CampaignId × Campaign) : Except PropagationError Unit := do
  failIf (entry.1 ≠ entry.2.id) (.corruptState "campaign map key")
  entry.2.validate

def validateCandidateEntry (entry : CthulhuId × CandidateProfile) :
    Except PropagationError Unit := do
  failIf (entry.1 ≠ entry.2.cthulhuId) (.corruptState "candidate map key")
  entry.2.validate

/-- The time at which a stored item is checked : `now`, moved into the item's lifetime. -/
def checkTime : ℤ :=
  max (min now (i64SaturatingSub item.expiresAt 1)) item.createdAt

def validateItemEntry
    (entry : PropagationItemId × PropagationItem) : Except PropagationError Unit := do
  failIf (entry.1 ≠ entry.2.id) (.corruptState "item map key")
  engine.validateItemValue entry.2 (checkTime now entry.2)

def validateItems : Except PropagationError Unit := do
  let _ ← insertAll (engine.validateItemEntry now)
    (fun entry => (entry.2.campaignId, entry.2.recipient)) .duplicateDelivery
    (fun _ _ => .ok ()) ∅ engine.items.pairs

/-! ## Policy history -/

/-- Insert or remove the rule of an event. Returns whether that changed anything. -/
def toggleRule : LocalPolicyEventKind → Bool × LocalRules
  | .optOut cthulhuId true =>
    (decide (cthulhuId ∉ rules.optedOut),
      { rules with optedOut := insert cthulhuId rules.optedOut })
  | .optOut cthulhuId false =>
    (decide (cthulhuId ∈ rules.optedOut),
      { rules with optedOut := rules.optedOut.erase cthulhuId })
  | .block owner blocked true =>
    (decide ((owner, blocked) ∉ rules.blocked),
      { rules with blocked := insert (owner, blocked) rules.blocked })
  | .block owner blocked false =>
    (decide ((owner, blocked) ∈ rules.blocked),
      { rules with blocked := rules.blocked.erase (owner, blocked) })

def isSelfBlock : LocalPolicyEventKind → Bool
  | .optOut .. => false
  | .block owner blocked _ => owner = blocked

/-- Apply one event, which has to change something. -/
def applyLocalPolicyEvent (event : LocalPolicyEvent) :
    Except PropagationError LocalRules := do
  failIf (isSelfBlock event.event) (.corruptState "self block rule")
  let (changed, rules) := toggleRule rules event.event
  failIf (!changed ∨ maxLocalRules < rules.optedOut.card ∨ maxLocalRules < rules.blocked.card)
    (.corruptState "local policy event")
  return rules

/-- The generation of an item's last hop, `u64::MAX` when it has none. -/
def lastGeneration : ℕ :=
  item.provenance.hops.getLast?.elim u64Max (·.localPolicyGeneration)

/-- By generation, then by identifier. -/
def itemOrder (left right : PropagationItem) : Prop :=
  lastGeneration left < lastGeneration right ∨
    (lastGeneration left = lastGeneration right ∧ left.id.text ≤ right.id.text)

instance : DecidableRel itemOrder := fun left right =>
  inferInstanceAs (Decidable (_ < _ ∨ (_ = _ ∧ left.id.text ≤ right.id.text)))

/-- The generation an item was sent in. -/
def itemGeneration :
    Except PropagationError ℕ := do
  let last ← okOr item.provenance.hops.getLast? .forgedProvenance
  failIf (engine.localPolicyGeneration < last.localPolicyGeneration) .forgedProvenance
  return last.localPolicyGeneration

def validateLoadedItemPolicy (item : PropagationItem) : Except PropagationError Unit := do
  let campaign ← okOr (engine.campaigns.get item.campaignId) .campaignNotFound
  failIf (campaign.revokedAt.any fun revokedAt => revokedAt ≤ item.createdAt) .campaignRevoked
  let parent ← engine.findParent item.parentItemId
  match parent with
  | none => failIf (item.sender ≠ campaign.root) .senderMismatch
  | some parent => do
    failIf (parent.recipient ≠ item.sender) .senderMismatch
    failIf (!parent.status.isAccepted) .parentNotAccepted
  admitPair rules parent item.sender item.recipient
  let _ ← engine.validateDepthAndStrategy campaign parent item.recipient item.depth
  let localReason ← validator campaign parent item.sender item.recipient item.createdAt
  validateText localReason maxShortTextBytes "local policy explanation" false

def validateLoadedPolicyHistory : Except PropagationError Unit := do
  failIf (engine.localPolicyGeneration ≠ engine.localPolicyEvents.length)
    (.corruptState "local policy generation")
  let final ← replayNumbered LocalPolicyEvent.generation (.corruptState "local policy generation")
    applyLocalPolicyEvent 0 ⟨∅, ∅⟩ engine.localPolicyEvents
  failIf (final ≠ engine.rules) (.corruptState "local policy state")
  sweep LocalPolicyEvent.generation applyLocalPolicyEvent engine.itemGeneration
    (engine.validateLoadedItemPolicy validator) ⟨∅, ∅⟩ engine.localPolicyEvents
    (engine.items.values.insertionSort itemOrder)

/-! ## Fan-out and rate -/

/-- The number of items of each campaign and sender. -/
def fanOut : HashMap (CampaignId × CthulhuId) ℕ :=
  groupBy (fun item : PropagationItem => (item.campaignId, item.sender)) 0
    (fun count _ => count + 1) engine.items.values

def validateFanOut (entry : (CampaignId × CthulhuId) × ℕ) :
    Except PropagationError Unit := do
  let campaign ← okOr (engine.campaigns.get entry.1.1) .campaignNotFound
  failIf (campaign.policy.maxFanOut < entry.2) (.corruptState "fan-out bound")

def validateRateRecords : Except PropagationError Unit := do
  let rateItemIds ← insertAll
    (fun record : RateRecord => okOr (engine.items.get record.itemId) (.corruptState "rate item"))
    (·.itemId) (.corruptState "rate record")
    (fun record item => failIf (record.campaignId ≠ item.campaignId ∨ record.sender ≠ item.sender ∨
      record.sentAt ≠ item.createdAt) (.corruptState "rate record"))
    ∅ engine.rateRecords
  failIf (rateItemIds.card ≠ engine.items.len) (.corruptState "missing rate record")

/-- The times of the sends of each campaign and sender. -/
def rateGroups : HashMap (CampaignId × CthulhuId) (List ℤ) :=
  groupBy (fun record : RateRecord => (record.campaignId, record.sender)) []
    (fun timestamps record => timestamps ++ [record.sentAt]) engine.rateRecords

def validateRateGroup (entry : (CampaignId × CthulhuId) × List ℤ) :
    Except PropagationError Unit := do
  let campaign ← okOr (engine.campaigns.get entry.1.1) .campaignNotFound
  checkWindows (i64SaturatingSub · campaign.policy.rateWindowSeconds)
    campaign.policy.perSenderRateLimit (.corruptState "rate bound")
    (entry.2.insertionSort (· ≤ ·))

/-! ## Acknowledgements, outcomes and credit -/

def findAcknowledgedItem
    (entry : AcknowledgementId × Acknowledgement) : Except PropagationError PropagationItem := do
  failIf (entry.1 ≠ entry.2.id) (.corruptState "acknowledgement map key")
  let item ← okOr (engine.items.get entry.2.itemId) .itemNotFound
  validateHash entry.2.evidenceHash
  return item

/-- Returns the items that have been acknowledged. -/
def validateAcknowledgements :
    Except PropagationError (Finset PropagationItemId) :=
  insertAll engine.findAcknowledgedItem (·.2.itemId) .fakeAcknowledgement
    (fun entry item => failIf (entry.2.actor ≠ item.recipient ∨
      entry.2.acknowledgedAt < item.createdAt ∨ item.expiresAt ≤ entry.2.acknowledgedAt ∨
      item.status ≠ .acknowledged) .fakeAcknowledgement)
    ∅ engine.acknowledgements.pairs

def validateItemStatus (acknowledgedItems : Finset PropagationItemId) (item : PropagationItem) :
    Except PropagationError Unit :=
  failIf (decide (item.status = .acknowledged) ≠ decide (item.id ∈ acknowledgedItems))
    (.corruptState "item acknowledgement state")

/-- What an outcome refers to. -/
structure Evidence where
  campaign : Campaign
  item : PropagationItem
  acknowledgement : Acknowledgement

def findEvidence (entry : OutcomeId × OutcomeClaim) :
    Except PropagationError Evidence := do
  failIf (entry.1 ≠ entry.2.id ∨ entry.2.contributor = entry.2.beneficiary)
    (.corruptState "outcome metadata")
  let campaign ← okOr (engine.campaigns.get entry.2.campaignId) .campaignNotFound
  let item ← okOr (engine.items.get entry.2.itemId) .itemNotFound
  let acknowledgement ← okOr (engine.acknowledgements.get entry.2.acknowledgementId)
    .acknowledgementNotFound
  return { campaign, item, acknowledgement }

def validateEvidence (claim : OutcomeClaim) (found : Evidence) : Except PropagationError Unit := do
  failIf (found.item.campaignId ≠ claim.campaignId ∨ found.item.sender ≠ claim.contributor ∨
      found.item.recipient ≠ claim.beneficiary ∨ found.acknowledgement.itemId ≠ found.item.id ∨
      found.acknowledgement.actor ≠ claim.beneficiary ∨
      found.acknowledgement.outcome ≠ claim.outcome ∨
      found.acknowledgement.evidenceHash ≠ claim.evidenceHash ∨
      claim.occurredAt < found.acknowledgement.acknowledgedAt ∨
      found.campaign.expiresAt ≤ claim.occurredAt ∨
      found.campaign.revokedAt.any fun revokedAt => revokedAt ≤ claim.occurredAt)
    .invalidCreditEvidence
  validateHash claim.evidenceHash
  validateOutcomeKind found.campaign.payload claim.outcome

def validateOutcomes : Except PropagationError Unit := do
  let expectedUsedAcks ← insertAll engine.findEvidence (·.2.acknowledgementId)
    .invalidCreditEvidence (fun entry found => validateEvidence entry.2 found) ∅
    engine.outcomes.pairs
  failIf (expectedUsedAcks ≠ engine.usedAcknowledgements) (.corruptState "used acknowledgements")

/-- The recorded outcomes of a contributor to a campaign. -/
def outcomeCount (campaignId : CampaignId) (contributor : CthulhuId) :
    ℕ :=
  engine.outcomes.values.countP fun claim =>
    claim.campaignId = campaignId && claim.contributor = contributor

def validateCredits : Except PropagationError Unit := do
  let _ ← insertAll
    (fun credit : ContributionCredit => failIf (credit.points = 0 ∨
      maxCreditPerCthulhuPerCampaign < credit.points) (.corruptState "credit bounds"))
    (fun credit => (credit.campaignId, credit.cthulhuId)) (.corruptState "credit bounds")
    (fun credit _ =>
      failIf (engine.outcomeCount credit.campaignId credit.cthulhuId ≠ credit.creditedOutcomes ∨
        engine.outcomeCount credit.campaignId credit.cthulhuId * maxCreditPerOutcome < credit.points)
        (.corruptState "credit evidence"))
    ∅ engine.credits

def validateCampaignCredit (entry : CampaignId × Campaign) :
    Except PropagationError Unit :=
  failIf (maxTotalCampaignCredit < engine.campaignPoints entry.1)
    (.corruptState "campaign credit cap")

def validateLoadedStateWithPolicy : Except PropagationError Unit := do
  engine.validateLimits now
  engine.campaigns.pairs.forM validateCampaignEntry
  engine.candidateProfiles.pairs.forM validateCandidateEntry
  failIf (∃ rule ∈ engine.blocked, rule.1 = rule.2) (.corruptState "self block rule")
  engine.validateItems now
  engine.validateLoadedPolicyHistory validator
  engine.fanOut.pairs.forM engine.validateFanOut
  engine.validateRateRecords
  engine.rateGroups.pairs.forM engine.validateRateGroup
  let acknowledgedItems ← engine.validateAcknowledgements
  engine.items.values.forM (validateItemStatus acknowledgedItems)
  engine.validateOutcomes
  engine.validateCredits
  engine.campaigns.pairs.forM engine.validateCampaignCredit

def validateLoadedState : Except PropagationError Unit :=
  engine.validateLoadedStateWithPolicy now noAdditionalHopPolicy

end PropagationEngine

end Cthuwu.Propagation
