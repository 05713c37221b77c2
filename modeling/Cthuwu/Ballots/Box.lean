import Mathlib.Algebra.BigOperators.Group.List.Basic
import Mathlib.Data.Int.Notation
import Cthuwu.Lib.Maps
import Cthuwu.TokenEye.Address

/-!
# Ballot boxes of token holders

A box collects one ballot of each voter on a proposal. A ballot weighs what the voter holds, in basis
points, and effectively what a multiplier of the voter's tier makes of it. All weights are of sixteen
bits, and a tally adds them up without wrapping : a sum that does not fit is the greatest weight.
-/

namespace Cthuwu.Ballots

open TokenEye (Address)

/-- What a tier of the token eye counts for, the least first. -/
inductive ReputationTier
  | unproven
  | initiate
  | acolyte
  | elder
  | whale

def ReputationTier.priority : ReputationTier → ℕ
  | unproven => 0
  | initiate => 1
  | acolyte => 2
  | elder => 3
  | whale => 4

def ReputationTier.meets (tier minimum : ReputationTier) : Bool :=
  minimum.priority ≤ tier.priority

def normalizedWeightMaxBps : UInt16 := 10000

abbrev TokenProposalId := BitVec 256

inductive GovernanceSubject
  | natureAdjustment
  | councilPolicy
  | economicPolicy
  | skillPropagationPriority
  | lifecyclePolicy
  | revenueSharePolicy
  | spawnPolicy

inductive BallotChoice
  | yes
  | no
  | abstain
  deriving DecidableEq

inductive TokenGovernanceError
  | invalidPolicy (reason : String)
  | weightOutOfRange (field : String) (value : UInt16)
  | duplicateBallot (voter : Address)
  | tierBelowMinimum (actual minimum : ReputationTier)
  | eligibleWeightExceeded

open TokenGovernanceError

def validateNormalized (field : String) (value : UInt16) : Except TokenGovernanceError Unit :=
  failIf (normalizedWeightMaxBps < value) (.weightOutOfRange field value)

/-! ## Weights -/

/-- `saturating_add`. -/
def saturatingAdd (a b : UInt16) : UInt16 :=
  UInt16.ofNat (min (a.toNat + b.toNat) 65535)

/-- `checked_add`. -/
def checkedAdd (a b : UInt16) : Option UInt16 :=
  if a.toNat + b.toNat < 65536 then some (a + b) else none

/-- From neutral at nothing of the scale to full strength at all of it. -/
def interpolateMultiplier (fullStrengthBps natureScaleBps : UInt16) : UInt16 :=
  let delta : ℤ := fullStrengthBps.toNat - 10000
  let interpolated := 10000 + (delta * natureScaleBps.toNat).tdiv 10000
  UInt16.ofNat (max 0 (min interpolated 65535)).toNat

def applyMultiplier (weightBps multiplierBps : UInt16) : UInt16 :=
  UInt16.ofNat (min (weightBps.toNat * multiplierBps.toNat / 10000) 65535)

def ceilBasisPoints (value rateBps : UInt16) : UInt16 :=
  let rounded := (value.toNat * rateBps.toNat + 9999) / 10000
  if rounded < 65536 then UInt16.ofNat rounded else 65535

/-! ## Policies -/

structure TierVoteMultipliers where
  whaleBps : UInt16
  elderBps : UInt16
  acolyteBps : UInt16
  initiateBps : UInt16
  unprovenBps : UInt16

def TierVoteMultipliers.forTier (m : TierVoteMultipliers) : ReputationTier → UInt16
  | .whale => m.whaleBps
  | .elder => m.elderBps
  | .acolyte => m.acolyteBps
  | .initiate => m.initiateBps
  | .unproven => m.unprovenBps

structure TokenGovernancePolicy where
  quorumBps : UInt16
  approvalBps : UInt16
  minimumTier : ReputationTier
  natureTierScaleBps : UInt16
  tierMultipliers : TierVoteMultipliers

namespace TokenGovernancePolicy

def validate (p : TokenGovernancePolicy) : Except TokenGovernanceError TokenGovernancePolicy := do
  validateNormalized "quorum" p.quorumBps
  validateNormalized "approval" p.approvalBps
  validateNormalized "Nature tier scale" p.natureTierScaleBps
  return p

def scaledMultiplier (p : TokenGovernancePolicy) (tier : ReputationTier) : UInt16 :=
  interpolateMultiplier (p.tierMultipliers.forTier tier) p.natureTierScaleBps

end TokenGovernancePolicy

/-! ## Boxes -/

structure TokenBallot where
  voter : Address
  tier : ReputationTier
  holdingWeightBps : UInt16
  effectiveWeightBps : UInt16
  choice : BallotChoice

structure TokenBallotBox where
  proposalId : TokenProposalId
  subject : GovernanceSubject
  eligibleWeightBps : UInt16
  policy : TokenGovernancePolicy
  ballots : HashMap Address TokenBallot
  participatingHoldingBps : UInt16

namespace TokenBallotBox

def new (proposalId : TokenProposalId) (subject : GovernanceSubject) (eligibleWeightBps : UInt16)
    (policy : TokenGovernancePolicy) : Except TokenGovernanceError TokenBallotBox := do
  validateNormalized "eligible weight" eligibleWeightBps
  let policy ← policy.validate
  return ⟨proposalId, subject, eligibleWeightBps, policy, .empty, 0⟩

end TokenBallotBox

structure Cast where
  voter : Address
  tier : ReputationTier
  holdingWeightBps : UInt16
  choice : BallotChoice

def Cast.ballot (c : Cast) (policy : TokenGovernancePolicy) : TokenBallot where
  voter := c.voter
  tier := c.tier
  holdingWeightBps := c.holdingWeightBps
  effectiveWeightBps := applyMultiplier c.holdingWeightBps (policy.scaledMultiplier c.tier)
  choice := c.choice

def cast (c : Cast) : Fallible TokenGovernanceError TokenBallotBox TokenBallot := do
  liftM (validateNormalized "ballot holding weight" c.holdingWeightBps)
  let box ← get
  liftM (failIf (box.ballots.contains c.voter = true) (duplicateBallot c.voter))
  liftM (failIf (c.tier.meets box.policy.minimumTier = false)
    (tierBelowMinimum c.tier box.policy.minimumTier))
  let nextParticipating ← liftM (okOr (checkedAdd box.participatingHoldingBps c.holdingWeightBps)
    eligibleWeightExceeded)
  liftM (failIf (box.eligibleWeightBps < nextParticipating) eligibleWeightExceeded)
  let ballot := c.ballot box.policy
  modify fun box => { box with ballots := box.ballots.insert c.voter ballot }
  modify fun box => { box with participatingHoldingBps := nextParticipating }
  return ballot

/-! ## Tallies -/

structure GovernanceTally where
  ballotCount : ℕ
  yesHoldingBps : UInt16
  noHoldingBps : UInt16
  abstainHoldingBps : UInt16
  participatingHoldingBps : UInt16
  yesEffectiveBps : UInt16
  noEffectiveBps : UInt16
  abstainEffectiveBps : UInt16
  participatingEffectiveBps : UInt16

attribute [ext] GovernanceTally

def GovernanceTally.add (t : GovernanceTally) (ballot : TokenBallot) : GovernanceTally :=
  match ballot.choice with
  | .yes => { t with
      yesHoldingBps := saturatingAdd t.yesHoldingBps ballot.holdingWeightBps
      yesEffectiveBps := saturatingAdd t.yesEffectiveBps ballot.effectiveWeightBps }
  | .no => { t with
      noHoldingBps := saturatingAdd t.noHoldingBps ballot.holdingWeightBps
      noEffectiveBps := saturatingAdd t.noEffectiveBps ballot.effectiveWeightBps }
  | .abstain => { t with
      abstainHoldingBps := saturatingAdd t.abstainHoldingBps ballot.holdingWeightBps
      abstainEffectiveBps := saturatingAdd t.abstainEffectiveBps ballot.effectiveWeightBps }

inductive GovernanceOutcome
  | approved
  | rejected
  | quorumNotMet
  | noDecisiveWeight
  deriving DecidableEq

inductive BindingGovernanceDisposition
  | applyApprovedProposal
  | preserveCurrentPolicyAfterRejection
  | preserveCurrentPolicyWithoutQuorum
  | preserveCurrentPolicyWithoutDecisiveWeight

def GovernanceOutcome.disposition : GovernanceOutcome → BindingGovernanceDisposition
  | approved => .applyApprovedProposal
  | rejected => .preserveCurrentPolicyAfterRejection
  | quorumNotMet => .preserveCurrentPolicyWithoutQuorum
  | noDecisiveWeight => .preserveCurrentPolicyWithoutDecisiveWeight

structure GovernanceResult where
  proposalId : TokenProposalId
  subject : GovernanceSubject
  tally : GovernanceTally
  quorumRequiredWeightBps : UInt16
  quorumMet : Bool
  approvalAchievedBps : UInt16
  approvalRequiredBps : UInt16
  outcome : GovernanceOutcome
  bindingDisposition : BindingGovernanceDisposition

namespace TokenBallotBox

/-- The ballots, counted one after another. -/
def counted (b : TokenBallotBox) : GovernanceTally :=
  b.ballots.values.foldl GovernanceTally.add ⟨b.ballots.len, 0, 0, 0, 0, 0, 0, 0, 0⟩

def tally (b : TokenBallotBox) : GovernanceTally :=
  let t := b.counted
  { t with
    participatingHoldingBps :=
      saturatingAdd (saturatingAdd t.yesHoldingBps t.noHoldingBps) t.abstainHoldingBps
    participatingEffectiveBps :=
      saturatingAdd (saturatingAdd t.yesEffectiveBps t.noEffectiveBps) t.abstainEffectiveBps }

def result (b : TokenBallotBox) : GovernanceResult :=
  let tally := b.tally
  let quorumRequiredWeightBps := ceilBasisPoints b.eligibleWeightBps b.policy.quorumBps
  let quorumMet : Bool := quorumRequiredWeightBps ≤ tally.participatingHoldingBps
  let decisiveWeight := saturatingAdd tally.yesEffectiveBps tally.noEffectiveBps
  let approvalAchievedBps :=
    if decisiveWeight = 0 then 0
    else
      let achieved := tally.yesEffectiveBps.toNat * 10000 / decisiveWeight.toNat
      if achieved < 65536 then UInt16.ofNat achieved else normalizedWeightMaxBps
  let outcome :=
    if quorumMet = false then GovernanceOutcome.quorumNotMet
    else if decisiveWeight = 0 then .noDecisiveWeight
    else if b.policy.approvalBps ≤ approvalAchievedBps then .approved
    else .rejected
  { proposalId := b.proposalId
    subject := b.subject
    tally := tally
    quorumRequiredWeightBps := quorumRequiredWeightBps
    quorumMet := quorumMet
    approvalAchievedBps := approvalAchievedBps
    approvalRequiredBps := b.policy.approvalBps
    outcome := outcome
    bindingDisposition := outcome.disposition }

end TokenBallotBox

end Cthuwu.Ballots
