import Mathlib.Data.Int.Notation
import Cthuwu.Council.Text
import Cthuwu.Lib.Maps

/-!
# Governance data

Documents, proposals and rules of a Council with the checks each makes of itself. Times are
`i64` seconds, versions and revisions unsigned, written as integers and naturals. The member
sets of the source are finite sets, and a proposal's votes a map.

The JSON encoding and SHA-256 come from outside the repository and are the fields of
`Hashing`, with the one property of the digest that the code relies on : its form.
-/

namespace Cthuwu.Governance

open Council

/-! ## Bounds -/

def maxMembers : ℕ := 4096

def maxMembershipSnapshots : ℕ := 16384

def maxOpenProposals : ℕ := 1024

def maxProposals : ℕ := 16384

def maxDocumentBytes : ℕ := 64 * 1024

def maxTextBytes : ℕ := 16 * 1024

def maxShortTextBytes : ℕ := 512

def maxListItems : ℕ := 128

def maxArguments : ℕ := 512

def maxAmendments : ℕ := 256

def maxProposalLifetimeSeconds : ℤ := 31 * 24 * 60 * 60

def u32Max : ℕ := 4294967295

def u64Max : ℕ := 18446744073709551615

inductive GovernanceError
  | invalidRules
  | invalidDocument (field : String)
  | invalidHash
  | limitExceeded (what : String)
  | invalidDeadline
  | invalidTimestamp
  | notMember
  | notEligible
  | duplicateProposal
  | proposalNotFound
  | proposalClosed
  | votingStillOpen
  | parentMismatch
  | notAnAction
  | actionNotRatified
  | invalidRatificationEvidence
  | serialization (cause : String)
  | corruptState (what : String)
  deriving DecidableEq

/-! ## Text checks -/

def validateHash (value : String) : Except GovernanceError Unit :=
  failIf (!isContentHash value) .invalidHash

def validateHashOpt : Option String → Except GovernanceError Unit
  | some value => validateHash value
  | none => .ok ()

def validateText (value : String) (max : ℕ) (field : String) (singleLine : Bool) :
    Except GovernanceError Unit :=
  failIf (!isText max singleLine value) (.invalidDocument field)

def validateTextList (values : List String) (field : String) (singleLine : Bool) :
    Except GovernanceError Unit := do
  failIf (values = [] ∨ maxListItems < values.length) (.limitExceeded field)
  values.forM fun value => validateText value maxTextBytes field singleLine

def validateToken (value field : String) : Except GovernanceError Unit :=
  failIf (!isToken ['_', '-', '.'] value) (.invalidDocument field)

/-! ## Documents -/

inductive DocumentKind
  | constitution
  | agenda
  | strategy
  | action
  deriving DecidableEq

structure Constitution where
  version : ℕ
  parentHash : Option String
  principles : List String
  securityInvariants : List String
  deriving DecidableEq

def Constitution.validate (c : Constitution) : Except GovernanceError Unit := do
  failIf (c.version = 0) (.invalidDocument "constitution version must be positive")
  validateHashOpt c.parentHash
  validateTextList c.principles "principles" false
  validateTextList c.securityInvariants "security invariants" false

structure Agenda where
  version : ℕ
  parentHash : Option String
  summary : String
  goals : List String
  deriving DecidableEq

def Agenda.validate (a : Agenda) : Except GovernanceError Unit := do
  failIf (a.version = 0) (.invalidDocument "agenda version must be positive")
  validateHashOpt a.parentHash
  validateText a.summary maxTextBytes "agenda summary" false
  validateTextList a.goals "agenda goals" false

structure Strategy where
  agendaHash : String
  title : String
  approach : String
  tradeoffs : List String
  deriving DecidableEq

def Strategy.validate (s : Strategy) : Except GovernanceError Unit := do
  validateHash s.agendaHash
  validateText s.title maxShortTextBytes "strategy title" true
  validateText s.approach maxTextBytes "strategy approach" false
  validateTextList s.tradeoffs "strategy tradeoffs" true

inductive SelfTestSuite
  | envelopeValidation
  | routingDeterminism
  | leaseGeneration
  | persistenceReplay
  deriving DecidableEq

inductive ResourceSummaryField
  | capabilityClasses
  | availableCapacity
  | memoryModes
  | privacyProperties
  | protocolVersions
  deriving DecidableEq

inductive GovernanceAction
  | capabilityRefresh (target : Option CthulhuId)
  | protocolSelfTest (suite : SelfTestSuite)
  | localResourceSummary (fields : List ResourceSummaryField)
  | routingScenarioEvaluation (scenarioId : String)
  deriving DecidableEq

def GovernanceAction.validate : GovernanceAction → Except GovernanceError Unit
  | capabilityRefresh _ => .ok ()
  | protocolSelfTest _ => .ok ()
  | localResourceSummary fields => do
    failIf (fields = [] ∨ 16 < fields.length) (.limitExceeded "resource summary fields")
    failIf (fields.toFinset.card ≠ fields.length) (.invalidDocument "duplicate resource summary field")
  | routingScenarioEvaluation scenarioId => validateToken scenarioId "scenario id"

structure ActionDocument where
  agendaHash : Option String
  action : GovernanceAction
  rationale : String
  deriving DecidableEq

def ActionDocument.validate (d : ActionDocument) : Except GovernanceError Unit := do
  validateHashOpt d.agendaHash
  d.action.validate
  validateText d.rationale maxTextBytes "action rationale" false

inductive GovernanceDocument
  | constitution (value : Constitution)
  | agenda (value : Agenda)
  | strategy (value : Strategy)
  | action (value : ActionDocument)
  deriving DecidableEq

def GovernanceDocument.kind : GovernanceDocument → DocumentKind
  | constitution _ => .constitution
  | agenda _ => .agenda
  | strategy _ => .strategy
  | action _ => .action

/-! ## Hashes -/

/-- The encoding and the digest the engine takes from other crates. -/
class Hashing where
  documentJson : GovernanceDocument → Except String String
  /-- The lowercase hexadecimal digits of the digest. -/
  sha256 : List UInt8 → String
  /-- A digest has 64 of them. -/
  sha256_hex : ∀ bytes, isContentHash (hashStart ++ sha256 bytes) = true

def utf8 (value : String) : List UInt8 :=
  value.toUTF8.data.toList

/-- `u64::to_be_bytes`. -/
def toBeBytes (n : ℕ) : List UInt8 :=
  (List.range 8).reverse.map fun i => UInt8.ofNat (n / 256 ^ i)

variable [Hashing]

/-- `format!("sha256:{:x}", Sha256::digest(bytes))`. -/
def contentHashOf (bytes : List UInt8) : String :=
  hashStart ++ Hashing.sha256 bytes

theorem validateHash_contentHashOf (bytes : List UInt8) :
    validateHash (contentHashOf bytes) = .ok () := by
  unfold validateHash contentHashOf
  rw [Hashing.sha256_hex]
  rfl

def GovernanceDocument.toJson (d : GovernanceDocument) : Except GovernanceError String :=
  (Hashing.documentJson d).mapError .serialization

def GovernanceDocument.validate (d : GovernanceDocument) : Except GovernanceError Unit := do
  match d with
  | constitution value => value.validate
  | agenda value => value.validate
  | strategy value => value.validate
  | action value => value.validate
  let encoded ← d.toJson
  failIf (maxDocumentBytes < encoded.utf8ByteSize) (.limitExceeded "document bytes")

def GovernanceDocument.contentHash (d : GovernanceDocument) : Except GovernanceError String := do
  d.validate
  let encoded ← d.toJson
  return contentHashOf (utf8 encoded)

/-! ## Proposals -/

inductive ProposalStatus
  | open
  | ratified
  | rejected
  | expired
  | parentConflict
  deriving DecidableEq

inductive Position
  | support
  | oppose

inductive VoteChoice
  | support
  | oppose
  | abstain
  deriving DecidableEq

structure Argument where
  author : CthulhuId
  position : Position
  text : String
  submittedAt : ℤ

structure AmendmentSuggestion where
  author : CthulhuId
  text : String
  submittedAt : ℤ

structure VoteRecord where
  choice : VoteChoice
  castAt : ℤ
  revision : ℕ

structure Proposal where
  id : ProposalId
  councilId : CouncilId
  proposer : CthulhuId
  document : GovernanceDocument
  documentHash : String
  createdAt : ℤ
  deadline : ℤ
  status : ProposalStatus
  membershipRevision : ℕ
  membershipHash : String
  membershipBindingIndex : ℕ
  eligibleVoters : Finset CthulhuId
  arguments : List Argument
  amendments : List AmendmentSuggestion
  votes : HashMap CthulhuId VoteRecord

/-! ## Rules -/

structure GovernanceRules where
  quorumBps : ℕ
  approvalBps : ℕ
  constitutionApprovalBps : ℕ
  maxProposalLifetimeSeconds : ℤ

def GovernanceRules.standard : GovernanceRules where
  quorumBps := 5000
  approvalBps := 5001
  constitutionApprovalBps := 6667
  maxProposalLifetimeSeconds := 7 * 24 * 60 * 60

def GovernanceRules.validate (r : GovernanceRules) : Except GovernanceError GovernanceRules := do
  failIf (r.quorumBps = 0 ∨ 10000 < r.quorumBps ∨ r.approvalBps = 0 ∨ 10000 < r.approvalBps ∨
    r.constitutionApprovalBps ≤ r.approvalBps ∨ 10000 < r.constitutionApprovalBps) .invalidRules
  failIf (r.maxProposalLifetimeSeconds ≤ 0 ∨
    Governance.maxProposalLifetimeSeconds < r.maxProposalLifetimeSeconds) .invalidRules
  return r

def GovernanceRules.threshold (r : GovernanceRules) : DocumentKind → ℕ
  | .constitution => r.constitutionApprovalBps
  | _ => r.approvalBps

/-! ## Tallies -/

structure Tally where
  support : ℕ
  oppose : ℕ
  abstain : ℕ
  participating : ℕ
  nonAbstaining : ℕ
  deriving DecidableEq

/-- `Tally::from`. -/
def Tally.of (proposal : Proposal) : Tally :=
  let count choice := proposal.votes.values.countP fun vote => vote.choice = choice
  { support := count .support
    oppose := count .oppose
    abstain := count .abstain
    participating := count .support + count .oppose + count .abstain
    nonAbstaining := count .support + count .oppose }

/-- `(total * bps).div_ceil(10_000)`. -/
def ceilBps (total bps : ℕ) : ℕ :=
  (total * bps + 9999) / 10000

end Cthuwu.Governance
