import Cthuwu.Governance.Types

/-!
# The governance engine

The state of `GovernanceEngine` and its public operations. Eligibility rests on an append-only
history of membership snapshots and a log that binds each proposal to one of them. Both are
hash chains over the byte encodings written out here.

A `LocalOperatorPolicy` is an implementation of the trait the caller passes in : any
function.
-/

namespace Cthuwu.Governance

open Council

/-! ## State -/

structure DocumentHead where
  version : ℕ
  hash : String
  proposalId : ProposalId

/-- Canonical, append-only basis for proposal eligibility. -/
structure MembershipSnapshot where
  revision : ℕ
  parentHash : Option String
  members : List CthulhuId
  hash : String

structure ProposalMembershipBinding where
  index : ℕ
  parentHash : Option String
  proposalId : ProposalId
  membershipRevision : ℕ
  membershipHash : String
  hash : String

structure GovernanceEngine where
  councilId : CouncilId
  rules : GovernanceRules
  members : Finset CthulhuId
  membershipHistory : List MembershipSnapshot
  proposalMembershipLog : List ProposalMembershipBinding
  proposals : HashMap ProposalId Proposal
  constitution : Option DocumentHead
  agenda : Option DocumentHead

abbrev Op (α : Type) := Fallible GovernanceError GovernanceEngine α

/-- `failIf` for operations. -/
abbrev rejectIf (c : Prop) [Decidable c] (err : GovernanceError) : Except GovernanceError Unit :=
  failIf c err

/-- `okOr` for operations. -/
abbrev orReject {α : Type} (o : Option α) (err : GovernanceError) : Except GovernanceError α :=
  okOr o err

structure VoteReceipt where
  replaced : Bool
  revision : ℕ

structure Finalization where
  status : ProposalStatus
  tally : Tally
  quorumNeeded : ℕ
  approvalThresholdBps : ℕ
  deriving DecidableEq

inductive LocalPolicyDecision
  | allow
  | deny (reason : String)

/-- `LocalOperatorPolicy::evaluate` of some implementation. -/
abbrev LocalOperatorPolicy := GovernanceAction → LocalPolicyDecision

structure ActionAuthorization where
  authorized : Bool
  reason : String

/-! ## Membership hashes -/

/-- `update_field`. -/
def field (value : String) : List UInt8 :=
  toBeBytes (utf8 value).length ++ utf8 value

def parentField : Option String → List UInt8
  | some parentHash => 1 :: field parentHash
  | none => [0]

/-- What a snapshot's hash is taken of. -/
def membershipSnapshotBytes (councilId : CouncilId) (revision : ℕ) (parentHash : Option String)
    (members : List CthulhuId) : List UInt8 :=
  utf8 "cthuwu-governance-membership-v1\x00" ++ field councilId.text ++ toBeBytes revision ++
    parentField parentHash ++ toBeBytes members.length ++
    members.flatMap fun member => field member.text

/-- What a binding's hash is taken of. -/
def proposalMembershipBindingBytes (councilId : CouncilId) (index : ℕ) (parentHash : Option String)
    (proposalId : ProposalId) (membershipRevision : ℕ) (membershipHash : String) : List UInt8 :=
  utf8 "cthuwu-governance-proposal-membership-v1\x00" ++ field councilId.text ++
    toBeBytes index ++ parentField parentHash ++ field proposalId.text ++
    toBeBytes membershipRevision ++ field membershipHash

variable [Hashing]

variable (councilId : CouncilId) (engine : GovernanceEngine) (proposal : Proposal)
  (proposalId : ProposalId) (now : ℤ) (author : CthulhuId)

def membershipSnapshotHash (revision : ℕ) (parentHash : Option String)
    (members : List CthulhuId) : String :=
  contentHashOf (membershipSnapshotBytes councilId revision parentHash members)

def proposalMembershipBindingHash (index : ℕ) (parentHash : Option String)
    (proposalId : ProposalId) (membershipRevision : ℕ) (membershipHash : String) : String :=
  contentHashOf (proposalMembershipBindingBytes councilId index parentHash proposalId
    membershipRevision membershipHash)

/-- `MembershipSnapshot::new`. -/
def MembershipSnapshot.new (revision : ℕ) (parentHash : Option String)
    (members : Finset CthulhuId) : MembershipSnapshot where
  revision
  parentHash
  members := sorted members
  hash := membershipSnapshotHash councilId revision parentHash (sorted members)

/-- `ProposalMembershipBinding::new`. -/
def ProposalMembershipBinding.new (index : ℕ) (parentHash : Option String)
    (proposalId : ProposalId) (membership : MembershipSnapshot) : ProposalMembershipBinding where
  index
  parentHash
  proposalId
  membershipRevision := membership.revision
  membershipHash := membership.hash
  hash := proposalMembershipBindingHash councilId index parentHash proposalId
    membership.revision membership.hash

namespace GovernanceEngine

def new (rules : GovernanceRules) (members : List CthulhuId) :
    Except GovernanceError GovernanceEngine := do
  let members := members.toFinset
  failIf (members = ∅ ∨ maxMembers < members.card) (.limitExceeded "Council members")
  let genesis := MembershipSnapshot.new councilId 0 none members
  let rules ← rules.validate
  return {
    councilId
    rules
    members
    membershipHistory := [genesis]
    proposalMembershipLog := []
    proposals := .empty
    constitution := none
    agenda := none }

/-! ## Members -/

def appendMembershipSnapshot (members : Finset CthulhuId) : Op Unit := do
  let engine ← get
  rejectIf (members = ∅ ∨ maxMembers < members.card) (.limitExceeded "Council members")
  rejectIf (maxMembershipSnapshots ≤ engine.membershipHistory.length)
    (.limitExceeded "membership snapshots")
  let parent ← orReject engine.membershipHistory.getLast? (.corruptState "membership history")
  rejectIf (u64Max < parent.revision + 1) (.limitExceeded "membership revisions")
  let snapshot := MembershipSnapshot.new engine.councilId (parent.revision + 1) (some parent.hash)
    members
  modify fun engine => { engine with membershipHistory := engine.membershipHistory ++ [snapshot] }

def addMember (member : CthulhuId) : Op Bool := do
  let engine ← get
  if member ∈ engine.members then
    return false
  else do
    rejectIf (maxMembers ≤ engine.members.card) (.limitExceeded "Council members")
    let members := insert member engine.members
    appendMembershipSnapshot members
    modify fun engine => { engine with members }
    return true

/-- The source returns `false` where the snapshot is refused. -/
def removeMember (member : CthulhuId) : Op Bool := do
  let engine ← get
  if member ∉ engine.members ∨ engine.members.card = 1 ∨
      maxMembershipSnapshots ≤ engine.membershipHistory.length then
    return false
  else
    let members := engine.members.erase member
    tryCatch (do
      appendMembershipSnapshot members
      modify fun engine => { engine with members }
      return true) fun _ => return false

/-! ## Lineage -/

def lineageMatches (current : Option DocumentHead) (version : ℕ) (parent : Option String) : Bool :=
  match current with
  | none => version = 1 && parent.isNone
  | some head => head.version < u64Max && head.version + 1 = version && parent = some head.hash

def validateNextVersionAndParent (current : Option DocumentHead) (version : ℕ)
    (parent : Option String) : Except GovernanceError Unit :=
  failIf (!lineageMatches current version parent) .parentMismatch

def validateDocumentLineage :
    GovernanceDocument → Except GovernanceError Unit
  | .constitution value =>
    validateNextVersionAndParent engine.constitution value.version value.parentHash
  | .agenda value => validateNextVersionAndParent engine.agenda value.version value.parentHash
  | .strategy value =>
    failIf (engine.agenda.map (·.hash) ≠ some value.agendaHash) .parentMismatch
  | .action value =>
    match value.agendaHash with
    | some parent => failIf (engine.agenda.map (·.hash) ≠ some parent) .parentMismatch
    | none => .ok ()

def hasParentConflict : GovernanceDocument → Bool
  | .constitution value => !lineageMatches engine.constitution value.version value.parentHash
  | .agenda value => !lineageMatches engine.agenda value.version value.parentHash
  | .strategy value => engine.agenda.map (·.hash) ≠ some value.agendaHash
  | .action value => value.agendaHash.any fun parent => engine.agenda.map (·.hash) ≠ some parent

/-! ## Proposals -/

/-- The proposals whose votes are still open or not yet finalized. -/
def openProposals : ℕ :=
  engine.proposals.values.countP fun proposal => proposal.status = .open

def submit (id : ProposalId) (proposer : CthulhuId) (document : GovernanceDocument)
    (createdAt deadline : ℤ) : Op Proposal := do
  let engine ← get
  rejectIf (proposer ∉ engine.members) .notMember
  rejectIf (engine.proposals.contains id) .duplicateProposal
  rejectIf (maxProposals ≤ engine.proposals.len) (.limitExceeded "proposals")
  rejectIf (maxOpenProposals ≤ engine.openProposals) (.limitExceeded "open proposals")
  rejectIf (createdAt < 0 ∨ deadline ≤ createdAt ∨
    engine.rules.maxProposalLifetimeSeconds < deadline - createdAt) .invalidDeadline
  document.validate
  engine.validateDocumentLineage document
  let documentHash ← document.contentHash
  let membership ← orReject engine.membershipHistory.getLast? (.corruptState "membership history")
  rejectIf (engine.proposalMembershipLog.length ≠ engine.proposals.len ∨
    maxProposals ≤ engine.proposalMembershipLog.length) (.corruptState "proposal membership log")
  let bindingIndex := engine.proposalMembershipLog.length
  let bindingParent := engine.proposalMembershipLog.getLast?.map (·.hash)
  let binding := ProposalMembershipBinding.new engine.councilId bindingIndex bindingParent id
    membership
  let proposal : Proposal :=
    { id
      councilId := engine.councilId
      proposer
      document
      documentHash
      createdAt
      deadline
      status := .open
      membershipRevision := membership.revision
      membershipHash := membership.hash
      membershipBindingIndex := bindingIndex
      eligibleVoters := engine.members
      arguments := []
      amendments := []
      votes := .empty }
  modify fun engine =>
    { engine with proposalMembershipLog := engine.proposalMembershipLog ++ [binding] }
  modify fun engine => { engine with proposals := engine.proposals.insert id proposal }
  let engine ← get
  orReject (engine.proposals.get id) .proposalNotFound

/-- `open_proposal_mut` : the proposal that its caller then writes. -/
def openProposal (actor : CthulhuId)
    (now : ℤ) : Except GovernanceError Proposal := do
  let proposal ← okOr (engine.proposals.get proposalId) .proposalNotFound
  failIf (proposal.status ≠ .open ∨ proposal.deadline ≤ now) .proposalClosed
  failIf (now < proposal.createdAt) .invalidTimestamp
  failIf (actor ∉ proposal.eligibleVoters) .notEligible
  return proposal

def setProposal (id : ProposalId) (proposal : Proposal) (engine : GovernanceEngine) :
    GovernanceEngine :=
  { engine with proposals := engine.proposals.insert id proposal }

def addArgument (position : Position)
    (text : String) (now : ℤ) : Op Unit := do
  validateText text maxTextBytes "argument" false
  let engine ← get
  let proposal ← engine.openProposal proposalId author now
  rejectIf (maxArguments ≤ proposal.arguments.length) (.limitExceeded "arguments")
  modify (setProposal proposalId
    { proposal with arguments := proposal.arguments ++ [⟨author, position, text, now⟩] })

def suggestAmendment (text : String) (now : ℤ) :
    Op Unit := do
  validateText text maxTextBytes "amendment" false
  let engine ← get
  let proposal ← engine.openProposal proposalId author now
  rejectIf (maxAmendments ≤ proposal.amendments.length) (.limitExceeded "amendments")
  modify (setProposal proposalId
    { proposal with amendments := proposal.amendments ++ [⟨author, text, now⟩] })

/-- The revision of a vote that replaces `previous`. -/
def nextVoteRevision : Option VoteRecord → Except GovernanceError ℕ
  | some record => do
    failIf (u32Max < record.revision + 1) (.limitExceeded "vote revisions")
    return record.revision + 1
  | none => .ok 0

def castVote (voter : CthulhuId) (choice : VoteChoice) (now : ℤ) :
    Op VoteReceipt := do
  let engine ← get
  let proposal ← engine.openProposal proposalId voter now
  let previous := proposal.votes.get voter
  let revision ← nextVoteRevision previous
  modify (setProposal proposalId
    { proposal with votes := proposal.votes.insert voter ⟨choice, now, revision⟩ })
  return ⟨previous.isSome, revision⟩

/-! ## Evidence -/

/-- Each snapshot has the next revision, names the hash before it and is hashed itself. -/
def checkSnapshots (councilId : CouncilId) :
    ℕ → Option String → List MembershipSnapshot → Except GovernanceError Unit
  | _, _, [] => .ok ()
  | index, expectedParent, snapshot :: rest => do
    failIf (snapshot.revision ≠ index ∨ snapshot.parentHash ≠ expectedParent ∨
      snapshot.members = [] ∨ maxMembers < snapshot.members.length ∨
      ¬snapshot.members.IsChain (· < ·)) (.corruptState "membership history")
    validateHash snapshot.hash
    validateHashOpt snapshot.parentHash
    failIf (snapshot.hash ≠ membershipSnapshotHash councilId snapshot.revision snapshot.parentHash
      snapshot.members) (.corruptState "membership history hash")
    checkSnapshots councilId (index + 1) (some snapshot.hash) rest

def validateMembershipHistory : Except GovernanceError Unit := do
  checkSnapshots engine.councilId 0 none engine.membershipHistory
  let current ← okOr engine.membershipHistory.getLast? (.corruptState "membership history")
  failIf (current.members.length ≠ engine.members.card ∨
    ¬∀ member ∈ current.members, member ∈ engine.members) (.corruptState "current membership")

/-- Each binding has the next index, names the hash before it, agrees with its snapshot and
its proposal, and is hashed itself. No proposal is bound twice. -/
def checkBindings (engine : GovernanceEngine) :
    ℕ → Option String → Finset ProposalId → List ProposalMembershipBinding →
      Except GovernanceError Unit
  | _, _, _, [] => .ok ()
  | index, expectedParent, proposalIds, binding :: rest => do
    let membership ← okOr engine.membershipHistory[binding.membershipRevision]?
      (.corruptState "proposal membership binding")
    failIf (binding.index ≠ index ∨ binding.parentHash ≠ expectedParent ∨
      binding.membershipHash ≠ membership.hash ∨ binding.proposalId ∈ proposalIds)
      (.corruptState "proposal membership binding")
    let proposal ← okOr (engine.proposals.get binding.proposalId)
      (.corruptState "proposal membership binding")
    failIf (proposal.membershipBindingIndex ≠ binding.index ∨
      proposal.membershipRevision ≠ binding.membershipRevision ∨
      proposal.membershipHash ≠ binding.membershipHash)
      (.corruptState "proposal membership binding")
    failIf (binding.hash ≠ proposalMembershipBindingHash engine.councilId binding.index
      binding.parentHash binding.proposalId binding.membershipRevision binding.membershipHash)
      (.corruptState "proposal membership binding hash")
    checkBindings engine (index + 1) (some binding.hash) (insert binding.proposalId proposalIds) rest

def validateProposalMembershipLog : Except GovernanceError Unit := do
  failIf (engine.proposalMembershipLog.length ≠ engine.proposals.len)
    (.corruptState "proposal membership log")
  engine.checkBindings 0 none ∅ engine.proposalMembershipLog

def proposalMembershipIsValid : Bool :=
  match engine.proposalMembershipLog[proposal.membershipBindingIndex]? with
  | none => false
  | some binding =>
    if binding.index ≠ proposal.membershipBindingIndex ∨ binding.proposalId ≠ proposal.id ∨
        binding.membershipRevision ≠ proposal.membershipRevision ∨
        binding.membershipHash ≠ proposal.membershipHash then
      false
    else
      match engine.membershipHistory[binding.membershipRevision]? with
      | none => false
      | some snapshot =>
        snapshot.revision = proposal.membershipRevision &&
          snapshot.hash = proposal.membershipHash &&
          snapshot.members.length = proposal.eligibleVoters.card &&
          snapshot.members.all fun member => member ∈ proposal.eligibleVoters

/-- The document no longer hashes to the stored hash. -/
def hashDiffers : Bool :=
  match proposal.document.contentHash with
  | .ok hash => hash ≠ proposal.documentHash
  | .error _ => true

def hasValidRatificationEvidence : Bool :=
  if !engine.rules.validate.isOk || !engine.proposalMembershipIsValid proposal ||
      hashDiffers proposal ||
      (proposal.votes.pairs.any fun entry =>
        entry.1 ∉ proposal.eligibleVoters || entry.2.castAt < proposal.createdAt ||
          proposal.deadline ≤ entry.2.castAt) then
    false
  else
    let tally := Tally.of proposal
    let quorumNeeded := ceilBps proposal.eligibleVoters.card engine.rules.quorumBps
    quorumNeeded ≤ tally.participating && 0 < tally.nonAbstaining &&
      tally.nonAbstaining * engine.rules.threshold proposal.document.kind ≤ tally.support * 10000

/-! ## Finalization -/

def decideStatus (parentConflict : Bool) (tally : Tally) (quorumNeeded threshold : ℕ) :
    ProposalStatus :=
  if parentConflict then .parentConflict
  else if tally.participating < quorumNeeded then .expired
  else if tally.nonAbstaining = 0 then .rejected
  else if tally.nonAbstaining * threshold ≤ tally.support * 10000 then .ratified
  else .rejected

/-- The head that a ratified document becomes. -/
def setHead (document : GovernanceDocument) (documentHash : String)
    (engine : GovernanceEngine) : GovernanceEngine :=
  match document with
  | .constitution value =>
    { engine with constitution := some ⟨value.version, documentHash, proposalId⟩ }
  | .agenda value => { engine with agenda := some ⟨value.version, documentHash, proposalId⟩ }
  | .strategy _ => engine
  | .action _ => engine

def finalize : Op Finalization := do
  let engine ← get
  let proposal ← orReject (engine.proposals.get proposalId) .proposalNotFound
  rejectIf (proposal.status ≠ .open) .proposalClosed
  rejectIf (now < proposal.deadline) .votingStillOpen
  rejectIf (!engine.validateMembershipHistory.isOk ∨ !engine.validateProposalMembershipLog.isOk ∨
    !engine.proposalMembershipIsValid proposal ∨
    !proposal.votes.pairs.all fun entry =>
      entry.1 ∈ proposal.eligibleVoters && proposal.createdAt ≤ entry.2.castAt &&
        entry.2.castAt < proposal.deadline) .invalidRatificationEvidence
  let tally := Tally.of proposal
  let parentConflict := engine.hasParentConflict proposal.document
  let threshold := engine.rules.threshold proposal.document.kind
  let quorumNeeded := ceilBps proposal.eligibleVoters.card engine.rules.quorumBps
  let status := decideStatus parentConflict tally quorumNeeded threshold
  modify fun engine =>
    if status = .ratified then setHead proposalId proposal.document proposal.documentHash engine
    else engine
  let engine ← get
  let proposal ← orReject (engine.proposals.get proposalId) .proposalNotFound
  modify (setProposal proposalId { proposal with status })
  return ⟨status, tally, quorumNeeded, threshold⟩

def authorizeAction
    (policy : LocalOperatorPolicy) : Except GovernanceError ActionAuthorization := do
  let proposal ← okOr (engine.proposals.get proposalId) .proposalNotFound
  failIf (proposal.status ≠ .ratified) .actionNotRatified
  failIf (!engine.validateMembershipHistory.isOk ∨ !engine.validateProposalMembershipLog.isOk ∨
    !engine.hasValidRatificationEvidence proposal) .invalidRatificationEvidence
  match proposal.document with
  | .action action =>
    match policy action.action with
    | .allow =>
      return ⟨true, "ratified by the Council and allowed by local operator policy"⟩
    | .deny reason => do
      validateText reason maxShortTextBytes "local policy reason" false
      return ⟨false, reason⟩
  | _ => throw .notAnAction

/-! ## Reloading -/

/-- The version of a document that can be the head of `kind`. -/
def headVersion (kind : DocumentKind) : GovernanceDocument → Option ℕ
  | .constitution document => if kind = .constitution then some document.version else none
  | .agenda document => if kind = .agenda then some document.version else none
  | _ => none

def validateLoadedHead (head : Option DocumentHead)
    (kind : DocumentKind) : Except GovernanceError Unit :=
  match head with
  | none => .ok ()
  | some head => do
    validateHash head.hash
    let proposal ← okOr (engine.proposals.get head.proposalId) (.corruptState "document head proposal")
    let version ← okOr (headVersion kind proposal.document) (.corruptState "document head kind")
    failIf (proposal.status ≠ .ratified ∨ proposal.documentHash ≠ head.hash ∨
      version ≠ head.version) (.corruptState "document head mismatch")

/-- An argument or amendment by an eligible voter, while the proposal was open. -/
def validateContribution (submittedAt : ℤ)
    (text field metadata : String) : Except GovernanceError Unit := do
  failIf (author ∉ proposal.eligibleVoters ∨ submittedAt < proposal.createdAt ∨
    proposal.deadline ≤ submittedAt) (.corruptState metadata)
  validateText text maxTextBytes field false

def validateArgument (argument : Argument) : Except GovernanceError Unit :=
  validateContribution proposal argument.author argument.submittedAt argument.text "argument"
    "argument metadata"

def validateAmendment (amendment : AmendmentSuggestion) :
    Except GovernanceError Unit :=
  validateContribution proposal amendment.author amendment.submittedAt amendment.text "amendment"
    "amendment metadata"

def validateProposal (entry : ProposalId × Proposal) :
    Except GovernanceError Unit := do
  let proposal := entry.2
  failIf (entry.1 ≠ proposal.id ∨ proposal.councilId ≠ engine.councilId ∨
    proposal.eligibleVoters = ∅ ∨ maxMembers < proposal.eligibleVoters.card ∨
    proposal.proposer ∉ proposal.eligibleVoters ∨ proposal.createdAt < 0 ∨
    proposal.deadline ≤ proposal.createdAt ∨
    engine.rules.maxProposalLifetimeSeconds < proposal.deadline - proposal.createdAt ∨
    maxArguments < proposal.arguments.length ∨ maxAmendments < proposal.amendments.length ∨
    proposal.eligibleVoters.card < proposal.votes.len ∨
    (proposal.status ≠ .open ∧ now < proposal.deadline)) (.corruptState "proposal metadata")
  failIf (!engine.proposalMembershipIsValid proposal) (.corruptState "proposal membership basis")
  proposal.document.validate
  let hash ← proposal.document.contentHash
  failIf (hash ≠ proposal.documentHash) (.corruptState "document hash")
  failIf (proposal.status = .ratified ∧ !engine.hasValidRatificationEvidence proposal)
    (.corruptState "ratification evidence")
  proposal.arguments.forM (validateArgument proposal)
  proposal.amendments.forM (validateAmendment proposal)
  proposal.votes.pairs.forM fun entry =>
    failIf (entry.1 ∉ proposal.eligibleVoters ∨ entry.2.castAt < proposal.createdAt ∨
      proposal.deadline ≤ entry.2.castAt) (.corruptState "vote metadata")

/-- Revalidates every invariant after deserializing operator-controlled state. -/
def validateLoadedState : Except GovernanceError Unit := do
  failIf (now < 0 ∨ engine.members = ∅ ∨ maxMembers < engine.members.card ∨
    engine.membershipHistory = [] ∨ maxMembershipSnapshots < engine.membershipHistory.length ∨
    maxProposals < engine.proposalMembershipLog.length ∨ maxProposals < engine.proposals.len)
    (.corruptState "top-level bounds")
  let _ ← engine.rules.validate
  engine.validateMembershipHistory
  engine.validateProposalMembershipLog
  failIf (maxOpenProposals < engine.openProposals) (.corruptState "open proposal bound")
  engine.proposals.pairs.forM (engine.validateProposal now)
  engine.validateLoadedHead engine.constitution .constitution
  engine.validateLoadedHead engine.agenda .agenda

end GovernanceEngine

end Cthuwu.Governance
