import Cthuwu.Governance.Checks

/-!
# What an operation does

A `Request` is one call of a public operation, and `Effect` what a successful one writes.
`Justified` says when an effect can happen : what the operation has checked. `run_effect`
inverts every request into a justified effect, and `run_atomic` says that a request that
fails leaves the engine as it was. Invariants are proved from effects and never unfold an
operation.

What an observer of the calls can write down is read from the reply : the ratified proposal,
the electorate of a submission and an accepted ballot.
-/

namespace Cthuwu.Governance

open Council GovernanceEngine Fallible

variable [Hashing]

/-! ## Requests -/

inductive Request
  | addMember (member : CthulhuId)
  | removeMember (member : CthulhuId)
  | submit (id : ProposalId) (proposer : CthulhuId) (document : GovernanceDocument)
      (createdAt deadline : ℤ)
  | addArgument (proposalId : ProposalId) (author : CthulhuId) (position : Position) (text : String)
  | suggestAmendment (proposalId : ProposalId) (author : CthulhuId) (text : String)
  | castVote (proposalId : ProposalId) (voter : CthulhuId) (choice : VoteChoice)
  | finalize (proposalId : ProposalId)

inductive Reply
  | changed (members : Bool)
  | proposal (proposal : Proposal)
  | done
  | receipt (receipt : VoteReceipt)
  | finalization (finalization : Finalization)

/-- Call the operation at `now`. -/
def Request.run (now : ℤ) : Request → Op Reply
  | addMember member => do
    let changed ← GovernanceEngine.addMember member
    return .changed changed
  | removeMember member => do
    let changed ← GovernanceEngine.removeMember member
    return .changed changed
  | submit id proposer document createdAt deadline => do
    let proposal ← GovernanceEngine.submit id proposer document createdAt deadline
    return .proposal proposal
  | addArgument proposalId author position text => do
    GovernanceEngine.addArgument proposalId author position text now
    return .done
  | suggestAmendment proposalId author text => do
    GovernanceEngine.suggestAmendment proposalId author text now
    return .done
  | castVote proposalId voter choice => do
    let receipt ← GovernanceEngine.castVote proposalId voter choice now
    return .receipt receipt
  | finalize proposalId => do
    let finalization ← GovernanceEngine.finalize proposalId now
    return .finalization finalization

structure Ballot where
  proposalId : ProposalId
  voter : CthulhuId
  choice : VoteChoice
  castAt : ℤ

/-- The proposal that a call ratified, as it left it. -/
def Request.ratification (engine' : GovernanceEngine) : Request → Reply → Option Proposal
  | finalize proposalId, .finalization finalization =>
    if finalization.status = .ratified then engine'.proposals.get proposalId else none
  | _, _ => none

def Request.electorate (engine : GovernanceEngine) :
    Request → Reply → Option (ProposalId × Finset CthulhuId)
  | submit id .., .proposal _ => some (id, engine.members)
  | _, _ => none

def Request.ballot (now : ℤ) : Request → Reply → Option Ballot
  | castVote proposalId voter choice, .receipt _ => some ⟨proposalId, voter, choice, now⟩
  | _, _ => none

/-! ## Effects -/

inductive Effect
  | idle
  | seated (members : Finset CthulhuId) (parent : MembershipSnapshot)
  | submitted (proposal : Proposal)
  | argued (id : ProposalId) (proposal : Proposal) (argument : Argument)
  | amended (id : ProposalId) (proposal : Proposal) (amendment : AmendmentSuggestion)
  | voted (id : ProposalId) (proposal : Proposal) (voter : CthulhuId) (vote : VoteRecord)
  | closed (id : ProposalId) (proposal : Proposal) (status : ProposalStatus)

namespace GovernanceEngine

/-- Append a snapshot of `members` after `parent`. -/
def seat (engine : GovernanceEngine) (members : Finset CthulhuId) (parent : MembershipSnapshot) :
    GovernanceEngine :=
  { engine with
    members
    membershipHistory := engine.membershipHistory ++
      [MembershipSnapshot.new engine.councilId (parent.revision + 1) (some parent.hash) members] }

def nextBinding (engine : GovernanceEngine) (proposal : Proposal) : ProposalMembershipBinding where
  index := engine.proposalMembershipLog.length
  parentHash := engine.proposalMembershipLog.getLast?.map (·.hash)
  proposalId := proposal.id
  membershipRevision := proposal.membershipRevision
  membershipHash := proposal.membershipHash
  hash := proposalMembershipBindingHash engine.councilId engine.proposalMembershipLog.length
    (engine.proposalMembershipLog.getLast?.map (·.hash)) proposal.id proposal.membershipRevision
    proposal.membershipHash

def enter (engine : GovernanceEngine) (proposal : Proposal) : GovernanceEngine :=
  { engine with
    proposalMembershipLog := engine.proposalMembershipLog ++ [engine.nextBinding proposal]
    proposals := engine.proposals.insert proposal.id proposal }

/-- The status a proposal gets when it is finalized. -/
def decision (engine : GovernanceEngine) (proposal : Proposal) : ProposalStatus :=
  decideStatus (engine.hasParentConflict proposal.document) (Tally.of proposal)
    (ceilBps proposal.eligibleVoters.card engine.rules.quorumBps)
    (engine.rules.threshold proposal.document.kind)

def conclude (id : ProposalId) (proposal : Proposal) (status : ProposalStatus)
    (engine : GovernanceEngine) : GovernanceEngine :=
  if status = .ratified then setHead id proposal.document proposal.documentHash engine else engine

end GovernanceEngine

def Effect.apply (engine : GovernanceEngine) : Effect → GovernanceEngine
  | idle => engine
  | seated members parent => engine.seat members parent
  | submitted proposal => engine.enter proposal
  | argued id proposal argument =>
    engine.setProposal id { proposal with arguments := proposal.arguments ++ [argument] }
  | amended id proposal amendment =>
    engine.setProposal id { proposal with amendments := proposal.amendments ++ [amendment] }
  | voted id proposal voter vote =>
    engine.setProposal id { proposal with votes := proposal.votes.insert voter vote }
  | closed id proposal status =>
    (engine.conclude id proposal status).setProposal id { proposal with status }

def Effect.ratification : Effect → Option Proposal
  | closed _ proposal status => if status = .ratified then some { proposal with status } else none
  | _ => none

/-- The electorate of the proposal an effect submits. -/
def Effect.electorate : Effect → Option (ProposalId × Finset CthulhuId)
  | submitted proposal => some (proposal.id, proposal.eligibleVoters)
  | _ => none

def Effect.ballot : Effect → Option Ballot
  | voted id _ voter vote => some ⟨id, voter, vote.choice, vote.castAt⟩
  | _ => none

/-- A proposal whose votes are open to `actor`. -/
structure OpenTo (engine : GovernanceEngine) (now : ℤ) (id : ProposalId) (actor : CthulhuId)
    (proposal : Proposal) : Prop where
  found : engine.proposals.get id = some proposal
  status : proposal.status = .open
  created : proposal.createdAt ≤ now
  deadline : now < proposal.deadline
  eligible : actor ∈ proposal.eligibleVoters

structure Submittable (engine : GovernanceEngine) (proposal : Proposal) : Prop where
  fresh : engine.proposals.get proposal.id = none
  room : engine.proposals.len < maxProposals
  openRoom : engine.openProposals < maxOpenProposals
  council : proposal.councilId = engine.councilId
  proposer : proposal.proposer ∈ engine.members
  voters : proposal.eligibleVoters = engine.members
  created : 0 ≤ proposal.createdAt
  deadline : proposal.createdAt < proposal.deadline
  lifetime : proposal.deadline - proposal.createdAt ≤ engine.rules.maxProposalLifetimeSeconds
  document : proposal.document.validate = .ok ()
  lineage : engine.validateDocumentLineage proposal.document = .ok ()
  hash : proposal.document.contentHash = .ok proposal.documentHash
  status : proposal.status = .open
  membership : ∃ snapshot, engine.membershipHistory.getLast? = some snapshot ∧
    proposal.membershipRevision = snapshot.revision ∧ proposal.membershipHash = snapshot.hash
  index : proposal.membershipBindingIndex = engine.proposalMembershipLog.length
  arguments : proposal.arguments = []
  amendments : proposal.amendments = []
  votes : proposal.votes = .empty

structure Finalizable (engine : GovernanceEngine) (now : ℤ) (id : ProposalId)
    (proposal : Proposal) : Prop where
  found : engine.proposals.get id = some proposal
  status : proposal.status = .open
  deadline : proposal.deadline ≤ now
  history : HistoryValid engine
  log : LogValid engine
  basis : BasisValid engine proposal
  votes : VotesValid proposal

/-- When an effect can happen at `now`. -/
inductive Justified (engine : GovernanceEngine) (now : ℤ) : Effect → Prop
  | idle : Justified engine now .idle
  | seated {members : Finset CthulhuId} {parent : MembershipSnapshot} (nonempty : members ≠ ∅)
      (bounded : members.card ≤ maxMembers)
      (room : engine.membershipHistory.length < maxMembershipSnapshots)
      (last : engine.membershipHistory.getLast? = some parent) :
      Justified engine now (.seated members parent)
  | submitted {proposal : Proposal} (submittable : Submittable engine proposal) :
      Justified engine now (.submitted proposal)
  | argued {id : ProposalId} {proposal : Proposal} {argument : Argument}
      (isOpen : OpenTo engine now id argument.author proposal) (time : argument.submittedAt = now)
      (text : validateText argument.text maxTextBytes "argument" false = .ok ())
      (room : proposal.arguments.length < maxArguments) :
      Justified engine now (.argued id proposal argument)
  | amended {id : ProposalId} {proposal : Proposal} {amendment : AmendmentSuggestion}
      (isOpen : OpenTo engine now id amendment.author proposal)
      (time : amendment.submittedAt = now)
      (text : validateText amendment.text maxTextBytes "amendment" false = .ok ())
      (room : proposal.amendments.length < maxAmendments) :
      Justified engine now (.amended id proposal amendment)
  | voted {id : ProposalId} {proposal : Proposal} {voter : CthulhuId} {vote : VoteRecord}
      (isOpen : OpenTo engine now id voter proposal) (time : vote.castAt = now) :
      Justified engine now (.voted id proposal voter vote)
  | closed {id : ProposalId} {proposal : Proposal} (ready : Finalizable engine now id proposal) :
      Justified engine now (.closed id proposal (engine.decision proposal))

/-- A successful request has an effect that it explains. -/
structure Performed (engine : GovernanceEngine) (now : ℤ) (request : Request) (reply : Reply)
    (engine' : GovernanceEngine) (effect : Effect) : Prop where
  justified : Justified engine now effect
  result : engine' = effect.apply engine
  ratification : effect.ratification = request.ratification engine' reply
  electorate : effect.electorate = request.electorate engine reply
  ballot : effect.ballot = request.ballot now reply

/-! ## From requests to effects -/

variable {engine engine' : GovernanceEngine} {now : ℤ}

variable {member proposer author : CthulhuId} {members : Finset CthulhuId} {changed : Bool}
  {id : ProposalId} {document : GovernanceDocument} {createdAt : ℤ} {proposal : Proposal}
  {position : Position} {text : String} {choice : VoteChoice} {request : Request}

theorem appendMembershipSnapshot_ok {u : Unit} :
    (appendMembershipSnapshot members).exec engine = (.ok u, engine') ↔
      members ≠ ∅ ∧ members.card ≤ maxMembers ∧
        engine.membershipHistory.length < maxMembershipSnapshots ∧
        ∃ parent, engine.membershipHistory.getLast? = some parent ∧ parent.revision + 1 ≤ u64Max ∧
          engine' = { engine.seat members parent with members := engine.members } := by
  unfold appendMembershipSnapshot
  simp only [exec_get_bind, lift_bind_ok, exists_unit, failIf_ok, okOr_ok, exec_modify,
    Prod.mk.injEq, not_or, not_lt, not_le, true_and, and_assoc, ne_eq]
  constructor
  · rintro ⟨hne, hcard, hroom, parent, hlast, hrevision, rfl⟩
    exact ⟨hne, hcard, hroom, parent, hlast, hrevision, rfl⟩
  · rintro ⟨hne, hcard, hroom, parent, hlast, hrevision, rfl⟩
    exact ⟨hne, hcard, hroom, parent, hlast, hrevision, rfl⟩

theorem atomic_appendMembershipSnapshot : Atomic (appendMembershipSnapshot members) := by
  refine readOnly_get.bind_atomic fun engine => (readOnly_lift _).bind_atomic fun _ => ?_
  refine (readOnly_lift _).bind_atomic fun _ => (readOnly_lift _).bind_atomic fun parent => ?_
  exact (readOnly_lift _).bind_atomic fun _ => (infallible_modify _).atomic

/-- Append a snapshot, and make its members the present ones. -/
def seatMembers (members : Finset CthulhuId) : Op Bool := do
  appendMembershipSnapshot members
  modify fun engine => { engine with members }
  return true

theorem atomic_seatMembers : Atomic (seatMembers members) :=
  (atomic_appendMembershipSnapshot).bind_infallible fun _ =>
    (infallible_modify _).bind fun _ => infallible_pure _

theorem seatMembers_ok (h : (seatMembers members).exec engine = (.ok changed, engine')) :
    ∃ parent, Justified engine now (.seated members parent) ∧
      engine' = Effect.apply engine (.seated members parent) := by
  unfold seatMembers at h
  simp only [Fallible.bind_ok (x := appendMembershipSnapshot members), exec_modify_bind, exec_pure,
    appendMembershipSnapshot_ok, Prod.mk.injEq] at h
  obtain ⟨-, middle, ⟨hne, hcard, hroom, parent, hlast, -, rfl⟩, -, rfl⟩ := h
  exact ⟨parent, .seated hne hcard hroom hlast, rfl⟩

theorem addMember_ok (h : (addMember member).exec engine = (.ok changed, engine')) :
    engine' = engine ∨ ∃ members parent, Justified engine now (.seated members parent) ∧
      engine' = Effect.apply engine (.seated members parent) := by
  unfold addMember at h
  rw [exec_get_bind] at h
  split_ifs at h
  · rw [exec_pure, Prod.mk.injEq] at h
    exact .inl h.2.symm
  · rw [lift_bind_ok] at h
    obtain ⟨-, -, h⟩ := h
    exact .inr ⟨_, seatMembers_ok h⟩

theorem removeMember_ok (h : (removeMember member).exec engine = (.ok changed, engine')) :
    engine' = engine ∨ ∃ members parent, Justified engine now (.seated members parent) ∧
      engine' = Effect.apply engine (.seated members parent) := by
  unfold removeMember at h
  rw [exec_get_bind] at h
  split_ifs at h
  · rw [exec_pure, Prod.mk.injEq] at h
    exact .inl h.2.symm
  · change (tryCatch (seatMembers (engine.members.erase member)) _).exec engine = _ at h
    rw [exec_tryCatch] at h
    rcases hseat : (seatMembers (engine.members.erase member)).exec engine with ⟨err | seated, middle⟩
    · have hsame := atomic_seatMembers engine err (congrArg Prod.fst hseat)
      rw [Fallible.after, hseat] at hsame
      rw [hseat] at h
      cases h
      exact .inl hsame
    · rw [hseat] at h
      cases h
      exact .inr ⟨_, seatMembers_ok hseat⟩

theorem submit_ok {deadline : ℤ}
    (h : (submit id proposer document createdAt deadline).exec engine = (.ok proposal, engine')) :
    proposal.id = id ∧ Justified engine now (.submitted proposal) ∧
      engine' = Effect.apply engine (.submitted proposal) := by
  unfold submit at h
  simp only [exec_get_bind, lift_bind_ok, exists_unit, failIf_ok, okOr_ok, exec_modify_bind,
    exec_lift, HashMap.get_insert, Prod.mk.injEq, not_or, not_lt, not_le, not_not, ne_eq] at h
  obtain ⟨hmember, hfresh, hroom, hopen, ⟨hcreated, hdeadline, hlifetime⟩, hdocument, hlineage, hash,
    hhash, snapshot, hlast, -, hproposal, rfl⟩ := h
  cases hproposal
  refine ⟨rfl, .submitted ?_, rfl⟩
  exact {
    fresh := by simpa [HashMap.contains] using hfresh
    room := hroom
    openRoom := hopen
    council := rfl
    proposer := hmember
    voters := rfl
    created := hcreated
    deadline := hdeadline
    lifetime := hlifetime
    document := hdocument
    lineage := hlineage
    hash := hhash
    status := rfl
    membership := ⟨snapshot, hlast, rfl, rfl⟩
    index := rfl
    arguments := rfl
    amendments := rfl
    votes := rfl }

theorem openProposal_ok {actor : CthulhuId} :
    engine.openProposal id actor now = .ok proposal ↔ OpenTo engine now id actor proposal := by
  unfold openProposal
  simp only [except_bind_ok, exists_unit, okOr_ok, failIf_ok, except_pure_ok, not_or, not_not,
    not_lt, not_le, ne_eq]
  constructor
  · rintro ⟨_, hfound, ⟨hstatus, hdeadline⟩, hcreated, heligible, rfl⟩
    exact ⟨hfound, hstatus, hcreated, hdeadline, heligible⟩
  · rintro ⟨hfound, hstatus, hcreated, hdeadline, heligible⟩
    exact ⟨proposal, hfound, ⟨hstatus, hdeadline⟩, hcreated, heligible, rfl⟩

theorem addArgument_ok {u : Unit}
    (h : (addArgument id author position text now).exec engine = (.ok u, engine')) :
    ∃ proposal, Justified engine now (.argued id proposal ⟨author, position, text, now⟩) ∧
      engine' = Effect.apply engine (.argued id proposal ⟨author, position, text, now⟩) := by
  unfold addArgument at h
  simp only [lift_bind_ok, exists_unit, exec_get_bind, openProposal_ok, failIf_ok, exec_modify,
    Prod.mk.injEq, not_le] at h
  obtain ⟨htext, proposal, hopen, hroom, -, rfl⟩ := h
  exact ⟨proposal, .argued hopen rfl htext hroom, rfl⟩

theorem suggestAmendment_ok {u : Unit}
    (h : (suggestAmendment id author text now).exec engine = (.ok u, engine')) :
    ∃ proposal, Justified engine now (.amended id proposal ⟨author, text, now⟩) ∧
      engine' = Effect.apply engine (.amended id proposal ⟨author, text, now⟩) := by
  unfold suggestAmendment at h
  simp only [lift_bind_ok, exists_unit, exec_get_bind, openProposal_ok, failIf_ok, exec_modify,
    Prod.mk.injEq, not_le] at h
  obtain ⟨htext, proposal, hopen, hroom, -, rfl⟩ := h
  exact ⟨proposal, .amended hopen rfl htext hroom, rfl⟩

theorem castVote_ok {voter : CthulhuId} {receipt : VoteReceipt}
    (h : (castVote id voter choice now).exec engine = (.ok receipt, engine')) :
    ∃ proposal, Justified engine now (.voted id proposal voter ⟨choice, now, receipt.revision⟩) ∧
      engine' = Effect.apply engine (.voted id proposal voter ⟨choice, now, receipt.revision⟩) := by
  unfold castVote at h
  simp only [lift_bind_ok, exec_get_bind, openProposal_ok, exec_modify_bind, exec_pure,
    Prod.mk.injEq, Except.ok.injEq] at h
  obtain ⟨proposal, hopen, revision, -, rfl, rfl⟩ := h
  exact ⟨proposal, .voted hopen rfl, rfl⟩

@[simp] theorem proposals_conclude {status : ProposalStatus} :
    (engine.conclude id proposal status).proposals = engine.proposals := by
  unfold conclude setHead
  split_ifs
  · cases proposal.document <;> rfl
  · rfl

/-- What `finalize` reports of a decision. -/
def finalization (engine : GovernanceEngine) (proposal : Proposal) : Finalization where
  status := engine.decision proposal
  tally := Tally.of proposal
  quorumNeeded := ceilBps proposal.eligibleVoters.card engine.rules.quorumBps
  approvalThresholdBps := engine.rules.threshold proposal.document.kind

theorem allVotes_iff : (proposal.votes.pairs.all fun entry =>
    entry.1 ∈ proposal.eligibleVoters && proposal.createdAt ≤ entry.2.castAt &&
      entry.2.castAt < proposal.deadline) = true ↔ VotesValid proposal := by
  rw [List.all_eq_true, HashMap.forall_pairs]
  simp only [Bool.and_eq_true, decide_eq_true_eq, and_assoc]
  rfl

/-- Finalizing succeeds exactly for a proposal that is ready, which it closes. -/
theorem finalize_ok {result : Finalization} :
    (finalize id now).exec engine = (.ok result, engine') ↔
      ∃ proposal, Finalizable engine now id proposal ∧ result = finalization engine proposal ∧
        engine' = Effect.apply engine (.closed id proposal (engine.decision proposal)) := by
  unfold finalize
  simp only [exec_get_bind, lift_bind_ok, exists_unit, okOr_ok, failIf_ok, exec_modify_bind,
    exec_pure, Prod.mk.injEq, Except.ok.injEq, not_or, not_not, not_lt, ne_eq,
    Bool.not_eq_true', Bool.not_eq_false, isOk_unit, validateMembershipHistory_ok,
    validateProposalMembershipLog_ok, proposalMembershipIsValid_iff, allVotes_iff]
  constructor
  · rintro ⟨proposal, hfound, hstatus, hdeadline, ⟨hhistory, hlog, hbasis, hvotes⟩, same, hsame, rfl,
      rfl⟩
    change (engine.conclude id proposal (engine.decision proposal)).proposals.get id = _ at hsame
    rw [proposals_conclude, hfound] at hsame
    cases hsame
    exact ⟨proposal, ⟨hfound, hstatus, hdeadline, hhistory, hlog, hbasis, hvotes⟩, rfl, rfl⟩
  · rintro ⟨proposal, h, rfl, rfl⟩
    refine ⟨proposal, h.found, h.status, h.deadline, ⟨h.history, h.log, h.basis, h.votes⟩, proposal,
      ?_, rfl, rfl⟩
    change (engine.conclude id proposal (engine.decision proposal)).proposals.get id = _
    rw [proposals_conclude, h.found]

theorem idle_performed {reply : Reply} (h : engine' = engine)
    (hratification : request.ratification engine' reply = none)
    (helectorate : request.electorate engine reply = none)
    (hballot : request.ballot now reply = none) :
    ∃ effect, Performed engine now request reply engine' effect :=
  ⟨.idle, .idle, h, hratification.symm, helectorate.symm, hballot.symm⟩

/-- A successful request has one justified effect, and its reply reports what was ratified,
who may vote and what was voted. -/
theorem run_effect {reply : Reply} (h : (request.run now).exec engine = (.ok reply, engine')) :
    ∃ effect, Performed engine now request reply engine' effect := by
  cases request
  all_goals
    simp only [Request.run, Fallible.bind_ok, exec_pure, Prod.mk.injEq, Except.ok.injEq] at h
    obtain ⟨result, middle, h, rfl, rfl⟩ := h
  case addMember =>
    rcases addMember_ok h with hidle | ⟨members, parent, hjustified, happly⟩
    · exact idle_performed hidle rfl rfl rfl
    · exact ⟨_, hjustified, happly, rfl, rfl, rfl⟩
  case removeMember =>
    rcases removeMember_ok h with hidle | ⟨members, parent, hjustified, happly⟩
    · exact idle_performed hidle rfl rfl rfl
    · exact ⟨_, hjustified, happly, rfl, rfl, rfl⟩
  case submit id proposer document createdAt deadline =>
    obtain ⟨rfl, hjustified, happly⟩ := submit_ok h
    refine ⟨_, hjustified, happly, rfl, ?_, rfl⟩
    cases hjustified with
    | submitted hsubmittable => exact congrArg (fun voters => some (_, voters)) hsubmittable.voters
  case addArgument =>
    obtain ⟨proposal, hjustified, happly⟩ := addArgument_ok h
    exact ⟨_, hjustified, happly, rfl, rfl, rfl⟩
  case suggestAmendment =>
    obtain ⟨proposal, hjustified, happly⟩ := suggestAmendment_ok h
    exact ⟨_, hjustified, happly, rfl, rfl, rfl⟩
  case castVote =>
    obtain ⟨proposal, hjustified, happly⟩ := castVote_ok h
    exact ⟨_, hjustified, happly, rfl, rfl, rfl⟩
  case finalize id =>
    obtain ⟨proposal, hready, rfl, happly⟩ := (finalize_ok).mp h
    refine ⟨_, .closed hready, happly, ?_, rfl, rfl⟩
    have hstored : middle.proposals.get id =
        some { proposal with status := engine.decision proposal } := by
      rw [happly]
      exact HashMap.get_insert
    change _ = if engine.decision proposal = .ratified then middle.proposals.get id else none
    rw [hstored]
    rfl

/-! ## Failures -/

theorem atomic_addMember : Atomic (addMember member) := by
  refine readOnly_get.bind_atomic fun engine => ?_
  split_ifs
  · exact (infallible_pure _).atomic
  · exact (readOnly_lift _).bind_atomic fun _ => atomic_seatMembers

theorem atomic_removeMember : Atomic (removeMember member) := by
  refine readOnly_get.bind_atomic fun engine => ?_
  split_ifs
  · exact (infallible_pure _).atomic
  · intro engine' err herr
    change ((tryCatch (seatMembers _) _).exec engine').1 = _ at herr
    rw [exec_tryCatch] at herr
    split at herr <;> cases herr

theorem atomic_submit {deadline : ℤ} : Atomic (submit id proposer document createdAt deadline) := by
  refine readOnly_get.bind_atomic fun engine => (readOnly_lift _).bind_atomic fun _ => ?_
  refine (readOnly_lift _).bind_atomic fun _ => (readOnly_lift _).bind_atomic fun _ => ?_
  refine (readOnly_lift _).bind_atomic fun _ => (readOnly_lift _).bind_atomic fun _ => ?_
  refine (readOnly_lift _).bind_atomic fun _ => (readOnly_lift _).bind_atomic fun _ => ?_
  refine (readOnly_lift _).bind_atomic fun hash => (readOnly_lift _).bind_atomic fun parent => ?_
  refine (readOnly_lift _).bind_atomic fun _ => ?_
  -- the inserted proposal is found again
  intro engine err herr
  simp [okOr] at herr

theorem atomic_addArgument : Atomic (addArgument id author position text now) := by
  refine (readOnly_lift _).bind_atomic fun _ => readOnly_get.bind_atomic fun engine => ?_
  refine (readOnly_lift _).bind_atomic fun proposal => (readOnly_lift _).bind_atomic fun _ => ?_
  exact (infallible_modify _).atomic

theorem atomic_suggestAmendment : Atomic (suggestAmendment id author text now) := by
  refine (readOnly_lift _).bind_atomic fun _ => readOnly_get.bind_atomic fun engine => ?_
  refine (readOnly_lift _).bind_atomic fun proposal => (readOnly_lift _).bind_atomic fun _ => ?_
  exact (infallible_modify _).atomic

theorem atomic_castVote {voter : CthulhuId} : Atomic (castVote id voter choice now) := by
  refine readOnly_get.bind_atomic fun engine => (readOnly_lift _).bind_atomic fun proposal => ?_
  refine (readOnly_lift _).bind_atomic fun revision => ?_
  exact ((infallible_modify _).bind fun _ => infallible_pure _).atomic

/-- `finalize` returns an error only before it writes : the proposal it has read is still
there. -/
theorem atomic_finalize : Atomic (finalize id now) := by
  refine AtomicAt.atomic fun engine => atomicAt_get_bind ?_
  refine atomicAt_lift_bind fun proposal hproposal => atomicAt_lift_bind fun _ _ => ?_
  refine atomicAt_lift_bind fun _ _ => atomicAt_lift_bind fun _ _ => ?_
  have hsame : (engine.conclude id proposal (engine.decision proposal)).proposals.get id =
      some proposal := by
    rw [proposals_conclude]
    exact okOr_ok.mp hproposal
  refine atomicAt_of_ok (?_ : _ = (Except.ok (finalization engine proposal),
    Effect.apply engine (.closed id proposal (engine.decision proposal))))
  simp only [exec_modify_bind, exec_get_bind, lift_bind_ok, okOr_ok, exec_pure]
  exact ⟨proposal, hsame, rfl⟩

/-- A request that fails leaves the engine as it was. -/
theorem run_atomic : Atomic (request.run now) := by
  cases request
  case addMember => exact (atomic_addMember).bind_infallible fun _ => infallible_pure _
  case removeMember => exact (atomic_removeMember).bind_infallible fun _ => infallible_pure _
  case submit => exact (atomic_submit).bind_infallible fun _ => infallible_pure _
  case addArgument => exact (atomic_addArgument).bind_infallible fun _ => infallible_pure _
  case suggestAmendment => exact (atomic_suggestAmendment).bind_infallible fun _ => infallible_pure _
  case castVote => exact (atomic_castVote).bind_infallible fun _ => infallible_pure _
  case finalize => exact (atomic_finalize).bind_infallible fun _ => infallible_pure _

end Cthuwu.Governance
