import Cthuwu.Lib.HashChain
import Cthuwu.Governance.Engine

/-!
# What the checks establish

Each check of the governance engine with the facts that hold exactly when it passes. The two
logs are hash chains in the sense of `Link` : `snapshots` numbers membership snapshots by
revision and `bindings` numbers bindings by index. `BasisValid` is what
`proposal_membership_is_valid` establishes of a proposal, `ProposalValid` what a reload
establishes of one, and `HeadValid` what it establishes of a head.
-/

namespace Cthuwu.Governance

open Council GovernanceEngine

variable [Hashing] {engine : GovernanceEngine} {proposal : Proposal} {now : ℤ}

/-! ## Options and outcomes -/

theorem isOk_iff {ε α : Type} {x : Except ε α} : x.isOk = true ↔ ∃ a, x = .ok a := by
  cases x <;> simp [Except.isOk, Except.toBool]

theorem isOk_unit {ε : Type} {x : Except ε Unit} : x.isOk = true ↔ x = .ok () :=
  (isOk_iff).trans exists_unit

theorem GovernanceRules.validate_ok {r r' : GovernanceRules} (h : r.validate = .ok r') :
    r' = r := by
  unfold GovernanceRules.validate at h
  simp only [except_check_ok, except_pure_ok] at h
  exact h.2.2.symm

def GovernanceEngine.fresh (councilId : CouncilId) (rules : GovernanceRules)
    (members : Finset CthulhuId) : GovernanceEngine where
  councilId
  rules
  members
  membershipHistory := [.new councilId 0 none members]
  proposalMembershipLog := []
  proposals := .empty
  constitution := none
  agenda := none

variable {councilId : CouncilId} {parent : Option String}

theorem new_ok {rules : GovernanceRules} {members : List CthulhuId} :
    GovernanceEngine.new councilId rules members = .ok engine ↔
      members.toFinset ≠ ∅ ∧ members.toFinset.card ≤ maxMembers ∧ rules.validate = .ok rules ∧
        engine = .fresh councilId rules members.toFinset := by
  unfold GovernanceEngine.new
  simp only [except_check_ok, except_bind_ok (α := GovernanceRules), failIf_ok, except_pure_ok,
    not_or, not_lt, and_assoc, ne_eq]
  constructor
  · rintro ⟨hne, hcard, _, hrules, rfl⟩
    cases GovernanceRules.validate_ok hrules
    exact ⟨hne, hcard, hrules, rfl⟩
  · rintro ⟨hne, hcard, hrules, rfl⟩
    exact ⟨hne, hcard, rules, hrules, rfl⟩

/-! ## Membership history -/

/-- Membership snapshots are linked by revision. -/
def snapshots : Link MembershipSnapshot String where
  number := (·.revision)
  parent := (·.parentHash)
  hash := (·.hash)

structure SnapshotValid (councilId : CouncilId) (snapshot : MembershipSnapshot) : Prop where
  nonempty : snapshot.members ≠ []
  bounded : snapshot.members.length ≤ maxMembers
  increasing : snapshot.members.IsChain (· < ·)
  hashForm : validateHash snapshot.hash = .ok ()
  parentForm : validateHashOpt snapshot.parentHash = .ok ()
  hash : snapshot.hash = membershipSnapshotHash councilId snapshot.revision snapshot.parentHash
    snapshot.members

theorem checkSnapshots_ok {n : ℕ} {l : List MembershipSnapshot} :
    checkSnapshots councilId n parent l = .ok () ↔
      snapshots.Chained n parent l ∧ ∀ snapshot ∈ l, SnapshotValid councilId snapshot := by
  induction l generalizing n parent with
  | nil => simp [checkSnapshots, Link.Chained]
  | cons x l ih =>
    simp only [checkSnapshots, except_check_ok, failIf_ok, ih, not_or, not_not, not_lt]
    rw [List.forall_mem_cons, Link.Chained]
    constructor
    · rintro ⟨⟨hnumber, hparent, hne, hlen, hsort⟩, hform, hpform, hhash, hchain, hall⟩
      exact ⟨⟨hnumber, hparent, hchain⟩, ⟨hne, hlen, hsort, hform, hpform, hhash⟩, hall⟩
    · rintro ⟨⟨hnumber, hparent, hchain⟩, ⟨hne, hlen, hsort, hform, hpform, hhash⟩, hall⟩
      exact ⟨⟨hnumber, hparent, hne, hlen, hsort⟩, hform, hpform, hhash, hchain, hall⟩

/-- Lists that increase hold the same elements when one is as long as the set it is within. -/
theorem toFinset_eq_of_length {l : List CthulhuId} {s : Finset CthulhuId}
    (hsort : l.IsChain (· < ·)) (hlen : l.length = s.card) (hsub : ∀ x ∈ l, x ∈ s) :
    l.toFinset = s := by
  have hnodup : l.Nodup := (List.isChain_iff_pairwise.mp hsort).imp ne_of_lt
  refine Finset.eq_of_subset_of_card_le (fun x hx => hsub x (List.mem_toFinset.mp hx)) ?_
  rw [List.toFinset_card_of_nodup hnodup, hlen]

/-- The history is a valid hash chain that ends in the present members. -/
structure HistoryValid (engine : GovernanceEngine) : Prop where
  chained : snapshots.Chained 0 none engine.membershipHistory
  valid : ∀ snapshot ∈ engine.membershipHistory, SnapshotValid engine.councilId snapshot
  current : ∃ snapshot, engine.membershipHistory.getLast? = some snapshot ∧
    snapshot.members.toFinset = engine.members

theorem validateMembershipHistory_ok :
    engine.validateMembershipHistory = .ok () ↔ HistoryValid engine := by
  unfold validateMembershipHistory
  simp only [except_check_ok, checkSnapshots_ok, except_bind_ok (α := MembershipSnapshot),
    okOr_ok, failIf_ok, not_or, not_not]
  constructor
  · rintro ⟨⟨hchain, hvalid⟩, current, hlast, hlen, hsub⟩
    have hcurrent := hvalid current (List.mem_of_getLast? hlast)
    exact ⟨hchain, hvalid, current, hlast, toFinset_eq_of_length hcurrent.increasing hlen hsub⟩
  · rintro ⟨hchain, hvalid, current, hlast, hmembers⟩
    have hcurrent := (hvalid current (List.mem_of_getLast? hlast)).increasing
    have hnodup : current.members.Nodup := (List.isChain_iff_pairwise.mp hcurrent).imp ne_of_lt
    refine ⟨⟨hchain, hvalid⟩, current, hlast, ?_, fun x hx => ?_⟩
    · rw [← hmembers, List.toFinset_card_of_nodup hnodup]
    · rw [← hmembers]
      exact List.mem_toFinset.mpr hx

/-! ## Membership log -/

def bindings : Link ProposalMembershipBinding String where
  number := (·.index)
  parent := (·.parentHash)
  hash := (·.hash)

/-- A binding agrees with its snapshot and its proposal, and is hashed itself. -/
structure BindingValid (engine : GovernanceEngine) (binding : ProposalMembershipBinding) : Prop where
  membership : ∃ snapshot, engine.membershipHistory[binding.membershipRevision]? = some snapshot ∧
    binding.membershipHash = snapshot.hash
  proposal : ∃ proposal, engine.proposals.get binding.proposalId = some proposal ∧
    proposal.membershipBindingIndex = binding.index ∧
    proposal.membershipRevision = binding.membershipRevision ∧
    proposal.membershipHash = binding.membershipHash
  hash : binding.hash = proposalMembershipBindingHash engine.councilId binding.index
    binding.parentHash binding.proposalId binding.membershipRevision binding.membershipHash

theorem checkBindings_ok {n : ℕ} {seen : Finset ProposalId} {l : List ProposalMembershipBinding} :
    engine.checkBindings n parent seen l = .ok () ↔
      bindings.Chained n parent l ∧ (∀ binding ∈ l, BindingValid engine binding) ∧
        (l.map (·.proposalId)).Nodup ∧ ∀ binding ∈ l, binding.proposalId ∉ seen := by
  induction l generalizing n parent seen with
  | nil => simp [checkBindings, Link.Chained]
  | cons x l ih =>
    simp only [checkBindings, except_bind_ok, exists_unit, okOr_ok, failIf_ok, ih, not_or, not_not]
    rw [List.forall_mem_cons, List.forall_mem_cons, Link.Chained, List.map_cons, List.nodup_cons]
    constructor
    · rintro ⟨snapshot, hsnapshot, ⟨hindex, hparent, hmhash, hseen⟩, found, hfound,
        ⟨hpindex, hprevision, hphash⟩, hhash, hchain, hvalid, hnodup, hfresh⟩
      have hnot : x.proposalId ∉ l.map (·.proposalId) := by
        intro hmem
        obtain ⟨y, hy, heq⟩ := List.mem_map.mp hmem
        exact hfresh y hy (heq ▸ Finset.mem_insert_self ..)
      exact ⟨⟨hindex, hparent, hchain⟩,
        ⟨⟨⟨snapshot, hsnapshot, hmhash⟩, ⟨found, hfound, hpindex, hprevision, hphash⟩, hhash⟩, hvalid⟩,
        ⟨hnot, hnodup⟩, hseen, fun y hy hmem => hfresh y hy (Finset.mem_insert_of_mem hmem)⟩
    · rintro ⟨⟨hindex, hparent, hchain⟩,
        ⟨⟨⟨snapshot, hsnapshot, hmhash⟩, ⟨found, hfound, hpindex, hprevision, hphash⟩, hhash⟩, hvalid⟩,
        ⟨hnot, hnodup⟩, hseen, hfresh⟩
      refine ⟨snapshot, hsnapshot, ⟨hindex, hparent, hmhash, hseen⟩, found, hfound,
        ⟨hpindex, hprevision, hphash⟩, hhash, hchain, hvalid, hnodup, fun y hy hmem => ?_⟩
      rcases Finset.mem_insert.mp hmem with heq | hmem
      · exact hnot (List.mem_map.mpr ⟨y, hy, heq⟩)
      · exact hfresh y hy hmem

/-- The log is a valid hash chain that binds every proposal once. -/
structure LogValid (engine : GovernanceEngine) : Prop where
  length : engine.proposalMembershipLog.length = engine.proposals.len
  chained : bindings.Chained 0 none engine.proposalMembershipLog
  valid : ∀ binding ∈ engine.proposalMembershipLog, BindingValid engine binding
  nodup : (engine.proposalMembershipLog.map (·.proposalId)).Nodup

theorem validateProposalMembershipLog_ok :
    engine.validateProposalMembershipLog = .ok () ↔ LogValid engine := by
  unfold validateProposalMembershipLog
  simp only [except_check_ok, failIf_ok, not_not, checkBindings_ok, Finset.notMem_empty,
    not_false_eq_true, implies_true, and_true]
  exact ⟨fun ⟨h, hchain, hvalid, hnodup⟩ => ⟨h, hchain, hvalid, hnodup⟩,
    fun ⟨h, hchain, hvalid, hnodup⟩ => ⟨h, hchain, hvalid, hnodup⟩⟩

/-! ## Proposals -/

/-- A proposal's binding and snapshot agree with it, and the snapshot's members are its
voters. -/
structure BasisValid (engine : GovernanceEngine) (proposal : Proposal) : Prop where
  bound : ∃ binding, engine.proposalMembershipLog[proposal.membershipBindingIndex]? = some binding ∧
    binding.index = proposal.membershipBindingIndex ∧ binding.proposalId = proposal.id ∧
    binding.membershipRevision = proposal.membershipRevision ∧
    binding.membershipHash = proposal.membershipHash
  electorate : ∃ snapshot, engine.membershipHistory[proposal.membershipRevision]? = some snapshot ∧
    snapshot.revision = proposal.membershipRevision ∧ snapshot.hash = proposal.membershipHash ∧
    snapshot.members.length = proposal.eligibleVoters.card ∧
    ∀ member ∈ snapshot.members, member ∈ proposal.eligibleVoters

theorem proposalMembershipIsValid_iff :
    engine.proposalMembershipIsValid proposal = true ↔ BasisValid engine proposal := by
  unfold proposalMembershipIsValid
  constructor
  · intro h
    split at h
    · cases h
    rename_i binding hbinding
    split_ifs at h with hagree
    simp only [not_or, not_not] at hagree
    obtain ⟨hindex, hid, hrevision, hhash⟩ := hagree
    split at h
    · cases h
    rename_i snapshot hsnapshot
    simp only [Bool.and_eq_true, decide_eq_true_eq, List.all_eq_true] at h
    rw [hrevision] at hsnapshot
    exact ⟨⟨binding, hbinding, hindex, hid, hrevision, hhash⟩,
      ⟨snapshot, hsnapshot, h.1.1.1, h.1.1.2, h.1.2, h.2⟩⟩
  · rintro ⟨⟨binding, hbinding, hindex, hid, hrevision, hhash⟩,
      ⟨snapshot, hsnapshot, hnumber, hshash, hlen, hsub⟩⟩
    have hagree : ¬(binding.index ≠ proposal.membershipBindingIndex ∨
        binding.proposalId ≠ proposal.id ∨
        binding.membershipRevision ≠ proposal.membershipRevision ∨
        binding.membershipHash ≠ proposal.membershipHash) := by
      simp [hindex, hid, hrevision, hhash]
    rw [hbinding]
    dsimp only
    rw [if_neg hagree, hrevision, hsnapshot]
    simpa [hnumber, hshash, hlen] using hsub

/-- Every vote was cast by an eligible voter while the proposal was open. -/
def VotesValid (proposal : Proposal) : Prop :=
  ∀ voter vote, proposal.votes.get voter = some vote →
    voter ∈ proposal.eligibleVoters ∧ proposal.createdAt ≤ vote.castAt ∧
      vote.castAt < proposal.deadline

/-- The decision that a tally carries its proposal. -/
def Carries (rules : GovernanceRules) (proposal : Proposal) : Prop :=
  ceilBps proposal.eligibleVoters.card rules.quorumBps ≤ (Tally.of proposal).participating ∧
    0 < (Tally.of proposal).nonAbstaining ∧
    (Tally.of proposal).nonAbstaining * rules.threshold proposal.document.kind ≤
      (Tally.of proposal).support * 10000

theorem hashDiffers_iff : hashDiffers proposal = true ↔
    ¬proposal.document.contentHash = .ok proposal.documentHash := by
  unfold hashDiffers
  cases proposal.document.contentHash <;> simp

theorem hasValidRatificationEvidence_iff : engine.hasValidRatificationEvidence proposal = true ↔
      engine.rules.validate.isOk = true ∧ BasisValid engine proposal ∧
        proposal.document.contentHash = .ok proposal.documentHash ∧ VotesValid proposal ∧
        Carries engine.rules proposal := by
  unfold hasValidRatificationEvidence
  have hvotes : (proposal.votes.pairs.any fun entry =>
      entry.1 ∉ proposal.eligibleVoters || entry.2.castAt < proposal.createdAt ||
        proposal.deadline ≤ entry.2.castAt) = true ↔ ¬VotesValid proposal := by
    unfold VotesValid
    rw [← not_iff_not, not_not, Bool.not_eq_true, List.any_eq_false]
    simp only [HashMap.forall_pairs, Bool.or_eq_true, decide_eq_true_eq, not_or, not_not,
      not_lt, not_le, and_assoc]
  rw [← proposalMembershipIsValid_iff]
  split_ifs with hbad
  · simp only [Bool.or_eq_true, Bool.not_eq_true', hvotes, hashDiffers_iff] at hbad
    refine iff_of_false (by simp) ?_
    rintro ⟨hrules, hbasis, hcontent, hvalid, -⟩
    simp only [hrules, hbasis, hcontent, hvalid, Bool.true_eq_false, not_true_eq_false,
      or_self] at hbad
  · simp only [Bool.or_eq_true, Bool.not_eq_true', hvotes, hashDiffers_iff, not_or, not_not,
      Bool.not_eq_false] at hbad
    obtain ⟨⟨⟨hrules, hbasis⟩, hcontent⟩, hvalid⟩ := hbad
    simp [hrules, hbasis, hcontent, hvalid, Carries, and_assoc]

/-! ## Reloading -/

/-- What a reload at `now` establishes of a stored proposal. -/
structure ProposalValid (engine : GovernanceEngine) (now : ℤ) (id : ProposalId)
    (proposal : Proposal) : Prop where
  key : id = proposal.id
  council : proposal.councilId = engine.councilId
  proposer : proposal.proposer ∈ proposal.eligibleVoters
  voters : proposal.eligibleVoters.card ≤ maxMembers
  created : 0 ≤ proposal.createdAt
  deadline : proposal.createdAt < proposal.deadline
  lifetime : proposal.deadline - proposal.createdAt ≤ engine.rules.maxProposalLifetimeSeconds
  argumentsBound : proposal.arguments.length ≤ maxArguments
  amendmentsBound : proposal.amendments.length ≤ maxAmendments
  closed : proposal.status ≠ .open → proposal.deadline ≤ now
  basis : BasisValid engine proposal
  document : proposal.document.validate = .ok ()
  hash : proposal.document.contentHash = .ok proposal.documentHash
  evidence : proposal.status = .ratified → engine.hasValidRatificationEvidence proposal = true
  arguments : ∀ argument ∈ proposal.arguments, validateArgument proposal argument = .ok ()
  amendments : ∀ amendment ∈ proposal.amendments, validateAmendment proposal amendment = .ok ()
  votes : VotesValid proposal

theorem VotesValid.len_le (h : VotesValid proposal) :
    proposal.votes.len ≤ proposal.eligibleVoters.card := by
  rw [← HashMap.length_keys, ← List.toFinset_card_of_nodup proposal.votes.nodup_keys]
  refine Finset.card_le_card fun voter hvoter => ?_
  obtain ⟨vote, hvote⟩ := HashMap.mem_keys.mp (List.mem_toFinset.mp hvoter)
  exact (h voter vote hvote).1

theorem validateProposal_ok {id : ProposalId} :
    engine.validateProposal now (id, proposal) = .ok () ↔ ProposalValid engine now id proposal := by
  unfold validateProposal
  simp only [except_check_ok, failIf_ok, except_bind_ok (α := String), forM_ok,
    HashMap.forall_pairs, not_or, not_and, not_not, not_lt, not_le, ne_eq]
  rw [Bool.not_eq_true, Bool.not_eq_false', proposalMembershipIsValid_iff]
  constructor
  · rintro ⟨⟨hkey, hcouncil, -, hvoters, hproposer, hcreated, hdeadline, hlifetime, hargs, hamends,
      -, hclosed⟩, hbasis, hdocument, hash, hcontent, rfl, hevidence, harguments, hamendments, hvotes⟩
    refine ⟨hkey, hcouncil, hproposer, hvoters, hcreated, hdeadline, hlifetime, hargs, hamends,
      hclosed, hbasis, hdocument, hcontent, ?_, harguments, hamendments, hvotes⟩
    exact fun hstatus => by simpa using hevidence hstatus
  · intro h
    have hne : proposal.eligibleVoters ≠ ∅ := Finset.ne_empty_of_mem h.proposer
    refine ⟨⟨h.key, h.council, hne, h.voters, h.proposer, h.created, h.deadline, h.lifetime,
      h.argumentsBound, h.amendmentsBound, VotesValid.len_le h.votes, h.closed⟩, h.basis, h.document,
      _, h.hash, rfl, ?_, h.arguments, h.amendments, h.votes⟩
    exact fun hstatus => by simpa using h.evidence hstatus

/-- A head names a ratified proposal of its kind with its version and hash. -/
def HeadValid (engine : GovernanceEngine) (kind : DocumentKind) (head : Option DocumentHead) :
    Prop :=
  ∀ h, head = some h → validateHash h.hash = .ok () ∧ ∃ proposal,
    engine.proposals.get h.proposalId = some proposal ∧
    headVersion kind proposal.document = some h.version ∧ proposal.status = .ratified ∧
    proposal.documentHash = h.hash

theorem validateLoadedHead_ok {kind : DocumentKind} {head : Option DocumentHead} :
    engine.validateLoadedHead head kind = .ok () ↔ HeadValid engine kind head := by
  cases head with
  | none => simp [validateLoadedHead, HeadValid]
  | some head =>
    simp only [validateLoadedHead, except_bind_ok, exists_unit, okOr_ok, failIf_ok, not_or, not_not,
      HeadValid, Option.some.injEq, forall_eq']
    constructor
    · rintro ⟨hform, proposal, hfound, version, hversion, hstatus, hhash, rfl⟩
      exact ⟨hform, proposal, hfound, hversion, hstatus, hhash⟩
    · rintro ⟨hform, proposal, hfound, hversion, hstatus, hhash⟩
      exact ⟨hform, proposal, hfound, _, hversion, hstatus, hhash, rfl⟩

/-- What a reload at `now` establishes of an engine. -/
structure Loadable (engine : GovernanceEngine) (now : ℤ) : Prop where
  time : 0 ≤ now
  nonempty : engine.members ≠ ∅
  members : engine.members.card ≤ maxMembers
  historyBound : engine.membershipHistory.length ≤ maxMembershipSnapshots
  proposalsBound : engine.proposals.len ≤ maxProposals
  openBound : engine.openProposals ≤ maxOpenProposals
  rules : engine.rules.validate.isOk = true
  history : HistoryValid engine
  log : LogValid engine
  proposals : ∀ id proposal, engine.proposals.get id = some proposal →
    ProposalValid engine now id proposal
  constitution : HeadValid engine .constitution engine.constitution
  agenda : HeadValid engine .agenda engine.agenda

theorem HistoryValid.ne_nil (h : HistoryValid engine) : engine.membershipHistory ≠ [] := by
  obtain ⟨snapshot, hlast, -⟩ := h.current
  intro hnil
  rw [hnil] at hlast
  cases hlast

theorem validateLoadedState_ok : engine.validateLoadedState now = .ok () ↔ Loadable engine now := by
  unfold validateLoadedState
  simp only [except_check_ok, except_bind_ok (α := GovernanceRules), failIf_ok, forM_ok,
    HashMap.forall_pairs, validateProposal_ok, validateMembershipHistory_ok,
    validateProposalMembershipLog_ok, validateLoadedHead_ok, not_or, not_lt]
  constructor
  · rintro ⟨⟨htime, hne, hmembers, -, hhistory, -, hproposals⟩, rules, hrules, hvalid, hlog, hopen, hall,
      hconstitution, hagenda⟩
    exact ⟨htime, hne, hmembers, hhistory, hproposals, hopen,
      (isOk_iff).mpr ⟨rules, hrules⟩, hvalid, hlog,
      hall, hconstitution, hagenda⟩
  · intro h
    obtain ⟨rules, hrules⟩ := (isOk_iff).mp h.rules
    have hlog : engine.proposalMembershipLog.length ≤ maxProposals := by
      rw [h.log.length]
      exact h.proposalsBound
    exact ⟨⟨h.time, h.nonempty, h.members, h.history.ne_nil, h.historyBound, hlog, h.proposalsBound⟩,
      rules, hrules, h.history, h.log, h.openBound, h.proposals, h.constitution, h.agenda⟩

end Cthuwu.Governance
