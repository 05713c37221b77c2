import Cthuwu.Governance.World

/-!
# Every run can be reloaded

`Loadable` is kept by every justified effect, whatever its time (`loadable_step`) : each of
the writes of an operation passes the check that a reload makes of it. A proposal that has
been closed was closed at its deadline or later, so that a reload at `now` asks for a `now`
that is not before any step (`reachable_loadable`). With times that do not decrease
that is any `now` from the last step on (`reload_run`).
-/

namespace Cthuwu.Governance

open Council GovernanceEngine

section

variable [Hashing] {engine engine' : GovernanceEngine} {now now' : ℤ} {id : ProposalId}
  {proposal proposal' : Proposal}

/-! ## What growth keeps -/

theorem ProposalValid.grow (h : ProposalValid engine now id proposal)
    (hgrows : Grows engine engine') (hnow : now ≤ now') : ProposalValid engine' now' id proposal where
  key := h.key
  council := by rw [h.council, hgrows.councilId]
  proposer := h.proposer
  voters := h.voters
  created := h.created
  deadline := h.deadline
  lifetime := by rw [hgrows.rules]; exact h.lifetime
  argumentsBound := h.argumentsBound
  amendmentsBound := h.amendmentsBound
  closed := fun hstatus => (h.closed hstatus).trans hnow
  basis := h.basis.grow hgrows (.refl proposal)
  document := h.document
  hash := h.hash
  evidence := fun hstatus => by
    obtain ⟨hrules, hbasis, hcontent, hvotes, hcarries⟩ :=
      hasValidRatificationEvidence_iff.mp (h.evidence hstatus)
    refine hasValidRatificationEvidence_iff.mpr ⟨?_, hbasis.grow hgrows (.refl proposal), hcontent,
      hvotes, ?_⟩ <;> rwa [hgrows.rules]
  arguments := h.arguments
  amendments := h.amendments
  votes := h.votes

theorem HeadValid.grow {kind : DocumentKind} {head : Option DocumentHead}
    (h : HeadValid engine kind head)
    (hkeeps : ∀ id proposal, engine.proposals.get id = some proposal → proposal.status = .ratified →
      engine'.proposals.get id = some proposal) : HeadValid engine' kind head := by
  intro top htop
  obtain ⟨hform, proposal, hfound, hversion, hstatus, hhash⟩ := h top htop
  exact ⟨hform, proposal, hkeeps _ _ hfound hstatus, hversion, hstatus, hhash⟩

theorem Loadable.mono (h : Loadable engine now) (hnow : now ≤ now') : Loadable engine now' :=
  { h with
    time := h.time.trans hnow
    proposals := fun id proposal hget => (h.proposals id proposal hget).grow (.refl engine) hnow }

/-! ## Members -/

variable {councilId : CouncilId} {members : Finset CthulhuId} {parent : MembershipSnapshot}
  {founding : Founding}

theorem snapshotValid_new {revision : ℕ} {parentHash : Option String} (hne : members ≠ ∅)
    (hcard : members.card ≤ maxMembers) (hparent : validateHashOpt parentHash = .ok ()) :
    SnapshotValid councilId (.new councilId revision parentHash members) := by
  refine ⟨fun hnil => hne ?_, ?_, isChain_sorted, validateHash_contentHashOf _, hparent, rfl⟩
  · rw [← Finset.card_eq_zero, ← length_sorted]
    exact congrArg List.length hnil
  · exact length_sorted.trans_le hcard

theorem toFinset_sorted (members : Finset CthulhuId) : (sorted members).toFinset = members := by
  ext member
  rw [List.mem_toFinset, mem_sorted]

theorem HistoryValid.last (h : HistoryValid engine) {snapshot : MembershipSnapshot}
    (hlast : engine.membershipHistory.getLast? = some snapshot) :
    engine.membershipHistory[snapshot.revision]? = some snapshot ∧
      engine.membershipHistory.length = snapshot.revision + 1 := by
  obtain ⟨front, hfront⟩ := List.getLast?_eq_some_iff.mp hlast
  have hchained := h.chained
  rw [hfront, Link.chained_concat] at hchained
  have hnumber : snapshot.revision = front.length := hchained.2.1.trans (Nat.zero_add _)
  rw [hnumber, hfront]
  simp

/-- A snapshot after the last one continues the history. -/
theorem HistoryValid.seat (h : HistoryValid engine)
    (hlast : engine.membershipHistory.getLast? = some parent) (hne : members ≠ ∅)
    (hcard : members.card ≤ maxMembers) : HistoryValid (engine.seat members parent) := by
  have hparent : SnapshotValid engine.councilId parent := h.valid parent (List.mem_of_getLast? hlast)
  refine ⟨Link.chained_concat.mpr ⟨h.chained, ?_, ?_⟩, ?_,
    ⟨_, List.getLast?_concat, toFinset_sorted members⟩⟩
  · rw [(h.last hlast).2, Nat.zero_add]
    rfl
  · unfold Link.lastHash
    rw [hlast]
    rfl
  · intro snapshot hmem
    rcases List.mem_append.mp hmem with hmem | hmem
    · exact h.valid snapshot hmem
    · rw [List.mem_singleton] at hmem
      rw [hmem]
      exact snapshotValid_new hne hcard hparent.hashForm

theorem Loadable.seat (h : Loadable engine now) (hne : members ≠ ∅)
    (hcard : members.card ≤ maxMembers)
    (hroom : engine.membershipHistory.length < maxMembershipSnapshots)
    (hlast : engine.membershipHistory.getLast? = some parent) :
    Loadable (engine.seat members parent) now where
  time := h.time
  nonempty := hne
  members := hcard
  historyBound := by
    change (engine.membershipHistory ++ [_]).length ≤ _
    rw [List.length_append]
    exact hroom
  proposalsBound := h.proposalsBound
  openBound := h.openBound
  rules := h.rules
  history := h.history.seat hlast hne hcard
  log := ⟨h.log.length, h.log.chained, fun binding hmem => (h.log.valid binding hmem).grow seat_grows,
    h.log.nodup⟩
  proposals := fun id proposal hget => (h.proposals id proposal hget).grow seat_grows le_rfl
  constitution := h.constitution
  agenda := h.agenda

/-! ## Submissions -/

theorem lastHash_bindings : bindings.lastHash none engine.proposalMembershipLog =
    engine.proposalMembershipLog.getLast?.map (·.hash) :=
  Option.or_none

/-- A binding of a new proposal to the present snapshot continues the log. -/
theorem LogValid.enter (h : LogValid engine) (hsubmittable : Submittable engine proposal)
    (hhistory : HistoryValid engine) : LogValid (engine.enter proposal) := by
  obtain ⟨snapshot, hlast, hrevision, hhash⟩ := hsubmittable.membership
  have hsnapshot : engine.membershipHistory[proposal.membershipRevision]? = some snapshot := by
    rw [hrevision]
    exact (hhistory.last hlast).1
  have hgrows : Grows engine (engine.enter proposal) := enter_grows hsubmittable.fresh
  refine ⟨?_, ?_, ?_, ?_⟩
  · change (engine.proposalMembershipLog ++ [_]).length = (engine.proposals.insert _ _).len
    rw [List.length_append, h.length, HashMap.len_insert_fresh hsubmittable.fresh]
    rfl
  · refine Link.chained_concat.mpr ⟨h.chained, (Nat.zero_add _).symm, ?_⟩
    rw [lastHash_bindings]
    rfl
  · intro binding hmem
    rcases List.mem_append.mp hmem with hmem | hmem
    · exact (h.valid binding hmem).grow hgrows
    · rw [List.mem_singleton] at hmem
      subst hmem
      exact ⟨⟨snapshot, hsnapshot, hhash⟩,
        ⟨proposal, HashMap.get_insert, hsubmittable.index, rfl, rfl⟩, rfl⟩
  · change ((engine.proposalMembershipLog ++ [_]).map _).Nodup
    rw [List.map_append, List.nodup_append]
    refine ⟨h.nodup, List.nodup_singleton _, fun bound hbound other hother heq => ?_⟩
    obtain ⟨binding, hmem, rfl⟩ := List.mem_map.mp hbound
    obtain ⟨found, hfound, -⟩ := (h.valid binding hmem).proposal
    have hid : binding.proposalId = proposal.id := heq.trans (List.mem_singleton.mp hother)
    rw [hid, hsubmittable.fresh] at hfound
    cases hfound

theorem Submittable.proposalValid (hsubmittable : Submittable engine proposal)
    (h : Loadable engine now) : ProposalValid (engine.enter proposal) now proposal.id proposal := by
  obtain ⟨snapshot, hlast, hrevision, hhash⟩ := hsubmittable.membership
  obtain ⟨current, hcurrent, hmembers⟩ := h.history.current
  cases hlast.symm.trans hcurrent
  have hvalid := h.history.valid snapshot (List.mem_of_getLast? hlast)
  have hnodup : snapshot.members.Nodup :=
    (List.isChain_iff_pairwise.mp hvalid.increasing).imp ne_of_lt
  exact {
    key := rfl
    council := hsubmittable.council
    proposer := by rw [hsubmittable.voters]; exact hsubmittable.proposer
    voters := by rw [hsubmittable.voters]; exact h.members
    created := hsubmittable.created
    deadline := hsubmittable.deadline
    lifetime := hsubmittable.lifetime
    argumentsBound := by rw [hsubmittable.arguments]; exact Nat.zero_le _
    amendmentsBound := by rw [hsubmittable.amendments]; exact Nat.zero_le _
    closed := fun hstatus => absurd hsubmittable.status hstatus
    basis := by
      refine ⟨⟨engine.nextBinding proposal, ?_, hsubmittable.index.symm, rfl, rfl, rfl⟩,
        ⟨snapshot, ?_, hrevision.symm, hhash.symm, ?_, fun member hmember => ?_⟩⟩
      · rw [hsubmittable.index]
        exact List.getElem?_concat_length
      · rw [hrevision]
        exact (h.history.last hlast).1
      · rw [hsubmittable.voters, ← hmembers, List.toFinset_card_of_nodup hnodup]
      · rw [hsubmittable.voters, ← hmembers]
        exact List.mem_toFinset.mpr hmember
    document := hsubmittable.document
    hash := hsubmittable.hash
    evidence := fun hstatus => by simp [hsubmittable.status] at hstatus
    arguments := by simp [hsubmittable.arguments]
    amendments := by simp [hsubmittable.amendments]
    votes := fun voter vote hvote => by simp [hsubmittable.votes] at hvote }

theorem keeps_enter (hsubmittable : Submittable engine proposal) (id : ProposalId)
    (found : Proposal) (hget : engine.proposals.get id = some found)
    (_ : found.status = .ratified) : (engine.enter proposal).proposals.get id = some found := by
  have hne : id ≠ proposal.id := by
    rintro rfl
    rw [hsubmittable.fresh] at hget
    cases hget
  exact (HashMap.get_insert_ne hne).trans hget

theorem openProposals_enter (hsubmittable : Submittable engine proposal) :
    (engine.enter proposal).openProposals = engine.openProposals + 1 := by
  unfold openProposals enter
  rw [HashMap.values_insert_fresh hsubmittable.fresh, List.countP_cons_of_pos]
  simp [hsubmittable.status]

theorem Loadable.enter (h : Loadable engine now) (hsubmittable : Submittable engine proposal) :
    Loadable (engine.enter proposal) now where
  time := h.time
  nonempty := h.nonempty
  members := h.members
  historyBound := h.historyBound
  proposalsBound := by
    change (engine.proposals.insert _ _).len ≤ _
    rw [HashMap.len_insert_fresh hsubmittable.fresh]
    exact hsubmittable.room
  openBound := by
    rw [openProposals_enter hsubmittable]
    exact hsubmittable.openRoom
  rules := h.rules
  history := ⟨h.history.chained, h.history.valid, h.history.current⟩
  log := h.log.enter hsubmittable h.history
  proposals := fun id found hget => by
    change (engine.proposals.insert _ _).get id = _ at hget
    rw [HashMap.get_insert_apply] at hget
    split_ifs at hget with heq
    · cases hget
      rw [heq]
      exact hsubmittable.proposalValid h
    · exact (h.proposals id found hget).grow (enter_grows hsubmittable.fresh) le_rfl
  constitution := h.constitution.grow (keeps_enter hsubmittable)
  agenda := h.agenda.grow (keeps_enter hsubmittable)

/-! ## Open proposals -/

/-- Rewriting an open proposal keeps every ratified one. -/
theorem keeps_insert (hfound : engine.proposals.get id = some proposal)
    (hopen : proposal.status = .open) (other : ProposalId) (found : Proposal)
    (hget : engine.proposals.get other = some found) (hstatus : found.status = .ratified) :
    (engine.proposals.insert id proposal').get other = some found := by
  have hne : other ≠ id := by
    rintro rfl
    cases hfound.symm.trans hget
    simp [hopen] at hstatus
  exact (HashMap.get_insert_ne hne).trans hget

/-- An open proposal may be replaced by a valid one with its terms, and the heads by valid
ones. -/
theorem Loadable.rewrite (h : Loadable engine now) (hnow : now ≤ now')
    (hfound : engine.proposals.get id = some proposal) (hopen : proposal.status = .open)
    (hgrows : Grows engine engine')
    (hengine : ∃ constitution agenda,
      engine' = { engine.setProposal id proposal' with constitution, agenda })
    (hvalid : ProposalValid engine' now' id proposal')
    (hconstitution : HeadValid engine' .constitution engine'.constitution)
    (hagenda : HeadValid engine' .agenda engine'.agenda) : Loadable engine' now' := by
  obtain ⟨constitution, agenda, rfl⟩ := hengine
  exact {
    time := h.time.trans hnow
    nonempty := h.nonempty
    members := h.members
    historyBound := h.historyBound
    proposalsBound := by
      change (engine.proposals.insert _ _).len ≤ _
      rw [HashMap.len_insert_present hfound]
      exact h.proposalsBound
    openBound := (HashMap.countP_values_insert_le hfound (by simp [hopen])).trans h.openBound
    rules := h.rules
    history := ⟨h.history.chained, h.history.valid, h.history.current⟩
    log := by
      refine ⟨?_, h.log.chained, fun binding hmem => (h.log.valid binding hmem).grow hgrows,
        h.log.nodup⟩
      change _ = (engine.proposals.insert _ _).len
      rw [HashMap.len_insert_present hfound]
      exact h.log.length
    proposals := fun other found hget => by
      change (engine.proposals.insert _ _).get other = _ at hget
      rw [HashMap.get_insert_apply] at hget
      split_ifs at hget with heq
      · cases hget
        rw [heq]
        exact hvalid
      · exact (h.proposals other found hget).grow hgrows hnow
    constitution := hconstitution
    agenda := hagenda }

/-- An open proposal may be replaced by a valid one with its terms. -/
theorem Loadable.setProposal (h : Loadable engine now) (hnow : now ≤ now')
    (hfound : engine.proposals.get id = some proposal) (hopen : proposal.status = .open)
    (hsame : proposal.SameTerms proposal')
    (hvalid : ProposalValid (engine.setProposal id proposal') now' id proposal') :
    Loadable (engine.setProposal id proposal') now' :=
  h.rewrite hnow hfound hopen (setProposal_grows hfound hsame) ⟨_, _, rfl⟩ hvalid
    (h.constitution.grow (keeps_insert hfound hopen)) (h.agenda.grow (keeps_insert hfound hopen))

/-- What a contribution has to satisfy is what the operation has checked. -/
theorem OpenTo.validateContribution {actor : CthulhuId} (hopen : OpenTo engine now id actor proposal)
    {text field metadata : String} (htext : validateText text maxTextBytes field false = .ok ()) :
    validateContribution proposal actor now text field metadata = .ok () := by
  have hgood : ¬(actor ∉ proposal.eligibleVoters ∨ now < proposal.createdAt ∨
      proposal.deadline ≤ now) := by
    rw [not_or, not_or, not_not, not_lt, not_le]
    exact ⟨hopen.eligible, hopen.created, hopen.deadline⟩
  exact except_check_ok.mpr ⟨failIf_ok.mpr hgood, htext⟩

theorem Loadable.argue (h : Loadable engine now) (hnow : now ≤ now') {argument : Argument}
    (hopen : OpenTo engine argument.submittedAt id argument.author proposal)
    (htext : validateText argument.text maxTextBytes "argument" false = .ok ())
    (hroom : proposal.arguments.length < maxArguments) :
    Loadable (Effect.apply engine (.argued id proposal argument)) now' := by
  have hsame : proposal.SameTerms { proposal with arguments := proposal.arguments ++ [argument] } :=
    ⟨rfl, rfl, rfl, rfl, rfl, rfl, rfl, rfl, rfl, rfl, rfl⟩
  have hgrows := setProposal_grows hopen.found hsame
  have hold := (h.proposals id proposal hopen.found).grow hgrows hnow
  refine h.setProposal hnow hopen.found hopen.status hsame { hold with
    basis := (h.proposals id proposal hopen.found).basis.grow hgrows hsame
    argumentsBound := by simpa using Nat.succ_le_of_lt hroom
    evidence := fun hstatus => by simp [hopen.status] at hstatus
    arguments := fun given hgiven => ?_ }
  rcases List.mem_append.mp hgiven with hgiven | hgiven
  · exact hold.arguments given hgiven
  · rw [List.mem_singleton.mp hgiven]
    exact hopen.validateContribution htext

theorem Loadable.amend (h : Loadable engine now) (hnow : now ≤ now')
    {amendment : AmendmentSuggestion}
    (hopen : OpenTo engine amendment.submittedAt id amendment.author proposal)
    (htext : validateText amendment.text maxTextBytes "amendment" false = .ok ())
    (hroom : proposal.amendments.length < maxAmendments) :
    Loadable (Effect.apply engine (.amended id proposal amendment)) now' := by
  have hsame :
      proposal.SameTerms { proposal with amendments := proposal.amendments ++ [amendment] } :=
    ⟨rfl, rfl, rfl, rfl, rfl, rfl, rfl, rfl, rfl, rfl, rfl⟩
  have hgrows := setProposal_grows hopen.found hsame
  have hold := (h.proposals id proposal hopen.found).grow hgrows hnow
  refine h.setProposal hnow hopen.found hopen.status hsame { hold with
    basis := (h.proposals id proposal hopen.found).basis.grow hgrows hsame
    amendmentsBound := by simpa using Nat.succ_le_of_lt hroom
    evidence := fun hstatus => by simp [hopen.status] at hstatus
    amendments := fun given hgiven => ?_ }
  rcases List.mem_append.mp hgiven with hgiven | hgiven
  · exact hold.amendments given hgiven
  · rw [List.mem_singleton.mp hgiven]
    exact hopen.validateContribution htext

theorem VotesValid.insert (h : VotesValid proposal) {voter : CthulhuId} {vote : VoteRecord}
    (hopen : OpenTo engine vote.castAt id voter proposal) :
    VotesValid { proposal with votes := proposal.votes.insert voter vote } := by
  intro other cast hget
  rw [HashMap.get_insert_apply] at hget
  split_ifs at hget with heq
  · cases hget
    rw [heq]
    exact ⟨hopen.eligible, hopen.created, hopen.deadline⟩
  · exact h other cast hget

theorem Loadable.vote (h : Loadable engine now) (hnow : now ≤ now') {voter : CthulhuId}
    {vote : VoteRecord} (hopen : OpenTo engine vote.castAt id voter proposal) :
    Loadable (Effect.apply engine (.voted id proposal voter vote)) now' := by
  have hsame : proposal.SameTerms { proposal with votes := proposal.votes.insert voter vote } :=
    ⟨rfl, rfl, rfl, rfl, rfl, rfl, rfl, rfl, rfl, rfl, rfl⟩
  have hgrows := setProposal_grows hopen.found hsame
  have hold := (h.proposals id proposal hopen.found).grow hgrows hnow
  exact h.setProposal hnow hopen.found hopen.status hsame { hold with
    basis := (h.proposals id proposal hopen.found).basis.grow hgrows hsame
    evidence := fun hstatus => by simp [hopen.status] at hstatus
    votes := hold.votes.insert hopen }

/-! ## Closed proposals -/

theorem Loadable.head (h : Loadable engine now) (kind : DocumentKind) :
    HeadValid engine kind (engine.head kind) := by
  cases kind with
  | constitution => exact h.constitution
  | agenda => exact h.agenda
  | strategy => exact fun _ => nofun
  | action => exact fun _ => nofun

theorem validateHash_of_contentHash {document : GovernanceDocument} {hash : String}
    (h : document.contentHash = .ok hash) : validateHash hash = .ok () := by
  unfold GovernanceDocument.contentHash at h
  simp only [except_check_ok, except_bind_ok (α := String), except_pure_ok] at h
  obtain ⟨-, encoded, -, rfl⟩ := h
  exact validateHash_contentHashOf _

/-- A proposal closed in time, with the evidence for its decision, is valid. -/
theorem ProposalValid.close (h : ProposalValid engine now id proposal) (hnow : now ≤ now')
    (hdeadline : proposal.deadline ≤ now') {status : ProposalStatus}
    (hrules : engine.rules.validate.isOk = true)
    (hgrows : Grows engine engine') (hcarries : status = .ratified → Carries engine.rules proposal) :
    ProposalValid engine' now' id { proposal with status } := by
  have hsame : proposal.SameTerms { proposal with status } :=
    ⟨rfl, rfl, rfl, rfl, rfl, rfl, rfl, rfl, rfl, rfl, rfl⟩
  have hbasis : BasisValid engine' { proposal with status } := h.basis.grow hgrows hsame
  refine { h.grow hgrows hnow with
    closed := fun _ => hdeadline
    basis := hbasis
    evidence := fun hstatus => hasValidRatificationEvidence_iff.mpr ?_ }
  refine ⟨by rw [hgrows.rules]; exact hrules, hbasis, h.hash, h.votes, ?_⟩
  rw [hgrows.rules]
  exact hcarries hstatus

theorem Loadable.close (h : Loadable engine now) (hnow : now ≤ now')
    (hfound : engine.proposals.get id = some proposal) (hopen : proposal.status = .open)
    (hdeadline : proposal.deadline ≤ now') :
    Loadable (Effect.apply engine (.closed id proposal (engine.decision proposal))) now' := by
  have hold := h.proposals id proposal hfound
  have hsame : proposal.SameTerms { proposal with status := engine.decision proposal } :=
    ⟨rfl, rfl, rfl, rfl, rfl, rfl, rfl, rfl, rfl, rfl, rfl⟩
  have hgrows : Grows engine (Effect.apply engine (.closed id proposal (engine.decision proposal))) :=
    close_grows hfound hsame
  have hengine : ∃ constitution agenda,
      Effect.apply engine (.closed id proposal (engine.decision proposal)) =
        { engine.setProposal id { proposal with status := engine.decision proposal } with
          constitution, agenda } := by
    obtain ⟨constitution, agenda, heq⟩ :=
      conclude_eq engine id proposal (engine.decision proposal)
    exact ⟨constitution, agenda, by rw [Effect.apply, heq]; rfl⟩
  have hproposals : (Effect.apply engine (.closed id proposal (engine.decision proposal))).proposals =
      engine.proposals.insert id { proposal with status := engine.decision proposal } := by
    obtain ⟨constitution, agenda, heq⟩ := hengine
    rw [heq]
    rfl
  have hheads : ∀ kind,
      HeadValid (Effect.apply engine (.closed id proposal (engine.decision proposal))) kind
        ((engine.conclude id proposal (engine.decision proposal)).head kind) := by
    intro kind
    have hkept := (h.head kind).grow fun other found hget hstatus => by
        rw [hproposals]
        exact keeps_insert hfound hopen other found hget hstatus
    rw [head_conclude]
    split_ifs with hratified
    · cases hversion : headVersion kind proposal.document with
      | none => exact hkept
      | some version =>
        intro top htop
        cases htop
        refine ⟨validateHash_of_contentHash hold.hash,
          { proposal with status := engine.decision proposal }, ?_, hversion, hratified, rfl⟩
        rw [hproposals]
        exact HashMap.get_insert (k := id)
    · exact hkept
  refine h.rewrite hnow hfound hopen hgrows hengine ?_ (hheads .constitution) (hheads .agenda)
  exact hold.close hnow hdeadline h.rules hgrows fun hratified => (decision_ratified.mp hratified).2

/-! ## Every run -/

/-- A step keeps a loadable engine loadable, at any time that is not before either. -/
theorem loadable_step (h : Loadable engine now) {at_ : ℤ} {effect : Effect}
    (hjustified : Justified engine at_ effect) (hnow : now ≤ now') (hat : at_ ≤ now') :
    Loadable (effect.apply engine) now' := by
  cases hjustified with
  | idle => exact h.mono hnow
  | seated hne hcard hroom hlast => exact (h.seat hne hcard hroom hlast).mono hnow
  | submitted hsubmittable => exact (h.enter hsubmittable).mono hnow
  | argued hopen htime htext hroom =>
    subst htime
    exact h.argue hnow hopen htext hroom
  | amended hopen htime htext hroom =>
    subst htime
    exact h.amend hnow hopen htext hroom
  | voted hopen htime =>
    subst htime
    exact h.vote hnow hopen
  | closed hready => exact h.close hnow hready.found hready.status (hready.deadline.trans hat)

theorem loadable_fresh {rules : GovernanceRules} (hne : members ≠ ∅)
    (hcard : members.card ≤ maxMembers) (hrules : rules.validate = .ok rules) :
    Loadable (.fresh councilId rules members) 0 where
  time := le_rfl
  nonempty := hne
  members := hcard
  historyBound := by
    change 1 ≤ maxMembershipSnapshots
    decide
  proposalsBound := Nat.zero_le _
  openBound := Nat.zero_le _
  rules := isOk_iff.mpr ⟨_, hrules⟩
  history := by
    refine ⟨⟨rfl, rfl, trivial⟩, fun snapshot hmem => ?_,
      ⟨_, List.getLast?_singleton, toFinset_sorted members⟩⟩
    rw [List.mem_singleton.mp hmem]
    exact snapshotValid_new hne hcard rfl
  log := ⟨rfl, trivial, fun _ => nofun, List.nodup_nil⟩
  proposals := fun id proposal hget => by cases (HashMap.get_empty id).symm.trans hget
  constitution := fun _ => nofun
  agenda := fun _ => nofun

theorem loadable_new (founding : Founding) : Loadable founding.engine 0 := by
  obtain ⟨hne, hcard, hrules, hengine⟩ := new_ok.mp founding.founded
  rw [hengine]
  exact loadable_fresh hne hcard hrules

/-- Some time is late enough to reload the engine that any run has left. -/
theorem reachable_loadable {w : World} (h : (machine founding).Reachable w) :
    ∃ now, Loadable w.engine now := by
  refine invariant (P := fun w => ∃ now, Loadable w.engine now) ⟨0, loadable_new founding⟩ ?_ h
  rintro w now effect ⟨last, hlast⟩ hjustified
  exact ⟨max last now, loadable_step hlast hjustified (le_max_left ..) (le_max_right ..)⟩

/-- When times do not decrease, the last one is late enough. -/
theorem timely_loadable {w : World} (h : ((machine founding).restrict timely).Reachable w) :
    Loadable w.engine (max 0 w.clock) := by
  refine h.invariant (P := fun w => Loadable w.engine (max 0 w.clock)) ?_ ?_
  · exact (loadable_new founding).mono (le_max_left ..)
  · intro w l _ hw hl
    have htime : w.clock ≤ l.now := hl.2
    obtain ⟨effect, hjustified, hstep⟩ := step_effect w l
    change Loadable (w.step l).engine (max 0 (w.step l).clock)
    rw [hstep]
    exact loadable_step hw hjustified (max_le_max_left 0 htime) (le_max_right 0 l.now)

end

/-! ## Reloading a run -/

/-- The engine that any run at times that do not decrease has left can be reloaded at any time
from the last one on that is not negative. -/
theorem reload_run [Hashing] (founding : Founding) {w : World}
    (h : ((machine founding).restrict timely).Reachable w) {now : ℤ} (hlast : w.clock ≤ now)
    (hnow : 0 ≤ now) : w.engine.validateLoadedState now = .ok () :=
  validateLoadedState_ok.mpr ((timely_loadable h).mono (max_le hnow hlast))

section Sample

attribute [local instance] sampleHashing

theorem sampleRounds_run :
    ((machine sampleFounding).restrict timely).Admits (.init sampleFounding) sampleRounds ∧
      (sampleRun sampleRounds).clock = 30 := by
  decide +kernel

theorem reachable_sampleRounds :
    ((machine sampleFounding).restrict timely).Reachable (sampleRun sampleRounds) :=
  Machine.Reachable.init.run sampleRounds_run.1

/-- Two rounds ending at 30 can be reloaded at 30. -/
theorem reload_run_sample : (sampleRun sampleRounds).clock = 30 ∧
    (sampleRun sampleRounds).engine.validateLoadedState 30 = .ok () :=
  ⟨sampleRounds_run.2, reload_run sampleFounding reachable_sampleRounds sampleRounds_run.2.le
    (by decide)⟩

/-- A negative time is refused whatever the engine. -/
theorem reload_negative_refused : ∃ w : World, ((machine sampleFounding).restrict timely).Reachable w ∧
    w.clock ≤ -1 ∧ w.engine.validateLoadedState (-1) ≠ .ok () :=
  ⟨.init sampleFounding, .init, by decide, fun h => absurd (validateLoadedState_ok.mp h).time (by decide)⟩

end Sample

end Cthuwu.Governance
