import Cthuwu.Governance.Lineage

/-!
# The electorate's decision

`Recorded` ties what an observer wrote down to what the engine stores : each proposal's voters
are the members at its submission, every accepted ballot was cast by one of them while the
proposal was open, and the stored vote of a voter is the last ballot accepted from them. The
tally of the source, a count over stored votes, is therefore a count of the electorate by last
ballot (`Recorded.tally`), and `finalize_result` says that on a reachable engine `finalize`
refuses nothing but a proposal that is not open or not due.
-/

namespace Cthuwu.Governance

open Council GovernanceEngine Fallible

section

variable [Hashing] {engine : GovernanceEngine} {now : ℤ} {id : ProposalId} {proposal : Proposal}
  {voter : CthulhuId} {choice : VoteChoice} {w : World}

/-! ## What was observed -/

/-- The members when the proposal was submitted. -/
def World.electorate (w : World) (id : ProposalId) : Finset CthulhuId :=
  (w.electorates.lookup id).getD ∅

def World.lastBallot (w : World) (id : ProposalId) (voter : CthulhuId) : Option Ballot :=
  (w.ballots.filter fun ballot => ballot.proposalId = id && ballot.voter = voter).getLast?

/-- The members of the electorate whose last ballot has the choice. -/
def World.count (w : World) (id : ProposalId) (choice : VoteChoice) : ℕ :=
  ((w.electorate id).filter fun voter =>
    (w.lastBallot id voter).any (·.choice = choice) = true).card

def World.turnout (w : World) (id : ProposalId) : ℕ :=
  ((w.electorate id).filter fun voter => (w.lastBallot id voter).isSome = true).card

/-! ## The invariant -/

/-- What a vote is held on. -/
structure Poll where
  eligibleVoters : Finset CthulhuId
  createdAt : ℤ
  deadline : ℤ
  votes : HashMap CthulhuId VoteRecord

def Proposal.poll (proposal : Proposal) : Poll :=
  ⟨proposal.eligibleVoters, proposal.createdAt, proposal.deadline, proposal.votes⟩

def GovernanceEngine.poll (engine : GovernanceEngine) (id : ProposalId) : Option Poll :=
  (engine.proposals.get id).map Proposal.poll

/-- Rewriting a proposal touches no other poll. -/
theorem poll_insert {proposals : HashMap ProposalId Proposal} (other : ProposalId) :
    ((proposals.insert id proposal).get other).map Proposal.poll =
      if other = id then some proposal.poll else (proposals.get other).map Proposal.poll := by
  rw [HashMap.get_insert_apply]
  split_ifs <;> rfl

/-- What was written down is what is stored. -/
structure Recorded (w : World) : Prop where
  electorate : ∀ id, w.electorates.lookup id = (w.engine.poll id).map (·.eligibleVoters)
  ballots : ∀ ballot ∈ w.ballots, ∃ poll, w.engine.poll ballot.proposalId = some poll ∧
    ballot.voter ∈ poll.eligibleVoters ∧ poll.createdAt ≤ ballot.castAt ∧
    ballot.castAt < poll.deadline
  votes : ∀ id poll voter, w.engine.poll id = some poll →
    (poll.votes.get voter).map (fun vote => (vote.choice, vote.castAt)) =
      (w.lastBallot id voter).map fun ballot => (ballot.choice, ballot.castAt)

theorem Recorded.frame (h : Recorded w) {engine : GovernanceEngine}
    {ratification : Option Proposal} (hpoll : ∀ id, engine.poll id = w.engine.poll id) :
    Recorded (w.record now engine ratification none none) := by
  have helectorates : (w.record now engine ratification none none).electorates = w.electorates :=
    List.append_nil _
  have hballots : (w.record now engine ratification none none).ballots = w.ballots :=
    List.append_nil _
  refine ⟨fun id => ?_, fun ballot hmem => ?_, fun id poll voter hfound => ?_⟩
  · rw [helectorates, h.electorate]
    exact congrArg _ (hpoll id).symm
  · rw [hballots] at hmem
    obtain ⟨poll, hfound, hballot⟩ := h.ballots ballot hmem
    exact ⟨poll, (hpoll _).trans hfound, hballot⟩
  · unfold World.lastBallot
    rw [hballots]
    exact h.votes id poll voter ((hpoll id).symm.trans hfound)

/-- A proposal rewritten with the same poll changes none. -/
theorem poll_setProposal {proposal' : Proposal} (hfound : engine.proposals.get id = some proposal)
    (hpoll : proposal'.poll = proposal.poll) (other : ProposalId) :
    ((engine.proposals.insert id proposal').get other).map Proposal.poll = engine.poll other := by
  rw [poll_insert]
  split_ifs with heq
  · rw [heq, GovernanceEngine.poll, hfound, hpoll]
    rfl
  · rfl

theorem Recorded.submit (h : Recorded w) (hsubmittable : Submittable w.engine proposal) :
    Recorded (w.after now (.submitted proposal)) := by
  have hnone : w.engine.poll proposal.id = none := by
    rw [GovernanceEngine.poll, hsubmittable.fresh]
    rfl
  have hpoll : ∀ other, (w.after now (.submitted proposal)).engine.poll other =
      if other = proposal.id then some proposal.poll else w.engine.poll other := poll_insert
  have hballots : (w.after now (.submitted proposal)).ballots = w.ballots := List.append_nil _
  refine ⟨fun id => ?_, fun ballot hmem => ?_, fun id poll voter hfound => ?_⟩
  · change (w.electorates ++ [(proposal.id, proposal.eligibleVoters)]).lookup id = _
    rw [List.lookup_append, h.electorate, hpoll]
    split_ifs with heq
    · rw [heq, hnone]
      simp [Proposal.poll]
    · cases w.engine.poll id <;> simp [heq]
  · rw [hballots] at hmem
    obtain ⟨poll, hfound, hballot⟩ := h.ballots ballot hmem
    have hne : ballot.proposalId ≠ proposal.id := by
      intro heq
      rw [heq, hnone] at hfound
      cases hfound
    exact ⟨poll, by rw [hpoll, if_neg hne, hfound], hballot⟩
  · unfold World.lastBallot
    rw [hballots]
    rw [hpoll] at hfound
    split_ifs at hfound with heq
    · cases hfound
      have hnoballot : w.ballots.filter
          (fun ballot => ballot.proposalId = id && ballot.voter = voter) = [] := by
        rw [List.filter_eq_nil_iff]
        intro ballot hmem hthis
        obtain ⟨poll, hfound, -⟩ := h.ballots ballot hmem
        simp only [Bool.and_eq_true, decide_eq_true_eq] at hthis
        rw [hthis.1, heq, hnone] at hfound
        cases hfound
      rw [hnoballot, Proposal.poll, hsubmittable.votes]
      simp
    · exact h.votes id poll voter hfound

theorem Recorded.vote (h : Recorded w) {vote : VoteRecord}
    (hopen : OpenTo w.engine vote.castAt id voter proposal) :
    Recorded (w.after now (.voted id proposal voter vote)) := by
  have hstored : w.engine.poll id = some proposal.poll := by
    rw [GovernanceEngine.poll, hopen.found]
    rfl
  have hpoll : ∀ other, (w.after now (.voted id proposal voter vote)).engine.poll other =
      if other = id then some { proposal.poll with votes := proposal.votes.insert voter vote }
        else w.engine.poll other := poll_insert
  refine ⟨fun other => ?_, fun ballot hmem => ?_, fun other poll actor hfound => ?_⟩
  · change (w.electorates ++ []).lookup other = _
    rw [List.append_nil, h.electorate, hpoll]
    split_ifs with heq
    · rw [heq, hstored]
      rfl
    · rfl
  · change ballot ∈ w.ballots ++ [_] at hmem
    rw [hpoll]
    rcases List.mem_append.mp hmem with hmem | hmem
    · obtain ⟨poll, hfound, hballot⟩ := h.ballots ballot hmem
      split_ifs with heq
      · rw [heq, hstored] at hfound
        cases hfound
        exact ⟨_, rfl, hballot⟩
      · exact ⟨poll, hfound, hballot⟩
    · rw [List.mem_singleton] at hmem
      subst hmem
      rw [if_pos rfl]
      exact ⟨_, rfl, hopen.eligible, hopen.created, hopen.deadline⟩
  · rw [hpoll] at hfound
    unfold World.lastBallot
    change _ = (((w.ballots ++ [Ballot.mk id voter vote.choice vote.castAt]).filter _).getLast?).map _
    rw [List.filter_append]
    split_ifs at hfound with heq
    · cases hfound
      subst heq
      by_cases hactor : actor = voter
      · subst hactor
        simp
      · have hold := h.votes other _ actor hstored
        rw [HashMap.get_insert_ne hactor, List.filter_singleton]
        simp only [Ne.symm hactor, decide_false, Bool.and_false, cond_false, List.append_nil]
        exact hold
    · rw [List.filter_singleton]
      simp only [Ne.symm heq, decide_false, Bool.false_and, cond_false, List.append_nil]
      exact h.votes other poll actor hfound

theorem recorded_step (h : Recorded w) {effect : Effect}
    (hjustified : Justified w.engine now effect) : Recorded (w.after now effect) := by
  cases hjustified with
  | idle => exact h.frame fun _ => rfl
  | seated => exact h.frame fun _ => rfl
  | submitted hsubmittable => exact h.submit hsubmittable
  | argued hopen => exact h.frame (poll_setProposal hopen.found rfl)
  | amended hopen => exact h.frame (poll_setProposal hopen.found rfl)
  | voted hopen htime =>
    subst htime
    exact h.vote hopen
  | @closed id proposal hready =>
    have hpoll : Proposal.poll { proposal with status := w.engine.decision proposal } =
      proposal.poll := rfl
    refine h.frame fun other => ?_
    change (HashMap.get (HashMap.insert _ _ _) other).map _ = _
    rw [proposals_conclude]
    exact poll_setProposal hready.found hpoll other

theorem recorded_init (founding : Founding) : Recorded (.init founding) := by
  obtain ⟨-, -, -, hengine⟩ := new_ok.mp founding.founded
  have hnone : ∀ id, (World.init founding).engine.poll id = none := by
    intro id
    change founding.engine.poll id = none
    rw [hengine, GovernanceEngine.poll]
    exact congrArg (Option.map _) (HashMap.get_empty id)
  refine ⟨fun id => ?_, fun _ => nofun, fun id poll voter hfound => ?_⟩
  · rw [hnone]
    rfl
  · rw [hnone] at hfound
    cases hfound

theorem reachable_recorded {founding : Founding} (h : (machine founding).Reachable w) :
    Recorded w :=
  invariant (recorded_init founding) (fun _ _ _ hw hjustified => recorded_step hw hjustified) h

/-! ## The tally -/

theorem Recorded.voters (h : Recorded w) (hfound : w.engine.proposals.get id = some proposal) :
    w.electorate id = proposal.eligibleVoters := by
  unfold World.electorate
  rw [h.electorate, GovernanceEngine.poll, hfound]
  rfl

/-- A voter's stored vote satisfies what their last ballot does. -/
theorem Recorded.any (h : Recorded w) (hfound : w.engine.proposals.get id = some proposal)
    (p : VoteChoice → Bool) : ((proposal.votes.get voter).any fun vote => p vote.choice) =
      (w.lastBallot id voter).any fun ballot => p ballot.choice := by
  have hpoll : w.engine.poll id = some proposal.poll := by
    rw [GovernanceEngine.poll, hfound]
    rfl
  have hvotes := h.votes id _ voter hpoll
  have hchoice := congrArg (fun cast : Option (VoteChoice × ℤ) => cast.any fun x => p x.1) hvotes
  simpa [Option.any_map, Function.comp_def, Proposal.poll] using hchoice

/-- A count over stored votes is a count of the electorate by last ballot. -/
theorem Recorded.countP (h : Recorded w) (hfound : w.engine.proposals.get id = some proposal)
    (hvotes : VotesValid proposal) (p : VoteChoice → Bool) :
    (proposal.votes.values.countP fun vote => p vote.choice) =
      ((w.electorate id).filter fun voter =>
        ((w.lastBallot id voter).any fun ballot => p ballot.choice) = true).card := by
  rw [h.voters hfound, HashMap.countP_values fun voter vote hvote => (hvotes voter vote hvote).1]
  simp only [h.any hfound]

/-- Every vote has one of the three choices. -/
theorem count_choices (votes : List VoteRecord) :
    (votes.countP fun vote => vote.choice = .support) +
        (votes.countP fun vote => vote.choice = .oppose) +
        (votes.countP fun vote => vote.choice = .abstain) =
      votes.countP fun _ => true := by
  induction votes with
  | nil => rfl
  | cons vote votes ih =>
    simp only [List.countP_cons, ← ih]
    cases vote.choice <;> simp <;> omega

/-- The tally of a stored proposal counts its electorate. -/
theorem Recorded.tally (h : Recorded w) (hfound : w.engine.proposals.get id = some proposal)
    (hvotes : VotesValid proposal) : (Tally.of proposal).support = w.count id .support ∧
      (Tally.of proposal).nonAbstaining = w.count id .support + w.count id .oppose ∧
      (Tally.of proposal).participating = w.turnout id := by
  have hcount : ∀ choice, (proposal.votes.values.countP fun vote => vote.choice = choice) =
      w.count id choice := fun choice => h.countP hfound hvotes fun given => given = choice
  have hturnout : (proposal.votes.values.countP fun _ => true) = w.turnout id := by
    rw [h.countP hfound hvotes fun _ => true]
    simp [World.turnout, Option.any_true]
  refine ⟨hcount _, ?_, ?_⟩
  · rw [← hcount, ← hcount]
    rfl
  · rw [← hturnout, ← count_choices]
    rfl

/-! ## Finalizing on a reachable engine -/

/-- The evidence checks of `finalize` pass on a loadable engine. -/
theorem Loadable.finalizable (h : Loadable engine now) {time : ℤ}
    (hfound : engine.proposals.get id = some proposal) (hopen : proposal.status = .open)
    (hdeadline : proposal.deadline ≤ time) : Finalizable engine time id proposal where
  found := hfound
  status := hopen
  deadline := hdeadline
  history := h.history
  log := h.log
  basis := (h.proposals id proposal hfound).basis
  votes := (h.proposals id proposal hfound).votes

/-- On loadable engines with the same proposals, rules and heads `finalize` decides the same. -/
theorem finalize_congr {engine' : GovernanceEngine} {now' time : ℤ} {result : Finalization}
    (h : Loadable engine now) (h' : Loadable engine' now')
    (hsame : ∃ members history, engine' = { engine with members, membershipHistory := history }) :
    (∃ after, (finalize id time).exec engine = (.ok result, after)) ↔
      ∃ after, (finalize id time).exec engine' = (.ok result, after) := by
  obtain ⟨members, history, rfl⟩ := hsame
  constructor
  · rintro ⟨after, hrun⟩
    obtain ⟨proposal, hready, rfl, -⟩ := finalize_ok.mp hrun
    exact ⟨_, finalize_ok.mpr
      ⟨proposal, h'.finalizable hready.found hready.status hready.deadline, rfl, rfl⟩⟩
  · rintro ⟨after, hrun⟩
    obtain ⟨proposal, hready, rfl, -⟩ := finalize_ok.mp hrun
    exact ⟨_, finalize_ok.mpr
      ⟨proposal, h.finalizable hready.found hready.status hready.deadline, rfl, rfl⟩⟩

/-- A request that only changes the members. -/
def Request.IsMembership : Request → Prop
  | addMember _ => True
  | removeMember _ => True
  | _ => False

theorem membership_step {l : Label} (h : l.request.IsMembership) :
    ∃ members history, (w.step l).engine =
      { w.engine with members, membershipHistory := history } := by
  obtain ⟨effect, hjustified, hstep⟩ : ∃ effect : Effect, (effect = .idle ∨
      ∃ members parent, effect = .seated members parent) ∧
        (w.step l).engine = effect.apply w.engine := by
    unfold World.step
    rcases hrun : (l.request.run l.now).exec w.engine with ⟨err | reply, engine⟩
    · have hsame := run_atomic w.engine err (congrArg Prod.fst hrun)
      rw [Fallible.after, hrun] at hsame
      exact ⟨.idle, .inl rfl, hsame⟩
    · obtain ⟨time, request⟩ := l
      cases request
      case addMember member =>
        simp only [Request.run, Fallible.bind_ok, exec_pure, Prod.mk.injEq, Except.ok.injEq] at hrun
        obtain ⟨changed, middle, hrun, -, rfl⟩ := hrun
        have hmove : middle = w.engine ∨ ∃ members parent,
            Justified w.engine time (.seated members parent) ∧
              middle = Effect.apply w.engine (.seated members parent) := addMember_ok hrun
        rcases hmove with hidle | ⟨members, parent, -, happly⟩
        · exact ⟨.idle, .inl rfl, hidle⟩
        · exact ⟨_, .inr ⟨members, parent, rfl⟩, happly⟩
      case removeMember member =>
        simp only [Request.run, Fallible.bind_ok, exec_pure, Prod.mk.injEq, Except.ok.injEq] at hrun
        obtain ⟨changed, middle, hrun, -, rfl⟩ := hrun
        have hmove : middle = w.engine ∨ ∃ members parent,
            Justified w.engine time (.seated members parent) ∧
              middle = Effect.apply w.engine (.seated members parent) := removeMember_ok hrun
        rcases hmove with hidle | ⟨members, parent, -, happly⟩
        · exact ⟨.idle, .inl rfl, hidle⟩
        · exact ⟨_, .inr ⟨members, parent, rfl⟩, happly⟩
      all_goals exact h.elim
  rw [hstep]
  rcases hjustified with rfl | ⟨members, parent, rfl⟩
  · exact ⟨_, _, rfl⟩
  · exact ⟨_, _, rfl⟩

theorem membership_run {labels : List Label} (h : ∀ l ∈ labels, l.request.IsMembership) :
    ∃ members history, (labels.foldl World.step w).engine =
      { w.engine with members, membershipHistory := history } := by
  induction labels generalizing w with
  | nil => exact ⟨_, _, rfl⟩
  | cons l labels ih =>
    obtain ⟨members, history, hstep⟩ := membership_step (w := w) (h l List.mem_cons_self)
    obtain ⟨members', history', hrest⟩ :=
      ih (w := w.step l) fun next hnext => h next (List.mem_cons_of_mem _ hnext)
    refine ⟨members', history', ?_⟩
    rw [List.foldl_cons, hrest, hstep]

/-- A ratified proposal has its evidence, and so no action of one is refused for lack of it. -/
theorem Loadable.authorizes (h : Loadable engine now) (hfound : engine.proposals.get id = some proposal)
    (hstatus : proposal.status = .ratified) (policy : LocalOperatorPolicy) :
    engine.authorizeAction id policy ≠ .error .invalidRatificationEvidence := by
  have hevidence := (h.proposals id proposal hfound).evidence hstatus
  have hhistory := isOk_unit.mpr (validateMembershipHistory_ok.mpr h.history)
  have hlog := isOk_unit.mpr (validateProposalMembershipLog_ok.mpr h.log)
  intro herr
  unfold authorizeAction at herr
  simp only [except_bind_error, okOr_error, okOr_ok, failIf_error, failIf_ok, hfound, reduceCtorEq,
    and_false, false_or, Option.some.injEq, exists_eq_left', hevidence, hhistory, hlog,
    Bool.not_true, Bool.false_eq_true, false_and] at herr
  obtain ⟨-, -, -, -, herr⟩ := herr
  cases hdocument : proposal.document with
  | action document =>
    rw [hdocument] at herr
    dsimp only at herr
    cases hdecision : policy document.action with
    | allow =>
      rw [hdecision] at herr
      cases herr
    | deny reason =>
      rw [hdecision] at herr
      simp only [except_bind_error, validateText, failIf_error, reduceCtorEq, and_false, false_or] at herr
      obtain ⟨-, -, herr⟩ := herr
      cases herr
  | constitution document | agenda document | strategy document =>
    rw [hdocument] at herr
    cases herr

end

/-! ## Who decides -/

/-- After any run, at any times, `finalize` closes exactly the open proposals that are due, and
ratifies one if and only if it has no parent conflict, the electorate's turnout reaches the
quorum, someone has not abstained, and the support is the threshold's share of those who have
not. The electorate are the members at the submission, each counted by their last accepted
ballot, and every ballot was accepted from one of them while the proposal was open. Members
who come or go change no result, and what has been ratified is not refused for its evidence. -/
theorem electorate_decides [Hashing] (founding : Founding) {w : World}
    (h : (machine founding).Reachable w) :
    (∀ id time, (∃ result engine', (finalize id time).exec w.engine = (.ok result, engine')) ↔
      ∃ proposal, w.engine.proposals.get id = some proposal ∧ proposal.status = .open ∧
        proposal.deadline ≤ time) ∧
    (∀ id time result engine' proposal, w.engine.proposals.get id = some proposal →
      (finalize id time).exec w.engine = (.ok result, engine') →
        engine'.proposals.get id = some { proposal with status := result.status } ∧
        (result.status = .ratified ↔ w.engine.hasParentConflict proposal.document = false ∧
          ceilBps (w.electorate id).card w.engine.rules.quorumBps ≤ w.turnout id ∧
          0 < w.count id .support + w.count id .oppose ∧
          w.engine.rules.threshold proposal.document.kind *
            (w.count id .support + w.count id .oppose) ≤ w.count id .support * 10000)) ∧
    (∀ ballot ∈ w.ballots, ∃ proposal, w.engine.proposals.get ballot.proposalId = some proposal ∧
      ballot.voter ∈ w.electorate ballot.proposalId ∧ proposal.createdAt ≤ ballot.castAt ∧
        ballot.castAt < proposal.deadline) ∧
    (∀ labels : List Label, (∀ l ∈ labels, l.request.IsMembership) → ∀ id time result,
      (∃ after, (finalize id time).exec w.engine = (.ok result, after)) ↔
        ∃ after, (finalize id time).exec (labels.foldl World.step w).engine = (.ok result, after)) ∧
    ∀ id proposal, w.engine.proposals.get id = some proposal → proposal.status = .ratified →
      w.engine.hasValidRatificationEvidence proposal = true ∧
        ∀ policy, w.engine.authorizeAction id policy ≠ .error .invalidRatificationEvidence := by
  have hrecorded := reachable_recorded h
  obtain ⟨now, hloadable⟩ := reachable_loadable h
  refine ⟨fun id time => ?_, fun id time result engine' proposal hfound hrun => ?_,
    fun ballot hmem => ?_, fun labels hlabels id time result => ?_, fun id proposal hfound hstatus => ?_⟩
  · constructor
    · rintro ⟨result, engine', hrun⟩
      obtain ⟨proposal, hready, -, -⟩ := finalize_ok.mp hrun
      exact ⟨proposal, hready.found, hready.status, hready.deadline⟩
    · rintro ⟨proposal, hfound, hopen, hdeadline⟩
      exact ⟨_, _, finalize_ok.mpr
        ⟨proposal, hloadable.finalizable hfound hopen hdeadline, rfl, rfl⟩⟩
  · obtain ⟨same, hready, rfl, rfl⟩ := finalize_ok.mp hrun
    cases hfound.symm.trans hready.found
    obtain ⟨hsupport, hnonAbstaining, hparticipating⟩ := hrecorded.tally hfound hready.votes
    refine ⟨HashMap.get_insert, decision_ratified.trans (and_congr_right fun _ => ?_)⟩
    unfold Carries
    rw [hsupport, hnonAbstaining, hparticipating, hrecorded.voters hfound, Nat.mul_comm]
  · obtain ⟨poll, hpoll, heligible, hcast⟩ := hrecorded.ballots ballot hmem
    obtain ⟨proposal, hfound, rfl⟩ := Option.map_eq_some_iff.mp hpoll
    exact ⟨proposal, hfound, by rw [hrecorded.voters hfound]; exact heligible, hcast⟩
  · have hreachable : (machine founding).Reachable (labels.foldl World.step w) :=
      h.run (Machine.admits_of_forall fun _ _ => trivial)
    obtain ⟨later, hlater⟩ := reachable_loadable hreachable
    exact finalize_congr hloadable hlater (membership_run hlabels)
  · exact ⟨(hloadable.proposals id proposal hfound).evidence hstatus,
      hloadable.authorizes hfound hstatus⟩

section Sample

attribute [local instance] sampleHashing

theorem reachable_sampleFirstRound (choice : VoteChoice) :
    (machine sampleFounding).Reachable (sampleRun (sampleFirstRound choice)) :=
  Machine.Reachable.init.run (Machine.admits_of_forall fun _ _ => trivial)

/-- The only member's support at the deadline has ratified their constitution. -/
theorem electorate_decides_sample :
    (sampleRun (sampleFirstRound .support)).count sampleFirst .support = 1 ∧
      (sampleRun (sampleFirstRound .support)).ratified.map (·.id) = [sampleFirst] ∧
      ∀ id proposal, (sampleRun (sampleFirstRound .support)).engine.proposals.get id =
          some proposal → proposal.status = .ratified →
        (sampleRun (sampleFirstRound .support)).engine.hasValidRatificationEvidence proposal = true ∧
          ∀ policy, (sampleRun (sampleFirstRound .support)).engine.authorizeAction id policy ≠
            .error .invalidRatificationEvidence :=
  ⟨by decide +kernel, by decide +kernel,
    (electorate_decides sampleFounding (reachable_sampleFirstRound .support)).2.2.2.2⟩

/-- A proposal due at 20 on which its only voter has abstained. -/
def sampleAbstained : World :=
  sampleRun ((sampleFirstRound .abstain).take 2)

/-- Abstentions alone make a quorum, and no support is every share of no votes, but they ratify
nothing. -/
theorem abstentions_ratify_nothing : (machine sampleFounding).Reachable sampleAbstained ∧
    (sampleAbstained.engine.proposals.get sampleFirst).map (·.document) =
      some (.constitution (sampleConstitution 1 none)) ∧
    sampleAbstained.engine.hasParentConflict (.constitution (sampleConstitution 1 none)) = false ∧
    ceilBps (sampleAbstained.electorate sampleFirst).card sampleAbstained.engine.rules.quorumBps ≤
      sampleAbstained.turnout sampleFirst ∧
    sampleAbstained.engine.rules.threshold .constitution *
      (sampleAbstained.count sampleFirst .support + sampleAbstained.count sampleFirst .oppose) ≤
        sampleAbstained.count sampleFirst .support * 10000 ∧
    ((finalize sampleFirst 20).exec sampleAbstained.engine).1 =
      .ok ⟨.rejected, ⟨0, 0, 1, 1, 0⟩, 1, 6667⟩ :=
  ⟨Machine.Reachable.init.run (Machine.admits_of_forall fun _ _ => trivial), by decide +kernel,
    by decide +kernel, by decide +kernel, by decide +kernel, by decide +kernel⟩

end Sample

end Cthuwu.Governance
