import Cthuwu.Governance.Electorate

/-!
# Votes that replace each other

A vote replaces the one before it from the same voter, whatever the times of the two : `castVote`
holds its time only against the proposal's. So a vote that arrives late can overwrite a newer one
(`late_vote_replaces`). No recorded time decreases exactly where every vote that is accepted is cast
no earlier than the one it replaces (`InOrder`), and in a run of such votes the recorded vote is the
newest of all that were accepted (`votes_supersede`).
-/

namespace Cthuwu.Governance

open Council GovernanceEngine Fallible

section

variable [Hashing] {engine engine' : GovernanceEngine} {now : ℤ} {id : ProposalId}
  {proposal : Proposal} {voter : CthulhuId} {choice : VoteChoice} {w : World} {l : Label}

def GovernanceEngine.vote (engine : GovernanceEngine) (id : ProposalId) (voter : CthulhuId) :
    Option VoteRecord :=
  (engine.poll id).bind fun poll => poll.votes.get voter

/-- What is recorded of a voter is kept, or replaced by what was cast no earlier. -/
def Supersedes (engine engine' : GovernanceEngine) : Prop :=
  ∀ id voter, ∀ vote ∈ engine.vote id voter, ∃ vote' ∈ engine'.vote id voter,
    vote.castAt ≤ vote'.castAt

/-- A vote that is accepted is cast no earlier than the one it replaces. -/
def InOrder (w : World) (l : Label) : Prop :=
  ∀ id voter choice proposal, l.request = .castVote id voter choice →
    w.engine.openProposal id voter l.now = .ok proposal →
      ∀ vote ∈ proposal.votes.get voter, vote.revision < u32Max → vote.castAt ≤ l.now

theorem Supersedes.refl (engine : GovernanceEngine) : Supersedes engine engine :=
  fun _ _ vote hvote => ⟨vote, hvote, le_rfl⟩

theorem Supersedes.trans {engine'' : GovernanceEngine} (h : Supersedes engine engine')
    (h' : Supersedes engine' engine'') : Supersedes engine engine'' := by
  intro id voter vote hvote
  obtain ⟨vote', hvote', hle⟩ := h id voter vote hvote
  obtain ⟨vote'', hvote'', hle'⟩ := h' id voter vote' hvote'
  exact ⟨vote'', hvote'', hle.trans hle'⟩

theorem Supersedes.of_poll
    (h : ∀ id, engine.poll id = none ∨ engine'.poll id = engine.poll id) :
    Supersedes engine engine' := by
  intro id voter vote hvote
  unfold GovernanceEngine.vote at hvote ⊢
  rcases h id with hnone | hsame
  · rw [hnone] at hvote
    cases hvote
  · exact ⟨vote, hsame ▸ hvote, le_rfl⟩

/-! ## One step -/

/-- An effect that casts no vote keeps the polls that there are. -/
theorem poll_apply {effect : Effect} (h : Justified engine now effect)
    (hballot : effect.ballot = none) (other : ProposalId) :
    engine.poll other = none ∨ (effect.apply engine).poll other = engine.poll other := by
  cases h with
  | idle | seated => exact .inr rfl
  | @submitted proposal hsubmittable =>
    rcases eq_or_ne other proposal.id with rfl | hne
    · exact .inl (congrArg (Option.map Proposal.poll) hsubmittable.fresh)
    · exact .inr ((poll_insert other).trans (if_neg hne))
  | @argued id proposal argument hopen =>
    exact .inr (@poll_setProposal _ _ _ proposal { proposal with
      arguments := proposal.arguments ++ [argument] } hopen.found rfl other)
  | @amended id proposal amendment hopen =>
    exact .inr (@poll_setProposal _ _ _ proposal { proposal with
      amendments := proposal.amendments ++ [amendment] } hopen.found rfl other)
  | voted => cases hballot
  | @closed id proposal hready =>
    refine .inr ?_
    change (HashMap.get (HashMap.insert _ _ _) other).map _ = _
    rw [proposals_conclude]
    exact @poll_setProposal _ _ _ proposal
      { proposal with status := engine.decision proposal } hready.found rfl other

theorem supersedes_of_not_cast (h : ∀ id voter choice, l.request ≠ .castVote id voter choice) :
    Supersedes w.engine (w.step l).engine := by
  unfold World.step
  rcases hrun : (l.request.run l.now).exec w.engine with ⟨err | reply, engine⟩
  · have hatomic := run_atomic w.engine err (congrArg Prod.fst hrun)
    rw [after, hrun] at hatomic
    change Supersedes w.engine engine
    rw [show engine = w.engine from hatomic]
    exact .refl _
  · obtain ⟨effect, heffect⟩ := run_effect hrun
    change Supersedes w.engine engine
    rw [heffect.result]
    refine .of_poll (poll_apply heffect.justified ?_)
    rw [heffect.ballot]
    unfold Request.ballot
    split
    · exact absurd ‹_› (h _ _ _)
    · rfl

/-- A vote is refused, or it is written over the one before it. -/
theorem step_castVote (h : l.request = .castVote id voter choice) :
    (w.step l).engine = w.engine ∧
      (∀ proposal, w.engine.openProposal id voter l.now = .ok proposal →
        ∀ vote ∈ proposal.votes.get voter, u32Max ≤ vote.revision) ∨
    ∃ proposal revision, w.engine.openProposal id voter l.now = .ok proposal ∧
      (∀ vote ∈ proposal.votes.get voter, vote.revision < u32Max) ∧
      (w.step l).engine = w.engine.setProposal id
        { proposal with votes := proposal.votes.insert voter ⟨choice, l.now, revision⟩ } := by
  have hrun : l.request.run l.now =
      (castVote id voter choice l.now >>= fun receipt => pure (.receipt receipt) : Op Reply) := by
    rw [h]
    rfl
  unfold World.step
  rw [hrun, exec_bind, castVote, exec_get_bind, exec_lift_bind]
  cases hopen : w.engine.openProposal id voter l.now with
  | error err => exact .inl ⟨rfl, by simp⟩
  | ok proposal =>
    dsimp only
    rw [exec_lift_bind]
    cases hrevision : nextVoteRevision (proposal.votes.get voter) with
    | error err =>
      refine .inl ⟨rfl, fun same hsame vote hvote => ?_⟩
      cases hsame
      rw [Option.mem_def.mp hvote, nextVoteRevision, except_bind_error, failIf_error] at hrevision
      rcases hrevision with ⟨hfull, -⟩ | ⟨_, -, hpure⟩
      · omega
      · cases hpure
    | ok revision =>
      refine .inr ⟨proposal, revision, rfl, fun vote hvote => ?_, rfl⟩
      rw [Option.mem_def.mp hvote, nextVoteRevision, except_check_ok, failIf_ok] at hrevision
      omega

theorem vote_of_found (hfound : engine.proposals.get id = some proposal) :
    engine.vote id voter = proposal.votes.get voter := by
  unfold GovernanceEngine.vote GovernanceEngine.poll
  rw [hfound]
  rfl

theorem vote_setProposal {vote : VoteRecord} (hfound : engine.proposals.get id = some proposal)
    (other : ProposalId) (actor : CthulhuId) :
    (engine.setProposal id { proposal with votes := proposal.votes.insert voter vote }).vote other
      actor = if other = id ∧ actor = voter then some vote else engine.vote other actor := by
  rcases eq_or_ne other id with rfl | hne
  · rw [vote_of_found HashMap.get_insert, vote_of_found hfound, HashMap.get_insert_apply]
    simp only [true_and]
  · rw [if_neg fun h => hne h.1]
    unfold GovernanceEngine.vote GovernanceEngine.poll setProposal
    rw [HashMap.get_insert_ne hne]

/-- No recorded time decreases in a step exactly where it is in order. -/
theorem supersedes_step_iff : Supersedes w.engine (w.step l).engine ↔ InOrder w l := by
  constructor
  · intro h id voter choice proposal hrequest hopen vote hvote hroom
    have hfound := (openProposal_ok.mp hopen).found
    obtain ⟨-, hfull⟩ | ⟨same, revision, hsame, -, hstep⟩ := step_castVote (w := w) hrequest
    · exact absurd (hfull proposal hopen vote hvote) hroom.not_ge
    · cases hopen.symm.trans hsame
      obtain ⟨vote', hvote', hle⟩ := h id voter vote ((vote_of_found hfound).trans hvote)
      rw [hstep, vote_setProposal hfound, if_pos ⟨rfl, rfl⟩] at hvote'
      cases hvote'
      exact hle
  · intro h
    by_cases hcast : ∃ id voter choice, l.request = .castVote id voter choice
    · obtain ⟨id, voter, choice, hrequest⟩ := hcast
      obtain ⟨hsame, -⟩ | ⟨proposal, revision, hopen, hroom, hstep⟩ := step_castVote (w := w) hrequest
      · rw [hsame]
        exact .refl _
      · have hfound := (openProposal_ok.mp hopen).found
        intro other actor vote hvote
        rw [hstep, vote_setProposal hfound]
        split_ifs with hthis
        · obtain ⟨rfl, rfl⟩ := hthis
          rw [vote_of_found hfound] at hvote
          exact ⟨_, rfl, h other actor choice proposal hrequest hopen vote hvote (hroom vote hvote)⟩
        · exact ⟨vote, hvote, le_rfl⟩
    · exact supersedes_of_not_cast fun id voter choice hrequest => hcast ⟨_, _, _, hrequest⟩

/-! ## Runs -/

/-- No recorded time decreases in a run exactly where all its steps are in order. -/
theorem supersedes_run_iff {founding : Founding} {labels : List Label} :
    (∀ m n, m ≤ n → Supersedes ((labels.take m).foldl World.step w).engine
        ((labels.take n).foldl World.step w).engine) ↔
      ((machine founding).restrict InOrder).Admits w labels := by
  induction labels generalizing w with
  | nil =>
    refine iff_of_true (fun m n _ => ?_) trivial
    rw [List.take_nil, List.take_nil]
    exact .refl _
  | cons l labels ih =>
    constructor
    · intro h
      exact ⟨⟨trivial, (supersedes_step_iff).mp (h 0 1 (Nat.zero_le 1))⟩,
        ih.mp fun m n hle => h (m + 1) (n + 1) (Nat.succ_le_succ hle)⟩
    · rintro ⟨⟨-, hstep⟩, hrest⟩ m n hle
      have hlater := ih.mpr hrest
      cases n with
      | zero =>
        rw [Nat.le_zero.mp hle]
        exact .refl _
      | succ n =>
        cases m with
        | zero => exact ((supersedes_step_iff).mpr hstep).trans (hlater 0 n (Nat.zero_le n))
        | succ m => exact hlater m n (Nat.succ_le_succ_iff.mp hle)

/-- The recorded votes are the newest of those accepted. -/
def Newest (w : World) : Prop :=
  ∀ ballot ∈ w.ballots, ∃ vote ∈ w.engine.vote ballot.proposalId ballot.voter,
    ballot.castAt ≤ vote.castAt

theorem Recorded.last (h : Recorded w) {ballot : Ballot} (hmem : ballot ∈ w.ballots)
    (hlast : w.lastBallot ballot.proposalId ballot.voter = some ballot) :
    ∃ vote ∈ w.engine.vote ballot.proposalId ballot.voter, vote.castAt = ballot.castAt := by
  obtain ⟨poll, hpoll, -⟩ := h.ballots ballot hmem
  have hvotes := h.votes _ poll ballot.voter hpoll
  rw [hlast, Option.map_some, Option.map_eq_some_iff] at hvotes
  obtain ⟨vote, hvote, hsame⟩ := hvotes
  refine ⟨vote, ?_, (Prod.mk.inj hsame).2⟩
  rw [Option.mem_def, GovernanceEngine.vote, hpoll]
  exact hvote

theorem newest_step (hw : Newest w) (hrecorded : Recorded (w.step l))
    (hsupersedes : Supersedes w.engine (w.step l).engine) : Newest (w.step l) := by
  obtain ⟨effect, -, hstep⟩ := step_effect w l
  have hballots : (w.step l).ballots = w.ballots ++ effect.ballot.toList := by
    rw [hstep]
    rfl
  intro ballot hmem
  rcases List.mem_append.mp (hballots ▸ hmem) with hold | hnew
  · obtain ⟨vote, hvote, hle⟩ := hw ballot hold
    obtain ⟨vote', hvote', hle'⟩ := hsupersedes _ _ vote hvote
    exact ⟨vote', hvote', hle.trans hle'⟩
  · have hlast : (w.step l).lastBallot ballot.proposalId ballot.voter = some ballot := by
      rw [World.lastBallot, hballots, Option.mem_toList.mp hnew]
      simp
    obtain ⟨vote, hvote, hsame⟩ := hrecorded.last hmem hlast
    exact ⟨vote, hvote, hsame.ge⟩

end

/-- In any run, at any times, no recorded time of a vote decreases exactly where every vote that is
accepted is cast no earlier than the one it replaces. After such a run every accepted vote has been
recorded or replaced by one cast no earlier. -/
theorem votes_supersede [Hashing] (founding : Founding) :
    (∀ labels : List Label, (∀ m n, m ≤ n →
        Supersedes ((labels.take m).foldl World.step (.init founding)).engine
          ((labels.take n).foldl World.step (.init founding)).engine) ↔
      ((machine founding).restrict InOrder).Admits (.init founding) labels) ∧
    ∀ w, ((machine founding).restrict InOrder).Reachable w → Newest w := by
  refine ⟨fun labels => supersedes_run_iff, fun w h => ?_⟩
  refine h.invariant (P := Newest) (fun _ hmem => absurd hmem List.not_mem_nil) ?_
  intro w l hreachable hw hl
  exact newest_step hw (reachable_recorded (hreachable.of_restrict.next hl.1))
    ((supersedes_step_iff).mpr hl.2)

section Sample

attribute [local instance] sampleHashing

/-- A vote of the time 15 and one of the time 12 that arrives after it. -/
def sampleLate : World :=
  sampleRun ((sampleFirstRound .support).take 1 ++
    [⟨15, .castVote sampleFirst sampleA .support⟩, ⟨12, .castVote sampleFirst sampleA .oppose⟩])

/-- The older vote overwrites the newer one, and is what the tally counts. -/
theorem late_vote_replaces : (machine sampleFounding).Reachable sampleLate ∧
    sampleLate.ballots.map (·.castAt) = [15, 12] ∧
    (sampleLate.engine.vote sampleFirst sampleA).map (fun vote => (vote.choice, vote.castAt)) =
      some (.oppose, 12) ∧ sampleLate.count sampleFirst .oppose = 1 :=
  ⟨Machine.Reachable.init.run (Machine.admits_of_forall fun _ _ => trivial), by decide +kernel,
    by decide +kernel, by decide +kernel⟩

end Sample

end Cthuwu.Governance
