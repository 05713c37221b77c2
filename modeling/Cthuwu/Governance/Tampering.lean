import Cthuwu.Governance.Reloadable

/-!
# Tampering with an electorate

The bindings of the proposals to their voters are a hash chain, and so are the memberships that
they name. Whoever remembers the hash of one binding knows who may vote on every proposal up to
there (`electorates_tamper_evident`), unless two records have one hash.
-/

namespace Cthuwu.Governance

open Council GovernanceEngine

section

variable [Hashing] {engine engine' : GovernanceEngine} {now now' : ℤ} {proposal : Proposal}
  {binding binding' : ProposalMembershipBinding} {i j : ℕ}

/-- Two different records have one hash. -/
def Collides (engine engine' : GovernanceEngine) : Prop :=
  (∃ x ∈ engine.proposalMembershipLog, ∃ y ∈ engine'.proposalMembershipLog,
    x ≠ y ∧ x.hash = y.hash) ∨
  ∃ x ∈ engine.membershipHistory, ∃ y ∈ engine'.membershipHistory, x ≠ y ∧ x.hash = y.hash

/-- The voters on a bound proposal are the members that its binding's hash names. -/
theorem Loadable.voters (h : Loadable engine now)
    (hmem : binding ∈ engine.proposalMembershipLog) :
    ∃ proposal, ∃ snapshot ∈ engine.membershipHistory,
      engine.proposals.get binding.proposalId = some proposal ∧
        snapshot.hash = binding.membershipHash ∧
        snapshot.members.toFinset = proposal.eligibleVoters := by
  obtain ⟨proposal, hget, -, -, hhash⟩ := (h.log.valid binding hmem).proposal
  obtain ⟨snapshot, hsnapshot, -, hnamed, hlen, hsub⟩ :=
    (h.proposals _ proposal hget).basis.electorate
  have hstored := List.mem_of_getElem? hsnapshot
  exact ⟨proposal, snapshot, hstored, hget, hnamed.trans hhash,
    toFinset_eq_of_length (h.history.valid snapshot hstored).increasing hlen hsub⟩

/-- Two engines that a reload accepts and that agree on a binding's hash have the same bindings up
to there, with the same voters on each of their proposals, unless two records have one hash. -/
theorem electorates_tamper_evident (h : engine.validateLoadedState now = .ok ())
    (h' : engine'.validateLoadedState now' = .ok ())
    (hi : engine.proposalMembershipLog[i]? = some binding)
    (hj : engine'.proposalMembershipLog[j]? = some binding')
    (hsame : binding.hash = binding'.hash) :
    (i = j ∧ engine.proposalMembershipLog.take (i + 1) =
        engine'.proposalMembershipLog.take (i + 1) ∧
      ∀ bound ∈ engine.proposalMembershipLog.take (i + 1), ∃ proposal proposal',
        engine.proposals.get bound.proposalId = some proposal ∧
        engine'.proposals.get bound.proposalId = some proposal' ∧
        proposal.eligibleVoters = proposal'.eligibleVoters) ∨ Collides engine engine' := by
  have hloadable := validateLoadedState_ok.mp h
  have hloadable' := validateLoadedState_ok.mp h'
  by_cases hcollides : Collides engine engine'
  · exact .inr hcollides
  rw [Collides, not_or] at hcollides
  obtain ⟨hbindings, hsnapshots⟩ := hcollides
  push Not at hbindings hsnapshots
  obtain ⟨hposition, htake⟩ := hloadable.log.chained.take_eq_take hloadable'.log.chained
    (fun x hx y hy hhash => by_contra fun hne => hbindings x hx y hy hne hhash) hi hj hsame
  refine .inl ⟨hposition, htake, fun bound hbound => ?_⟩
  obtain ⟨proposal, snapshot, hstored, hget, hnamed, hvoters⟩ :=
    hloadable.voters (List.mem_of_mem_take hbound)
  obtain ⟨proposal', snapshot', hstored', hget', hnamed', hvoters'⟩ :=
    hloadable'.voters (List.mem_of_mem_take (htake ▸ hbound))
  have hsnapshot : snapshot = snapshot' := by_contra fun hne =>
    hsnapshots snapshot hstored snapshot' hstored' hne (hnamed.trans hnamed'.symm)
  exact ⟨proposal, proposal', hget, hget', by rw [← hvoters, ← hvoters', hsnapshot]⟩

end

attribute [local instance] sampleHashing

theorem reachable_take_sampleRounds (n : ℕ) :
    ((machine sampleFounding).restrict timely).Reachable (sampleRun (sampleRounds.take n)) := by
  have hadmits := sampleRounds_run.1
  rw [← List.take_append_drop n sampleRounds] at hadmits
  exact Machine.Reachable.init.run (Machine.admits_append.mp hadmits).1

/-- One proposal and two rounds begin with one binding. -/
theorem electorates_tamper_evident_sample :
    (sampleRun (sampleRounds.take 1)).engine.proposalMembershipLog.take 1 =
        (sampleRun sampleRounds).engine.proposalMembershipLog.take 1 ∨
      Collides (sampleRun (sampleRounds.take 1)).engine (sampleRun sampleRounds).engine := by
  have hhashes :
      ((sampleRun (sampleRounds.take 1)).engine.proposalMembershipLog[0]?.map (·.hash)).isSome = true ∧
      (sampleRun (sampleRounds.take 1)).engine.proposalMembershipLog[0]?.map (·.hash) =
        (sampleRun sampleRounds).engine.proposalMembershipLog[0]?.map (·.hash) := by
    decide +kernel
  obtain ⟨hash, hhash⟩ := Option.isSome_iff_exists.mp hhashes.1
  obtain ⟨binding, hbinding, hhash'⟩ := Option.map_eq_some_iff.mp hhash
  obtain ⟨binding', hbinding', rfl⟩ := Option.map_eq_some_iff.mp (hhashes.2 ▸ hhash)
  exact (electorates_tamper_evident
    (validateLoadedState_ok.mpr (timely_loadable (reachable_take_sampleRounds 1)))
    (validateLoadedState_ok.mpr (timely_loadable reachable_sampleRounds)) hbinding hbinding'
    hhash').imp_left fun h => h.2.1

end Cthuwu.Governance
