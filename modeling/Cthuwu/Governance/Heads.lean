import Cthuwu.Governance.Electorate

/-!
# What a reload makes of the heads

A reload checks that a head names a ratified proposal with its version and hash, and accepts
any state without a head. It never compares the ratified documents of a kind with each other
or with the head. `Consistent` is what it would have to compare : the versions differ, each
document is a first one or names the hash of one a version before, and the head is as late as
any. `head_ends_chain_iff` says that on the engines a reload accepts this is exactly when the
head is the last of one chain of all ratified documents of its kind.
-/

namespace Cthuwu.Governance

open Council GovernanceEngine

section

variable [Hashing] {engine : GovernanceEngine} {now : ℤ} {kind : DocumentKind} {proposal : Proposal}

def GovernanceEngine.ratifiedOf (engine : GovernanceEngine) (kind : DocumentKind) : List Proposal :=
  engine.proposals.values.filter fun proposal =>
    proposal.status = .ratified && proposal.document.kind = kind

/-- All ratified documents of the kind are one chain from version 1, and the head is its last. -/
def HeadEndsChain (engine : GovernanceEngine) (kind : DocumentKind) : Prop :=
  ∃ chain : List Proposal, chain.Perm (engine.ratifiedOf kind) ∧ lineage.Chained 1 none chain ∧
    engine.head kind = chain.getLast?.map Proposal.toHead

/-- What a reload does not compare. -/
structure Consistent (engine : GovernanceEngine) (kind : DocumentKind) : Prop where
  versions : ((engine.ratifiedOf kind).map (·.document.version)).Nodup
  linked : ∀ proposal ∈ engine.ratifiedOf kind,
    (proposal.document.version = 1 ∧ proposal.document.parentHash = none) ∨
      ∃ previous ∈ engine.ratifiedOf kind,
        proposal.document.version = previous.document.version + 1 ∧
          proposal.document.parentHash = some previous.documentHash
  present : engine.head kind = none → engine.ratifiedOf kind = []
  latest : ∀ head, engine.head kind = some head → ∀ proposal ∈ engine.ratifiedOf kind,
    proposal.document.version ≤ head.version

theorem mem_ratifiedOf : proposal ∈ engine.ratifiedOf kind ↔
    (∃ id, engine.proposals.get id = some proposal) ∧ proposal.status = .ratified ∧
      proposal.document.kind = kind := by
  unfold ratifiedOf
  rw [List.mem_filter, HashMap.mem_values]
  simp only [Bool.and_eq_true, decide_eq_true_eq]

/-- A chain that ends at the head is consistent. -/
theorem HeadEndsChain.consistent (h : HeadEndsChain engine kind) : Consistent engine kind := by
  obtain ⟨chain, hperm, hchained, hhead⟩ := h
  refine ⟨?_, fun proposal hmem => ?_, fun hnone => ?_, fun head hsome proposal hmem => ?_⟩
  · exact (hperm.map _).nodup_iff.mp hchained.nodup
  · refine (hchained.linked (hperm.mem_iff.mpr hmem)).imp_right ?_
    rintro ⟨previous, hprevious, hnumber, hparent⟩
    exact ⟨previous, hperm.mem_iff.mp hprevious, hnumber, hparent⟩
  · rw [hhead, Option.map_eq_none_iff, List.getLast?_eq_none_iff] at hnone
    rw [hnone] at hperm
    exact hperm.symm.eq_nil
  · rw [hhead, Option.map_eq_some_iff] at hsome
    obtain ⟨last, hlast, rfl⟩ := hsome
    obtain ⟨front, rfl⟩ := List.getLast?_eq_some_iff.mp hlast
    exact hchained.number_le (hperm.mem_iff.mpr hmem)

/-- In a loadable engine a head is made by a ratified proposal of its kind. -/
theorem Loadable.made_by (h : Loadable engine now) (hkind : kind.HasHead) {head : DocumentHead}
    (hhead : engine.head kind = some head) :
    ∃ proposal ∈ engine.ratifiedOf kind, proposal.toHead = head := by
  obtain ⟨-, proposal, hfound, hversion, hstatus, hhash⟩ := h.head kind head hhead
  obtain ⟨hsame, hversion⟩ := (headVersion_eq_some hkind).mp hversion
  have hid : head.proposalId = proposal.id := (h.proposals _ _ hfound).key
  refine ⟨proposal, (mem_ratifiedOf).mpr ⟨⟨_, hfound⟩, hstatus, hsame⟩, ?_⟩
  rw [Proposal.toHead, hversion, hhash, ← hid]

/-- Consistent documents of a loadable engine form a chain that ends at the head. -/
theorem Consistent.headEndsChain (h : Consistent engine kind) (hloadable : Loadable engine now)
    (hkind : kind.HasHead) : HeadEndsChain engine kind := by
  obtain ⟨chain, hperm, hchained⟩ := lineage.exists_chained h.versions h.linked
  refine ⟨chain, hperm, hchained, ?_⟩
  cases hhead : engine.head kind with
  | none =>
    rw [h.present hhead] at hperm
    rw [hperm.eq_nil]
    rfl
  | some head =>
    obtain ⟨proposal, hmem, rfl⟩ := hloadable.made_by hkind hhead
    have hmem' : proposal ∈ chain := hperm.mem_iff.mpr hmem
    obtain ⟨front, last, rfl⟩ : ∃ front last, chain = front ++ [last] := by
      rcases List.eq_nil_or_concat chain with rfl | ⟨front, last, hconcat⟩
      · cases hmem'
      · exact ⟨front, last, by rw [hconcat, List.concat_eq_append]⟩
    have hlast : last ∈ front ++ [last] := List.mem_concat_self
    have hle : proposal.document.version ≤ last.document.version := hchained.number_le hmem'
    have hge : last.document.version ≤ proposal.document.version :=
      h.latest _ hhead last (hperm.mem_iff.mp hlast)
    have heq : proposal = last :=
      List.inj_on_of_nodup_map hchained.nodup hmem' hlast (le_antisymm hle hge)
    rw [heq, List.getLast?_concat]
    rfl

end

/-- A reload accepts an engine whose head is the last of one chain of all ratified documents of
its kind exactly when these are consistent with each other and with the head. -/
theorem head_ends_chain_iff [Hashing] {engine : GovernanceEngine} {now : ℤ}
    (h : engine.validateLoadedState now = .ok ()) {kind : DocumentKind} (hkind : kind.HasHead) :
    HeadEndsChain engine kind ↔ Consistent engine kind :=
  ⟨HeadEndsChain.consistent, fun hconsistent =>
    hconsistent.headEndsChain (validateLoadedState_ok.mp h) hkind⟩

section Sample

attribute [local instance] sampleHashing

/-- The engine with two ratified constitutions and another head. -/
def sampleHeaded (head : Option DocumentHead) : GovernanceEngine :=
  { (sampleRun sampleRounds).engine with constitution := head }

theorem sampleHeaded_run : ((sampleHeaded none).validateLoadedState 30 = .ok () ∧
      (sampleHeaded (some ⟨1, sampleHash, sampleFirst⟩)).validateLoadedState 30 = .ok ()) ∧
    ((sampleHeaded none).ratifiedOf .constitution).map (·.document.version) = [2, 1] := by
  decide +kernel

theorem ratifiedOf_constitution {engine : GovernanceEngine} {kind : DocumentKind}
    (head : Option DocumentHead) :
    { engine with constitution := head }.ratifiedOf kind = engine.ratifiedOf kind := rfl

theorem sampleHeaded_ratified (head : Option DocumentHead) :
    ((sampleHeaded head).ratifiedOf .constitution).map (·.document.version) = [2, 1] := by
  rw [← sampleHeaded_run.2]
  simp only [sampleHeaded, ratifiedOf_constitution]

/-- Without its head the sample is accepted and inconsistent. -/
theorem head_ends_chain_iff_sample : ¬HeadEndsChain (sampleHeaded none) .constitution := by
  intro h
  have hconsistent := (head_ends_chain_iff sampleHeaded_run.1.1 (.inl rfl)).mp h
  have hversions := sampleHeaded_ratified none
  rw [hconsistent.present rfl] at hversions
  cases hversions

/-- A reload accepts two ratified constitutions with no head, and with the first as the head. -/
theorem heads_unchecked : (sampleHeaded none).validateLoadedState 30 = .ok () ∧
    ¬HeadEndsChain (sampleHeaded none) .constitution ∧
    (sampleHeaded (some ⟨1, sampleHash, sampleFirst⟩)).validateLoadedState 30 = .ok () ∧
    ¬HeadEndsChain (sampleHeaded (some ⟨1, sampleHash, sampleFirst⟩)) .constitution := by
  refine ⟨sampleHeaded_run.1.1, fun h => ?_, sampleHeaded_run.1.2, fun h => ?_⟩
  · have hversions := sampleHeaded_ratified none
    rw [h.consistent.present rfl] at hversions
    cases hversions
  · have hmem : 2 ∈ ((sampleHeaded (some ⟨1, sampleHash, sampleFirst⟩)).ratifiedOf
        .constitution).map (·.document.version) := by
      rw [sampleHeaded_ratified]
      decide
    obtain ⟨proposal, hproposal, hversion⟩ := List.mem_map.mp hmem
    have hle : proposal.document.version ≤ 1 := h.consistent.latest _ rfl proposal hproposal
    omega

end Sample

end Cthuwu.Governance
