import Cthuwu.Governance.Reloadable

/-!
# The lineage of ratified documents

Several proposals with one parent can be open at a time, and each is held against the head
when it is finalized. `Lineage` says of the proposals in the order of their ratification that
they are those stored as ratified, and that the ones of each kind that has a head are a chain
from version 1 whose last one is the head. A step keeps it (`lineage_step`), since only the
proposal that follows the head can be ratified.
-/

namespace Cthuwu.Governance

open Council GovernanceEngine Fallible

section

variable [Hashing] {engine : GovernanceEngine} {now : ℤ} {id : ProposalId} {proposal : Proposal}
  {kind : DocumentKind}

/-! ## Documents with a head -/

def DocumentKind.HasHead (kind : DocumentKind) : Prop :=
  kind = .constitution ∨ kind = .agenda

def GovernanceDocument.version : GovernanceDocument → ℕ
  | constitution value => value.version
  | agenda value => value.version
  | _ => 0

/-- `parent_hash`. -/
def GovernanceDocument.parentHash : GovernanceDocument → Option String
  | constitution value => value.parentHash
  | agenda value => value.parentHash
  | strategy value => some value.agendaHash
  | action value => value.agendaHash

/-- Proposals are linked by the version of their documents. -/
def lineage : Link Proposal String where
  number := (·.document.version)
  parent := (·.document.parentHash)
  hash := (·.documentHash)

def Proposal.toHead (proposal : Proposal) : DocumentHead :=
  ⟨proposal.document.version, proposal.documentHash, proposal.id⟩

variable {document : GovernanceDocument} {w : World}

theorem headVersion_eq_some {version : ℕ} (hkind : kind.HasHead) :
    headVersion kind document = some version ↔ document.kind = kind ∧ document.version = version := by
  rcases hkind with rfl | rfl <;>
    cases document <;> simp [headVersion, GovernanceDocument.kind, GovernanceDocument.version]

theorem headVersion_eq_none (hkind : kind.HasHead) :
    headVersion kind document = none ↔ document.kind ≠ kind := by
  rcases hkind with rfl | rfl <;> cases document <;> simp [headVersion, GovernanceDocument.kind]

/-- A document without a parent conflict follows the head of its kind. -/
theorem follows_head (hkind : document.kind.HasHead)
    (hconflict : engine.hasParentConflict document = false) :
    lineageMatches (engine.head document.kind) document.version document.parentHash = true := by
  cases document with
  | constitution value =>
    rw [hasParentConflict, Bool.not_eq_false'] at hconflict
    exact hconflict
  | agenda value =>
    rw [hasParentConflict, Bool.not_eq_false'] at hconflict
    exact hconflict
  | strategy value => rcases hkind with h | h <;> cases h
  | action value => rcases hkind with h | h <;> cases h

theorem lineageMatches_iff {current : Option DocumentHead} {version : ℕ} {parent : Option String} :
    lineageMatches current version parent = true →
      version = (current.elim 0 (·.version)) + 1 ∧ parent = current.map (·.hash) := by
  cases current with
  | none => simp [lineageMatches]
  | some head =>
    simp only [lineageMatches, Bool.and_eq_true, decide_eq_true_eq, Option.elim_some, Option.map_some]
    rintro ⟨⟨-, hversion⟩, hparent⟩
    exact ⟨hversion.symm, hparent⟩

/-! ## The invariant -/

def World.chain (w : World) (kind : DocumentKind) : List Proposal :=
  w.ratified.filter fun proposal => proposal.document.kind = kind

/-- What is ratified is stored, and each kind's chain ends at its head. -/
structure Lineage (w : World) : Prop where
  stored : ∀ proposal ∈ w.ratified, proposal.status = .ratified ∧
    w.engine.proposals.get proposal.id = some proposal
  recorded : ∀ id proposal, w.engine.proposals.get id = some proposal →
    proposal.status = .ratified → proposal ∈ w.ratified
  nodup : (w.ratified.map (·.id)).Nodup
  chained : ∀ kind, kind.HasHead → lineage.Chained 1 none (w.chain kind)
  head : ∀ kind, kind.HasHead → w.engine.head kind = (w.chain kind).getLast?.map Proposal.toHead

/-- The next version and hash of a chain are those of its head. -/
theorem Lineage.next {w : World} (h : Lineage w) (hkind : kind.HasHead) :
    (w.engine.head kind).elim 0 (·.version) = (w.chain kind).length ∧
      (w.engine.head kind).map (·.hash) = lineage.lastHash none (w.chain kind) := by
  rw [h.head kind hkind]
  unfold Link.lastHash
  rw [Option.or_none, Option.map_map]
  refine ⟨?_, rfl⟩
  have hchained := h.chained kind hkind
  rcases List.eq_nil_or_concat (w.chain kind) with hnil | ⟨front, last, hlast⟩
  · rw [hnil]
    rfl
  · rw [hlast, List.concat_eq_append, Link.chained_concat] at hchained
    rw [hlast, List.concat_eq_append, List.getLast?_concat, List.length_append]
    have hnumber : last.document.version = 1 + front.length := hchained.2.1
    simp [Proposal.toHead, hnumber, Nat.add_comm]

/-- Where no proposal's status changes, the lineage stays. -/
theorem Lineage.frame (h : Lineage w) {engine : GovernanceEngine}
    {electorate : Option (ProposalId × Finset CthulhuId)} {ballot : Option Ballot}
    (hheads : ∀ kind, engine.head kind = w.engine.head kind)
    (hkeeps : ∀ id proposal, proposal.status = .ratified →
      (engine.proposals.get id = some proposal ↔ w.engine.proposals.get id = some proposal)) :
    Lineage (w.record now engine none electorate ballot) := by
  have hratified : (w.record now engine none electorate ballot).ratified = w.ratified :=
    List.append_nil _
  have hchain : ∀ kind, (w.record now engine none electorate ballot).chain kind = w.chain kind := by
    intro kind
    unfold World.chain
    rw [hratified]
  refine ⟨?_, ?_, ?_, ?_, ?_⟩
  · intro proposal hmem
    rw [hratified] at hmem
    obtain ⟨hstatus, hget⟩ := h.stored proposal hmem
    exact ⟨hstatus, (hkeeps _ _ hstatus).mpr hget⟩
  · intro id proposal hget hstatus
    rw [hratified]
    exact h.recorded id proposal ((hkeeps _ _ hstatus).mp hget) hstatus
  · rw [hratified]
    exact h.nodup
  · intro kind hkind
    rw [hchain]
    exact h.chained kind hkind
  · intro kind hkind
    rw [hchain]
    exact (hheads kind).trans (h.head kind hkind)

/-- Replacing what is not ratified by what is not changes no ratified proposal. -/
theorem ratified_insert {proposal' : Proposal}
    (hold : ∀ found, engine.proposals.get id = some found → found.status ≠ .ratified)
    (hnew : proposal'.status ≠ .ratified) (other : ProposalId) (found : Proposal)
    (hstatus : found.status = .ratified) :
    (engine.proposals.insert id proposal').get other = some found ↔
      engine.proposals.get other = some found := by
  rw [HashMap.get_insert_apply]
  split_ifs with heq
  · subst heq
    refine iff_of_false (fun h => ?_) fun h => hold found h hstatus
    rw [Option.some.injEq] at h
    rw [h] at hnew
    exact hnew hstatus
  · rfl

theorem OpenTo.unratified {actor : CthulhuId} (h : OpenTo engine now id actor proposal) :
    ∀ found, engine.proposals.get id = some found → found.status ≠ .ratified := by
  intro found hget hstatus
  cases h.found.symm.trans hget
  rw [h.status] at hstatus
  cases hstatus

/-- Ratifying a proposal that has no parent conflict lengthens the chain of its kind. -/
theorem Lineage.ratify (h : Lineage w) (hfound : w.engine.proposals.get id = some proposal)
    (hid : id = proposal.id) (hopen : proposal.status = .open)
    (hconflict : w.engine.hasParentConflict proposal.document = false) :
    Lineage (w.record now (Effect.apply w.engine (.closed id proposal .ratified))
      (some { proposal with status := .ratified }) none none) := by
  subst hid
  have hfresh : ∀ found ∈ w.ratified, found.id ≠ proposal.id := by
    intro found hmem heq
    obtain ⟨hstatus, hget⟩ := h.stored found hmem
    rw [heq] at hget
    cases hfound.symm.trans hget
    simp [hopen] at hstatus
  have hget : ∀ other, (Effect.apply w.engine (.closed proposal.id proposal .ratified)).proposals.get
      other = if other = proposal.id then some { proposal with status := .ratified }
        else w.engine.proposals.get other := by
    intro other
    rw [Effect.apply, setProposal]
    dsimp only
    rw [HashMap.get_insert_apply, proposals_conclude]
  have hchain : ∀ kind, (w.record now (Effect.apply w.engine (.closed proposal.id proposal .ratified))
      (some { proposal with status := .ratified }) none none).chain kind = w.chain kind ++
        if proposal.document.kind = kind then [{ proposal with status := .ratified }] else [] := by
    intro kind
    change (w.ratified ++ [_]).filter _ = _
    rw [List.filter_append, List.filter_singleton]
    simp only [World.chain, Bool.cond_decide]
  refine ⟨?_, ?_, ?_, ?_, ?_⟩
  · intro found hmem
    change found ∈ w.ratified ++ [_] at hmem
    rcases List.mem_append.mp hmem with hmem | hmem
    · obtain ⟨hstatus, hstored⟩ := h.stored found hmem
      refine ⟨hstatus, ?_⟩
      change (Effect.apply w.engine _).proposals.get _ = _
      rw [hget, if_neg (hfresh found hmem), hstored]
    · rw [List.mem_singleton] at hmem
      subst hmem
      exact ⟨rfl, (hget _).trans (if_pos rfl)⟩
  · intro other found hstored hstatus
    change (Effect.apply w.engine _).proposals.get _ = _ at hstored
    change found ∈ w.ratified ++ [_]
    rw [hget] at hstored
    split_ifs at hstored with heq
    · rw [← Option.some.inj hstored]
      exact List.mem_concat_self
    · exact List.mem_append_left _ (h.recorded other found hstored hstatus)
  · change ((w.ratified ++ [_]).map _).Nodup
    rw [List.map_append, List.nodup_append]
    refine ⟨h.nodup, List.nodup_singleton _, fun other hother last hlast heq => ?_⟩
    obtain ⟨found, hmem, rfl⟩ := List.mem_map.mp hother
    exact hfresh found hmem (heq.trans (List.mem_singleton.mp hlast))
  · intro kind hkind
    rw [hchain]
    split_ifs with heq
    · subst heq
      obtain ⟨hversion, hparent⟩ := lineageMatches_iff (follows_head hkind hconflict)
      obtain ⟨hlength, hlast⟩ := h.next hkind
      refine Link.chained_concat.mpr ⟨h.chained _ hkind, ?_, ?_⟩
      · change proposal.document.version = _
        rw [hversion, hlength, Nat.add_comm]
      · change proposal.document.parentHash = _
        rw [hparent, hlast]
    · rw [List.append_nil]
      exact h.chained kind hkind
  · intro kind hkind
    rw [hchain]
    change (w.engine.conclude proposal.id proposal .ratified).head kind = _
    rw [head_conclude, if_pos rfl]
    split_ifs with heq
    · rw [(headVersion_eq_some hkind).mpr ⟨heq, rfl⟩, List.getLast?_concat]
      rfl
    · rw [(headVersion_eq_none hkind).mpr heq, List.append_nil]
      exact h.head kind hkind

theorem lineage_step (h : Lineage w) (hkeys : ∀ id proposal,
    w.engine.proposals.get id = some proposal → id = proposal.id) {effect : Effect}
    (hjustified : Justified w.engine now effect) : Lineage (w.after now effect) := by
  cases hjustified with
  | idle => exact h.frame (fun _ => rfl) fun _ _ _ => Iff.rfl
  | seated => exact h.frame (fun _ => rfl) fun _ _ _ => Iff.rfl
  | submitted hsubmittable =>
    refine h.frame (fun _ => rfl) (ratified_insert (fun found hget => ?_) ?_)
    · cases hsubmittable.fresh.symm.trans hget
    · simp [hsubmittable.status]
  | argued hopen =>
    exact h.frame (fun _ => rfl) (ratified_insert hopen.unratified (by simp [hopen.status]))
  | amended hopen =>
    exact h.frame (fun _ => rfl) (ratified_insert hopen.unratified (by simp [hopen.status]))
  | voted hopen =>
    exact h.frame (fun _ => rfl) (ratified_insert hopen.unratified (by simp [hopen.status]))
  | @closed id proposal hready =>
    unfold World.after Effect.ratification
    dsimp only
    split_ifs with hratified
    · rw [hratified]
      exact h.ratify hready.found (hkeys id proposal hready.found) hready.status
        (decision_ratified.mp hratified).1
    · refine h.frame (fun kind => ?_) ?_
      · change (w.engine.conclude id proposal _).head kind = _
        rw [head_conclude, if_neg hratified]
      · intro other found hstatus
        change ((w.engine.conclude id proposal _).proposals.insert id _).get other = some found ↔ _
        rw [proposals_conclude]
        refine ratified_insert (fun old hget hold => ?_) hratified other found hstatus
        cases hready.found.symm.trans hget
        simp [hready.status] at hold

theorem lineage_init (founding : Founding) : Lineage (.init founding) := by
  obtain ⟨-, -, -, hengine⟩ := new_ok.mp founding.founded
  refine ⟨fun _ => nofun, fun id proposal hget => ?_, List.nodup_nil, fun _ _ => trivial,
    fun kind hkind => ?_⟩
  · change founding.engine.proposals.get id = _ at hget
    rw [hengine] at hget
    cases (HashMap.get_empty id).symm.trans hget
  · change founding.engine.head kind = none
    rw [hengine]
    rcases hkind with rfl | rfl <;> rfl

theorem reachable_lineage {founding : Founding} (h : (machine founding).Reachable w) :
    Lineage w := by
  refine h.invariant (lineage_init founding) fun w l hw hlineage _ => ?_
  obtain ⟨effect, hjustified, hstep⟩ := step_effect w l
  obtain ⟨now, hloadable⟩ := reachable_loadable hw
  change Lineage (w.step l)
  rw [hstep]
  exact lineage_step hlineage (fun id proposal hget => (hloadable.proposals id proposal hget).key)
    hjustified

/-- A finalization that does not ratify moves no head. -/
theorem finalize_head {engine' : GovernanceEngine} {result : Except GovernanceError Finalization}
    (h : (finalize id now).exec engine = (result, engine'))
    (hresult : ∀ finalization, result = .ok finalization → finalization.status ≠ .ratified) :
    ∀ kind, engine'.head kind = engine.head kind := by
  intro kind
  cases result with
  | error err =>
    have hsame := atomic_finalize engine err (congrArg Prod.fst h)
    rw [Fallible.after, h] at hsame
    rw [← hsame]
  | ok finalization =>
    obtain ⟨proposal, hready, rfl, rfl⟩ := finalize_ok.mp h
    have hstatus : engine.decision proposal ≠ .ratified := hresult _ rfl
    change (engine.conclude id proposal _).head kind = _
    rw [head_conclude, if_neg hstatus]

end

/-- After any run, at any times, the ratified documents of each kind with a head have the
versions 1, 2, 3, ... in the order of their ratification, each names the content hash of the
one before, and the last one is the head. The proposals of that order are those stored as
ratified, and a finalization with another result moves no head. -/
theorem ratified_lineage [Hashing] (founding : Founding) {w : World}
    (h : (machine founding).Reachable w) :
    (∀ kind, kind.HasHead →
      (w.chain kind).map (·.document.version) = List.range' 1 (w.chain kind).length ∧
      ((w.chain kind).map (·.document.version)).Nodup ∧
      (∀ first, (w.chain kind)[0]? = some first → first.document.parentHash = none) ∧
      (∀ i previous next, (w.chain kind)[i]? = some previous → (w.chain kind)[i + 1]? = some next →
        previous.document.contentHash = .ok previous.documentHash ∧
          next.document.parentHash = some previous.documentHash) ∧
      w.engine.head kind = (w.chain kind).getLast?.map Proposal.toHead) ∧
    (w.ratified.map (·.id)).Nodup ∧
    (∀ proposal, proposal ∈ w.ratified ↔
      proposal.status = .ratified ∧ w.engine.proposals.get proposal.id = some proposal) ∧
    ∀ id now result engine', (finalize id now).exec w.engine = (result, engine') →
      (∀ finalization, result = .ok finalization → finalization.status ≠ .ratified) →
        engine'.constitution = w.engine.constitution ∧ engine'.agenda = w.engine.agenda := by
  have hlineage := reachable_lineage h
  obtain ⟨now, hloadable⟩ := reachable_loadable h
  refine ⟨fun kind hkind => ?_, hlineage.nodup, fun proposal => ?_, ?_⟩
  · have hchained := hlineage.chained kind hkind
    refine ⟨hchained.numbers, hchained.nodup, fun first hfirst => hchained.parent_zero hfirst, ?_,
      hlineage.head kind hkind⟩
    intro i previous next hprevious hnext
    have hmem : previous ∈ w.ratified :=
      List.mem_of_mem_filter (List.mem_of_getElem? hprevious)
    exact ⟨(hloadable.proposals _ _ (hlineage.stored previous hmem).2).hash,
      hchained.parent_succ hprevious hnext⟩
  · exact ⟨hlineage.stored proposal, fun hproposal =>
      hlineage.recorded _ _ hproposal.2 hproposal.1⟩
  · intro id now result engine' hrun hresult
    have hheads := finalize_head hrun hresult
    exact ⟨hheads .constitution, hheads .agenda⟩

section Sample

attribute [local instance] sampleHashing

/-- Two constitutions are ratified one after the other, and the second is the head. -/
theorem ratified_lineage_sample :
    ((sampleRun sampleRounds).chain .constitution).map (·.id) = [sampleFirst, sampleSecond] ∧
      (sampleRun sampleRounds).engine.head .constitution =
        ((sampleRun sampleRounds).chain .constitution).getLast?.map Proposal.toHead :=
  ⟨by decide +kernel,
    ((ratified_lineage sampleFounding reachable_sampleRounds.of_restrict).1 .constitution
      (.inl rfl)).2.2.2.2⟩

end Sample

end Cthuwu.Governance
