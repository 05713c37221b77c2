import Cthuwu.Lib.Runs
import Cthuwu.Governance.Effects

/-!
# Runs of the governance engine

A `Founding` is an engine as `new` returns it. A `Label` is a request with its time, and
`machine` runs any sequence of them at any times. `timely` admits the steps whose time does
not run backwards, for what depends on it.

A `World` records beside the engine what an observer of the calls can write down : the
proposals in the order of their ratification, each proposal's electorate at its submission
and the accepted ballots. `step_effect` reduces a step to a justified effect, and `invariant`
is the rule by which the later modules prove a property of every run.

An engine only grows : its rules never change, its two logs are only appended to, and a
proposal never loses the terms it was submitted under (`Grows`). Whatever the checks have
established of a binding or of a proposal's basis stays established (`BindingValid.grow`,
`BasisValid.grow`), and `justified_grows` says that every effect is a growth.
-/

namespace Cthuwu.Governance

open Council GovernanceEngine Fallible

section

variable [Hashing]

structure Founding where
  councilId : CouncilId
  rules : GovernanceRules
  members : List CthulhuId
  engine : GovernanceEngine
  founded : GovernanceEngine.new councilId rules members = .ok engine

structure World where
  engine : GovernanceEngine
  clock : ℤ
  ratified : List Proposal
  electorates : List (ProposalId × Finset CthulhuId)
  ballots : List Ballot

/-- The least `i64`. -/
def i64Min : ℤ := -9223372036854775808

def World.init (founding : Founding) : World where
  engine := founding.engine
  clock := i64Min
  ratified := []
  electorates := []
  ballots := []

structure Label where
  now : ℤ
  request : Request

/-- The world after the engine has become `engine` and what was observed is written down. -/
def World.record (w : World) (now : ℤ) (engine : GovernanceEngine)
    (ratification : Option Proposal) (electorate : Option (ProposalId × Finset CthulhuId))
    (ballot : Option Ballot) : World where
  engine
  clock := now
  ratified := w.ratified ++ ratification.toList
  electorates := w.electorates ++ electorate.toList
  ballots := w.ballots ++ ballot.toList

def World.step (w : World) (l : Label) : World :=
  match (l.request.run l.now).exec w.engine with
  | (.ok reply, engine) =>
    w.record l.now engine (l.request.ratification engine reply)
      (l.request.electorate w.engine reply) (l.request.ballot l.now reply)
  | (.error _, engine) => w.record l.now engine none none none

def machine (founding : Founding) : Machine World Label where
  init := .init founding
  Allowed _ _ := True
  next := World.step

/-- The step's time is not before the last one's. -/
def timely (w : World) (l : Label) : Prop :=
  w.clock ≤ l.now

instance (founding : Founding) (w : World) (l : Label) :
    Decidable ((machine founding).Allowed w l) :=
  inferInstanceAs (Decidable True)

instance (w : World) (l : Label) : Decidable (timely w l) :=
  inferInstanceAs (Decidable (w.clock ≤ l.now))

def World.after (w : World) (now : ℤ) (effect : Effect) : World :=
  w.record now (effect.apply w.engine) effect.ratification effect.electorate effect.ballot

theorem step_effect (w : World) (l : Label) :
    ∃ effect, Justified w.engine l.now effect ∧ w.step l = w.after l.now effect := by
  unfold World.step
  rcases h : (l.request.run l.now).exec w.engine with ⟨err | reply, engine⟩
  · have hsame : engine = w.engine := by
      have hatomic := run_atomic w.engine err (congrArg Prod.fst h)
      rwa [Fallible.after, h] at hatomic
    exact ⟨.idle, .idle, by rw [hsame]; rfl⟩
  · obtain ⟨effect, heffect⟩ := run_effect h
    refine ⟨effect, heffect.justified, ?_⟩
    rw [World.after, heffect.ratification, heffect.electorate, heffect.ballot, ← heffect.result]

variable {founding : Founding}

/-- What holds at the founding and is kept by every justified effect holds after every run. -/
theorem invariant {P : World → Prop} (hinit : P (.init founding))
    (hnext : ∀ w now effect, P w → Justified w.engine now effect → P (w.after now effect))
    {w : World} (h : (machine founding).Reachable w) : P w := by
  refine h.invariant hinit fun w l _ hw _ => ?_
  obtain ⟨effect, hjustified, hstep⟩ := step_effect w l
  change P (w.step l)
  rw [hstep]
  exact hnext w l.now effect hw hjustified

end

/-! ## A council to compute with -/

section Sample

def sampleA : CthulhuId := ⟨"cthulhu_a", by decide +kernel⟩

def sampleCouncil : CouncilId := ⟨"council_1", by decide +kernel⟩

def sampleFirst : ProposalId := ⟨"proposal_1", by decide +kernel⟩

def sampleSecond : ProposalId := ⟨"proposal_2", by decide +kernel⟩

def sampleHash : String :=
  "sha256:84f22fdd1d5bc9e4600695cb8f0812a116604b86cd0e907b290f6ffd10affabe"

def sampleConstitution (version : ℕ) (parentHash : Option String) : Constitution where
  version
  parentHash
  principles := ["tide"]
  securityInvariants := ["deep"]

def constitutionText (c : Constitution) : String :=
  jsonObject [("constitution", jsonObject [("version", toString c.version),
    ("parent_hash", c.parentHash.elim "null" jsonText),
    ("principles", jsonList (c.principles.map jsonText)),
    ("security_invariants", jsonList (c.securityInvariants.map jsonText))])]

def sampleGenesis : String :=
  "sha256:89fd421bf1f5e89cc894a20614f3aa09073afb13476b5fd37ba27b546b831c7a"

def sampleBinding : String :=
  "sha256:0f7929369aa0448ccd40b82b7767a05787c825322617100a85f0de98a57666fe"

def sampleDigests : List (List UInt8 × String) :=
  [(membershipSnapshotBytes sampleCouncil 0 none [sampleA],
      "89fd421bf1f5e89cc894a20614f3aa09073afb13476b5fd37ba27b546b831c7a"),
    (proposalMembershipBindingBytes sampleCouncil 0 none sampleFirst 0 sampleGenesis,
      "0f7929369aa0448ccd40b82b7767a05787c825322617100a85f0de98a57666fe"),
    (proposalMembershipBindingBytes sampleCouncil 1 (some sampleBinding) sampleSecond 0 sampleGenesis,
      "75001446a45da78a31919a60db269fc10aa5ee2ddb1a85a597207d78a54af97f"),
    (utf8 (constitutionText (sampleConstitution 1 none)),
      "84f22fdd1d5bc9e4600695cb8f0812a116604b86cd0e907b290f6ffd10affabe"),
    (utf8 (constitutionText (sampleConstitution 2 (some sampleHash))),
      "9478369e494574860d930b3c6b23ba28446de767d85065e6fee4d161d7ea2e63")]

def otherDigest : String :=
  "0000000000000000000000000000000000000000000000000000000000000000"

theorem sampleDigests_hex :
    ∀ digest ∈ otherDigest :: sampleDigests.map (·.2), isContentHash (hashStart ++ digest) = true := by
  decide +kernel

/-- The encoding of `serde_json` and the digests of the sample. -/
@[reducible] def sampleHashing : Hashing where
  documentJson
    | .constitution value => .ok (constitutionText value)
    | _ => .error "not in the sample"
  sha256 bytes := (sampleDigests.lookup bytes).getD otherDigest
  sha256_hex bytes := by
    refine sampleDigests_hex _ ?_
    cases h : sampleDigests.lookup bytes with
    | none => exact List.mem_cons_self
    | some digest =>
      obtain ⟨front, back, hsplit, -⟩ := List.lookup_eq_some_iff.mp h
      refine List.mem_cons_of_mem _ (List.mem_map.mpr ⟨(bytes, digest), ?_, rfl⟩)
      rw [hsplit]
      exact List.mem_append_right front List.mem_cons_self

attribute [local instance] sampleHashing

def sampleFounding : Founding where
  councilId := sampleCouncil
  rules := .standard
  members := [sampleA]
  engine := .fresh sampleCouncil .standard {sampleA}
  founded := new_ok.mpr ⟨by decide, by decide, rfl, rfl⟩

/-- A constitution is proposed, voted on once and finalized. -/
def sampleFirstRound (choice : VoteChoice) : List Label :=
  [⟨10, .submit sampleFirst sampleA (.constitution (sampleConstitution 1 none)) 10 20⟩,
    ⟨12, .castVote sampleFirst sampleA choice⟩, ⟨20, .finalize sampleFirst⟩]

/-- A second one follows the first. -/
def sampleRounds : List Label :=
  sampleFirstRound .support ++ [⟨21, .submit sampleSecond sampleA
        (.constitution (sampleConstitution 2 (some sampleHash))) 21 30⟩,
      ⟨25, .castVote sampleSecond sampleA .support⟩, ⟨30, .finalize sampleSecond⟩]

def sampleRun (labels : List Label) : World :=
  labels.foldl World.step (.init sampleFounding)

end Sample

end Cthuwu.Governance

/-! ## What an engine keeps -/

namespace Cthuwu.Governance

open Council GovernanceEngine

variable [Hashing] {engine engine' : GovernanceEngine} {now : ℤ} {id : ProposalId}
  {proposal proposal' : Proposal}

structure Proposal.SameTerms (proposal proposal' : Proposal) : Prop where
  id : proposal'.id = proposal.id
  councilId : proposal'.councilId = proposal.councilId
  proposer : proposal'.proposer = proposal.proposer
  document : proposal'.document = proposal.document
  documentHash : proposal'.documentHash = proposal.documentHash
  createdAt : proposal'.createdAt = proposal.createdAt
  deadline : proposal'.deadline = proposal.deadline
  membershipRevision : proposal'.membershipRevision = proposal.membershipRevision
  membershipHash : proposal'.membershipHash = proposal.membershipHash
  membershipBindingIndex : proposal'.membershipBindingIndex = proposal.membershipBindingIndex
  eligibleVoters : proposal'.eligibleVoters = proposal.eligibleVoters

theorem Proposal.SameTerms.refl (proposal : Proposal) : proposal.SameTerms proposal :=
  ⟨rfl, rfl, rfl, rfl, rfl, rfl, rfl, rfl, rfl, rfl, rfl⟩

/-- The engine has only been added to. -/
structure Grows (engine engine' : GovernanceEngine) : Prop where
  councilId : engine'.councilId = engine.councilId
  rules : engine'.rules = engine.rules
  history : engine.membershipHistory <+: engine'.membershipHistory
  log : engine.proposalMembershipLog <+: engine'.proposalMembershipLog
  proposals : ∀ id proposal, engine.proposals.get id = some proposal →
    ∃ proposal', engine'.proposals.get id = some proposal' ∧ proposal.SameTerms proposal'

theorem Grows.refl (engine : GovernanceEngine) : Grows engine engine :=
  ⟨rfl, rfl, List.prefix_rfl, List.prefix_rfl,
    fun _ proposal hget => ⟨proposal, hget, .refl proposal⟩⟩

theorem getElem?_of_prefix {α : Type} {l l' : List α} {i : ℕ} {x : α} (h : l <+: l')
    (hx : l[i]? = some x) : l'[i]? = some x := by
  obtain ⟨rest, rfl⟩ := h
  rw [List.getElem?_append_left (List.getElem?_eq_some_iff.mp hx).1, hx]

theorem BindingValid.grow {binding : ProposalMembershipBinding} (h : BindingValid engine binding)
    (hgrows : Grows engine engine') : BindingValid engine' binding := by
  obtain ⟨snapshot, hsnapshot, hmember⟩ := h.membership
  obtain ⟨proposal, hfound, hindex, hrevision, hhash⟩ := h.proposal
  obtain ⟨proposal', hfound', hsame⟩ := hgrows.proposals _ _ hfound
  refine ⟨⟨snapshot, getElem?_of_prefix hgrows.history hsnapshot, hmember⟩,
    ⟨proposal', hfound', ?_, ?_, ?_⟩, ?_⟩
  · rw [hsame.membershipBindingIndex, hindex]
  · rw [hsame.membershipRevision, hrevision]
  · rw [hsame.membershipHash, hhash]
  · rw [hgrows.councilId, h.hash]

theorem BasisValid.grow (h : BasisValid engine proposal) (hgrows : Grows engine engine')
    (hsame : proposal.SameTerms proposal') : BasisValid engine' proposal' := by
  obtain ⟨binding, hbinding, hindex, hid, hrevision, hhash⟩ := h.bound
  obtain ⟨snapshot, hsnapshot, hnumber, hshash, hlen, hsub⟩ := h.electorate
  refine ⟨⟨binding, ?_, ?_, ?_, ?_, ?_⟩, ⟨snapshot, ?_, ?_, ?_, ?_, ?_⟩⟩
  · rw [hsame.membershipBindingIndex]
    exact getElem?_of_prefix hgrows.log hbinding
  · rw [hsame.membershipBindingIndex, hindex]
  · rw [hsame.id, hid]
  · rw [hsame.membershipRevision, hrevision]
  · rw [hsame.membershipHash, hhash]
  · rw [hsame.membershipRevision]
    exact getElem?_of_prefix hgrows.history hsnapshot
  · rw [hsame.membershipRevision, hnumber]
  · rw [hsame.membershipHash, hshash]
  · rw [hsame.eligibleVoters, hlen]
  · rw [hsame.eligibleVoters]
    exact hsub

/-! ## Every effect is a growth -/

theorem seat_grows {members : Finset CthulhuId} {parent : MembershipSnapshot} :
    Grows engine (engine.seat members parent) :=
  ⟨rfl, rfl, List.prefix_append .., List.prefix_rfl,
    fun _ proposal hget => ⟨proposal, hget, .refl proposal⟩⟩

theorem enter_grows (hfresh : engine.proposals.get proposal.id = none) :
    Grows engine (engine.enter proposal) := by
  refine ⟨rfl, rfl, List.prefix_rfl, List.prefix_append .., fun id found hget => ⟨found, ?_, .refl _⟩⟩
  have hne : id ≠ proposal.id := fun heq => by simp [← heq, hget] at hfresh
  exact (HashMap.get_insert_ne hne).trans hget

theorem setProposal_grows (hfound : engine.proposals.get id = some proposal)
    (hsame : proposal.SameTerms proposal') : Grows engine (engine.setProposal id proposal') := by
  refine ⟨rfl, rfl, List.prefix_rfl, List.prefix_rfl, fun other found hget => ?_⟩
  by_cases heq : other = id
  · subst heq
    cases hfound.symm.trans hget
    exact ⟨proposal', HashMap.get_insert, hsame⟩
  · exact ⟨found, (HashMap.get_insert_ne heq).trans hget, .refl found⟩

/-- Finalizing only moves a head, and rewrites the proposal. -/
theorem conclude_eq (engine : GovernanceEngine) (id : ProposalId) (proposal : Proposal)
    (status : ProposalStatus) : ∃ constitution agenda,
      engine.conclude id proposal status = { engine with constitution, agenda } := by
  unfold conclude setHead
  split_ifs
  · cases proposal.document <;> exact ⟨_, _, rfl⟩
  · exact ⟨_, _, rfl⟩

variable {status : ProposalStatus}

theorem close_grows (hfound : engine.proposals.get id = some proposal)
    (hsame : proposal.SameTerms proposal') :
    Grows engine ((engine.conclude id proposal status).setProposal id proposal') := by
  obtain ⟨constitution, agenda, heq⟩ := conclude_eq engine id proposal status
  rw [heq]
  have h := setProposal_grows hfound hsame
  exact ⟨h.councilId, h.rules, h.history, h.log, h.proposals⟩

/-! ## Heads -/

def GovernanceEngine.head (engine : GovernanceEngine) : DocumentKind → Option DocumentHead
  | .constitution => engine.constitution
  | .agenda => engine.agenda
  | _ => none

/-- Ratifying a document that can be a head makes it the head, and nothing else moves one. -/
theorem head_conclude {kind : DocumentKind} : (engine.conclude id proposal status).head kind =
      if status = .ratified then
        (headVersion kind proposal.document).elim (engine.head kind)
          fun version => some ⟨version, proposal.documentHash, id⟩
      else engine.head kind := by
  unfold conclude setHead
  split_ifs
  · cases proposal.document <;> cases kind <;> rfl
  · rfl

theorem decideStatus_ratified {parentConflict : Bool} {tally : Tally} {quorum threshold : ℕ} :
    decideStatus parentConflict tally quorum threshold = .ratified ↔ parentConflict = false ∧
      quorum ≤ tally.participating ∧ 0 < tally.nonAbstaining ∧
      tally.nonAbstaining * threshold ≤ tally.support * 10000 := by
  unfold decideStatus
  rw [Nat.pos_iff_ne_zero, ← not_lt (a := tally.participating)]
  by_cases hconflict : parentConflict = true
  · simp [hconflict]
  · by_cases hquorum : tally.participating < quorum
    · simp [hconflict, hquorum]
    · by_cases hnone : tally.nonAbstaining = 0
      · simp [hconflict, hquorum, hnone]
      · simp [hconflict, hquorum, hnone]

/-- A proposal is ratified when its parent is the head and its tally carries it. -/
theorem decision_ratified : engine.decision proposal = .ratified ↔
    engine.hasParentConflict proposal.document = false ∧ Carries engine.rules proposal :=
  decideStatus_ratified

end Cthuwu.Governance
