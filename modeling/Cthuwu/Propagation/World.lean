import Cthuwu.Lib.Runs
import Cthuwu.Propagation.Effects

/-!
# Runs of the engine

A `Label` is a request with its time, and `machine` runs any sequence of them from a fresh
engine as long as time does not run backwards. Sends may use any validator and outcomes any
incentive model.

A `World` records beside the engine what the engine does not store : the rules in force at
each delivery and the points of each award, in order. `next_effect` reduces a step to a
justified effect, and `invariant` is the rule by which the later modules prove a property of
every run.
-/

namespace Cthuwu.Propagation

open Council PropagationEngine Fallible

variable [Hashing]

/-- An item as it was created, and the rules in force then. -/
structure Delivery where
  item : PropagationItem
  rules : LocalRules

structure Award where
  claim : OutcomeClaim
  points : ℕ
  deriving DecidableEq

structure World where
  engine : PropagationEngine
  clock : ℤ
  deliveries : List Delivery
  awards : List Award

/-- A fresh engine at the first `i64` instant. -/
def World.init : World where
  engine := .fresh
  clock := i64Min
  deliveries := []
  awards := []

structure Label where
  now : ℤ
  request : Request

/-- The world after the engine has become `engine` and its caller has been told of `item`
and `award`. -/
def World.record (w : World) (now : ℤ) (engine : PropagationEngine)
    (item : Option PropagationItem) (award : Option (OutcomeClaim × ℕ)) : World where
  engine
  clock := now
  deliveries := w.deliveries ++ item.toList.map (⟨·, w.engine.rules⟩)
  awards := w.awards ++ award.toList.map fun (claim, points) => ⟨claim, points⟩

def World.step (w : World) (l : Label) : World :=
  match (l.request.run l.now).exec w.engine with
  | (.ok reply, engine) => w.record l.now engine reply.item (l.request.award reply)
  | (.error _, engine) => w.record l.now engine none none

/-- Any requests in any order, at times that do not decrease. -/
def machine : Machine World Label where
  init := .init
  Allowed w l := w.clock ≤ l.now
  next := World.step

instance decidableAllowed (w : World) (l : Label) : Decidable (machine.Allowed w l) :=
  inferInstanceAs (Decidable (w.clock ≤ l.now))

def World.after (w : World) (now : ℤ) (effect : Effect) : World :=
  w.record now (effect.apply w.engine) effect.delivery effect.credit

/-- A step has a justified effect, which the request asked for. -/
theorem step_effect (w : World) (l : Label) :
    ∃ effect, Justified w.engine l.now effect ∧ l.request.Asks w.engine l.now effect ∧
      w.step l = w.after l.now effect := by
  unfold World.step
  rcases h : (l.request.run l.now).exec w.engine with ⟨err | reply, engine⟩
  · have hsame : engine = w.engine := by
      have hatomic := run_atomic w.engine err (congrArg Prod.fst h)
      rwa [Fallible.after, h] at hatomic
    exact ⟨.idle, .idle, trivial, by rw [hsame]; rfl⟩
  · obtain ⟨effect, heffect⟩ := run_effect h
    refine ⟨effect, heffect.justified, heffect.asked, ?_⟩
    rw [World.after, heffect.delivery, heffect.credit, heffect.result]

theorem clock_step (w : World) (l : Label) : (w.step l).clock = l.now := by
  unfold World.step
  split <;> rfl

/-- Only the times of a run decide whether it is admitted. -/
theorem admits_of_sorted {w : World} {labels : List Label}
    (h : (w.clock :: labels.map (·.now)).Pairwise (· ≤ ·)) : machine.Admits w labels := by
  induction labels generalizing w with
  | nil => exact trivial
  | cons l labels ih =>
    obtain ⟨hhead, htail⟩ := List.pairwise_cons.mp h
    refine ⟨hhead l.now List.mem_cons_self, ih ?_⟩
    change ((w.step l).clock :: labels.map (·.now)).Pairwise (· ≤ ·)
    rw [clock_step]
    exact htail

/-- What holds of a fresh engine and is kept by every justified effect holds after every
run. -/
theorem invariant {P : World → Prop} (hinit : P .init)
    (hnext : ∀ w now effect, P w → w.clock ≤ now → Justified w.engine now effect →
      P (w.after now effect)) {w : World} (h : machine.Reachable w) : P w := by
  refine h.invariant hinit fun w l _ hw hl => ?_
  obtain ⟨effect, hjustified, -, hstep⟩ := step_effect w l
  change P (w.step l)
  rw [hstep]
  exact hnext w l.now effect hw hl hjustified

/-! ## A deployment to compute with -/

section Sample

def profileText (profile : CandidateProfile) : String :=
  jsonObject [("cthulhu_id", jsonText profile.cthulhuId.text), ("trusted", toString profile.trusted),
    ("council_memberships", jsonList (profile.councilMemberships.map fun id => jsonText id.text)),
    ("capability_tags", jsonList (profile.capabilityTags.map jsonText)),
    ("region", profile.region.elim "null" jsonText),
    ("latency_ms", profile.latencyMs.elim "null" toString),
    ("reputation_signals", jsonList (profile.reputationSignals.map fun signal =>
      jsonObject [("source", jsonText signal.source), ("value_bps", toString signal.valueBps),
        ("observed_at", toString signal.observedAt)]))]

def hopText (hop : ProvenanceHop) : String :=
  jsonObject [("item_id", jsonText hop.itemId.text), ("sender", jsonText hop.sender.text),
    ("recipient", jsonText hop.recipient.text), ("sent_at", toString hop.sentAt),
    ("local_policy_generation", toString hop.localPolicyGeneration),
    ("sender_profile_hash", jsonText hop.senderProfileHash),
    ("recipient_profile_hash", jsonText hop.recipientProfileHash)]

def provenanceText (campaignId : CampaignId) (payloadHash : String) (policyVersion : ℕ)
    (hops : List ProvenanceHop) : String :=
  jsonObject [("campaign_id", jsonText campaignId.text), ("payload_hash", jsonText payloadHash),
    ("policy_version", toString policyVersion), ("hops", jsonList (hops.map hopText))]

def sampleName : String := "tide"

def sampleSummary : String := "spread the word"

def samplePayloadText : String :=
  jsonObject [("type", jsonText "bounded_campaign"), ("name", jsonText sampleName),
    ("summary", jsonText sampleSummary)]

def sampleA : CthulhuId := ⟨"cthulhu_a", rfl⟩

def sampleB : CthulhuId := ⟨"cthulhu_b", by decide⟩

def sampleC : CthulhuId := ⟨"cthulhu_c", by decide⟩

def sampleCampaign : CampaignId := ⟨"propagation_1", by decide⟩

def sampleCouncil : CouncilId := ⟨"council_1", rfl⟩

def sampleFirst : PropagationItemId := ⟨"msg_1", by decide⟩

def sampleSecond : PropagationItemId := ⟨"msg_2", by decide⟩

def sampleAcknowledgement : AcknowledgementId := ⟨"ack_1", by decide⟩

def sampleOutcome : OutcomeId := ⟨"outcome_1", by decide⟩

/-- A trusted candidate with nothing else to its name. -/
def sampleProfile (id : CthulhuId) : CandidateProfile where
  cthulhuId := id
  trusted := true
  councilMemberships := []
  capabilityTags := []
  region := none
  latencyMs := none
  reputationSignals := []

def samplePayloadHash : String :=
  "sha256:051bd006d7e84d368b61daa0f1085cf96e66f9c9bbb0af9223bcc9c952fd1a0c"

def sampleHashA : String :=
  "sha256:cc050804f51119e7914a82d5c68e35a489127607940c2331ae74ba7263628752"

def sampleHashB : String :=
  "sha256:90f064c12650f9a0cea871705c51a4f24528fa2dfc5b5b751b3ea7beffcc1953"

def sampleHashC : String :=
  "sha256:180cfa9b7888eaedfa17f3eb620cbb247b56d4c329add6260e7ffd57e4167e56"

def sampleEvidence : String :=
  "sha256:cdbfc885477fbc846f96aff95188500c5591caea348fb326fe1824636a461aa1"

def sampleHop : ProvenanceHop :=
  ⟨sampleFirst, sampleA, sampleB, 10, 0, sampleHashA, sampleHashB⟩

/-- The second goes from B to C at 14, after one rule has been set. -/
def sampleNextHop : ProvenanceHop :=
  ⟨sampleSecond, sampleB, sampleC, 14, 1, sampleHashB, sampleHashC⟩

def sampleDigests : List (String × String) :=
  [(samplePayloadText, "051bd006d7e84d368b61daa0f1085cf96e66f9c9bbb0af9223bcc9c952fd1a0c"),
    (profileText (sampleProfile sampleA),
      "cc050804f51119e7914a82d5c68e35a489127607940c2331ae74ba7263628752"),
    (profileText (sampleProfile sampleB),
      "90f064c12650f9a0cea871705c51a4f24528fa2dfc5b5b751b3ea7beffcc1953"),
    (profileText (sampleProfile sampleC),
      "180cfa9b7888eaedfa17f3eb620cbb247b56d4c329add6260e7ffd57e4167e56"),
    (provenanceText sampleCampaign samplePayloadHash 1 [sampleHop],
      "22dc21b3bcf96ae243ec1bd1d3fe786e5d433ac2d377f0151d6014666e02f03b"),
    (provenanceText sampleCampaign samplePayloadHash 1 [sampleHop, sampleNextHop],
      "4f5148d04709a2973953ccc5708c4e7b021e599e18c50f22784c7c02ba00900f"),
    ("delivery:msg_1", "cdbfc885477fbc846f96aff95188500c5591caea348fb326fe1824636a461aa1")]

/-- The encodings of `serde_json` and the digests of the sample. -/
@[reducible] def sampleHashing : Hashing where
  payloadJson payload :=
    if payload = .boundedCampaign sampleName sampleSummary then .ok samplePayloadText
    else .error "not in the sample"
  profileJson profile := .ok (profileText profile)
  provenanceJson campaignId payloadHash policyVersion hops :=
    .ok (provenanceText campaignId payloadHash policyVersion hops)
  sha256 bytes := (sampleDigests.lookup bytes).getD ""

attribute [local instance] sampleHashing

def samplePolicy : PropagationPolicy where
  version := 1
  maxDepth := 4
  maxFanOut := 2
  perSenderRateLimit := 2
  rateWindowSeconds := 60
  visibility := .publicMetadata

def sampleClaim : OutcomeClaim where
  id := sampleOutcome
  campaignId := sampleCampaign
  itemId := sampleFirst
  acknowledgementId := sampleAcknowledgement
  contributor := sampleA
  beneficiary := sampleB
  outcome := .acknowledgedDownstreamDelivery
  evidenceHash := sampleEvidence
  occurredAt := 13

/-- A creates a campaign and sends its first message. -/
def sampleSent : List Label :=
  [⟨1, .registerCandidate (sampleProfile sampleA)⟩, ⟨1, .registerCandidate (sampleProfile sampleB)⟩,
    ⟨1, .registerCandidate (sampleProfile sampleC)⟩,
    ⟨1, .createCampaign sampleCampaign sampleCouncil sampleA
      (.boundedCampaign sampleName sampleSummary) .breadthFirst samplePolicy 1 1000⟩,
    ⟨10, .sendInitial sampleCampaign sampleFirst sampleA sampleB⟩]

/-- B accepts and acknowledges it, for which A is credited. -/
def sampleStart : List Label :=
  sampleSent ++ [⟨11, .respond sampleFirst sampleB true⟩,
    ⟨12, .acknowledge sampleFirst sampleAcknowledgement sampleB⟩,
    ⟨13, .recordOutcome sampleClaim safeOutcomeCredit⟩]

/-- `owner` blocks `blocked`, and B forwards the message to C. -/
def sampleForward (owner blocked : CthulhuId) : List Label :=
  [⟨13, .setBlocked owner blocked true⟩, ⟨14, .forward sampleFirst sampleSecond sampleB sampleC⟩]

def sampleRun (labels : List Label) : World :=
  labels.foldl World.step .init

theorem reachable_sampleRun {c : World → Label → Prop} {labels : List Label}
    (h : (machine.restrict c).Admits .init labels) :
    (machine.restrict c).Reachable (sampleRun labels) :=
  Machine.Reachable.init.run h

end Sample

end Cthuwu.Propagation
