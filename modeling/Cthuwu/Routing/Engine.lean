import Mathlib.Algebra.Ring.Int.Defs
import Mathlib.Data.Prod.Lex
import Cthuwu.Protocol.Tentacle

/-!
# Routing

A router drops the candidates that fail a hard requirement and gives each of the others one score,
a sum with a term for each of its preferences. It selects the first of the greatest score
(`route_selected`).
-/

namespace Cthuwu.Routing

open Council
open Protocol (HealthStatus)

variable {request : RoutingRequest} {candidates : List RouteCandidate} {now : ℕ}
  {decision : RoutingDecision} {candidate rival : RouteCandidate}

def maxCandidates : ℕ := 1024

def maxAdvertisedValues : ℕ := 64

/-- A normalized view of an advertised capability manifest. -/
structure RouteCandidate where
  cthulhuId : CthulhuId
  tentacleId : TentacleId
  incarnation : Incarnation
  endpoint : String
  health : HealthStatus
  ready : Bool
  modelClasses : Finset String
  tools : Finset String
  memoryModes : Finset String
  privacyProperties : Finset String
  protocolVersions : Finset ProtocolVersion
  localInference : Bool
  contextTokens : ℕ
  capacity : ℕ
  currentLoad : ℕ
  allowlisted : Bool
  registryAssociated : Bool
  selectedReputation : ℤ
  deriving DecidableEq

def u32Max : ℕ := 2 ^ 32 - 1

variable (c : RouteCandidate)

def RouteCandidate.loadPercent : ℕ :=
  if c.capacity = 0 then 100
  else min (min (c.currentLoad * 100) u32Max / c.capacity) 100

/-! ## Hard requirements -/

/-- The messages of the checks that fail. -/
def failures (checks : List (Bool × String)) : List String :=
  (checks.filter Prod.fst).map Prod.snd

/-- Advertised labels beyond what is allowed. -/
def badLabels (values : Finset String) : Bool :=
  maxAdvertisedValues < values.card || ∃ value ∈ values, isCapabilityLabel value = false

def badEndpoint (endpoint : String) : Bool :=
  512 < endpoint.utf8ByteSize || isBlank endpoint ||
    !"xmtp:".toList.isPrefixOf endpoint.toList || endpoint.toList.any isControl

def badCapacity : Bool :=
  c.capacity = 0 || 1000000 < c.capacity || c.capacity < c.currentLoad ||
    100000000 < c.contextTokens || !(-1000 ≤ c.selectedReputation && c.selectedReputation ≤ 1000)

/-- The `hard_failures` of a candidate. -/
def hardFailures (request : RoutingRequest) (c : RouteCandidate) : List String :=
  failures
    [(badLabels c.modelClasses, "advertised model capabilities are invalid or unbounded"),
      (badLabels c.tools, "advertised tools are invalid or unbounded"),
      (badLabels c.memoryModes, "advertised memory modes are invalid or unbounded"),
      (badLabels c.privacyProperties, "advertised privacy properties are invalid or unbounded"),
      (16 < c.protocolVersions.card || ∃ version ∈ c.protocolVersions, version ≠ .first,
        "advertised protocol versions are invalid or unbounded"),
      (c.health ≠ .healthy || !c.ready, "Tentacle is not healthy and ready"),
      (badEndpoint c.endpoint, "endpoint is invalid"),
      (badCapacity c, "capacity advertisement is invalid"),
      (request.maximumLoadPercent < c.loadPercent, "load exceeds the request maximum"),
      (request.requirements.requireLocalInference && !c.localInference,
        "local inference is required"),
      (c.contextTokens < request.requirements.minimumContextTokens, "context limit is too small"),
      (¬request.requirements.modelClasses ⊆ c.modelClasses, "missing required model capability"),
      (¬request.requirements.tools ⊆ c.tools, "missing required tool"),
      (¬request.requirements.memoryModes ⊆ c.memoryModes, "missing required memory mode"),
      (¬request.requirements.privacyProperties ⊆ c.privacyProperties,
        "missing required privacy property"),
      (¬request.requirements.protocolVersions ⊆ c.protocolVersions,
        "protocol version is incompatible"),
      (request.trustPolicy.requireAllowlisted && !c.allowlisted,
        "allowlist membership is required"),
      (request.trustPolicy.requireRegistryAssociation && !c.registryAssociated,
        "verified registry association is required"),
      (request.trustPolicy.minimumReputation.any (c.selectedReputation < ·),
        "selected reputation signal is below policy")]

/-! ## Scores -/

/-- The headroom that counts. -/
def RouteCandidate.headroom : ℕ :=
  min (c.capacity - c.currentLoad) 10000

/-- A term of the score, with what it is explained by. -/
def term (holds : Bool) (score : ℤ) (reason : String) : ℤ × List String :=
  if holds then (score, [reason]) else (0, [])

/-- The terms of a score, in the order in which they are added. -/
def terms (request : RoutingRequest) (c : RouteCandidate) : List (ℤ × List String) :=
  [(0, ["all hard requirements satisfied"]),
    if request.explicitTentacle = some c.tentacleId then
      (1000000000000, ["explicit user Tentacle choice"])
    else term (request.explicitCthulhu = some c.cthulhuId) 500000000000
      "explicit user Cthulhu choice",
    term (request.affinityTentacle = some c.tentacleId) 10000000000 "valid session affinity",
    term (request.homeTentacle = some c.tentacleId) 1000000000 "healthy home Tentacle",
    term (c.tentacleId ∈ request.userOwnedTentacles) 100000000 "user-owned Tentacle",
    (c.headroom * 100000, ["capacity headroom " ++ c.headroom.repr]),
    (min c.protocolVersions.card 16 * 10000, []),
    term c.registryAssociated 5000 "verified registry association",
    term c.allowlisted 5000 "operator allowlist",
    (max (-1000) (min c.selectedReputation 1000) * 10, []),
    ((100 - c.loadPercent : ℕ), ["current load " ++ c.loadPercent.repr ++ "%"])]

def evaluateCandidate (request : RoutingRequest) (c : RouteCandidate) : CandidateExplanation :=
  let hardFailures := hardFailures request c
  if hardFailures ≠ [] then
    { cthulhuId := c.cthulhuId, tentacleId := c.tentacleId, eligible := false, score := 0,
      reasons := hardFailures }
  else
    { cthulhuId := c.cthulhuId, tentacleId := c.tentacleId, eligible := true,
      score := ((terms request c).map Prod.fst).sum
      reasons := (terms request c).flatMap Prod.snd }

/-! ## Routes -/

/-- Explanations are sorted by this : the eligible ones first, then the greater scores, then the
identifiers. -/
def CandidateExplanation.rank (e : CandidateExplanation) : Bool ×ₗ ℤ ×ₗ CthulhuId ×ₗ TentacleId :=
  toLex (!e.eligible, toLex (-e.score, toLex (e.cthulhuId, e.tentacleId)))

/-- The pair by which candidates are told apart. -/
def RouteCandidate.identity : CthulhuId × TentacleId :=
  (c.cthulhuId, c.tentacleId)

def explanations (request : RoutingRequest) (candidates : List RouteCandidate) :
    List CandidateExplanation :=
  (candidates.map (evaluateCandidate request)).insertionSort fun left right =>
    left.rank ≤ right.rank

def route (request : RoutingRequest) (candidates : List RouteCandidate) (now : ℕ) :
    Except RoutingError RoutingDecision := do
  request.validate now
  failIf (maxCandidates < candidates.length) .tooManyCandidates
  failIf (¬(candidates.map RouteCandidate.identity).Nodup) .duplicateCandidate
  let selected ← okOr ((explanations request candidates).find? (·.eligible)) .noEligibleCandidate
  -- an explanation has its candidate, so this one is never missing
  let candidate ← okOr
    (candidates.find? fun c => c.identity = (selected.cthulhuId, selected.tentacleId))
    .noEligibleCandidate
  return {
    requestId := request.requestId
    selectedCthulhu := candidate.cthulhuId
    selectedTentacle := candidate.tentacleId
    selectedIncarnation := candidate.incarnation
    endpoint := candidate.endpoint
    explanation := explanations request candidates }

/-! ## The selected candidate -/

theorem failures_eq_nil {checks : List (Bool × String)} :
    failures checks = [] ↔ ∀ check ∈ checks, check.1 = false := by
  rw [failures, List.map_eq_nil_iff, List.filter_eq_nil_iff]
  simp only [Bool.not_eq_true]

/-- What is found first in a sorted list is no greater than anything else like it. -/
theorem find?_rel {α : Type} {r : α → α → Prop} {p : α → Bool} {l : List α} {a x : α}
    (hl : l.Pairwise r) (h : l.find? p = some a) (hx : x ∈ l) (hp : p x = true) : x = a ∨ r a x := by
  induction l with
  | nil => cases h
  | cons y l ih =>
    rw [List.pairwise_cons] at hl
    by_cases hy : p y = true
    · rw [List.find?_cons_of_pos hy] at h
      obtain rfl := Option.some.inj h
      exact (List.mem_cons.mp hx).imp_right (hl.1 x)
    · rw [List.find?_cons_of_neg hy] at h
      rcases List.mem_cons.mp hx with rfl | hx
      · exact absurd hp hy
      · exact ih hl.2 h hx

theorem evaluateCandidate_identity : ((evaluateCandidate request candidate).cthulhuId,
    (evaluateCandidate request candidate).tentacleId) = candidate.identity := by
  unfold evaluateCandidate
  dsimp only
  split_ifs <;> rfl

theorem evaluateCandidate_eligible : (evaluateCandidate request candidate).eligible = true ↔
    hardFailures request candidate = [] := by
  unfold evaluateCandidate
  dsimp only
  split_ifs with h
  · exact iff_of_false (by simp) h
  · exact iff_of_true rfl (not_not.mp h)

def RouteCandidate.Selected (decision : RoutingDecision) : Prop :=
  decision.selectedCthulhu = c.cthulhuId ∧ decision.selectedTentacle = c.tentacleId ∧
    decision.selectedIncarnation = c.incarnation ∧ decision.endpoint = c.endpoint

/-- The selected candidate meets every hard requirement, and its explanation is the first of those
that do. -/
theorem route_selected (h : route request candidates now = .ok decision) :
    (candidates.map RouteCandidate.identity).Nodup ∧ ∃ c ∈ candidates, c.Selected decision ∧
      hardFailures request c = [] ∧ ∀ rival ∈ candidates, hardFailures request rival = [] →
        (evaluateCandidate request c).rank ≤ (evaluateCandidate request rival).rank := by
  simp only [route, except_bind_ok, exists_unit, failIf_ok, okOr_ok, not_not, except_pure_ok] at h
  obtain ⟨-, -, hnodup, selected, hselected, c, hc, rfl⟩ := h
  have hmem := List.mem_of_find?_eq_some hc
  have hfound := List.find?_some hc
  have hidentity : c.identity = (selected.cthulhuId, selected.tentacleId) :=
    of_decide_eq_true hfound
  obtain ⟨d, hd, rfl⟩ := List.mem_map.mp
    ((List.mem_insertionSort _).mp (List.mem_of_find?_eq_some hselected))
  rw [evaluateCandidate_identity] at hidentity
  obtain rfl := List.inj_on_of_nodup_map hnodup hmem hd hidentity
  refine ⟨hnodup, c, hmem, ⟨rfl, rfl, rfl, rfl⟩,
    (evaluateCandidate_eligible).mp (List.find?_some hselected), fun rival hrival heligible => ?_⟩
  have hsorted := List.pairwise_insertionSort
    (fun left right : CandidateExplanation => left.rank ≤ right.rank)
    (candidates.map (evaluateCandidate request))
  rcases find?_rel hsorted hselected ((List.mem_insertionSort _).mpr (List.mem_map_of_mem hrival))
    ((evaluateCandidate_eligible).mpr heligible) with heq | hle
  · rw [heq]
  · exact hle

end Cthuwu.Routing
