import Mathlib.Data.Finset.Card
import Mathlib.Data.Int.Notation
import Cthuwu.Council.Text
import Cthuwu.Lib.Fallible

/-!
# Routing requests and decisions

What a caller asks of a route with the checks a request makes of itself, and what a router has
decided. Times are `u64` seconds, written as naturals.
-/

namespace Cthuwu.Routing

open Council

def maxRequirements : ℕ := 64

inductive RoutingError
  | invalidRequest (what : String)
  | expired
  | tooManyCandidates
  | duplicateCandidate
  | noEligibleCandidate
  deriving DecidableEq

structure ProtocolVersion where
  major : ℕ
  minor : ℕ
  deriving DecidableEq

/-- `V1_0`, the only supported version. -/
def ProtocolVersion.first : ProtocolVersion :=
  ⟨1, 0⟩

/-- `valid_capability_label`. -/
def isCapabilityLabel (value : String) : Bool :=
  value ≠ "" && value.toList.length ≤ 128 &&
    value.toList.all fun c => c.isLower || c.isDigit || ['-', '_', '.', ':'].contains c

structure CapabilityRequirements where
  modelClasses : Finset String
  tools : Finset String
  memoryModes : Finset String
  privacyProperties : Finset String
  protocolVersions : Finset ProtocolVersion
  requireLocalInference : Bool
  minimumContextTokens : ℕ

/-- No more labels than are allowed, all of them well formed. -/
def validateLabels (collection : Finset String) : Except RoutingError Unit :=
  failIf (maxRequirements < collection.card ∨ ∃ value ∈ collection, isCapabilityLabel value = false)
    (.invalidRequest "capability requirement is invalid or unbounded")

def CapabilityRequirements.validate (r : CapabilityRequirements) : Except RoutingError Unit := do
  [r.modelClasses, r.tools, r.memoryModes, r.privacyProperties].forM validateLabels
  failIf (16 < r.protocolVersions.card) (.invalidRequest "too many protocol requirements")
  failIf ((∃ version ∈ r.protocolVersions, version ≠ .first) ∨ 100000000 < r.minimumContextTokens)
    (.invalidRequest "protocol or context requirement is outside its bounds")

structure TrustPolicy where
  requireAllowlisted : Bool
  requireRegistryAssociation : Bool
  minimumReputation : Option ℤ

structure RoutingRequest where
  requestId : RequestId
  sessionId : SessionId
  requirements : CapabilityRequirements
  explicitCthulhu : Option CthulhuId
  explicitTentacle : Option TentacleId
  affinityTentacle : Option TentacleId
  homeTentacle : Option TentacleId
  userOwnedTentacles : Finset TentacleId
  trustPolicy : TrustPolicy
  maximumLoadPercent : ℕ
  expiresAt : ℕ

def RoutingRequest.validate (r : RoutingRequest) (now : ℕ) : Except RoutingError Unit := do
  r.requirements.validate
  failIf (r.expiresAt ≤ now) .expired
  failIf (100 < r.maximumLoadPercent ∨ 128 < r.userOwnedTentacles.card)
    (.invalidRequest "routing limits are outside their bounds")
  failIf (r.trustPolicy.minimumReputation.any fun value => ¬(-1000 ≤ value ∧ value ≤ 1000))
    (.invalidRequest "reputation requirement is outside its provenance scale")

structure CandidateExplanation where
  cthulhuId : CthulhuId
  tentacleId : TentacleId
  eligible : Bool
  score : ℤ
  reasons : List String
  deriving DecidableEq

structure RoutingDecision where
  requestId : RequestId
  selectedCthulhu : CthulhuId
  selectedTentacle : TentacleId
  selectedIncarnation : Incarnation
  endpoint : String
  explanation : List CandidateExplanation
  deriving DecidableEq

end Cthuwu.Routing
