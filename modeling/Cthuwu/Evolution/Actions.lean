import Mathlib.Data.List.GetD
import Cthuwu.Council.Text
import Cthuwu.Lib.Maps

/-!
# Lifecycle actions

What a Tentacle asks its executors to do : burn tokens to survive, reward an acolyte, be absorbed,
spawn a child or shut down. An action is checked before it is kept (`validateLifecycleAction`) and
is named by the hash of its encoding (`lifecycleActionId`), so that the same action is never kept
twice. Addresses and configuration identities are words, zero where the code compares with zeros.
-/

namespace Cthuwu.Evolution

open Council

inductive EvolutionError
  | invalid (message : String)
  | unauthorized (message : String)
  | notFound (id : String)
  | conflict (message : String)
  | limit (name : String)
  | nature (message : String)
  | json
  deriving DecidableEq

abbrev Address := BitVec 160

def u64Max : ℕ := 18446744073709551615

def u32Max : ℕ := 4294967295

/-! ## Text -/

def maxIdBytes : ℕ := 128

/-- Letters, digits and four marks. -/
def isSafeId (value : String) : Bool :=
  value ≠ "" && value.utf8ByteSize ≤ maxIdBytes &&
    value.toList.all fun c => c.isAlphanum || ['-', '_', '.', ':'].contains c

def validateId (value description : String) : Except EvolutionError Unit :=
  failIf (!isSafeId value)
    (.invalid (description ++ " is empty, oversized, or contains unsafe characters"))

/-- Some lowercase hexadecimal digits. -/
def isHexOf (digits : ℕ) (value : String) : Bool :=
  value.toList.length = digits && value.toList.all isLowerHex

def validateSha256 (value description : String) : Except EvolutionError Unit :=
  failIf (!isHexOf 64 value) (.invalid (description ++ " must be lowercase SHA-256 hex"))

theorem validateId_ok {value description : String} :
    validateId value description = .ok () ↔ isSafeId value = true := by
  unfold validateId
  rw [failIf_ok, Bool.not_eq_true', Bool.not_eq_false]

theorem validateSha256_ok {value description : String} :
    validateSha256 value description = .ok () ↔ isHexOf 64 value = true := by
  unfold validateSha256
  rw [failIf_ok, Bool.not_eq_true', Bool.not_eq_false]

/-! ## Amounts -/

/-- The largest word, `2 ^ 256 - 1`. -/
def u256MaxDecimal : String :=
  "115792089237316195423570985008687907853269984665640564039457584007913129639935"

/-- A decimal number is larger than a word. -/
def overflowsU256 (raw : String) : Bool :=
  u256MaxDecimal.length < raw.length || (raw.length = u256MaxDecimal.length && u256MaxDecimal < raw)

structure ExactTokenAmount where
  totalSupplyWhole : ℕ
  tokenDecimals : ℕ
  basisPoints : ℕ
  rawAmount : String
  deriving DecidableEq

structure WholeTokenAmount where
  wholeTokens : ℕ
  tokenDecimals : ℕ
  rawAmount : String
  deriving DecidableEq

def zeros (n : ℕ) : String :=
  String.ofList (List.replicate n '0')

def exactWholeTokenAmount (wholeTokens tokenDecimals : ℕ) : Except EvolutionError String := do
  failIf (wholeTokens = 0 ∨ 77 < tokenDecimals)
    (.invalid "whole-token amount requires positive units and decimals <= 77")
  let raw := toString wholeTokens ++ zeros tokenDecimals
  failIf (overflowsU256 raw) (.limit "whole-token transfer amount")
  return raw

def validateWholeTokenAmount (amount : WholeTokenAmount) : Except EvolutionError Unit := do
  failIf (amount.wholeTokens = 0 ∨ 77 < amount.tokenDecimals)
    (.invalid "whole-token transfer amount requires positive units and decimals <= 77")
  let expected ← exactWholeTokenAmount amount.wholeTokens amount.tokenDecimals
  failIf (amount.rawAmount ≠ expected)
    (.invalid "whole-token transfer amount does not match its canonical base-unit formula")

/-- `floor(totalSupplyWhole * 10 ^ tokenDecimals * basisPoints / 10000)`, in decimal. -/
def exactRawTokenAmount (totalSupplyWhole tokenDecimals basisPoints : ℕ) :
    Except EvolutionError String := do
  failIf (totalSupplyWhole = 0 ∨ 77 < tokenDecimals ∨ ¬(1 ≤ basisPoints ∧ basisPoints ≤ 10000))
    (.invalid ("raw token amount requires positive supply, decimals <= 77, " ++
      "and 1..=10000 basis points"))
  let numerator := totalSupplyWhole * basisPoints
  let raw :=
    if 4 ≤ tokenDecimals then toString numerator ++ zeros (tokenDecimals - 4)
    else toString (numerator / 10 ^ (4 - tokenDecimals))
  failIf (raw = "0") (.invalid "survival burn formula rounds to zero base units")
  failIf (overflowsU256 raw) (.limit "survival token amount")
  return raw

def validateExactTokenAmount (amount : ExactTokenAmount) : Except EvolutionError Unit := do
  failIf (amount.totalSupplyWhole = 0 ∨ 77 < amount.tokenDecimals ∨ amount.basisPoints = 0 ∨
    10000 < amount.basisPoints)
    (.invalid "exact token amount formula has invalid supply, decimals, or basis points")
  let expected ←
    exactRawTokenAmount amount.totalSupplyWhole amount.tokenDecimals amount.basisPoints
  failIf (amount.rawAmount ≠ expected)
    (.invalid "exact token amount does not match its canonical base-unit formula")

/-! ## Natures -/

inductive SacredBan
  | recruitment
  | spawning
  | governance
  | profit
  | memorySharing
  deriving DecidableEq

structure TentacleNature where
  schemaVersion : ℕ
  natureId : String
  generation : ℕ
  parentNatureId : Option String
  engagement : ℕ
  growth : ℕ
  wealth : ℕ
  influence : ℕ
  cooperation : ℕ
  stability : ℕ
  transparency : ℕ
  sacredBan : SacredBan
  deriving DecidableEq

def natureSchemaVersion : ℕ := 1

def validateNatureId (value : String) : Except EvolutionError Unit :=
  failIf (!isHexOf 32 value)
    (.nature "Nature identifier must be 32 lowercase hexadecimal characters")

/-- The sliders with their names, in the order of `NatureTrait::ALL`. -/
def TentacleNature.traits (n : TentacleNature) : List (String × ℕ) :=
  [("engagement", n.engagement), ("growth", n.growth), ("wealth", n.wealth),
    ("influence", n.influence), ("cooperation", n.cooperation), ("stability", n.stability),
    ("transparency", n.transparency)]

/-- A founder names no parent, and everyone else names another Nature. -/
def TentacleNature.validateLineage (n : TentacleNature) : Except EvolutionError Unit :=
  match n.generation, n.parentNatureId with
  | 0, none => .ok ()
  | 0, some _ => .error (.nature "founder Nature must not identify a parent")
  | _ + 1, none => .error (.nature "non-founder Nature must identify its parent")
  | _ + 1, some parentId => do
    validateNatureId parentId
    failIf (parentId = n.natureId) (.nature "Nature cannot identify itself as its parent")

def TentacleNature.validate (n : TentacleNature) : Except EvolutionError Unit := do
  failIf (n.schemaVersion ≠ natureSchemaVersion)
    (.nature ("unsupported Nature schema version " ++ toString n.schemaVersion))
  validateNatureId n.natureId
  n.validateLineage
  n.traits.forM fun (name, value) =>
    failIf (100 < value) (.nature ("Nature trait " ++ name ++ " must be between 0 and 100"))

/-! ## Actions -/

structure SurvivalSpend where
  tentacleId : String
  judgmentId : String
  attempt : ℕ
  graceEndsAtMs : ℕ
  expenditureBasisPoints : ℕ
  chainId : ℕ
  tokenContract : Address
  treasuryAddress : Address
  burnDestination : Address
  configurationIdentity : BitVec 256
  exactAmount : ExactTokenAmount

/-- What the two kinds of reward pay, and to whom. -/
structure RewardBinding where
  chainId : ℕ
  tokenContract : Address
  treasuryAddress : Address
  acolyteAddress : Address
  configurationIdentity : BitVec 256
  exactAmount : WholeTokenAmount

inductive AcolyteContributionKind
  | name
  | hopes
  | resources
  | needs
  | missionIdea

structure SpawnPlan where
  parentId : String
  childId : String
  judgmentId : String
  childNature : TentacleNature
  authorizationActorId : String
  authorizationEventIdSha256 : String

inductive LifecycleAction
  | spendForSurvival (spend : SurvivalSpend)
  | rewardVeniceKey (tentacleId provisionEventIdSha256 : String) (binding : RewardBinding)
  | rewardAcolyteContribution (tentacleId contributionEventIdSha256 : String)
      (contributionKind : AcolyteContributionKind) (informationHungerBasisPoints : ℕ)
      (binding : RewardBinding)
  | absorb (sourceId targetId judgmentId : String)
  | spawn (plan : SpawnPlan)
  | shutdown (tentacleId judgmentId : String) (afterActionId : Option String)

/-- The hashes that the lifecycle takes from other crates. -/
class Hashing where
  /-- SHA-256 of a domain, a zero byte and the JSON encoding of an action. -/
  actionSha256 : String → LifecycleAction → Except Unit (BitVec 256)
  /-- SHA-256 of the JSON encoding of a Nature. -/
  natureSha256 : TentacleNature → Except Unit (BitVec 256)

def validateSurvivalSpend (spend : SurvivalSpend) : Except EvolutionError Unit := do
  validateId spend.tentacleId "survival Tentacle ID"
  validateSha256 spend.judgmentId "survival judgment ID"
  failIf (spend.expenditureBasisPoints = 0 ∨ 10000 < spend.expenditureBasisPoints)
    (.invalid "survival expenditure must be within 1..=10000 basis points")
  failIf (spend.chainId = 0 ∨ spend.tokenContract = 0 ∨ spend.treasuryAddress = 0 ∨
    spend.configurationIdentity = 0 ∨ spend.graceEndsAtMs = 0)
    (.invalid "survival spend is missing its bound chain, token, treasury, or configuration")
  failIf (spend.burnDestination ≠ 0)
    (.invalid "survival burn destination must be the canonical zero address")
  validateExactTokenAmount spend.exactAmount
  failIf (spend.exactAmount.basisPoints ≠ spend.expenditureBasisPoints)
    (.invalid "survival spend amount disagrees with its expenditure basis points")

/-- Base. -/
def baseChainId : ℕ := 8453

def validateRewardBinding (name : String) (binding : RewardBinding) :
    Except EvolutionError Unit := do
  failIf (binding.chainId ≠ baseChainId ∨ binding.tokenContract = 0 ∨ binding.treasuryAddress = 0 ∨
    binding.acolyteAddress = 0 ∨ binding.treasuryAddress = binding.acolyteAddress ∨
    binding.configurationIdentity = 0)
    (.invalid (name ++ " is missing its exact Base token, treasury, acolyte, " ++
      "or configuration binding"))
  validateWholeTokenAmount binding.exactAmount

def validateSpawnPlan (plan : SpawnPlan) : Except EvolutionError Unit := do
  validateId plan.parentId "spawn parent ID"
  validateId plan.childId "spawn child ID"
  validateSha256 plan.judgmentId "spawn judgment ID"
  validateId plan.authorizationActorId "spawn authorization actor ID"
  validateSha256 plan.authorizationEventIdSha256 "spawn authorization event ID digest"
  plan.childNature.validate
  failIf (plan.childNature.parentNatureId = none ∨ plan.childNature.generation = 0)
    (.invalid "spawn action child Nature must contain inherited lineage metadata")

def validateLifecycleAction : LifecycleAction → Except EvolutionError Unit
  | .spendForSurvival spend => validateSurvivalSpend spend
  | .rewardVeniceKey tentacleId eventId binding => do
    validateId tentacleId "Venice-key reward Tentacle ID"
    validateSha256 eventId "Venice-key provision event ID digest"
    validateRewardBinding "Venice-key reward" binding
  | .rewardAcolyteContribution tentacleId eventId _ hunger binding => do
    validateId tentacleId "contribution reward Tentacle ID"
    validateSha256 eventId "contribution event ID digest"
    failIf (hunger < 10 ∨ 100 < hunger)
      (.invalid "contribution reward hunger must be between 0.1% and 1%")
    validateRewardBinding "contribution reward" binding
  | .absorb sourceId targetId judgmentId => do
    validateId sourceId "absorption source ID"
    validateId targetId "absorption target ID"
    validateSha256 judgmentId "absorption death judgment ID"
    failIf (sourceId = targetId) (.conflict "a Tentacle cannot absorb itself")
  | .spawn plan => validateSpawnPlan plan
  | .shutdown tentacleId judgmentId afterActionId => do
    validateId tentacleId "shutdown Tentacle ID"
    validateSha256 judgmentId "shutdown death judgment ID"
    afterActionId.toList.forM fun actionId =>
      validateSha256 actionId "shutdown dependency action ID"

/-! ## Names of actions -/

def hexDigits : List Char :=
  ['0', '1', '2', '3', '4', '5', '6', '7', '8', '9', 'a', 'b', 'c', 'd', 'e', 'f']

def hexDigit (n : ℕ) : Char :=
  hexDigits.getD n '0'

def hexText (digest : BitVec 256) : String :=
  String.ofList ((List.range 64).map fun i => hexDigit (digest.toNat / 16 ^ (63 - i) % 16))

theorem isLowerHex_hexDigit (n : ℕ) : isLowerHex (hexDigit n) = true := by
  have hdigits : ∀ c ∈ hexDigits, isLowerHex c = true := List.all_eq_true.mp (by decide)
  unfold hexDigit
  rcases lt_or_ge n hexDigits.length with h | h
  · rw [List.getD_eq_getElem _ _ h]
    exact hdigits _ (List.getElem_mem h)
  · rw [List.getD_eq_default _ _ h]
    decide

theorem isHexOf_hexText (digest : BitVec 256) : isHexOf 64 (hexText digest) = true := by
  unfold isHexOf hexText
  rw [String.toList_ofList, List.length_map, List.length_range, List.all_map]
  simp only [decide_true, Bool.true_and, List.all_eq_true]
  exact fun i _ => isLowerHex_hexDigit _

variable [Hashing]

def lifecycleActionId (action : LifecycleAction) : Except EvolutionError String := do
  let digest ← (Hashing.actionSha256 "cthuwu-lifecycle-action-v1" action).mapError fun _ => .json
  return hexText digest

def TentacleNature.fingerprint (n : TentacleNature) : Except EvolutionError String := do
  n.validate
  let digest ← (Hashing.natureSha256 n).mapError fun _ =>
    EvolutionError.nature "canonicalizing Nature"
  return hexText digest

theorem isHexOf_lifecycleActionId {action : LifecycleAction} {id : String}
    (h : lifecycleActionId action = .ok id) : isHexOf 64 id = true := by
  unfold lifecycleActionId at h
  simp only [except_bind_ok, except_pure_ok] at h
  obtain ⟨digest, -, rfl⟩ := h
  exact isHexOf_hexText digest

end Cthuwu.Evolution
