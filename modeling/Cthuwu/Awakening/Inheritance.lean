import Cthuwu.Awakening.Action
import Cthuwu.Lib.Fallible
import Mathlib.Data.Int.CardIntervalMod

/-!
# Inherited Natures

A child's sliders are drawn from the bytes of the system's random source. A number below a bound is
the remainder of the first candidate within the bound's zone, the multiples of the bound that four
bytes can hold : so every remainder has as many candidates as any other (`card_candidates`). Each
slider is drawn once, and one of them is drawn again or set to the far end, so a child stays in the
band of its mutation whatever the bytes are (`inherit_in_band`).
-/

namespace Cthuwu.Awakening

open Council Evolution Fallible

/-! ## Random numbers -/

/-- An operation on the bytes that the random source has left to give. -/
abbrev Draw := Fallible String (List UInt8)

def natureIdBytes : ℕ := 16

/-- `getrandom::fill`. -/
def fill (count : ℕ) (context : String) : Draw (List UInt8) := do
  let source ← get
  failIf (source.length < count) context
  set (source.drop count)
  return source.take count

/-- `u32::from_le_bytes`. -/
def fromLeBytes (bytes : List UInt8) : ℕ :=
  bytes.foldr (fun byte value => byte.toNat + 256 * value) 0

def zone (upperExclusive : ℕ) : ℕ :=
  u32Max - u32Max % upperExclusive

/-- Candidates are drawn until one is in the zone. -/
def drawCandidate (zone : ℕ) : List UInt8 → Except String ℕ × List UInt8
  | a :: b :: c :: d :: rest =>
    if fromLeBytes [a, b, c, d] < zone then (.ok (fromLeBytes [a, b, c, d]), rest)
    else drawCandidate zone rest
  | rest => (.error "generating Nature randomness", rest)

def secureUniform (upperExclusive : ℕ) : Draw ℕ := do
  failIf (upperExclusive = 0) "random range must not be empty"
  let candidate ← (drawCandidate (zone upperExclusive) : Draw ℕ)
  return candidate % upperExclusive

def randomSlider : Draw ℕ :=
  secureUniform 101

def randomNatureId : Draw String := do
  let bytes ← fill natureIdBytes "generating Nature identifier"
  return String.ofList (bytes.flatMap fun byte => hexOf 2 byte.toNat)

/-- The sum is clamped to the range of a slider. -/
def vary (maximumDelta value : ℕ) : Draw ℕ := do
  let delta ← secureUniform (maximumDelta * 2 + 1)
  return (max 0 (min 100 ((value : ℤ) + ((delta : ℤ) - maximumDelta)))).toNat

def forceDistance (value minimumDelta maximumDelta : ℕ) : Draw ℕ := do
  let delta := minimumDelta + (← secureUniform (maximumDelta - minimumDelta + 1))
  return if value ≤ 50 then min (min (value + delta) 255) 100 else value - delta

section

variable {bound r value value' : ℕ} {source source' : List UInt8}

/-- The first candidate in the zone decides. -/
theorem exec_secureUniform (hbound : 0 < bound) : (secureUniform bound).exec source =
    ((drawCandidate (zone bound) source).1.map (· % bound),
      (drawCandidate (zone bound) source).2) := by
  have hsome : failIf (bound = 0) "random range must not be empty" = .ok () :=
    failIf_ok.mpr hbound.ne'
  have hdrawn : exec (show Draw ℕ from drawCandidate (zone bound)) source =
    drawCandidate (zone bound) source := rfl
  unfold secureUniform
  rw [hsome, exec_lift_bind]
  dsimp only
  rw [exec_bind, hdrawn]
  rcases drawCandidate (zone bound) source with ⟨_ | _, _⟩ <;> rfl

theorem secureUniform_lt (hbound : 0 < bound)
    (h : (secureUniform bound).exec source = (.ok r, source')) : r < bound := by
  rw [exec_secureUniform hbound] at h
  rcases hdrawn : drawCandidate (zone bound) source with ⟨_ | candidate, rest⟩
  · rw [hdrawn] at h
    cases h
  · rw [hdrawn] at h
    cases h
    exact Nat.mod_lt _ hbound

/-- As many candidates give one remainder as any other. -/
theorem card_candidates (hr : r < bound) : ((Finset.range (2 ^ 32)).filter fun candidate =>
    candidate < zone bound ∧ candidate % bound = r).card = u32Max / bound := by
  have hbound : 0 < bound := by omega
  have hzone : zone bound = bound * (u32Max / bound) := by
    have := Nat.div_add_mod u32Max bound
    unfold zone
    omega
  have hfilter : ((Finset.range (2 ^ 32)).filter fun candidate =>
      candidate < zone bound ∧ candidate % bound = r) =
        (Finset.range (zone bound)).filter (· ≡ r [MOD bound]) := by
    ext candidate
    have hle : zone bound ≤ u32Max := Nat.sub_le _ _
    simp only [Finset.mem_filter, Finset.mem_range, Nat.ModEq, Nat.mod_eq_of_lt hr]
    unfold u32Max at hle
    omega
  rw [hfilter, ← Nat.count_eq_card_filter_range, Nat.count_modEq_card _ hbound, hzone,
    Nat.mul_mod_right, Nat.mul_div_cancel_left _ hbound]
  simp

theorem vary_ok {maximumDelta : ℕ} (hvalue : value ≤ 100)
    (h : (vary maximumDelta value).exec source = (.ok value', source')) :
    value' ≤ value + maximumDelta ∧ value ≤ value' + maximumDelta := by
  obtain ⟨delta, middle, hdelta, hresult⟩ := bind_ok.mp h
  have hlt := secureUniform_lt (Nat.succ_pos _) hdelta
  cases hresult
  omega

/-- A slider that is drawn again moves, and stays in the range of a slider. -/
theorem forceDistance_ok {minimumDelta maximumDelta : ℕ} (hvalue : value ≤ 100)
    (hmaximum : maximumDelta ≤ 50) (hminimum : minimumDelta ≤ maximumDelta)
    (h : (forceDistance value minimumDelta maximumDelta).exec source = (.ok value', source')) :
    value' ≤ value + maximumDelta ∧ value ≤ value' + maximumDelta ∧
      (value + minimumDelta ≤ value' ∨ value' + minimumDelta ≤ value) := by
  obtain ⟨delta, middle, hdelta, hresult⟩ := bind_ok.mp h
  have hlt := secureUniform_lt (Nat.succ_pos _) hdelta
  cases hresult
  split_ifs <;> omega

end

/-! ## Children -/

def allBans : List SacredBan :=
  [.recruitment, .spawning, .governance, .profit, .memorySharing]

def banIndex : SacredBan → ℕ
  | .recruitment => 0
  | .spawning => 1
  | .governance => 2
  | .profit => 3
  | .memorySharing => 4

def banFromIndex (index : ℕ) : Except String SacredBan :=
  okOr allBans[index]? "Sacred Ban index is out of range"

def randomOtherThan (ban : SacredBan) : Draw SacredBan := do
  let offset := (← secureUniform (allBans.length - 1)) + 1
  banFromIndex ((banIndex ban + offset) % allBans.length)

inductive MutationMode
  | close
  | drift
  | radical

def resample (f : ℕ → Draw ℕ) (traits : List NatureTrait) (nature : TentacleNature) :
    Draw TentacleNature :=
  traits.foldlM (fun child natureTrait => do
    return setValue child (← f (natureValue child natureTrait)) natureTrait) nature

/-- The slider that is drawn again. -/
def drawAnchor : Draw NatureTrait := do
  okOr NatureTrait.all[← secureUniform NatureTrait.all.length]? "index out of bounds"

def mutate (parent child : TentacleNature) : MutationMode → Draw TentacleNature
  | .close => resample (vary 10) NatureTrait.all child
  | .drift => do
    let child ← resample (vary 35) NatureTrait.all child
    let anchor ← drawAnchor
    let child := setValue child (← forceDistance (natureValue parent anchor) 11 35) anchor
    if (← secureUniform 2) = 1 then
      return { child with sacredBan := ← randomOtherThan parent.sacredBan }
    return child
  | .radical => do
    let child ← resample (fun _ => randomSlider) NatureTrait.all child
    let anchor ← drawAnchor
    let child := setValue child (if natureValue parent anchor ≤ 50 then 100 else 0) anchor
    return { child with sacredBan := ← randomOtherThan parent.sacredBan }

/-- `TentacleNature::inherit_with_mode`. -/
def inheritWithMode (parent : TentacleNature) (mutation : MutationMode) : Draw TentacleNature := do
  validateNature parent
  failIf (u64Max < parent.generation + 1) "Nature generation overflow"
  let child ← mutate parent
    { parent with
      natureId := ← randomNatureId
      generation := parent.generation + 1
      parentNatureId := some parent.natureId } mutation
  validateNature child
  return child

/-! ## What a child keeps -/

section

variable {parent nature child : TentacleNature} {source source' : List UInt8}

theorem natureValue_setValue (value : ℕ) (natureTrait other : NatureTrait) :
    natureValue (setValue nature value natureTrait) other =
      if other = natureTrait then value else natureValue nature other := by
  cases natureTrait <;> cases other <;> rfl

/-- Everything but the sliders. -/
def lineage (nature : TentacleNature) : ℕ × String × ℕ × Option String × SacredBan :=
  (nature.schemaVersion, nature.natureId, nature.generation, nature.parentNatureId,
    nature.sacredBan)

@[simp] theorem lineage_setValue (value : ℕ) (natureTrait : NatureTrait) :
    lineage (setValue nature value natureTrait) = lineage nature := by
  cases natureTrait <;> rfl

theorem resample_ok {f : ℕ → Draw ℕ} {P : ℕ → ℕ → Prop} (hf : ∀ value source value' source',
      (f value).exec source = (.ok value', source') → P value value')
    {traits : List NatureTrait} (hnodup : traits.Nodup)
    (h : (resample f traits nature).exec source = (.ok child, source')) :
    lineage child = lineage nature ∧
      (∀ t ∈ traits, P (natureValue nature t) (natureValue child t)) ∧
        ∀ t ∉ traits, natureValue child t = natureValue nature t := by
  induction traits generalizing nature source with
  | nil =>
    cases h
    exact ⟨rfl, nofun, fun _ _ => rfl⟩
  | cons t traits ih =>
    obtain ⟨hmem, hnodup⟩ := List.nodup_cons.mp hnodup
    unfold resample at h ih
    rw [List.foldlM_cons] at h
    obtain ⟨next, middle, hnext, hrest⟩ := bind_ok.mp h
    obtain ⟨value, last, hvalue, hset⟩ := bind_ok.mp hnext
    cases hset
    obtain ⟨hlineage, hdrawn, hkept⟩ := ih hnodup hrest
    simp only [natureValue_setValue] at hdrawn hkept
    refine ⟨hlineage.trans (lineage_setValue value t), fun other hother => ?_, fun other hother => ?_⟩
    · rcases List.mem_cons.mp hother with rfl | hother
      · rw [hkept other hmem, if_pos rfl]
        exact hf _ _ _ _ hvalue
      · have hother' := hdrawn other hother
        rwa [if_neg (ne_of_mem_of_not_mem hother hmem)] at hother'
    · rw [List.mem_cons, not_or] at hother
      rw [hkept other hother.2, if_neg hother.1]

theorem mem_all (natureTrait : NatureTrait) : natureTrait ∈ NatureTrait.all := by
  cases natureTrait <;> decide

theorem randomOtherThan_ok {ban ban' : SacredBan}
    (h : (randomOtherThan ban).exec source = (.ok ban', source')) : ban' ≠ ban := by
  obtain ⟨draw, middle, hdraw, hban⟩ := bind_ok.mp h
  have hlt : draw < 4 := secureUniform_lt (by decide) hdraw
  have hother : ∀ draw < 4, allBans[(banIndex ban + (draw + 1)) % allBans.length]? ≠ some ban := by
    cases ban <;> decide
  rintro rfl
  rw [exec_lift, Prod.mk.injEq, banFromIndex, okOr_ok] at hban
  exact hother draw hlt hban.1

/-! ## Bands -/

/-- No slider moves further. -/
def Within (bound : ℕ) (parent child : TentacleNature) : Prop :=
  ∀ t, natureValue child t ≤ natureValue parent t + bound ∧
    natureValue parent t ≤ natureValue child t + bound

/-- Some slider moves as far. -/
def Moved (bound : ℕ) (parent child : TentacleNature) : Prop :=
  ∃ t, natureValue parent t + bound ≤ natureValue child t ∨
    natureValue child t + bound ≤ natureValue parent t

def MutationMode.Band (parent child : TentacleNature) : MutationMode → Prop
  | close => Within 10 parent child ∧ child.sacredBan = parent.sacredBan
  | drift => Within 35 parent child ∧ Moved 11 parent child
  | radical => Moved 50 parent child ∧ child.sacredBan ≠ parent.sacredBan

theorem natureValue_le (h : validateNature nature = .ok ()) (natureTrait : NatureTrait) :
    natureValue nature natureTrait ≤ 100 := by
  have hvalid := except_mapError_ok.mp h
  unfold TentacleNature.validate at hvalid
  simp only [except_check_ok] at hvalid
  have htraits := forM_ok.mp hvalid.2.2.2
  simp only [TentacleNature.traits, List.forall_mem_cons, failIf_ok, not_lt] at htraits
  obtain ⟨hengagement, hgrowth, hwealth, hinfluence, hcooperation, hstability, htransparency, -⟩ :=
    htraits
  cases natureTrait <;> assumption

theorem natureValue_ban (ban : SacredBan) (natureTrait : NatureTrait) :
    natureValue { nature with sacredBan := ban } natureTrait = natureValue nature natureTrait := by
  cases natureTrait <;> rfl

theorem nodup_all : NatureTrait.all.Nodup := by
  decide

theorem within_resample {bound : ℕ} (hparent : ∀ t, natureValue parent t ≤ 100)
    (hvalues : ∀ t, natureValue nature t = natureValue parent t)
    (h : (resample (vary bound) NatureTrait.all nature).exec source = (.ok child, source')) :
    lineage child = lineage nature ∧ Within bound parent child := by
  obtain ⟨hlineage, hdrawn, -⟩ := resample_ok (P := fun value value' => value ≤ 100 →
    value' ≤ value + bound ∧ value ≤ value' + bound) (fun _ _ _ _ h hvalue => vary_ok hvalue h)
      nodup_all h
  refine ⟨hlineage, fun t => ?_⟩
  have ht := hdrawn t (mem_all t)
  rw [hvalues] at ht
  exact ht (hparent t)

/-- Before its sliders are drawn a child has those of its parent, and its ban. -/
theorem mutate_ok {mutation : MutationMode}
    (h : (mutate parent nature mutation).exec source = (.ok child, source'))
    (hparent : ∀ t, natureValue parent t ≤ 100)
    (hvalues : ∀ t, natureValue nature t = natureValue parent t)
    (hban : nature.sacredBan = parent.sacredBan) :
    mutation.Band parent child ∧ child.generation = nature.generation ∧
      child.parentNatureId = nature.parentNatureId := by
  cases mutation with
  | close =>
    obtain ⟨hlineage, hwithin⟩ := within_resample hparent hvalues h
    simp only [lineage, Prod.mk.injEq] at hlineage
    obtain ⟨-, -, hgeneration, hid, hsame⟩ := hlineage
    exact ⟨⟨hwithin, hsame.trans hban⟩, hgeneration, hid⟩
  | drift =>
    obtain ⟨varied, _, hvaried, h⟩ := bind_ok.mp h
    obtain ⟨anchor, _, -, h⟩ := bind_ok.mp h
    obtain ⟨value, _, hforced, h⟩ := bind_ok.mp h
    obtain ⟨coin, _, -, h⟩ := bind_ok.mp h
    obtain ⟨hlineage, hwithin⟩ := within_resample hparent hvalues hvaried
    obtain ⟨hup, hdown, hmoved⟩ := forceDistance_ok (hparent anchor) (by decide) (by decide) hforced
    have hband : Within 35 parent (setValue varied value anchor) ∧
        Moved 11 parent (setValue varied value anchor) := by
      refine ⟨fun t => ?_, anchor, ?_⟩
      · rw [natureValue_setValue]
        split_ifs with ht
        · exact ht ▸ ⟨hup, hdown⟩
        · exact hwithin t
      · rw [natureValue_setValue, if_pos rfl]
        exact hmoved
    rw [← lineage_setValue value anchor] at hlineage
    simp only [lineage, Prod.mk.injEq] at hlineage
    obtain ⟨-, -, hgeneration, hid, -⟩ := hlineage
    split_ifs at h with hcoin
    · obtain ⟨ban, _, -, hreturn⟩ := bind_ok.mp h
      cases hreturn
      simp only [MutationMode.Band, Within, Moved, natureValue_ban]
      exact ⟨hband, hgeneration, hid⟩
    · cases h
      exact ⟨hband, hgeneration, hid⟩
  | radical =>
    obtain ⟨drawn, _, hdrawn, h⟩ := bind_ok.mp h
    obtain ⟨anchor, _, -, h⟩ := bind_ok.mp h
    obtain ⟨ban, _, hother, hreturn⟩ := bind_ok.mp h
    obtain ⟨hlineage, -, -⟩ :=
      resample_ok (P := fun _ _ => True) (fun _ _ _ _ _ => trivial) nodup_all hdrawn
    cases hreturn
    rw [← lineage_setValue (if natureValue parent anchor ≤ 50 then 100 else 0) anchor] at hlineage
    simp only [lineage, Prod.mk.injEq] at hlineage
    obtain ⟨-, -, hgeneration, hid, -⟩ := hlineage
    have hmoved : Moved 50 parent
        (setValue drawn (if natureValue parent anchor ≤ 50 then 100 else 0) anchor) := by
      have hle := hparent anchor
      refine ⟨anchor, ?_⟩
      rw [natureValue_setValue, if_pos rfl]
      split_ifs <;> omega
    simp only [MutationMode.Band, Moved, natureValue_ban]
    exact ⟨⟨hmoved, randomOtherThan_ok hother⟩, hgeneration, hid⟩

end

/-- Whatever bytes are drawn, a child is valid, a generation below its parent, and in the band of
its mutation. A number below a bound is the remainder of the first candidate in the zone, where
every remainder has as many candidates. -/
theorem inherit_in_band {parent child : TentacleNature} {mutation : MutationMode}
    {source source' : List UInt8}
    (h : (inheritWithMode parent mutation).exec source = (.ok child, source')) :
    (validateNature parent = .ok () ∧ validateNature child = .ok () ∧
      child.generation = parent.generation + 1 ∧ child.parentNatureId = some parent.natureId ∧
        mutation.Band parent child) ∧
    ∀ bound, 0 < bound →
      (∀ a b c d rest, (secureUniform bound).exec (a :: b :: c :: d :: rest) =
        if fromLeBytes [a, b, c, d] < zone bound then
          (.ok (fromLeBytes [a, b, c, d] % bound), rest)
        else (secureUniform bound).exec rest) ∧
      ∀ r < bound, ((Finset.range (2 ^ 32)).filter fun candidate =>
        candidate < zone bound ∧ candidate % bound = r).card = u32Max / bound := by
  constructor
  · unfold inheritWithMode at h
    simp only [lift_bind_ok, exists_unit] at h
    obtain ⟨hparent, -, h⟩ := h
    obtain ⟨id, _, -, h⟩ := bind_ok.mp h
    obtain ⟨mutated, _, hmutated, h⟩ := bind_ok.mp h
    simp only [lift_bind_ok, exists_unit] at h
    obtain ⟨hchild, hreturn⟩ := h
    cases hreturn
    obtain ⟨hband, hgeneration, hid⟩ :=
      mutate_ok hmutated (natureValue_le hparent) (fun t => by cases t <;> rfl) rfl
    exact ⟨hparent, hchild, hgeneration, hid, hband⟩
  · refine fun bound hbound => ⟨fun a b c d rest => ?_, fun r hr => card_candidates hr⟩
    rw [exec_secureUniform hbound, drawCandidate]
    split_ifs
    · rfl
    · exact (exec_secureUniform hbound).symm

def sampleParent : TentacleNature where
  schemaVersion := 1
  natureId := "0123456789abcdef0123456789abcdef"
  generation := 0
  parentNatureId := none
  engagement := 50
  growth := 50
  wealth := 5
  influence := 50
  cooperation := 50
  stability := 50
  transparency := 100
  sacredBan := .profit

def sampleChild : TentacleNature where
  schemaVersion := 1
  natureId := "00000000000000000000000000000000"
  generation := 1
  parentNatureId := some "0123456789abcdef0123456789abcdef"
  engagement := 40
  growth := 40
  wealth := 0
  influence := 40
  cooperation := 40
  stability := 40
  transparency := 90
  sacredBan := .profit

theorem inherit_in_band_sample : MutationMode.close.Band sampleParent sampleChild := by
  have hinherit : (inheritWithMode sampleParent .close).exec (List.replicate 44 0) =
      (.ok sampleChild, []) := by
    decide
  exact (inherit_in_band hinherit).1.2.2.2.2

end Cthuwu.Awakening
