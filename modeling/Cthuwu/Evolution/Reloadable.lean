import Cthuwu.Evolution.Kept
import Cthuwu.Lib.Outcome
import Cthuwu.Lib.Runs

/-!
# Lineages that can be loaded again

A lineage begins as one node and is changed by five calls. A call that fails leaves it as it was, and one
that succeeds keeps what a load asks for (`LineageCall.ends`). So in every run a lineage can be loaded
again (`every_lineage_reloads`), with one exception that the calls do not look at : a node of the
lineage under the id of the external parent (`external_parent_spawned`).
-/

namespace Cthuwu.Evolution

open LineageState Fallible

/-! ## Calls -/

inductive LineageCall
  | updateRootNature (authenticated claimed : String) (nature : TentacleNature)
  | spawnChild (inherit : TentacleNature → Except EvolutionError TentacleNature)
      (authenticatedParent claimedParent childId : String) (atMs : ℕ)
      (authorization : SpawnAuthorization)
  | recordProvisionedChild (authenticatedParent claimedParent childId : String)
      (childNature : TentacleNature) (atMs : ℕ) (authorization : SpawnAuthorization)
  | recordAbsorption (authenticatedTarget claimedTarget sourceId : String) (atMs : ℕ)
      (knowledgeHashes : List String) (operatorConfirmed : Bool)
  | recordExternalParentAbsorption (sourceId targetId : String) (atMs : ℕ)
      (knowledgeHashes : List String)

namespace LineageCall

def run : LineageCall → LineageOp Unit
  | .updateRootNature authenticated claimed nature =>
    Evolution.updateRootNature authenticated claimed nature
  | .spawnChild inherit authenticatedParent claimedParent childId atMs authorization => do
    let _ ← Evolution.spawnChild inherit authenticatedParent claimedParent childId atMs authorization
  | .recordProvisionedChild authenticatedParent claimedParent childId childNature atMs
      authorization => do
    let _ ← Evolution.recordProvisionedChild authenticatedParent claimedParent childId childNature
      atMs authorization
  | .recordAbsorption authenticatedTarget claimedTarget sourceId atMs knowledgeHashes
      operatorConfirmed => do
    let _ ← Evolution.recordAbsorption authenticatedTarget claimedTarget sourceId atMs
      knowledgeHashes operatorConfirmed
  | .recordExternalParentAbsorption sourceId targetId atMs knowledgeHashes => do
    let _ ← Evolution.recordExternalParentAbsorption sourceId targetId atMs knowledgeHashes

/-- The call does not meet a node under the id of the external parent : a child is not spawned under
the id that the root was absorbed into before, and the root is absorbed into its parent only where a
node under that id is active by then. -/
def Clear (s : LineageState) : LineageCall → Prop
  | .updateRootNature .. => True
  | .spawnChild _ _ _ childId atMs _ =>
    ∀ record ∈ s.absorptionRecords, record.targetId = childId → atMs ≤ record.atMs
  | .recordProvisionedChild _ _ childId _ atMs _ =>
    ∀ record ∈ s.absorptionRecords, record.targetId = childId → atMs ≤ record.atMs
  | .recordAbsorption .. => True
  | .recordExternalParentAbsorption _ targetId atMs _ =>
    ∀ target, s.nodes.get targetId = some target →
      target.lifecycle = .active ∧ target.spawnedAtMs ≤ atMs

end LineageCall

/-! ## What a call leaves -/

/-- An error leaves the lineage as it was, and a result leaves one that satisfies `P`. -/
def Leads {α : Type} (P : LineageState → Prop) (s : LineageState) :
    Except EvolutionError α → LineageState → Prop
  | .error _, t => t = s
  | .ok _, t => P t

/-- The revision counts the records. -/
def LineageState.Counted (s : LineageState) : Prop :=
  s.revision = s.spawnRecords.length + s.absorptionRecords.length

/-- What a call leaves of what a lineage keeps, under a condition that the absorptions show to have been
met. -/
def Carries (s : LineageState) (c : Prop) (t : LineageState) : Prop :=
  t.Counted ∧ (s.Kept → (c → t.Kept) ∧ (t.AbsorptionsHold → c))

section

variable {α β : Type} {s : LineageState} {P : LineageState → Prop}

theorem leads_check {x : Except EvolutionError α} {f : α → LineageOp β}
    (h : ∀ a, x = .ok a → Ends (Leads P s) (f a) s) : Ends (Leads P s) (liftM x >>= f) s :=
  ends_lift_bind (fun _ _ => rfl) h

theorem leads_get {f : LineageState → LineageOp β} (h : Ends (Leads P s) (f s) s) :
    Ends (Leads P s) (get >>= f) s :=
  ends_get_bind h

theorem leads_discard {x : LineageOp α} (h : Ends (Leads P s) x s) :
    Ends (Leads P s) (x >>= fun _ => pure ()) s :=
  Ends.bind h (fun _ _ hP => ends_pure hP) (fun _ _ hs => hs)

end

variable {s : LineageState}

theorem updateRootNature_ends (hcounted : s.Counted) (authenticated claimed : String)
    (nature : TentacleNature) :
    Ends (Leads (Carries s True) s) (updateRootNature authenticated claimed nature) s := by
  unfold updateRootNature
  refine leads_check fun _ _ => leads_get ?_
  refine leads_check fun _ hroot => leads_check fun _ hnature => leads_check fun root hget => ?_
  refine leads_check fun _ hkeeps => leads_check fun _ hfresh => ends_modify ⟨hcounted, ?_⟩
  refine fun h => ⟨fun _ => ?_, fun _ => trivial⟩
  rw [failIf_ok, not_not] at hroot
  subst hroot
  refine h.updateNature (okOr_ok.mp hget) hnature hkeeps fun id node hnode hne heq => ?_
  rw [failIf_ok, Bool.not_eq_true, List.any_eq_false] at hfresh
  have hnot := hfresh (id, node) (HashMap.mem_pairs.mpr hnode)
  simp [hne, heq] at hnot

theorem recordProvisionedChild_ends (hcounted : s.Counted) (authenticatedParent claimedParent
    childId : String) (childNature : TentacleNature) (atMs : ℕ)
    (authorization : SpawnAuthorization) :
    Ends (Leads (Carries s (∀ record ∈ s.absorptionRecords, record.targetId = childId →
      atMs ≤ record.atMs)) s) (recordProvisionedChild authenticatedParent claimedParent childId
        childNature atMs authorization) s := by
  unfold recordProvisionedChild
  refine leads_check fun _ _ => leads_check fun _ hparentId => leads_check fun _ hchildId => ?_
  refine leads_check fun _ hjudgment => leads_check fun _ hoperator => leads_check fun _ hevent => ?_
  refine leads_get (leads_check fun parent hcheck => ?_)
  refine ends_modify_bind (ends_pure ⟨?_, fun h => ⟨fun hclear => ?_, fun hholds => ?_⟩⟩)
  · unfold Counted LineageState.addChild at *
    dsimp only
    rw [hcounted, List.length_append, List.length_singleton]
    omega
  · refine h.addChild (checkChild_ok.mp hcheck) (validateId_ok.mp hchildId) ?_ hclear
    rw [validateId_ok] at hparentId hchildId hoperator
    rw [validateSha256_ok] at hjudgment hevent
    unfold checkSpawnRecord spawnRecord
    simp only [except_bind_ok, exists_unit, validateId_ok, validateSha256_ok]
    exact ⟨hparentId, hchildId, hjudgment, hoperator, hevent⟩
  · intro record hmem heq
    refine (hholds.records record hmem).later (childNode authenticatedParent childId parent
      childNature atMs) ?_
    rw [heq, get_addChild, if_pos rfl]

theorem spawnChild_ends (hcounted : s.Counted)
    (inherit : TentacleNature → Except EvolutionError TentacleNature) (authenticatedParent
    claimedParent childId : String) (atMs : ℕ) (authorization : SpawnAuthorization) :
    Ends (Leads (Carries s (∀ record ∈ s.absorptionRecords, record.targetId = childId →
      atMs ≤ record.atMs)) s) (spawnChild inherit authenticatedParent claimedParent childId atMs
        authorization) s := by
  unfold spawnChild
  refine leads_check fun _ _ => leads_get (leads_check fun childNature _ => ?_)
  exact recordProvisionedChild_ends hcounted _ _ _ _ _ _

/-! ## Absorptions -/

/-- A vector holds at most `isize::MAX` bytes, and so no more entries. -/
def isizeMax : ℕ := 2 ^ 63 - 1

def LineageState.Fits (s : LineageState) : Prop :=
  s.spawnRecords.length ≤ isizeMax ∧ s.absorptionRecords.length ≤ isizeMax

instance (s : LineageState) : Decidable s.Fits :=
  inferInstanceAs (Decidable (_ ∧ _))

/-- The revision of a lineage that fits into memory never runs out. -/
theorem LineageState.Fits.revision_lt (hfits : s.Fits) (hcounted : s.Counted) :
    s.revision + 1 ≤ u64Max := by
  obtain ⟨hspawns, habsorptions⟩ := hfits
  unfold Counted at hcounted
  unfold isizeMax at hspawns habsorptions
  unfold u64Max
  omega

variable {source : LineageNode} {record : AbsorptionRecord} {nature : TentacleNature}
  {start : LineageState}

theorem commitAbsorption_ends {P} (hrevision : s.revision + 1 ≤ u64Max)
    (h : P { s.absorb source record with revision := s.revision + 1 }) :
    Ends (Leads P s) (commitAbsorption source record) s := by
  unfold commitAbsorption
  refine ends_modify_bind (ends_get_bind (ends_lift_bind (fun e he => ?_) fun _ _ => ?_))
  · obtain ⟨hlt, -⟩ := failIf_error.mp he
    exact absurd hrevision (not_le.mpr hlt)
  · exact ends_modify_bind (ends_pure h)

theorem counted_absorb (hcounted : s.Counted) :
    Counted { s.absorb source record with revision := s.revision + 1 } := by
  unfold Counted absorb at *
  dsimp only
  rw [hcounted, List.length_append, List.length_singleton, Nat.add_assoc]

theorem recordAbsorption_ends (hcounted : s.Counted) (hfits : s.Fits) (authenticatedTarget
    claimedTarget sourceId : String) (atMs : ℕ) (knowledgeHashes : List String)
    (operatorConfirmed : Bool) :
    Ends (Leads (Carries s True) s) (recordAbsorption authenticatedTarget claimedTarget sourceId atMs
      knowledgeHashes operatorConfirmed) s := by
  unfold recordAbsorption
  refine leads_check fun _ _ => leads_check fun _ htargetId => leads_check fun _ hsourceId => ?_
  refine leads_check fun _ hapart => leads_check fun _ hhashes => leads_get ?_
  refine leads_check fun source hcheck => commitAbsorption_ends (hfits.revision_lt hcounted) ?_
  refine ⟨counted_absorb hcounted, fun h => ⟨fun _ => ?_, fun _ => trivial⟩⟩
  unfold checkAbsorption require at hcheck
  simp only [except_bind_ok, exists_unit, failIf_ok, okOr_ok, except_pure_ok, not_or, not_not,
    not_lt, Bool.not_eq_true] at hcheck
  obtain ⟨hlate, target, htarget, source, hsource, htargetActive, hactive, ⟨htargetTime,
    hsourceTime⟩, hchildren, rfl⟩ := hcheck
  refine h.absorb hsource hactive hlate hchildren ⟨validateId_ok.mp hsourceId,
    validateId_ok.mp htargetId, hhashes, ?_, ⟨source, hsource, hsourceTime⟩, ?_, ?_⟩ ?_
    (hfits.revision_lt hcounted)
  · exact fun heq => failIf_ok.mp hapart heq.symm
  · exact fun hnone => absurd (hnone.symm.trans htarget) (by simp)
  · intro target' htarget'
    cases htarget.symm.trans htarget'
    exact htargetTime
  · intro target' htarget'
    cases htarget.symm.trans htarget'
    exact htargetActive

/-- A local target of an absorption that holds was active by then. -/
theorem LineageState.Kept.absorbed_target (h : s.Kept) {target : LineageNode} {revision : ℕ}
    (hne : record.targetId ≠ record.sourceId)
    (hholds : AbsorptionsHold { s.absorb source record with revision := revision })
    (htarget : s.nodes.get record.targetId = some target) :
    target.lifecycle = .active ∧ target.spawnedAtMs ≤ record.atMs := by
  have hlast : record ∈ s.absorptionRecords ++ [record] :=
    List.mem_append_right _ List.mem_cons_self
  have hget : (s.absorb source record).nodes.get record.targetId = some target := by
    unfold LineageState.absorb
    rw [HashMap.get_insert_ne hne, htarget]
  refine ⟨?_, (hholds.records record hlast).later target hget⟩
  have htold := h.absorptions.lifecycle _ target htarget
  cases hlifecycle : target.lifecycle with
  | active => rfl
  | absorbed into atMs =>
    rw [hlifecycle, h.keyed _ target htarget] at htold
    obtain ⟨earlier, hmem, heq, -⟩ := htold
    have horder := (List.pairwise_append.mp hholds.order).2.2
    exact absurd heq (horder earlier hmem record List.mem_cons_self).2.2

theorem recordExternalParentAbsorption_ends (hcounted : s.Counted) (hfits : s.Fits) (sourceId
    targetId : String) (atMs : ℕ) (knowledgeHashes : List String) :
    Ends (Leads (Carries s (∀ target, s.nodes.get targetId = some target →
      target.lifecycle = .active ∧ target.spawnedAtMs ≤ atMs)) s)
      (recordExternalParentAbsorption sourceId targetId atMs knowledgeHashes) s := by
  unfold recordExternalParentAbsorption
  refine leads_check fun _ hsourceId => leads_check fun _ htargetId => ?_
  refine leads_check fun _ hhashes => leads_get ?_
  refine leads_check fun source hcheck => commitAbsorption_ends (hfits.revision_lt hcounted) ?_
  unfold checkExternalAbsorption require at hcheck
  simp only [except_bind_ok, exists_unit, failIf_ok, okOr_ok, except_pure_ok, not_or, not_not,
    not_lt, Bool.not_eq_true] at hcheck
  obtain ⟨⟨rfl, hexternal⟩, hlate, source, hsource, hactive, ⟨hsourceTime, hchildren⟩, rfl⟩ := hcheck
  refine ⟨counted_absorb hcounted, fun h => ⟨fun hclear => ?_, fun hholds target htarget => ?_⟩⟩
  all_goals
    obtain ⟨root, -, -, hroot⟩ := h.root
    obtain ⟨-, hne, -⟩ := (checkRoot_inherited hexternal).mp hroot
  case refine_2 => exact h.absorbed_target hne hholds htarget
  refine h.absorb hsource hactive hlate hchildren ⟨validateId_ok.mp hsourceId,
    validateId_ok.mp htargetId, hhashes, hne.symm, ⟨source, hsource, hsourceTime⟩, fun _ => ?_,
    fun target htarget => (hclear target htarget).2⟩ (fun target htarget => (hclear target htarget).1)
    (hfits.revision_lt hcounted)
  unfold isExternal
  simp [hexternal]

theorem LineageCall.ends (hcounted : s.Counted) (hfits : s.Fits) (call : LineageCall) :
    Ends (Leads (Carries s (call.Clear s)) s) call.run s := by
  cases call with
  | updateRootNature => exact updateRootNature_ends hcounted _ _ _
  | spawnChild => exact leads_discard (spawnChild_ends hcounted _ _ _ _ _ _)
  | recordProvisionedChild => exact leads_discard (recordProvisionedChild_ends hcounted _ _ _ _ _ _)
  | recordAbsorption => exact leads_discard (recordAbsorption_ends hcounted hfits _ _ _ _ _ _)
  | recordExternalParentAbsorption =>
    exact leads_discard (recordExternalParentAbsorption_ends hcounted hfits _ _ _ _)

/-! ## Runs -/

/-- A lineage as it begins. -/
def LineageState.IsStart (s : LineageState) : Prop :=
  (∃ founderId founderNature spawnedAtMs,
    LineageState.new founderId founderNature spawnedAtMs = .ok s) ∨
  ∃ tentacleId externalParentId nature spawnedAtMs,
    newChildRoot tentacleId externalParentId nature spawnedAtMs = .ok s

/-- The runs of calls that succeed and fit into memory. -/
def lineageMachine (start : LineageState) : Machine LineageState LineageCall where
  init := start
  Allowed s call := Succeeds call.run s ∧ (call.run.after s).Fits
  next s call := call.run.after s

theorem single_kept {rootId : String} {externalParentId : Option String} {spawnedAtMs : ℕ}
    (hsafe : isSafeId rootId = true) (hnature : nature.validate = .ok ())
    (hroot : (single rootId externalParentId nature spawnedAtMs).checkRoot
      ⟨rootId, none, nature.generation, nature, spawnedAtMs, [], .active⟩ = .ok ())
    (hfounder : externalParentId = none → nature.parentNatureId = none) :
    (single rootId externalParentId nature spawnedAtMs).Kept := by
  have hback : ∀ {k v}, (single rootId externalParentId nature spawnedAtMs).nodes.get k = some v →
      k = rootId ∧ v = ⟨rootId, none, nature.generation, nature, spawnedAtMs, [], .active⟩ := by
    intro k v hv
    unfold single at hv
    rw [HashMap.get_insert_apply] at hv
    split_ifs at hv with hk
    · exact ⟨hk, (Option.some.inj hv).symm⟩
    · cases hv
  refine
    { schema := rfl, rootId := hsafe, spawnCount := rfl, bounded := Nat.zero_le _, revision := rfl,
      root := ⟨_, HashMap.get_insert, rfl, hroot⟩, node := fun k v hv => ?node,
      natureIds := List.nodup_singleton _, parentless := fun k v hv hnone => ?parentless,
      parent := fun k v hv p hp => ?parent, child := fun k v hv c hc => ?child,
      spawnRecord := by simp [single], spawned := by simp [single], spawnedOnce := List.nodup_nil,
      absorptions := ⟨by simp [single], .nil, fun k v hv => ?lifecycle⟩,
      strict := fun k v p parent hv hp hparent => ?strict }
  all_goals obtain ⟨rfl, rfl⟩ := hback hv
  case node => exact ⟨hsafe, rfl, hnature, rfl, by simp, List.nodup_nil, by simp⟩
  case parentless => exact ⟨rfl, hfounder⟩
  case parent => cases hp
  case child => cases hc
  case lifecycle => simp [Told, single]
  case strict => cases hp

theorem newChildRoot_ok {rootId parentId : String} {atMs : ℕ} :
    newChildRoot rootId parentId nature atMs = .ok s ↔ isSafeId rootId = true ∧
      isSafeId parentId = true ∧ rootId ≠ parentId ∧ nature.validate = .ok () ∧
      (nature.generation ≠ 0 ∧ nature.parentNatureId ≠ none) ∧
      single rootId (some parentId) nature atMs = s := by
  unfold newChildRoot
  simp only [except_bind_ok, exists_unit, failIf_ok, validateId_ok, except_pure_ok, not_or,
    Option.isNone_iff_eq_none, ne_eq]

theorem LineageState.IsStart.kept (h : s.IsStart) : s.Kept ∧ s.Fits := by
  rcases h with ⟨founderId, nature, atMs, h⟩ | ⟨rootId, parentId, nature, atMs, h⟩
  · unfold LineageState.new at h
    simp only [except_bind_ok, exists_unit, failIf_ok, validateId_ok, except_pure_ok, not_or,
      not_not, Bool.not_eq_true, Option.isSome_eq_false_iff, Option.isNone_iff_eq_none] at h
    obtain ⟨hsafe, hnature, ⟨hzero, hparent⟩, rfl⟩ := h
    refine ⟨single_kept hsafe hnature ?_ fun _ => hparent, Nat.zero_le _, Nat.zero_le _⟩
    exact (checkRoot_founder rfl).mpr ⟨hzero, hparent⟩
  · obtain ⟨hsafe, hparentSafe, hapart, hnature, ⟨hpos, hparent⟩, rfl⟩ := (newChildRoot_ok).mp h
    refine ⟨single_kept hsafe hnature ?_ (by simp), Nat.zero_le _, Nat.zero_le _⟩
    exact (checkRoot_inherited rfl).mpr ⟨hparentSafe, Ne.symm hapart, hpos, hparent⟩

/-- What a run keeps : the revision counts the records, which fit into memory. -/
theorem lineage_counted (hstart : start.IsStart) (h : (lineageMachine start).Reachable s) :
    s.Counted ∧ s.Fits := by
  refine h.invariant (P := fun s => s.Counted ∧ s.Fits) ⟨hstart.kept.1.revision, hstart.kept.2⟩
    fun s call _ hs hallowed => ?_
  obtain ⟨⟨_, t, hexec⟩, hfits⟩ := hallowed
  have hends := call.ends hs.1 hs.2
  unfold Ends at hends
  rw [hexec] at hends
  refine ⟨?_, hfits⟩
  unfold lineageMachine Fallible.after
  dsimp only
  rw [hexec]
  exact hends.1

/-- A saved lineage is not rejected. -/
def LineageState.Reloads (s : LineageState) : Prop :=
  validateState s = .ok () ∧ fromState s = .ok s

theorem reloads_iff : s.Reloads ↔ s.Valid := by
  unfold Reloads fromState
  rw [validateState_ok]
  refine and_iff_left_of_imp fun h => ?_
  rw [validateState_ok.mpr h]
  rfl

theorem carries_of_allowed (hstart : start.IsStart) {call : LineageCall}
    (h : (lineageMachine start).Reachable s) (hallowed : (lineageMachine start).Allowed s call) :
    Carries s (call.Clear s) ((lineageMachine start).next s call) := by
  obtain ⟨hcounted, hfits⟩ := lineage_counted hstart h
  obtain ⟨⟨_, t, hexec⟩, -⟩ := hallowed
  have hends := call.ends hcounted hfits
  unfold Ends at hends
  rw [hexec] at hends
  unfold lineageMachine Fallible.after
  dsimp only
  rw [hexec]
  exact hends

/-- The lineages that a run of calls leads to can all be loaded again exactly when all calls are clear.
In every run a call that fails leaves the lineage as it was. -/
theorem every_lineage_reloads {start : LineageState} (hstart : start.IsStart) :
    (∀ calls, (lineageMachine start).Admits start calls →
      ((∀ n, LineageState.Reloads ((calls.take n).foldl (lineageMachine start).next start)) ↔
        ((lineageMachine start).restrict fun s call => call.Clear s).Admits start calls)) ∧
    ∀ s, (lineageMachine start).Reachable s → ∀ call : LineageCall, AtomicAt call.run s := by
  constructor
  · intro calls hadmits
    refine Machine.admits_restrict_iff_shown (P := LineageState.Kept)
      (fun s hs => (reloads_iff).mpr hs.valid) (fun s call hreach hs hallowed hclear => ?_)
      (fun s call hreach hs hallowed hreloads => ?_) .init hstart.kept.1 hadmits
    · exact ((carries_of_allowed hstart hreach hallowed).2 hs).1 hclear
    · exact ((carries_of_allowed hstart hreach hallowed).2 hs).2
        ((reloads_iff).mp hreloads).absorptions
  · intro s h call e he
    obtain ⟨hcounted, hfits⟩ := lineage_counted hstart h
    have hends := call.ends hcounted hfits
    unfold Ends at hends
    unfold Fallible.after
    rcases hexec : call.run.exec s with ⟨r, t⟩
    rw [hexec] at hends he
    cases he
    exact hends

/-! ## A node under the id of the external parent -/

/-- A child root whose parent is not a node of its lineage. -/
def sampleStart : LineageState :=
  single "r" (some "p") (sampleNature 'a' 1 (some 'f')) 10

theorem sampleStart_isStart : sampleStart.IsStart := by
  refine .inr ⟨"r", "p", sampleNature 'a' 1 (some 'f'), 10, (newChildRoot_ok).mpr ?_⟩
  exact ⟨by decide, by decide, by decide, by decide, by decide, rfl⟩

/-- A child is spawned under the id of the external parent, and absorbed into the root. -/
def sampleCalls : List LineageCall :=
  [.recordProvisionedChild "r" "r" "p" (sampleNature 'b' 2 (some 'a')) 20
      ⟨sampleHash, "o", sampleHash⟩,
    .recordAbsorption "r" "r" "p" 30 [] false]

def sampleAfter : LineageState :=
  sampleCalls.foldl (lineageMachine sampleStart).next sampleStart

/-- Then the root is absorbed into the external parent. -/
def sampleLastCall : LineageCall :=
  .recordExternalParentAbsorption "r" "p" 40 []

theorem next_eq (start s : LineageState) (call : LineageCall) :
    (lineageMachine start).next s call = (call.run.exec s).2 := rfl

theorem allowed_of_exec {call : LineageCall} (hok : (call.run.exec s).1 = .ok ())
    (hfits : (call.run.exec s).2.Fits) : (lineageMachine start).Allowed s call :=
  ⟨⟨(), _, Prod.ext hok rfl⟩, hfits⟩

theorem sampleCalls_admits : (lineageMachine sampleStart).Admits sampleStart sampleCalls :=
  ⟨allowed_of_exec (by decide) (by decide),
    allowed_of_exec (by decide) (by decide), trivial⟩

theorem every_lineage_reloads_sample : sampleAfter.Reloads := by
  obtain ⟨hfirst, hsecond, -⟩ := sampleCalls_admits
  refine ((every_lineage_reloads sampleStart_isStart).1 sampleCalls sampleCalls_admits).mpr ?_ 2
  exact ⟨⟨hfirst, nofun⟩, ⟨hsecond, trivial⟩, trivial⟩

theorem sampleLastCall_rejected : (sampleLastCall.run.exec sampleAfter).1 = .ok () ∧
      (sampleLastCall.run.exec sampleAfter).2.Fits ∧
      validateState (sampleLastCall.run.exec sampleAfter).2 ≠ .ok () := by
  decide +kernel

/-- An absorption into the external parent does not look at the node under its id. -/
theorem external_parent_spawned : ¬ ∀ start : LineageState, start.IsStart →
    (∀ s, (lineageMachine start).Reachable s → s.Reloads) ∧
      ∀ s, (lineageMachine start).Reachable s → ∀ call : LineageCall, AtomicAt call.run s := by
  intro h
  obtain ⟨hok, hfits, hrejected⟩ := sampleLastCall_rejected
  have hinit : (lineageMachine sampleStart).Reachable sampleStart := .init
  have hafter : (lineageMachine sampleStart).Reachable sampleAfter := hinit.run sampleCalls_admits
  have hreachable := hafter.next (allowed_of_exec hok hfits)
  rw [next_eq] at hreachable
  exact hrejected ((h sampleStart sampleStart_isStart).1 _ hreachable).1

end Cthuwu.Evolution
