import Cthuwu.Evolution.Lineage

/-!
# The replay of absorptions

A lineage that is loaded replays its absorption records against the set of the nodes that are still
active. The replay comes through when each record is sound by itself and no record that came before it
took its source or its target away (`AbsorptionsHold`, `validateAbsorptions_ok`). So a node is absorbed
at most once, and never into one that is gone : the records, in their order, rank the nodes, and
following absorptions comes to an end (`AbsorptionsHold.acyclic`, `AbsorptionsHold.exists_last`).
-/

namespace Cthuwu.Evolution

open LineageState

namespace LineageState

variable {s : LineageState} {record : AbsorptionRecord} {records : List AbsorptionRecord}
  {r r' : Replay}

/-! ## One record -/

/-- A record against the nodes, whatever was recorded before it. -/
structure RecordHolds (s : LineageState) (record : AbsorptionRecord) : Prop where
  sourceId : isSafeId record.sourceId = true
  targetId : isSafeId record.targetId = true
  hashes : validateHashes record.knowledgeHashes = .ok ()
  apart : record.sourceId ≠ record.targetId
  source : ∃ source, s.nodes.get record.sourceId = some source ∧ source.spawnedAtMs ≤ record.atMs
  target : s.nodes.get record.targetId = none → s.isExternal record = true
  later : ∀ target, s.nodes.get record.targetId = some target → target.spawnedAtMs ≤ record.atMs

/-- The replay after one more record. -/
def Replay.step (r : Replay) (record : AbsorptionRecord) : Replay :=
  ⟨r.active.erase record.sourceId, record.atMs,
    r.absorbed.insert record.sourceId (record.targetId, record.atMs)⟩

theorem replayAbsorption_ok : s.replayAbsorption r record = .ok r' ↔
    s.RecordHolds record ∧ r.previousTime ≤ record.atMs ∧ record.sourceId ∈ r.active ∧
      (s.nodes.get record.targetId ≠ none → record.targetId ∈ r.active) ∧ r' = r.step record := by
  unfold replayAbsorption
  simp only [except_bind_ok, failIf_ok, okOr_ok, exists_unit, validateId_ok, except_pure_ok]
  constructor
  · rintro ⟨hsource, htarget, hhashes, hapart, htime, source, hget, hexternal, hspawned, hactive,
      rfl⟩
    obtain ⟨hsourceTime, htargetTime⟩ := not_or.mp hspawned
    obtain ⟨hin, hlocal⟩ := not_or.mp hactive
    refine ⟨⟨hsource, htarget, hhashes, hapart, ⟨source, hget, not_lt.mp hsourceTime⟩, ?_, ?_⟩,
      not_lt.mp htime, not_not.mp hin, fun hne => ?_, rfl⟩
    · intro hnone
      by_contra hnot
      exact hexternal ⟨hnone, Bool.not_eq_true _ ▸ hnot⟩
    · intro target hsome
      rw [hsome] at htargetTime
      simpa using htargetTime
    · by_contra hnot
      exact hlocal ⟨hne, fun hmem => hnot (Finset.mem_of_mem_erase hmem)⟩
  · rintro ⟨h, htime, hin, hlocal, rfl⟩
    obtain ⟨source, hget, hsourceTime⟩ := h.source
    refine ⟨h.sourceId, h.targetId, h.hashes, h.apart, not_lt.mpr htime, source, hget, ?_, ?_, ?_,
      rfl⟩
    · rintro ⟨hnone, hfalse⟩
      exact Bool.false_ne_true (hfalse.symm.trans (h.target hnone))
    · refine not_or.mpr ⟨not_lt.mpr hsourceTime, ?_⟩
      rw [Option.any_eq_true]
      rintro ⟨target, hsome, hlt⟩
      exact absurd (of_decide_eq_true hlt) (not_lt.mpr (h.later target hsome))
    · refine not_or.mpr ⟨not_not.mpr hin, fun hgone => hgone.2 ?_⟩
      exact Finset.mem_erase.mpr ⟨h.apart.symm, hlocal hgone.1⟩

/-! ## All records -/

/-- An earlier record and a later one : the earlier takes neither the source nor the target of the
later away. -/
def Leaves (a b : AbsorptionRecord) : Prop :=
  a.atMs ≤ b.atMs ∧ a.sourceId ≠ b.sourceId ∧ a.sourceId ≠ b.targetId

/-- What a replay has come to after some records. -/
structure Replayed (s : LineageState) (records : List AbsorptionRecord) (r : Replay) : Prop where
  active : ∀ id, id ∈ r.active ↔ s.nodes.get id ≠ none ∧ ∀ record ∈ records, record.sourceId ≠ id
  time : ∀ atMs, r.previousTime ≤ atMs ↔ ∀ record ∈ records, record.atMs ≤ atMs
  absorbed : ∀ id entry, r.absorbed.get id = some entry →
    ∃ record ∈ records, record.sourceId = id ∧ (record.targetId, record.atMs) = entry
  recorded : ∀ record ∈ records, ∃ entry, r.absorbed.get record.sourceId = some entry

theorem Replayed.nil : s.Replayed [] ⟨s.nodes.keys.toFinset, 0, .empty⟩ where
  active id := by
    rw [List.mem_toFinset, HashMap.mem_keys, Option.ne_none_iff_exists']
    simp
  time atMs := by simp
  absorbed id entry h := by simp at h
  recorded record h := by cases h

theorem Replayed.snoc (h : s.Replayed records r) (htime : r.previousTime ≤ record.atMs) :
    s.Replayed (records ++ [record]) (r.step record) where
  active id := by
    unfold Replay.step
    rw [Finset.mem_erase, h.active]
    simp only [List.forall_mem_append, List.forall_mem_singleton]
    tauto
  time atMs := by
    have hall := (h.time record.atMs).mp htime
    simp only [List.forall_mem_append, List.forall_mem_singleton]
    exact ⟨fun hle => ⟨fun x hx => (hall x hx).trans hle, hle⟩, fun hboth => hboth.2⟩
  absorbed id entry hget := by
    unfold Replay.step at hget
    rw [HashMap.get_insert_apply] at hget
    split_ifs at hget with hid
    · cases hget
      exact ⟨record, List.mem_append_right _ List.mem_cons_self, hid.symm, rfl⟩
    · obtain ⟨x, hx, hrest⟩ := h.absorbed id entry hget
      exact ⟨x, List.mem_append_left _ hx, hrest⟩
  recorded x hx := by
    unfold Replay.step
    rw [HashMap.get_insert_apply]
    split_ifs with hid
    · exact ⟨_, rfl⟩
    · rcases List.mem_append.mp hx with hx | hx
      · exact h.recorded x hx
      · cases List.mem_singleton.mp hx
        exact absurd rfl hid

/-- The replay of all absorption records from the start. -/
def replay (s : LineageState) (records : List AbsorptionRecord) : Except EvolutionError Replay :=
  records.foldlM s.replayAbsorption ⟨s.nodes.keys.toFinset, 0, .empty⟩

theorem replay_snoc : s.replay (records ++ [record]) = .ok r' ↔
    ∃ r, s.replay records = .ok r ∧ s.replayAbsorption r record = .ok r' := by
  unfold replay
  simp only [List.foldlM_append, List.foldlM_cons, List.foldlM_nil, except_bind_ok,
    except_pure_ok, exists_eq_right]

theorem replayed (h : s.replay records = .ok r) : s.Replayed records r := by
  induction records using List.reverseRecOn generalizing r with
  | nil =>
    cases h
    exact .nil
  | append_singleton records record ih =>
    obtain ⟨before, hbefore, hstep⟩ := (replay_snoc).mp h
    obtain ⟨-, htime, -, -, rfl⟩ := (replayAbsorption_ok).mp hstep
    exact (ih hbefore).snoc htime

theorem replay_ok : (∃ r, s.replay records = .ok r) ↔
    (∀ record ∈ records, s.RecordHolds record) ∧ records.Pairwise Leaves := by
  induction records using List.reverseRecOn with
  | nil => exact iff_of_true ⟨_, rfl⟩ ⟨by simp, .nil⟩
  | append_singleton records record ih =>
    simp only [replay_snoc, List.pairwise_append, List.forall_mem_append,
      List.forall_mem_singleton, List.pairwise_singleton, true_and]
    constructor
    · rintro ⟨_, r, hfold, hstep⟩
      have hreplayed := replayed hfold
      obtain ⟨hholds, htime, hin, hlocal, -⟩ := (replayAbsorption_ok).mp hstep
      obtain ⟨hall, hpairs⟩ := ih.mp ⟨r, hfold⟩
      refine ⟨⟨hall, hholds⟩, hpairs, fun x hx => ?_⟩
      have hsource := (hreplayed.active record.sourceId).mp hin
      refine ⟨(hreplayed.time record.atMs).mp htime x hx, hsource.2 x hx, fun heq => ?_⟩
      obtain ⟨source, hget, -⟩ := (hall x hx).source
      have hne : s.nodes.get record.targetId ≠ none := by
        rw [← heq, hget]
        exact Option.some_ne_none source
      exact ((hreplayed.active record.targetId).mp (hlocal hne)).2 x hx heq
    · rintro ⟨⟨hall, hholds⟩, hpairs, hleaves⟩
      obtain ⟨r, hfold⟩ := ih.mpr ⟨hall, hpairs⟩
      have hreplayed := replayed hfold
      have htime := (hreplayed.time record.atMs).mpr fun x hx => (hleaves x hx).1
      refine ⟨r.step record, r, hfold, ?_⟩
      refine (replayAbsorption_ok).mpr ⟨hholds, htime, ?_, fun hne => ?_, rfl⟩
      · obtain ⟨source, hget, -⟩ := hholds.source
        refine (hreplayed.active _).mpr ⟨?_, fun x hx => (hleaves x hx).2.1⟩
        rw [hget]
        exact Option.some_ne_none source
      · exact (hreplayed.active _).mpr ⟨hne, fun x hx => (hleaves x hx).2.2⟩

/-- Records that leave each other alone have different sources. -/
theorem source_unique (h : records.Pairwise Leaves) {a b : AbsorptionRecord} (ha : a ∈ records)
    (hb : b ∈ records) (heq : a.sourceId = b.sourceId) : a = b := by
  have hnodup : (records.map (·.sourceId)).Nodup :=
    List.pairwise_map.mpr (h.imp fun hleaves => hleaves.2.1)
  exact List.inj_on_of_nodup_map hnodup ha hb heq

/-- The lifecycle of a node is what the records say. -/
def Told (records : List AbsorptionRecord) (id : String) : TentacleLifecycle → Prop
  | .active => ∀ record ∈ records, record.sourceId ≠ id
  | .absorbed into atMs =>
    ∃ record ∈ records, record.sourceId = id ∧ record.targetId = into ∧ record.atMs = atMs

/-- What the checks of the absorptions say. -/
structure AbsorptionsHold (s : LineageState) : Prop where
  records : ∀ record ∈ s.absorptionRecords, s.RecordHolds record
  order : s.absorptionRecords.Pairwise Leaves
  lifecycle : ∀ id node, s.nodes.get id = some node →
    Told s.absorptionRecords node.tentacleId node.lifecycle

theorem isRecorded_iff {id : String} {lifecycle : TentacleLifecycle}
    (h : s.Replayed records r) (horder : records.Pairwise Leaves) :
    lifecycle.isRecorded (r.absorbed.get id) = true ↔ Told records id lifecycle := by
  cases hget : r.absorbed.get id with
  | none =>
    have hnot : ∀ record ∈ records, record.sourceId ≠ id := by
      rintro record hmem rfl
      obtain ⟨entry, hentry⟩ := h.recorded record hmem
      rw [hget] at hentry
      cases hentry
    cases lifecycle with
    | active => exact iff_of_true rfl hnot
    | absorbed into atMs =>
      refine iff_of_false Bool.false_ne_true ?_
      rintro ⟨record, hmem, hid, -⟩
      exact hnot record hmem hid
  | some entry =>
    obtain ⟨record, hmem, hid, rfl⟩ := h.absorbed id entry hget
    cases lifecycle with
    | active => exact iff_of_false Bool.false_ne_true fun hnot => hnot record hmem hid
    | absorbed into atMs =>
      unfold TentacleLifecycle.isRecorded Told
      rw [Bool.and_eq_true, decide_eq_true_iff, decide_eq_true_iff]
      constructor
      · rintro ⟨rfl, rfl⟩
        exact ⟨record, hmem, hid, rfl, rfl⟩
      · rintro ⟨other, hother, hsource, rfl, rfl⟩
        cases source_unique horder hmem hother (hid.trans hsource.symm)
        exact ⟨rfl, rfl⟩

theorem validateAbsorptions_ok : s.validateAbsorptions = .ok () ↔ s.AbsorptionsHold := by
  unfold validateAbsorptions
  simp only [except_bind_ok, forM_ok, HashMap.forall_sortedPairs, failIf_ok, Bool.not_eq_false]
  constructor
  · rintro ⟨r, hfold, hall⟩
    obtain ⟨hrecords, horder⟩ := (replay_ok).mp ⟨r, hfold⟩
    refine ⟨hrecords, horder, fun id node hget => ?_⟩
    exact (isRecorded_iff (replayed hfold) horder).mp (hall id node hget)
  · rintro ⟨hrecords, horder, hlifecycle⟩
    obtain ⟨r, hfold⟩ := (replay_ok).mpr ⟨hrecords, horder⟩
    refine ⟨r, hfold, fun id node hget => ?_⟩
    exact (isRecorded_iff (replayed hfold) horder).mpr (hlifecycle id node hget)

/-! ## Where absorptions lead -/

/-- A node was absorbed into another Tentacle. -/
def AbsorbedInto (s : LineageState) (a b : String) : Prop :=
  ∃ node atMs, s.nodes.get a = some node ∧ node.lifecycle = .absorbed b atMs

def Keyed (s : LineageState) : Prop :=
  ∀ id node, s.nodes.get id = some node → node.tentacleId = id

/-- An active node, or the external parent of the root. -/
def IsEnd (s : LineageState) (id : String) : Prop :=
  (∃ node, s.nodes.get id = some node ∧ node.lifecycle = .active) ∨
    (s.nodes.get id = none ∧ s.externalParentId = some id)

namespace AbsorptionsHold

variable {a b : String}

theorem recorded (h : s.AbsorptionsHold) (hkeyed : s.Keyed) (hab : s.AbsorbedInto a b) :
    ∃ record ∈ s.absorptionRecords, record.sourceId = a ∧ record.targetId = b := by
  obtain ⟨node, atMs, hget, hlifecycle⟩ := hab
  have htold := h.lifecycle a node hget
  rw [hlifecycle, hkeyed a node hget] at htold
  obtain ⟨record, hmem, hsource, htarget, -⟩ := htold
  exact ⟨record, hmem, hsource, htarget⟩

/-- A node is absorbed into one that is absorbed later, if at all. -/
theorem idxOf_lt (h : s.AbsorptionsHold) (hkeyed : s.Keyed) (hab : s.AbsorbedInto a b) :
    (s.absorptionRecords.map (·.sourceId)).idxOf a <
      (s.absorptionRecords.map (·.sourceId)).idxOf b := by
  obtain ⟨record, hmem, rfl, rfl⟩ := h.recorded hkeyed hab
  have hapart := (h.records record hmem).apart
  have horder := h.order
  obtain ⟨before, after, hsplit⟩ := List.append_of_mem hmem
  rw [hsplit, List.pairwise_append] at horder
  have hleaves : ∀ x ∈ before, Leaves x record :=
    fun x hx => horder.2.2 x hx record List.mem_cons_self
  have hsource : record.sourceId ∉ before.map (·.sourceId) := by
    rw [List.mem_map]
    rintro ⟨x, hx, heq⟩
    exact (hleaves x hx).2.1 heq
  have htarget : record.targetId ∉ before.map (·.sourceId) := by
    rw [List.mem_map]
    rintro ⟨x, hx, heq⟩
    exact (hleaves x hx).2.2 heq
  rw [hsplit, List.map_append, List.idxOf_append_of_notMem hsource,
    List.idxOf_append_of_notMem htarget, List.map_cons, List.idxOf_cons_self,
    List.idxOf_cons_ne _ hapart]
  omega

theorem acyclic (h : s.AbsorptionsHold) (hkeyed : s.Keyed) :
    ¬ Relation.TransGen s.AbsorbedInto a a := by
  have hlt : ∀ b, Relation.TransGen s.AbsorbedInto a b →
      (s.absorptionRecords.map (·.sourceId)).idxOf a <
        (s.absorptionRecords.map (·.sourceId)).idxOf b := by
    intro b hab
    induction hab with
    | single hab => exact h.idxOf_lt hkeyed hab
    | tail _ hbc ih => exact ih.trans (h.idxOf_lt hkeyed hbc)
  exact fun hcycle => lt_irrefl _ (hlt a hcycle)

/-- From every node the absorptions lead to an end. -/
theorem exists_last (h : s.AbsorptionsHold) (hkeyed : s.Keyed) {node : LineageNode}
    (hget : s.nodes.get a = some node) :
    ∃ last, Relation.ReflTransGen s.AbsorbedInto a last ∧ s.IsEnd last := by
  -- the positions of the sources grow along the absorptions, and there are only so many
  induction hk : s.absorptionRecords.length - (s.absorptionRecords.map (·.sourceId)).idxOf a
    using Nat.strong_induction_on generalizing a node with
  | _ k ih =>
    cases hlifecycle : node.lifecycle with
    | active => exact ⟨a, .refl, .inl ⟨node, hget, hlifecycle⟩⟩
    | absorbed into atMs =>
      have hab : s.AbsorbedInto a into := ⟨node, atMs, hget, hlifecycle⟩
      obtain ⟨record, hmem, hsource, rfl⟩ := h.recorded hkeyed hab
      cases htarget : s.nodes.get record.targetId with
      | none =>
        refine ⟨record.targetId, .single hab, .inr ⟨htarget, ?_⟩⟩
        have hexternal := (h.records record hmem).target htarget
        unfold isExternal at hexternal
        rw [Bool.and_eq_true] at hexternal
        exact of_decide_eq_true hexternal.2
      | some target =>
        have hlt := h.idxOf_lt hkeyed hab
        have hle : (s.absorptionRecords.map (·.sourceId)).idxOf a <
            (s.absorptionRecords.map (·.sourceId)).length := by
          rw [List.idxOf_lt_length_iff, List.mem_map]
          exact ⟨record, hmem, hsource⟩
        rw [List.length_map] at hle
        obtain ⟨last, hpath, hend⟩ := ih _ (by omega) htarget rfl
        exact ⟨last, .head hab hpath, hend⟩

end AbsorptionsHold

end LineageState

end Cthuwu.Evolution
