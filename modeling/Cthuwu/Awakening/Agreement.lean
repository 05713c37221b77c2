import Cthuwu.Awakening.Ritual

/-!
# Agreement of the ritual with its log

Three programs follow one history : the live ritual takes its transitions, the validator of the
log passes each entry on its own account, and a restart counts the entries of the last epoch.
`Rebuilds log ritual` says that they agree, and `Rebuilds.append` carries it over one appended
entry. The validator checks an appended entry before it is written, so the agreement needs the
actions of the log only up to their kinds, which their first two letters tell
(`kind_of_normalized`).
-/

namespace Cthuwu.Awakening

open Council Evolution
open Fallible

/-! ## The kinds of actions -/

inductive ActionKind
  | yes
  | adjust
  | reroll
  | kill
  | skipForTesting
  | acceptDefault
  | postConfirmationAdjust
  | forcedRerollEpoch

def RecordedAwakeningAction.kind : RecordedAwakeningAction → ActionKind
  | operator .yes => .yes
  | operator (.adjust _ _) => .adjust
  | operator .reroll => .reroll
  | operator .kill => .kill
  | skipForTesting => .skipForTesting
  | acceptDefault => .acceptDefault
  | postConfirmationAdjust _ _ => .postConfirmationAdjust
  | forcedRerollEpoch => .forcedRerollEpoch

/-- The first two letters of the actions of a kind. -/
def ActionKind.mark : ActionKind → List Char
  | yes => ['Y', 'E']
  | adjust => ['A', 'D']
  | reroll => ['R', 'E']
  | kill => ['K', 'I']
  | skipForTesting => ['S', 'K']
  | acceptDefault => ['A', 'C']
  | postConfirmationAdjust => ['P', 'O']
  | forcedRerollEpoch => ['B', 'E']

theorem ActionKind.mark_injective {a b : ActionKind} (h : a.mark = b.mark) : a = b := by
  cases a <;> cases b <;> first | rfl | exact absurd h (by decide)

theorem take_normalized (action : RecordedAwakeningAction) :
    action.normalized.toList.take 2 = action.kind.mark := by
  match action with
  | .operator .yes | .operator .reroll | .operator .kill | .skipForTesting | .acceptDefault
  | .forcedRerollEpoch => decide
  | .operator (.adjust natureTrait delta) =>
    have h : "ADJUST ".toList = ['A', 'D', 'J', 'U', 'S', 'T', ' '] := by decide
    unfold RecordedAwakeningAction.normalized AwakeningAction.normalized
    rw [String.toList_append, String.toList_append, String.toList_append, h]
    rfl
  | .postConfirmationAdjust natureTrait value =>
    have h : "POST_ADJUST ".toList =
        ['P', 'O', 'S', 'T', '_', 'A', 'D', 'J', 'U', 'S', 'T', ' '] := by decide
    unfold RecordedAwakeningAction.normalized
    rw [String.toList_append, String.toList_append, String.toList_append, h]
    rfl

theorem kind_of_normalized {a b : RecordedAwakeningAction} (h : a.normalized = b.normalized) :
    a.kind = b.kind := by
  apply ActionKind.mark_injective
  rw [← take_normalized, ← take_normalized, h]

/-! ## What an append does -/

section

variable [Hashing] [LogSigning]

/-- The entry that an append will write, once every check of it has passed. -/
def checkedEntry (log : List AwakeningLogEntry) (epoch timestampUnix : ℕ)
    (provenance : AwakeningProvenance) (action : RecordedAwakeningAction)
    (predecessor result : TentacleNature) (phase : AwakeningLogPhase) :
    Except String AwakeningLogEntry := do
  validateNature predecessor
  validateNature result
  let entries ← readEntries log
  let entry ← newEntry entries epoch timestampUnix provenance action predecessor result phase
  let _ ← verifyEntries (entries ++ [entry])
  let _ ← encodeLog (entries ++ [entry])
  return entry

theorem readEntries_ok {log entries : List AwakeningLogEntry} (h : readEntries log = .ok entries) :
    entries = log := by
  unfold readEntries at h
  split_ifs at h with hempty
  · rw [hempty]
    exact (except_pure_ok.mp h).symm
  · simp only [except_bind_ok, except_pure_ok] at h
    obtain ⟨-, -, -, -, rfl⟩ := h
    rfl

theorem replaceEntries_exec {storage : Storage} {log replacement : List AwakeningLogEntry}
    (h : readEntries log = .ok log) :
    (replaceEntries storage log replacement).exec log =
      match encodeLog replacement with
      | .error e => (.error e, log)
      | .ok _ => storage.write log replacement := by
  have hsame : failIf (log ≠ log) "awakening log changed concurrently" = Except.ok () :=
    failIf_ok.mpr fun hne => hne rfl
  unfold replaceEntries
  rw [exec_get_bind, h, exec_bind, exec_lift]
  dsimp only
  rw [hsame, exec_bind, exec_lift]
  dsimp only
  rw [exec_bind, exec_lift]
  cases encodeLog replacement with
  | error e => rfl
  | ok length => cases storage <;> rfl

variable {predecessor result : TentacleNature} {timestampUnix : ℕ}
  {provenance : AwakeningProvenance} {action : RecordedAwakeningAction} {phase : AwakeningLogPhase}
  {entry : AwakeningLogEntry}

theorem append_exec {storage : Storage} {log : List AwakeningLogEntry} {epoch : ℕ} :
    (append storage epoch timestampUnix provenance action predecessor result phase).exec log =
      match checkedEntry log epoch timestampUnix provenance action predecessor result phase with
      | .error e => (.error e, log)
      | .ok entry => storage.write log (log ++ [entry]) := by
  unfold append checkedEntry
  rw [exec_bind, exec_lift]
  cases validateNature predecessor with
  | error e => rfl
  | ok u =>
  dsimp only
  rw [exec_bind, exec_lift]
  cases validateNature result with
  | error e => rfl
  | ok u =>
  dsimp only
  rw [exec_get_bind, exec_bind, exec_lift]
  cases hread : readEntries log with
  | error e => rfl
  | ok entries =>
  cases readEntries_ok hread
  dsimp only
  rw [exec_bind, exec_lift]
  change _ = match (newEntry log epoch timestampUnix provenance action predecessor result phase >>=
    _ : Except String AwakeningLogEntry) with | .error e => _ | .ok entry => _
  cases newEntry log epoch timestampUnix provenance action predecessor result phase with
  | error e => rfl
  | ok entry =>
  dsimp only
  rw [exec_bind, exec_lift]
  change _ = match (verifyEntries (log ++ [entry]) >>= _ : Except String AwakeningLogEntry) with
    | .error e => _ | .ok entry => _
  cases verifyEntries (log ++ [entry]) with
  | error e => rfl
  | ok v =>
  dsimp only
  rw [replaceEntries_exec hread]
  change _ = match (encodeLog (log ++ [entry]) >>= _ : Except String AwakeningLogEntry) with
    | .error e => _ | .ok entry => _
  cases encodeLog (log ++ [entry]) with
  | error e => rfl
  | ok length => rfl

/-- What a checked entry says, and that the log with it may be read. -/
structure Logs (log : List AwakeningLogEntry) (epoch timestampUnix : ℕ)
    (provenance : AwakeningProvenance) (action : RecordedAwakeningAction)
    (predecessor result : TentacleNature) (phase : AwakeningLogPhase)
    (entry : AwakeningLogEntry) : Prop where
  predecessorValid : validateNature predecessor = .ok ()
  resultValid : validateNature result = .ok ()
  readable : readEntries (log ++ [entry]) = .ok (log ++ [entry])
  epoch : entry.epoch = epoch
  timestamp : entry.timestampUnix = timestampUnix
  operatorId : entry.operatorId = provenance.operatorId
  action : entry.normalizedAction = action.normalized
  predecessor : entry.predecessorNatureSnapshot = predecessor
  result : entry.natureSnapshot = result
  phase : entry.phase = phase

theorem checkedEntry_ok {log : List AwakeningLogEntry} {epoch : ℕ}
    (h : checkedEntry log epoch timestampUnix provenance action predecessor result phase =
      .ok entry) :
    Logs log epoch timestampUnix provenance action predecessor result phase entry := by
  unfold checkedEntry at h
  simp only [except_bind_ok, exists_unit, except_pure_ok] at h
  obtain ⟨hpredecessor, hresult, entries, hread, entry', hnew, v, hverify, length, hencode, rfl⟩ :=
    h
  cases readEntries_ok hread
  have hreadable : readEntries (log ++ [entry']) = .ok (log ++ [entry']) := by
    unfold readEntries
    rw [if_neg (by simp), hencode, hverify]
    rfl
  unfold newEntry at hnew
  simp only [except_bind_ok, except_pure_ok] at hnew
  obtain ⟨-, -, _, -, _, -, rfl⟩ := hnew
  exact
    { predecessorValid := hpredecessor
      resultValid := hresult
      readable := hreadable
      epoch := rfl
      timestamp := rfl
      operatorId := rfl
      action := rfl
      predecessor := rfl
      result := rfl
      phase := rfl }

/-- Every entry of a readable log names an action. -/
theorem parse_of_readable {log : List AwakeningLogEntry}
    (h : readEntries (log ++ [entry]) = .ok (log ++ [entry])) :
    ∃ action, RecordedAwakeningAction.parse entry.normalizedAction = .ok action ∧
      action.normalized = entry.normalizedAction := by
  unfold readEntries at h
  rw [if_neg (by simp)] at h
  simp only [except_bind_ok] at h
  obtain ⟨-, -, v, hverify, -⟩ := h
  unfold verifyEntries at hverify
  rw [replay_append_ok] at hverify
  obtain ⟨u, -, hlast⟩ := hverify
  rw [replay_singleton] at hlast
  obtain ⟨⟨action, beginsEpoch, hpassed⟩, -⟩ := verifyEntry_ok hlast
  exact ⟨action, hpassed.parse, hpassed.normalized⟩

end

/-! ## What the entries of an epoch count -/

/-- A ritual with the phase and the counters of another. -/
def AwakeningRitual.withProgress (base ritual : AwakeningRitual) : AwakeningRitual :=
  { base with
    phase := ritual.phase
    adjustmentCount := ritual.adjustmentCount
    rerollCount := ritual.rerollCount }

/-- A ritual in which nothing has happened. -/
structure AwakeningRitual.Fresh (ritual : AwakeningRitual) : Prop where
  phase : ritual.phase = .awaitingConfirmation
  adjustmentCount : ritual.adjustmentCount = 0
  rerollCount : ritual.rerollCount = 0

theorem AwakeningRitual.Fresh.withProgress {base ritual : AwakeningRitual} (hbase : base.Fresh)
    (hritual : ritual.Fresh) : base.withProgress ritual = base := by
  obtain ⟨nature, phase, epoch, startedAtUnix, lastEventAtUnix, adjustmentCount, rerollCount⟩ :=
    base
  obtain ⟨rfl, rfl, rfl⟩ := hbase
  unfold AwakeningRitual.withProgress
  rw [hritual.phase, hritual.adjustmentCount, hritual.rerollCount]

variable {overflow : String} {entry : AwakeningLogEntry}

theorem increment_ok {count count' : ℕ} :
    increment count overflow = .ok count' ↔ ¬2 ^ 32 ≤ count + 1 ∧ count + 1 = count' := by
  unfold increment
  rw [except_check_ok, failIf_ok, except_pure_ok]

/-- What an entry of a kind counts for. -/
def ActionKind.recount (ritual : AwakeningRitual) (entry : AwakeningLogEntry) :
    ActionKind → Except String AwakeningRitual
  | adjust | postConfirmationAdjust => do
    let count ← increment ritual.adjustmentCount "awakening adjustment counter overflow"
    return { ritual with adjustmentCount := count }
  | reroll | forcedRerollEpoch => do
    let count ← increment ritual.rerollCount "awakening reroll counter overflow"
    return { ritual with rerollCount := count }
  | yes => return { ritual with phase := .confirmed entry.timestampUnix entry.operatorId }
  | kill => return { ritual with phase := .killed entry.timestampUnix entry.operatorId }
  | skipForTesting =>
    return { ritual with phase := .skippedForTesting entry.timestampUnix entry.operatorId }
  | acceptDefault => return { ritual with phase := .acceptedByDefault entry.timestampUnix }

/-- The kind of its action is all that counts of an entry. -/
theorem recount_of_parse {ritual : AwakeningRitual} {action : RecordedAwakeningAction}
    (h : RecordedAwakeningAction.parse entry.normalizedAction = .ok action) :
    recount ritual entry = action.kind.recount ritual entry := by
  unfold recount
  rw [h]
  cases action with
  | operator action => cases action <;> rfl
  | _ => rfl

/-- A proposed transition, and what its entry will count for. -/
structure Counts (ritual : AwakeningRitual) (request : Request) (p : Proposed) : Prop where
  timestamp : p.candidate.lastEventAtUnix = request.timestampUnix
  phase : p.phase = phaseFor p.candidate.phase
  epoch : p.candidate.epoch = ritual.epoch ∨ p.candidate.epoch = ritual.epoch + 1
  same : p.candidate.epoch = ritual.epoch → ∀ (base : AwakeningRitual) (entry : AwakeningLogEntry),
    entry.timestampUnix = request.timestampUnix →
    entry.operatorId = request.provenance.operatorId →
    p.action.kind.recount (base.withProgress ritual) entry = .ok (base.withProgress p.candidate)
  begins : p.candidate.epoch = ritual.epoch + 1 →
    ∀ (base : AwakeningRitual) (entry : AwakeningLogEntry), base.Fresh →
    p.action.kind.recount base entry = .ok (base.withProgress p.candidate)

/-- What a transition inside an epoch counts for. -/
theorem counts_of_same {ritual : AwakeningRitual} {request : Request} {p : Proposed}
    (htimestamp : p.candidate.lastEventAtUnix = request.timestampUnix)
    (hphase : p.phase = phaseFor p.candidate.phase) (hepoch : p.candidate.epoch = ritual.epoch)
    (hsame : ∀ (base : AwakeningRitual) (entry : AwakeningLogEntry),
      entry.timestampUnix = request.timestampUnix →
      entry.operatorId = request.provenance.operatorId →
      p.action.kind.recount (base.withProgress ritual) entry =
        .ok (base.withProgress p.candidate)) :
    Counts ritual request p :=
  { timestamp := htimestamp
    phase := hphase
    epoch := Or.inl hepoch
    same := fun _ => hsame
    begins := fun h => absurd (hepoch.symm.trans h) (Nat.ne_of_lt (Nat.lt_succ_self _)) }

/-- A counter that went up once goes up once again. -/
theorem increment_eq {count : ℕ} (h : ¬2 ^ 32 ≤ count + 1) :
    increment count overflow = .ok (count + 1) :=
  (increment_ok).mpr ⟨h, rfl⟩

section

variable {ritual : AwakeningRitual} {request : Request} {p : Proposed}

theorem counts_apply {action : AwakeningAction}
    (h : ritual.apply action request.timestampUnix request.provenance request.draw = .ok p) :
    Counts ritual request p := by
  unfold AwakeningRitual.apply AwakeningRitual.applyUnlogged at h
  simp only [except_bind_ok, except_pure_ok] at h
  obtain ⟨-, -, ⟨candidate, outcome⟩, hcandidate, rfl⟩ := h
  cases action with
  | yes =>
    cases except_pure_ok.mp hcandidate
    exact counts_of_same rfl rfl rfl fun base entry hts hop => by
      rw [← hts, ← hop]
      rfl
  | kill =>
    cases except_pure_ok.mp hcandidate
    exact counts_of_same rfl rfl rfl fun base entry hts hop => by
      rw [← hts, ← hop]
      rfl
  | adjust natureTrait delta =>
    simp only [except_bind_ok, except_pure_ok, increment_ok] at hcandidate
    obtain ⟨nature, -, count, ⟨hcount, rfl⟩, hcandidate⟩ := hcandidate
    cases hcandidate
    exact counts_of_same rfl rfl rfl fun base entry _ _ =>
      except_bind_ok.mpr ⟨_, increment_eq hcount, rfl⟩
  | reroll =>
    simp only [except_bind_ok, except_pure_ok, increment_ok] at hcandidate
    obtain ⟨draw, -, nature, -, count, ⟨hcount, rfl⟩, hcandidate⟩ := hcandidate
    cases hcandidate
    exact counts_of_same rfl rfl rfl fun base entry _ _ =>
      except_bind_ok.mpr ⟨_, increment_eq hcount, rfl⟩

theorem counts_skipForTesting
    (h : ritual.skipForTesting request.timestampUnix request.provenance = .ok p) :
    Counts ritual request p := by
  unfold AwakeningRitual.skipForTesting at h
  simp only [except_bind_ok, except_pure_ok] at h
  obtain ⟨-, -, -, -, rfl⟩ := h
  exact counts_of_same rfl rfl rfl fun base entry hts hop => by
    rw [← hts, ← hop]
    rfl

theorem counts_acceptDefault
    (h : ritual.acceptDefault request.timestampUnix request.provenance = .ok p) :
    Counts ritual request p := by
  unfold AwakeningRitual.acceptDefault at h
  simp only [except_bind_ok, except_pure_ok] at h
  obtain ⟨-, -, -, -, rfl⟩ := h
  exact counts_of_same rfl rfl rfl fun base entry hts _ => by
    rw [← hts]
    rfl

theorem counts_adjustAfterConfirmation {natureTrait : NatureTrait} {value : ℕ}
    (h : ritual.adjustAfterConfirmation natureTrait value request.timestampUnix = .ok p) :
    Counts ritual request p := by
  unfold AwakeningRitual.adjustAfterConfirmation at h
  simp only [except_bind_ok, exists_unit, except_pure_ok, increment_ok] at h
  obtain ⟨-, -, -, -, nature, -, count, ⟨hcount, rfl⟩, rfl⟩ := h
  exact counts_of_same rfl rfl rfl fun base entry _ _ =>
    except_bind_ok.mpr ⟨_, increment_eq hcount, rfl⟩

/-- A forced reroll is the first entry of its epoch. -/
theorem counts_forceRerollEpoch
    (h : ritual.forceRerollEpoch request.timestampUnix request.provenance request.draw = .ok p) :
    Counts ritual request p := by
  unfold AwakeningRitual.forceRerollEpoch at h
  simp only [except_bind_ok, exists_unit, except_pure_ok] at h
  obtain ⟨-, -, -, draw, -, nature, -, -, rfl⟩ := h
  exact
    { timestamp := rfl
      phase := rfl
      epoch := Or.inr rfl
      same := fun hepoch => absurd hepoch (Nat.ne_of_gt (Nat.lt_succ_self _))
      begins := fun _ base entry hbase => by
        obtain ⟨nature', phase, epoch, startedAtUnix, lastEventAtUnix, adjustmentCount,
          rerollCount⟩ := base
        obtain ⟨rfl, rfl, rfl⟩ := hbase
        have hsmall : ¬2 ^ 32 ≤ 0 + 1 := by decide
        exact except_bind_ok.mpr ⟨1, increment_eq hsmall, rfl⟩ }

theorem counts_of_propose (h : ritual.propose request = .ok p) : Counts ritual request p := by
  unfold AwakeningRitual.propose at h
  split at h
  · exact counts_apply h
  · exact counts_skipForTesting h
  · exact counts_acceptDefault h
  · exact counts_adjustAfterConfirmation h
  · exact counts_forceRerollEpoch h

end

/-! ## Agreement -/

/-- The log may be read, and its last epoch rebuilds the ritual. -/
structure Rebuilds [Hashing] [LogSigning] (log : List AwakeningLogEntry)
    (ritual : AwakeningRitual) : Prop where
  readable : readEntries log = .ok log
  nature : validateNature ritual.nature = .ok ()
  last : ∀ last ∈ log.getLast?, last.natureSnapshot = ritual.nature ∧
    last.epoch = ritual.epoch ∧ last.timestampUnix = ritual.lastEventAtUnix ∧
    last.phase = phaseFor ritual.phase
  epochs : ∀ entry ∈ log, entry.epoch ≤ ritual.epoch
  rebuilt : ∀ base : AwakeningRitual, base.Fresh →
    replay recount base (log.filter fun entry => entry.epoch = ritual.epoch) =
      .ok (base.withProgress ritual)

variable [Hashing] [LogSigning] {log : List AwakeningLogEntry} {ritual : AwakeningRitual}

theorem Rebuilds.start (hnature : validateNature ritual.nature = .ok ()) (hfresh : ritual.Fresh) :
    Rebuilds [] ritual :=
  { readable := rfl
    nature := hnature
    last := fun _ h => nomatch h
    epochs := fun _ h => nomatch h
    rebuilt := fun _ hbase => congrArg _ (hbase.withProgress hfresh).symm }

/-- The log with one more transition rebuilds the ritual after it. -/
theorem Rebuilds.append (h : Rebuilds log ritual) {request : Request} {p : Proposed}
    (hpropose : ritual.propose request = .ok p)
    (hentry : Logs log p.candidate.epoch request.timestampUnix request.provenance p.action
      ritual.nature p.candidate.nature p.phase entry) : Rebuilds (log ++ [entry]) p.candidate := by
  have hcounts := counts_of_propose hpropose
  obtain ⟨action, hparse, hnormalized⟩ := parse_of_readable hentry.readable
  have hkind : action.kind = p.action.kind :=
    kind_of_normalized (hnormalized.trans hentry.action)
  have hrecount : ∀ base, recount base entry = p.action.kind.recount base entry := fun base => by
    rw [recount_of_parse hparse, hkind]
  refine
    { readable := hentry.readable
      nature := hentry.resultValid
      last := fun last hlast => ?_
      epochs := fun e he => ?_
      rebuilt := fun base hbase => ?_ }
  · rw [List.getLast?_concat] at hlast
    cases hlast
    exact ⟨hentry.result, hentry.epoch, hentry.timestamp.trans hcounts.timestamp.symm,
      hentry.phase.trans hcounts.phase⟩
  · have hle : ritual.epoch ≤ p.candidate.epoch := by
      rcases hcounts.epoch with h | h <;> omega
    rcases List.mem_append.mp he with he | he
    · exact (h.epochs e he).trans hle
    · rw [List.mem_singleton.mp he, hentry.epoch]
  · rw [List.filter_append, List.filter_singleton, hentry.epoch, decide_eq_true rfl]
    rcases hcounts.epoch with hsame | hnext
    · refine replay_append_ok.mpr ⟨base.withProgress ritual, ?_, ?_⟩
      · rw [hsame]
        exact h.rebuilt base hbase
      · rw [cond_true, replay_singleton, hrecount]
        exact hcounts.same hsame base entry hentry.timestamp hentry.operatorId
    · have hnone : (log.filter fun e => e.epoch = p.candidate.epoch) = [] := by
        refine List.filter_eq_nil_iff.mpr fun e he heq => ?_
        have := h.epochs e he
        have := of_decide_eq_true heq
        omega
      rw [hnone, List.nil_append, cond_true, replay_singleton, hrecount]
      exact hcounts.begins hnext base entry hbase

end Cthuwu.Awakening
