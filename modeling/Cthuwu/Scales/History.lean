import Cthuwu.Lib.Lines
import Cthuwu.Lib.Runs
import Cthuwu.Lib.Storage
import Cthuwu.Scales.Integrity

/-!
# The judgment history

Final judgments, one line each, in a file that is read through before it is replaced by itself and
one line more. The scan of the old file checks its lines, copies them and shows each record to a
visitor : `historyCatalog` indexes the records by their judgment identifiers, and `appendHistory`
also looks for a record of the same period.

`IsLog` is what the records of such a file have in common. A file of a log is scanned to its end
(`scan_fileOf`), and an append to it fails, finds its record there, or leaves the file of a longer
log (`appendedHistory_ok`). So every file that appends have made is the file of a log
(`historyMachine_isLog`), and `history_log` says what follows for the calls to come.
-/

namespace Cthuwu.Scales

open Evolution (isHexOf hexText u64Max)

/-! ## Records -/

structure EvolutionHistoryRecord where
  schemaVersion : ℕ
  judgmentId : String
  natureId : String
  natureFingerprint : String
  awakeningEpoch : ℕ
  metrics : TentacleMetrics
  judgment : Judgment
  deriving DecidableEq

open EvolutionHistoryRecord

/-- A record without its identifier. -/
structure CanonicalEvolutionHistoryRecord where
  schemaVersion : ℕ
  natureId : String
  natureFingerprint : String
  awakeningEpoch : ℕ
  metrics : TentacleMetrics
  judgment : Judgment

/-- `serde_json` and SHA-256. -/
class HistoryCodec where
  toJson : EvolutionHistoryRecord → List UInt8
  fromJson : List UInt8 → Option EvolutionHistoryRecord
  /-- The digest of the JSON encoding. -/
  sha256 : CanonicalEvolutionHistoryRecord → BitVec 256

export HistoryCodec (toJson fromJson)

def evolutionHistorySchemaVersion : ℕ := 2

def legacyAdvisoryHistorySchemaVersion : ℕ := 1

namespace EvolutionHistoryRecord

variable [HistoryCodec]

def computeJudgmentId (r : EvolutionHistoryRecord) : String :=
  hexText (HistoryCodec.sha256 { r with })

/-- The metrics and the judgment of a record are about the same period of the same Nature. -/
def validateAgreement (r : EvolutionHistoryRecord) : Except ScalesError Unit := do
  failIf (¬(r.judgment.evaluationStatus = .final ∧
    r.judgment.evaluatedAtUnixSeconds = r.metrics.periodEndsAtUnixSeconds))
    (.invalid ("evolution history accepts only deterministic final judgments evaluated at " ++
      "period end"))
  failIf (¬(r.metrics.schemaVersion = r.judgment.metricsSchemaVersion ∧
    r.metrics.period = r.judgment.period ∧
    r.metrics.periodStartedAtUnixSeconds = r.judgment.periodStartedAtUnixSeconds ∧
    r.metrics.periodEndsAtUnixSeconds = r.judgment.periodEndsAtUnixSeconds))
    (.invalid "evolution-history metrics and judgment refer to different periods")
  failIf (r.metrics.economicLayerEnabled ≠ r.judgment.scores.wealth.isSome)
    (.invalid "evolution-history metrics and judgment disagree about the economic layer")
  failIf (r.schemaVersion = evolutionHistorySchemaVersion ∧
    ¬(!r.metrics.economicLayerEnabled || r.metrics.tokenEconomics.any (·.provenance.isSome)))
    (.invalid "economic evolution history requires provenance-bound node data")
  failIf (r.metrics.scoredScaleAvailability ≠ r.judgment.scoredScaleAvailability)
    (.invalid "evolution-history metrics and judgment disagree about scored-scale availability")
  failIf (¬(r.metrics.engagement.conversations =
      r.judgment.propagationEvidence.observedConversations ∧
    r.metrics.engagement.returningConversations =
      r.judgment.propagationEvidence.observedReturningConversations))
    (.invalid "evolution-history metrics and judgment disagree about propagation evidence")
  failIf (r.judgment.economicStarvationReliefBasisPoints ≠ r.metrics.starvationRelief)
    (.invalid "evolution-history metrics and judgment disagree about economic starvation relief")
  let (observedStake, requiredStake, stakeEligible) := r.metrics.tokenEconomics.elim
    (0, 0, !r.metrics.economicLayerEnabled) fun economics =>
      (economics.snapshot.stakeBasisPoints, economics.policy.propagationMinimumStakeBasisPoints,
        economics.effects.propagationStakeEligible)
  failIf (¬(r.judgment.propagationEvidence.observedStakeBasisPoints = observedStake ∧
    r.judgment.propagationEvidence.requiredStakeBasisPoints = requiredStake ∧
    r.judgment.propagationEvidence.stakeEligible = stakeEligible))
    (.invalid "evolution-history metrics and judgment disagree about propagation stake evidence")
  failIf (¬(r.metrics.natureId = r.natureId ∧ r.metrics.natureFingerprint = r.natureFingerprint ∧
    r.metrics.awakeningEpoch = r.awakeningEpoch))
    (.invalid "evolution-history Nature binding is inconsistent")

def validate (r : EvolutionHistoryRecord) : Except ScalesError Unit := do
  failIf (r.schemaVersion ≠ legacyAdvisoryHistorySchemaVersion ∧
    r.schemaVersion ≠ evolutionHistorySchemaVersion)
    (.invalid ("unsupported evolution-history schema version " ++ toString r.schemaVersion))
  failIf (¬(r.schemaVersion = evolutionHistorySchemaVersion ∧
      r.judgment.schemaVersion = judgmentSchemaVersion ∨
    r.schemaVersion = legacyAdvisoryHistorySchemaVersion ∧
      r.judgment.schemaVersion = legacyAdvisoryJudgmentSchemaVersion))
    (.invalid "evolution-history and judgment schema generations do not match")
  failIf (!isHexOf 32 r.natureId)
    (.invalid "evolution-history nature ID must be 32 lowercase hexadecimal characters")
  failIf (!isHexOf 64 r.natureFingerprint)
    (.invalid "evolution-history Nature fingerprint is invalid")
  failIf (r.awakeningEpoch = 0) (.invalid "evolution-history awakening epoch is invalid")
  failIf (¬(isHexOf 64 r.judgmentId ∧ r.judgmentId = r.computeJudgmentId))
    (.invalid "evolution-history judgment ID is invalid")
  r.metrics.validate
  r.judgment.validate
  r.validateAgreement

/-- Only records of the autonomous policy act by themselves. -/
def authorizesAutomaticLifecycle (r : EvolutionHistoryRecord) : Bool :=
  r.schemaVersion = evolutionHistorySchemaVersion &&
    r.judgment.schemaVersion = judgmentSchemaVersion &&
    r.judgment.execution = .automaticLifecycleActionRequired

def hasSamePeriodKey (r other : EvolutionHistoryRecord) : Bool :=
  r.natureFingerprint = other.natureFingerprint && r.awakeningEpoch = other.awakeningEpoch &&
    r.metrics.period = other.metrics.period &&
    r.metrics.periodStartedAtUnixSeconds = other.metrics.periodStartedAtUnixSeconds &&
    r.metrics.periodEndsAtUnixSeconds = other.metrics.periodEndsAtUnixSeconds

end EvolutionHistoryRecord

def maxHistoryLineBytes : ℕ := 524288

/-! ## The index -/

section Catalog

variable [HistoryCodec]

/-- The records that were shown to it, by their identifiers. -/
structure ValidatedHistoryCatalog where
  /-- The files of the temporary directory, by name. -/
  directory : List (String × List UInt8) := []
  last : Option EvolutionHistoryRecord := none
  recordCount : ℕ := 0

def ValidatedHistoryCatalog.insert (c : ValidatedHistoryCatalog) (r : EvolutionHistoryRecord) :
    Except ScalesError ValidatedHistoryCatalog := do
  failIf (r.judgmentId ∈ c.directory.map (·.1))
    (.invalid "evolution history contains a duplicate judgment ID")
  failIf (u64Max < c.recordCount + 1) (.invalid "evolution history record count overflowed")
  return ⟨(r.judgmentId, toJson r) :: c.directory, some r, c.recordCount + 1⟩

def ValidatedHistoryCatalog.get (c : ValidatedHistoryCatalog) (judgmentId : String) :
    Except ScalesError (Option EvolutionHistoryRecord) := do
  failIf (!isHexOf 64 judgmentId)
    (.invalid "history lookup judgment ID must be lowercase SHA-256 hex")
  match c.directory.find? (·.1 = judgmentId) with
  | none => return none
  | some (_, encoded) => do
    failIf (maxHistoryLineBytes < encoded.length)
      (.invalid "indexed evolution-history record exceeds its line bound")
    let record ← okOr (fromJson encoded) (.invalid "indexed judgment record is invalid JSON")
    record.validate
    failIf (record.judgmentId ≠ judgmentId)
      (.invalid "indexed judgment record identity mismatch")
    return some record

/-! ## Scanning -/

def newline : UInt8 := 10

/-- How far a scan has come, and what its visitor has made of the records. -/
structure HistoryScan (σ : Type) where
  visitor : σ
  previousPeriodEnd : Option ℤ
  verifiedCopy : List UInt8
  last : Option EvolutionHistoryRecord

variable {σ : Type} (visit : σ → EvolutionHistoryRecord → Except ScalesError σ)

/-- One line, without its end. A longer line than allowed is cut off one byte later, and refused. -/
def scanLine (scan : HistoryScan σ) (line : List UInt8) : Except ScalesError (HistoryScan σ) := do
  failIf (maxHistoryLineBytes < line.length + 1)
    (.invalid "evolution-history record exceeds its line bound")
  failIf (line = []) (.invalid "evolution history contains an empty record")
  let record ← okOr (fromJson line) (.invalid "evolution history contains invalid JSON")
  record.validate
  failIf (scan.previousPeriodEnd.any fun previous =>
      record.metrics.periodStartedAtUnixSeconds < previous)
    (.invalid "evolution history periods are reordered or overlapping")
  let visitor ← visit scan.visitor record
  return ⟨visitor, some record.metrics.periodEndsAtUnixSeconds,
    scan.verifiedCopy ++ (line ++ [newline]), some record⟩

/-- The lines with an end, and what follows the last of them. -/
def scanHistoryRecords (visitor : σ) (file : List UInt8) : Except ScalesError (HistoryScan σ) := do
  let pieces := file.splitOn newline
  let scan ← pieces.dropLast.foldlM (scanLine visit) ⟨visitor, none, [], none⟩
  let rest := pieces.getLast?.getD []
  failIf (maxHistoryLineBytes < rest.length)
    (.invalid "evolution-history record exceeds its line bound")
  failIf (rest ≠ []) (.invalid "evolution history ends with an incomplete record")
  return scan

/-- A file that is missing holds no records. -/
def scanHistoryFile (visitor : σ) :
    Option (List UInt8) → Except ScalesError (HistoryScan σ)
  | none => .ok ⟨visitor, none, [], none⟩
  | some file => scanHistoryRecords visit visitor file

def historyCatalog (file : Option (List UInt8)) : Except ScalesError ValidatedHistoryCatalog := do
  let scan ← scanHistoryFile ValidatedHistoryCatalog.insert {} file
  return scan.visitor

/-- A record with another identifier than those before it. -/
def collectRecord (records : List EvolutionHistoryRecord) (record : EvolutionHistoryRecord) :
    Except ScalesError (List EvolutionHistoryRecord) := do
  failIf (record.judgmentId ∈ records.map (·.judgmentId))
    (.invalid "evolution history contains a duplicate judgment ID")
  return records ++ [record]

def loadHistory (file : Option (List UInt8)) : Except ScalesError (List EvolutionHistoryRecord) := do
  let scan ← scanHistoryFile collectRecord [] file
  return scan.visitor

/-! ## Appending -/

/-- An existing record is indexed, and is the new one or of another period. -/
def visitExisting (record : EvolutionHistoryRecord) (seen : ValidatedHistoryCatalog × Bool)
    (existing : EvolutionHistoryRecord) : Except ScalesError (ValidatedHistoryCatalog × Bool) := do
  let catalog ← seen.1.insert existing
  if existing.hasSamePeriodKey record then do
    failIf (¬(existing.judgmentId = record.judgmentId ∧ existing = record))
      (.invalid ("evolution history conflicts with an existing judgment for the same Nature " ++
        "period"))
    return (catalog, true)
  else return (catalog, seen.2)

/-- The file with the record, which may be the file as it is. -/
def appendedHistory (record : EvolutionHistoryRecord) (file : Option (List UInt8)) :
    Except ScalesError (Option (List UInt8)) := do
  record.validate
  let scan ← scanHistoryFile (visitExisting record) ({}, false) file
  if scan.visitor.2 then return file
  else do
    let found ← scan.visitor.1.get record.judgmentId
    failIf found.isSome (.invalid "evolution history reuses a judgment ID for another period")
    failIf (scan.last.any fun previous =>
        record.metrics.periodStartedAtUnixSeconds < previous.metrics.periodEndsAtUnixSeconds)
      (.invalid "evolution history periods must be monotonic and non-overlapping")
    let encoded := toJson record ++ [newline]
    failIf (maxHistoryLineBytes < encoded.length)
      (.invalid "evolution-history record exceeds its line bound")
    return some (scan.verifiedCopy ++ encoded)

/-- Whatever fails of the files before they are replaced is refused, and the directory is synced
after that. -/
def appendHistory (record : EvolutionHistoryRecord) (storage : Storage) :
    Fallible ScalesError (Option (List UInt8)) Unit := do
  let file ← get
  let replacement ← liftM (appendedHistory record file)
  let (written, file') := storage.write file replacement
  set file'
  liftM (written.mapError ScalesError.invalid)

end Catalog

/-! ## Logs -/

section Logs

variable [HistoryCodec]

/-- What `serde_json` promises of a record : its line can be read back. -/
structure Written (r : EvolutionHistoryRecord) : Prop where
  reads : fromJson (toJson r) = some r
  line : newline ∉ toJson r
  nonempty : toJson r ≠ []

structure IsLog (records : List EvolutionHistoryRecord) : Prop where
  valid : ∀ r ∈ records, r.validate = .ok ()
  written : ∀ r ∈ records, Written r
  fits : ∀ r ∈ records, (toJson r).length + 1 ≤ maxHistoryLineBytes
  ordered : records.Pairwise fun r next =>
    r.metrics.periodEndsAtUnixSeconds ≤ next.metrics.periodStartedAtUnixSeconds
  apart : (records.map (·.judgmentId)).Nodup

def fileOf : List EvolutionHistoryRecord → Option (List UInt8)
  | [] => none
  | r :: records => some (unlines newline ((r :: records).map toJson))

variable {records : List EvolutionHistoryRecord} {r record : EvolutionHistoryRecord} {σ : Type}
  {visit : σ → EvolutionHistoryRecord → Except ScalesError σ}

theorem fileOf_concat : fileOf (records ++ [record]) =
    some (unlines newline (records.map toJson) ++ (toJson record ++ [newline])) := by
  have hlines : unlines newline ((records ++ [record]).map toJson) =
      unlines newline (records.map toJson) ++ (toJson record ++ [newline]) := by
    rw [List.map_append, unlines_append]
    simp [unlines]
  cases records with
  | nil => exact congrArg some hlines
  | cons r records => exact congrArg some hlines

theorem isLog_nil : IsLog [] :=
  ⟨by simp, by simp, by simp, .nil, .nil⟩

theorem IsLog.tail (h : IsLog (r :: records)) : IsLog records where
  valid := fun r hr => h.valid r (List.mem_cons_of_mem _ hr)
  written := fun r hr => h.written r (List.mem_cons_of_mem _ hr)
  fits := fun r hr => h.fits r (List.mem_cons_of_mem _ hr)
  ordered := (List.pairwise_cons.mp h.ordered).2
  apart := (List.nodup_cons.mp h.apart).2

/-! ### Scanning a log -/

variable {scan scan' : HistoryScan σ} {seen seen' : ValidatedHistoryCatalog × Bool}
  {c : ValidatedHistoryCatalog} {judgmentId : String}

theorem scanLine_toJson (h : IsLog (r :: records)) (hlater : ∀ previous ∈ scan.previousPeriodEnd,
      previous ≤ r.metrics.periodStartedAtUnixSeconds) :
    scanLine visit scan (toJson r) = .ok scan' ↔ ∃ visitor,
      visit scan.visitor r = .ok visitor ∧ ⟨visitor, some r.metrics.periodEndsAtUnixSeconds,
        scan.verifiedCopy ++ (toJson r ++ [newline]), some r⟩ = scan' := by
  have hwritten := h.written r List.mem_cons_self
  have hbefore : ¬scan.previousPeriodEnd.any (fun previous =>
      r.metrics.periodStartedAtUnixSeconds < previous) = true := by
    cases hprevious : scan.previousPeriodEnd with
    | none => exact Bool.false_ne_true
    | some previous => simpa using hlater previous hprevious
  unfold scanLine
  simp only [except_bind_ok, exists_unit, failIf_ok, okOr_ok, except_pure_ok, hwritten.reads,
    Option.some.injEq, exists_eq_left']
  exact ⟨fun hscan => hscan.2.2.2.2, fun hscan => ⟨(h.fits r List.mem_cons_self).not_gt,
    hwritten.nonempty, h.valid r List.mem_cons_self, hbefore, hscan⟩⟩

/-- A scan shows its visitor every record of a log, and copies the lines. -/
theorem foldlM_scanLine (h : IsLog records)
    (hlater : ∀ previous ∈ scan.previousPeriodEnd, ∀ r ∈ records,
      previous ≤ r.metrics.periodStartedAtUnixSeconds) :
    (records.map toJson).foldlM (scanLine visit) scan = .ok scan' ↔ ∃ visitor,
      records.foldlM visit scan.visitor = .ok visitor ∧
        ⟨visitor, (records.getLast?.map (·.metrics.periodEndsAtUnixSeconds)).or
          scan.previousPeriodEnd, scan.verifiedCopy ++ unlines newline (records.map toJson),
          records.getLast?.or scan.last⟩ = scan' := by
  induction records generalizing scan with
  | nil => simp [unlines]
  | cons r records ih =>
    have hpairs := List.pairwise_cons.mp h.ordered
    simp only [List.map_cons, List.foldlM_cons, except_bind_ok,
      scanLine_toJson h fun previous hp => hlater previous hp r List.mem_cons_self]
    constructor
    · rintro ⟨_, ⟨visitor, hvisit, rfl⟩, hrest⟩
      obtain ⟨visitor', hvisitor', rfl⟩ :=
        (ih h.tail fun previous hp r hr => by cases hp; exact hpairs.1 r hr).mp hrest
      refine ⟨visitor', ⟨visitor, hvisit, hvisitor'⟩, ?_⟩
      cases hlast : records.getLast? <;> simp [hlast, List.getLast?_cons]
    · rintro ⟨visitor', ⟨visitor, hvisit, hvisitor'⟩, rfl⟩
      refine ⟨_, ⟨visitor, hvisit, rfl⟩,
        (ih h.tail fun previous hp r hr => by cases hp; exact hpairs.1 r hr).mpr
          ⟨visitor', hvisitor', ?_⟩⟩
      cases hlast : records.getLast? <;> simp [hlast, List.getLast?_cons]

theorem scan_fileOf (h : IsLog records) {visitor : σ} :
    scanHistoryFile visit visitor (fileOf records) = .ok scan ↔ ∃ visitor',
      records.foldlM visit visitor = .ok visitor' ∧
        ⟨visitor', records.getLast?.map (·.metrics.periodEndsAtUnixSeconds),
          unlines newline (records.map toJson), records.getLast?⟩ = scan := by
  have hlines := @foldlM_scanLine _ _ _ visit ⟨visitor, none, [], none⟩ scan h
    fun _ hp => by cases hp
  simp only [Option.or_none, List.nil_append] at hlines
  rw [← hlines]
  cases records with
  | nil => rfl
  | cons r records =>
    have hsplit : (unlines newline ((r :: records).map toJson)).splitOn newline =
        (r :: records).map toJson ++ [[]] := splitOn_unlines fun line hline => by
      obtain ⟨r', hr', rfl⟩ := List.mem_map.mp hline
      exact (h.written r' hr').line
    unfold fileOf scanHistoryFile scanHistoryRecords
    simp only [hsplit, List.dropLast_concat, List.getLast?_concat, Option.getD_some,
      except_bind_ok, exists_unit, failIf_ok, except_pure_ok]
    simp

/-! ### Visiting a log -/

/-- The index of a log. -/
def catalogOf (c : ValidatedHistoryCatalog) (records : List EvolutionHistoryRecord) :
    ValidatedHistoryCatalog :=
  ⟨(records.map fun r => (r.judgmentId, toJson r)).reverse ++ c.directory,
    records.getLast?.or c.last, c.recordCount + records.length⟩

theorem foldlM_insert (hapart : (records.map (·.judgmentId)).Nodup)
    (hfresh : ∀ r ∈ records, r.judgmentId ∉ c.directory.map (·.1))
    (hcount : c.recordCount + records.length ≤ u64Max) :
    records.foldlM ValidatedHistoryCatalog.insert c = .ok (catalogOf c records) := by
  induction records generalizing c with
  | nil => simp [catalogOf]
  | cons r records ih =>
    have hids := List.nodup_cons.mp hapart
    rw [List.length_cons] at hcount
    rw [List.foldlM_cons, except_bind_ok]
    refine ⟨⟨(r.judgmentId, toJson r) :: c.directory, some r, c.recordCount + 1⟩, ?_, ?_⟩
    · unfold ValidatedHistoryCatalog.insert
      simp only [except_check_ok, failIf_ok, except_pure_ok, not_lt, and_true]
      exact ⟨hfresh r List.mem_cons_self, by omega⟩
    · rw [ih hids.2 (fun r' hr' => ?_) (by dsimp only; omega)]
      · unfold catalogOf
        cases hlast : records.getLast? <;>
          simp [hlast, List.getLast?_cons, Nat.add_comm, Nat.add_left_comm]
      · rw [List.map_cons, List.mem_cons, not_or]
        refine ⟨fun heq => hids.1 ?_, hfresh r' (List.mem_cons_of_mem _ hr')⟩
        exact List.mem_map.mpr ⟨r', hr', heq⟩

theorem visitExisting_ok : visitExisting record seen r = .ok seen' ↔ seen.1.insert r = .ok seen'.1 ∧
      (r.hasSamePeriodKey record = true → r = record) ∧
      (seen.2 || r.hasSamePeriodKey record) = seen'.2 := by
  unfold visitExisting
  rw [except_bind_ok]
  obtain ⟨catalog, found⟩ := seen'
  cases hkey : r.hasSamePeriodKey record with
  | false => simp [Prod.ext_iff]
  | true =>
    simp only [if_true, except_check_ok, failIf_ok, except_pure_ok, not_not, Prod.mk.injEq,
      Bool.or_true, true_implies]
    constructor
    · rintro ⟨c, hinsert, ⟨-, hsame⟩, rfl, hfound⟩
      exact ⟨hinsert, hsame, hfound⟩
    · rintro ⟨hinsert, rfl, hfound⟩
      exact ⟨catalog, hinsert, ⟨rfl, rfl⟩, rfl, hfound⟩

theorem foldlM_visitExisting : records.foldlM (visitExisting record) seen = .ok seen' ↔
      records.foldlM ValidatedHistoryCatalog.insert seen.1 = .ok seen'.1 ∧
      (∀ r ∈ records, r.hasSamePeriodKey record = true → r = record) ∧
      (seen.2 || records.any (·.hasSamePeriodKey record)) = seen'.2 := by
  induction records generalizing seen with
  | nil => simp [Prod.ext_iff]
  | cons r records ih =>
    simp only [List.foldlM_cons, except_bind_ok, List.forall_mem_cons, List.any_cons,
      visitExisting_ok, ih]
    constructor
    · rintro ⟨next, ⟨hinsert, hsame, hseen⟩, hrest, hsames, hseens⟩
      refine ⟨⟨next.1, hinsert, hrest⟩, ⟨hsame, hsames⟩, ?_⟩
      rw [← hseens, ← hseen, Bool.or_assoc]
    · rintro ⟨⟨c, hinsert, hrest⟩, ⟨hsame, hsames⟩, hseens⟩
      refine ⟨(c, seen.2 || r.hasSamePeriodKey record), ⟨hinsert, hsame, rfl⟩, hrest, hsames, ?_⟩
      rw [← hseens, Bool.or_assoc]

/-! ### Periods -/

/-- A valid record has a period of at least a day that ends at a time. -/
theorem period_of_valid (h : r.validate = .ok ()) :
    r.metrics.periodStartedAtUnixSeconds + 86400 ≤ r.metrics.periodEndsAtUnixSeconds ∧
      i64Min ≤ r.metrics.periodEndsAtUnixSeconds ∧ r.metrics.periodEndsAtUnixSeconds ≤ i64Max := by
  have hmetrics : r.metrics.validate = .ok () := by
    unfold validate at h
    simp only [except_check_ok] at h
    exact h.2.2.2.2.2.2.1
  unfold TentacleMetrics.validate checkedAddTime at hmetrics
  simp only [except_check_ok, failIf_ok, not_not] at hmetrics
  have hends := hmetrics.2.2.2.2.1
  have hday : 86400 ≤ r.metrics.period.durationSeconds := by
    cases r.metrics.period <;> decide
  split_ifs at hends with hfits
  have hend := Option.some.inj hends
  omega

/-- There is not enough time for more records than an index can count. -/
theorem IsLog.length_mul_le (h : IsLog (r :: records)) :
    86400 * (records.length : ℤ) + r.metrics.periodEndsAtUnixSeconds ≤ i64Max := by
  induction records generalizing r with
  | nil =>
    have hperiod := period_of_valid (h.valid r List.mem_cons_self)
    simpa using hperiod.2.2
  | cons next records ih =>
    have hrest := ih h.tail
    have hnext := (List.pairwise_cons.mp h.ordered).1 next List.mem_cons_self
    have hperiod :=
      period_of_valid (h.valid next (List.mem_cons_of_mem _ List.mem_cons_self))
    rw [List.length_cons]
    push_cast
    omega

theorem IsLog.length_le (h : IsLog records) : records.length ≤ u64Max := by
  cases records with
  | nil => exact Nat.zero_le _
  | cons r records =>
    have hlength := h.length_mul_le
    have hperiod := period_of_valid (h.valid r List.mem_cons_self)
    simp only [List.length_cons, u64Max, i64Max, i64Min] at hlength hperiod ⊢
    omega

/-- No two records of a log are about the same period. -/
theorem IsLog.eq_of_samePeriod (h : IsLog records) (hr : r ∈ records) (hrecord : record ∈ records)
    (hkey : r.hasSamePeriodKey record = true) : r = record := by
  have hstarts : (records.map (·.metrics.periodStartedAtUnixSeconds)).Nodup := by
    rw [List.Nodup, List.pairwise_map]
    refine h.ordered.imp_of_mem fun hr _ hle heq => ?_
    have hperiod := period_of_valid (h.valid _ hr)
    omega
  unfold hasSamePeriodKey at hkey
  simp only [Bool.and_eq_true, decide_eq_true_eq] at hkey
  exact List.inj_on_of_nodup_map hstarts hr hrecord hkey.1.2

theorem hasSamePeriodKey_self : r.hasSamePeriodKey r = true := by
  simp [hasSamePeriodKey]

/-! ### Appending to a log -/

theorem get_none : c.get judgmentId = .ok none ↔
      isHexOf 64 judgmentId = true ∧ judgmentId ∉ c.directory.map (·.1) := by
  unfold ValidatedHistoryCatalog.get
  rw [except_check_ok, failIf_ok, Bool.not_eq_true', Bool.not_eq_false]
  refine and_congr_right fun _ => ?_
  cases hfound : c.directory.find? (·.1 = judgmentId) with
  | none =>
    refine ⟨fun _ hmem => ?_, fun _ => rfl⟩
    obtain ⟨entry, hentry, heq⟩ := List.mem_map.mp hmem
    exact List.find?_eq_none.mp hfound entry hentry (decide_eq_true heq)
  | some entry =>
    simp only [except_bind_ok, except_pure_ok, reduceCtorEq, and_false, exists_false, false_iff,
      not_not]
    obtain ⟨hentry, -⟩ := List.find?_eq_some_iff_append.mp hfound
    exact List.mem_map.mpr ⟨entry, List.mem_of_find?_eq_some hfound, of_decide_eq_true hentry⟩

structure Follows (records : List EvolutionHistoryRecord) (record : EvolutionHistoryRecord) :
    Prop where
  period : ∀ r ∈ records, ¬r.hasSamePeriodKey record = true
  fresh : record.judgmentId ∉ records.map (·.judgmentId)
  later : ∀ previous ∈ records.getLast?,
    previous.metrics.periodEndsAtUnixSeconds ≤ record.metrics.periodStartedAtUnixSeconds
  fits : (toJson record).length + 1 ≤ maxHistoryLineBytes

theorem mem_directory_catalogOf : judgmentId ∈ (catalogOf {} records).directory.map (·.1) ↔
      judgmentId ∈ records.map (·.judgmentId) := by
  simp [catalogOf]

theorem isHexOf_judgmentId (h : r.validate = .ok ()) : isHexOf 64 r.judgmentId = true := by
  unfold validate at h
  simp only [except_check_ok, failIf_ok, not_not] at h
  exact h.2.2.2.2.2.1.1

/-- An append to a log finds its record there, or leaves the file of a longer log. -/
theorem appendedHistory_ok (h : IsLog records) {file : Option (List UInt8)} :
    appendedHistory record (fileOf records) = .ok file ↔ record.validate = .ok () ∧
      (record ∈ records ∧ fileOf records = file ∨
        Follows records record ∧ fileOf (records ++ [record]) = file) := by
  have hindexed := foldlM_insert (c := {}) h.apart (by simp) (by simpa using h.length_le)
  unfold appendedHistory
  simp only [except_bind_ok, exists_unit, scan_fileOf h, foldlM_visitExisting, hindexed]
  refine and_congr_right fun hvalid => ?_
  constructor
  · rintro ⟨scan, ⟨⟨catalog, found⟩, ⟨hcatalog, hsame, hfound⟩, rfl⟩, hrest⟩
    obtain rfl := Except.ok.inj hcatalog
    cases found with
    | true =>
      obtain ⟨r, hr, hkey⟩ := List.any_eq_true.mp hfound
      exact .inl ⟨hsame r hr hkey ▸ hr, Except.ok.inj hrest⟩
    | false =>
      simp only [Bool.false_eq_true, if_false, except_bind_ok, exists_unit, failIf_ok,
        except_pure_ok, fileOf_concat] at hrest ⊢
      obtain ⟨found, hget, hnone, hlater, hfits, rfl⟩ := hrest
      obtain rfl : found = none := by simpa using hnone
      refine .inr ⟨⟨?_, ?_, ?_, by simpa using hfits⟩, rfl⟩
      · simpa using hfound
      · exact fun hmem => ((get_none).mp hget).2 ((mem_directory_catalogOf).mpr hmem)
      · intro previous hprevious
        rw [Option.mem_def.mp hprevious] at hlater
        simpa using hlater
  · rintro (⟨hmem, rfl⟩ | ⟨hfollows, rfl⟩)
    · refine ⟨_, ⟨(catalogOf {} records, true), ⟨rfl, fun r hr hkey =>
        h.eq_of_samePeriod hr hmem hkey, ?_⟩, rfl⟩, rfl⟩
      exact List.any_eq_true.mpr ⟨record, hmem, hasSamePeriodKey_self⟩
    · refine ⟨_, ⟨(catalogOf {} records, false), ⟨rfl, fun r hr hkey =>
        absurd hkey (hfollows.period r hr), ?_⟩, rfl⟩, ?_⟩
      · simpa using hfollows.period
      · simp only [Bool.false_eq_true, if_false, except_bind_ok, exists_unit, failIf_ok,
          except_pure_ok, fileOf_concat]
        refine ⟨none, (get_none).mpr ⟨isHexOf_judgmentId hvalid,
          fun hmem => hfollows.fresh ((mem_directory_catalogOf).mp hmem)⟩, Bool.false_ne_true, ?_,
          by simpa using hfollows.fits, trivial⟩
        cases hlast : records.getLast? with
        | none => exact Bool.false_ne_true
        | some previous => simpa using hfollows.later previous hlast

theorem IsLog.concat (h : IsLog records) (hvalid : record.validate = .ok ())
    (hwritten : Written record) (hfollows : Follows records record) :
    IsLog (records ++ [record]) where
  valid := List.forall_mem_append.mpr ⟨h.valid, by simpa using hvalid⟩
  written := List.forall_mem_append.mpr ⟨h.written, by simpa using hwritten⟩
  fits := List.forall_mem_append.mpr ⟨h.fits, by simpa using hfollows.fits⟩
  ordered := by
    refine List.pairwise_append.mpr ⟨h.ordered, List.pairwise_singleton _ _, fun r hr r' hr' => ?_⟩
    obtain rfl := List.mem_singleton.mp hr'
    obtain ⟨init, last, rfl⟩ :=
      (List.eq_nil_or_concat' records).resolve_left (List.ne_nil_of_mem hr)
    have hlater := hfollows.later last (by simp)
    rcases List.mem_append.mp hr with hr | hr
    · have hbefore := (List.pairwise_append.mp h.ordered).2.2 r hr last List.mem_cons_self
      have hperiod := period_of_valid (h.valid last (by simp))
      omega
    · rwa [List.mem_singleton.mp hr]
  apart := by
    rw [List.map_append, List.map_singleton]
    exact List.nodup_append'.mpr ⟨h.apart, List.nodup_singleton _, by simpa using hfollows.fresh⟩

/-! ## Runs -/

/-- A file, and the records that were entered into it. -/
structure HistoryRun where
  file : Option (List UInt8) := none
  accepted : List EvolutionHistoryRecord := []

/-- One call. The record is entered where the call has changed the file. -/
def HistoryRun.next (run : HistoryRun) (call : EvolutionHistoryRecord × Storage) : HistoryRun :=
  let file := (appendHistory call.1 call.2).after run.file
  ⟨file, if file = run.file then run.accepted else run.accepted ++ [call.1]⟩

/-- Calls from a missing file on, with records that `serde_json` keeps its promises for. -/
def historyMachine : Machine HistoryRun (EvolutionHistoryRecord × Storage) where
  init := {}
  Allowed _ call := Written call.1
  next := HistoryRun.next

/-- The file of a run is that of the log of its records. -/
structure HistoryRun.IsLog (run : HistoryRun) : Prop where
  file : run.file = fileOf run.accepted
  log : Scales.IsLog run.accepted

variable {run : HistoryRun} {storage : Storage}

theorem fileOf_concat_ne : fileOf (records ++ [record]) ≠ fileOf records := by
  rw [fileOf_concat]
  cases records with
  | nil => exact Option.some_ne_none _
  | cons r records =>
    intro heq
    have hlength := congrArg List.length (Option.some.inj heq)
    simp at hlength

theorem exec_appendHistory (file : Option (List UInt8)) :
    (appendHistory record storage).exec file = match appendedHistory record file with
      | .error e => (.error e, file)
      | .ok replacement => ((storage.write file replacement).1.mapError .invalid,
          (storage.write file replacement).2) := by
  unfold appendHistory
  rw [Fallible.exec_get_bind, Fallible.exec_lift_bind]
  cases appendedHistory record file with
  | error e => rfl
  | ok replacement =>
    dsimp only
    rw [Fallible.exec_set_bind, Fallible.exec_lift]

/-- A call leaves the file as it is, or that of the longer log, of which the record then is one. -/
theorem HistoryRun.IsLog.after (h : run.IsLog) :
    (appendHistory record storage).after run.file = run.file ∨
      record.validate = .ok () ∧ Follows run.accepted record ∧
        (appendHistory record storage).after run.file = fileOf (run.accepted ++ [record]) := by
  unfold Fallible.after
  rw [exec_appendHistory]
  cases hreplacement : appendedHistory record run.file with
  | error e => exact .inl rfl
  | ok replacement =>
    dsimp only
    rw [storage.write_snd_eq]
    split_ifs
    · rw [h.file, appendedHistory_ok h.log] at hreplacement
      obtain ⟨hvalid, ⟨-, hsame⟩ | ⟨hfollows, hlonger⟩⟩ := hreplacement
      · exact .inl (hsame ▸ h.file.symm)
      · exact .inr ⟨hvalid, hfollows, hlonger.symm⟩
    · exact .inl rfl

theorem HistoryRun.next_eq_self
    (h : (appendHistory record storage).after run.file = run.file) :
    run.next (record, storage) = run := by
  unfold HistoryRun.next
  dsimp only
  rw [h, if_pos rfl]

theorem HistoryRun.IsLog.next_eq_concat (h : run.IsLog)
    (hlonger : (appendHistory record storage).after run.file = fileOf (run.accepted ++ [record])) :
    run.next (record, storage) =
      ⟨fileOf (run.accepted ++ [record]), run.accepted ++ [record]⟩ := by
  unfold HistoryRun.next
  dsimp only
  rw [hlonger, if_neg (h.file ▸ fileOf_concat_ne)]

theorem HistoryRun.IsLog.next (h : run.IsLog) (hwritten : Written record) :
    (run.next (record, storage)).IsLog := by
  rcases @HistoryRun.IsLog.after _ record _ storage h with hsame | ⟨hvalid, hfollows, hlonger⟩
  · rw [HistoryRun.next_eq_self hsame]
    exact h
  · rw [h.next_eq_concat hlonger]
    exact ⟨rfl, h.log.concat hvalid hwritten hfollows⟩

theorem historyMachine_isLog (h : historyMachine.Reachable run) : run.IsLog :=
  h.invariant ⟨rfl, isLog_nil⟩ fun _ _ _ hlog hwritten => hlog.next hwritten

theorem HistoryRun.IsLog.historyCatalog (h : run.IsLog) :
    historyCatalog run.file = .ok (catalogOf {} run.accepted) := by
  unfold Scales.historyCatalog
  rw [h.file, except_bind_ok]
  exact ⟨_, (scan_fileOf h.log).mpr ⟨_, foldlM_insert h.log.apart (by simp)
    (by simpa using h.log.length_le), rfl⟩, rfl⟩

theorem foldlM_collect {collected : List EvolutionHistoryRecord}
    (h : ((collected ++ records).map (·.judgmentId)).Nodup) :
    records.foldlM collectRecord collected = .ok (collected ++ records) := by
  induction records generalizing collected with
  | nil => simp
  | cons r records ih =>
    have hfresh : r.judgmentId ∉ collected.map (·.judgmentId) := by
      rw [List.map_append, List.nodup_append'] at h
      exact fun hmem => h.2.2 hmem (by simp)
    rw [List.append_cons] at h ⊢
    rw [List.foldlM_cons, except_bind_ok]
    refine ⟨collected ++ [r], ?_, ih h⟩
    unfold collectRecord
    rw [except_check_ok, failIf_ok]
    exact ⟨hfresh, rfl⟩

theorem HistoryRun.IsLog.loadHistory (h : run.IsLog) :
    loadHistory run.file = .ok run.accepted := by
  unfold Scales.loadHistory
  rw [h.file, except_bind_ok]
  exact ⟨_, (scan_fileOf h.log).mpr ⟨_, @foldlM_collect _ _ [] h.log.apart, rfl⟩, rfl⟩

/-- How the next call ends. -/
def HistoryRun.result (run : HistoryRun) (record : EvolutionHistoryRecord) (storage : Storage) :
    Except ScalesError Unit :=
  ((appendHistory record storage).exec run.file).1

/-- What the next call does. A stored record is found again and the file stays. A record that
conflicts with a stored one is refused. A call that succeeds has its record in the file, and a call
that fails leaves the file as it is, unless the directory is not synced after it was replaced. -/
structure HistoryRun.Answers (run : HistoryRun) (record : EvolutionHistoryRecord)
    (storage : Storage) : Prop where
  stored : record ∈ run.accepted →
    run.next (record, storage) = run ∧ (storage = .written → run.result record storage = .ok ())
  conflict : ∀ r ∈ run.accepted, r.hasSamePeriodKey record = true → r ≠ record →
    run.next (record, storage) = run ∧ run.result record storage ≠ .ok ()
  succeeds : run.result record storage = .ok () → record ∈ (run.next (record, storage)).accepted
  fails : run.result record storage ≠ .ok () →
    run.next (record, storage) = run ∨ ∃ error, storage = .unconfirmed error

theorem HistoryRun.IsLog.answers (h : run.IsLog) : run.Answers record storage := by
  have hexec := @exec_appendHistory _ record storage run.file
  cases hreplacement : appendedHistory record run.file with
  | error e =>
    rw [hreplacement] at hexec
    have hsame := HistoryRun.next_eq_self (congrArg Prod.snd hexec)
    have hfailed : run.result record storage = .error e := congrArg Prod.fst hexec
    refine ⟨fun hmem => ?_, fun _ _ _ _ => ⟨hsame, by simp [hfailed]⟩, by simp [hfailed],
      fun _ => .inl hsame⟩
    have hfound := (appendedHistory_ok h.log).mpr ⟨h.log.valid record hmem, .inl ⟨hmem, rfl⟩⟩
    rw [← h.file, hreplacement] at hfound
    cases hfound
  | ok replacement =>
    rw [hreplacement] at hexec
    have hresult : run.result record storage =
        (storage.write run.file replacement).1.mapError .invalid := congrArg Prod.fst hexec
    have hafter : (appendHistory record storage).after run.file =
        (storage.write run.file replacement).2 := congrArg Prod.snd hexec
    rw [h.file, appendedHistory_ok h.log, ← h.file] at hreplacement
    obtain ⟨-, ⟨hmem, rfl⟩ | ⟨hfollows, rfl⟩⟩ := hreplacement
    · have hsame := HistoryRun.next_eq_self (hafter.trans (by cases storage <;> rfl))
      refine ⟨fun _ => ⟨hsame, ?_⟩, fun r hr hkey hne =>
        absurd (h.log.eq_of_samePeriod hr hmem hkey) hne, fun _ => ?_, fun _ => .inl hsame⟩
      · rintro rfl
        exact hresult
      · rwa [hsame]
    · refine ⟨fun hmem => absurd hasSamePeriodKey_self (hfollows.period record hmem),
        fun r hr hkey => absurd hkey (hfollows.period r hr), ?_, ?_⟩
      · cases storage with
        | written =>
          rw [h.next_eq_concat hafter]
          exact fun _ => List.mem_append_right _ List.mem_cons_self
        | refused error => simp [hresult, Storage.write, Except.mapError]
        | unconfirmed error => simp [hresult, Storage.write, Except.mapError]
      · cases storage with
        | written => simp [hresult, Storage.write, Except.mapError]
        | refused error => exact fun _ => .inl (HistoryRun.next_eq_self hafter)
        | unconfirmed error => exact fun _ => .inr ⟨error, rfl⟩

/-- A file that appends alone have made holds the entered records in order, as `load_history` and
`history_catalog` read it : their periods follow one another, their identifiers are distinct. -/
theorem history_log (h : historyMachine.Reachable run) :
    loadHistory run.file = .ok run.accepted ∧
      (∃ catalog, historyCatalog run.file = .ok catalog) ∧
      (run.accepted.IsChain fun r next =>
        r.metrics.periodEndsAtUnixSeconds ≤ next.metrics.periodStartedAtUnixSeconds) ∧
      (run.accepted.map (·.judgmentId)).Nodup ∧
      ∀ record storage, run.Answers record storage :=
  have hlog := historyMachine_isLog h
  ⟨hlog.loadHistory, ⟨_, hlog.historyCatalog⟩, hlog.log.ordered.isChain, hlog.log.apart,
    fun _ _ => hlog.answers⟩

end Logs

/-! ### A sample -/

/-- The first judgment of a Tentacle that nothing has happened to. -/
def sampleRecord : EvolutionHistoryRecord :=
  { schemaVersion := 2
    judgmentId := "d68b4fa21e25eb31d25fa5287e5d469c8da6869c2a3c6e975674227254e0cb54"
    natureId := sampleDigits 32
    natureFingerprint := sampleDigits 64
    awakeningEpoch := 1
    metrics := sampleMetrics false
    judgment := (sampleMetrics false).judgment 86400 (.forPeriod .daily) .final
      ⟨3334, 3333, 0, 3333⟩ ⟨0, 0, none, 0, 0, 0, 0⟩ .dormant }

/-- Its line, with parentheses for braces and single quotes for double ones. -/
def sampleText : List String :=
  ["('schemaVersion':2,",
    "'judgmentId':'d68b4fa21e25eb31d25fa5287e5d469c8da6869c2a3c6e975674227254e0cb54',",
    "'natureId':'00000000000000000000000000000000',",
    "'natureFingerprint':'0000000000000000000000000000000000000000000000000000000000000000',",
    "'awakeningEpoch':1,'metrics':('schemaVersion':1,",
    "'natureId':'00000000000000000000000000000000',",
    "'natureFingerprint':'0000000000000000000000000000000000000000000000000000000000000000',",
    "'awakeningEpoch':1,'period':'daily','periodStartedAtUnixSeconds':0,",
    "'periodEndsAtUnixSeconds':86400,'engagement':('conversations':0,",
    "'conversationDepthTotal':0,'returningConversations':0,'responseTimeSamples':0,",
    "'responseTimeMsTotal':0),'growth':('childrenSpawned':0,'acolytesRecruited':0,",
    "'networkContributionPoints':0),'wealth':null,'influence':('governanceParticipation':0,",
    "'siblingInfluencePoints':0),'scoredScaleAvailability':('engagement':true,'growth':true,",
    "'wealth':false,'influence':true),'natureAdjustmentStressEvents':0),",
    "'judgment':('schemaVersion':2,'metricsSchemaVersion':1,'period':'daily',",
    "'periodStartedAtUnixSeconds':0,'periodEndsAtUnixSeconds':86400,",
    "'evaluatedAtUnixSeconds':86400,'evaluationStatus':'final','policy':('schemaVersion':1,",
    "'period':'daily','targets':('averageConversationDepth':8,'responseTimeFullCreditMs':3000,",
    "'responseTimeZeroCreditMs':120000,'childrenSpawned':1,'acolytesRecruited':2,",
    "'networkContributionPoints':100,'revenueMicroUnits':1000000,'efficiencyBasisPoints':8000,",
    "'governanceParticipation':1,'siblingInfluencePoints':100),",
    "'thresholds':('propagationRightsMin':8000,'survivalMin':5500,'starvationWarningMin':3000),",
    "'propagationMinConversations':0,'propagationMinReturningConversations':0),",
    "'scoredScaleAvailability':('engagement':true,'growth':true,'wealth':false,",
    "'influence':true),'weights':('engagement':3334,'growth':3333,'wealth':0,'influence':3333),",
    "'scores':('engagement':0,'growth':0,'wealth':null,'influence':0,",
    "'weightedTotalBeforeStress':0,'stressPenalty':0,'total':0),",
    "'propagationEvidence':('observedConversations':0,'observedReturningConversations':0,",
    "'requiredConversations':0,'requiredReturningConversations':0,'eligible':true),",
    "'outcome':'dormant','execution':'automatic_lifecycle_action_required'))"]

def sampleLine : List UInt8 :=
  sampleText.flatMap fun text => text.toByteArray.data.toList.map fun byte =>
    if byte = 0x28 then 0x7b else if byte = 0x29 then 0x7d else if byte = 0x27 then 0x22 else byte

@[reducible] def sampleCodec : HistoryCodec where
  toJson r := if r = sampleRecord then sampleLine else []
  fromJson line := if line = sampleLine then some sampleRecord else none
  sha256 _ := 0xd68b4fa21e25eb31d25fa5287e5d469c8da6869c2a3c6e975674227254e0cb54

attribute [local instance] sampleCodec

theorem toJson_sampleRecord : toJson sampleRecord = sampleLine :=
  if_pos rfl

theorem sampleRecord_plain : newline ∉ sampleLine ∧ sampleLine.length = 2156 ∧
    sampleRecord.validate = .ok () := by
  decide +kernel

theorem written_sampleRecord : Written sampleRecord where
  reads := by
    rw [toJson_sampleRecord]
    exact if_pos rfl
  line := by
    rw [toJson_sampleRecord]
    exact sampleRecord_plain.1
  nonempty := by
    rw [toJson_sampleRecord]
    exact List.ne_nil_of_length_pos (by rw [sampleRecord_plain.2.1]; decide)

theorem appendedHistory_sampleRecord :
    appendedHistory sampleRecord none = .ok (fileOf [sampleRecord]) := by
  refine (appendedHistory_ok isLog_nil).mpr ⟨sampleRecord_plain.2.2,
    .inr ⟨⟨by simp, by simp, by simp, ?_⟩, rfl⟩⟩
  rw [toJson_sampleRecord, sampleRecord_plain.2.1]
  decide

/-- A missing file, and one call. -/
def sampleHistory : HistoryRun :=
  HistoryRun.next {} (sampleRecord, .written)

theorem history_log_sample : loadHistory sampleHistory.file = .ok sampleHistory.accepted ∧
    (∃ catalog, historyCatalog sampleHistory.file = .ok catalog) ∧
    (sampleHistory.accepted.IsChain fun r next =>
      r.metrics.periodEndsAtUnixSeconds ≤ next.metrics.periodStartedAtUnixSeconds) ∧
    (sampleHistory.accepted.map (·.judgmentId)).Nodup ∧
    ∀ record storage, sampleHistory.Answers record storage :=
  history_log (.next .init written_sampleRecord)

/-- A call whose directory is not synced fails, and the record is in the file. -/
theorem unsynced_append_changes_file : historyMachine.Reachable {} ∧ Written sampleRecord ∧
    (appendHistory sampleRecord (.unconfirmed "syncing state")).exec none =
      (.error (.invalid "syncing state"), some (sampleLine ++ [newline])) := by
  refine ⟨.init, written_sampleRecord, ?_⟩
  rw [exec_appendHistory, appendedHistory_sampleRecord]
  simp [fileOf, unlines, toJson_sampleRecord, Storage.write, Except.mapError]

end Cthuwu.Scales
