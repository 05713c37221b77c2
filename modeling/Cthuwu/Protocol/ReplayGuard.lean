import Cthuwu.Protocol.Envelope

/-!
# Signatures and the replay guard

A verifier is asked about the bytes of an envelope without its signature. The replay guard keeps
the identifiers it has seen and, for each sender in a council, the highest sequence number : what
it guards is a log of envelopes that repeats no identifier and in which each sender counts up
(`ReplayGuard.Guards`). A refused envelope leaves the guard as it was.
-/

namespace Cthuwu.Protocol

open Council
open Fallible

/-! ## Signatures -/

/-- The trust decision of a deployment. -/
abbrev CouncilVerifier := CthulhuId → List UInt8 → Signature → Except Unit Unit

def CouncilEnvelope.verifySignature [Wire] (e : CouncilEnvelope) (verifier : CouncilVerifier) :
    Except ValidationError Unit := do
  let signature ← okOr e.signature ⟨"signature", .signatureMissing⟩
  signature.validate
  let canonical ← (Wire.canonicalSigningBytes e).mapError fun _ => ⟨"signature", .invalidFormat⟩
  (verifier e.senderCthulhuId canonical signature).mapError fun _ =>
    ⟨"signature", .signatureInvalid⟩

/-! ## The guard -/

structure SenderSequenceKey where
  councilId : CouncilId
  cthulhuId : CthulhuId
  tentacleId : TentacleId
  deriving DecidableEq

/-- Who counts the envelopes up. -/
def CouncilEnvelope.sequenceKey (e : CouncilEnvelope) : SenderSequenceKey :=
  ⟨e.councilId, e.senderCthulhuId, e.senderTentacleId⟩

structure ReplayGuard where
  maxMessages : ℕ
  maxSenders : ℕ
  seenMessageIds : Finset (Id .message)
  highestSequence : HashMap SenderSequenceKey ℕ

def ReplayGuard.new (maxMessages maxSenders : ℕ) : Except ValidationError ReplayGuard := do
  rejectIf (maxMessages = 0 ∨ maxSenders = 0) "replayGuard" .outOfRange
  return ⟨maxMessages, maxSenders, ∅, .empty⟩

abbrev GuardOp (α : Type) := Fallible ValidationError ReplayGuard α

/-- The two writes of `checkAndRecord`. -/
def ReplayGuard.record (e : CouncilEnvelope) (guard : ReplayGuard) : ReplayGuard :=
  { guard with
    seenMessageIds := insert e.messageId guard.seenMessageIds
    highestSequence := guard.highestSequence.insert e.sequenceKey e.sequence }

def checkAndRecord [Hashing] [Wire] (e : CouncilEnvelope) (now : Timestamp) : GuardOp Unit := do
  liftM (e.validateAt now)
  let guard ← get
  liftM (rejectIf (e.messageId ∈ guard.seenMessageIds) "messageId" .replay)
  liftM (rejectIf ((guard.highestSequence.get e.sequenceKey).any fun highest =>
    e.sequence ≤ highest) "sequence" .nonMonotonicSequence)
  liftM (rejectIf (guard.seenMessageIds.card = guard.maxMessages) "replayGuard.messages"
    (.tooMany guard.maxMessages (guard.seenMessageIds.card + 1)))
  liftM (rejectIf (!guard.highestSequence.contains e.sequenceKey ∧
    guard.highestSequence.len = guard.maxSenders) "replayGuard.senders"
    (.tooMany guard.maxSenders (guard.highestSequence.len + 1)))
  modify (ReplayGuard.record e)

section

variable [Hashing] [Wire] {e : CouncilEnvelope} {now : Timestamp} {guard guard' : ReplayGuard}

/-- What the guard lets through is new, and counts up. -/
theorem checkAndRecord_ok (h : (checkAndRecord e now).exec guard = (.ok (), guard')) :
    e.messageId ∉ guard.seenMessageIds ∧
      (∀ highest, guard.highestSequence.get e.sequenceKey = some highest → highest < e.sequence) ∧
      guard' = guard.record e := by
  unfold checkAndRecord at h
  simp only [lift_bind_ok, exists_unit, exec_get_bind, failIf_ok,
    exec_modify, Prod.mk.injEq, true_and] at h
  obtain ⟨-, hfresh, hcounts, -, -, rfl⟩ := h
  refine ⟨hfresh, fun highest hget => ?_, rfl⟩
  rw [hget, Option.any_some, decide_eq_true_eq, not_le] at hcounts
  exact hcounts

theorem atomic_checkAndRecord : Fallible.Atomic (checkAndRecord e now) :=
  (readOnly_lift _).bind_atomic fun _ => Fallible.readOnly_get.bind_atomic fun _ =>
    (readOnly_lift _).bind_atomic fun _ => (readOnly_lift _).bind_atomic fun _ =>
      (readOnly_lift _).bind_atomic fun _ =>
        (readOnly_lift _).bind_atomic fun _ => (infallible_modify _).atomic

end

/-! ## What a guard guards -/

variable {e : CouncilEnvelope} {guard : ReplayGuard} {log : List CouncilEnvelope}

/-- Each sender in a council counts its envelopes up. -/
def CountsUp (log : List CouncilEnvelope) : Prop :=
  log.Pairwise fun a b => a.sequenceKey = b.sequenceKey → a.sequence < b.sequence

/-- A guard that has recorded a log, and let none of it through twice. -/
structure ReplayGuard.Guards (guard : ReplayGuard) (log : List CouncilEnvelope) : Prop where
  seen : ∀ e ∈ log, e.messageId ∈ guard.seenMessageIds
  highest : ∀ e ∈ log, ∃ highest, guard.highestSequence.get e.sequenceKey = some highest ∧
    e.sequence ≤ highest
  nodup : (log.map (·.messageId)).Nodup
  countsUp : CountsUp log

theorem guards_nil : guard.Guards [] where
  seen _ h := absurd h List.not_mem_nil
  highest _ h := absurd h List.not_mem_nil
  nodup := List.nodup_nil
  countsUp := List.Pairwise.nil

/-- What the guard lets through goes to the end of the log. -/
theorem ReplayGuard.Guards.record (h : guard.Guards log)
    (hfresh : e.messageId ∉ guard.seenMessageIds)
    (hcounts : ∀ highest, guard.highestSequence.get e.sequenceKey = some highest →
      highest < e.sequence) : (guard.record e).Guards (log ++ [e]) where
  seen := by
    intro a ha
    rcases List.mem_append.mp ha with ha | ha
    · exact Finset.mem_insert_of_mem (h.seen a ha)
    · rw [List.mem_singleton.mp ha]
      exact Finset.mem_insert_self ..
  highest := by
    intro a ha
    unfold ReplayGuard.record
    dsimp only
    rw [HashMap.get_insert_apply]
    rcases List.mem_append.mp ha with ha | ha
    · obtain ⟨highest, hget, hle⟩ := h.highest a ha
      split_ifs with hkey
      · rw [hkey] at hget
        exact ⟨_, rfl, hle.trans (hcounts highest hget).le⟩
      · exact ⟨highest, hget, hle⟩
    · rw [List.mem_singleton.mp ha, if_pos rfl]
      exact ⟨_, rfl, le_rfl⟩
  nodup := by
    rw [List.map_append, List.map_singleton, ← List.concat_eq_append, List.nodup_concat]
    refine ⟨fun hmem => hfresh ?_, h.nodup⟩
    obtain ⟨a, ha, heq⟩ := List.mem_map.mp hmem
    exact heq ▸ h.seen a ha
  countsUp := by
    refine List.pairwise_append.mpr ⟨h.countsUp, List.pairwise_singleton .., ?_⟩
    intro a ha b hb hkey
    rw [List.mem_singleton.mp hb] at hkey ⊢
    obtain ⟨highest, hget, hle⟩ := h.highest a ha
    rw [hkey] at hget
    exact hle.trans_lt (hcounts highest hget)

end Cthuwu.Protocol
