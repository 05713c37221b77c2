import Cthuwu.Awakening.Agreement
import Cthuwu.Lib.Runs

/-!
# Recovery of the awakening

A node takes the transitions of its ritual one at a time and saves its Nature after each. It may
stop anywhere and starts again from the log and the Nature it finds, which is then the one before
the last transition or the one after it. `recovers_iff` : every restart rebuilds the live ritual
and every failed transition leaves no trace exactly as long as no write of the log replaces the
file and then fails.
-/

namespace Cthuwu.Awakening

open Council Evolution

/-- Two rituals are the same, but for the time at which their epoch started. -/
structure AwakeningRitual.Same (ritual live : AwakeningRitual) : Prop where
  nature : ritual.nature = live.nature
  phase : ritual.phase = live.phase
  epoch : ritual.epoch = live.epoch
  lastEventAtUnix : ritual.lastEventAtUnix = live.lastEventAtUnix
  adjustmentCount : ritual.adjustmentCount = live.adjustmentCount
  rerollCount : ritual.rerollCount = live.rerollCount

theorem new_ok {nature : TentacleNature} {startedAtUnix : ℕ} (h : validateNature nature = .ok ()) :
    AwakeningRitual.new nature startedAtUnix = .ok
      { nature := nature
        phase := .awaitingConfirmation
        epoch := 1
        startedAtUnix := startedAtUnix
        lastEventAtUnix := startedAtUnix
        adjustmentCount := 0
        rerollCount := 0 } := by
  unfold AwakeningRitual.new
  rw [h]
  rfl

section

variable [Hashing] [LogSigning] {log : List AwakeningLogEntry} {ritual live : AwakeningRitual}

theorem Rebuilds.of_same (h : Rebuilds log live) (hsame : ritual.Same live) : Rebuilds log ritual :=
  { readable := h.readable
    nature := hsame.nature ▸ h.nature
    last := fun last hlast => by
      rw [hsame.nature, hsame.epoch, hsame.lastEventAtUnix, hsame.phase]
      exact h.last last hlast
    epochs := hsame.epoch ▸ h.epochs
    rebuilt := fun base hbase => by
      have hprogress : base.withProgress ritual = base.withProgress live := by
        unfold AwakeningRitual.withProgress
        rw [hsame.phase, hsame.adjustmentCount, hsame.rerollCount]
      rw [hprogress, hsame.epoch]
      exact h.rebuilt base hbase }

/-- The Nature on disk is that of the last entry, or of the one before it. -/
def SavedBy (log : List AwakeningLogEntry) (nature saved : TentacleNature) : Prop :=
  match log.getLast? with
  | none => saved = nature
  | some last => saved = last.natureSnapshot ∨ saved = last.predecessorNatureSnapshot

/-- The last epoch of the log gives the ritual back. -/
theorem fromVerifiedEntries_ok (h : Rebuilds log ritual) {last : AwakeningLogEntry}
    (hlast : log.getLast? = some last) (fallback : ℕ) :
    ∃ recovered, fromVerifiedEntries last.natureSnapshot fallback log = .ok recovered ∧
      recovered.Same ritual := by
  obtain ⟨hnature, hepoch, htimestamp, hphase⟩ := h.last last hlast
  obtain ⟨first, rest, hentries⟩ :
      ∃ first rest, (log.filter fun entry => entry.epoch = last.epoch) = first :: rest := by
    refine List.exists_cons_of_ne_nil fun hnil => ?_
    have hmem := List.mem_of_getLast? hlast
    exact List.filter_eq_nil_iff.mp hnil last hmem (decide_eq_true rfl)
  let started :=
    if last.epoch = 1 then min fallback first.timestampUnix else first.timestampUnix
  let base : AwakeningRitual :=
    { nature := last.natureSnapshot
      phase := .awaitingConfirmation
      epoch := last.epoch
      startedAtUnix := started
      lastEventAtUnix := last.timestampUnix
      adjustmentCount := 0
      rerollCount := 0 }
  have hnew : AwakeningRitual.new last.natureSnapshot started = .ok
      { base with
        epoch := 1
        lastEventAtUnix := started } :=
    new_ok (hnature ▸ h.nature)
  have hreplay : replay recount base (first :: rest) = .ok (base.withProgress ritual) := by
    rw [← hentries, hepoch]
    exact h.rebuilt base ⟨rfl, rfl, rfl⟩
  refine ⟨base.withProgress ritual, ?_, ⟨hnature, rfl, hepoch, htimestamp, rfl, rfl⟩⟩
  unfold fromVerifiedEntries
  refine except_bind_ok.mpr ⟨last, okOr_ok.mpr hlast, ?_⟩
  refine except_check_ok.mpr ⟨failIf_ok.mpr fun hne => hne rfl, ?_⟩
  dsimp only
  refine except_bind_ok.mpr ⟨first, okOr_ok.mpr (by rw [hentries]; rfl), ?_⟩
  refine except_bind_ok.mpr ⟨_, hnew, ?_⟩
  refine except_bind_ok.mpr ⟨_, by rw [hentries]; exact hreplay, ?_⟩
  exact except_check_ok.mpr ⟨failIf_ok.mpr fun hne => hne hphase.symm, rfl⟩

/-- A restart succeeds, and finds the ritual that has been logged. -/
theorem resumeOrRecover_ok (h : Rebuilds log ritual) {saved : TentacleNature}
    (hsaved : SavedBy log ritual.nature saved) (hvalid : validateNature saved = .ok ())
    (startedAtUnix : ℕ) :
    ∃ recovery, resumeOrRecover (some saved) startedAtUnix log = .ok recovery ∧
      Rebuilds log recovery.ritual ∧ SavedBy log recovery.ritual.nature saved ∧
      (log ≠ [] → recovery.ritual.Same ritual) := by
  unfold resumeOrRecover
  unfold SavedBy at hsaved ⊢
  rw [h.readable]
  cases hlast : log.getLast? with
  | none =>
    cases List.getLast?_eq_none_iff.mp hlast
    refine ⟨_, except_bind_ok.mpr ⟨[], rfl, except_bind_ok.mpr ⟨saved, rfl,
      except_bind_ok.mpr ⟨_, new_ok hvalid, rfl⟩⟩⟩, ?_⟩
    exact ⟨.start hvalid ⟨rfl, rfl, rfl⟩, rfl, fun hne => absurd rfl hne⟩
  | some last =>
    rw [hlast] at hsaved
    dsimp only at hsaved
    obtain ⟨recovered, hrecovered, hsame⟩ := fromVerifiedEntries_ok h hlast startedAtUnix
    obtain ⟨ahead, hahead⟩ : ∃ ahead, natureRecoveredFromLog (some saved) last = .ok ahead := by
      unfold natureRecoveredFromLog
      dsimp only
      rw [hvalid]
      rcases hsaved with hsaved | hsaved
      · exact ⟨false, if_pos hsaved⟩
      · by_cases heq : saved = last.natureSnapshot
        · exact ⟨false, if_pos heq⟩
        · exact ⟨true, (if_neg heq).trans (if_pos hsaved)⟩
    refine ⟨⟨recovered, ahead⟩, ?_, h.of_same hsame, hsaved, fun _ => hsame⟩
    refine except_bind_ok.mpr ⟨log, rfl, ?_⟩
    rw [hlast]
    exact except_bind_ok.mpr ⟨ahead, hahead, except_bind_ok.mpr ⟨recovered, hrecovered, rfl⟩⟩

/-! ## Transitions in full -/

/-- The entry that a transition will write, once everything before the write has passed. -/
def Live.checked (live : Live) (request : Request) (p : Proposed) :
    Except String AwakeningLogEntry :=
  checkedEntry live.log p.candidate.epoch request.timestampUnix request.provenance p.action
    live.ritual.nature p.candidate.nature p.phase

/-- A transition passes every check, and goes on to write the log. -/
def Live.Accepts (live : Live) (request : Request) : Prop :=
  ∃ p entry, live.ritual.propose request = .ok p ∧ live.checked request p = .ok entry

theorem transition_exec {storage : Storage} {request : Request} {live : Live} :
    (transition storage request).exec live =
      match live.ritual.propose request with
      | .error e => (.error e, live)
      | .ok p =>
        match live.checked request p with
        | .error e => (.error e, live)
        | .ok entry =>
          match storage with
          | .written => (.ok p.outcome, { ritual := p.candidate, log := live.log ++ [entry] })
          | .refused e => (.error e, live)
          | .unconfirmed e => (.error e, { live with log := live.log ++ [entry] }) := by
  unfold transition Live.checked
  rw [Fallible.exec_get_bind, Fallible.exec_bind, Fallible.exec_lift]
  cases live.ritual.propose request with
  | error e => rfl
  | ok p =>
    dsimp only
    rw [append_exec]
    cases checkedEntry live.log p.candidate.epoch request.timestampUnix request.provenance
        p.action live.ritual.nature p.candidate.nature p.phase with
    | error e => rfl
    | ok entry => cases storage <;> rfl

end

/-! ## Runs -/

/-- A node, its disk, and whether every transition that failed left the ritual and the log as they
were. -/
structure World where
  live : Live
  saved : TentacleNature
  untouched : Bool

inductive Event
  | transition (storage : Storage) (request : Request)
  | save
  | restart (startedAtUnix : ℕ)

structure Founding where
  nature : TentacleNature
  startedAtUnix : ℕ
  valid : validateNature nature = .ok ()

def Founding.world (founding : Founding) : World :=
  { live :=
      { ritual :=
          { nature := founding.nature
            phase := .awaitingConfirmation
            epoch := 1
            startedAtUnix := founding.startedAtUnix
            lastEventAtUnix := founding.startedAtUnix
            adjustmentCount := 0
            rerollCount := 0 }
        log := [] }
    saved := founding.nature
    untouched := true }

/-- The Nature of the last transition is saved before the next one. -/
def World.Allowed (w : World) : Event → Prop
  | .transition _ _ => w.saved = w.live.ritual.nature
  | .save | .restart _ => True

section

variable [Hashing] [LogSigning]

def World.next (w : World) : Event → World
  | .transition storage request =>
    match (transition storage request).exec w.live with
    | (.ok _, live) => { w with live := live }
    | (.error _, live) =>
      { w with
        live := live
        untouched := w.untouched && decide (live = w.live) }
  | .save => { w with saved := w.live.ritual.nature }
  | .restart startedAtUnix =>
    match resumeOrRecover (some w.saved) startedAtUnix w.live.log with
    | .ok recovery => { w with live := { w.live with ritual := recovery.ritual } }
    | .error _ => w

def machine (founding : Founding) : Machine World Event :=
  { init := founding.world
    Allowed := World.Allowed
    next := World.next }

/-- Transitions that failed left no trace, the log may be read, and a restart succeeds and finds
the live ritual. -/
def World.Recovers (w : World) : Prop :=
  w.untouched = true ∧ readEntries w.live.log = .ok w.live.log ∧ ∀ startedAtUnix, ∃ recovery,
      resumeOrRecover (some w.saved) startedAtUnix w.live.log = .ok recovery ∧
        (w.live.log ≠ [] → recovery.ritual.Same w.live.ritual)

/-- No write of the log replaces the file and then fails. -/
def World.Confirms (w : World) : Event → Prop
  | .transition (.unconfirmed _) request => ¬w.live.Accepts request
  | .transition .written _ | .transition (.refused _) _ | .save | .restart _ => True

/-- The log, the ritual and the Nature on disk belong together. -/
structure World.Agrees (w : World) : Prop where
  rebuilds : Rebuilds w.live.log w.live.ritual
  saved : SavedBy w.live.log w.live.ritual.nature w.saved
  valid : validateNature w.saved = .ok ()

variable {w : World} {event : Event} {founding : Founding}

theorem Founding.agrees (founding : Founding) : founding.world.Agrees :=
  { rebuilds := .start founding.valid ⟨rfl, rfl, rfl⟩
    saved := rfl
    valid := founding.valid }

theorem World.Agrees.recovers (h : w.Agrees) (huntouched : w.untouched = true) : w.Recovers := by
  refine ⟨huntouched, h.rebuilds.readable, fun startedAtUnix => ?_⟩
  obtain ⟨recovery, hrecovery, -, -, hsame⟩ :=
    resumeOrRecover_ok h.rebuilds h.saved h.valid startedAtUnix
  exact ⟨recovery, hrecovery, hsame⟩

/-- A transition that keeps the log and the ritual in step. -/
theorem World.Agrees.transition {storage : Storage} {request : Request} (h : w.Agrees)
    (hallowed : w.Allowed (.transition storage request))
    (hconfirms : w.Confirms (.transition storage request)) :
    (w.next (.transition storage request)).Agrees ∧
      (w.next (.transition storage request)).untouched = w.untouched := by
  unfold World.next
  dsimp only
  rw [transition_exec]
  cases hpropose : w.live.ritual.propose request with
  | error e => exact ⟨⟨h.rebuilds, h.saved, h.valid⟩, by simp⟩
  | ok p =>
    dsimp only
    cases hchecked : w.live.checked request p with
    | error e => exact ⟨⟨h.rebuilds, h.saved, h.valid⟩, by simp⟩
    | ok entry =>
      cases storage with
      | refused e => exact ⟨⟨h.rebuilds, h.saved, h.valid⟩, by simp⟩
      | unconfirmed e => exact absurd ⟨p, entry, hpropose, hchecked⟩ hconfirms
      | written =>
        have hlogs := checkedEntry_ok hchecked
        refine ⟨⟨h.rebuilds.append hpropose hlogs, ?_, h.valid⟩, rfl⟩
        unfold SavedBy
        dsimp only
        rw [List.getLast?_concat]
        exact Or.inr (hallowed.trans hlogs.predecessor.symm)

theorem World.Agrees.save (h : w.Agrees) : (w.next .save).Agrees := by
  refine ⟨h.rebuilds, ?_, h.rebuilds.nature⟩
  have hlast := h.rebuilds.last
  unfold World.next SavedBy
  dsimp only
  cases hlog : w.live.log.getLast? with
  | none => rfl
  | some last => exact Or.inl (hlast last hlog).1.symm

theorem World.Agrees.restart (h : w.Agrees) (startedAtUnix : ℕ) :
    (w.next (.restart startedAtUnix)).Agrees ∧
      (w.next (.restart startedAtUnix)).untouched = w.untouched := by
  obtain ⟨recovery, hrecovery, hrebuilds, hsaved, -⟩ :=
    resumeOrRecover_ok h.rebuilds h.saved h.valid startedAtUnix
  unfold World.next
  dsimp only
  rw [hrecovery]
  exact ⟨⟨hrebuilds, hsaved, h.valid⟩, rfl⟩

theorem World.Agrees.next (h : w.Agrees) (hallowed : w.Allowed event)
    (hconfirms : w.Confirms event) :
    (w.next event).Agrees ∧ (w.next event).untouched = w.untouched := by
  cases event with
  | transition storage request => exact h.transition hallowed hconfirms
  | save => exact ⟨h.save, rfl⟩
  | restart startedAtUnix => exact h.restart startedAtUnix

/-- A failed transition that replaced the log has left a trace. -/
theorem confirms_of_untouched (h : (w.next event).untouched = true) :
    w.untouched = true ∧ w.Confirms event := by
  cases event with
  | save => exact ⟨h, trivial⟩
  | restart startedAtUnix =>
    refine ⟨?_, trivial⟩
    unfold World.next at h
    dsimp only at h
    split at h <;> exact h
  | transition storage request =>
    unfold World.next at h
    dsimp only at h
    have hstart : w.untouched = true := by
      split at h
      · exact h
      · exact (Bool.and_eq_true_iff.mp h).1
    refine ⟨hstart, ?_⟩
    cases storage with
    | written => trivial
    | refused e => trivial
    | unconfirmed e =>
      rintro ⟨p, entry, hpropose, hchecked⟩
      rw [transition_exec, hpropose] at h
      dsimp only at h
      rw [hchecked] at h
      dsimp only at h
      have hlog := congrArg Live.log (of_decide_eq_true (Bool.and_eq_true_iff.mp h).2)
      exact absurd (congrArg List.length hlog) (by simp)

theorem agrees_of_untouched (h : (machine founding).Reachable w) (huntouched : w.untouched = true) :
    w.Agrees := by
  refine h.invariant (P := fun w => w.untouched = true → w.Agrees) (fun _ => founding.agrees) ?_
    huntouched
  intro s event _ ih hallowed hnext
  obtain ⟨hs, hconfirms⟩ := confirms_of_untouched hnext
  exact ((ih hs).next hallowed hconfirms).1

/-- In a run of transitions, saves and restarts from a new ritual, failed transitions leave no
trace and restarts rebuild the live ritual at every point if and only if no write of the log
replaces the file and then fails. -/
theorem recovers_iff (founding : Founding) {events : List Event}
    (hrun : (machine founding).Admits (machine founding).init events) :
    (∀ n, ((events.take n).foldl (machine founding).next (machine founding).init).Recovers) ↔
      ((machine founding).restrict World.Confirms).Admits (machine founding).init events := by
  refine Machine.admits_restrict_iff (fun w event hreach hw hallowed => ?_) .init
    (founding.agrees.recovers rfl) hrun
  constructor
  · exact fun h => (confirms_of_untouched h.1).2
  · intro hconfirms
    obtain ⟨hagrees, huntouched⟩ :=
      (agrees_of_untouched hreach hw.1).next hallowed hconfirms
    exact hagrees.recovers (huntouched.trans hw.1)

end

/-! ## A log that is replaced and not confirmed -/

/-- Digests that are all zero. -/
@[reducible] def zeroHashing : Hashing :=
  ⟨fun _ _ => .ok 0, fun _ => .ok 0⟩

/-- Signatures that are all zero, of entries without a length. -/
@[reducible] def zeroSigning : LogSigning :=
  ⟨fun _ _ => 0, fun _ => 0⟩

section

attribute [local instance] zeroHashing zeroSigning

def sampleNature : TentacleNature :=
  { schemaVersion := 1
    natureId := String.ofList (List.replicate 32 'a')
    generation := 0
    parentNatureId := none
    engagement := 50
    growth := 50
    wealth := 50
    influence := 50
    cooperation := 50
    stability := 50
    transparency := 50
    sacredBan := .profit }

def sampleFounding : Founding :=
  { nature := sampleNature
    startedAtUnix := 100
    valid := by decide }

def sampleRequest : Request :=
  { transition := .apply .yes
    timestampUnix := 110
    provenance :=
      { operatorId := "local"
        source := .localCli
        eventId := 1
        canonical := by decide }
    draw := .error "" }

/-- The operator confirms the Nature, the file of the log is replaced, and the directory cannot be
synced : the transition fails, and it is in the log. -/
theorem unconfirmed_append_leaves_trace :
    ¬((machine sampleFounding).next (machine sampleFounding).init
      (.transition (.unconfirmed "Input/output error") sampleRequest)).Recovers :=
  fun h => absurd h.1 (by decide +kernel)

/-- A confirmation, and a restart before its Nature is saved. -/
def sampleEvents : List Event :=
  [.transition .written sampleRequest, .restart 200]

theorem confirmation_survives :
    (sampleEvents.foldl (machine sampleFounding).next (machine sampleFounding).init).Recovers :=
  have hrun : (machine sampleFounding).Admits (machine sampleFounding).init sampleEvents :=
    ⟨rfl, trivial, trivial⟩
  (recovers_iff sampleFounding hrun).mpr ⟨⟨rfl, trivial⟩, ⟨trivial, trivial⟩, trivial⟩
    sampleEvents.length

end

end Cthuwu.Awakening
