import Cthuwu.Mind.Changes

/-!
# What is forgotten

A note lists the people that took part in its scope, and forgetting removes the notes that list a
person. A note is `Sound` when the list has everyone that it is derived from. Reflections keep the
notes sound as long as those that a note was derived from still have entries when the note is
replaced, or when what was recalled is added up. Then nothing of a person remains once it is
forgotten, and no reflection that had begun before stores anything afterwards
(`forgetting_complete`). A note of a group outlives the messages that it is derived from, so that
forgetting may leave it (`group_note_remains`).
-/

namespace Cthuwu.Mind

open Council (jsonList)
open Operators (normalizeInboxId)

variable {platform : Platform} {world : World} {event : Event} {index now : ℕ} {store : Store}
  {flight : Flight} {stage : Stage} {selection : Selection} {inbox scope : String}

/-! ## Derived notes -/

/-- Someone has an entry that is read in the scope. -/
def World.speaks (world : World) (now : ℕ) (scope inbox : String) : Prop :=
  ∃ entry ∈ world.store.journal, entry.retained now = true ∧ entry.scope = scope ∧
    entry.inbox = inbox

/-- Someone has an entry that is read, or is listed by a note. -/
def World.knows (world : World) (now : ℕ) (inbox : String) : Prop :=
  (∃ entry ∈ world.store.journal, entry.retained now = true ∧ entry.inbox = inbox) ∨
    ∃ file ∈ world.store.memory, inbox ∈ file.2.participants

/-- Those that the note before is derived from still speak when a reflection begins, and those that
a reflection for an operator has read of are still known when it adds them up. -/
def World.Accounted (platform : Platform) (world : World) : Event → Prop
  | .begin faults interval listing _ now => ∀ selection,
    ((beginReflection platform faults interval listing now).exec world.store).1 =
      .ok (some selection) → isOperatorScope selection.candidate.scope = false →
        ∀ file ∈ selection.candidate.prior, ∀ inbox ∈ world.origins file.1,
          world.speaks now selection.candidate.scope inbox
  | .gather index _ now => ∀ selection text, world.stageOf index = .recalled selection text →
    isOperatorScope selection.candidate.scope = true → ∀ inbox ∈ world.readOf index,
        world.knows now inbox ∨ inbox ∈ selection.candidate.entries.map Entry.inbox
  | _ => True

/-- Everyone that the reflection has read of will be listed. -/
def Flight.Sound (flight : Flight) : Prop :=
  match flight.stage with
  | .begun selection | .recalled selection _ =>
    isOperatorScope selection.candidate.scope = false →
      ∀ inbox ∈ flight.read, inbox ∈ selection.candidate.entries.map Entry.inbox
  | .gathered selection _ participants =>
    ∀ inbox ∈ flight.read, inbox ∈ selection.candidate.entries.map Entry.inbox ++ participants
  | .ended => True

structure World.Sound (world : World) : Prop where
  notes : ∀ file ∈ world.store.memory, ∀ inbox ∈ world.origins file.1, inbox ∈ file.2.participants
  flights : ∀ flight ∈ world.flights, flight.Sound
  epochs : ∀ flight ∈ world.flights, ∀ selection ∈ flight.stage.selection,
    selection.epoch ≤ world.store.epoch

/-! ## Steps -/

theorem flight_of_stageOf (h : world.stageOf index = stage) (hstage : stage ≠ .ended) :
    ∃ flight, world.flights[index]? = some flight ∧ flight.stage = stage ∧
      world.readOf index = flight.read := by
  unfold World.stageOf at h
  unfold World.readOf
  cases hflight : world.flights[index]? with
  | none =>
    rw [hflight] at h
    exact absurd h.symm hstage
  | some flight =>
    rw [hflight] at h
    exact ⟨flight, rfl, h, rfl⟩

theorem World.Sound.after (h : world.Sound) (hmemory : store.memory = world.store.memory)
    (hepoch : world.store.epoch ≤ store.epoch) : (world.after store).Sound where
  notes := hmemory ▸ h.notes
  flights := h.flights
  epochs := fun flight hflight selection hselection =>
    (h.epochs flight hflight selection hselection).trans hepoch

variable {runtime identity : String} {f : Flight → Flight} {faults : BeginFaults}
  {interval : Option ℕ} {listing : Listing} {response : Except String Response} {other : ℕ}

theorem World.Sound.modify (h : world.Sound)
    (hf : ∀ flight, world.flights[index]? = some flight → (f flight).Sound ∧
      ∀ selection ∈ (f flight).stage.selection, selection.epoch ≤ world.store.epoch) :
    ({ world with flights := world.flights.modify index f } : World).Sound := by
  cases hflight : world.flights[index]? with
  | none => rwa [List.modify_eq_self (List.getElem?_eq_none_iff.mp hflight)]
  | some flight =>
    obtain ⟨hsound, hepoch⟩ := hf flight hflight
    refine ⟨h.notes, fun other hother => ?_, fun other hother => ?_⟩
    · rcases mem_modify hflight hother with hmem | rfl
      · exact h.flights other hmem
      · exact hsound
    · rcases mem_modify hflight hother with hmem | rfl
      · exact h.epochs other hmem
      · exact hepoch

theorem World.Sound.moved_ended (h : world.Sound) : (world.moved index .ended).Sound :=
  h.modify fun _ _ => ⟨trivial, nofun⟩

theorem candidate_entries {files : List (String × Note)} {entries : List Entry}
    {candidate : Candidate} (h : select platform now files entries = some candidate) :
    candidate.prior = files.find? (fun file => file.2.scope = candidate.scope) ∧
      candidate.entries = entries.filter fun entry => entry.scope = candidate.scope := by
  have hmem := (List.mem_insertionSort _).mp (List.mem_of_find?_eq_some h)
  obtain ⟨scope, -, rfl⟩ := List.mem_map.mp hmem
  exact ⟨rfl, rfl⟩

theorem sound_begin (h : world.Sound)
    (haccounted : world.Accounted platform (.begin faults interval listing runtime now)) :
    (world.next platform (.begin faults interval listing runtime now)).Sound := by
  have hbegun := @begun platform world.store listing now faults interval
  unfold World.Accounted at haccounted
  unfold World.next
  dsimp only at haccounted ⊢
  cases hexec : (beginReflection platform faults interval listing now).exec world.store with
  | mk result store =>
    obtain ⟨hquiet, hselection⟩ := hbegun.of_exec hexec
    rw [hexec] at haccounted
    have hafter : (world.after store).Sound := h.after hquiet.memory hquiet.epoch.ge
    cases result with
    | error e => exact hafter
    | ok chosen =>
      cases chosen with
      | none => exact hafter
      | some selection =>
        obtain ⟨hepoch, files, entries, -, hread, hselect⟩ := hselection selection rfl
        obtain ⟨-, hentries⟩ := candidate_entries hselect
        refine ⟨hafter.notes, fun flight hflight => ?_, fun flight hflight => ?_⟩
        · rcases List.mem_append.mp hflight with hold | hnew
          · exact h.flights flight hold
          · obtain rfl := List.mem_singleton.mp hnew
            intro hscope inbox hinbox
            rcases List.mem_append.mp hinbox with hprior | hshown
            · obtain ⟨file, hfile, hinbox⟩ := List.mem_flatMap.mp hprior
              obtain ⟨entry, hentry, hretained, hin, rfl⟩ :=
                haccounted selection rfl hscope file (Option.mem_toList.mp hfile) inbox hinbox
              rw [hentries, ← (readJournal_ok.mp hread).2]
              refine List.mem_map_of_mem (List.mem_filter.mpr
                ⟨List.mem_filter.mpr ⟨hentry, hretained⟩, decide_eq_true hin⟩)
            · exact List.map_subset _ (List.drop_subset _ _) hshown
        · rcases List.mem_append.mp hflight with hold | hnew
          · exact hafter.epochs flight hold
          · obtain rfl := List.mem_singleton.mp hnew
            rintro selection' hselection'
            obtain rfl := Option.some.inj hselection'
            exact (hepoch.trans hquiet.epoch.symm).le

theorem sound_recall (h : world.Sound) :
    (world.next platform (.recall index listing now)).Sound := by
  unfold World.next
  dsimp only
  cases hstage : world.stageOf index with
  | begun selection =>
    obtain ⟨flight, hflight, hbegun, -⟩ := flight_of_stageOf hstage nofun
    have hmem := List.mem_of_getElem? hflight
    dsimp only
    cases crossRecall platform listing now selection.candidate.scope world.store with
    | error e => exact h.moved_ended
    | ok text =>
      refine h.modify fun flight' hflight' => ?_
      obtain rfl := Option.some.inj (hflight.symm.trans hflight')
      have hsound := h.flights flight hmem
      unfold Flight.Sound at hsound
      rw [hbegun] at hsound
      refine ⟨fun hscope inbox hinbox => hsound hscope inbox ?_, fun selection' hselection' => ?_⟩
      · dsimp only at hinbox
        rwa [hscope, if_neg Bool.false_ne_true, List.append_nil] at hinbox
      · refine h.epochs flight hmem selection' ?_
        rw [hbegun]
        exact hselection'
  | recalled selection text => exact h
  | gathered selection text participants => exact h
  | ended => exact h

theorem sound_gather (h : world.Sound)
    (haccounted : world.Accounted platform (.gather index listing now)) :
    (world.next platform (.gather index listing now)).Sound := by
  unfold World.Accounted at haccounted
  unfold World.next
  dsimp only at haccounted ⊢
  cases hstage : world.stageOf index with
  | recalled selection text =>
    obtain ⟨flight, hflight, hrecalled, hread⟩ := flight_of_stageOf hstage nofun
    have hmem := List.mem_of_getElem? hflight
    dsimp only
    cases hparticipants : crossParticipants listing now selection.candidate.scope world.store with
    | error e => exact h.moved_ended
    | ok participants =>
      refine h.modify fun flight' hflight' => ?_
      obtain rfl := Option.some.inj (hflight.symm.trans hflight')
      refine ⟨fun inbox hinbox => ?_, fun selection' hselection' => ?_⟩
      · have hsound := h.flights flight hmem
        unfold Flight.Sound at hsound
        rw [hrecalled] at hsound
        unfold crossParticipants at hparticipants
        cases hscope : isOperatorScope selection.candidate.scope with
        | false => exact List.mem_append_left _ (hsound hscope inbox hinbox)
        | true =>
          have hknown := haccounted selection text hstage hscope inbox (hread ▸ hinbox)
          rw [hscope, if_pos rfl] at hparticipants
          obtain ⟨entries, hentries, hparticipants⟩ := except_bind_ok.mp hparticipants
          obtain ⟨files, hfiles, hparticipants⟩ := except_bind_ok.mp hparticipants
          obtain rfl := Except.ok.inj hparticipants
          rcases hknown with
            (⟨entry, hentry, hretained, rfl⟩ | ⟨⟨name, document⟩, hfile, hlisted⟩) | hspoken
          · refine List.mem_append_right _ (List.mem_append_left _ (List.mem_map_of_mem ?_))
            rw [← (readJournal_ok.mp hentries).2]
            exact List.mem_filter.mpr ⟨hentry, hretained⟩
          · exact List.mem_append_right _ (List.mem_append_right _ (List.mem_flatMap.mpr
              ⟨(name, document.note), (mem_notes hfiles).mpr ⟨document, hfile, rfl⟩, hlisted⟩))
          · exact List.mem_append_left _ hspoken
      · refine h.epochs flight hmem selection' ?_
        rw [hrecalled]
        exact hselection'
  | begun selection => exact h
  | gathered selection text participants => exact h
  | ended => exact h

theorem sound_finish {faults : FinishFaults} (h : world.Sound) :
    (world.next platform (.finish index faults identity response now)).Sound := by
  unfold World.next
  dsimp only
  cases hstage : world.stageOf index with
  | gathered selection text participants =>
    obtain ⟨flight, hflight, hgathered, hread⟩ := flight_of_stageOf hstage nofun
    have hsound := h.flights flight (List.mem_of_getElem? hflight)
    unfold Flight.Sound at hsound
    rw [hgathered] at hsound
    have hended : (world.moved index .ended).Sound := h.moved_ended
    have hfinished := @finished platform world.store now faults selection participants response
    dsimp only
    cases hexec : (finishReflection platform faults selection participants response now).exec
      world.store with
    | mk result store =>
      have hquiet := hfinished.of_exec hexec
      have hmemory := hquiet.memory
      have hepoch := hquiet.epoch
      dsimp only at hmemory hepoch ⊢
      refine ⟨?_, hended.flights, ?_⟩
      · change ∀ file ∈ store.memory, _
        rw [hmemory]
        cases hdrafted : selection.drafted platform participants response now world.store with
        | none => exact h.notes
        | some note =>
          dsimp only [stored]
          split_ifs with hreplaces
          · intro file hfile inbox hinbox
            rcases mem_put hfile with rfl | ⟨hmem, hname⟩
            · rw [Function.update_self, hread] at hinbox
              obtain ⟨-, -, reflection, -, rfl⟩ := drafted_eq_some hdrafted
              exact mem_sortedOnce.mpr (hsound inbox hinbox)
            · rw [Function.update_of_ne hname] at hinbox
              exact h.notes file hmem inbox hinbox
          · exact h.notes
      · intro other hother selection' hselection'
        exact (hended.epochs other hother selection' hselection').trans hepoch.ge
  | begun selection => exact h
  | recalled selection text => exact h
  | ended => exact h

theorem sound_restart (h : world.Sound) : (world.next platform .restart).Sound := by
  refine ⟨h.notes, fun flight hflight => ?_, fun flight hflight => ?_⟩
  · obtain ⟨old, -, rfl⟩ := List.mem_map.mp hflight
    exact trivial
  · obtain ⟨old, -, rfl⟩ := List.mem_map.mp hflight
    exact nofun

theorem sound_next (h : world.Sound) (haccounted : world.Accounted platform event) :
    (world.next platform event).Sound := by
  cases event with
  | record storage chat message now =>
    unfold World.next
    dsimp only
    rw [onJournal_exec]
    exact h.after rfl le_rfl
  | prune storage now =>
    unfold World.next
    dsimp only
    rw [onJournal_exec]
    exact h.after rfl le_rfl
  | begin faults interval listing runtime now => exact sound_begin h haccounted
  | «recall» index listing now => exact sound_recall h
  | gather index listing now => exact sound_gather h haccounted
  | finish index faults identity response now => exact sound_finish h
  | abandon index => exact h.moved_ended
  | forget faults listing inbox now =>
    have hforgot := @forgot world.store listing now inbox faults
    obtain ⟨p, hmemory⟩ := hforgot.memory
    refine ⟨fun file hfile => h.notes file ?_, h.flights,
      fun flight hflight selection hselection => ?_⟩
    · change file ∈ ((forget faults listing inbox now).exec world.store).2.memory at hfile
      rw [hmemory] at hfile
      exact (List.mem_filter.mp hfile).1
    · have hepoch := h.epochs flight hflight selection hselection
      exact (hepoch.trans (Nat.le_succ _)).trans hforgot.epoch.ge
  | restart => exact sound_restart h

theorem sound_empty : World.empty.Sound := ⟨nofun, nofun, nofun⟩

theorem sound_of_reachable
    (h : ((machine platform).restrict (World.Accounted platform)).Reachable world) :
    world.Sound := by
  refine h.invariant sound_empty fun world event _ hworld hallowed => ?_
  exact sound_next hworld hallowed.2

/-! ## Reflections that had begun -/

/-- A reflection has ended, or has begun before something was forgotten. -/
def World.Stale (world : World) (index : ℕ) : Prop :=
  index < world.flights.length ∧
    ∀ selection ∈ (world.stageOf index).selection, selection.epoch < world.store.epoch

theorem stageOf_modify (hlt : other < world.flights.length) :
    ({ world with flights := world.flights.modify index f } : World).stageOf other =
      if index = other then (f world.flights[other]).stage else world.stageOf other := by
  unfold World.stageOf
  dsimp only
  rw [List.getElem?_modify, List.getElem?_eq_getElem hlt]
  split_ifs <;> rfl

theorem stageOf_launch {selection : Selection} (hlt : other < world.flights.length) :
    (world.launch selection runtime).stageOf other = world.stageOf other := by
  unfold World.stageOf World.launch
  dsimp only
  rw [List.getElem?_append_left hlt]

theorem stageOf_restart : (world.next platform .restart).stageOf other = .ended := by
  unfold World.stageOf World.next
  dsimp only
  rw [List.getElem?_map]
  cases world.flights[other]? <;> rfl

/-- The other reflections are where they were, and this one goes on with what it has chosen. -/
theorem World.Stale.modify (h : world.Stale other)
    (hf : ∀ flight, world.flights[index]? = some flight →
      ∀ selection ∈ (f flight).stage.selection, selection ∈ (world.stageOf index).selection) :
    ({ world with flights := world.flights.modify index f } : World).Stale other := by
  refine ⟨(List.length_modify ..).symm ▸ h.1, fun selection hselection => ?_⟩
  rw [stageOf_modify h.1] at hselection
  split_ifs at hselection with hindex
  · subst hindex
    exact h.2 selection (hf _ (List.getElem?_eq_getElem h.1) selection hselection)
  · exact h.2 selection hselection

theorem World.Stale.moved_ended (h : world.Stale other) : (world.moved index .ended).Stale other :=
  h.modify fun _ _ => nofun

theorem World.Stale.after (h : world.Stale other) (hepoch : world.store.epoch ≤ store.epoch) :
    (world.after store).Stale other :=
  ⟨h.1, fun selection hselection => (h.2 selection hselection).trans_le hepoch⟩

theorem stale_next (h : world.Stale other) : (world.next platform event).Stale other := by
  cases event with
  | record storage chat message now =>
    unfold World.next
    dsimp only
    rw [onJournal_exec]
    exact h.after le_rfl
  | prune storage now =>
    unfold World.next
    dsimp only
    rw [onJournal_exec]
    exact h.after le_rfl
  | begin faults interval listing runtime now =>
    have hbegun := @begun platform world.store listing now faults interval
    unfold World.next
    dsimp only
    cases hexec : (beginReflection platform faults interval listing now).exec world.store with
    | mk result store =>
      have hafter : (world.after store).Stale other := h.after (hbegun.of_exec hexec).1.epoch.ge
      cases result with
      | error e => exact hafter
      | ok chosen =>
        cases chosen with
        | none => exact hafter
        | some selection =>
          refine ⟨?_, fun selection' hselection' => hafter.2 selection' ?_⟩
          · change other < (world.flights ++ _).length
            rw [List.length_append]
            exact Nat.lt_add_right _ h.1
          · dsimp only at hselection'
            rwa [stageOf_launch hafter.1] at hselection'
  | «recall» index listing now =>
    unfold World.next
    dsimp only
    cases hstage : world.stageOf index with
    | begun selection =>
      dsimp only
      cases crossRecall platform listing now selection.candidate.scope world.store with
      | error e => exact h.moved_ended
      | ok text =>
        refine h.modify fun flight _ selection' hselection' => ?_
        rw [hstage]
        exact hselection'
    | recalled selection text => exact h
    | gathered selection text participants => exact h
    | ended => exact h
  | gather index listing now =>
    unfold World.next
    dsimp only
    cases hstage : world.stageOf index with
    | recalled selection text =>
      dsimp only
      cases crossParticipants listing now selection.candidate.scope world.store with
      | error e => exact h.moved_ended
      | ok participants =>
        refine h.modify fun flight _ selection' hselection' => ?_
        rw [hstage]
        exact hselection'
    | begun selection => exact h
    | gathered selection text participants => exact h
    | ended => exact h
  | finish index faults identity response now =>
    unfold World.next
    dsimp only
    cases hstage : world.stageOf index with
    | gathered selection text participants =>
      have hfinished := @finished platform world.store now faults selection participants response
      have hended : (world.moved index .ended).Stale other := h.moved_ended
      exact ⟨hended.1, fun selection' hselection' =>
        (hended.2 selection' hselection').trans_eq hfinished.epoch.symm⟩
    | begun selection => exact h
    | recalled selection text => exact h
    | ended => exact h
  | abandon index => exact h.moved_ended
  | forget faults listing inbox now =>
    have hforgot := @forgot world.store listing now inbox faults
    exact h.after ((Nat.le_succ _).trans hforgot.epoch.ge)
  | restart =>
    refine ⟨(List.length_map _).symm ▸ h.1, fun selection hselection => ?_⟩
    rw [stageOf_restart] at hselection
    cases hselection

theorem stale_run {events : List Event} (h : world.Stale other) :
    (events.foldl (World.next platform) world).Stale other := by
  induction events generalizing world with
  | nil => exact h
  | cons event events ih => exact ih (stale_next h)

/-- A reflection that had begun before something was forgotten stores no note. -/
theorem World.Stale.finish {faults : FinishFaults} (h : world.Stale index) :
    (world.next platform (.finish index faults identity response now)).store.memory =
      world.store.memory := by
  have hepoch := h.2
  unfold World.next
  dsimp only
  cases hstage : world.stageOf index with
  | gathered selection text participants =>
    have hfinished := @finished platform world.store now faults selection participants response
    rw [hstage] at hepoch
    have hdrafted : selection.drafted platform participants response now world.store = none := by
      unfold Selection.drafted
      rw [if_pos (hepoch selection rfl).ne]
    have hmemory := hfinished.memory
    rw [hdrafted] at hmemory
    exact hmemory
  | begun selection => rfl
  | recalled selection text => rfl
  | ended => rfl

/-- In every run in which those that a note before is derived from still speak when a reflection on
their scope begins, and those that a reflection for an operator has read of are still known when it
adds them up, a note lists everyone that it is derived from. Once a person is forgotten, no entry
and no note of them remains, and no reflection that had begun before stores a note. -/
theorem forgetting_complete (platform : Platform) {world : World}
    (h : ((machine platform).restrict (World.Accounted platform)).Reachable world) :
    (∀ file ∈ world.store.memory, ∀ inbox ∈ world.origins file.1, inbox ∈ file.2.participants) ∧
      ∀ (faults : ForgetFaults) (listing : Listing) (inbox : String) (now : ℕ),
        normalizeInboxId inbox = .ok inbox →
        ((forget faults listing inbox now).exec world.store).1 = .ok () →
          let after := world.next platform (.forget faults listing inbox now)
          (∀ entry ∈ after.store.journal, entry.inbox ≠ inbox) ∧
          (∀ file ∈ after.store.memory, inbox ∉ after.origins file.1) ∧
          ∀ (events : List Event) (index : ℕ) (faults : FinishFaults) (identity : String)
            (response : Except String Response) (now : ℕ), index < world.flights.length →
              let later := events.foldl (World.next platform) after
              (later.next platform (.finish index faults identity response now)).store.memory =
                later.store.memory := by
  have hsound := sound_of_reachable h
  refine ⟨hsound.notes, fun faults listing inbox now hinbox hok => ?_⟩
  have hforgot := @forgot world.store listing now inbox faults
  refine ⟨fun entry hentry => ?_, fun file hfile horigin => ?_, ?_⟩
  · change entry ∈ ((forget faults listing inbox now).exec world.store).2.journal at hentry
    rw [hforgot.entries hok hinbox] at hentry
    have hforgotten := (List.mem_filter.mp ((kept_suffix _).subset hentry)).2
    simp only [Bool.and_eq_true, decide_eq_true_eq] at hforgotten
    exact hforgotten.1
  · have hmem : file ∈ world.store.memory := by
      obtain ⟨p, hmemory⟩ := hforgot.memory
      change file ∈ ((forget faults listing inbox now).exec world.store).2.memory at hfile
      rw [hmemory] at hfile
      exact (List.mem_filter.mp hfile).1
    exact hforgot.removed hok file hfile (hsound.notes file hmem inbox horigin)
  · intro events index faults' identity response now' hindex
    have hstale : (world.next platform (.forget faults listing inbox now)).Stale index := by
      refine ⟨hindex, fun selection hselection => ?_⟩
      obtain ⟨flight, hflight, hstage, -⟩ := flight_of_stageOf (rfl : world.stageOf index = _)
        fun hended => by
          change selection ∈ (world.stageOf index).selection at hselection
          rw [hended] at hselection
          cases hselection
      have hepoch := hsound.epochs flight (List.mem_of_getElem? hflight) selection
        (hstage ▸ hselection)
      exact (Nat.lt_succ_of_le hepoch).trans_eq hforgot.epoch.symm
    exact (stale_run hstale).finish

/-! ## A note of a group -/

def gardenReply : String :=
  "\x7b\"understanding\":\"They garden.\",\"goals\":[],\"open_loops\":[]," ++
    "\"next_action\":\"\",\"operator_need\":null\x7d"

def gardenReflection : Reflection :=
  { understanding := "They garden."
    goals := []
    openLoops := []
    nextAction := ""
    operatorNeed := none }

def gardenMessage (inbox id text : String) : Message :=
  { inbox := inbox
    address := none
    id := id
    text := text
    reply := none }

def gardenEntry (inbox id text : String) (received : ℕ) : Entry :=
  (gardenMessage inbox id text).entry (some "cc") false inbox received

/-- The digests are those of SHA-256. -/
def gardenPlatform : Platform :=
  { digest := fun text =>
      if text = "group-cc" then
        "4feec7d6ae7e6510b734b0e26f478b49f38ea70cc8eb3d9d2ee11e08cd7cde9c"
      else if text = jsonList [(gardenEntry "aa" "1" "I garden." 1000).json] then
        "eefcd686f9e1b468bdeccd747f5fa00206eb57a38cacdae6092a3da61dc2d928"
      else if text = jsonList [(gardenEntry "bb" "2" "So do I." 1300000).json] then
        "93db4beeb3f7ddf9f3aef1cd75b1ec43a0d2cbb3e58b1e00a5b6bca82aaf1a97"
      else ""
    isAlphanumeric := Char.isAlphanum
    toLowercase := fun text => String.ofList (text.toList.map Char.toLower)
    parseReflection := fun text =>
      if text = gardenReply then .ok gardenReflection else .error "expected value" }

def gardenListing : Listing := ⟨id, fun _ => .refl _⟩

def gardenReflects (index now : ℕ) : List Event :=
  [.begin ⟨.written, .ok (), .written⟩ (some 900) gardenListing "" now,
    .recall index gardenListing now, .gather index gardenListing now,
    .finish index ⟨.written, .written, .ok (), .written⟩ ""
      (.ok ⟨false, 0, some gardenReply⟩) now]

def gardenForgets : ForgetFaults := ⟨.ok (), .written, .written, .ok (), fun _ => false, .ok ()⟩

/-- A person speaks in a group, and the Tentacle reflects on it. -/
def gardenRun : List Event :=
  .record .written (.group "cc") (gardenMessage "aa" "1" "I garden.") 1000 ::
    gardenReflects 0 1000

/-- Weeks later someone else does. -/
def laterRun : List Event :=
  .record .written (.group "cc") (gardenMessage "bb" "2" "So do I.") 1300000 ::
    gardenReflects 1 1300000

def gardenWorld : World :=
  gardenRun.foldl (World.next gardenPlatform) .empty

/-- A reflection is accounted for that begins when there is no note. -/
theorem accounted_begin (hmemory : world.store.memory = []) :
    world.Accounted platform (.begin faults interval listing runtime now) := by
  intro selection hselection hscope file hfile
  obtain ⟨-, files, entries, hfiles, -, hselect⟩ :=
    (@begun platform world.store listing now faults interval).2 selection hselection
  rw [(candidate_entries hselect).1] at hfile
  obtain ⟨document, hdocument, -⟩ :=
    (mem_notes hfiles).mp (show (file.1, file.2) ∈ files from List.mem_of_find?_eq_some hfile)
  rw [hmemory] at hdocument
  cases hdocument

/-- Nothing has to be added up for a scope that is no operator's. -/
theorem accounted_gather (hscope : ∀ selection ∈ (world.stageOf index).selection,
      isOperatorScope selection.candidate.scope = false) :
    world.Accounted platform (.gather index listing now) := by
  intro selection text hstage htrue
  have hfalse := hscope selection (by rw [hstage]; rfl)
  rw [htrue] at hfalse
  cases hfalse

def gardenMachine : Machine World Event :=
  (machine gardenPlatform).restrict (World.Accounted gardenPlatform)

def heardWorld : World :=
  gardenMachine.next .empty
    (.record .written (.group "cc") (gardenMessage "aa" "1" "I garden.") 1000)

def recalledWorld : World :=
  gardenMachine.next (gardenMachine.next heardWorld
    (.begin ⟨.written, .ok (), .written⟩ (some 900) gardenListing "" 1000))
      (.recall 0 gardenListing 1000)

theorem gardenRun_run : heardWorld.store.memory = [] ∧
    (∀ selection ∈ (recalledWorld.stageOf 0).selection,
      isOperatorScope selection.candidate.scope = false) ∧
    ((forget gardenForgets gardenListing "aa" 1001).exec gardenWorld.store).1 = .ok () ∧
    ∃ file ∈ gardenWorld.store.memory, "aa" ∈ gardenWorld.origins file.1 := by
  decide +kernel

theorem reachable_gardenWorld : gardenMachine.Reachable gardenWorld := by
  have hbegin : heardWorld.Accounted gardenPlatform
      (.begin ⟨.written, .ok (), .written⟩ (some 900) gardenListing "" 1000) :=
    accounted_begin gardenRun_run.1
  have hgather : recalledWorld.Accounted gardenPlatform (.gather 0 gardenListing 1000) :=
    accounted_gather gardenRun_run.2.1
  refine Machine.Reachable.run .init (show Machine.Admits _ _ gardenRun from ?_)
  exact ⟨⟨trivial, trivial⟩, ⟨trivial, hbegin⟩, ⟨trivial, trivial⟩, ⟨trivial, hgather⟩,
    ⟨trivial, trivial⟩, trivial⟩

theorem forgetting_complete_sample :
    let after := gardenWorld.next gardenPlatform (.forget gardenForgets gardenListing "aa" 1001)
    (∃ file ∈ gardenWorld.store.memory, "aa" ∈ gardenWorld.origins file.1) ∧
      (∀ entry ∈ after.store.journal, entry.inbox ≠ "aa") ∧
        ∀ file ∈ after.store.memory, "aa" ∉ after.origins file.1 := by
  obtain ⟨hentries, hnotes, -⟩ :=
    (forgetting_complete gardenPlatform reachable_gardenWorld).2 gardenForgets gardenListing "aa"
      1001 rfl gardenRun_run.2.2.1
  exact ⟨gardenRun_run.2.2.2, hentries, hnotes⟩

/-- When the Tentacle reflects on the group again, the messages of the first person have expired.
The new note is derived from the old one, and does not list that person. -/
def laterWorld : World :=
  laterRun.foldl (World.next gardenPlatform) gardenWorld

theorem group_note_remains : (machine gardenPlatform).Admits .empty (gardenRun ++ laterRun) ∧
      (gardenRun ++ laterRun).foldl (World.next gardenPlatform) .empty = laterWorld ∧
      ((forget gardenForgets gardenListing "aa" 1300001).exec laterWorld.store).1 = .ok () ∧
      ∃ file ∈ (laterWorld.next gardenPlatform
        (.forget gardenForgets gardenListing "aa" 1300001)).store.memory,
          "aa" ∈ laterWorld.origins file.1 ∧ "aa" ∉ file.2.participants := by
  refine ⟨?_, List.foldl_append, ?_⟩
  · exact ⟨trivial, trivial, trivial, trivial, trivial, trivial, trivial, trivial, trivial, trivial,
      trivial⟩
  · decide +kernel

end Cthuwu.Mind
