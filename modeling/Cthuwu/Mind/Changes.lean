import Cthuwu.Lib.Outcome
import Cthuwu.Mind.World

/-!
# What the operations of a mind change

Records and forgetting write the journal, a finished reflection writes one note, and forgetting
removes notes. Each lemma says all that an operation leaves of the journal, of the memory and of the
epoch, whether it returns or fails.
-/

namespace Cthuwu.Mind

open Operators (normalizeInboxId)
open Fallible

variable {platform : Platform} {storage : Storage} {store store' : Store} {listing : Listing}
  {now : ℕ} {entries : List Entry} {journal : List Entry} {inbox : String}

/-! ## The journal -/

theorem readJournal_ok : readJournal now journal = .ok entries ↔
    journalBytes journal ≤ maxBytes ∧ journal.filter (Entry.retained now) = entries := by
  unfold readJournal
  rw [except_check_ok, failIf_ok, Nat.not_lt, except_pure_ok]

variable {journal' : List Entry} {rhythm : Rhythm} {result : Except String Unit} {store₁ : Store}
  {note : Note} {name : String} {left : String → Bool}

theorem writeJournal_ok (h : (writeJournal storage entries).exec journal = (.ok (), journal')) :
    journal' = kept entries := by
  unfold writeJournal at h
  rw [exec_get_bind] at h
  dsimp only at h
  rw [exec_set_bind, exec_lift, Prod.mk.injEq] at h
  obtain ⟨hok, rfl⟩ := h
  exact Storage.write_ok (Prod.ext hok rfl)

theorem forgetEntries_ok (hinbox : normalizeInboxId inbox = .ok inbox)
    (h : (forgetEntries storage inbox now).exec journal = (.ok (), journal')) :
    journal' = kept (forgotten inbox (journal.filter (Entry.retained now))) := by
  unfold forgetEntries at h
  rw [lift_bind_ok] at h
  obtain ⟨inbox', hinbox', h⟩ := h
  obtain rfl : inbox = inbox' := Except.ok.inj (hinbox.symm.trans hinbox')
  rw [exec_get_bind, lift_bind_ok] at h
  obtain ⟨entries, hread, h⟩ := h
  rw [((readJournal_ok).mp hread).2]
  exact writeJournal_ok h

/-- What is written is what was to be written, without entries at the front. -/
theorem kept_suffix (entries : List Entry) : kept entries <:+ entries := by
  unfold kept capped
  dsimp only
  split_ifs with hbytes
  · exact (List.drop_suffix _ _).trans (List.drop_suffix _ _)
  · exact List.drop_suffix _ _

/-! ## The rhythm -/

/-- The stores differ in their rhythms alone, and there not in how often was forgotten. -/
structure Quiet (store store' : Store) : Prop where
  journal : store'.journal = store.journal
  memory : store'.memory = store.memory
  epoch : store'.epoch = store.epoch
  revision : store'.rhythm.memoryRevision = store.rhythm.memoryRevision

theorem Quiet.refl (store : Store) : Quiet store store := ⟨rfl, rfl, rfl, rfl⟩

theorem Quiet.trans {store'' : Store} (h : Quiet store store') (h' : Quiet store' store'') :
    Quiet store store'' :=
  ⟨h'.journal.trans h.journal, h'.memory.trans h.memory, h'.epoch.trans h.epoch,
    h'.revision.trans h.revision⟩

theorem writeRhythm_exec : (writeRhythm storage rhythm).exec store =
    ((storage.write store.rhythm rhythm).1,
      { store with rhythm := (storage.write store.rhythm rhythm).2 }) := by
  unfold writeRhythm
  rw [exec_get_bind]
  dsimp only
  rw [exec_set_bind, exec_lift]

theorem quiet_writeRhythm (hexec : (writeRhythm storage rhythm).exec store = (result, store'))
    (h : rhythm.memoryRevision = store.rhythm.memoryRevision) : Quiet store store' := by
  rw [writeRhythm_exec] at hexec
  obtain ⟨-, rfl⟩ := Prod.mk.inj hexec
  refine ⟨rfl, rfl, rfl, ?_⟩
  dsimp only
  rcases @Storage.write_snd _ storage store.rhythm rhythm with
    hold | hnew
  · rw [hold]
  · rw [hnew, h]

theorem Quiet.after {store₂ : Store} (h : Quiet store store₁)
    (hexec : (writeRhythm storage rhythm).exec store₁ = (result, store₂))
    (hrhythm : rhythm.memoryRevision = store.rhythm.memoryRevision) : Quiet store store₂ :=
  h.trans (quiet_writeRhythm hexec (hrhythm.trans h.revision.symm))

/-! ## Reflections -/

/-- What has been chosen is what is to be chosen in the files. -/
structure Begun (platform : Platform) (listing : Listing) (now : ℕ) (store : Store)
    (selection : Selection) : Prop where
  epoch : selection.epoch = store.epoch
  chosen : ∃ files entries, notes listing store.memory = .ok files ∧
    readJournal now store.journal = .ok entries ∧
      select platform now files entries = some selection.candidate

theorem begun {faults : BeginFaults} {interval : Option ℕ} : Fallible.Ends (fun result store' =>
      Quiet store store' ∧ ∀ selection, result = .ok (some selection) →
          Begun platform listing now store selection)
      (beginReflection platform faults interval listing now) store := by
  unfold beginReflection
  refine ends_get_bind ?_
  cases interval with
  | none => exact ⟨.refl _, nofun⟩
  | some interval =>
    dsimp only
    split_ifs with hearly
    · exact ⟨.refl _, nofun⟩
    · refine ends_bind_of_exec (fun u store₁ hexec => ?_)
        fun e store₁ hexec => ⟨(Quiet.refl store).after hexec rfl, nofun⟩
      have hquiet := (Quiet.refl store).after hexec rfl
      refine ends_lift_bind (fun e _ => ⟨hquiet, nofun⟩) fun u _ => ?_
      refine ends_lift_bind (fun e _ => ⟨hquiet, nofun⟩) fun files hfiles => ?_
      refine ends_lift_bind (fun e _ => ⟨hquiet, nofun⟩) fun entries hentries => ?_
      cases hselect : select platform now files entries with
      | none =>
        exact ends_bind_of_exec (fun u store₂ hexec₂ => ⟨hquiet.after hexec₂ rfl, nofun⟩)
          fun e store₂ hexec₂ => ⟨hquiet.after hexec₂ rfl, nofun⟩
      | some candidate =>
        refine ⟨hquiet, fun selection hselection => ?_⟩
        obtain rfl := Option.some.inj (Except.ok.inj hselection)
        exact ⟨rfl, files, entries, hfiles, hentries, hselect⟩

theorem quiet_notice {text : String} (h : Quiet store store₁)
    (hrhythm : rhythm.memoryRevision = store.rhythm.memoryRevision) :
    Fallible.Ends (fun _ store' => Quiet store store')
      (notice platform storage rhythm text now) store₁ := by
  unfold notice
  split_ifs with hearly
  · exact h
  · exact ends_bind_of_exec (fun u store₂ hexec => h.after hexec hrhythm)
      fun e store₂ hexec => h.after hexec hrhythm

theorem drafted_eq_some {selection : Selection} {participants : List String}
    {response : Except String Response}
    (h : selection.drafted platform participants response now store = some note) :
    selection.epoch = store.epoch ∧ note.document.text.utf8ByteSize ≤ maxNote ∧
      ∃ reflection, readReflection platform response = .ok reflection ∧
        selection.note participants reflection now = note := by
  unfold Selection.drafted at h
  split_ifs at h with hepoch
  cases hread : readReflection platform response with
  | error e =>
    rw [hread] at h
    cases h
  | ok reflection =>
    rw [hread] at h
    dsimp only at h
    split_ifs at h with hsize
    obtain rfl := Option.some.inj h
    exact ⟨not_not.mp hepoch, Nat.le_of_not_lt hsize, reflection, rfl, rfl⟩

theorem mem_sortedOnce {values : List String} {value : String} :
    value ∈ sortedOnce values ↔ value ∈ values := by
  unfold sortedOnce
  rw [List.mem_dedup, List.mem_insertionSort]

theorem mem_put {memory : Memory} {document : Document} {file : String × Document}
    (h : file ∈ memory.put name document) :
    file = (name, document) ∨ file ∈ memory ∧ file.1 ≠ name :=
  mem_putEntry h

/-- The memory with the note that is about to be stored, if there is one. -/
def stored (platform : Platform) (storage : Storage) (memory : Memory) : Option Note → Memory
  | none => memory
  | some note =>
    if storage.replaces = true then memory.put (platform.digest note.scope) note.document
    else memory

theorem writeNote_snd : ((writeNote platform storage note).exec store).2 =
    { store with memory := stored platform storage store.memory (some note) } := by
  unfold writeNote stored
  rw [exec_get_bind]
  dsimp only
  rw [exec_set_bind, exec_lift, Storage.write_snd_eq]

theorem finished {faults : FinishFaults} {selection : Selection} {participants : List String}
    {response : Except String Response} :
    Fallible.Ends (fun _ store' => Quiet
        { store with
          memory := stored platform faults.note store.memory
            (selection.drafted platform participants response now store) } store')
      (finishReflection platform faults selection participants response now) store := by
  unfold finishReflection
  refine ends_get_bind ?_
  by_cases hepoch : selection.epoch ≠ store.epoch
  · have hdrafted : selection.drafted platform participants response now store = none := by
      unfold Selection.drafted
      rw [if_pos hepoch]
    rw [if_pos hepoch, hdrafted]
    exact .refl _
  · rw [if_neg hepoch]
    cases hread : readReflection platform response with
    | error e =>
      have hdrafted : selection.drafted platform participants response now store = none := by
        unfold Selection.drafted
        rw [if_neg hepoch, hread]
      rw [hdrafted]
      exact ends_bind_of_exec
        (fun u store₁ hexec => quiet_notice ((Quiet.refl store).after hexec rfl) rfl)
        fun e store₁ hexec => (Quiet.refl store).after hexec rfl
    | ok reflection =>
      dsimp only
      cases hdrafted : selection.drafted platform participants response now store with
      | none => exact .refl _
      | some note =>
        dsimp only
        have hwritten {result : Except String Unit} {store₁ : Store}
            (hexec : (writeNote platform faults.note note).exec store = (result, store₁)) :
            ({ store with memory := stored platform faults.note store.memory (some note) } :
              Store) = store₁ := by
          rw [← writeNote_snd, hexec]
        refine ends_bind_of_exec (fun u store₁ hexec => ?_) fun e store₁ hexec => ?_
        · obtain rfl := hwritten hexec
          refine ends_bind_of_exec (fun u store₂ hexec₂ => ?_)
            fun e store₂ hexec₂ => (Quiet.refl _).after hexec₂ rfl
          have hquiet := (Quiet.refl _).after hexec₂ rfl
          refine ends_lift_bind (fun e _ => hquiet) fun u _ => ?_
          cases note.reflection.operatorNeed with
          | none => exact hquiet
          | some need => exact quiet_notice hquiet rfl
        · obtain rfl := hwritten hexec
          exact .refl _

/-! ## Forgetting -/

variable {files : List (String × Note)} {memory : Memory}

theorem notes_ok : notes listing memory = .ok files ↔
    (memory.length ≤ maxFiles ∧ ∀ file ∈ memory, file.2.text.utf8ByteSize ≤ maxNote) ∧
      (listing.order memory).map (fun file => (file.1, file.2.note)) = files := by
  unfold notes
  rw [except_check_ok, failIf_ok, Nat.not_lt, except_check_ok, failIf_ok, except_pure_ok, and_assoc]
  simp only [not_exists, not_and, Nat.not_lt]

theorem mem_notes (h : notes listing memory = .ok files) :
    (name, note) ∈ files ↔ ∃ document, (name, document) ∈ memory ∧ document.note = note := by
  rw [← ((notes_ok).mp h).2]
  simp only [List.mem_map, (listing.perm memory).mem_iff, Prod.exists, Prod.mk.injEq]
  constructor
  · rintro ⟨name', document, hmem, rfl, rfl⟩
    exact ⟨document, hmem, rfl⟩
  · rintro ⟨document, hmem, rfl⟩
    exact ⟨name, document, hmem, rfl, rfl⟩

theorem onJournal_exec {α : Type} {x : Fallible String (List Entry) α} : (onJournal x).exec store =
      ((x.exec store.journal).1, { store with journal := (x.exec store.journal).2 }) := by
  unfold onJournal
  rw [exec_onPart]
  cases (x.exec store.journal).1 <;> rfl

theorem removeFiles_exec {names : List String} : (removeFiles left names).exec store =
      (failIf (∃ name ∈ names, left name = true) "memory file cannot be removed",
        { store with
          memory := store.memory.filter fun file => !decide (file.1 ∈ names) || left file.1 }) := by
  unfold removeFiles
  rw [exec_modify_bind, exec_lift]

theorem mem_filesOf : name ∈ filesOf inbox files ↔
    ∃ note, (name, note) ∈ files ∧ inbox ∈ note.participants := by
  simp [filesOf]

/-- When no file is left that was to be removed, none is left of whom the notes are. -/
theorem removed_of_left {u : Unit} (hfiles : notes listing memory = .ok files)
    (hleft : failIf (∃ name ∈ filesOf inbox files, left name = true)
      "memory file cannot be removed" = .ok u) :
    ∀ file ∈ memory.filter (fun file => !decide (file.1 ∈ filesOf inbox files) || left file.1),
      inbox ∉ file.2.participants := by
  rintro ⟨name, document⟩ hfile hparticipant
  obtain ⟨hmem, hkept⟩ := List.mem_filter.mp hfile
  have hnamed : name ∈ filesOf inbox files :=
    (mem_filesOf).mpr ⟨document.note, (mem_notes hfiles).mpr ⟨document, hmem, rfl⟩, hparticipant⟩
  simp only [hnamed, decide_true, Bool.not_true, Bool.false_or] at hkept
  exact failIf_ok.mp hleft ⟨name, hnamed, hkept⟩

structure Forgot (inbox : String) (now : ℕ) (store : Store) (result : Except String Unit)
    (store' : Store) : Prop where
  epoch : store'.epoch = store.epoch + 1
  memory : ∃ p, store'.memory = store.memory.filter p
  entries : result = .ok () → normalizeInboxId inbox = .ok inbox →
    store'.journal = kept (forgotten inbox (store.journal.filter (Entry.retained now)))
  removed : result = .ok () → ∀ file ∈ store'.memory, inbox ∉ file.2.participants

theorem forgot {faults : ForgetFaults} :
    Fallible.Ends (Forgot inbox now store) (forget faults listing inbox now) store := by
  have hall : ∃ p, store.memory = store.memory.filter p := by
    refine ⟨fun _ => true, ?_⟩
    rw [List.filter_true]
  unfold forget
  refine ends_modify_bind (ends_get_bind ?_)
  dsimp only
  refine ends_lift_bind (fun e _ => ⟨rfl, hall, nofun, nofun⟩) fun u _ => ?_
  refine ends_bind_of_exec (fun u store₁ hexec => ?_) fun e store₁ hexec => ?_
  · rw [writeRhythm_exec] at hexec
    obtain ⟨-, rfl⟩ := Prod.mk.inj hexec
    refine ends_bind_of_exec (fun u store₂ hexec₂ => ?_) fun e store₂ hexec₂ => ?_
    · rw [onJournal_exec] at hexec₂
      obtain ⟨hok, rfl⟩ := Prod.mk.inj hexec₂
      have hentries (hinbox : normalizeInboxId inbox = .ok inbox) :
          ((forgetEntries faults.history inbox now).exec store.journal).2 =
            kept (forgotten inbox (store.journal.filter (Entry.retained now))) :=
        forgetEntries_ok hinbox (Prod.ext hok rfl)
      refine ends_lift_bind (fun e _ => ⟨rfl, hall, nofun, nofun⟩) fun u _ => ?_
      refine ends_lift_bind (fun e _ => ⟨rfl, hall, nofun, nofun⟩) fun files hfiles => ?_
      refine ends_bind_of_exec (fun u store₃ hexec₃ => ?_) fun e store₃ hexec₃ => ?_
      · rw [removeFiles_exec] at hexec₃
        obtain ⟨hleft, rfl⟩ := Prod.mk.inj hexec₃
        exact ends_lift ⟨rfl, ⟨_, rfl⟩, fun _ => hentries, fun _ => removed_of_left hfiles hleft⟩
      · rw [removeFiles_exec] at hexec₃
        obtain ⟨-, rfl⟩ := Prod.mk.inj hexec₃
        exact ⟨rfl, ⟨_, rfl⟩, nofun, nofun⟩
    · rw [onJournal_exec] at hexec₂
      obtain ⟨-, rfl⟩ := Prod.mk.inj hexec₂
      exact ⟨rfl, hall, nofun, nofun⟩
  · rw [writeRhythm_exec] at hexec
    obtain ⟨-, rfl⟩ := Prod.mk.inj hexec
    exact ⟨rfl, hall, nofun, nofun⟩

end Cthuwu.Mind
