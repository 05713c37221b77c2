import Cthuwu.Tasks.Updates

/-!
# Opening the tasks again

The tasks of every run are such as a start accepts (`ValidTask`), but for the length of the file : a
prompt is bounded in bytes and a result in characters, and JSON escapes both. `reopens_iff` says that
a start accepts the file exactly when the texts of its tasks, escaped, fit (`storeBytes`).
-/

namespace Cthuwu.Tasks

open Council (isWhiteSpace isBlank jsonObject jsonText utf8ByteSize_jsonObject utf8ByteSize_jsonList)
open Hermes (jsonString jsonEscape)
open Operators (OperatorRecord normalizeInboxId normalizeOperatorInboxId isAsciiHexDigit)

variable {task : Task} {tasks next : List Task} {node node' : Node} {inbox text : String}
  {generation now : ℕ} {entropy : Except String (Fin (2 ^ 64))} {index : ℕ} {command : Command}
  {operators : List OperatorRecord} {world : World} {event : Event} {storage : Storage}

/-! ## Valid tasks -/

/-- A task that a start accepts, beside the others. -/
structure ValidTask (task : Task) : Prop where
  id : task.id.utf8ByteSize = 16 ∧ task.id.toList.all isAsciiHexDigit = true
  inbox : task.inbox.utf8ByteSize = 64 ∧ normalizeInboxId task.inbox = .ok task.inbox
  generation : task.generation ≠ 0
  interval : task.interval ≠ 0 → isInterval task.interval = true
  prompt : isPrompt task.prompt = true
  result : ∀ result ∈ task.result, result.length ≤ maxResultChars
  update : task.forceUpdate = true →
    task.interval = 0 ∧ task.builtin = none ∧ task.prompt = forceUpdatePrompt
  builtin : ∀ builtin ∈ task.builtin, builtin = dailyReview ∧ task.interval ≠ 0
  removed : task.builtin = none → task.state ≠ .removed

/-- The authorization of a review. -/
def reviewKey (task : Task) : Option (String × ℕ) :=
  task.builtin.map fun _ => (task.inbox, task.generation)

theorem validateTask_ok (h : ValidTask task) {seen : Seen} (hid : task.id ∉ seen.ids)
    (hreview : ∀ key ∈ reviewKey task, key ∉ seen.builtins) :
    validateTask seen task =
      .ok { ids := task.id :: seen.ids, builtins := (reviewKey task).toList ++ seen.builtins } := by
  have hfirst : ¬(task.id.utf8ByteSize ≠ 16 ∨ ¬task.id.toList.all isAsciiHexDigit = true ∨
      task.id ∈ seen.ids ∨ task.inbox.utf8ByteSize ≠ 64) := by
    simp [h.id.1, h.id.2, h.inbox.1, hid]
  have hsecond : ¬(task.inbox ≠ task.inbox ∨ task.generation = 0 ∨
      (task.interval ≠ 0 ∧ ¬isInterval task.interval = true) ∨ ¬isPrompt task.prompt = true ∨
      ∃ result ∈ task.result, maxResultChars < result.length) := by
    rintro (hne | hzero | ⟨hne, hnot⟩ | hprompt | ⟨result, hresult, hlong⟩)
    · exact hne rfl
    · exact h.generation hzero
    · exact hnot (h.interval hne)
    · exact hprompt h.prompt
    · exact Nat.not_lt.mpr (h.result result hresult) hlong
  have hthird : ¬(task.forceUpdate = true ∧
      (task.interval ≠ 0 ∨ task.builtin.isSome = true ∨ task.prompt ≠ forceUpdatePrompt)) := by
    rintro ⟨hforce, hbad⟩
    obtain ⟨hzero, hnone, hprompt⟩ := h.update hforce
    rcases hbad with hne | hsome | hne
    · exact hne hzero
    · rw [hnone] at hsome
      cases hsome
    · exact hne hprompt
  unfold validateTask
  refine except_check_ok.mpr ⟨failIf_ok.mpr hfirst, except_bind_ok.mpr ⟨task.inbox, h.inbox.2,
    except_check_ok.mpr ⟨failIf_ok.mpr hsecond, except_check_ok.mpr ⟨failIf_ok.mpr hthird, ?_⟩⟩⟩⟩
  cases hbuiltin : task.builtin with
  | none =>
    have hkey : reviewKey task = none := by
      unfold reviewKey
      rw [hbuiltin]
      rfl
    rw [hkey]
    exact except_check_ok.mpr ⟨failIf_ok.mpr (h.removed hbuiltin), rfl⟩
  | some builtin =>
    have hkey : reviewKey task = some (task.inbox, task.generation) := by
      unfold reviewKey
      rw [hbuiltin]
      rfl
    obtain ⟨hname, hinterval⟩ := h.builtin builtin hbuiltin
    have hlast : ¬(builtin ≠ dailyReview ∨ task.interval = 0 ∨
        (task.inbox, task.generation) ∈ seen.builtins) := by
      rintro (hne | hzero | hseen)
      · exact hne hname
      · exact hinterval hzero
      · exact hreview _ hkey hseen
    rw [hkey]
    exact except_check_ok.mpr ⟨failIf_ok.mpr hlast, rfl⟩

theorem validateTasks_ok (hvalid : ∀ task ∈ tasks, ValidTask task) {seen : Seen}
    (hids : (tasks.map Task.id ++ seen.ids).Nodup)
    (hreviews : (tasks.filterMap reviewKey ++ seen.builtins).Nodup) :
    ∃ seen', tasks.foldlM validateTask seen = .ok seen' := by
  induction tasks generalizing seen with
  | nil => exact ⟨seen, rfl⟩
  | cons task tasks ih =>
    rw [List.map_cons, List.cons_append, List.nodup_cons] at hids
    obtain ⟨hid, hids⟩ := hids
    have hfresh : task.id ∉ seen.ids := fun hmem => hid (List.mem_append_right _ hmem)
    have hreview : ∀ key ∈ reviewKey task, key ∉ seen.builtins := by
      intro key hkey hseen
      rw [List.filterMap_cons_some hkey, List.cons_append, List.nodup_cons] at hreviews
      exact hreviews.1 (List.mem_append_right _ hseen)
    rw [List.foldlM_cons, validateTask_ok (hvalid task List.mem_cons_self) hfresh hreview]
    refine ih (fun t ht => hvalid t (List.mem_cons_of_mem _ ht)) ?_ ?_
    · rw [List.nodup_middle]
      exact List.nodup_cons.mpr ⟨hid, hids⟩
    · cases hkey : reviewKey task with
      | none =>
        rw [List.filterMap_cons_none hkey] at hreviews
        exact hreviews
      | some key =>
        rw [List.filterMap_cons_some hkey] at hreviews
        change (tasks.filterMap reviewKey ++ key :: seen.builtins).Nodup
        rw [List.nodup_middle]
        exact hreviews

/-! ## What operations register -/

variable {id : String} {seconds : ℕ}

theorem taskId_valid (h : taskId entropy = .ok id) :
    id.utf8ByteSize = 16 ∧ id.toList.all isAsciiHexDigit = true := by
  unfold taskId at h
  obtain ⟨bytes, -, h⟩ := except_bind_ok.mp h
  obtain rfl := except_pure_ok.mp h
  refine ⟨utf8ByteSize_hexOf 16 bytes, List.all_eq_true.mpr fun c hc => ?_⟩
  rw [String.toList_ofList] at hc
  exact of_mem_hexOf (p := fun c => isAsciiHexDigit c = true) (by decide) hc

theorem authority_inbox (h : Authority inbox generation) :
    inbox.utf8ByteSize = 64 ∧ normalizeInboxId inbox = .ok inbox := by
  obtain ⟨hinbox, -⟩ := h
  unfold normalizeOperatorInboxId at hinbox
  obtain ⟨value, hvalue, hinbox⟩ := except_bind_ok.mp hinbox
  obtain ⟨hsize, hvalue'⟩ := except_check_ok.mp hinbox
  obtain rfl := except_pure_ok.mp hvalue'
  exact ⟨not_not.mp (failIf_ok.mp hsize), hvalue⟩

/-- A command that is read asks for what the tasks may hold. -/
def Command.WellFormed : Command → Prop
  | register seconds prompt =>
    isPrompt prompt = true ∧ (seconds ≠ 0 → isInterval seconds = true)
  | steer _ prompt => isPrompt prompt = true
  | interval _ seconds => isInterval seconds = true
  | list | remove _ | pause _ | resume _ => True

theorem parseRegister_wellFormed {prompt : String}
    (hseconds : seconds ≠ 0 → isInterval seconds = true)
    (h : parseRegister seconds prompt = .ok command) : command.WellFormed := by
  unfold parseRegister at h
  obtain ⟨hprompt, h⟩ := except_check_ok.mp h
  obtain rfl := except_pure_ok.mp h
  exact ⟨not_not.mp (failIf_ok.mp hprompt), hseconds⟩

theorem parseCommand_wellFormed (h : parseCommand text = .ok command) : command.WellFormed := by
  unfold parseCommand at h
  obtain ⟨operation, rest⟩ := (splitOnce (trim text)).getD (trim text, "")
  dsimp only at h
  split_ifs at h
  · obtain rfl := Except.ok.inj h
    trivial
  · exact parseRegister_wellFormed (fun hne => absurd rfl hne) h
  · unfold parseAdd at h
    simp only [except_bind_ok, exists_unit, failIf_ok, not_not] at h
    obtain ⟨found, hfound, seconds, hparse, hinterval, h⟩ := h
    exact parseRegister_wellFormed (fun _ => hinterval) h
  · unfold parseSteer at h
    simp only [except_bind_ok, exists_unit, failIf_ok, not_not, except_pure_ok] at h
    obtain ⟨found, hfound, hprompt, rfl⟩ := h
    exact hprompt
  · unfold parseInterval at h
    simp only [except_bind_ok, exists_unit, failIf_ok, not_not, except_pure_ok] at h
    obtain ⟨found, hfound, seconds, hparse, hinterval, rfl⟩ := h
    exact hinterval
  · obtain rfl := Except.ok.inj h
    trivial
  · obtain rfl := Except.ok.inj h
    trivial
  · obtain rfl := Except.ok.inj h
    trivial

theorem isInterval_ne_zero (h : isInterval seconds = true) : seconds ≠ 0 := by
  rintro rfl
  cases h

/-- A text that starts with a visible character other than a slash. -/
theorem isPrompt_of_head {prompt : String} {c : Char}
    (hhead : prompt.toList.head? = some c) (hvisible : isWhiteSpace c = false) (hslash : c ≠ '/')
    (hsize : prompt.utf8ByteSize ≤ maxPromptBytes) : isPrompt prompt = true := by
  obtain ⟨rest, hlist⟩ := List.head?_eq_some_iff.mp hhead
  unfold isPrompt isBlank trim
  rw [hlist, String.toList_ofList, head?_trimBy hvisible]
  simp [hvisible, hslash, hsize]

theorem isPrompt_forceUpdatePrompt : isPrompt forceUpdatePrompt = true :=
  isPrompt_of_head (c := 'I') (by decide) (by decide) (by decide) (by decide +kernel)

theorem isPrompt_dailyReviewPrompt : isPrompt dailyReviewPrompt = true := by
  refine isPrompt_of_head (c := 'R') ?_ (by decide) (by decide) ?_
  · unfold dailyReviewPrompt
    simp only [String.toList_append, List.head?_append]
    decide +kernel
  · unfold dailyReviewPrompt
    simp only [String.utf8ByteSize_append]
    decide +kernel

theorem isInterval_dailyReviewInterval : isInterval dailyReviewInterval = true := by
  decide

theorem validTask_request {prompt : String} (hid : taskId entropy = .ok id)
    (hauthority : Authority inbox generation) (hprompt : isPrompt prompt = true)
    (hseconds : seconds ≠ 0 → isInterval seconds = true) :
    ValidTask (requestTask id inbox generation seconds now prompt) :=
  ⟨taskId_valid hid, authority_inbox hauthority, hauthority.2, hseconds, hprompt, nofun, nofun,
    nofun, fun _ => nofun⟩

theorem validTask_update (hid : taskId entropy = .ok id) (hauthority : Authority inbox generation) :
    ValidTask (updateTask id inbox generation now) :=
  ⟨taskId_valid hid, authority_inbox hauthority, hauthority.2, fun hne => absurd rfl hne,
    isPrompt_forceUpdatePrompt, nofun, fun _ => ⟨rfl, rfl, rfl⟩, nofun, fun _ => nofun⟩

theorem validTask_review (hid : taskId entropy = .ok id) (hauthority : Authority inbox generation) :
    ValidTask (reviewTask id inbox generation now) := by
  refine ⟨taskId_valid hid, authority_inbox hauthority, hauthority.2,
    fun _ => isInterval_dailyReviewInterval, isPrompt_dailyReviewPrompt, nofun, nofun, fun builtin hbuiltin => ?_, nofun⟩
  obtain rfl := Option.some.inj hbuiltin
  exact ⟨rfl, isInterval_ne_zero isInterval_dailyReviewInterval⟩

theorem ValidTask.edit {f : Task → Task} (h : ValidTask task) (hcommand : command.WellFormed)
    (hedit : Edit now id task command f) : ValidTask (f task) := by
  cases hedit with
  | steer prompt hforce =>
    exact ⟨h.id, h.inbox, h.generation, h.interval, hcommand, h.result,
      fun hforce' => absurd hforce' (hforce ▸ Bool.false_ne_true), h.builtin, fun _ => nofun⟩
  | interval seconds hforce =>
    exact ⟨h.id, h.inbox, h.generation, fun _ => hcommand, h.prompt, h.result,
      fun hforce' => absurd hforce' (hforce ▸ Bool.false_ne_true),
      fun builtin hbuiltin => ⟨(h.builtin builtin hbuiltin).1, isInterval_ne_zero hcommand⟩,
      h.removed⟩
  | remove hbuiltin =>
    refine ⟨h.id, h.inbox, h.generation, h.interval, h.prompt, fun result hresult => ?_, h.update,
      h.builtin, fun hnone => ?_⟩
    · obtain rfl := Option.some.inj hresult
      rw [String.length_append]
      decide
    · rw [show task.builtin = none from hnone] at hbuiltin
      cases hbuiltin
  | pause =>
    exact ⟨h.id, h.inbox, h.generation, h.interval, h.prompt, h.result, h.update, h.builtin,
      fun _ => nofun⟩
  | resume =>
    exact ⟨h.id, h.inbox, h.generation, h.interval, h.prompt, h.result, h.update, h.builtin,
      fun _ => nofun⟩

theorem ValidTask.start (h : ValidTask task) : ValidTask task.start :=
  ⟨h.id, h.inbox, h.generation, h.interval, h.prompt, h.result, h.update, h.builtin, fun _ => nofun⟩

theorem ValidTask.end (h : ValidTask task) (output : String) (success : Bool) :
    ValidTask (task.end output success now) := by
  refine ⟨h.id, h.inbox, h.generation, h.interval, h.prompt, fun result hresult => ?_, h.update,
    h.builtin, fun _ => ?_⟩
  · obtain rfl := Option.some.inj hresult
    rw [String.length_ofList, List.length_take]
    exact Nat.min_le_left _ _
  · unfold Task.end
    dsimp only
    split_ifs <;> exact nofun

theorem ValidTask.recover (h : ValidTask task) : ValidTask task.recover := by
  unfold Task.recover
  split_ifs
  · refine ⟨h.id, h.inbox, h.generation, h.interval, h.prompt, fun result hresult => ?_, h.update,
      h.builtin, fun _ => nofun⟩
    obtain rfl := Option.some.inj hresult
    decide
  · exact h

/-! ## Every run -/

/-- Tasks that a start accepts, beside their names and their length. -/
structure Accepted (tasks : List Task) : Prop where
  count : tasks.length ≤ maxTasks
  valid : ∀ task ∈ tasks, ValidTask task

theorem accepted_nil : Accepted [] := ⟨Nat.zero_le _, nofun⟩

theorem Accepted.append (h : Accepted tasks) (hcount : tasks.length < maxTasks)
    (hvalid : ValidTask task) : Accepted (tasks ++ [task]) := by
  refine ⟨?_, fun t ht => ?_⟩
  · rw [List.length_append]
    exact hcount
  · rcases List.mem_append.mp ht with ht | ht
    · exact h.valid t ht
    · rw [List.mem_singleton.mp ht]
      exact hvalid

theorem Accepted.modify {f : Task → Task} (h : Accepted tasks) (hget : tasks[index]? = some task)
    (hf : ValidTask task → ValidTask (f task)) : Accepted (tasks.modify index f) := by
  refine ⟨?_, fun t ht => ?_⟩
  · rw [List.length_modify]
    exact h.count
  · rcases mem_modify hget ht with ht | rfl
    · exact h.valid t ht
    · exact hf (h.valid task (List.mem_of_getElem? hget))

theorem Accepted.erase (h : Accepted tasks) : Accepted (tasks.eraseIdx index) :=
  have hsublist := List.eraseIdx_sublist tasks index
  ⟨hsublist.length_le.trans h.count, fun t ht => h.valid t (hsublist.subset ht)⟩

theorem Accepted.recover (h : Accepted tasks) : Accepted (tasks.map Task.recover) := by
  refine ⟨?_, fun t ht => ?_⟩
  · rw [List.length_map]
    exact h.count
  · obtain ⟨t, hmem, rfl⟩ := List.mem_map.mp ht
    exact (h.valid t hmem).recover

theorem Accepted.applied (h : Accepted tasks) (hauthority : Authority inbox generation)
    (hcommand : command.WellFormed)
    (happlied : Applied inbox generation now entropy tasks command next) : Accepted next := by
  cases happlied with
  | registered hid hlength =>
    exact h.append hlength (validTask_request hid hauthority hcommand.1 hcommand.2)
  | edited hget hnamed hedit => exact h.modify hget fun hvalid => hvalid.edit hcommand hedit
  | erased hget hnamed hbuiltin => exact h.erase

/-- What a world holds on disk is the text of tasks that a start accepts. -/
structure World.Stored (world : World) : Prop where
  memory : ∀ tasks, world.tasks = some tasks → Accepted tasks
  file : ∀ file, world.file = some file → Accepted file.tasks ∧ file = encode file.tasks

/-- A node whose file is the text of its tasks. -/
structure Node.Stored (node : Node) : Prop where
  tasks : Accepted node.tasks
  file : ∀ file, node.file = some file → Accepted file.tasks ∧ file = encode file.tasks

theorem Node.Stored.wrote {α : Type} {a : α} {result : Except String α} (h : node.Stored)
    (hnext : Accepted next) (hwrote : Wrote next a node (result, node')) : node'.Stored := by
  cases hwrote with
  | refused => exact h
  | written =>
    refine ⟨hnext, fun file hfile => ?_⟩
    obtain rfl := Option.some.inj hfile
    exact ⟨hnext, rfl⟩
  | unconfirmed =>
    refine ⟨h.tasks, fun file hfile => ?_⟩
    obtain rfl := Option.some.inj hfile
    exact ⟨hnext, rfl⟩

theorem World.Stored.of_node (node : Node) (h : node.Stored) (htasks : world.tasks = some node.tasks)
    (hfile : world.file = node.file) : world.Stored := by
  refine ⟨fun tasks ht => ?_, fun file hf => h.file file (hfile.symm.trans hf)⟩
  obtain rfl := Option.some.inj (htasks.symm.trans ht)
  exact h.tasks

theorem World.Stored.at (h : world.Stored) (htasks : world.tasks = some tasks) :
    (⟨tasks, world.file⟩ : Node).Stored :=
  ⟨h.memory tasks htasks, h.file⟩

theorem authority_of_mem {operator : OperatorRecord} (h : Operators.Valid operators)
    (hoperator : operator ∈ operators) : Authority operator.inboxId operator.generation :=
  ⟨(h.each operator hoperator).canonical, (h.each operator hoperator).generation⟩

theorem stored_claimed {answer : Except String Unit} {claimed : Except String (Option Task)}
    {node₁ : Node} (h : node.Stored) (hoperators : Operators.Valid operators)
    (hreviewed : Reviewed operators now entropy node (answer, node₁))
    (hclaimed : Claimed operators now node₁ (claimed, node')) : node'.Stored := by
  have h₁ : node₁.Stored := by
    cases hreviewed with
    | kept => exact h
    | wrote hoperator hid hlength _ hwrote =>
      exact h.wrote (h.tasks.append hlength
        (validTask_review hid (authority_of_mem hoperators hoperator))) hwrote
  cases hclaimed with
  | kept => exact h₁
  | wrote hget hclaimable hwrote => exact h₁.wrote (h₁.tasks.modify hget ValidTask.start) hwrote

theorem stored_next (h : world.Stored) (hallowed : world.Allowed event) :
    (world.next event).Stored := by
  have hstep := world.step event
  generalize world.next event = world' at hstep ⊢
  cases hstep with
  | idle => exact h
  | opened hopened =>
    obtain ⟨hmemory, hfile⟩ := hopened.holds accepted_nil
      (fun found hfound => (h.file found hfound).1.recover) h.file fun _ hnext => ⟨hnext, rfl⟩
    exact ⟨hmemory, hfile⟩
  | crashed => exact ⟨nofun, h.file⟩
  | queued htasks hended =>
    have hnode := h.at htasks
    refine World.Stored.of_node _ ?_ rfl rfl
    cases hended with
    | kept => exact hnode
    | wrote hid hlength _ hwrote =>
      exact hnode.wrote (hnode.tasks.append hlength (validTask_update hid hallowed.1)) hwrote
  | commanded htasks _ hended =>
    have hnode := h.at htasks
    refine World.Stored.of_node _ ?_ rfl rfl
    cases hended with
    | kept => exact hnode
    | wrote hparse happlied hwrote =>
      exact hnode.wrote (hnode.tasks.applied hallowed.1 (parseCommand_wellFormed hparse)
        happlied) hwrote
  | claimed htasks hreviewed hclaimed =>
    exact .of_node _ (stored_claimed (h.at htasks) hallowed.2.1 hreviewed hclaimed) rfl rfl
  | unclaimed htasks hreviewed hclaimed =>
    exact .of_node _ (stored_claimed (h.at htasks) hallowed.2.1 hreviewed hclaimed) rfl rfl
  | finished htasks _ hended =>
    have hnode := h.at htasks
    refine World.Stored.of_node _ ?_ rfl rfl
    cases hended with
    | kept => exact hnode
    | wrote hget hrunning hwrote =>
      exact hnode.wrote (hnode.tasks.modify hget fun hvalid => hvalid.end _ _) hwrote

theorem stored_empty : World.empty.Stored := ⟨nofun, nofun⟩

theorem stored_of_reachable (h : machine.Reachable world) : world.Stored :=
  h.invariant (P := World.Stored) stored_empty fun _ _ _ hstored hallowed =>
    stored_next hstored hallowed

/-! ## The length of the file -/

/-- The bytes of a character in a JSON text. -/
def escapedBytes (c : Char) : ℕ :=
  if c ∈ ['\x22', '\x5c', '\x08', '\x0c', '\n', '\r', '\t'] then 2
  else if c.toNat < 0x20 then 6
  else c.utf8Size

/-- The bytes of a text between its quotes. -/
def textBytes (value : String) : ℕ :=
  (value.toList.map escapedBytes).sum

/-- The bytes of a task : its texts and numbers, and the names of its fields. -/
def Task.bytes (task : Task) : ℕ :=
  textBytes task.id + textBytes task.inbox + task.generation.repr.utf8ByteSize +
    task.interval.repr.utf8ByteSize + task.next.repr.utf8ByteSize + textBytes task.prompt +
    (if task.forceUpdate = true then 4 else 5) + textBytes task.state.text +
    (task.result.map fun result => 2 + textBytes result).getD 4 +
    (task.builtin.map fun builtin => 13 + textBytes builtin).getD 0 + 103

/-- The bytes of tasks in brackets, with commas between them. -/
def storeBytes (tasks : List Task) : ℕ :=
  (tasks.map Task.bytes).sum + (tasks.length - 1) + 2

theorem hexDigit_utf8Size : ∀ n < 16, (Hermes.hexDigit n).utf8Size = 1 := by
  decide

theorem sum_jsonEscape (c : Char) : ((jsonEscape c).map Char.utf8Size).sum = escapedBytes c := by
  by_cases hescaped : c ∈ ['\x22', '\x5c', '\x08', '\x0c', '\n', '\r', '\t']
  · simp only [List.mem_cons, List.not_mem_nil, or_false] at hescaped
    rcases hescaped with rfl | rfl | rfl | rfl | rfl | rfl | rfl <;> decide
  · have hescaped' := hescaped
    simp only [List.mem_cons, List.not_mem_nil, or_false, not_or] at hescaped'
    obtain ⟨hquote, hslash, hbackspace, hfeed, hline, hreturn, htab⟩ := hescaped'
    unfold jsonEscape escapedBytes
    rw [if_neg hquote, if_neg hslash, if_neg hbackspace, if_neg hfeed, if_neg hline,
      if_neg hreturn, if_neg htab, if_neg hescaped]
    split_ifs with hcontrol
    · have hhigh := hexDigit_utf8Size (c.toNat / 16) (by omega)
      have hlow := hexDigit_utf8Size (c.toNat % 16) (by omega)
      simp only [List.map_cons, List.map_nil, List.sum_cons, List.sum_nil, hhigh, hlow]
      decide
    · simp

theorem utf8ByteSize_jsonString (value : String) :
    (jsonString value).utf8ByteSize = textBytes value + 2 := by
  have hquote : ("\"" : String).utf8ByteSize = 1 := by decide
  have hsum : ((value.toList.flatMap jsonEscape).map Char.utf8Size).sum = textBytes value := by
    unfold textBytes
    induction value.toList with
    | nil => rfl
    | cons c rest ih =>
      rw [List.flatMap_cons, List.map_append, List.sum_append, ih, sum_jsonEscape, List.map_cons,
        List.sum_cons]
  unfold Hermes.jsonString jsonText
  rw [String.utf8ByteSize_append, String.utf8ByteSize_append, hquote,
    utf8ByteSize_eq_sum (String.ofList _), String.toList_ofList, hsum]
  omega

theorem utf8ByteSize_boolText (value : Bool) :
    (boolText value).utf8ByteSize = if value = true then 4 else 5 := by
  cases value <;> decide

theorem utf8ByteSize_names : ["id", "inbox", "generation", "interval", "next", "prompt",
    "force_update", "state", "result", "builtin", "null"].map String.utf8ByteSize =
      [2, 5, 10, 8, 4, 6, 12, 5, 6, 7, 4] := by
  decide

theorem utf8ByteSize_json (task : Task) : task.json.utf8ByteSize = task.bytes := by
  have hnames := utf8ByteSize_names
  simp only [List.map_cons, List.map_nil, List.cons.injEq, and_true] at hnames
  obtain ⟨hid, hinbox, hgeneration, hinterval, hnext, hprompt, hforce, hstate, hresult, hbuiltin,
    hnull⟩ := hnames
  have hresult' : ((task.result.map jsonString).getD "null").utf8ByteSize =
      (task.result.map fun result => 2 + textBytes result).getD 4 := by
    cases task.result with
    | none => exact hnull
    | some result => exact (utf8ByteSize_jsonString result).trans (Nat.add_comm _ _)
  unfold Task.json Task.bytes
  rw [utf8ByteSize_jsonObject]
  cases task.builtin with
  | none =>
    simp only [Option.map_none, Option.toList_none, List.append_nil, List.map_cons, List.map_nil,
      List.sum_cons, List.sum_nil, List.length_cons, List.length_nil, hresult',
      utf8ByteSize_jsonString, utf8ByteSize_boolText, Option.getD_none, hid, hinbox, hgeneration,
      hinterval, hnext, hprompt, hforce, hstate, hresult]
    omega
  | some builtin =>
    simp only [Option.map_some, Option.toList_some, List.cons_append, List.nil_append,
      List.map_cons, List.map_nil, List.sum_cons, List.sum_nil, List.length_cons, List.length_nil,
      hresult', utf8ByteSize_jsonString, utf8ByteSize_boolText, Option.getD_some, hid, hinbox,
      hgeneration, hinterval, hnext, hprompt, hforce, hstate, hresult, hbuiltin]
    omega

theorem encode_length (tasks : List Task) : (encode tasks).length = storeBytes tasks := by
  have hbytes : (tasks.map Task.json).map String.utf8ByteSize = tasks.map Task.bytes := by
    rw [List.map_map]
    exact List.map_congr_left fun task _ => utf8ByteSize_json task
  unfold encode storeBytes
  dsimp only
  rw [utf8ByteSize_jsonList, hbytes, List.length_map]

theorem nodup_reviewKeys (hvalid : ∀ task ∈ tasks, ValidTask task)
    (hreviews : ∀ inbox generation, tasks.countP (Task.isReview inbox generation) ≤ 1) :
    (tasks.filterMap reviewKey).Nodup := by
  rw [List.nodup_iff_count_le_one]
  rintro ⟨inbox, generation⟩
  rw [List.count_filterMap]
  refine (List.countP_mono_left fun task htask hkey => ?_).trans (hreviews inbox generation)
  have hkey := eq_of_beq hkey
  unfold reviewKey at hkey
  obtain ⟨builtin, hbuiltin, hpair⟩ := Option.map_eq_some_iff.mp hkey
  obtain ⟨rfl, rfl⟩ := Prod.mk.inj hpair
  unfold Task.isReview Task.owned
  rw [hbuiltin, ((hvalid task htask).builtin builtin hbuiltin).1]
  simp

/-- In every run, a start accepts the file exactly when the texts of its tasks fit. -/
theorem reopens_iff (h : machine.Reachable world) {file : TaskFile} (hfile : world.file = some file) :
    (∃ tasks, loadTasks file = .ok tasks) ↔ storeBytes file.tasks ≤ maxStoreBytes := by
  obtain ⟨haccepted, hencode⟩ := (stored_of_reachable h).file file hfile
  have hregistered := (sound_of_reachable h).file file hfile
  have hlength : file.length = storeBytes file.tasks := by
    rw [← encode_length, ← hencode]
  rw [← hlength]
  constructor
  · rintro ⟨tasks, hload⟩
    exact (loadTasks_ok.mp hload).1.1
  · intro hfits
    obtain ⟨seen, hseen⟩ := @validateTasks_ok file.tasks haccepted.valid
      { ids := [], builtins := [] } (by rw [List.append_nil]; exact hregistered.ids)
      (by rw [List.append_nil]; exact nodup_reviewKeys haccepted.valid hregistered.reviews)
    exact ⟨_, loadTasks_ok.mpr ⟨⟨hfits, haccepted.count, seen, hseen⟩, rfl⟩⟩

/-! ## Many requests -/

variable {prompt : String} {count : ℕ}

def sampleId (i : ℕ) : String := String.ofList (hexOf 16 (i % 2 ^ 64))

def sampleTasks (prompt : String) (count : ℕ) : List Task :=
  (List.range count).map fun i => requestTask (sampleId i) sampleInbox 1 0 0 prompt

def sampleRequest (prompt : String) (i : ℕ) : Event :=
  .command .written sampleInbox 1 ("run " ++ prompt) 0 (.ok (Fin.ofNat (2 ^ 64) i))

def sampleRequests (prompt : String) (count : ℕ) : List Event :=
  .openTasks .written :: (List.range' 0 count).map (sampleRequest prompt)

def sampleWorld (prompt : String) (count : ℕ) : World :=
  { tasks := some (sampleTasks prompt count)
    file := some (encode (sampleTasks prompt count))
    run := none
    used := ((List.range count).map sampleId).reverse
    log := [] }

theorem sampleTasks_succ (count : ℕ) : sampleTasks prompt (count + 1) =
    sampleTasks prompt count ++ [requestTask (sampleId count) sampleInbox 1 0 0 prompt] := by
  unfold sampleTasks
  rw [List.range_succ, List.map_append, List.map_singleton]

theorem length_sampleTasks (count : ℕ) : (sampleTasks prompt count).length = count := by
  unfold sampleTasks
  rw [List.length_map, List.length_range]

theorem taskId_sample (i : ℕ) : taskId (.ok (Fin.ofNat (2 ^ 64) i)) = .ok (sampleId i) := rfl

theorem fresh_sampleId (h : count < maxTasks) :
    Fresh (sampleWorld prompt count) (.ok (Fin.ofNat (2 ^ 64) count)) := by
  intro id hid hused
  obtain rfl := List.mem_singleton.mp (show id ∈ [sampleId count] from hid)
  obtain ⟨i, hi, heq⟩ := List.mem_map.mp (List.mem_reverse.mp hused)
  have hi := List.mem_range.mp hi
  have hmax : maxTasks < 2 ^ 64 := by decide
  unfold sampleId at heq
  rw [Nat.mod_eq_of_lt (by omega), Nat.mod_eq_of_lt (by omega)] at heq
  have hsame := hexOf_inj (by omega) (by omega) (String.ofList_injective heq)
  omega

section

variable (hparse : parseCommand ("run " ++ prompt) = .ok (.register 0 prompt))

include hparse

theorem command_sampleRequest (h : count < maxTasks) : ∃ output,
    (Tasks.command .written sampleInbox 1 ("run " ++ prompt) 0
      (.ok (Fin.ofNat (2 ^ 64) count))).exec
        ⟨sampleTasks prompt count, some (encode (sampleTasks prompt count))⟩ =
      (.ok output,
        ⟨sampleTasks prompt (count + 1), some (encode (sampleTasks prompt (count + 1)))⟩) := by
  have hspace : ¬maxTasks ≤ (sampleTasks prompt count).length := by
    rw [length_sampleTasks]
    omega
  unfold Tasks.command
  rw [Fallible.exec_get_bind, hparse, Fallible.exec_lift_bind]
  dsimp only
  unfold Command.apply
  simp only [failIf, if_neg hspace, taskId_sample]
  rw [sampleTasks_succ]
  exact ⟨_, rfl⟩

theorem next_sampleRequest (h : count < maxTasks) :
    (sampleWorld prompt count).next (sampleRequest prompt count) =
      sampleWorld prompt (count + 1) := by
  obtain ⟨output, hexec⟩ := command_sampleRequest hparse h
  have hnoted : ∀ node node', noted sampleInbox 1 ("run " ++ prompt) (.ok output) node node' =
      [] := fun node node' => noted_written hparse
  have hdrawn : drawn (.ok (Fin.ofNat (2 ^ 64) count)) = [sampleId count] := rfl
  unfold World.next sampleRequest
  simp only [sampleWorld, hexec, hnoted, hdrawn, World.take, Option.map_none, List.nil_append,
    List.singleton_append]
  rw [List.range_succ, List.map_append, List.reverse_append]
  rfl

theorem sampleRun {start : ℕ} (h : start + count ≤ maxTasks) :
    machine.Admits (sampleWorld prompt start)
        ((List.range' start count).map (sampleRequest prompt)) ∧
      ((List.range' start count).map (sampleRequest prompt)).foldl World.next
        (sampleWorld prompt start) = sampleWorld prompt (start + count) := by
  have hauthority : Authority sampleInbox 1 := by decide +kernel
  induction count generalizing start with
  | zero => exact ⟨trivial, rfl⟩
  | succ count ih =>
    have hnext := next_sampleRequest hparse (show start < maxTasks by omega)
    have hstart : start + 1 + count = start + (count + 1) := by omega
    obtain ⟨hadmits, hrun⟩ := @ih (start + 1) (by omega)
    have hallowed : machine.Allowed (sampleWorld prompt start) (sampleRequest prompt start) :=
      ⟨hauthority, fresh_sampleId (by omega)⟩
    rw [List.range'_succ, List.map_cons]
    refine ⟨Machine.admits_cons hallowed ((machine_next _ _).trans hnext) hadmits, ?_⟩
    rw [List.foldl_cons, hnext, hrun, hstart]

theorem sampleRequests_run (h : count ≤ maxTasks) :
    machine.Admits World.empty (sampleRequests prompt count) ∧
      (sampleRequests prompt count).foldl World.next World.empty = sampleWorld prompt count := by
  have hopen : World.empty.next (.openTasks .written) = sampleWorld prompt 0 := rfl
  obtain ⟨hadmits, hrun⟩ := @sampleRun prompt count hparse 0 (by omega)
  refine ⟨Machine.admits_cons trivial ((machine_next _ _).trans hopen) hadmits, ?_⟩
  unfold sampleRequests
  rw [List.foldl_cons, hopen, hrun, Nat.zero_add]

theorem reachable_sampleWorld (h : count ≤ maxTasks) :
    machine.Reachable (sampleWorld prompt count) := by
  obtain ⟨hadmits, hrun⟩ := sampleRequests_run hparse h
  rw [← hrun]
  exact .run .init hadmits

end

theorem reopens_iff_sample : ∃ tasks, loadTasks (encode (sampleTasks "rest" 1)) = .ok tasks := by
  have hparse : parseCommand ("run " ++ "rest") = .ok (.register 0 "rest") := by decide +kernel
  have hfits : storeBytes (sampleTasks "rest" 1) ≤ maxStoreBytes := by decide +kernel
  exact (reopens_iff (reachable_sampleWorld hparse (by decide)) rfl).mpr hfits

/-! ## Prompts of control characters -/

/-- A prompt of control characters, each of which takes six bytes in JSON. -/
def longPrompt : String := String.ofList (List.replicate maxPromptBytes '\x01')

theorem isPrompt_longPrompt : isPrompt longPrompt = true := by
  refine isPrompt_of_head (c := '\x01') ?_ (by decide) (by decide) ?_
  · unfold longPrompt
    rw [String.toList_ofList, List.head?_replicate]
    rfl
  · have hone : ∀ c ∈ List.replicate maxPromptBytes '\x01', c.utf8Size = 1 := fun c hc => by
      rw [List.eq_of_mem_replicate hc]
      decide
    unfold longPrompt
    rw [utf8ByteSize_ofList hone, List.length_replicate]

/-- A request that does not end in white space is read as it is. -/
theorem parseCommand_run {prompt : String} {c : Char} {l : List Char}
    (hlist : prompt.toList = l ++ [c]) (hvisible : isWhiteSpace c = false) :
    parseCommand ("run " ++ prompt) = parseRegister 0 prompt := by
  have htext : ("run " ++ prompt).toList = 'r' :: 'u' :: 'n' :: ' ' :: prompt.toList := by
    rw [String.toList_append]
    rfl
  have htrim : trim ("run " ++ prompt) = "run " ++ prompt := by
    have hends : ("run " ++ prompt).toList = 'r' :: ('u' :: 'n' :: ' ' :: l ++ [c]) := by
      rw [htext, hlist]
      rfl
    unfold trim
    rw [hends, trimBy_cons_append (by decide) hvisible, ← hends, String.ofList_toList]
  have hsplit : splitOnce ("run " ++ prompt) = some ("run", prompt) := by
    unfold splitOnce
    rw [htext, if_pos (by simp)]
    simp
  unfold parseCommand
  rw [htrim, hsplit]
  rfl

theorem parseCommand_longPrompt :
    parseCommand ("run " ++ longPrompt) = .ok (.register 0 longPrompt) := by
  have hlist : longPrompt.toList = List.replicate (maxPromptBytes - 1) '\x01' ++ ['\x01'] := by
    unfold longPrompt
    rw [String.toList_ofList, ← List.replicate_succ']
    rfl
  rw [parseCommand_run hlist (by decide)]
  unfold parseRegister
  exact except_check_ok.mpr ⟨failIf_ok.mpr (not_not.mpr isPrompt_longPrompt), rfl⟩

theorem textBytes_longPrompt : textBytes longPrompt = maxPromptBytes * 6 := by
  unfold textBytes longPrompt
  rw [String.toList_ofList, List.map_replicate, List.sum_replicate_nat]
  rfl

theorem le_storeBytes_sampleTasks : count * textBytes prompt ≤ storeBytes (sampleTasks prompt count) := by
  have hsum : ∀ count, count * textBytes prompt ≤ ((sampleTasks prompt count).map Task.bytes).sum := by
    intro count
    induction count with
    | zero => omega
    | succ count ih =>
      have hbytes : textBytes prompt ≤
          (requestTask (sampleId count) sampleInbox 1 0 0 prompt).bytes := by
        unfold Task.bytes requestTask
        dsimp only
        omega
      rw [sampleTasks_succ, List.map_append, List.sum_append, List.map_singleton,
        List.sum_singleton, Nat.succ_mul]
      omega
  have h := hsum count
  unfold storeBytes
  omega

/-- A start refuses the file of twenty-two tasks whose prompts JSON escapes. -/
theorem long_prompts_refused : machine.Admits World.empty (sampleRequests longPrompt 22) ∧
    ∃ file, ((sampleRequests longPrompt 22).foldl World.next World.empty).file = some file ∧
      ¬∃ tasks, loadTasks file = .ok tasks := by
  have hcount : 22 ≤ maxTasks := by decide
  obtain ⟨hadmits, hrun⟩ := sampleRequests_run parseCommand_longPrompt hcount
  have hreachable := reachable_sampleWorld parseCommand_longPrompt hcount
  have hfile : (sampleWorld longPrompt 22).file = some (encode (sampleTasks longPrompt 22)) := rfl
  rw [hrun]
  refine ⟨hadmits, _, hfile, fun hload => ?_⟩
  have hfits : storeBytes (sampleTasks longPrompt 22) ≤ maxStoreBytes :=
    (reopens_iff hreachable hfile).mp hload
  have hlong := hfits.trans' le_storeBytes_sampleTasks
  rw [textBytes_longPrompt] at hlong
  exact absurd hlong (by decide)

end Cthuwu.Tasks
