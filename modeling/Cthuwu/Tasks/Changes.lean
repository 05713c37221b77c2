import Cthuwu.Tasks.Store

/-!
# How an operation changes the tasks

An operation that changes the tasks writes a list of tasks to the file and takes it (`Wrote`). The
list has one task more, one less or one edited one : `Command.apply_ok` says so of commands, and
`Edit` lists what a command makes of a task. An edited task is the same registration.
-/

namespace Cthuwu.Tasks

open Operators (OperatorRecord hasActiveConflict)
open Fallible

/-- How an operation ends that writes `next` and then answers `a`. -/
inductive Wrote {α : Type} (next : List Task) (a : α) (node : Node) : Except String α × Node → Prop
  | refused (error : String) : Wrote next a node (.error error, node)
  | written : Wrote next a node (.ok a, ⟨next, some (encode next)⟩)
  | unconfirmed (error : String) :
      Wrote next a node (.error error, { node with file := some (encode next) })

variable {α : Type} {storage : Storage} {node node' : Node} {next : List Task}

/-- An operation that ends by committing what it made of the tasks. -/
theorem wrote_commit {a : α} : Wrote next a node ((do
      commit storage next
      return a : Fallible String Node α).exec node) := by
  cases storage with
  | written => exact .written
  | refused e => exact .refused e
  | unconfirmed e => exact .unconfirmed e

theorem wrote_commit_unit : Wrote next () node ((commit storage next).exec node) := by
  cases storage with
  | written => exact .written
  | refused e => exact .refused e
  | unconfirmed e => exact .unconfirmed e

/-- What holds of the tasks in memory and of those on disk. -/
structure Node.All (I : List Task → Prop) (node : Node) : Prop where
  tasks : I node.tasks
  file : ∀ file, node.file = some file → I file.tasks

theorem Node.All.mono {I J : List Task → Prop} (h : node.All I) (hmono : ∀ tasks, I tasks → J tasks) :
    node.All J :=
  ⟨hmono _ h.tasks, fun file hfile => hmono _ (h.file file hfile)⟩

theorem Node.All.wrote {I : List Task → Prop} {a : α} {result : Except String α} (h : node.All I)
    (hnext : I next) (hwrote : Wrote next a node (result, node')) : node'.All I := by
  cases hwrote with
  | refused => exact h
  | written =>
    refine ⟨hnext, fun file hfile => ?_⟩
    obtain rfl := Option.some.inj hfile
    exact hnext
  | unconfirmed =>
    refine ⟨h.tasks, fun file hfile => ?_⟩
    obtain rfl := Option.some.inj hfile
    exact hnext

/-! ## Edited tasks -/

structure Task.Same (task task' : Task) : Prop where
  id : task'.id = task.id
  inbox : task'.inbox = task.inbox
  generation : task'.generation = task.generation
  forceUpdate : task'.forceUpdate = task.forceUpdate
  builtin : task'.builtin = task.builtin

theorem Task.same_self (task : Task) : task.Same task := ⟨rfl, rfl, rfl, rfl, rfl⟩

variable {task : Task} {file : Option TaskFile}

theorem Task.Same.owned {task' : Task} (h : task.Same task') (inbox : String) (generation : ℕ) :
    task'.owned inbox generation = task.owned inbox generation := by
  unfold Task.owned
  rw [h.inbox, h.generation]

theorem Task.Same.isReview {task' : Task} (h : task.Same task') (inbox : String) (generation : ℕ) :
    task'.isReview inbox generation = task.isReview inbox generation := by
  unfold Task.isReview
  rw [h.owned, h.builtin]

/-- What a command makes of the task that it names. -/
inductive Edit (now : ℕ) (id : String) (task : Task) : Command → (Task → Task) → Prop
  | steer (prompt : String) (h : task.forceUpdate = false) :
      Edit now id task (.steer id prompt) (Task.steer prompt now)
  | interval (seconds : ℕ) (h : task.forceUpdate = false) :
      Edit now id task (.interval id seconds) (Task.setInterval seconds now)
  | remove (h : task.builtin.isSome = true) : Edit now id task (.remove id) Task.tombstone
  | pause : Edit now id task (.pause id) (Task.setState .paused now)
  | resume : Edit now id task (.resume id) (Task.setState .ready now)

theorem Edit.same {now : ℕ} {id : String} {command : Command} {f : Task → Task}
    (h : Edit now id task command f) (task' : Task) : task'.Same (f task') := by
  cases h <;> exact ⟨rfl, rfl, rfl, rfl, rfl⟩

theorem Task.same_start (task : Task) : task.Same task.start := ⟨rfl, rfl, rfl, rfl, rfl⟩

theorem Task.same_end (result : String) (success : Bool) (now : ℕ) (task : Task) :
    task.Same (task.end result success now) := ⟨rfl, rfl, rfl, rfl, rfl⟩

theorem Task.same_recover (task : Task) : task.Same task.recover := by
  unfold Task.recover
  split_ifs
  · exact ⟨rfl, rfl, rfl, rfl, rfl⟩
  · exact task.same_self

/-! ## Commands -/

variable {inbox : String} {generation now : ℕ} {entropy : Except String (Fin (2 ^ 64))}
  {tasks : List Task} {command : Command} {output : String}

inductive Applied (inbox : String) (generation now : ℕ) (entropy : Except String (Fin (2 ^ 64)))
    (tasks : List Task) : Command → List Task → Prop
  | registered {seconds : ℕ} {prompt id : String} (hid : taskId entropy = .ok id)
      (hlength : tasks.length < maxTasks) :
      Applied inbox generation now entropy tasks (.register seconds prompt)
        (tasks ++ [requestTask id inbox generation seconds now prompt])
  | edited {id : String} {index : ℕ} {task : Task} {command : Command} {f : Task → Task}
      (hget : tasks[index]? = some task) (hnamed : task.named inbox generation id = true)
      (hedit : Edit now id task command f) :
      Applied inbox generation now entropy tasks command (tasks.modify index f)
  | erased {id : String} {index : ℕ} {task : Task} (hget : tasks[index]? = some task)
      (hnamed : task.named inbox generation id = true) (hbuiltin : task.builtin = none) :
      Applied inbox generation now entropy tasks (.remove id) (tasks.eraseIdx index)

theorem Command.apply_ok (hlist : command ≠ .list)
    (h : command.apply inbox generation now entropy tasks = .ok (next, output)) :
    Applied inbox generation now entropy tasks command next := by
  cases command with
  | list => exact absurd rfl hlist
  | register seconds prompt =>
    simp only [Command.apply, except_bind_ok, exists_unit, failIf_ok, except_pure_ok,
      Prod.mk.injEq] at h
    obtain ⟨hlength, id, hid, rfl, -⟩ := h
    exact .registered hid (Nat.not_le.mp hlength)
  | steer id prompt =>
    simp only [Command.apply, except_bind_ok, exists_unit, failIf_ok, okOr_ok, except_pure_ok,
      Prod.mk.injEq, Prod.exists] at h
    obtain ⟨index, task, hfound, hforce, rfl, -⟩ := h
    obtain ⟨hget, hnamed⟩ := position_eq_some hfound
    exact .edited hget hnamed (.steer prompt (Bool.eq_false_iff.mpr hforce))
  | interval id seconds =>
    simp only [Command.apply, except_bind_ok, exists_unit, failIf_ok, okOr_ok, except_pure_ok,
      Prod.mk.injEq, Prod.exists] at h
    obtain ⟨index, task, hfound, hforce, rfl, -⟩ := h
    obtain ⟨hget, hnamed⟩ := position_eq_some hfound
    exact .edited hget hnamed (.interval seconds (Bool.eq_false_iff.mpr hforce))
  | remove id =>
    simp only [Command.apply, except_bind_ok, okOr_ok, except_pure_ok, Prod.mk.injEq,
      Prod.exists] at h
    obtain ⟨index, task, hfound, rfl, -⟩ := h
    obtain ⟨hget, hnamed⟩ := position_eq_some hfound
    split_ifs with hbuiltin
    · exact .edited hget hnamed (.remove hbuiltin)
    · exact .erased hget hnamed (by simpa using hbuiltin)
  | pause id =>
    simp only [Command.apply, except_bind_ok, okOr_ok, except_pure_ok, Prod.mk.injEq,
      Prod.exists] at h
    obtain ⟨index, task, hfound, rfl, -⟩ := h
    obtain ⟨hget, hnamed⟩ := position_eq_some hfound
    exact .edited hget hnamed .pause
  | resume id =>
    simp only [Command.apply, except_bind_ok, okOr_ok, except_pure_ok, Prod.mk.injEq,
      Prod.exists] at h
    obtain ⟨index, task, hfound, rfl, -⟩ := h
    obtain ⟨hget, hnamed⟩ := position_eq_some hfound
    exact .edited hget hnamed .resume

inductive Commanded (inbox : String) (generation : ℕ) (text : String) (now : ℕ)
    (entropy : Except String (Fin (2 ^ 64))) (node : Node) : Except String String × Node → Prop
  | kept (result : Except String String)
      (hkept : ∀ output, result = .ok output → parseCommand text = .ok .list) :
      Commanded inbox generation text now entropy node (result, node)
  | wrote {command : Command} {next : List Task} {output : String}
      {result : Except String String} {node' : Node}
      (hparse : parseCommand text = .ok command)
      (happlied : Applied inbox generation now entropy node.tasks command next)
      (hwrote : Wrote next output node (result, node')) :
      Commanded inbox generation text now entropy node (result, node')

theorem commanded {text : String} : Commanded inbox generation text now entropy node
      ((Tasks.command storage inbox generation text now entropy).exec node) := by
  unfold Tasks.command
  rw [exec_get_bind, exec_lift_bind]
  cases hparse : parseCommand text with
  | error e => exact .kept _ nofun
  | ok command =>
    dsimp only
    rw [exec_lift_bind]
    cases happly : command.apply inbox generation now entropy node.tasks with
    | error e => exact .kept _ nofun
    | ok applied =>
      obtain ⟨next, output⟩ := applied
      dsimp only
      by_cases hlist : command = .list
      · rw [if_pos hlist]
        exact .kept _ fun _ _ => hlist ▸ hparse
      · rw [if_neg hlist]
        exact .wrote hparse (Command.apply_ok hlist happly) wrote_commit

/-! ## The other operations -/

variable {operators : List OperatorRecord} {timestamp : ℕ}

/-- How the registration of the review ends. -/
inductive Reviewed (operators : List OperatorRecord) (timestamp : ℕ)
    (entropy : Except String (Fin (2 ^ 64))) (node : Node) : Except String Unit × Node → Prop
  | kept (result : Except String Unit) : Reviewed operators timestamp entropy node (result, node)
  | wrote {operator : OperatorRecord} {id : String} {result : Except String Unit} {node' : Node}
      (hoperator : operator ∈ operators) (hid : taskId entropy = .ok id)
      (hlength : node.tasks.length < maxTasks)
      (hnone : ∀ task ∈ node.tasks, task.isReview operator.inboxId operator.generation = false)
      (hwrote : Wrote
        (node.tasks ++ [reviewTask id operator.inboxId operator.generation timestamp]) () node
        (result, node')) : Reviewed operators timestamp entropy node (result, node')

theorem reviewed : Reviewed operators timestamp entropy node
      ((ensureDailyReview storage operators timestamp entropy).exec node) := by
  unfold ensureDailyReview
  split_ifs with hconflict
  · exact .kept _
  · cases hfind : operators.find? fun operator => operator.status = .active with
    | none => exact .kept _
    | some operator =>
      dsimp only
      rw [exec_get_bind]
      split_ifs with hfull
      · exact .kept _
      · rw [exec_lift_bind]
        cases hid : taskId entropy with
        | error e => exact .kept _
        | ok id =>
          simp only [not_or, Nat.not_le, List.any_eq_true, not_exists, not_and,
            Bool.not_eq_true] at hfull
          exact .wrote (List.mem_of_find?_eq_some hfind) hid hfull.1 hfull.2 wrote_commit_unit

/-- How the registration of an update ends. -/
inductive Queued (inbox : String) (generation now : ℕ) (entropy : Except String (Fin (2 ^ 64)))
    (node : Node) : Except String String × Node → Prop
  | kept (result : Except String String) : Queued inbox generation now entropy node (result, node)
  | wrote {id output : String} {result : Except String String} {node' : Node}
      (hid : taskId entropy = .ok id) (hlength : node.tasks.length < maxTasks)
      (hnone : ∀ task ∈ node.tasks, task.isUpdating inbox generation = false)
      (hwrote : Wrote (node.tasks ++ [updateTask id inbox generation now]) output node
        (result, node')) : Queued inbox generation now entropy node (result, node')

theorem queued : Queued inbox generation now entropy node
      ((queueForceUpdate storage inbox generation now entropy).exec node) := by
  unfold queueForceUpdate
  rw [exec_lift_bind]
  cases Operators.normalizeInboxId inbox with
  | error e => exact .kept _
  | ok normalized =>
    dsimp only
    rw [exec_get_bind, exec_lift_bind]
    cases hspace : failIf (generation = 0 ∨ maxTasks ≤ node.tasks.length)
        "force-update needs an active operator and space in the task store" with
    | error e => exact .kept _
    | ok u =>
      dsimp only
      rw [exec_lift_bind]
      cases hnone : failIf (node.tasks.any (Task.isUpdating inbox generation) = true)
          "force-update already queued or running; inspect /task list" with
      | error e => exact .kept _
      | ok u =>
        dsimp only
        rw [exec_lift_bind]
        cases hid : taskId entropy with
        | error e => exact .kept _
        | ok id =>
          simp only [failIf_ok, not_or, Nat.not_le, List.any_eq_true, not_exists, not_and,
            Bool.not_eq_true] at hspace hnone
          exact .wrote hid hspace.2 hnone wrote_commit

/-- How the search for a task to run ends, after the review is registered. -/
inductive Claimed (operators : List OperatorRecord) (now : ℕ) (node : Node) :
    Except String (Option Task) × Node → Prop
  | kept (result : Except String (Option Task)) (hnone : ∀ task, result ≠ .ok (some task)) :
      Claimed operators now node (result, node)
  | wrote {index : ℕ} {task : Task} {result : Except String (Option Task)} {node' : Node}
      (hget : node.tasks[index]? = some task)
      (hclaimable : task.claimable operators now = true)
      (hwrote : Wrote (node.tasks.modify index Task.start) (some task.start) node
        (result, node')) : Claimed operators now node (result, node')

theorem claimed {review : Storage} {result : Except String (Option Task)}
    (h : (claim review storage operators now entropy).exec node = (result, node')) :
    ∃ reviewed' node₁, Reviewed operators now entropy node (reviewed', node₁) ∧
      Claimed operators now node₁ (result, node') := by
  unfold claim at h
  rw [exec_bind] at h
  have hreviewed := @reviewed review node entropy operators now
  cases hexec : (ensureDailyReview review operators now entropy).exec node with
  | mk reviewed' node₁ =>
    rw [hexec] at h hreviewed
    refine ⟨reviewed', node₁, hreviewed, ?_⟩
    cases reviewed' with
    | error e =>
      obtain ⟨rfl, rfl⟩ := Prod.mk.inj h
      exact .kept _ nofun
    | ok u =>
      dsimp only at h
      rw [exec_get_bind] at h
      cases hfound : position (Task.claimable operators now) node₁.tasks with
      | none =>
        rw [hfound] at h
        obtain ⟨rfl, rfl⟩ := Prod.mk.inj h
        exact .kept _ nofun
      | some found =>
        obtain ⟨index, task⟩ := found
        rw [hfound] at h
        obtain ⟨hget, hclaimable⟩ := position_eq_some hfound
        exact .wrote hget hclaimable (h ▸ wrote_commit)

inductive Finished (id result : String) (success : Bool) (now : ℕ) (node : Node) :
    Except String Unit × Node → Prop
  | kept (hnone : ∀ task ∈ node.tasks, task.isRunning id = false) :
      Finished id result success now node (.ok (), node)
  | wrote {index : ℕ} {task : Task} {answer : Except String Unit} {node' : Node}
      (hget : node.tasks[index]? = some task) (hrunning : task.isRunning id = true)
      (hwrote : Wrote (node.tasks.modify index (Task.end result success now)) () node
        (answer, node')) : Finished id result success now node (answer, node')

theorem finished {id result : String} {success : Bool} :
    Finished id result success now node ((finish storage id result success now).exec node) := by
  unfold finish
  rw [exec_get_bind]
  cases hfound : position (Task.isRunning id) node.tasks with
  | none => exact .kept (position_eq_none hfound)
  | some found =>
    obtain ⟨index, task⟩ := found
    obtain ⟨hget, hrunning⟩ := position_eq_some hfound
    exact .wrote hget hrunning wrote_commit_unit

def Found (file : Option TaskFile) (tasks : List Task) : Prop :=
  (file = none ∧ tasks = []) ∨ ∃ found, file = some found ∧ loadTasks found = .ok tasks

inductive Opened (file : Option TaskFile) : Except String (List Task) × Option TaskFile → Prop
  | failed (error : String) : Opened file (.error error, file)
  | written {tasks : List Task} (hfound : Found file tasks) :
      Opened file (.ok tasks, some (encode tasks))
  | unconfirmed {tasks : List Task} (error : String) (hfound : Found file tasks) :
      Opened file (.error error, some (encode tasks))

theorem opened : Opened file ((openTasks storage).exec file) := by
  cases file with
  | none =>
    cases storage with
    | written => exact .written (.inl ⟨rfl, rfl⟩)
    | refused e => exact .failed e
    | unconfirmed e => exact .unconfirmed e (.inl ⟨rfl, rfl⟩)
  | some found =>
    unfold openTasks
    rw [exec_get_bind]
    dsimp only
    rw [exec_lift_bind]
    cases hload : loadTasks found with
    | error e => exact .failed e
    | ok tasks =>
      cases storage with
      | written => exact .written (.inr ⟨found, rfl, hload⟩)
      | refused e => exact .failed e
      | unconfirmed e => exact .unconfirmed e (.inr ⟨found, rfl, hload⟩)

theorem loadTasks_ok {file : TaskFile} {tasks : List Task} : loadTasks file = .ok tasks ↔
    (file.length ≤ maxStoreBytes ∧ file.tasks.length ≤ maxTasks ∧
      ∃ seen, file.tasks.foldlM validateTask { ids := [], builtins := [] } = .ok seen) ∧
      tasks = file.tasks.map Task.recover := by
  unfold loadTasks
  simp only [except_bind_ok, exists_unit, failIf_ok, except_pure_ok, Nat.not_lt]
  constructor
  · rintro ⟨hlength, hcount, seen, hseen, rfl⟩
    exact ⟨⟨hlength, hcount, seen, hseen⟩, rfl⟩
  · rintro ⟨⟨hlength, hcount, seen, hseen⟩, rfl⟩
    exact ⟨hlength, hcount, seen, hseen, rfl⟩

/-- What a start takes and leaves on disk, after what it recovers. -/
theorem Opened.holds {file' : Option TaskFile} {result : Except String (List Task)}
    {I : List Task → Prop} {J : TaskFile → Prop} (h : Opened file (result, file')) (hnil : I [])
    (hrecover : ∀ found, file = some found → I (found.tasks.map Task.recover))
    (hfile : ∀ found, file = some found → J found) (hencode : ∀ tasks, I tasks → J (encode tasks)) :
    (∀ tasks, result.toOption = some tasks → I tasks) ∧ ∀ found, file' = some found → J found := by
  have hfound : ∀ tasks, Found file tasks → I tasks := by
    rintro tasks (⟨-, rfl⟩ | ⟨found, hsome, hload⟩)
    · exact hnil
    · rw [((loadTasks_ok).mp hload).2]
      exact hrecover found hsome
  cases h with
  | failed e => exact ⟨nofun, hfile⟩
  | written hf =>
    refine ⟨fun tasks htasks => ?_, fun found hsome => ?_⟩
    · obtain rfl := Option.some.inj htasks
      exact hfound _ hf
    · obtain rfl := Option.some.inj hsome
      exact hencode _ (hfound _ hf)
  | unconfirmed e hf =>
    refine ⟨nofun, fun found hsome => ?_⟩
    obtain rfl := Option.some.inj hsome
    exact hencode _ (hfound _ hf)

end Cthuwu.Tasks
