import Cthuwu.Lib.Runs
import Cthuwu.Operators.Records
import Cthuwu.Tasks.Changes

/-!
# Runs of a Tentacle with tasks

A Tentacle starts, is asked, stops and opens its file again, and its one supervisor claims a task and
reports the end of its run before it claims the next. The log keeps what the tasks have been through.
Random bytes do not name two tasks alike.
-/

namespace Cthuwu.Tasks

open Operators (OperatorRecord normalizeOperatorInboxId)

/-- What has happened to the tasks. -/
inductive Entry
  /-- A run of the task has started. -/
  | claimed (operators : List OperatorRecord) (task : Task)
  /-- An authorization has asked for the task to be resumed, or has steered it. -/
  | revived (inbox : String) (generation : ℕ) (id : String)
  /-- The Tentacle has stopped during a run that was not asked to resume. -/
  | interrupted (id : String)
  /-- A run has ended that was not to recur. -/
  | finished (id : String)
  /-- The review has been removed. -/
  | removed (id : String)
  /-- A run has reported its end. -/
  | ended (cancelled : Bool) (before after : Node)

structure Run where
  task : Task
  /-- A command has stopped or replaced it. -/
  cancelled : Bool
  /-- A command has asked for the task to be resumed, or has steered it. -/
  revived : Bool

structure World where
  tasks : Option (List Task)
  file : Option TaskFile
  run : Option Run
  /-- The identifiers that were ever drawn. -/
  used : List String
  /-- What has happened, the last first. -/
  log : List Entry

def World.empty : World :=
  { tasks := none
    file := none
    run := none
    used := []
    log := [] }

inductive Event
  | openTasks (storage : Storage)
  | crash
  | queueForceUpdate (storage : Storage) (inbox : String) (generation now : ℕ)
    (entropy : Except String (Fin (2 ^ 64)))
  | command (storage : Storage) (inbox : String) (generation : ℕ) (text : String) (now : ℕ)
    (entropy : Except String (Fin (2 ^ 64)))
  | claim (review storage : Storage) (operators : List OperatorRecord) (now : ℕ)
    (entropy : Except String (Fin (2 ^ 64)))
  | finish (storage : Storage) (result : String) (success : Bool) (now : ℕ)

def Command.cancels : Command → Option String
  | steer id _ | remove id | pause id | resume id => some id
  | list | register _ _ | interval _ _ => none

def Command.revives : Command → Option String
  | steer id _ | resume id => some id
  | list | register _ _ | interval _ _ | remove _ | pause _ => none

variable (text : String) (inbox : String) (generation : ℕ) (world : World)

/-- What a text asks to be made ready. -/
def revivedBy : Option String :=
  (parseCommand text).toOption.bind Command.revives

def cancelledBy : Option String :=
  (parseCommand text).toOption.bind Command.cancels

def removedBy (text : String) (tasks : List Task) :
    Option String :=
  match parseCommand text with
  | .ok (.remove id) =>
    if tasks.any (fun task => task.named inbox generation id && task.builtin.isSome) = true then
      some id
    else none
  | _ => none

def noted (text : String) (result : Except String String)
    (node node' : Node) : List Entry :=
  (if result.isOk = true ∨ node' ≠ node then
    ((revivedBy text).map (Entry.revived inbox generation)).toList else []) ++
  if result.isOk = true then
    ((removedBy inbox generation text node.tasks).map Entry.removed).toList
  else []

/-- The run in progress after a command. -/
def Run.told (result : Except String String) (node node' : Node) (run : Run) :
    Run :=
  { run with
    cancelled := run.cancelled || (result.isOk && cancelledBy text = some run.task.id)
    revived := run.revived || ((result.isOk || node' ≠ node) && revivedBy text = some run.task.id) }

/-- What a stop adds to the log. -/
def interruption : Option Run → List Entry
  | some run => if run.revived = true then [] else [.interrupted run.task.id]
  | none => []

/-- What the end of a run adds to the log. A run that was told to resume counts once its end is
recorded. -/
def completion (run : Run) (node node' : Node) : List Entry :=
  if node.tasks.any (fun task => task.isRunning run.task.id && task.interval = 0) = true ∧
      (node' ≠ node ∨ run.revived = false) then
    [.finished run.task.id]
  else []

def World.stop : World :=
  { world with
    tasks := none
    run := none
    log := interruption world.run ++ world.log }

def World.take (node : Node) : World :=
  { world with
    tasks := some node.tasks
    file := node.file }

def drawn (entropy : Except String (Fin (2 ^ 64))) : List String :=
  (taskId entropy).toOption.toList

def World.next : Event → World
  | .openTasks storage =>
    let world := world.stop
    let (result, file) := (Tasks.openTasks storage).exec world.file
    { world with
      tasks := result.toOption
      file := file }
  | .crash => world.stop
  | .queueForceUpdate storage inbox generation now entropy =>
    match world.tasks with
    | none => world
    | some tasks =>
      let (_, node) := (Tasks.queueForceUpdate storage inbox generation now entropy).exec
        ⟨tasks, world.file⟩
      { world.take node with used := drawn entropy ++ world.used }
  | .command storage inbox generation text now entropy =>
    match world.tasks with
    | none => world
    | some tasks =>
      let node : Node := ⟨tasks, world.file⟩
      let (result, node') := (Tasks.command storage inbox generation text now entropy).exec node
      { world.take node' with
        run := world.run.map (Run.told text result node node')
        used := drawn entropy ++ world.used
        log := noted inbox generation text result node node' ++ world.log }
  | .claim review storage operators now entropy =>
    match world.tasks with
    | none => world
    | some tasks =>
      let (result, node) := (Tasks.claim review storage operators now entropy).exec
        ⟨tasks, world.file⟩
      let world := { world.take node with used := drawn entropy ++ world.used }
      match result with
      | .ok (some task) =>
        { world with
          run := some { task := task, cancelled := false, revived := false }
          log := .claimed operators task :: world.log }
      | _ => world
  | .finish storage result success now =>
    match world.tasks, world.run with
    | some tasks, some run =>
      let node : Node := ⟨tasks, world.file⟩
      let (_, node') := (Tasks.finish storage run.task.id result success now).exec node
      { world.take node' with
        run := none
        log := completion run node node' ++ .ended run.cancelled node node' :: world.log }
    | _, _ => world

/-- An authorization of an operator. -/
def Authority : Prop :=
  normalizeOperatorInboxId inbox = .ok inbox ∧ generation ≠ 0

/-- The random bytes name no task that there has been. -/
def Fresh (entropy : Except String (Fin (2 ^ 64))) : Prop :=
  ∀ id ∈ drawn entropy, id ∉ world.used

def World.Allowed : Event → Prop
  | .openTasks _ | .crash | .finish _ _ _ _ => True
  | .queueForceUpdate _ inbox generation _ entropy | .command _ inbox generation _ _ entropy =>
    Authority inbox generation ∧ Fresh world entropy
  | .claim _ _ operators _ entropy =>
    world.run = none ∧ Operators.Valid operators ∧ Fresh world entropy

def machine : Machine World Event :=
  { init := World.empty
    Allowed := World.Allowed
    next := World.next }

/-! ## Steps -/

inductive World.Step (world : World) : Event → World → Prop
  | idle (event : Event) : World.Step world event world
  | opened {storage : Storage} {result : Except String (List Task)} {file : Option TaskFile}
      (h : Opened world.file (result, file)) :
      World.Step world (.openTasks storage)
        { world.stop with tasks := result.toOption, file := file }
  | crashed : World.Step world .crash world.stop
  | queued {storage : Storage} {inbox : String} {generation now : ℕ}
      {entropy : Except String (Fin (2 ^ 64))} {tasks : List Task} {answer : Except String String}
      {node : Node} (htasks : world.tasks = some tasks)
      (h : Queued inbox generation now entropy ⟨tasks, world.file⟩ (answer, node)) :
      World.Step world (.queueForceUpdate storage inbox generation now entropy)
        { world.take node with used := drawn entropy ++ world.used }
  | commanded {storage : Storage} {inbox : String} {generation : ℕ} {text : String} {now : ℕ}
      {entropy : Except String (Fin (2 ^ 64))} {tasks : List Task} {answer : Except String String}
      {node : Node} (htasks : world.tasks = some tasks)
      (hexec : (Tasks.command storage inbox generation text now entropy).exec
        ⟨tasks, world.file⟩ = (answer, node))
      (h : Commanded inbox generation text now entropy ⟨tasks, world.file⟩ (answer, node)) :
      World.Step world (.command storage inbox generation text now entropy)
        { world.take node with
          run := world.run.map (Run.told text answer ⟨tasks, world.file⟩ node)
          used := drawn entropy ++ world.used
          log := noted inbox generation text answer ⟨tasks, world.file⟩ node ++ world.log }
  | claimed {review storage : Storage} {operators : List OperatorRecord} {now : ℕ}
      {entropy : Except String (Fin (2 ^ 64))} {tasks : List Task} {task : Task}
      {registered : Except String Unit} {node₁ node : Node} (htasks : world.tasks = some tasks)
      (hreviewed : Reviewed operators now entropy ⟨tasks, world.file⟩ (registered, node₁))
      (h : Claimed operators now node₁ (.ok (some task), node)) :
      World.Step world (.claim review storage operators now entropy)
        { world.take node with
          run := some { task := task, cancelled := false, revived := false }
          used := drawn entropy ++ world.used
          log := .claimed operators task :: world.log }
  | unclaimed {review storage : Storage} {operators : List OperatorRecord} {now : ℕ}
      {entropy : Except String (Fin (2 ^ 64))} {tasks : List Task}
      {registered : Except String Unit} {answer : Except String (Option Task)}
      {node₁ node : Node} (htasks : world.tasks = some tasks)
      (hreviewed : Reviewed operators now entropy ⟨tasks, world.file⟩ (registered, node₁))
      (h : Claimed operators now node₁ (answer, node)) :
      World.Step world (.claim review storage operators now entropy)
        { world.take node with used := drawn entropy ++ world.used }
  | finished {storage : Storage} {output : String} {success : Bool} {now : ℕ} {tasks : List Task}
      {run : Run} {answer : Except String Unit} {node : Node} (htasks : world.tasks = some tasks)
      (hrun : world.run = some run)
      (h : Finished run.task.id output success now ⟨tasks, world.file⟩ (answer, node)) :
      World.Step world (.finish storage output success now)
        { world.take node with
          run := none
          log := completion run ⟨tasks, world.file⟩ node ++
            .ended run.cancelled ⟨tasks, world.file⟩ node :: world.log }

theorem World.step (world : World) (event : Event) : world.Step event (world.next event) := by
  unfold World.next
  cases event with
  | openTasks storage => exact .opened opened
  | crash => exact .crashed
  | queueForceUpdate storage inbox generation now entropy =>
    cases htasks : world.tasks with
    | none => exact .idle _
    | some tasks =>
      have hended := @queued storage ⟨tasks, world.file⟩ inbox generation now entropy
      dsimp only
      cases hexec : (Tasks.queueForceUpdate storage inbox generation now entropy).exec
          ⟨tasks, world.file⟩ with
      | mk answer node => exact .queued htasks (hexec ▸ hended)
  | command storage inbox generation text now entropy =>
    cases htasks : world.tasks with
    | none => exact .idle _
    | some tasks =>
      have hended := @commanded storage ⟨tasks, world.file⟩ inbox generation now entropy text
      dsimp only
      cases hexec : (Tasks.command storage inbox generation text now entropy).exec
          ⟨tasks, world.file⟩ with
      | mk answer node => exact .commanded htasks hexec (hexec ▸ hended)
  | claim review storage operators now entropy =>
    cases htasks : world.tasks with
    | none => exact .idle _
    | some tasks =>
      dsimp only
      cases hexec : (Tasks.claim review storage operators now entropy).exec ⟨tasks, world.file⟩ with
      | mk answer node =>
        obtain ⟨registered, node₁, hreviewed, hclaimed⟩ := Tasks.claimed hexec
        dsimp only
        split
        · exact .claimed htasks hreviewed hclaimed
        · exact .unclaimed htasks hreviewed hclaimed
  | finish storage output success now =>
    cases htasks : world.tasks with
    | none => exact .idle _
    | some tasks =>
      cases hrun : world.run with
      | none => exact .idle _
      | some run =>
        have hended := @finished storage ⟨tasks, world.file⟩ now run.task.id output success
        dsimp only
        cases hexec : (Tasks.finish storage run.task.id output success now).exec
            ⟨tasks, world.file⟩ with
        | mk answer node => exact .finished htasks hrun (hexec ▸ hended)

theorem machine_next (world : World) (event : Event) :
    machine.next world event = world.next event := rfl

end Cthuwu.Tasks
