import Cthuwu.Tasks.Registered

/-!
# What the tasks of an operator go through

The supervisor's run and the tasks know of each other (`Supervised`) : while the run goes on nobody
else makes its task ready, and once a command has stopped it, its task is not running. `sound_next`
carries this through every step.
-/

namespace Cthuwu.Tasks

open Operators (OperatorRecord)

variable {log : List Entry} {entry : Entry} {task task' : Task} {tasks next : List Task}
  {used : List String} {node node' : Node} {inbox : String} {generation now : ℕ}
  {entropy : Except String (Fin (2 ^ 64))} {index : ℕ} {run : Run} {command : Command}
  {text : String} {result : Except String String} {operators : List OperatorRecord}

/-! ## The run in progress -/

/-- What the run in progress and the tasks know of each other. -/
structure Supervised (used : List String) (log : List Entry) (node : Node) (run : Run) : Prop where
  used : run.task.id ∈ used
  cancelled : run.cancelled = true → ∀ task ∈ node.tasks, task.isRunning run.task.id = false
  waiting : run.revived = false →
    node.All fun tasks => ∀ task ∈ tasks, task.id = run.task.id → task.state ≠ .ready
  live : ∀ task ∈ node.tasks, task.isRunning run.task.id = true → ¬Stopped log task

theorem Task.isRunning_iff {id : String} :
    task.isRunning id = true ↔ task.id = id ∧ task.state = .running := by
  unfold Task.isRunning
  simp only [Bool.and_eq_true, decide_eq_true_eq]

/-- A task that is running after a command was so before it, and the command does not stop it. -/
theorem Registered.of_running {id : String} (h : Registered used log tasks)
    (happlied : Applied inbox generation now entropy tasks command next) (ht : task ∈ next)
    (hrunning : task.isRunning id = true) :
    (∃ t ∈ tasks, t.Same task ∧ t.isRunning id = true) ∧ command.cancels ≠ some id := by
  obtain ⟨rfl, hstate⟩ := (Task.isRunning_iff).mp hrunning
  cases happlied with
  | registered hid hlength =>
    rcases List.mem_append.mp ht with ht | ht
    · exact ⟨⟨task, ht, task.same_self, hrunning⟩, nofun⟩
    · rw [List.mem_singleton.mp ht] at hstate
      cases hstate
  | @edited id' index t command f hget hnamed hedit =>
    have hid := (Task.named_iff.mp hnamed).1
    have hcancels : command.cancels = none ∨ command.cancels = some id' := by
      cases hedit with
      | interval => exact .inl rfl
      | _ => exact .inr rfl
    rcases h.mem_edited hget ht with rfl | ⟨ht, hne⟩
    · cases hedit with
      | interval seconds _ =>
        exact ⟨⟨t, List.mem_of_getElem? hget, ⟨rfl, rfl, rfl, rfl, rfl⟩,
          (Task.isRunning_iff).mpr ⟨rfl, hstate⟩⟩, nofun⟩
      | _ => cases hstate
    · refine ⟨⟨task, ht, task.same_self, hrunning⟩, fun hsome => ?_⟩
      rcases hcancels with hnone | hsome'
      · rw [hnone] at hsome
        cases hsome
      · rw [hsome'] at hsome
        exact hne ((Option.some.inj hsome).symm.trans hid.symm)
  | @erased id' index t hget hnamed hbuiltin =>
    obtain ⟨l₁, l₂, hsplit, -⟩ := exists_split hget
    refine ⟨⟨task, (List.eraseIdx_sublist _ _).subset ht, task.same_self, hrunning⟩, fun hsome => ?_⟩
    exact h.not_mem_erased hget ht ((Option.some.inj hsome).symm.trans
      (Task.named_iff.mp hnamed).1.symm)

/-- A task that is ready after a command was so before it, or the command makes it ready. -/
theorem Registered.of_ready (h : Registered used log tasks)
    (hfresh : ∀ id ∈ drawn entropy, id ∉ used)
    (happlied : Applied inbox generation now entropy tasks command next) (ht : task ∈ next)
    (hused : task.id ∈ used) (hready : task.state = .ready) :
    (∃ t ∈ tasks, t.id = task.id ∧ t.state = .ready) ∨ command.revives = some task.id := by
  cases happlied with
  | @registered seconds prompt id hid hlength =>
    rcases List.mem_append.mp ht with ht | ht
    · exact .inl ⟨task, ht, rfl, hready⟩
    · rw [List.mem_singleton.mp ht] at hused
      exact absurd hused (hfresh id (by rw [drawn_eq hid]; exact List.mem_cons_self))
  | @edited id' index t command f hget hnamed hedit =>
    have hid := (Task.named_iff.mp hnamed).1
    rcases h.mem_edited hget ht with rfl | ⟨ht, hne⟩
    · cases hedit with
      | interval seconds _ => exact .inl ⟨t, List.mem_of_getElem? hget, rfl, hready⟩
      | steer | resume => exact .inr (congrArg some hid.symm)
      | _ => cases hready
    · exact .inl ⟨task, ht, rfl, hready⟩
  | erased hget hnamed hbuiltin =>
    exact .inl ⟨task, (List.eraseIdx_sublist _ _).subset ht, rfl, hready⟩

theorem cancelledBy_eq (h : parseCommand text = .ok command) : cancelledBy text = command.cancels := by
  unfold cancelledBy
  rw [h]
  rfl

theorem revivedBy_eq (h : parseCommand text = .ok command) : revivedBy text = command.revives := by
  unfold revivedBy
  rw [h]
  rfl

theorem told_error {error : String} : run.told text (.error error) node node = run := by
  simp [Run.told, Except.isOk, Except.toBool]

theorem told_list (h : parseCommand text = .ok .list) : run.told text result node node' = run := by
  unfold Run.told
  rw [cancelledBy_eq h, revivedBy_eq h]
  simp [Command.cancels, Command.revives]

/-- What a command stops is what it takes out of its run. -/
theorem Stopped.of_entries (h : Stopped (entries inbox generation tasks command ++ log) task)
    (hcancels : command.cancels ≠ some task.id) : Stopped log task := by
  cases command with
  | remove id =>
    unfold entries at h
    dsimp only at h
    split_ifs at h
    · exact h.of_cons fun hstops => hcancels (congrArg some hstops)
    · exact h
  | steer | resume => exact h.of_cons not_false
  | _ => exact h

theorem Supervised.keep (h : Supervised used log node run) (ids : List String) :
    Supervised (ids ++ used) log node run :=
  { h with used := List.mem_append_right _ h.used }

theorem Supervised.told (h : Supervised used log node run) (hnode : node.All (Registered used log))
    (hfresh : ∀ id ∈ drawn entropy, id ∉ used)
    (hended : Commanded inbox generation text now entropy node (result, node')) :
    Supervised (drawn entropy ++ used) (noted inbox generation text result node node' ++ log) node'
      (run.told text result node node') := by
  cases hended with
  | kept _ hkept =>
    cases result with
    | error e =>
      rw [noted_refused, told_error]
      exact h.keep _
    | ok output =>
      rw [noted_list (hkept output rfl), told_list (hkept output rfl)]
      exact h.keep _
  | @wrote command next output _ _ hparse happlied hwrote =>
    have hready : run.revived = false → command.revives ≠ some run.task.id →
        ∀ t ∈ next, t.id = run.task.id → t.state ≠ .ready := by
      intro hrevived hrevives t ht hid hstate
      rcases hnode.tasks.of_ready hfresh happlied ht (hid ▸ h.used) hstate with
        ⟨t', ht', hid', hstate'⟩ | hsome
      · exact (h.waiting hrevived).tasks t' ht' (hid'.trans hid) hstate'
      · exact hrevives (hsome.trans (congrArg some hid))
    cases hwrote with
    | refused e =>
      rw [noted_refused, told_error]
      exact h.keep _
    | written =>
      rw [noted_written hparse]
      have hok : (Except.ok output : Except String String).isOk = true := rfl
      refine ⟨List.mem_append_right _ h.used, fun hcancelled t ht => ?_, fun hrevived => ?_,
        fun t ht hrunning hstopped => ?_⟩
      · by_contra hrunning
        rw [Bool.not_eq_false] at hrunning
        obtain ⟨⟨t', ht', -, hrunning'⟩, hcancels⟩ :=
          hnode.tasks.of_running happlied ht hrunning
        unfold Run.told at hcancelled hcancels
        rw [hok, cancelledBy_eq hparse, Bool.true_and, Bool.or_eq_true, decide_eq_true_eq]
          at hcancelled
        rcases hcancelled with hcancelled | hsome
        · exact absurd hrunning' (Bool.not_eq_true _ ▸ h.cancelled hcancelled t' ht')
        · exact hcancels hsome
      · unfold Run.told at hrevived
        rw [hok, revivedBy_eq hparse, Bool.true_or, Bool.or_eq_false_iff, Bool.true_and,
          decide_eq_false_iff_not] at hrevived
        have hnext := hready hrevived.1 hrevived.2
        refine ⟨hnext, fun file hfile => ?_⟩
        obtain rfl := Option.some.inj hfile
        exact hnext
      · obtain ⟨⟨t', ht', hsame, hrunning'⟩, hcancels⟩ :=
          hnode.tasks.of_running happlied ht hrunning
        have hid := ((Task.isRunning_iff).mp hrunning).1
        rw [← hid] at hcancels
        exact h.live t' ht' hrunning' (hsame.stopped.mp (hstopped.of_entries hcancels))
    | unconfirmed e =>
      rw [noted_unconfirmed hparse]
      refine ⟨List.mem_append_right _ h.used, fun hcancelled => ?_, fun hrevived => ?_,
        fun t ht hrunning hstopped => h.live t ht hrunning ?_⟩
      · refine h.cancelled ?_
        simpa [Run.told, Except.isOk, Except.toBool] using hcancelled
      · have hold : run.revived = false := by
          unfold Run.told at hrevived
          exact (Bool.or_eq_false_iff.mp hrevived).1
        refine ⟨(h.waiting hold).tasks, fun file hfile => ?_⟩
        by_cases hchanged : ({ node with file := some (encode next) } : Node) = node
        · refine (h.waiting hold).file file ?_
          rw [← hchanged]
          exact hfile
        · obtain rfl := Option.some.inj hfile
          refine hready hold fun hsome => ?_
          unfold Run.told at hrevived
          rw [revivedBy_eq hparse, hsome] at hrevived
          simp [hchanged] at hrevived
      · split_ifs at hstopped
        · exact hstopped.of_revives
        · exact hstopped

/-! ## Worlds -/

/-- A claim is of an authorized task that nothing stops, and the report of a cancelled run changes
nothing. -/
def Entry.Lawful : Entry → List Entry → Prop
  | .claimed operators task, earlier => authorized operators task = true ∧ ¬Stopped earlier task
  | .ended cancelled before after, _ => cancelled = true → after = before
  | .revived _ _ _, _ | .interrupted _, _ | .finished _, _ | .removed _, _ => True

/-- What holds of every Tentacle. -/
structure World.Sound (world : World) : Prop where
  memory : ∀ tasks, world.tasks = some tasks → Registered world.used world.log tasks
  file : ∀ file, world.file = some file → Registered world.used world.log file.tasks
  drawn : Drawn world.used world.log
  log : Each Entry.Lawful world.log
  run : ∀ run, world.run = some run → ∃ tasks, world.tasks = some tasks ∧
    Supervised world.used world.log ⟨tasks, world.file⟩ run

variable {world world' : World}

theorem sound_empty : World.empty.Sound :=
  ⟨nofun, nofun, nofun, each_nil, nofun⟩

theorem World.Sound.all (h : world.Sound) (htasks : world.tasks = some tasks) :
    (⟨tasks, world.file⟩ : Node).All (Registered world.used world.log) :=
  ⟨h.memory tasks htasks, h.file⟩

theorem World.Sound.supervised (h : world.Sound) (htasks : world.tasks = some tasks)
    (hrun : world.run = some run) :
    Supervised world.used world.log ⟨tasks, world.file⟩ run := by
  obtain ⟨tasks', htasks', hsup⟩ := h.run run hrun
  obtain rfl := Option.some.inj (htasks'.symm.trans htasks)
  exact hsup

theorem Drawn.append {entries : List Entry} (h : Drawn used log) (ids : List String)
    (hentries : ∀ entry ∈ entries, ∀ id, entry.Stops id → id ∈ used) :
    Drawn (ids ++ used) (entries ++ log) := by
  intro entry hentry id hstops
  refine List.mem_append_right _ ?_
  rcases List.mem_append.mp hentry with hentry | hentry
  · exact hentries entry hentry id hstops
  · exact h entry hentry id hstops

theorem Drawn.keep (h : Drawn used log) (ids : List String) : Drawn (ids ++ used) log :=
  fun entry hentry id hstops => List.mem_append_right _ (h entry hentry id hstops)

theorem interruption_eq {run : Option Run} (h : entry ∈ interruption run) :
    ∃ run', run = some run' ∧ run'.revived = false ∧ entry = .interrupted run'.task.id := by
  cases run with
  | none => exact absurd h List.not_mem_nil
  | some run =>
    unfold interruption at h
    dsimp only at h
    split_ifs at h with hrevived
    · exact absurd h List.not_mem_nil
    · exact ⟨run, rfl, Bool.eq_false_iff.mpr hrevived, List.mem_singleton.mp h⟩

/-- A stop leaves the file, in which the interrupted task is not ready. -/
theorem sound_stop (h : world.Sound) : world.stop.Sound := by
  refine ⟨nofun, fun file hfile => ?_, ?_, h.log.append fun entry hentry earlier => ?_, nofun⟩
  · have hold := h.file file hfile
    refine ⟨hold.ids, hold.used, fun task ht hstopped => ?_, hold.reviews⟩
    unfold World.stop at hstopped
    cases hrun : world.run with
    | none =>
      rw [hrun] at hstopped
      exact hold.rests task ht hstopped
    | some run =>
      obtain ⟨tasks, -, hsup⟩ := h.run run hrun
      rw [hrun] at hstopped
      unfold interruption at hstopped
      dsimp only at hstopped
      split_ifs at hstopped with hrevived
      · exact hold.rests task ht hstopped
      · by_cases hid : task.id = run.task.id
        · exact (hsup.waiting (Bool.eq_false_iff.mpr hrevived)).file file hfile task ht hid
        · exact hold.rests task ht (hstopped.of_cons fun hstops => hid hstops.symm)
  · refine h.drawn.append [] fun entry hentry id hstops => ?_
    obtain ⟨run, hrun, -, rfl⟩ := interruption_eq hentry
    obtain ⟨tasks, -, hsup⟩ := h.run run hrun
    exact (show run.task.id = id from hstops) ▸ hsup.used
  · obtain ⟨run, -, -, rfl⟩ := interruption_eq hentry
    trivial

theorem sound_openTasks (h : world.Sound) {answer : Except String (List Task)}
    {file : Option TaskFile} (hopened : Opened world.file (answer, file)) :
    ({ world.stop with tasks := answer.toOption, file := file } : World).Sound := by
  have hstop := sound_stop h
  obtain ⟨hmemory, hfile⟩ := hopened.holds (I := Registered world.stop.used world.stop.log)
    registered_nil (fun found hfound => (hstop.file found hfound).recover) hstop.file fun _ h => h
  exact ⟨hmemory, hfile, hstop.drawn, hstop.log, nofun⟩

theorem World.Sound.take {world' : World} (hnode : node.All (Registered world'.used world'.log))
    (htasks : world'.tasks = some node.tasks) (hfile : world'.file = node.file)
    (hdrawn : Drawn world'.used world'.log) (hlog : Each Entry.Lawful world'.log)
    (hrun : ∀ run, world'.run = some run → Supervised world'.used world'.log node run) :
    world'.Sound := by
  refine ⟨fun tasks h => ?_, fun file h => ?_, hdrawn, hlog, fun run h => ⟨node.tasks, htasks, ?_⟩⟩
  · obtain rfl := Option.some.inj (htasks.symm.trans h)
    exact hnode.tasks
  · exact hnode.file file (hfile.symm.trans h)
  · rw [hfile]
    exact hrun run h

theorem mem_noted (h : entry ∈ noted inbox generation text result node node') :
    (∃ id, entry = .revived inbox generation id) ∨
      ∃ id, entry = .removed id ∧ ∃ task ∈ node.tasks, task.id = id := by
  unfold noted at h
  rcases List.mem_append.mp h with h | h
  · split_ifs at h
    · obtain ⟨id, -, rfl⟩ := Option.map_eq_some_iff.mp (Option.mem_toList.mp h)
      exact .inl ⟨id, rfl⟩
    · exact absurd h List.not_mem_nil
  · split_ifs at h
    · obtain ⟨id, hremoved, rfl⟩ := Option.map_eq_some_iff.mp (Option.mem_toList.mp h)
      unfold removedBy at hremoved
      split at hremoved
      · split_ifs at hremoved with hany
        obtain rfl := Option.some.inj hremoved
        obtain ⟨task, ht, htask⟩ := List.any_eq_true.mp hany
        exact .inr ⟨_, rfl, task, ht, (Task.named_iff.mp (Bool.and_eq_true_iff.mp htask).1).1⟩
      · cases hremoved
    · exact absurd h List.not_mem_nil

variable {storage : Storage}

theorem sound_command (h : world.Sound) (hfresh : Fresh world entropy)
    (hstep : world.Step (.command storage inbox generation text now entropy) world') :
    world'.Sound := by
  cases hstep with
  | idle => exact h
  | commanded htasks hexec hended =>
    have hnode := h.all htasks
    refine World.Sound.take (registered_command hnode h.drawn hfresh hended) rfl rfl
      (h.drawn.append _ fun entry hentry id hstops => ?_)
      (h.log.append fun entry hentry earlier => ?_) fun run hrun => ?_
    · rcases mem_noted hentry with ⟨id', rfl⟩ | ⟨id', rfl, task, ht, rfl⟩
      · exact absurd hstops not_false
      · exact (show task.id = id from hstops) ▸ hnode.tasks.used task ht
    · rcases mem_noted hentry with ⟨id', rfl⟩ | ⟨id', rfl, -⟩ <;> trivial
    · obtain ⟨run', hrun', rfl⟩ := Option.map_eq_some_iff.mp hrun
      exact (h.supervised htasks hrun').told hnode hfresh hended

/-- A new registration is not the run in progress. -/
theorem Supervised.append {α : Type} {a : α} {answer : Except String α}
    (h : Supervised used log node run) (task : Task) (hfresh : task.id ∉ used)
    (hready : task.state = .ready)
    (hwrote : Wrote (node.tasks ++ [task]) a node (answer, node')) :
    Supervised used log node' run := by
  have hidle : ∀ id, task.isRunning id = false := fun id => by
    unfold Task.isRunning
    rw [hready]
    exact Bool.and_false _
  have hnext : run.revived = false → ∀ t ∈ node.tasks ++ [task],
      t.id = run.task.id → t.state ≠ .ready := by
    intro hrevived t ht hid
    rcases List.mem_append.mp ht with ht | ht
    · exact (h.waiting hrevived).tasks t ht hid
    · rw [List.mem_singleton.mp ht] at hid
      exact absurd h.used (hid ▸ hfresh)
  cases hwrote with
  | refused => exact h
  | written =>
    refine ⟨h.used, fun hcancelled t ht => ?_, fun hrevived => ⟨hnext hrevived, fun file hfile => ?_⟩,
      fun t ht hrunning => ?_⟩
    · rcases List.mem_append.mp ht with ht | ht
      · exact h.cancelled hcancelled t ht
      · rw [List.mem_singleton.mp ht]
        exact hidle _
    · obtain rfl := Option.some.inj hfile
      exact hnext hrevived
    · rcases List.mem_append.mp ht with ht | ht
      · exact h.live t ht hrunning
      · rw [List.mem_singleton.mp ht, hidle] at hrunning
        cases hrunning
  | unconfirmed =>
    refine ⟨h.used, h.cancelled, fun hrevived => ⟨(h.waiting hrevived).tasks, fun file hfile => ?_⟩,
      h.live⟩
    obtain rfl := Option.some.inj hfile
    exact hnext hrevived

theorem sound_queueForceUpdate (h : world.Sound) (hfresh : Fresh world entropy)
    (hstep : world.Step (.queueForceUpdate storage inbox generation now entropy) world') :
    world'.Sound := by
  cases hstep with
  | idle => exact h
  | queued htasks hended =>
    refine World.Sound.take (registered_queued (h.all htasks) h.drawn hfresh hended) rfl rfl
      (h.drawn.keep _) h.log fun run hrun => ?_
    have hsup := h.supervised htasks hrun
    cases hended with
    | kept => exact hsup.keep _
    | @wrote id output _ _ hid hlength hnone hwrote =>
      have hid' : id ∉ world.used := hfresh id (by rw [drawn_eq hid]; exact List.mem_cons_self)
      exact (hsup.append (updateTask id inbox generation now) hid' rfl hwrote).keep _

theorem Registered.supervised (h : Registered used log tasks) (hget : tasks[index]? = some task)
    (hstopped : ¬Stopped log task) :
    Supervised used log
      ⟨tasks.modify index Task.start, some (encode (tasks.modify index Task.start))⟩
      { task := task.start, cancelled := false, revived := false } := by
  have hstarted : ∀ t ∈ tasks.modify index Task.start, t.id = task.start.id → t = task.start := by
    intro t ht hid
    rcases h.mem_edited hget ht with rfl | ⟨-, hne⟩
    · rfl
    · exact absurd hid hne
  refine ⟨h.used task (List.mem_of_getElem? hget), nofun, fun _ =>
    ⟨fun t ht hid => ?_, fun file hfile t ht hid => ?_⟩, fun t ht hrunning => ?_⟩
  · rw [hstarted t ht hid]
    exact nofun
  · obtain rfl := Option.some.inj hfile
    rw [hstarted t ht hid]
    exact nofun
  · rw [hstarted t ht ((Task.isRunning_iff).mp hrunning).1]
    exact fun hs => hstopped (task.same_start.stopped.mp hs)

theorem Drawn.cons (h : Drawn used log) (entry : Entry) (hentry : ∀ id, ¬entry.Stops id) :
    Drawn used (entry :: log) := by
  intro entry' hentry' id hstops
  rcases List.mem_cons.mp hentry' with rfl | hentry'
  · exact absurd hstops (hentry id)
  · exact h entry' hentry' id hstops

theorem Supervised.cons (h : Supervised used log node run) (entry : Entry)
    (hentry : ∀ id, ¬entry.Stops id) :
    Supervised used (entry :: log) node run :=
  { h with live := fun task ht hrunning hs => h.live task ht hrunning (hs.of_cons (hentry _)) }

theorem Node.All.cons (h : node.All (Registered used log)) (entry : Entry)
    (hentry : ∀ id, ¬entry.Stops id) :
    node.All (Registered used (entry :: log)) :=
  h.mono fun _ htasks => htasks.mono (List.Subset.refl _) fun _ _ hs => hs.of_cons (hentry _)

theorem sound_claim (h : world.Sound) {review : Storage}
    (hallowed : world.Allowed (.claim review storage operators now entropy))
    (hstep : world.Step (.claim review storage operators now entropy) world') : world'.Sound := by
  obtain ⟨hidle, -, hfresh⟩ := hallowed
  cases hstep with
  | idle => exact h
  | claimed htasks hreviewed hclaimed =>
    have hnode₁ := registered_reviewed (h.all htasks) h.drawn hfresh hreviewed
    have hnode' := registered_claimed hnode₁ hclaimed
    cases hclaimed with
    | kept _ hnone => exact absurd rfl (hnone _)
    | @wrote index t _ _ hget hclaimable hwrote =>
      cases hwrote with
      | written =>
        obtain ⟨hauthorized, hstopped⟩ := hnode₁.tasks.not_stopped hget hclaimable
        have hentry : ∀ id, ¬(Entry.claimed operators t.start).Stops id := fun _ => not_false
        refine World.Sound.take (hnode'.cons _ hentry) rfl rfl ((h.drawn.keep _).cons _ hentry)
          (each_cons.mpr ⟨⟨hauthorized, fun hs => hstopped (t.same_start.stopped.mp hs)⟩,
            h.log⟩) fun run hrun => ?_
        obtain rfl := Option.some.inj hrun
        exact (hnode₁.tasks.supervised hget hstopped).cons _ hentry
  | unclaimed htasks hreviewed hclaimed =>
    refine World.Sound.take (registered_claimed
      (registered_reviewed (h.all htasks) h.drawn hfresh hreviewed) hclaimed) rfl rfl
      (h.drawn.keep _) h.log fun run hrun => ?_
    cases hidle.symm.trans hrun

/-- The end of a run changes what the run has claimed. -/
theorem registered_finished {output : String} {success : Bool}
    {answer : Except String Unit} (h : node.All (Registered used log))
    (hsup : Supervised used log node run)
    (hended : Finished run.task.id output success now node (answer, node')) :
    node'.All (Registered used
      (completion run node node' ++ .ended run.cancelled node node' :: log)) := by
  have hcons := h.cons (.ended run.cancelled node node') fun _ => not_false
  cases hended with
  | kept hnone =>
    have hcompletion : completion run node node = [] := by
      refine if_neg fun hdone => ?_
      obtain ⟨task, ht, htask⟩ := List.any_eq_true.mp hdone.1
      exact absurd (Bool.and_eq_true_iff.mp htask).1 (Bool.not_eq_true _ ▸ hnone task ht)
    rw [hcompletion]
    exact hcons
  | @wrote index task _ _ hget hrunning hwrote =>
    obtain ⟨hid, hstate⟩ := (Task.isRunning_iff).mp hrunning
    have hmem := List.mem_of_getElem? hget
    have hlive := hsup.live task hmem hrunning
    have hother : ∀ t ∈ node.tasks, t.id = run.task.id → t = task := fun t ht hid' =>
      h.tasks.eq_of_id ht hmem (hid'.trans hid.symm)
    by_cases hdone : node.tasks.any (fun task => task.isRunning run.task.id && task.interval = 0) =
        true ∧ (node' ≠ node ∨ run.revived = false)
    · have hcompletion : completion run node node' = [.finished run.task.id] := if_pos hdone
      have honce : task.interval = 0 := by
        obtain ⟨t, ht, htask⟩ := List.any_eq_true.mp hdone.1
        obtain ⟨htrunning, honce⟩ := Bool.and_eq_true_iff.mp htask
        rw [hother t ht ((Task.isRunning_iff).mp htrunning).1] at honce
        exact of_decide_eq_true honce
      have hended : (task.end output success now).state ≠ .ready := by
        unfold Task.end
        dsimp only
        rw [if_pos honce]
        split_ifs <;> exact nofun
      have hnext : Registered used (.finished run.task.id :: .ended run.cancelled node node' :: log)
          (node.tasks.modify index (Task.end output success now)) :=
        hcons.tasks.modify hget (Task.same_end output success now)
          (fun t hne hs => hs.of_cons fun hstops => hne (hstops.symm.trans hid.symm))
          fun _ => hended
      have hrest : ∀ tasks, Registered used (.ended run.cancelled node node' :: log) tasks →
          (∀ t ∈ tasks, t.id = run.task.id → t.state ≠ .ready) →
          Registered used (.finished run.task.id :: .ended run.cancelled node node' :: log)
            tasks := by
        refine fun tasks htasks hready => ⟨htasks.ids, htasks.used, fun t ht hs => ?_,
          htasks.reviews⟩
        by_cases hid' : t.id = run.task.id
        · exact hready t ht hid'
        · exact htasks.rests t ht (hs.of_cons fun hstops => hid' hstops.symm)
      have hmemory := hrest node.tasks hcons.tasks fun t ht hid' => by
        rw [hother t ht hid', hstate]
        exact nofun
      rw [hcompletion]
      cases hwrote with
      | refused =>
        have hrevived := hdone.2.resolve_left fun hne => hne rfl
        exact ⟨hmemory, fun file hfile => hrest file.tasks (hcons.file file hfile)
          ((hsup.waiting hrevived).file file hfile)⟩
      | written =>
        refine ⟨hnext, fun file hfile => ?_⟩
        obtain rfl := Option.some.inj hfile
        exact hnext
      | unconfirmed =>
        refine ⟨hmemory, fun file hfile => ?_⟩
        obtain rfl := Option.some.inj hfile
        exact hnext
    · have hcompletion : completion run node node' = [] := if_neg hdone
      rw [hcompletion]
      exact hcons.wrote (hcons.tasks.modify hget (Task.same_end output success now)
        (fun _ _ hs => hs) fun hs => absurd (hs.of_cons not_false) hlive) hwrote

theorem sound_finish (h : world.Sound) {output : String} {success : Bool}
    (hstep : world.Step (.finish storage output success now) world') : world'.Sound := by
  cases hstep with
  | idle => exact h
  | @finished _ _ _ _ tasks run answer node' htasks hrun hended =>
    have hsup := h.supervised htasks hrun
    have hcompletion : ∀ entry ∈ completion run ⟨tasks, world.file⟩ node',
        entry = .finished run.task.id := by
      unfold completion
      split_ifs
      · exact fun entry hentry => List.mem_singleton.mp hentry
      · exact nofun
    refine World.Sound.take (registered_finished (h.all htasks) hsup hended) rfl rfl
      ((h.drawn.cons (.ended run.cancelled _ node') fun _ => not_false).append []
        fun entry hentry id hstops => ?_)
      (Each.append (each_cons.mpr ⟨fun hcancelled => ?_, h.log⟩) fun entry hentry _ => ?_) nofun
    · rw [hcompletion entry hentry] at hstops
      exact (show run.task.id = id from hstops) ▸ hsup.used
    · cases hended with
      | kept => rfl
      | wrote hget hrunning _ =>
        rw [hsup.cancelled hcancelled _ (List.mem_of_getElem? hget)] at hrunning
        cases hrunning
    · rw [hcompletion entry hentry]
      trivial

theorem sound_next (h : world.Sound) {event : Event} (hallowed : world.Allowed event) :
    (world.next event).Sound := by
  have hstep := world.step event
  cases event with
  | openTasks =>
    generalize world.next _ = world' at hstep ⊢
    cases hstep with
    | idle => exact h
    | opened hopened => exact sound_openTasks h hopened
  | crash => exact sound_stop h
  | queueForceUpdate => exact sound_queueForceUpdate h hallowed.2 hstep
  | command => exact sound_command h hallowed.2 hstep
  | claim => exact sound_claim h hallowed hstep
  | finish => exact sound_finish h hstep

theorem sound_of_reachable (h : machine.Reachable world) : world.Sound :=
  h.invariant (P := World.Sound) sound_empty fun _ _ _ hsound hallowed =>
    sound_next hsound hallowed

end Cthuwu.Tasks
