import Cthuwu.Tasks.Safety

/-!
# Updates of a Tentacle

The fixed update is queued only when none of the authorization is ready or running, but a paused one
is resumed without a look at the others. `operator_tasks_safe` says that a run of a Tentacle keeps
every promise about its tasks exactly as long as no update is resumed beside another one.
-/

namespace Cthuwu.Tasks

open Operators (OperatorRecord)
open Fallible

variable {task : Task} {tasks next : List Task} {node node' : Node} {inbox text : String}
  {generation now : ℕ} {entropy : Except String (Fin (2 ^ 64))} {index : ℕ} {command : Command}
  {operators : List OperatorRecord} {world : World} {event : Event} {storage : Storage}

/-- Each authorization has at most one update that is ready or running. -/
def UpdatesOnce (tasks : List Task) : Prop :=
  ∀ inbox generation, tasks.countP (Task.isUpdating inbox generation) ≤ 1

/-- Each authorization has at most one review. -/
def ReviewsOnce (tasks : List Task) : Prop :=
  ∀ inbox generation, tasks.countP (Task.isReview inbox generation) ≤ 1

/-- What holds of the tasks in memory and of those on disk. -/
def World.Holds (I : List Task → Prop) (world : World) : Prop :=
  (∀ tasks, world.tasks = some tasks → I tasks) ∧ ∀ file, world.file = some file → I file.tasks

theorem World.Holds.all {I : List Task → Prop} (h : world.Holds I)
    (htasks : world.tasks = some tasks) : (⟨tasks, world.file⟩ : Node).All I :=
  ⟨h.1 tasks htasks, h.2⟩

theorem World.Holds.of_all {I : List Task → Prop} (node : Node) (h : node.All I)
    (htasks : world.tasks = some node.tasks) (hfile : world.file = node.file) : world.Holds I := by
  refine ⟨fun tasks ht => ?_, fun file hf => h.file file (hfile.symm.trans hf)⟩
  obtain rfl := Option.some.inj (htasks.symm.trans ht)
  exact h.tasks

/-! ## One update -/

theorem Task.isUpdating_iff : task.isUpdating inbox generation = true ↔
    task.forceUpdate = true ∧ (task.inbox = inbox ∧ task.generation = generation) ∧
      (task.state = .ready ∨ task.state = .running) := by
  unfold Task.isUpdating Task.owned Task.active
  simp only [Bool.and_eq_true, Bool.or_eq_true, decide_eq_true_eq, and_assoc]

theorem UpdatesOnce.append (h : UpdatesOnce tasks)
    (hnone : ∀ inbox generation, task.isUpdating inbox generation = true →
      ∀ t ∈ tasks, t.isUpdating inbox generation = false) : UpdatesOnce (tasks ++ [task]) := by
  intro inbox generation
  rw [List.countP_append, List.countP_singleton]
  split_ifs with htask
  · rw [List.countP_eq_zero.mpr fun t ht => Bool.not_eq_true _ ▸ hnone _ _ htask t ht]
  · exact h inbox generation

variable {f : Task → Task} {answer : Except String Unit}

theorem UpdatesOnce.modify (h : UpdatesOnce tasks) (hget : tasks[index]? = some task)
    (hf : ∀ inbox generation,
      (f task).isUpdating inbox generation = true → task.isUpdating inbox generation = true) :
    UpdatesOnce (tasks.modify index f) :=
  fun inbox generation => (countP_modify_le hget (hf inbox generation)).trans (h inbox generation)

theorem UpdatesOnce.recover (h : UpdatesOnce tasks) : UpdatesOnce (tasks.map Task.recover) := by
  intro inbox generation
  rw [List.countP_map]
  refine (List.countP_mono_left fun t _ hupdating => ?_).trans (h inbox generation)
  obtain ⟨hforce, howned, hstate⟩ := (Task.isUpdating_iff).mp hupdating
  unfold Task.recover at hforce howned hstate
  split_ifs at hforce howned hstate with hrunning
  · exact (Task.isUpdating_iff).mpr ⟨hforce, howned, .inr hrunning⟩
  · exact (Task.isUpdating_iff).mpr ⟨hforce, howned, hstate⟩

/-- The only update that becomes active is the one of its authorization. -/
theorem UpdatesOnce.activate (h : UpdatesOnce tasks) (hget : tasks[index]? = some task)
    (hsame : ∀ t : Task, t.Same (f t)) (hnone : ∀ t ∈ tasks, t.id ≠ task.id →
      t.isUpdating task.inbox task.generation = false) (hids : (tasks.map Task.id).Nodup) :
    UpdatesOnce (tasks.modify index f) := by
  intro inbox generation
  by_cases hupdating : (f task).isUpdating inbox generation = true
  · obtain ⟨-, ⟨rfl, rfl⟩, -⟩ := (Task.isUpdating_iff).mp hupdating
    obtain ⟨l₁, l₂, hsplit, hmodify⟩ := exists_split hget
    rw [hsplit, List.map_append, List.map_cons, List.nodup_middle, ← List.map_append] at hids
    have hne := (List.nodup_cons.mp hids).1
    rw [hmodify, List.countP_append, List.countP_cons, if_pos hupdating]
    rw [(hsame task).inbox, (hsame task).generation]
    have hzero : ∀ l, l ⊆ l₁ ++ l₂ → l.countP (Task.isUpdating task.inbox task.generation) = 0 := by
      refine fun l hl => List.countP_eq_zero.mpr fun t ht => Bool.not_eq_true _ ▸ hnone t ?_ ?_
      · rw [hsplit]
        rcases List.mem_append.mp (hl ht) with ht | ht <;> simp [ht]
      · exact fun hid => hne (List.mem_map.mpr ⟨t, hl ht, hid⟩)
    rw [hzero l₁ (List.subset_append_left _ _), hzero l₂ (List.subset_append_right _ _)]
  · exact (countP_modify_le hget fun hnew => absurd hnew hupdating).trans (h inbox generation)

/-! ## Steps -/

/-- The command resumes an update beside another active one, and is written. -/
def Event.ResumesSecondUpdate (world : World) : Event → Prop
  | .command storage inbox generation text _ _ => ∃ tasks id, world.tasks = some tasks ∧
      parseCommand text = .ok (.resume id) ∧
      (∃ task ∈ tasks, task.named inbox generation id = true ∧ task.forceUpdate = true) ∧
      (∃ other ∈ tasks, other.id ≠ id ∧ other.isUpdating inbox generation = true) ∧
      ∀ error, storage ≠ .refused error
  | _ => False

theorem Edit.updates {id : String} (h : Edit now id task command f) (hresume : command ≠ .resume id)
    (hupdating : (f task).isUpdating inbox generation = true) :
    task.isUpdating inbox generation = true := by
  obtain ⟨hforce, howned, hstate⟩ := (Task.isUpdating_iff).mp hupdating
  cases h with
  | steer prompt hnot => exact absurd hforce (hnot ▸ Bool.false_ne_true)
  | interval seconds hnot => exact absurd hforce (hnot ▸ Bool.false_ne_true)
  | remove => rcases hstate with hstate | hstate <;> cases hstate
  | pause => rcases hstate with hstate | hstate <;> cases hstate
  | resume => exact absurd rfl hresume

theorem command_refused {error : String} :
    ((Tasks.command (.refused error) inbox generation text now entropy).exec node).2 = node := by
  unfold Tasks.command
  rw [exec_get_bind, exec_lift_bind]
  cases parseCommand text with
  | error e => rfl
  | ok command =>
    dsimp only
    rw [exec_lift_bind]
    cases command.apply inbox generation now entropy node.tasks with
    | error e => rfl
    | ok applied =>
      dsimp only
      split_ifs <;> rfl

/-- A command keeps one update when it does not resume a second one. -/
theorem UpdatesOnce.applied (h : UpdatesOnce tasks) (hids : (tasks.map Task.id).Nodup)
    (happlied : Applied inbox generation now entropy tasks command next)
    (hnone : ∀ id, command = .resume id →
      (∃ task ∈ tasks, task.named inbox generation id = true ∧ task.forceUpdate = true) →
      ∀ other ∈ tasks, other.id ≠ id → other.isUpdating inbox generation = false) :
    UpdatesOnce next := by
  cases happlied with
  | registered hid hlength =>
    refine h.append fun inbox' generation' hupdating => ?_
    have hforce := ((Task.isUpdating_iff).mp hupdating).1
    cases hforce
  | @edited id index task command f hget hnamed hedit =>
    by_cases hresume : command = .resume id
    · subst hresume
      have hmem := List.mem_of_getElem? hget
      by_cases hforce : task.forceUpdate = true
      · obtain ⟨rfl, rfl, rfl⟩ := Task.named_iff.mp hnamed
        exact h.activate hget hedit.same (hnone _ rfl ⟨task, hmem, hnamed, hforce⟩) hids
      · cases hedit
        exact h.modify hget fun inbox' generation' hupdating =>
          absurd ((Task.isUpdating_iff).mp hupdating).1 hforce
    · exact h.modify hget fun inbox' generation' hupdating => hedit.updates hresume hupdating
  | erased hget hnamed hbuiltin =>
    exact fun inbox' generation' => (List.eraseIdx_sublist _ _).countP_le.trans (h _ _)

/-- A written command that resumes a second update leaves two. -/
theorem two_updates (hids : (tasks.map Task.id).Nodup) {id : String} {other : Task}
    (hget : tasks[index]? = some task) (hnamed : task.named inbox generation id = true)
    (hforce : task.forceUpdate = true) (hother : other ∈ tasks) (hne : other.id ≠ id)
    (hupdating : other.isUpdating inbox generation = true) :
    ¬UpdatesOnce (tasks.modify index (Task.setState .ready now)) := by
  obtain ⟨rfl, rfl, rfl⟩ := Task.named_iff.mp hnamed
  intro honce
  have hresumed : (task.setState .ready now).isUpdating task.inbox task.generation = true :=
    (Task.isUpdating_iff).mpr ⟨hforce, ⟨rfl, rfl⟩, .inl rfl⟩
  obtain ⟨l₁, l₂, rfl, hmodify⟩ := exists_split hget
  have hcount := honce task.inbox task.generation
  rw [hmodify, List.countP_append, List.countP_cons, if_pos hresumed] at hcount
  have hin : other ∈ l₁ ∨ other ∈ l₂ := by
    rcases List.mem_append.mp hother with h | h
    · exact .inl h
    · exact (List.mem_cons.mp h).elim (fun heq => absurd (congrArg Task.id heq) hne) .inr
  rcases hin with hin | hin
  · have hpos := List.countP_pos_iff.mpr ⟨other, hin, hupdating⟩
    omega
  · have hpos := List.countP_pos_iff.mpr ⟨other, hin, hupdating⟩
    omega

/-- What a command is that resumes a second update. -/
theorem apply_resume {id : String} (hmem : task ∈ tasks)
    (hnamed : task.named inbox generation id = true) :
    ∃ index found output, tasks[index]? = some found ∧ found.named inbox generation id = true ∧
      (Command.resume id).apply inbox generation now entropy tasks =
        .ok (tasks.modify index (Task.setState .ready now), output) := by
  cases hfound : position (Task.named inbox generation id) tasks with
  | none =>
    have hnone := position_eq_none hfound task hmem
    rw [hnamed] at hnone
    cases hnone
  | some found =>
    obtain ⟨index, found⟩ := found
    obtain ⟨hget, hfnamed⟩ := position_eq_some hfound
    refine ⟨index, found, s!"Task {id}: resume committed.", hget, hfnamed, ?_⟩
    simp only [Command.apply, hfound, okOr]
    rfl

theorem once_command (h : node.All UpdatesOnce) (hids : (node.tasks.map Task.id).Nodup)
    {result : Except String String}
    (hnone : ∀ id, parseCommand text = .ok (.resume id) →
      (∃ task ∈ node.tasks, task.named inbox generation id = true ∧ task.forceUpdate = true) →
      ∀ other ∈ node.tasks, other.id ≠ id → other.isUpdating inbox generation = false)
    (hended : Commanded inbox generation text now entropy node (result, node')) :
    node'.All UpdatesOnce := by
  cases hended with
  | kept => exact h
  | wrote hparse happlied hwrote =>
    exact h.wrote (h.tasks.applied hids happlied fun id hid => hnone id (hid ▸ hparse)) hwrote

theorem once_reviewed (h : node.All UpdatesOnce)
    (hended : Reviewed operators now entropy node (answer, node')) : node'.All UpdatesOnce := by
  cases hended with
  | kept => exact h
  | wrote _ _ _ _ hwrote =>
    refine h.wrote (h.tasks.append fun inbox' generation' hupdating => ?_) hwrote
    cases ((Task.isUpdating_iff).mp hupdating).1

theorem once_claimed (h : node.All UpdatesOnce) {answer : Except String (Option Task)}
    (hended : Claimed operators now node (answer, node')) : node'.All UpdatesOnce := by
  cases hended with
  | kept => exact h
  | wrote hget hclaimable hwrote =>
    refine h.wrote (h.tasks.modify hget fun inbox' generation' hupdating => ?_) hwrote
    obtain ⟨hforce, howned, -⟩ := (Task.isUpdating_iff).mp hupdating
    unfold Task.claimable at hclaimable
    simp only [Bool.and_eq_true, decide_eq_true_eq] at hclaimable
    exact (Task.isUpdating_iff).mpr ⟨hforce, howned, .inl hclaimable.1.1⟩

theorem once_queued (h : node.All UpdatesOnce) {answer : Except String String}
    (hended : Queued inbox generation now entropy node (answer, node')) :
    node'.All UpdatesOnce := by
  cases hended with
  | kept => exact h
  | wrote hid hlength hnone hwrote =>
    refine h.wrote (h.tasks.append fun inbox' generation' hupdating => ?_) hwrote
    obtain ⟨-, ⟨rfl, rfl⟩, -⟩ := (Task.isUpdating_iff).mp hupdating
    exact hnone

theorem once_finished (h : node.All UpdatesOnce) {id output : String} {success : Bool}
    (hended : Finished id output success now node (answer, node')) : node'.All UpdatesOnce := by
  cases hended with
  | kept => exact h
  | wrote hget hrunning hwrote =>
    refine h.wrote (h.tasks.modify hget fun inbox' generation' hupdating => ?_) hwrote
    obtain ⟨hforce, howned, -⟩ := (Task.isUpdating_iff).mp hupdating
    exact (Task.isUpdating_iff).mpr ⟨hforce, howned, .inr (Task.isRunning_iff.mp hrunning).2⟩

/-- Every step keeps one update, but one that resumes a second. -/
theorem once_next (hsound : world.Sound) (h : world.Holds UpdatesOnce)
    (hevent : ¬event.ResumesSecondUpdate world) : (world.next event).Holds UpdatesOnce := by
  have hstep := world.step event
  generalize world.next event = world' at hstep ⊢
  cases hstep with
  | idle => exact h
  | opened hopened =>
    exact hopened.holds (fun _ _ => Nat.zero_le _) (fun found hfound => (h.2 found hfound).recover)
      h.2 fun _ hnext => hnext
  | crashed => exact ⟨nofun, h.2⟩
  | queued htasks hended => exact .of_all _ (once_queued (h.all htasks) hended) rfl rfl
  | @commanded storage inbox generation text now entropy tasks answer node' htasks hexec hended =>
    refine .of_all node' ?_ rfl rfl
    by_cases hrefused : ∃ error, storage = .refused error
    · obtain ⟨error, rfl⟩ := hrefused
      have hkept := congrArg Prod.snd hexec
      rw [command_refused] at hkept
      rw [← show _ = node' from hkept]
      exact h.all htasks
    · refine once_command (h.all htasks) (hsound.memory tasks htasks).ids
        (fun id hparse htask other hother hne => ?_) hended
      rw [← Bool.not_eq_true]
      exact fun hupdating => hevent ⟨tasks, id, htasks, hparse, htask,
        ⟨other, hother, hne, hupdating⟩, fun error herror => hrefused ⟨error, herror⟩⟩
  | claimed htasks hreviewed hclaimed =>
    exact .of_all _ (once_claimed (once_reviewed (h.all htasks) hreviewed) hclaimed) rfl rfl
  | unclaimed htasks hreviewed hclaimed =>
    exact .of_all _ (once_claimed (once_reviewed (h.all htasks) hreviewed) hclaimed) rfl rfl
  | finished htasks _ hended => exact .of_all _ (once_finished (h.all htasks) hended) rfl rfl

/-- Resuming a second update leaves two on disk. -/
theorem not_once_next (hsound : world.Sound) (hevent : event.ResumesSecondUpdate world) :
    ¬(world.next event).Holds UpdatesOnce := by
  cases event with
  | command storage inbox generation text now entropy =>
    obtain ⟨tasks, id, htasks, hparse, ⟨task, htask, hnamed, hforce⟩, ⟨other, hother, hne,
      hupdating⟩, hrefused⟩ := hevent
    obtain ⟨index, found, output, hget, hfnamed, happly⟩ :=
      @apply_resume task tasks inbox generation now entropy id htask hnamed
    have hids := (hsound.memory tasks htasks).ids
    have hfound : found = task := (hsound.memory tasks htasks).eq_of_id (List.mem_of_getElem? hget)
      htask ((Task.named_iff.mp hfnamed).1.trans (Task.named_iff.mp hnamed).1.symm)
    subst hfound
    have htwo := @two_updates found tasks inbox generation now index hids id other hget hnamed
      hforce hother hne hupdating
    intro hholds
    refine htwo (hholds.2 (encode _) ?_)
    unfold World.next
    rw [htasks]
    dsimp only
    unfold Tasks.command
    rw [exec_get_bind, hparse, exec_lift_bind]
    dsimp only
    rw [happly, exec_lift_bind]
    dsimp only
    cases storage with
    | written => rfl
    | refused e => exact absurd rfl (hrefused e)
    | unconfirmed e => rfl
  | _ => exact absurd hevent not_false

/-! ## Runs -/

/-- What an operator may rely on, whatever becomes of its authority and of the Tentacle. -/
structure World.Safe (world : World) : Prop where
  claims : ∀ later operators task earlier, world.log = later ++ .claimed operators task :: earlier →
    authorized operators task = true ∧ ¬Stopped earlier task
  cancelled : ∀ later before after earlier,
    world.log = later ++ .ended true before after :: earlier → after = before
  reviews : world.Holds ReviewsOnce
  updates : world.Holds UpdatesOnce

theorem World.Sound.safe (h : world.Sound) (honce : world.Holds UpdatesOnce) : world.Safe :=
  ⟨fun later _ _ earlier hlog => h.log later _ earlier hlog,
    fun later _ _ earlier hlog => h.log later _ earlier hlog rfl,
    ⟨fun tasks htasks => (h.memory tasks htasks).reviews,
      fun file hfile => (h.file file hfile).reviews⟩, honce⟩

/-- A run keeps its promises exactly as long as no update is resumed beside another one. -/
theorem operator_tasks_safe {events : List Event} (h : machine.Admits World.empty events) :
    (∀ n, ((events.take n).foldl World.next World.empty).Safe) ↔
      (machine.restrict fun world event => ¬event.ResumesSecondUpdate world).Admits
        World.empty events := by
  refine Machine.admits_restrict_iff (P := World.Safe) (fun world event hreachable hsafe hallowed =>
    ⟨fun hnext hevent => ?_, fun hevent => ?_⟩) .init ?_ h
  · exact not_once_next (sound_of_reachable hreachable) hevent hnext.updates
  · exact (sound_of_reachable (hreachable.next hallowed)).safe
      (once_next (sound_of_reachable hreachable) hsafe.updates hevent)
  · exact sound_empty.safe ⟨nofun, nofun⟩

/-! ## A second update -/

def sampleInbox : String := "aaaaaaaaaaaaaaaaaaaaaaaaaaaaaaaaaaaaaaaaaaaaaaaaaaaaaaaaaaaaaaaa"

local instance entropyNonzero : NeZero (2 ^ 64) := ⟨by decide⟩

/-- An update is queued and paused, and another one is queued. -/
def sampleQueue : List Event :=
  [.openTasks .written, .queueForceUpdate .written sampleInbox 1 0 (.ok 1),
    .command .written sampleInbox 1 "pause 0000000000000001" 0 (.error ""),
    .queueForceUpdate .written sampleInbox 1 0 (.ok 2)]

def resumeFirst : Event :=
  .command .written sampleInbox 1 "resume 0000000000000001" 0 (.error "")

instance (inbox : String) (generation : ℕ) : Decidable (Authority inbox generation) :=
  inferInstanceAs (Decidable (_ ∧ _))

instance (world : World) (entropy : Except String (Fin (2 ^ 64))) :
    Decidable (Fresh world entropy) :=
  inferInstanceAs (Decidable (∀ id ∈ drawn entropy, id ∉ world.used))

theorem sampleQueue_admitted : machine.Admits World.empty (sampleQueue ++ [resumeFirst]) := by
  have hauthority : Authority sampleInbox 1 := by decide +kernel
  refine ⟨trivial, ⟨hauthority, ?_⟩, ⟨hauthority, nofun⟩, ⟨hauthority, ?_⟩, ⟨hauthority, nofun⟩,
    trivial⟩
  all_goals decide +kernel

/-- The first update is resumed beside the second one. -/
theorem resumed_beside_another : machine.Admits World.empty (sampleQueue ++ [resumeFirst]) ∧
    ¬((sampleQueue ++ [resumeFirst]).foldl World.next World.empty).Safe := by
  refine ⟨sampleQueue_admitted, fun hsafe => ?_⟩
  have htwo : (((sampleQueue ++ [resumeFirst]).foldl World.next World.empty).tasks.map
      fun tasks => tasks.countP (Task.isUpdating sampleInbox 1)) = some 2 := by
    decide +kernel
  obtain ⟨tasks, htasks, hcount⟩ := Option.map_eq_some_iff.mp htwo
  have honce := hsafe.updates.1 tasks htasks sampleInbox 1
  omega

theorem operator_tasks_safe_sample : (sampleQueue.foldl World.next World.empty).Safe := by
  have hadmitted : machine.Admits World.empty sampleQueue := by
    obtain ⟨h₁, h₂, h₃, h₄, -⟩ := sampleQueue_admitted
    exact ⟨h₁, h₂, h₃, h₄, trivial⟩
  refine (operator_tasks_safe hadmitted).mpr (hadmitted.restrict ?_) 4
  intro world event hevent hresumes
  have hpause : parseCommand "pause 0000000000000001" = .ok (.pause "0000000000000001") := by
    decide +kernel
  simp only [sampleQueue, List.mem_cons, List.not_mem_nil, or_false] at hevent
  rcases hevent with rfl | rfl | rfl | rfl
  · exact hresumes
  · exact hresumes
  · obtain ⟨tasks, id, -, hparse, -⟩ := hresumes
    rw [hpause] at hparse
    cases hparse
  · exact hresumes

end Cthuwu.Tasks
