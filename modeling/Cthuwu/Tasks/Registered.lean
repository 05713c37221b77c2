import Mathlib.Data.List.Count
import Cthuwu.Tasks.World

/-!
# Registered tasks

A task that a restart interrupted, that was to run once and has, or that is the removed review is
`Stopped` until its own authorization revives it. In a list of `Registered` tasks no stopped task is
ready, names are given once and an authorization has one review. Every operation keeps the tasks in
memory and those on disk so, beside what it adds to the log.
-/

namespace Cthuwu.Tasks

open Operators (OperatorRecord)

/-! ## Stopped tasks -/

/-- The task must not run again by itself. -/
def Entry.Stops (id : String) : Entry → Prop
  | .interrupted id' | .finished id' | .removed id' => id' = id
  | .claimed _ _ | .revived _ _ _ | .ended _ _ _ => False

/-- The task has been stopped, and its authorization has not revived it since. -/
def Stopped (log : List Entry) (task : Task) : Prop :=
  Since (· ≠ .revived task.inbox task.generation task.id) (Entry.Stops task.id) log

variable {log : List Entry} {entry : Entry} {task task' : Task} {tasks next : List Task}
  {used : List String} {node node' : Node} {inbox : String} {generation now : ℕ}
  {entropy : Except String (Fin (2 ^ 64))} {index : ℕ}

theorem stopped_cons : Stopped (entry :: log) task ↔ entry.Stops task.id ∨
    entry ≠ .revived task.inbox task.generation task.id ∧ Stopped log task :=
  since_cons

theorem Task.Same.stopped (h : task.Same task') : Stopped log task' ↔ Stopped log task := by
  unfold Stopped
  rw [h.id, h.inbox, h.generation]

theorem Stopped.of_cons (h : Stopped (entry :: log) task) (hentry : ¬entry.Stops task.id) :
    Stopped log task :=
  (((stopped_cons).mp h).resolve_left hentry).2

/-- What the log stops has been drawn. -/
def Drawn (used : List String) (log : List Entry) : Prop :=
  ∀ entry ∈ log, ∀ id, entry.Stops id → id ∈ used

theorem Drawn.not_stopped (h : Drawn used log) (hfresh : task.id ∉ used) : ¬Stopped log task :=
  fun hstopped =>
    let ⟨entry, hentry, hstops⟩ := hstopped.exists_mem
    hfresh (h entry hentry task.id hstops)

/-! ## Lists of tasks -/

/-- The tasks in memory or on disk, beside what has happened. -/
structure Registered (used : List String) (log : List Entry) (tasks : List Task) : Prop where
  ids : (tasks.map Task.id).Nodup
  used : ∀ task ∈ tasks, task.id ∈ used
  rests : ∀ task ∈ tasks, Stopped log task → task.state ≠ .ready
  reviews : ∀ inbox generation, tasks.countP (Task.isReview inbox generation) ≤ 1

theorem registered_nil : Registered used log [] :=
  ⟨List.nodup_nil, nofun, nofun, fun _ _ => Nat.zero_le _⟩

theorem Registered.eq_of_id (h : Registered used log tasks) (ht : task ∈ tasks)
    (ht' : task' ∈ tasks) (hid : task.id = task'.id) : task = task' :=
  List.inj_on_of_nodup_map h.ids ht ht' hid

/-- More has been drawn, and nothing else is stopped. -/
theorem Registered.mono {used' : List String} {log' : List Entry} (h : Registered used log tasks)
    (hused : used ⊆ used') (hlog : ∀ task ∈ tasks, Stopped log' task → Stopped log task) :
    Registered used' log' tasks :=
  ⟨h.ids, fun task ht => hused (h.used task ht),
    fun task ht hstopped => h.rests task ht (hlog task ht hstopped), h.reviews⟩

theorem Registered.append (h : Registered used log tasks) (hdrawn : Drawn used log) (task : Task)
    (hfresh : task.id ∉ used)
    (hreview : ∀ inbox generation, task.isReview inbox generation = true →
      ∀ t ∈ tasks, t.isReview inbox generation = false) :
    Registered (task.id :: used) log (tasks ++ [task]) := by
  refine ⟨?_, fun t ht => ?_, fun t ht hstopped => ?_, fun inbox generation => ?_⟩
  · rw [List.map_append, List.map_singleton, List.nodup_append]
    refine ⟨h.ids, List.nodup_singleton _, fun id hid id' hid' heq => ?_⟩
    obtain ⟨t, ht, rfl⟩ := List.mem_map.mp hid
    rw [List.mem_singleton.mp hid'] at heq
    exact hfresh (heq ▸ h.used t ht)
  · rcases List.mem_append.mp ht with ht | ht
    · exact List.mem_cons_of_mem _ (h.used t ht)
    · rw [List.mem_singleton.mp ht]
      exact List.mem_cons_self
  · rcases List.mem_append.mp ht with ht | ht
    · exact h.rests t ht hstopped
    · rw [List.mem_singleton.mp ht] at hstopped
      exact absurd hstopped (hdrawn.not_stopped hfresh)
  · rw [List.countP_append, List.countP_singleton]
    split_ifs with htask
    · rw [List.countP_eq_zero.mpr fun t ht => Bool.not_eq_true _ ▸ hreview _ _ htask t ht]
    · exact h.reviews inbox generation

variable {f : Task → Task} {id : String}

theorem countP_modify_le {p : Task → Bool} (hget : tasks[index]? = some task)
    (hf : p (f task) = true → p task = true) :
    (tasks.modify index f).countP p ≤ tasks.countP p := by
  obtain ⟨l₁, l₂, rfl, hmodify⟩ := exists_split hget
  rw [hmodify, List.countP_append, List.countP_append, List.countP_cons, List.countP_cons]
  split_ifs with hnew hold
  · exact Nat.le_refl _
  · exact absurd (hf hnew) hold
  · omega
  · exact Nat.le_refl _

/-- The others keep their state when one is edited. -/
theorem Registered.mem_edited (h : Registered used log tasks) (hget : tasks[index]? = some task)
    (ht : task' ∈ tasks.modify index f) : task' = f task ∨ task' ∈ tasks ∧ task'.id ≠ task.id := by
  obtain ⟨l₁, l₂, hsplit, hmodify⟩ := exists_split hget
  have hids := h.ids
  rw [hmodify] at ht
  rw [hsplit, List.map_append, List.map_cons, List.nodup_middle] at hids
  have hne := (List.nodup_cons.mp hids).1
  rw [← List.map_append] at hne
  rcases List.mem_append.mp ht with ht | ht
  · refine .inr ⟨by rw [hsplit]; exact List.mem_append_left _ ht, fun hid => hne ?_⟩
    exact List.mem_map.mpr ⟨task', List.mem_append_left _ ht, hid⟩
  · rcases List.mem_cons.mp ht with rfl | ht
    · exact .inl rfl
    · refine .inr ⟨by rw [hsplit]; simp [ht], fun hid => hne ?_⟩
      exact List.mem_map.mpr ⟨task', List.mem_append_right _ ht, hid⟩

/-- One registration is edited. It is ready only if nothing stops it. -/
theorem Registered.modify {log' : List Entry} (h : Registered used log tasks)
    (hget : tasks[index]? = some task) (hsame : ∀ t : Task, t.Same (f t))
    (hothers : ∀ t : Task, t.id ≠ task.id → Stopped log' t → Stopped log t)
    (hready : Stopped log' task → (f task).state ≠ .ready) :
    Registered used log' (tasks.modify index f) := by
  refine ⟨?_, fun t ht => ?_, fun t ht hstopped => ?_, fun inbox generation => ?_⟩
  · rw [map_modify fun t => (hsame t).id]
    exact h.ids
  · rcases mem_modify hget ht with ht | rfl
    · exact h.used t ht
    · rw [(hsame task).id]
      exact h.used task (List.mem_of_getElem? hget)
  · rcases h.mem_edited hget ht with rfl | ⟨ht, hid⟩
    · exact hready ((hsame task).stopped.mp hstopped)
    · exact h.rests t ht (hothers t hid hstopped)
  · refine (countP_modify_le hget fun hnew => ?_).trans (h.reviews inbox generation)
    rwa [(hsame task).isReview] at hnew

theorem Registered.erase (h : Registered used log tasks) :
    Registered used log (tasks.eraseIdx index) :=
  have hsublist := List.eraseIdx_sublist tasks index
  ⟨h.ids.sublist (hsublist.map _), fun task ht => h.used task (hsublist.subset ht),
    fun task ht => h.rests task (hsublist.subset ht),
    fun inbox generation => hsublist.countP_le.trans (h.reviews inbox generation)⟩

theorem Registered.not_mem_erased (h : Registered used log tasks)
    (hget : tasks[index]? = some task) (ht : task' ∈ tasks.eraseIdx index) :
    task'.id ≠ task.id := by
  obtain ⟨hlt, rfl⟩ := List.getElem?_eq_some_iff.mp hget
  have hsplit : tasks = tasks.take index ++ tasks[index] :: tasks.drop (index + 1) := by
    rw [← List.drop_eq_getElem_cons hlt, List.take_append_drop]
  have hids := h.ids
  rw [hsplit, List.map_append, List.map_cons, List.nodup_middle, ← List.map_append] at hids
  rw [List.eraseIdx_eq_take_drop_succ] at ht
  exact fun hid => (List.nodup_cons.mp hids).1 (List.mem_map.mpr ⟨task', ht, hid⟩)

/-! ## Commands -/

theorem drawn_eq (h : taskId entropy = .ok id) : drawn entropy = [id] := by
  unfold drawn
  rw [h]
  rfl

theorem Task.named_iff : task.named inbox generation id = true ↔
    task.id = id ∧ task.inbox = inbox ∧ task.generation = generation := by
  unfold Task.named Task.owned
  simp

theorem subset_drawn (entropy : Except String (Fin (2 ^ 64))) :
    used ⊆ drawn entropy ++ used := List.subset_append_right _ _

/-- What a command that is carried out adds to the log. -/
def entries (inbox : String) (generation : ℕ) (tasks : List Task) : Command → List Entry
  | .steer id _ | .resume id => [.revived inbox generation id]
  | .remove id =>
    if tasks.any (fun task => task.named inbox generation id && task.builtin.isSome) = true then
      [.removed id]
    else []
  | .list | .register _ _ | .interval _ _ | .pause _ => []

variable {command : Command}

theorem not_stopped_revived (hnamed : task.named inbox generation id = true) :
    ¬Stopped (.revived inbox generation id :: log) task := by
  obtain ⟨rfl, rfl, rfl⟩ := (Task.named_iff).mp hnamed
  intro hstopped
  rcases (stopped_cons).mp hstopped with h | ⟨hne, -⟩
  · exact h
  · exact hne rfl

theorem Registered.applied (h : Registered used log tasks) (hdrawn : Drawn used log)
    (hfresh : ∀ id ∈ drawn entropy, id ∉ used)
    (happlied : Applied inbox generation now entropy tasks command next) :
    Registered (drawn entropy ++ used) (entries inbox generation tasks command ++ log) next := by
  cases happlied with
  | @registered seconds prompt id hid hlength =>
    rw [drawn_eq hid] at hfresh ⊢
    refine h.append hdrawn (requestTask id inbox generation seconds now prompt)
      (hfresh id List.mem_cons_self) fun inbox' generation' hreview => ?_
    simp [Task.isReview, requestTask] at hreview
  | @edited id index task command f hget hnamed hedit =>
    have hsame := hedit.same
    have hid := ((Task.named_iff).mp hnamed).1
    have hmem : task ∈ tasks := List.mem_of_getElem? hget
    have hmono := h.mono (subset_drawn entropy) fun _ _ hstopped => hstopped
    cases hedit with
    | steer prompt _ =>
      exact hmono.modify hget hsame (fun t _ hstopped => hstopped.of_cons not_false)
        fun hstopped => absurd hstopped (not_stopped_revived hnamed)
    | resume =>
      exact hmono.modify hget hsame (fun t _ hstopped => hstopped.of_cons not_false)
        fun hstopped => absurd hstopped (not_stopped_revived hnamed)
    | interval seconds _ =>
      exact hmono.modify hget hsame (fun t _ hstopped => hstopped) (h.rests task hmem)
    | pause => exact hmono.modify hget hsame (fun t _ hstopped => hstopped) fun _ => nofun
    | remove hbuiltin =>
      have hany : tasks.any (fun task => task.named inbox generation id &&
          task.builtin.isSome) = true :=
        List.any_eq_true.mpr ⟨task, hmem, by rw [hnamed, hbuiltin]; rfl⟩
      have hentries : entries inbox generation tasks (.remove id) = [.removed id] := if_pos hany
      rw [hentries]
      exact hmono.modify hget hsame
        (fun t hne hstopped => hstopped.of_cons fun hstops => hne (hstops.symm.trans hid.symm))
        fun _ => nofun
  | @erased id index task hget hnamed hbuiltin =>
    have hany : ¬tasks.any (fun task => task.named inbox generation id &&
        task.builtin.isSome) = true := by
      intro hany
      obtain ⟨t, ht, htask⟩ := List.any_eq_true.mp hany
      obtain ⟨htnamed, htbuiltin⟩ := Bool.and_eq_true_iff.mp htask
      have hid := ((Task.named_iff).mp htnamed).1.trans ((Task.named_iff).mp hnamed).1.symm
      rw [h.eq_of_id ht (List.mem_of_getElem? hget) hid, hbuiltin] at htbuiltin
      cases htbuiltin
    have hentries : entries inbox generation tasks (.remove id) = [] := if_neg hany
    rw [hentries]
    exact (h.mono (subset_drawn _) fun _ _ hstopped => hstopped).erase

variable {text output error : String} {result : Except String String}

theorem noted_list (h : parseCommand text = .ok .list) :
    noted inbox generation text result node node' = [] := by
  unfold noted revivedBy removedBy
  rw [h]
  split_ifs <;> rfl

theorem noted_refused : noted inbox generation text (.error error) node node = [] := by
  unfold noted
  rw [if_neg (by simp [Except.isOk, Except.toBool]), if_neg (by simp [Except.isOk, Except.toBool])]
  rfl

theorem noted_written (hparse : parseCommand text = .ok command) :
    noted inbox generation text (.ok output) node node' =
      entries inbox generation node.tasks command := by
  have hok : (Except.ok output : Except String String).isOk = true := rfl
  unfold noted revivedBy removedBy
  rw [if_pos (.inl hok), if_pos hok, hparse]
  cases command <;> try rfl
  unfold entries
  dsimp only
  split_ifs <;> rfl

/-- A command whose write is not confirmed may have revived its task. -/
theorem noted_unconfirmed (hparse : parseCommand text = .ok command) :
    noted inbox generation text (.error error) node node' =
      if node' ≠ node then (command.revives.map (Entry.revived inbox generation)).toList
      else [] := by
  unfold noted revivedBy
  rw [hparse, if_neg (by simp [Except.isOk, Except.toBool] : ¬(Except.isOk _ = true)),
    List.append_nil]
  simp [Except.isOk, Except.toBool, Except.toOption]

theorem Stopped.of_revives {id : Option String}
    (h : Stopped ((id.map (Entry.revived inbox generation)).toList ++ log) task) :
    Stopped log task := by
  cases id with
  | none => exact h
  | some id => exact h.of_cons not_false

/-- What is stopped although a task is revived is stopped by all that the command notes. -/
theorem Stopped.to_entries
    (h : Stopped ((command.revives.map (Entry.revived inbox generation)).toList ++ log) task) :
    Stopped (entries inbox generation tasks command ++ log) task := by
  cases command with
  | remove id =>
    unfold entries
    dsimp only
    split_ifs
    · exact (stopped_cons).mpr (.inr ⟨nofun, h⟩)
    · exact h
  | _ => exact h

theorem registered_command (h : node.All (Registered used log)) (hdrawn : Drawn used log)
    (hfresh : ∀ id ∈ drawn entropy, id ∉ used)
    (hended : Commanded inbox generation text now entropy node (result, node')) :
    node'.All (Registered (drawn entropy ++ used)
      (noted inbox generation text result node node' ++ log)) := by
  have hkeep := fun tasks (htasks : Registered used log tasks) =>
    htasks.mono (subset_drawn entropy) fun _ _ hstopped => hstopped
  cases hended with
  | kept _ hkept =>
    cases result with
    | error e =>
      rw [noted_refused]
      exact h.mono hkeep
    | ok output =>
      rw [noted_list (hkept output rfl)]
      exact h.mono hkeep
  | wrote hparse happlied hwrote =>
    have hnext := h.tasks.applied hdrawn hfresh happlied
    cases hwrote with
    | refused e =>
      rw [noted_refused]
      exact h.mono hkeep
    | written =>
      rw [noted_written hparse]
      refine ⟨hnext, fun file hfile => ?_⟩
      obtain rfl := Option.some.inj hfile
      exact hnext
    | unconfirmed e =>
      rw [noted_unconfirmed hparse]
      split_ifs with hchanged
      · refine ⟨h.tasks.mono (subset_drawn _) fun _ _ => Stopped.of_revives, fun file hfile => ?_⟩
        obtain rfl := Option.some.inj hfile
        exact hnext.mono (List.Subset.refl _) fun _ _ => Stopped.to_entries
      · rw [not_not.mp hchanged]
        exact h.mono hkeep

/-! ## The other operations -/

variable {operators : List OperatorRecord}

theorem Node.All.keep (h : node.All (Registered used log)) (ids : List String) :
    node.All (Registered (ids ++ used) log) :=
  h.mono fun _ htasks => htasks.mono (List.subset_append_right _ _) fun _ _ hstopped => hstopped

theorem registered_queued (h : node.All (Registered used log)) (hdrawn : Drawn used log)
    (hfresh : ∀ id ∈ drawn entropy, id ∉ used)
    (hended : Queued inbox generation now entropy node (result, node')) :
    node'.All (Registered (drawn entropy ++ used) log) := by
  cases hended with
  | kept => exact h.keep _
  | @wrote id output _ _ hid hlength hnone hwrote =>
    refine (h.keep _).wrote ?_ hwrote
    rw [drawn_eq hid] at hfresh ⊢
    refine h.tasks.append hdrawn (updateTask id inbox generation now)
      (hfresh id List.mem_cons_self) fun inbox' generation' hreview => ?_
    simp [Task.isReview, updateTask] at hreview

theorem reviewTask_isReview {inbox' : String} {generation' : ℕ} :
    (reviewTask id inbox generation now).isReview inbox' generation' = true ↔
      inbox = inbox' ∧ generation = generation' := by
  unfold Task.isReview Task.owned reviewTask
  simp only [decide_true, Bool.and_true, Bool.and_eq_true, decide_eq_true_eq]

theorem registered_reviewed {answer : Except String Unit} (h : node.All (Registered used log))
    (hdrawn : Drawn used log) (hfresh : ∀ id ∈ drawn entropy, id ∉ used)
    (hended : Reviewed operators now entropy node (answer, node')) :
    node'.All (Registered (drawn entropy ++ used) log) := by
  cases hended with
  | kept => exact h.keep _
  | @wrote operator id _ _ hoperator hid hlength hnone hwrote =>
    refine (h.keep _).wrote ?_ hwrote
    rw [drawn_eq hid] at hfresh ⊢
    refine h.tasks.append hdrawn (reviewTask id operator.inboxId operator.generation now)
      (hfresh id List.mem_cons_self) fun inbox' generation' hreview => ?_
    obtain ⟨rfl, rfl⟩ := (reviewTask_isReview).mp hreview
    exact hnone

theorem Registered.not_stopped (h : Registered used log tasks) (hget : tasks[index]? = some task)
    (hclaimable : task.claimable operators now = true) :
    authorized operators task = true ∧ ¬Stopped log task := by
  unfold Task.claimable at hclaimable
  simp only [Bool.and_eq_true, decide_eq_true_eq] at hclaimable
  obtain ⟨⟨hready, -⟩, hauthorized⟩ := hclaimable
  exact ⟨hauthorized, fun hstopped =>
    h.rests task (List.mem_of_getElem? hget) hstopped hready⟩

theorem Registered.start (h : Registered used log tasks) (hget : tasks[index]? = some task) :
    Registered used log (tasks.modify index Task.start) :=
  h.modify hget Task.same_start (fun _ _ hstopped => hstopped) fun _ => nofun

theorem registered_claimed {answer : Except String (Option Task)}
    (h : node.All (Registered used log)) (hended : Claimed operators now node (answer, node')) :
    node'.All (Registered used log) := by
  cases hended with
  | kept => exact h
  | wrote hget hclaimable hwrote => exact h.wrote (h.tasks.start hget) hwrote

theorem Registered.recover (h : Registered used log tasks) :
    Registered used log (tasks.map Task.recover) := by
  have hids : (tasks.map Task.recover).map Task.id = tasks.map Task.id := by
    rw [List.map_map]
    exact List.map_congr_left fun t _ => (t.same_recover).id
  refine ⟨?_, fun t ht => ?_, fun t ht hstopped hready => ?_, fun inbox generation => ?_⟩
  · rw [hids]
    exact h.ids
  · obtain ⟨t, hmem, rfl⟩ := List.mem_map.mp ht
    rw [t.same_recover.id]
    exact h.used t hmem
  · obtain ⟨t, hmem, rfl⟩ := List.mem_map.mp ht
    refine h.rests t hmem (t.same_recover.stopped.mp hstopped) ?_
    unfold Task.recover at hready
    split_ifs at hready
    exact hready
  · rw [List.countP_map]
    refine (Nat.le_of_eq (List.countP_congr fun t _ => ?_)).trans (h.reviews inbox generation)
    rw [Function.comp_apply, t.same_recover.isReview]

end Cthuwu.Tasks
