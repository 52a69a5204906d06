import TaskOrchestrator.Application.RuntimeService
import TaskOrchestrator.Library.Updates

/-!
# Laws of overrides

A completed task is deleted and taken out of the dependencies of the others; every other override
sets fields of one task or one actor. An override that comes again makes the earlier one
superfluous, and overrides of different tasks or actors commute.
-/

namespace TaskOrchestrator.App

open Protocol (ReorchestrateRequest TaskStateOverride ActorStateOverride)
open Library (LastWins SameByKey foldl_eq_of_sameByKey)

set_option autoImplicit false

section UpdateFirst

variable {α β : Type} {p : α → Bool} {f : α → α}

theorem map_updateFirst {q : β → Bool} {g : β → β} {m : α → β} (hpq : ∀ a, q (m a) = p a)
    (hfg : ∀ a, m (f a) = g (m a)) (xs : List α) :
    (updateFirst p f xs).map m = updateFirst q g (xs.map m) := by
  induction xs with
  | nil => rfl
  | cons x xs ih =>
    simp only [updateFirst, List.map_cons, hpq]
    split_ifs
    · rw [List.map_cons, hfg]
    · rw [List.map_cons, ih]

theorem map_updateFirst_same {m : α → β} (hf : ∀ a, m (f a) = m a) (xs : List α) :
    (updateFirst p f xs).map m = xs.map m := by
  induction xs with
  | nil => rfl
  | cons x xs ih =>
    rw [updateFirst]
    split_ifs
    · rw [List.map_cons, List.map_cons, hf]
    · rw [List.map_cons, List.map_cons, ih]

theorem updateFirst_of_none {xs : List α} (h : ∀ a ∈ xs, p a = false) :
    updateFirst p f xs = xs := by
  induction xs with
  | nil => rfl
  | cons x xs ih =>
    have hx : p x = false := h x List.mem_cons_self
    rw [updateFirst, hx, ih fun a ha => h a (List.mem_cons_of_mem _ ha)]
    simp

theorem mem_updateFirst_cases {a : α} {xs : List α} (h : a ∈ updateFirst p f xs) :
    a ∈ xs ∨ ∃ b ∈ xs, a = f b := by
  induction xs with
  | nil => exact Or.inl h
  | cons x xs ih =>
    rw [updateFirst] at h
    split_ifs at h
    · rcases List.mem_cons.mp h with rfl | h
      · exact Or.inr ⟨x, List.mem_cons_self, rfl⟩
      · exact Or.inl (List.mem_cons_of_mem _ h)
    · rcases List.mem_cons.mp h with rfl | h
      · exact Or.inl List.mem_cons_self
      · rcases ih h with hmem | ⟨b, hb, rfl⟩
        · exact Or.inl (List.mem_cons_of_mem _ hmem)
        · exact Or.inr ⟨b, List.mem_cons_of_mem _ hb, rfl⟩

variable {q : α → Bool}

theorem filter_updateFirst_other (hpq : ∀ x, p x = true → q x = false)
    (hf : ∀ x, p x = true → q (f x) = false) (xs : List α) :
    (updateFirst p f xs).filter q = xs.filter q := by
  induction xs with
  | nil => rfl
  | cons x xs ih =>
    unfold updateFirst
    split_ifs with hx
    · simp [hf x hx, hpq x hx]
    · simp only [List.filter_cons, ih]

theorem filter_updateFirst_self (hf : ∀ x, p (f x) = p x) (xs : List α) :
    (updateFirst p f xs).filter p = (xs.filter p).modifyHead f := by
  induction xs with
  | nil => rfl
  | cons x xs ih =>
    unfold updateFirst
    split_ifs with hx
    · rw [List.filter_cons_of_pos (by rw [hf, hx]), List.filter_cons_of_pos hx,
        List.modifyHead_cons]
    · rw [List.filter_cons_of_neg hx, List.filter_cons_of_neg hx, ih]

theorem filter_eraseP_other (hpq : ∀ x, p x = true → q x = false) (xs : List α) :
    (xs.eraseP p).filter q = xs.filter q := by
  induction xs with
  | nil => rfl
  | cons x xs ih =>
    cases hx : p x with
    | true => rw [List.eraseP_cons_of_pos hx, List.filter_cons_of_neg (by simp [hpq x hx])]
    | false => rw [List.eraseP_cons_of_neg (by simp [hx]), List.filter_cons, List.filter_cons, ih]

theorem filter_eraseP_self (xs : List α) : (xs.eraseP p).filter p = (xs.filter p).tail := by
  induction xs with
  | nil => rfl
  | cons x xs ih =>
    cases hx : p x with
    | true => rw [List.eraseP_cons_of_pos hx, List.filter_cons_of_pos hx, List.tail_cons]
    | false => rw [List.eraseP_cons_of_neg (by simp [hx]), List.filter_cons_of_neg (by simp [hx]),
        List.filter_cons_of_neg (by simp [hx]), ih]

end UpdateFirst

section UpdateKeyed

variable {α κ : Type} [DecidableEq κ] {key : α → κ} {k l : κ} {f g : α → α}

theorem updateFirst_updateFirst (hg : ∀ a, key (g a) = key a) (xs : List α) :
    updateFirst (fun a => key a = k) f (updateFirst (fun a => key a = k) g xs) =
      updateFirst (fun a => key a = k) (fun a => f (g a)) xs := by
  induction xs with
  | nil => rfl
  | cons x xs ih =>
    by_cases hx : key x = k
    · simp [updateFirst, hg, hx]
    · simp [updateFirst, hx, ih]

theorem updateFirst_comm (hf : ∀ a, key (f a) = key a) (hg : ∀ a, key (g a) = key a) (hkl : k ≠ l)
    (xs : List α) :
    updateFirst (fun a => key a = k) f (updateFirst (fun a => key a = l) g xs) =
      updateFirst (fun a => key a = l) g (updateFirst (fun a => key a = k) f xs) := by
  induction xs with
  | nil => rfl
  | cons x xs ih =>
    by_cases hk : key x = k
    · have hl : key x ≠ l := fun h => hkl (hk.symm.trans h)
      simp [updateFirst, hk, hf, hkl]
    · by_cases hl : key x = l
      · simp [updateFirst, hl, hg, Ne.symm hkl]
      · simp [updateFirst, hk, hl, ih]

theorem eraseP_updateFirst_self (hf : ∀ a, key (f a) = key a) (xs : List α) :
    (updateFirst (fun a => key a = k) f xs).eraseP (fun a => key a = k) = xs.eraseP fun a =>
      key a = k := by
  induction xs with
  | nil => rfl
  | cons x xs ih =>
    by_cases hx : key x = k
    · simp [updateFirst, hx, hf]
    · simp [updateFirst, hx, ih]

theorem eraseP_updateFirst_other (hf : ∀ a, key (f a) = key a) (hkl : k ≠ l) (xs : List α) :
    (updateFirst (fun a => key a = k) f xs).eraseP (fun a => key a = l) =
      updateFirst (fun a => key a = k) f (xs.eraseP fun a => key a = l) := by
  induction xs with
  | nil => rfl
  | cons x xs ih =>
    by_cases hk : key x = k
    · simp [updateFirst, hk, hf, hkl]
    · by_cases hl : key x = l
      · simp [updateFirst, hl, Ne.symm hkl]
      · simp [updateFirst, hk, hl, ih]

theorem map_key_eraseP (k : κ) (xs : List α) :
    (xs.eraseP fun a => key a = k).map key = (xs.map key).erase k := by
  rw [List.erase_eq_eraseP, List.eraseP_map]
  congr 2
  funext a
  by_cases ha : key a = k
  · simp [ha]
  · simp [ha, Ne.symm ha]

theorem any_eraseP_other (hkl : k ≠ l) (xs : List α) :
    ((xs.eraseP fun a => key a = k).any fun a => key a = l) = xs.any fun a => key a = l := by
  induction xs with
  | nil => rfl
  | cons x xs ih =>
    by_cases hk : key x = k
    · simp [hk, hkl]
    · simp [hk, ih]

theorem eraseP_eraseP_comm (hkl : k ≠ l) (xs : List α) :
    (xs.eraseP fun a => key a = k).eraseP (fun a => key a = l) =
      (xs.eraseP fun a => key a = l).eraseP fun a => key a = k := by
  apply List.eraseP_comm
  intro a _
  by_cases hk : key a = k
  · exact Or.inr (by simpa [hk] using hkl)
  · exact Or.inl (by simpa using hk)

end UpdateKeyed

def dropDependency (completedTaskId : TaskId) (task : TaskConfig) : TaskConfig :=
  { task with dependencyTaskIds := task.dependencyTaskIds.filter fun id => id ≠ completedTaskId }

def completeTask (taskId : TaskId) (tasks : List TaskConfig) : List TaskConfig :=
  if tasks.any fun task => task.id = taskId then
    (tasks.eraseP fun task => task.id = taskId).map (dropDependency taskId)
  else tasks

def overrideTasks (override : TaskStateOverride) (tasks : List TaskConfig) : List TaskConfig :=
  if override.completed = some true then completeTask override.taskId tasks
  else updateFirst (fun task => task.id = override.taskId) (overrideTask override) tasks

@[simp] theorem overrideTask_id (override : TaskStateOverride) (task : TaskConfig) :
    (overrideTask override task).id = task.id := rfl

@[simp] theorem dropDependency_id (taskId : TaskId) (task : TaskConfig) :
    (dropDependency taskId task).id = task.id :=
  rfl

theorem completeTask_of_absent {taskId : TaskId} {tasks : List TaskConfig}
    (h : taskId ∉ tasks.map TaskConfig.id) :
    completeTask taskId tasks = tasks := by
  rw [completeTask, if_neg]
  rw [List.any_eq_true]
  rintro ⟨task, htask, hid⟩
  exact h (List.mem_map.mpr ⟨task, htask, by simpa using hid⟩)

theorem updateFirst_of_absent {taskId : TaskId} {tasks : List TaskConfig}
    (h : taskId ∉ tasks.map TaskConfig.id) (f : TaskConfig → TaskConfig) :
    updateFirst (fun task => task.id = taskId) f tasks = tasks := by
  apply updateFirst_of_none
  intro task htask
  rw [decide_eq_false_iff_not]
  intro hid
  exact h (List.mem_map.mpr ⟨task, htask, hid⟩)

theorem overrideTasks_of_absent {override : TaskStateOverride} {tasks : List TaskConfig}
    (h : override.taskId ∉ tasks.map TaskConfig.id) : overrideTasks override tasks = tasks := by
  unfold overrideTasks
  split_ifs
  · exact completeTask_of_absent h
  · exact updateFirst_of_absent h _

theorem mem_overrideTasks_cases {override : TaskStateOverride} {tasks : List TaskConfig}
    {task : TaskConfig} (h : task ∈ overrideTasks override tasks) :
    ∃ earlier ∈ tasks, task = earlier ∨ task = overrideTask override earlier ∨
      task = dropDependency override.taskId earlier := by
  unfold overrideTasks completeTask at h
  split_ifs at h
  · obtain ⟨earlier, hearlier, rfl⟩ := List.mem_map.mp h
    exact ⟨earlier, List.mem_of_mem_eraseP hearlier, Or.inr (Or.inr rfl)⟩
  · exact ⟨task, h, Or.inl rfl⟩
  · rcases mem_updateFirst_cases h with hmem | ⟨earlier, hearlier, heq⟩
    · exact ⟨task, hmem, Or.inl rfl⟩
    · exact ⟨earlier, hearlier, Or.inr (Or.inl heq)⟩

theorem applyTaskOverride_eq (config : WorkflowConfig) (override : TaskStateOverride) :
    applyTaskOverride config override =
      { config with tasks := overrideTasks override config.tasks } := by
  by_cases hany : config.tasks.any fun task => task.id = override.taskId
  · rw [applyTaskOverride, if_pos hany, overrideTasks, completeTask, if_pos hany]
    split_ifs
    · rfl
    · rfl
  · have habsent : override.taskId ∉ config.tasks.map TaskConfig.id := by
      intro hmem
      obtain ⟨task, htask, hid⟩ := List.mem_map.mp hmem
      exact hany (List.any_eq_true.mpr ⟨task, htask, by simpa using hid⟩)
    rw [applyTaskOverride, if_neg hany, overrideTasks_of_absent habsent]

theorem foldl_applyTaskOverride (overrides : List TaskStateOverride) (config : WorkflowConfig) :
    overrides.foldl applyTaskOverride config =
      { config with tasks := overrides.foldl (fun tasks override =>
        overrideTasks override tasks) config.tasks } := by
  induction overrides generalizing config with
  | nil => rfl
  | cons override rest ih => rw [List.foldl_cons, List.foldl_cons, ih, applyTaskOverride_eq]

/-- A completion erases the id of its task, and other overrides keep all ids. -/
theorem map_id_overrideTasks_eq (override : TaskStateOverride) (tasks : List TaskConfig) :
    (overrideTasks override tasks).map TaskConfig.id =
      if override.completed = some true then (tasks.map TaskConfig.id).erase override.taskId
      else tasks.map TaskConfig.id := by
  unfold overrideTasks completeTask
  split_ifs with hcompleted hany
  · rw [List.map_map, ← map_key_eraseP]
    rfl
  · rw [List.erase_of_not_mem (by simpa using hany)]
  · exact map_updateFirst_same (fun task => overrideTask_id override task) tasks

theorem map_id_overrideTasks (override : TaskStateOverride) (tasks : List TaskConfig) :
    ((overrideTasks override tasks).map TaskConfig.id).Sublist (tasks.map TaskConfig.id) := by
  rw [map_id_overrideTasks_eq]
  split_ifs
  · exact List.erase_sublist
  · exact List.Sublist.refl _

theorem not_mem_completeTask {taskId : TaskId} {tasks : List TaskConfig}
    (hnodup : (tasks.map TaskConfig.id).Nodup) :
    taskId ∉ (completeTask taskId tasks).map TaskConfig.id := by
  by_cases hmem : taskId ∈ tasks.map TaskConfig.id
  · obtain ⟨task, htask, hid⟩ := List.mem_map.mp hmem
    obtain ⟨first, before, after, -, hfirst, heq, herase⟩ :=
      List.exists_of_eraseP htask (p := fun task => task.id = taskId) (by simpa using hid)
    have hany : (tasks.any fun task => task.id = taskId) = true :=
      List.any_eq_true.mpr ⟨task, htask, by simpa using hid⟩
    rw [completeTask, if_pos hany, List.map_map, herase]
    have hfirst : first.id = taskId := by simpa using hfirst
    have hnodup : ((first :: (before ++ after)).map TaskConfig.id).Nodup := by
      rw [heq] at hnodup
      exact ((List.perm_middle.map _).nodup_iff).mp hnodup
    rw [List.map_cons, List.nodup_cons, hfirst] at hnodup
    exact hnodup.1
  · rwa [completeTask_of_absent hmem]

theorem dropDependency_overrideTask (taskId : TaskId) (override : TaskStateOverride)
    (task : TaskConfig) :
    dropDependency taskId (overrideTask override task) =
      overrideTask override (dropDependency taskId task) := rfl

theorem dropDependency_comm (a b : TaskId) (task : TaskConfig) :
    dropDependency a (dropDependency b task) = dropDependency b (dropDependency a task) := by
  simp [dropDependency, List.filter_filter, Bool.and_comm]

theorem any_id_updateFirst (taskId : TaskId) (override : TaskStateOverride)
    (tasks : List TaskConfig) :
    ((updateFirst (fun task => task.id = override.taskId) (overrideTask override) tasks).any
      fun task => task.id = taskId) = tasks.any fun task => task.id = taskId := by
  have hids : ∀ list : List TaskConfig,
      (list.any fun task => task.id = taskId) = (list.map TaskConfig.id).any fun id =>
        id = taskId := by
    intro list
    rw [List.any_map]
    rfl
  rw [hids, hids, map_updateFirst_same fun task => overrideTask_id override task]

theorem completeTask_updateFirst {taskId : TaskId} {override : TaskStateOverride}
    (hne : override.taskId ≠ taskId) (tasks : List TaskConfig) :
    completeTask taskId
    (updateFirst (fun task => task.id = override.taskId) (overrideTask override) tasks) =
      updateFirst (fun task => task.id = override.taskId) (overrideTask override)
        (completeTask taskId tasks) := by
  unfold completeTask
  rw [any_id_updateFirst]
  split_ifs
  · rw [eraseP_updateFirst_other (overrideTask_id override) hne]
    apply map_updateFirst
    · intro task
      rfl
    · exact dropDependency_overrideTask taskId override
  · rfl

theorem completeTask_updateFirst_self (override : TaskStateOverride) (tasks : List TaskConfig) :
    completeTask override.taskId
      (updateFirst (fun task => task.id = override.taskId) (overrideTask override) tasks) =
      completeTask override.taskId tasks := by
  by_cases hany : tasks.any fun task => task.id = override.taskId
  · rw [completeTask, any_id_updateFirst, if_pos hany, completeTask, if_pos hany,
      eraseP_updateFirst_self (overrideTask_id override)]
  · have habsent : override.taskId ∉ tasks.map TaskConfig.id := by simpa using hany
    rw [updateFirst_of_absent habsent]

theorem any_id_completeTask {a b : TaskId} (hne : a ≠ b) (tasks : List TaskConfig) :
    ((completeTask a tasks).any fun task => task.id = b) = tasks.any fun task => task.id = b := by
  unfold completeTask
  split_ifs
  · rw [List.any_map]
    exact any_eraseP_other hne tasks
  · rfl

theorem completeTask_comm {a b : TaskId} (hne : a ≠ b) (tasks : List TaskConfig) :
    completeTask a (completeTask b tasks) = completeTask b (completeTask a tasks) := by
  rw [completeTask, any_id_completeTask (Ne.symm hne)]
  conv => rhs; rw [completeTask, any_id_completeTask hne]
  have herase : ∀ (c d : TaskId) (list : List TaskConfig),
      (list.map (dropDependency d)).eraseP (fun task => task.id = c) =
        (list.eraseP fun task => task.id = c).map (dropDependency d) := by
    intro c d list
    rw [List.eraseP_map]
    rfl
  by_cases ha : tasks.any fun task => task.id = a
  · by_cases hb : tasks.any fun task => task.id = b
    · rw [if_pos ha, if_pos hb, completeTask, if_pos hb, completeTask, if_pos ha, herase, herase,
        List.map_map, List.map_map, eraseP_eraseP_comm hne]
      apply List.map_congr_left
      intro task _
      exact dropDependency_comm a b task
    · rw [if_pos ha, if_neg hb, completeTask, if_neg hb, completeTask, if_pos ha]
  · by_cases hb : tasks.any fun task => task.id = b
    · rw [if_neg ha, if_pos hb, completeTask, if_pos hb, completeTask, if_neg ha]
    · rw [if_neg ha, if_neg hb, completeTask, if_neg hb, completeTask, if_neg ha]

theorem overrideTasks_comm {a b : TaskStateOverride} (hne : a.taskId ≠ b.taskId)
    (tasks : List TaskConfig) :
    overrideTasks b (overrideTasks a tasks) = overrideTasks a (overrideTasks b tasks) := by
  unfold overrideTasks
  split_ifs
  · exact completeTask_comm (Ne.symm hne) tasks
  · exact completeTask_updateFirst hne tasks
  · exact (completeTask_updateFirst (Ne.symm hne) tasks).symm
  · exact updateFirst_comm (overrideTask_id b) (overrideTask_id a) (Ne.symm hne) tasks

theorem overrideTask_again (override : TaskStateOverride) (task : TaskConfig) :
    overrideTask override (overrideTask override task) = overrideTask override task := by
  obtain ⟨taskId, completed, requestedTime, deadline, priority, pinnedActorId⟩ := override
  cases requestedTime <;> cases deadline <;> cases priority <;> cases pinnedActorId <;> rfl

theorem overrideTask_superseded (a b : TaskStateOverride) (task : TaskConfig) :
    overrideTask a (overrideTask b (overrideTask a task)) = overrideTask a
    (overrideTask b task) := by
  obtain ⟨taskId, completed, requestedTime, deadline, priority, pinnedActorId⟩ := a
  cases requestedTime <;> cases deadline <;> cases priority <;> cases pinnedActorId <;> rfl

theorem overrideTasks_again (a : TaskStateOverride) {tasks : List TaskConfig}
    (hnodup : (tasks.map TaskConfig.id).Nodup) :
    overrideTasks a (overrideTasks a tasks) = overrideTasks a tasks := by
  unfold overrideTasks
  split_ifs
  · exact completeTask_of_absent (not_mem_completeTask hnodup)
  · rw [updateFirst_updateFirst (overrideTask_id a)]
    simp only [overrideTask_again]

theorem overrideTasks_superseded_same {a b : TaskStateOverride} (heq : a.taskId = b.taskId)
    {tasks : List TaskConfig} (hnodup : (tasks.map TaskConfig.id).Nodup) :
    overrideTasks a (overrideTasks b (overrideTasks a tasks)) =
      overrideTasks a (overrideTasks b tasks) := by
  have hgone : b.taskId ∉ (completeTask a.taskId tasks).map TaskConfig.id :=
    heq ▸ not_mem_completeTask hnodup
  by_cases ha : a.completed = some true
  · -- Once the task is gone, nothing else happens to it.
    have hfirst : overrideTasks a tasks = completeTask a.taskId tasks := if_pos ha
    rw [hfirst, overrideTasks_of_absent hgone, overrideTasks_of_absent (heq ▸ hgone)]
    by_cases hb : b.completed = some true
    · have hsecond : overrideTasks b tasks = completeTask a.taskId tasks := by
        rw [overrideTasks, if_pos hb, heq]
      rw [hsecond, overrideTasks_of_absent (heq ▸ hgone)]
    · have hsecond := completeTask_updateFirst_self b tasks
      rw [← heq] at hsecond
      rw [overrideTasks, if_pos ha, overrideTasks, if_neg hb, ← heq, hsecond]
  · have hfirst : ∀ list, overrideTasks a list =
        updateFirst (fun task => task.id = a.taskId) (overrideTask a) list := fun list => if_neg ha
    by_cases hb : b.completed = some true
    · have hsecond : ∀ list, overrideTasks b list = completeTask a.taskId list := fun list => by
        rw [overrideTasks, if_pos hb, heq]
      rw [hsecond, hsecond, hfirst tasks, completeTask_updateFirst_self]
    · have hsecond : ∀ list, overrideTasks b list =
          updateFirst (fun task => task.id = a.taskId) (overrideTask b) list := fun list => by
        rw [overrideTasks, if_neg hb, heq]
      have hboth : ∀ task, (overrideTask b (overrideTask a task)).id = task.id := fun _ => rfl
      simp only [hfirst, hsecond, updateFirst_updateFirst (overrideTask_id a),
        updateFirst_updateFirst (overrideTask_id b), updateFirst_updateFirst hboth,
          overrideTask_superseded]

theorem lastWins_overrideTasks :
    LastWins (fun tasks : List TaskConfig => (tasks.map TaskConfig.id).Nodup)
      fun tasks override => overrideTasks override tasks where
  keeps tasks a h := h.sublist (map_id_overrideTasks a tasks)
  again tasks a h := overrideTasks_again a h
  superseded tasks a b h := by
    by_cases heq : a.taskId = b.taskId
    · exact overrideTasks_superseded_same heq h
    · rw [overrideTasks_comm heq, overrideTasks_again a (h.sublist (map_id_overrideTasks b tasks))]

def overrideActors (override : ActorStateOverride) (actors : List ActorConfig) : List ActorConfig :=
  updateFirst (fun actor => actor.id = override.actorId) (overrideActor override) actors

theorem foldl_applyActorOverride (overrides : List ActorStateOverride) (config : WorkflowConfig) :
    overrides.foldl applyActorOverride config =
      { config with actors := overrides.foldl (fun actors override =>
        overrideActors override actors) config.actors } := by
  induction overrides generalizing config with
  | nil => rfl
  | cons override rest ih =>
    rw [List.foldl_cons, List.foldl_cons, ih]
    rfl

@[simp] theorem overrideActor_id (override : ActorStateOverride) (actor : ActorConfig) :
    (overrideActor override actor).id = actor.id := rfl

def overrideWindows (unavailable : Option Bool) (windows : List AvailabilityWindowConfig) :
    List AvailabilityWindowConfig :=
  match unavailable with
  | some true => []
  | some false =>
    if windows = []
      then [{ start := kRuntimeOverrideAvailabilityStart, stop := kRuntimeOverrideAvailabilityEnd }]
    else windows
  | none => windows

theorem overrideActor_eq (override : ActorStateOverride) (actor : ActorConfig) :
    overrideActor override actor =
      { actor with
        capacity := override.capacity.getD actor.capacity
        windows := overrideWindows override.unavailable actor.windows } := rfl

theorem overrideWindows_again (a : Option Bool) (windows : List AvailabilityWindowConfig) :
    overrideWindows a (overrideWindows a windows) = overrideWindows a windows := by
  rcases a with _ | _ | _
  · rfl
  · cases windows with
    | nil => rfl
    | cons window rest => rfl
  · rfl

theorem overrideWindows_superseded (a b : Option Bool) (windows : List AvailabilityWindowConfig) :
    overrideWindows a (overrideWindows b (overrideWindows a windows)) =
      overrideWindows a (overrideWindows b windows) := by
  rcases b with _ | _ | _
  · exact overrideWindows_again a windows
  · rcases a with _ | _ | _
    · rfl
    · simp only [overrideWindows_again]
    · rfl
  · rfl

theorem overrideActor_again (override : ActorStateOverride) (actor : ActorConfig) :
    overrideActor override (overrideActor override actor) = overrideActor override actor := by
  simp only [overrideActor_eq, overrideWindows_again]
  cases override.capacity <;> rfl

theorem overrideActor_superseded (a b : ActorStateOverride) (actor : ActorConfig) :
    overrideActor a (overrideActor b (overrideActor a actor)) =
      overrideActor a (overrideActor b actor) := by
  simp only [overrideActor_eq, overrideWindows_superseded]
  cases a.capacity <;> rfl

theorem overrideActors_comm {a b : ActorStateOverride} (hne : a.actorId ≠ b.actorId)
    (actors : List ActorConfig) :
    overrideActors b (overrideActors a actors) = overrideActors a (overrideActors b actors) :=
  updateFirst_comm (overrideActor_id b) (overrideActor_id a) (Ne.symm hne) actors

theorem overrideActors_again (a : ActorStateOverride) (actors : List ActorConfig) :
    overrideActors a (overrideActors a actors) = overrideActors a actors := by
  unfold overrideActors
  rw [updateFirst_updateFirst (overrideActor_id a)]
  simp only [overrideActor_again]

theorem lastWins_overrideActors :
    LastWins (fun _ : List ActorConfig => True) fun actors override =>
      overrideActors override actors where
  keeps _ _ _ := trivial
  again actors a _ := overrideActors_again a actors
  superseded actors a b _ := by
    by_cases heq : a.actorId = b.actorId
    · have hboth : ∀ actor, (overrideActor b (overrideActor a actor)).id = actor.id := fun _ => rfl
      simp only [overrideActors, ← heq, updateFirst_updateFirst (overrideActor_id a),
        updateFirst_updateFirst (overrideActor_id b), updateFirst_updateFirst hboth,
          overrideActor_superseded]
    · rw [overrideActors_comm heq, overrideActors_again]

theorem applyOverrides_eq (request : ReorchestrateRequest) (config : WorkflowConfig) :
    applyOverrides request config =
      { config with
        tasks :=
          request.taskOverrides.foldl (fun tasks override => overrideTasks override tasks)
            config.tasks
        actors :=
          request.actorOverrides.foldl (fun actors override => overrideActors override actors)
            config.actors } := by
  rw [applyOverrides, foldl_applyTaskOverride, foldl_applyActorOverride]

/-- What the overrides of single tasks keep holds of all tasks of the session. -/
theorem forall_tasks_applyOverrides {P : TaskConfig → Prop}
    (hoverride : ∀ override task, P task → P (overrideTask override task))
    (hdrop : ∀ taskId task, P task → P (dropDependency taskId task))
    {request : ReorchestrateRequest} {config : WorkflowConfig} (h : ∀ task ∈ config.tasks, P task) :
    ∀ task ∈ (applyOverrides request config).tasks, P task := by
  have hfold : ∀ (overrides : List TaskStateOverride) (tasks : List TaskConfig),
      (∀ task ∈ tasks, P task) →
      ∀ task ∈ overrides.foldl (fun tasks override => overrideTasks override tasks) tasks,
        P task := by
    intro overrides
    induction overrides with
    | nil => exact fun tasks h => h
    | cons override rest ih =>
      intro tasks htasks
      apply ih
      intro task htask
      obtain ⟨earlier, hearlier, rfl | rfl | rfl⟩ := mem_overrideTasks_cases htask
      · exact htasks _ hearlier
      · exact hoverride _ _ (htasks earlier hearlier)
      · exact hdrop _ _ (htasks earlier hearlier)
  rw [applyOverrides_eq]
  exact hfold request.taskOverrides config.tasks h

/-- The overrides of a request may be applied again, and only the order of the overrides of one
task or one actor counts. -/
theorem overrides_resent_or_reordered (request other : ReorchestrateRequest)
    (config : WorkflowConfig) (htasks : (config.tasks.map TaskConfig.id).Nodup) :
    applyOverrides request (applyOverrides request config) = applyOverrides request config ∧
      (SameByKey TaskStateOverride.taskId request.taskOverrides other.taskOverrides →
        SameByKey ActorStateOverride.actorId request.actorOverrides other.actorOverrides →
          applyOverrides request config = applyOverrides other config) := by
  constructor
  · have htwice := lastWins_overrideTasks.run_twice request.taskOverrides htasks
    have hactorsTwice :=
      lastWins_overrideActors.run_twice request.actorOverrides (s := config.actors) trivial
    simp only [applyOverrides_eq, htwice, hactorsTwice]
  · intro hsameTasks hsameActors
    rw [applyOverrides_eq, applyOverrides_eq,
      foldl_eq_of_sameByKey (fun tasks a b hne => overrideTasks_comm hne tasks) hsameTasks,
      foldl_eq_of_sameByKey (fun actors a b hne => overrideActors_comm hne actors) hsameActors]

/-- The workflow has a task that depends on another and one actor. -/
def smallWorkflow : WorkflowConfig where
  tasks := [{ id := "a" }, { id := "b", dependencyTaskIds := ["a"] }]
  actors := [{ id := "x" }]

/-- The first task is pinned and then completed, the second one is pinned, and the actor is taken
offline and brought back. -/
def mixedOverrides : ReorchestrateRequest where
  taskOverrides :=
    [{ taskId := "a", pinnedActorId := some "x" }, { taskId := "b", pinnedActorId := some "x" },
      { taskId := "a", completed := some true }]
  actorOverrides :=
    [{ actorId := "x", unavailable := some true }, { actorId := "x", unavailable := some false }]

def mixedOverridesReordered : ReorchestrateRequest :=
  { mixedOverrides with
    taskOverrides :=
      [{ taskId := "b", pinnedActorId := some "x" }, { taskId := "a", pinnedActorId := some "x" },
        { taskId := "a", completed := some true }] }

theorem mixedOverrides_resent_and_reordered :
    applyOverrides mixedOverrides (applyOverrides mixedOverrides smallWorkflow) =
        applyOverrides mixedOverrides smallWorkflow ∧
      applyOverrides mixedOverrides smallWorkflow =
        applyOverrides mixedOverridesReordered smallWorkflow := by
  obtain ⟨hresent, hreordered⟩ :=
    overrides_resent_or_reordered mixedOverrides mixedOverridesReordered smallWorkflow (by decide)
  refine ⟨hresent, hreordered ?_ fun _ => rfl⟩
  intro taskId
  by_cases ha : "a" = taskId
  · subst ha
    rfl
  · by_cases hb : "b" = taskId
    · subst hb
      rfl
    · simp [mixedOverrides, mixedOverridesReordered, ha, hb]

end TaskOrchestrator.App
