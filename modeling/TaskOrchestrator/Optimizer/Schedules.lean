import TaskOrchestrator.Optimizer.ConstraintIndex
import TaskOrchestrator.Library.Load
import Mathlib.Data.Prod.Lex

/-!
# Feasible schedules

What a schedule of an optimization model has to satisfy and how schedules compare, in terms
of the model alone. A schedule is a list of assignments whose order does not matter. It is
what the backends are measured by; none of their code occurs here.
-/

namespace TaskOrchestrator.Optimizer

open Library TaskOrchestrator.Core

set_option autoImplicit false

section Specification

variable (model : OptimizationModel)

def OptimizationModel.demandOf (taskId : TaskId) : Int :=
  ((model.tasks.find? fun task => task.id = taskId).map OptimizerTask.demand).getD 0

def OptimizationModel.priorityOf (taskId : TaskId) : Priority :=
  ((model.tasks.find? fun task => task.id = taskId).map OptimizerTask.priority).getD 0

def occupied : Weighing OptimizedAssignment where
  start := OptimizedAssignment.startTime
  stop := OptimizedAssignment.endTime
  weight a := model.demandOf a.taskId

def runBy (actorId : ActorId) (schedule : List OptimizedAssignment) : List OptimizedAssignment :=
  schedule.filter fun a => a.actorId = actorId

structure Fits (task : OptimizerTask) (actor : OptimizerActor)
    (a : OptimizedAssignment) : Prop where
  allows : Allows task actor
  capable : ∀ capability ∈ task.requiredCapabilities, capability ∈ actor.capabilities
  demand : task.demand ≤ actor.capacity
  released : task.releaseTime ≤ a.startTime
  latestStart : ∀ latest ∈ task.latestStartTime, a.startTime ≤ latest
  ends : a.endTime = a.startTime + task.duration
  deadline : ∀ deadline ∈ task.deadline, a.endTime ≤ deadline
  window : 0 < task.duration → ∃ window ∈ actor.availabilityWindows,
    window.start ≤ a.startTime ∧ a.endTime ≤ window.stop

instance (task : OptimizerTask) (actor : OptimizerActor) (a : OptimizedAssignment) :
    Decidable (Fits task actor a) :=
  decidable_of_iff
    (Allows task actor ∧
      (∀ capability ∈ task.requiredCapabilities, capability ∈ actor.capabilities) ∧
      task.demand ≤ actor.capacity ∧ task.releaseTime ≤ a.startTime ∧
      (∀ latest ∈ task.latestStartTime, a.startTime ≤ latest) ∧
        a.endTime = a.startTime + task.duration ∧
      (∀ deadline ∈ task.deadline, a.endTime ≤ deadline) ∧
      (0 < task.duration → ∃ window ∈ actor.availabilityWindows,
        window.start ≤ a.startTime ∧ a.endTime ≤ window.stop))
    ⟨fun ⟨h1, h2, h3, h4, h5, h6, h7, h8⟩ => ⟨h1, h2, h3, h4, h5, h6, h7, h8⟩,
      fun ⟨h1, h2, h3, h4, h5, h6, h7, h8⟩ => ⟨h1, h2, h3, h4, h5, h6, h7, h8⟩⟩

/-- No task is assigned twice, every assignment fits its task and its actor and comes after
all the dependencies, and no actor is over its capacity at an instant of an assignment. -/
structure FeasibleSchedule (schedule : List OptimizedAssignment) : Prop where
  unique : (schedule.map OptimizedAssignment.taskId).Nodup
  fits : ∀ a ∈ schedule, ∃ task ∈ model.tasks, ∃ actor ∈ model.actors,
    task.id = a.taskId ∧ actor.id = a.actorId ∧ Fits task actor a
  dependencies : ∀ a ∈ schedule, ∀ task ∈ model.tasks, task.id = a.taskId →
    ∀ dep ∈ task.dependencyTaskIds, ∃ b ∈ schedule, b.taskId = dep ∧ b.endTime ≤ a.startTime
  capacity : ∀ actor ∈ model.actors,
    (occupied model).Within (fun _ => 0) actor.capacity (runBy actor.id schedule)

instance (schedule : List OptimizedAssignment) : Decidable (FeasibleSchedule model schedule) :=
  decidable_of_iff ((schedule.map OptimizedAssignment.taskId).Nodup ∧
      (∀ a ∈ schedule, ∃ task ∈ model.tasks, ∃ actor ∈ model.actors,
        task.id = a.taskId ∧ actor.id = a.actorId ∧ Fits task actor a) ∧
      (∀ a ∈ schedule, ∀ task ∈ model.tasks, task.id = a.taskId →
        ∀ dep ∈ task.dependencyTaskIds, ∃ b ∈ schedule, b.taskId = dep ∧ b.endTime ≤ a.startTime) ∧
      ∀ actor ∈ model.actors, (occupied model).Within (fun _ => 0) actor.capacity
        (runBy actor.id schedule))
    ⟨fun ⟨h1, h2, h3, h4⟩ => ⟨h1, h2, h3, h4⟩, fun ⟨h1, h2, h3, h4⟩ => ⟨h1, h2, h3, h4⟩⟩

def RespectsExclusions (schedule : List OptimizedAssignment) : Prop :=
  ∀ a ∈ schedule, ∀ b ∈ schedule, a.taskId ≠ b.taskId →
    ∀ task ∈ model.tasks, task.id = a.taskId → b.taskId ∉ task.mutuallyExclusiveTaskIds

instance (schedule : List OptimizedAssignment) : Decidable (RespectsExclusions model schedule) :=
  inferInstanceAs (Decidable (∀ a ∈ schedule, ∀ b ∈ schedule, a.taskId ≠ b.taskId →
    ∀ task ∈ model.tasks, task.id = a.taskId → b.taskId ∉ task.mutuallyExclusiveTaskIds))

/-- Every task is in exactly one of the two lists, and once. -/
def Partitions (solution : OptimizationSolution) : Prop :=
  (solution.assignments.map OptimizedAssignment.taskId ++ solution.unfulfilledTaskIds).Perm
    (model.tasks.map OptimizerTask.id)

def makespan (schedule : List OptimizedAssignment) : Time :=
  schedule.foldl (fun running a => max running a.endTime) 0

/-- The number of assigned tasks, then their weighted priority, then an early makespan. -/
def scheduleScore (options : OptimizationOptions) (schedule : List OptimizedAssignment) :
    Nat ×ₗ Int ×ₗ Int :=
  toLex (schedule.length,
    toLex ((schedule.map fun a => model.priorityOf a.taskId * options.objective.priorityWeight).sum,
      -makespan schedule))

end Specification

theorem foldl_max_le_iff {α : Type} (value : α → Int) (xs : List α) (first bound : Int) :
    xs.foldl (fun running x => max running (value x)) first ≤ bound ↔
      first ≤ bound ∧ ∀ x ∈ xs, value x ≤ bound := by
  induction xs generalizing first with
  | nil => simp
  | cons x rest ih =>
    rw [List.foldl_cons, ih, max_le_iff, List.forall_mem_cons, and_assoc]

section Lemmas

variable {model : OptimizationModel}

theorem find_task (h : model.UniqueIds) {task : OptimizerTask} (htask : task ∈ model.tasks) :
    (model.tasks.find? fun other => other.id = task.id) = some task :=
  (KeyedRows.get?_eq_some_iff ⟨model.tasks, h.tasks⟩ task.id task).mpr ⟨htask, rfl⟩

theorem demandOf_task (h : model.UniqueIds) {task : OptimizerTask} (htask : task ∈ model.tasks) :
    model.demandOf task.id = task.demand := by
  rw [OptimizationModel.demandOf, find_task h htask]
  rfl

theorem priorityOf_task (h : model.UniqueIds) {task : OptimizerTask} (htask : task ∈ model.tasks) :
    model.priorityOf task.id = task.priority := by
  rw [OptimizationModel.priorityOf, find_task h htask]
  rfl

theorem runBy_append (actorId : ActorId) (schedule : List OptimizedAssignment)
    (a : OptimizedAssignment) :
    runBy actorId (schedule ++ [a]) = runBy actorId schedule ++
      if a.actorId = actorId then [a] else [] := by
  simp only [runBy, List.filter_append, List.filter_cons, List.filter_nil, decide_eq_true_eq]

theorem FeasibleSchedule.nil : FeasibleSchedule model [] where
  unique := List.nodup_nil
  fits := by simp
  dependencies := by simp
  capacity := by
    intro actor _ a ha
    exact absurd ha (by simp [runBy])

/-- A new assignment that fits by itself, comes after its dependencies and leaves room at each
of its instants keeps a schedule feasible. -/
theorem FeasibleSchedule.append (hunique : model.UniqueIds) {schedule : List OptimizedAssignment}
    {a : OptimizedAssignment} {task : OptimizerTask} {actor : OptimizerActor}
    (h : FeasibleSchedule model schedule) (hnew : ∀ b ∈ schedule, b.taskId ≠ a.taskId)
    (htask : task ∈ model.tasks) (hactor : actor ∈ model.actors) (htaskId : task.id = a.taskId)
    (hactorId : actor.id = a.actorId) (hfits : Fits task actor a)
    (hdependencies : ∀ dep ∈ task.dependencyTaskIds, ∃ b ∈ schedule, b.taskId = dep ∧
      b.endTime ≤ a.startTime)
    (hroom : ∀ instant, (occupied model).Covers a instant →
      (occupied model).load (runBy actor.id schedule) instant + task.demand ≤ actor.capacity) :
    FeasibleSchedule model (schedule ++ [a]) := by
  have hsub : ∀ b ∈ schedule, b ∈ schedule ++ [a] := fun b hb => List.mem_append_left _ hb
  constructor
  · rw [List.map_append, List.nodup_append]
    refine ⟨h.unique, by simp, ?_⟩
    intro id hid other hother heq
    obtain ⟨b, hb, rfl⟩ := List.mem_map.mp hid
    exact hnew b hb (by simpa [heq] using hother)
  · intro b hb
    rcases List.mem_append.mp hb with hb | hb
    · exact h.fits b hb
    · obtain rfl := List.mem_singleton.mp hb
      exact ⟨task, htask, actor, hactor, htaskId, hactorId, hfits⟩
  · intro b hb other hother hid dep hdep
    rcases List.mem_append.mp hb with hb | hb
    · obtain ⟨c, hc, hdone⟩ := h.dependencies b hb other hother hid dep hdep
      exact ⟨c, hsub c hc, hdone⟩
    · obtain rfl := List.mem_singleton.mp hb
      obtain rfl := hunique.task_eq hother htask (hid.trans htaskId.symm)
      obtain ⟨c, hc, hdone⟩ := hdependencies dep hdep
      exact ⟨c, hsub c hc, hdone⟩
  · intro other hother
    rw [runBy_append]
    split_ifs with hid
    · obtain rfl := hunique.actor_eq hactor hother (hactorId.trans hid)
      refine (h.capacity actor hactor).append fun instant hcovers => ?_
      have hdemand : (occupied model).weight a = task.demand := by
        change model.demandOf a.taskId = task.demand
        rw [← htaskId, demandOf_task hunique htask]
      rw [hdemand, zero_add]
      exact hroom instant hcovers
    · rw [List.append_nil]
      exact h.capacity other hother

theorem FeasibleSchedule.perm {schedule other : List OptimizedAssignment}
    (h : FeasibleSchedule model schedule) (hperm : schedule.Perm other) :
    FeasibleSchedule model other where
  unique := (hperm.map _).nodup_iff.mp h.unique
  fits := fun a ha => h.fits a (hperm.mem_iff.mpr ha)
  dependencies := by
    intro a ha task htask hid dep hdep
    obtain ⟨b, hb, hdone⟩ := h.dependencies a (hperm.mem_iff.mpr ha) task htask hid dep hdep
    exact ⟨b, hperm.mem_iff.mp hb, hdone⟩
  capacity := fun actor hactor => (h.capacity actor hactor).perm (hperm.filter _)

theorem FeasibleSchedule.partitions (hunique : model.UniqueIds)
    {schedule : List OptimizedAssignment} (h : FeasibleSchedule model schedule)
    {scheduled : List TaskId} (hscheduled : ∀ id, id ∈ scheduled ↔ ∃ a ∈ schedule, a.taskId = id) :
    (schedule.map OptimizedAssignment.taskId ++
      (model.tasks.filter fun task => task.id ∉ scheduled).map OptimizerTask.id).Perm
        (model.tasks.map OptimizerTask.id) := by
  have hothers :
      ((model.tasks.filter fun task => task.id ∉ scheduled).map OptimizerTask.id).Nodup :=
    hunique.tasks.sublist (List.filter_sublist.map _)
  rw [List.perm_ext_iff_of_nodup _ hunique.tasks]
  · intro id
    rw [List.mem_append, List.mem_map, ← hscheduled]
    constructor
    · rintro (hin | hother)
      · obtain ⟨a, ha, rfl⟩ := (hscheduled id).mp hin
        obtain ⟨task, htask, -, -, hid, -⟩ := h.fits a ha
        exact hid ▸ List.mem_map_of_mem htask
      · obtain ⟨task, htask, rfl⟩ := List.mem_map.mp hother
        exact List.mem_map_of_mem (List.mem_filter.mp htask).1
    · intro hid
      obtain ⟨task, htask, rfl⟩ := List.mem_map.mp hid
      by_cases hin : task.id ∈ scheduled
      · exact Or.inl hin
      · exact Or.inr (List.mem_map_of_mem (List.mem_filter.mpr ⟨htask, by simpa using hin⟩))
  · rw [List.nodup_append]
    refine ⟨h.unique, hothers, ?_⟩
    intro id hid other hother heq
    obtain ⟨a, ha, rfl⟩ := List.mem_map.mp hid
    obtain ⟨task, htask, rfl⟩ := List.mem_map.mp hother
    have hnot : task.id ∉ scheduled := by simpa using (List.mem_filter.mp htask).2
    exact hnot ((hscheduled task.id).mpr ⟨a, ha, heq⟩)

theorem FeasibleSchedule.assignsAll {schedule : List OptimizedAssignment}
    (h : FeasibleSchedule model schedule) (hlength : model.tasks.length ≤ schedule.length) :
    ∀ task ∈ model.tasks, ∃ a ∈ schedule, a.taskId = task.id := by
  have hsub : schedule.map OptimizedAssignment.taskId ⊆ model.tasks.map OptimizerTask.id := by
    intro id hid
    obtain ⟨a, ha, rfl⟩ := List.mem_map.mp hid
    obtain ⟨task, htask, -, -, heq, -⟩ := h.fits a ha
    exact heq ▸ List.mem_map_of_mem htask
  have hperm := (List.subperm_of_subset h.unique hsub).perm_of_length_le (by simpa using hlength)
  intro task htask
  exact List.mem_map.mp (hperm.mem_iff.mpr (List.mem_map_of_mem htask))

end Lemmas

end TaskOrchestrator.Optimizer
