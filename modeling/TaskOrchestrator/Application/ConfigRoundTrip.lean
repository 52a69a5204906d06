import TaskOrchestrator.Application.Runner

/-!
# Configurations over the API

A configuration is written into protocol messages by the runner and read back by the runtime
service. The writer gives every optional field a value, so that the defaults of the reader are not
asked for. The distances of a task are a map; they stand in the order in which the map is iterated.
-/

namespace TaskOrchestrator.App

open Library

set_option autoImplicit false

/-- The values are ones of the fields' types: a `Priority` has 32 bits and a map has one value for
a key. -/
structure TaskConfig.Representable (task : TaskConfig) : Prop where
  priority : -2 ^ 31 ≤ task.priority ∧ task.priority < 2 ^ 31
  distances : (task.actorDistances.map Prod.fst).Nodup

theorem toAppWindow_toProtoWindow (window : AvailabilityWindowConfig) :
    toAppWindow (toProtoWindow window) = window := rfl

theorem toAppActor_toProtoActor (actor : ActorConfig) :
    toAppActor (toProtoActor actor) = actor := by
  have hwindows : (actor.windows.map toProtoWindow).map toAppWindow = actor.windows := by
    rw [List.map_map]
    exact (List.map_congr_left fun window _ => toAppWindow_toProtoWindow window).trans
      (List.map_id _)
  rw [toAppActor, toProtoActor, hwindows]
  rfl

theorem toAppTask_toProtoTask {task : TaskConfig} (h : task.Representable) :
    toAppTask (toProtoTask task) = task := by
  have hdistances : (task.actorDistances.map fun entry =>
      ({ actorId := entry.1, distance := entry.2 } : Protocol.ActorDistance)).foldl
        (fun m d => emplace m d.actorId d.distance) [] = task.actorDistances := by
    rw [List.foldl_map]
    exact foldl_emplace_self h.distances
  rw [toAppTask, toProtoTask, hdistances, toPriority_eq_self h.priority.1 h.priority.2]
  rfl

theorem toAppObjective_toProtoObjective (objective : ObjectiveConfig) :
    toAppObjective (toProtoObjective objective) = objective := rfl

theorem toAppWorkflow_toProtoWorkflow {workflow : WorkflowConfig}
    (htasks : ∀ task ∈ workflow.tasks, task.Representable)
    (hworkers : 1 ≤ workflow.optimization.numSearchWorkers) :
    toAppWorkflow (toProtoWorkflow workflow) = workflow := by
  have hactors : (workflow.actors.map toProtoActor).map toAppActor = workflow.actors := by
    rw [List.map_map]
    exact List.map_id'' toAppActor_toProtoActor _
  have htasksBack : (workflow.tasks.map toProtoTask).map toAppTask = workflow.tasks := by
    rw [List.map_map]
    exact (List.map_congr_left fun task htask => toAppTask_toProtoTask (htasks task htask)).trans
      (List.map_id _)
  have hback : max 1 workflow.optimization.numSearchWorkers =
      workflow.optimization.numSearchWorkers :=
    max_eq_right hworkers
  rw [toAppWorkflow, toProtoWorkflow, hactors, htasksBack]
  simp only [Option.map_some, Option.getD_some, toAppOptimization,
    toAppObjective_toProtoObjective, hback]

theorem nodup_emplace {distances : List (ActorId × Time)} (h : (distances.map Prod.fst).Nodup)
    (actorId : ActorId) (distance : Time) :
    ((emplace distances actorId distance).map Prod.fst).Nodup := by
  unfold emplace
  split_ifs with hmem
  · exact h
  · rw [List.map_append]
    exact List.Nodup.append h (List.nodup_singleton _) (by simpa using hmem)

theorem nodup_foldl_emplace (entries : List Protocol.ActorDistance)
    {distances : List (ActorId × Time)} (h : (distances.map Prod.fst).Nodup) :
    ((entries.foldl (fun m d => emplace m d.actorId d.distance) distances).map Prod.fst).Nodup := by
  induction entries generalizing distances with
  | nil => exact h
  | cons entry rest ih => exact ih (nodup_emplace h entry.actorId entry.distance)

theorem toAppTask_representable (task : Protocol.TaskConfig) : (toAppTask task).Representable where
  priority := by
    have hbounds : 0 < 2 ^ 32 := by decide
    constructor
    · exact Int.le_bmod hbounds
    · exact Int.bmod_lt hbounds
  distances := nodup_foldl_emplace task.actorDistances List.nodup_nil

theorem one_le_numSearchWorkers (workflow : Protocol.WorkflowConfig) :
    1 ≤ (toAppWorkflow workflow).optimization.numSearchWorkers := by
  unfold toAppWorkflow
  cases workflow.optimization with
  | none => exact le_refl _
  | some optimization =>
    simp only [Option.map_some, Option.getD_some, toAppOptimization]
    cases optimization.numSearchWorkers with
    | none => exact le_refl _
    | some workers => exact le_max_left 1 workers

/-- Writing a configuration into messages and reading it back gives the configuration, and what is
read from any message is a configuration that comes back. -/
theorem config_roundTrip (workflow : WorkflowConfig) (message : Protocol.WorkflowConfig)
    (htasks : ∀ task ∈ workflow.tasks, task.Representable)
    (hworkers : 1 ≤ workflow.optimization.numSearchWorkers) :
    toAppWorkflow (toProtoWorkflow workflow) = workflow ∧
      toAppWorkflow (toProtoWorkflow (toAppWorkflow message)) = toAppWorkflow message := by
  refine ⟨toAppWorkflow_toProtoWorkflow htasks hworkers, ?_⟩
  apply toAppWorkflow_toProtoWorkflow ?_ (one_le_numSearchWorkers message)
  intro task htask
  obtain ⟨given, -, rfl⟩ := List.mem_map.mp htask
  exact toAppTask_representable given

def phasedWorkflow : WorkflowConfig where
  id := "w"
  optimization := { backend := "indexed_exact", numSearchWorkers := 4 }
  actors := [{ id := "x", type := "robot", capacity := 2, windows := [{ start := 0, stop := 10 }] }]
  tasks :=
    [{ id := "a", duration := 5, priority := -7, mandatory := false,
       actorDistances := [("x", 3), ("y", 4)],
       phaseDurations := [2, 3] }]

theorem phasedWorkflow_roundTrip :
    toAppWorkflow (toProtoWorkflow phasedWorkflow) = phasedWorkflow ∧
      toAppWorkflow (toProtoWorkflow (toAppWorkflow {})) = toAppWorkflow {} := by
  apply config_roundTrip phasedWorkflow {} _ (by decide)
  intro task htask
  obtain rfl := List.mem_singleton.mp htask
  exact ⟨by decide, by decide⟩

end TaskOrchestrator.App
