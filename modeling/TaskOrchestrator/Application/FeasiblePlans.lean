import TaskOrchestrator.Application.Overrides
import TaskOrchestrator.Application.Runner

/-!
# Plans of the runner

A response of the runtime service that carries a plan is a feasible schedule of the model that the
runner makes of the configuration, end times included. Overrides and the operator's edits keep the
ids of a configuration unique, so that a plan after any number of them is one as well.
-/

namespace TaskOrchestrator.App

open Library Optimizer
open Protocol (ReorchestrateRequest TaskStateOverride ActorStateOverride)

set_option autoImplicit false

def WorkflowConfig.UniqueIds (config : WorkflowConfig) : Prop :=
  (config.tasks.map TaskConfig.id).Nodup ∧ (config.actors.map ActorConfig.id).Nodup

theorem uniqueIds_toModel {config : WorkflowConfig} (h : config.UniqueIds) :
    (toModel config).UniqueIds where
  tasks := by
    have htasks : (toModel config).tasks.map OptimizerTask.id = config.tasks.map TaskConfig.id := by
      rw [toModel, List.map_map]
      rfl
    rw [htasks]
    exact h.1
  actors := by
    have hactors : (toModel config).actors.map OptimizerActor.id =
        config.actors.map ActorConfig.id := by
      rw [toModel, List.map_map]
      rfl
    rw [hactors]
    exact h.2

theorem map_id_overrideActors (override : ActorStateOverride) (actors : List ActorConfig) :
    (overrideActors override actors).map ActorConfig.id = actors.map ActorConfig.id :=
  map_updateFirst_same (overrideActor_id override) actors

theorem uniqueIds_applyOverrides (request : ReorchestrateRequest) {config : WorkflowConfig}
    (h : config.UniqueIds) :
    (applyOverrides request config).UniqueIds := by
  unfold applyOverrides
  rw [foldl_applyTaskOverride, foldl_applyActorOverride]
  constructor
  · have htasks : ∀ (overrides : List TaskStateOverride) (tasks : List TaskConfig),
        ((overrides.foldl (fun tasks override => overrideTasks override tasks) tasks).map
          TaskConfig.id).Sublist (tasks.map TaskConfig.id) := by
      intro overrides
      induction overrides with
      | nil => exact fun tasks => List.Sublist.refl _
      | cons override rest ih =>
        exact fun tasks => (ih _).trans (map_id_overrideTasks override tasks)
    exact h.1.sublist (htasks request.taskOverrides config.tasks)
  · have hactors : ∀ (overrides : List ActorStateOverride) (actors : List ActorConfig),
        (overrides.foldl (fun actors override => overrideActors override actors) actors).map
          ActorConfig.id =
          actors.map ActorConfig.id := by
      intro overrides
      induction overrides with
      | nil => exact fun actors => rfl
      | cons override rest ih =>
        exact fun actors => (ih _).trans (map_id_overrideActors override actors)
    rw [hactors]
    exact h.2

/-- Every plan that a linked backend returns for a model with unique ids is a feasible schedule. -/
def FeasibleBackends (entries : List BackendEntry) : Prop :=
  ∀ entry ∈ entries, ∀ backend, entry.factory = some backend → ∀ model options, model.UniqueIds →
    (backend model (ConstraintIndex.build model) options).ok = true →
    FeasibleSchedule model (backend model (ConstraintIndex.build model) options).assignments

theorem indexedExact_feasible : FeasibleBackends [indexedExactEntry] := by
  intro entry hentry backend hfactory model options hunique hok
  obtain rfl := List.mem_singleton.mp hentry
  obtain rfl := Option.some.inj hfactory
  obtain ⟨state, hstate, hassignments, -⟩ := solve_state hunique hok
  rw [hassignments]
  exact hstate.feasible

theorem optimize_feasible {entries : List BackendEntry} (hentries : FeasibleBackends entries)
    {kind : BackendKind} {options : OptimizationOptions} {model : OptimizationModel}
    (hunique : model.UniqueIds) (hok : (Optimizer.optimize entries kind options model).ok = true) :
    FeasibleSchedule model (Optimizer.optimize entries kind options model).assignments := by
  unfold Optimizer.optimize at hok ⊢
  split
  · rename_i backend hcreated
    rw [hcreated] at hok
    obtain ⟨entry, hentry, hfactory⟩ := createBackend_mem hcreated
    exact hentries entry hentry backend hfactory model options hunique hok
  · rename_i message hcreated
    rw [hcreated] at hok
    exact absurd hok Bool.false_ne_true

def fromProtoAssignment (assignment : Protocol.Assignment) : OptimizedAssignment where
  taskId := assignment.taskId
  actorId := assignment.actorId
  startTime := assignment.startTime
  endTime := assignment.endTime

/-- The assignments are a feasible schedule of what the configuration asks for. -/
def FeasiblePlan (config : WorkflowConfig) (assignments : List Protocol.Assignment) : Prop :=
  FeasibleSchedule (toModel config) (assignments.map fromProtoAssignment)

theorem taskDurationForId_eq {config : WorkflowConfig} (h : config.UniqueIds) {task : TaskConfig}
    (htask : task ∈ config.tasks) : taskDurationForId config task.id = task.duration := by
  have hfind : (config.tasks.find? fun other => other.id = task.id) = some task :=
    (KeyedRows.get?_eq_some_iff ⟨config.tasks, h.1⟩ task.id task).mpr ⟨htask, rfl⟩
  rw [taskDurationForId, hfind]
  rfl

/-- A response with a plan has the assignments of the backend, in another order and with the end
times that the durations give. -/
theorem response_feasible {entries : List BackendEntry} (hentries : FeasibleBackends entries)
    {config : WorkflowConfig} (hunique : config.UniqueIds)
    (hok : (optimize entries config).ok = true) :
    FeasiblePlan config
    (makeRuntimeResponse (optimize entries config) config).result.assignments := by
  let solution := Optimizer.optimize entries (backendKindFromString config.optimization.backend)
    (toOptions config.optimization) (toModel config)
  have hfeasible : FeasibleSchedule (toModel config) solution.assignments :=
    optimize_feasible hentries (uniqueIds_toModel hunique) hok
  have hsame : ∀ a ∈ solution.assignments,
      fromProtoAssignment (toProtoAssignment config (toAssignment a)) = a := by
    intro a ha
    obtain ⟨modelTask, hmodelTask, actor, -, hid, -, hfits⟩ := hfeasible.fits a ha
    obtain ⟨task, htask, rfl⟩ := List.mem_map.mp hmodelTask
    have hid' : task.id = a.taskId := hid
    have hends : a.endTime = a.startTime + task.duration := hfits.ends
    have hduration : taskDurationForId config a.taskId = task.duration := by
      rw [← hid', taskDurationForId_eq hunique htask]
    simp only [fromProtoAssignment, toProtoAssignment, toAssignment, hduration, ← hends]
  have hperm : (((Core.sortBy assignmentLess (solution.assignments.map toAssignment)).map
      (toProtoAssignment config)).map fromProtoAssignment).Perm solution.assignments := by
    refine (((Core.perm_sortBy _ _).map _).map _).trans ?_
    have hid : solution.assignments.map
        ((fromProtoAssignment ∘ toProtoAssignment config) ∘ toAssignment) =
        solution.assignments.map id := List.map_congr_left hsame
    rw [List.map_map, List.map_map, hid, List.map_id]
  exact hfeasible.perm hperm.symm

end TaskOrchestrator.App
