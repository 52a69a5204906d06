import TaskOrchestrator.Application.Config
import TaskOrchestrator.Optimizer.NlpParser
import TaskOrchestrator.Optimizer.Registry

/-!
# From requests to models

The application's configuration is made from the model of a text request, written into protocol
messages, read back by the runtime service, and turned into the model that the optimizer solves.
An absent time is a missing value in the model and a zero in the configuration and the messages.

The rows of a table of distances stand in the order in which they were inserted.
-/

namespace TaskOrchestrator.App

open Library Optimizer

set_option autoImplicit false

namespace Runner

def toAppWindow (window : Core.AvailabilityWindow) : AvailabilityWindowConfig where
  start := window.start
  stop := window.stop

def toAppActor (actor : OptimizerActor) : ActorConfig where
  id := actor.id
  type := actor.type
  capacity := actor.capacity
  windows := actor.availabilityWindows.map toAppWindow
  capabilities := actor.capabilities
  executionCostPerUnit := actor.executionCostPerUnit

def toAppTask (task : OptimizerTask) : TaskConfig where
  id := task.id
  requestedTime := task.releaseTime
  duration := task.duration
  latestStartTime := task.latestStartTime.getD 0
  deadline := task.deadline.getD 0
  priority := task.priority
  demand := task.demand
  mandatory := task.mandatory
  preemptible := task.preemptible
  allowedActorTypes := task.allowedActorTypes
  allowedActorIds := task.allowedActorIds
  preferredActorIds := task.preferredActorIds
  requiredCapabilities := task.requiredCapabilities
  dependencyTaskIds := task.dependencyTaskIds
  mutuallyExclusiveTaskIds := task.mutuallyExclusiveTaskIds
  actorDistances := task.actorDistances.rows
  tardinessCostPerUnit := task.tardinessCostPerUnit
  earlyStartBonus := task.earlyStartBonus

def toAppWorkflow (model : OptimizationModel) : WorkflowConfig where
  id := model.id
  actors := model.actors.map toAppActor
  tasks := model.tasks.map toAppTask

end Runner

def toProtoWindow (window : AvailabilityWindowConfig) : Protocol.AvailabilityWindow where
  start := window.start
  stop := window.stop

def toProtoActor (actor : ActorConfig) : Protocol.ActorConfig where
  id := actor.id
  type := actor.type
  capacity := some actor.capacity
  windows := actor.windows.map toProtoWindow
  capabilities := actor.capabilities
  executionCostPerUnit := some actor.executionCostPerUnit

def toProtoTask (task : TaskConfig) : Protocol.TaskConfig where
  id := task.id
  requestedTime := task.requestedTime
  duration := task.duration
  latestStartTime := task.latestStartTime
  deadline := task.deadline
  priority := task.priority
  demand := some task.demand
  mandatory := some task.mandatory
  preemptible := some task.preemptible
  allowedActorTypes := task.allowedActorTypes
  allowedActorIds := task.allowedActorIds
  preferredActorIds := task.preferredActorIds
  requiredCapabilities := task.requiredCapabilities
  dependencyTaskIds := task.dependencyTaskIds
  mutuallyExclusiveTaskIds := task.mutuallyExclusiveTaskIds
  actorDistances := task.actorDistances.map fun entry => { actorId := entry.1, distance := entry.2 }
  tardinessCostPerUnit := task.tardinessCostPerUnit
  earlyStartBonus := task.earlyStartBonus
  phaseDurations := task.phaseDurations

def toProtoObjective (objective : ObjectiveConfig) : Protocol.ObjectiveConfig where
  fulfilledTaskWeight := some objective.fulfilledTaskWeight
  priorityWeight := some objective.priorityWeight
  makespanWeight := some objective.makespanWeight
  travelDistanceWeight := some objective.travelDistanceWeight
  tardinessWeight := some objective.tardinessWeight
  executionCostWeight := some objective.executionCostWeight
  preferredActorWeight := some objective.preferredActorWeight

def toProtoWorkflow (workflow : WorkflowConfig) : Protocol.WorkflowConfig where
  id := workflow.id
  optimization := some
    { backend := some workflow.optimization.backend
      timeLimitMs := some workflow.optimization.timeLimitMs
      relativeGapLimit := some workflow.optimization.relativeGapLimit
      numSearchWorkers := some workflow.optimization.numSearchWorkers
      allowPartialPlan := some workflow.optimization.allowPartialPlan
      objective := some (toProtoObjective workflow.optimization.objective) }
  actors := workflow.actors.map toProtoActor
  tasks := workflow.tasks.map toProtoTask

def optionalTimeFromConfigValue (configuredTime : Time) : Option Time :=
  if configuredTime > 0 then some configuredTime else none

def toOptimizerActor (actor : ActorConfig) : OptimizerActor where
  id := actor.id
  type := actor.type
  capacity := actor.capacity
  availabilityWindows :=
    actor.windows.map fun window => { start := window.start, stop := window.stop }
  capabilities := actor.capabilities
  executionCostPerUnit := actor.executionCostPerUnit

def toOptimizerTask (task : TaskConfig) : OptimizerTask where
  id := task.id
  duration := task.duration
  releaseTime := task.requestedTime
  latestStartTime := optionalTimeFromConfigValue task.latestStartTime
  deadline := optionalTimeFromConfigValue task.deadline
  priority := task.priority
  demand := task.demand
  mandatory := task.mandatory
  preemptible := task.preemptible
  allowedActorTypes := task.allowedActorTypes
  allowedActorIds := task.allowedActorIds
  preferredActorIds := task.preferredActorIds
  requiredCapabilities := task.requiredCapabilities
  dependencyTaskIds := task.dependencyTaskIds
  mutuallyExclusiveTaskIds := task.mutuallyExclusiveTaskIds
  actorDistances := task.actorDistances.foldl (fun d entry => d.emplace entry.1 entry.2) .empty
  tardinessCostPerUnit := task.tardinessCostPerUnit
  earlyStartBonus := task.earlyStartBonus

def toModel (config : WorkflowConfig) : OptimizationModel where
  id := config.id
  actors := config.actors.map toOptimizerActor
  tasks := config.tasks.map toOptimizerTask

def toObjectiveWeights (objective : ObjectiveConfig) : ObjectiveWeights where
  fulfilledTaskWeight := objective.fulfilledTaskWeight
  priorityWeight := objective.priorityWeight
  makespanWeight := objective.makespanWeight
  travelDistanceWeight := objective.travelDistanceWeight
  tardinessWeight := objective.tardinessWeight
  executionCostWeight := objective.executionCostWeight
  preferredActorWeight := objective.preferredActorWeight

def toOptions (config : OptimizationConfig) : OptimizationOptions where
  allowPartialPlan := config.allowPartialPlan
  objective := toObjectiveWeights config.objective

def toAssignment (optimizedAssignment : OptimizedAssignment) : Assignment where
  taskId := optimizedAssignment.taskId
  actorId := optimizedAssignment.actorId
  startTime := optimizedAssignment.startTime

def assignmentLess (lhs rhs : Assignment) : Bool :=
  ((compareOfLessAndEq lhs.startTime rhs.startTime).then <|
    (compareOfLessAndEq lhs.taskId rhs.taskId).then <|
    compareOfLessAndEq lhs.actorId rhs.actorId) = .lt

def toRunResult (solution : OptimizationSolution) : RunResult where
  ok := solution.ok
  capacityIssue := solution.unfulfilledTaskIds ≠ []
  assignments := Core.sortBy assignmentLess (solution.assignments.map toAssignment)
  unfulfilledTaskIds := solution.unfulfilledTaskIds
  errorMessage := solution.errorMessage

/-- The runner's planning pass, with the backends that are registered. -/
def optimize (entries : List BackendEntry) (config : WorkflowConfig) : RunResult :=
  toRunResult (Optimizer.optimize entries (backendKindFromString config.optimization.backend)
    (toOptions config.optimization) (toModel config))

theorem mem_optimize {entries : List BackendEntry} {config : WorkflowConfig}
    {assignment : Assignment} :
    assignment ∈ (optimize entries config).assignments ↔
      ∃ a ∈ (Optimizer.optimize entries (backendKindFromString config.optimization.backend)
        (toOptions config.optimization) (toModel config)).assignments, toAssignment a =
        assignment :=
  (Core.perm_sortBy _ _).mem_iff.trans List.mem_map

theorem optimize_of_allPlans {P : OptimizationModel → OptimizedAssignment → Prop}
    {entries : List BackendEntry} (h : AllPlans P entries) {config : WorkflowConfig}
    {assignment : Assignment} (hassignment : assignment ∈ (optimize entries config).assignments) :
    ∃ a, P (toModel config) a ∧ toAssignment a = assignment := by
  obtain ⟨a, ha, hsame⟩ := mem_optimize.mp hassignment
  exact ⟨a, h.optimize ha, hsame⟩

/-- The model that the service solves for the model of a text request. -/
def servedModel (model : OptimizationModel) : OptimizationModel :=
  toModel (toAppWorkflow (toProtoWorkflow (Runner.toAppWorkflow model)))

theorem foldl_emplace_self {distances : List (ActorId × Time)}
    (hnodup : (distances.map Prod.fst).Nodup) :
    distances.foldl (fun m entry => emplace m entry.1 entry.2) [] = distances := by
  induction distances using List.reverseRecOn with
  | nil => rfl
  | append_singleton rest entry ih =>
    rw [List.map_append, List.nodup_append] at hnodup
    have hnew : entry.1 ∉ rest.map Prod.fst :=
      fun hmem => hnodup.2.2 entry.1 hmem entry.1 (by simp) rfl
    rw [List.foldl_append, ih hnodup.1, List.foldl_cons, List.foldl_nil, emplace, if_neg hnew]

/-- A table of distances is what its rows make when they are inserted one by one. -/
theorem foldl_emplace_rows (distances : Dictionary ActorId Time) :
    distances.rows.foldl (fun d entry => d.emplace entry.1 entry.2) .empty = distances :=
  KeyedRows.ext (Dictionary.rows_foldl_emplace distances.nodup)

theorem toPriority_eq_self {priority : Int} (hfrom : -2 ^ 31 ≤ priority) (hto : priority < 2 ^ 31) :
    toPriority priority = priority := by
  unfold toPriority
  exact Int.bmod_eq_of_le (by omega) (by omega)

/-- Times that are not positive are lost on the way. -/
theorem optionalTime_eq_self_iff (time : Option Time) :
    optionalTimeFromConfigValue (time.getD 0) = time ↔ ∀ t ∈ time, 0 < t := by
  cases time with
  | none => simp [optionalTimeFromConfigValue]
  | some t =>
    by_cases ht : 0 < t
    · simp [optionalTimeFromConfigValue, ht]
    · simp [optionalTimeFromConfigValue, ht]

theorem servedTask_eq (task : OptimizerTask) :
    toOptimizerTask (toAppTask (toProtoTask (Runner.toAppTask task))) =
      { task with
        latestStartTime := optionalTimeFromConfigValue (task.latestStartTime.getD 0)
        deadline := optionalTimeFromConfigValue (task.deadline.getD 0)
        priority := toPriority task.priority } := by
  have hdistances : (task.actorDistances.rows.map fun entry =>
      ({ actorId := entry.1, distance := entry.2 } : Protocol.ActorDistance)).foldl
        (fun m d => emplace m d.actorId d.distance) [] = task.actorDistances.rows := by
    rw [List.foldl_map]
    exact foldl_emplace_self task.actorDistances.nodup
  simp only [toOptimizerTask, toAppTask, toProtoTask, Runner.toAppTask, Option.getD_some,
    hdistances, foldl_emplace_rows]

theorem servedActor_eq (actor : OptimizerActor) :
    toOptimizerActor (toAppActor (toProtoActor (Runner.toAppActor actor))) = actor := by
  simp [toOptimizerActor, toAppActor, toProtoActor, Runner.toAppActor, toAppWindow, toProtoWindow,
    Runner.toAppWindow, Function.comp_def]

/-- The service solves the model of an accepted text request just when all times given in it are
positive: the configuration has no other way to say that there is none. -/
theorem served_iff_times_positive (stod : List Char → Option Rat) (request : String)
    (model : OptimizationModel) (haccepted : Accepts stod request model) :
    servedModel model = model ↔
      ∀ task ∈ model.tasks, (∀ latest ∈ task.latestStartTime, 0 < latest) ∧
      ∀ deadline ∈ task.deadline, 0 < deadline := by
  have hactors : (model.actors.map fun actor =>
      toOptimizerActor (toAppActor (toProtoActor (Runner.toAppActor actor)))) =
      model.actors := by
    simp [servedActor_eq]
  have hserved : servedModel model = model ↔
      (model.tasks.map fun task =>
        toOptimizerTask (toAppTask (toProtoTask (Runner.toAppTask task)))) = model.tasks := by
    cases model with
    | mk id actors tasks =>
      simp only [servedModel, toModel, toAppWorkflow, toProtoWorkflow, Runner.toAppWorkflow,
        List.map_map, Function.comp_def, OptimizationModel.mk.injEq, true_and] at hactors ⊢
      rw [and_iff_right hactors]
  rw [hserved]
  nth_rewrite 2 [← List.map_id model.tasks]
  rw [List.map_inj_left]
  apply forall₂_congr
  intro task htask
  have hpriority : toPriority task.priority = task.priority := by
    obtain ⟨hfrom, hto⟩ := priorityFits_of_accepts haccepted task htask
    exact toPriority_eq_self hfrom hto
  rw [servedTask_eq, hpriority, ← optionalTime_eq_self_iff, ← optionalTime_eq_self_iff, id_eq]
  cases task
  simp

def oneTaskModel (deadline : Time) : OptimizationModel where
  id := "workflow"
  actors :=
    [{ id := "x", type := "robot", availabilityWindows := [{ start := 0, stop := 1000000 }] }]
  tasks := [{ id := "a", duration := 5, deadline := some deadline }]

theorem served_deadline_twenty :
    Accepts (fun _ => none) "actor x type robot\ntask a duration 5 deadline 20" (oneTaskModel 20) ∧
      servedModel (oneTaskModel 20) = oneTaskModel 20 := by
  have haccepted : Accepts (fun _ => none) "actor x type robot\ntask a duration 5 deadline 20"
      (oneTaskModel 20) := rfl
  exact ⟨haccepted, (served_iff_times_positive _ _ _ haccepted).mpr (by decide)⟩

/-- A deadline of zero, which no schedule can meet, is no deadline for the service. -/
theorem served_loses_deadline_zero :
    Accepts (fun _ => none) "actor x type robot\ntask a duration 5 deadline 0" (oneTaskModel 0) ∧
      servedModel (oneTaskModel 0) ≠ oneTaskModel 0 := by
  refine ⟨rfl, fun hsame => ?_⟩
  have hdeadlines := congrArg (fun model => model.tasks.map OptimizerTask.deadline) hsame
  exact absurd hdeadlines (by decide)

end TaskOrchestrator.App
