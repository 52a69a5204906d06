import TaskOrchestrator.Protocol.Messages

/-!
# Workflow configuration of the application

The application's own workflow configuration and its construction from the protocol
messages. Protocol fields without presence are copied; optional fields fall back to
the member initialisers of the application's structures.
-/

namespace TaskOrchestrator.App

set_option autoImplicit false

structure AvailabilityWindowConfig where
  start : Time := 0
  stop : Time := 0
  deriving DecidableEq

structure ActorConfig where
  id : ActorId := ""
  type : String := ""
  capacity : Int := 1
  windows : List AvailabilityWindowConfig := []
  capabilities : List String := []
  executionCostPerUnit : Rat := 0
  deriving DecidableEq

structure TaskConfig where
  id : TaskId := ""
  requestedTime : Time := 0
  duration : Duration := 0
  latestStartTime : Time := 0
  deadline : Time := 0
  priority : Priority := 0
  demand : Int := 1
  mandatory : Bool := true
  preemptible : Bool := false
  allowedActorTypes : List String := []
  allowedActorIds : List ActorId := []
  preferredActorIds : List ActorId := []
  requiredCapabilities : List String := []
  dependencyTaskIds : List TaskId := []
  mutuallyExclusiveTaskIds : List TaskId := []
  actorDistances : List (ActorId × Time) := []
  tardinessCostPerUnit : Rat := 0
  earlyStartBonus : Rat := 0
  phaseDurations : List Duration := []
  deriving DecidableEq

structure ObjectiveConfig where
  fulfilledTaskWeight : Int := 1000000
  priorityWeight : Int := 1000
  makespanWeight : Int := -1
  travelDistanceWeight : Int := -1
  tardinessWeight : Int := -100
  executionCostWeight : Int := -1
  preferredActorWeight : Int := 10
  deriving DecidableEq

structure OptimizationConfig where
  backend : String := "auto"
  timeLimitMs : Int := 0
  relativeGapLimit : Rat := 0
  numSearchWorkers : Int := 1
  allowPartialPlan : Bool := true
  objective : ObjectiveConfig := {}
  deriving DecidableEq

structure WorkflowConfig where
  id : WorkflowId := ""
  optimization : OptimizationConfig := {}
  actors : List ActorConfig := []
  tasks : List TaskConfig := []
  deriving DecidableEq

structure Assignment where
  taskId : TaskId
  actorId : ActorId
  startTime : Time
  deriving DecidableEq

structure RunResult where
  ok : Bool := true
  capacityIssue : Bool := false
  assignments : List Assignment := []
  unfulfilledTaskIds : List TaskId := []
  errorMessage : String := ""
  deriving DecidableEq

/-- The conversion of an `int64` to the 32-bit `Priority`. -/
def toPriority (value : Int) : Priority := Int.bmod value (2 ^ 32)

/-- `unordered_map::emplace`: a key that is already there keeps its value. -/
def emplace (distances : List (ActorId × Time)) (actorId : ActorId) (distance : Time) :
    List (ActorId × Time) :=
  if actorId ∈ distances.map Prod.fst then distances else distances ++ [(actorId, distance)]

def toAppWindow (window : Protocol.AvailabilityWindow) : AvailabilityWindowConfig where
  start := window.start
  stop := window.stop

def toAppActor (actor : Protocol.ActorConfig) : ActorConfig where
  id := actor.id
  type := actor.type
  capacity := actor.capacity.getD 1
  windows := actor.windows.map toAppWindow
  capabilities := actor.capabilities
  executionCostPerUnit := actor.executionCostPerUnit.getD 0

def toAppTask (task : Protocol.TaskConfig) : TaskConfig where
  id := task.id
  requestedTime := task.requestedTime
  duration := task.duration
  latestStartTime := task.latestStartTime
  deadline := task.deadline
  priority := toPriority task.priority
  demand := task.demand.getD 1
  mandatory := task.mandatory.getD true
  preemptible := task.preemptible.getD false
  allowedActorTypes := task.allowedActorTypes
  allowedActorIds := task.allowedActorIds
  preferredActorIds := task.preferredActorIds
  requiredCapabilities := task.requiredCapabilities
  dependencyTaskIds := task.dependencyTaskIds
  mutuallyExclusiveTaskIds := task.mutuallyExclusiveTaskIds
  actorDistances := task.actorDistances.foldl (fun m d => emplace m d.actorId d.distance) []
  tardinessCostPerUnit := task.tardinessCostPerUnit
  earlyStartBonus := task.earlyStartBonus
  phaseDurations := task.phaseDurations

def toAppObjective (objective : Protocol.ObjectiveConfig) : ObjectiveConfig where
  fulfilledTaskWeight := objective.fulfilledTaskWeight.getD 1000000
  priorityWeight := objective.priorityWeight.getD 1000
  makespanWeight := objective.makespanWeight.getD (-1)
  travelDistanceWeight := objective.travelDistanceWeight.getD (-1)
  tardinessWeight := objective.tardinessWeight.getD (-100)
  executionCostWeight := objective.executionCostWeight.getD (-1)
  preferredActorWeight := objective.preferredActorWeight.getD 10

def toAppOptimization (optimization : Protocol.OptimizationConfig) : OptimizationConfig where
  backend := optimization.backend.getD "auto"
  timeLimitMs := optimization.timeLimitMs.getD 0
  relativeGapLimit := optimization.relativeGapLimit.getD 0
  numSearchWorkers := (optimization.numSearchWorkers.map (max 1)).getD 1
  allowPartialPlan := optimization.allowPartialPlan.getD true
  objective := (optimization.objective.map toAppObjective).getD {}

def toAppWorkflow (workflow : Protocol.WorkflowConfig) : WorkflowConfig where
  id := workflow.id
  optimization := (workflow.optimization.map toAppOptimization).getD {}
  actors := workflow.actors.map toAppActor
  tasks := workflow.tasks.map toAppTask

@[simp] theorem toAppWorkflow_id (workflow : Protocol.WorkflowConfig) :
    (toAppWorkflow workflow).id = workflow.id := rfl

end TaskOrchestrator.App
