import TaskOrchestrator.Core.Workflow

/-!
# The optimization model

The request that every optimizer backend solves, its options and the answer. As for the
runtime scheduler, times, demands and weights are unbounded integers and a `double` is the
rational number it denotes.
-/

namespace TaskOrchestrator.Optimizer

open Library TaskOrchestrator.Core

set_option autoImplicit false

structure OptimizerActor where
  id : ActorId
  type : String := ""
  capacity : Int := 1
  availabilityWindows : List AvailabilityWindow := []
  capabilities : List String := []
  executionCostPerUnit : Rat := 0
  deriving DecidableEq

structure OptimizerTask where
  id : TaskId
  duration : Duration := 0
  releaseTime : Time := 0
  latestStartTime : Option Time := none
  deadline : Option Time := none
  priority : Priority := 0
  demand : Int := 1
  mandatory : Bool := true
  preemptible : Bool := false
  allowedActorTypes : List String := []
  allowedActorIds : List ActorId := []
  preferredActorIds : List ActorId := []
  requiredCapabilities : List String := []
  dependencyTaskIds : List TaskId := []
  mutuallyExclusiveTaskIds : List TaskId := []
  actorDistances : Dictionary ActorId Time := .empty
  tardinessCostPerUnit : Rat := 0
  earlyStartBonus : Rat := 0

structure OptimizationModel where
  id : WorkflowId := ""
  actors : List OptimizerActor := []
  tasks : List OptimizerTask := []

structure OptimizedAssignment where
  taskId : TaskId
  actorId : ActorId
  startTime : Time := 0
  endTime : Time := 0
  deriving DecidableEq

structure OptimizationStats where
  searchNodes : Nat := 0
  prunedNodes : Nat := 0
  deriving DecidableEq

structure OptimizationSolution where
  ok : Bool := true
  assignments : List OptimizedAssignment := []
  unfulfilledTaskIds : List TaskId := []
  backendName : String := ""
  stats : OptimizationStats := {}
  errorMessage : String := ""
  deriving DecidableEq

def kDefaultFulfilledTaskWeight : Int := 1000000
def kDefaultPriorityWeight : Int := 1000
def kDefaultMakespanWeight : Int := -1
def kDefaultTravelDistanceWeight : Int := -1
def kDefaultTardinessWeight : Int := -100
def kDefaultExecutionCostWeight : Int := -1
def kDefaultPreferredActorWeight : Int := 10

structure ObjectiveWeights where
  fulfilledTaskWeight : Int := kDefaultFulfilledTaskWeight
  priorityWeight : Int := kDefaultPriorityWeight
  makespanWeight : Int := kDefaultMakespanWeight
  travelDistanceWeight : Int := kDefaultTravelDistanceWeight
  tardinessWeight : Int := kDefaultTardinessWeight
  executionCostWeight : Int := kDefaultExecutionCostWeight
  preferredActorWeight : Int := kDefaultPreferredActorWeight

structure OptimizationOptions where
  allowPartialPlan : Bool := true
  objective : ObjectiveWeights := {}

def taskCapabilitiesSupported (task : OptimizerTask) (actor : OptimizerActor) : Bool :=
  task.requiredCapabilities.all fun capability => capability ∈ actor.capabilities

structure OptimizationModel.UniqueIds (model : OptimizationModel) : Prop where
  tasks : (model.tasks.map OptimizerTask.id).Nodup
  actors : (model.actors.map OptimizerActor.id).Nodup

namespace OptimizationModel.UniqueIds

variable {model : OptimizationModel}

theorem task_eq (h : model.UniqueIds) {task other : OptimizerTask} (htask : task ∈ model.tasks)
    (hother : other ∈ model.tasks) (hid : task.id = other.id) : task = other :=
  List.inj_on_of_nodup_map h.tasks htask hother hid

theorem actor_eq (h : model.UniqueIds) {actor other : OptimizerActor}
    (hactor : actor ∈ model.actors) (hother : other ∈ model.actors) (hid : actor.id = other.id) :
    actor = other :=
  List.inj_on_of_nodup_map h.actors hactor hother hid

end OptimizationModel.UniqueIds

end TaskOrchestrator.Optimizer
