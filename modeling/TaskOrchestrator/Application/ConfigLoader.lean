import TaskOrchestrator.Application.Config

/-!
# The YAML loader

The workflow part of the configuration loader, over the nodes that yaml-cpp makes of a document.
Reading a document and converting scalars are yaml-cpp's and are parameters. `none` is an
exception of yaml-cpp, on which the loader returns an empty configuration.
-/

namespace TaskOrchestrator.App

set_option autoImplicit false

inductive YamlNode where
  | null
  | scalar (text : String)
  | sequence (items : List YamlNode)
  | map (entries : List (String × YamlNode))

/-- What the loader uses of yaml-cpp besides the nodes. -/
structure YamlCpp where
  load : String → Option YamlNode
  asInt64 : String → Option Int
  asInt32 : String → Option Int
  asDouble : String → Option Rat
  asBool : String → Option Bool

namespace YamlNode

/-- `node[key]`, where the inner `none` is an undefined node. -/
def get (node : YamlNode) (key : String) : Option (Option YamlNode) :=
  match node with
  | .map entries => some ((entries.find? fun entry => entry.1 = key).map Prod.snd)
  | .scalar _ => none
  | .null => some none
  | .sequence _ => some none

def asString : YamlNode → Option String
  | .scalar text => some text
  | .null => some "null"
  | _ => none

def as {α : Type} (convert : String → Option α) : YamlNode → Option α
  | .scalar text => convert text
  | _ => none

def fieldOr {α : Type} (node : YamlNode) (key : String) (convert : YamlNode → Option α)
    (default : α) : Option α :=
  (node.get key).bind fun
    | none => some default
    | some child => convert child

def isMap : YamlNode → Bool
  | .map _ => true
  | _ => false

/-- `append_transformed_sequence` to an empty list. -/
def sequenceField {α : Type} (node : YamlNode) (key : String) (transform : YamlNode → Option α) :
    Option (List α) :=
  (node.get key).bind fun
    | some (.sequence items) => items.mapM transform
    | _ => some []

end YamlNode

def kDefaultWorkflowId : String := "workflow"
def kDefaultAvailabilityWindowStart : Time := 0
def kDefaultAvailabilityWindowEnd : Time := 1000000
def kDefaultDeadlineSlack : Time := 1000

section Loader

variable (yaml : YamlCpp)

def parseActorDistance (distances : List (ActorId × Time)) (entry : String × YamlNode) :
    Option (List (ActorId × Time)) :=
  (entry.2.as yaml.asInt64).map fun distance => emplace distances entry.1 distance

def actorDistanceOverrides (taskNode : YamlNode) : Option (List (ActorId × Time)) :=
  (taskNode.get "actor_distances").bind fun
    | some (.map entries) => entries.foldlM (parseActorDistance yaml) []
    | _ => some []

def parseAvailabilityWindow (windowNode : YamlNode) : Option AvailabilityWindowConfig := do
  let start ← windowNode.fieldOr "start" (·.as yaml.asInt64) 0
  let stop ← windowNode.fieldOr "end" (·.as yaml.asInt64) 0
  pure { start := start, stop := stop }

def parseObjective (objective : YamlNode) : Option ObjectiveConfig := do
  let defaults : ObjectiveConfig := {}
  let fulfilledTaskWeight ← objective.fieldOr "fulfilled_task_weight"
    (·.as yaml.asInt64) defaults.fulfilledTaskWeight
  let priorityWeight ← objective.fieldOr "priority_weight"
    (·.as yaml.asInt64) defaults.priorityWeight
  let makespanWeight ← objective.fieldOr "makespan_weight"
    (·.as yaml.asInt64) defaults.makespanWeight
  let travelDistanceWeight ← objective.fieldOr "travel_distance_weight" (·.as yaml.asInt64)
    defaults.travelDistanceWeight
  let tardinessWeight ← objective.fieldOr "tardiness_weight"
    (·.as yaml.asInt64) defaults.tardinessWeight
  let executionCostWeight ← objective.fieldOr "execution_cost_weight"
    (·.as yaml.asInt64) defaults.executionCostWeight
  let preferredActorWeight ← objective.fieldOr "preferred_actor_weight" (·.as yaml.asInt64)
    defaults.preferredActorWeight
  pure
    { fulfilledTaskWeight := fulfilledTaskWeight
      priorityWeight := priorityWeight
      makespanWeight := makespanWeight
      travelDistanceWeight := travelDistanceWeight
      tardinessWeight := tardinessWeight
      executionCostWeight := executionCostWeight
      preferredActorWeight := preferredActorWeight }

def parseOptimization (optimization : YamlNode) : Option OptimizationConfig := do
  let defaults : OptimizationConfig := {}
  let backend ← optimization.fieldOr "backend" YamlNode.asString defaults.backend
  let timeLimitMs ← optimization.fieldOr "time_limit_ms" (·.as yaml.asInt64) defaults.timeLimitMs
  let relativeGapLimit ← optimization.fieldOr "relative_gap_limit"
    (·.as yaml.asDouble) defaults.relativeGapLimit
  let numSearchWorkers ← optimization.fieldOr "num_search_workers"
    (·.as yaml.asInt32) defaults.numSearchWorkers
  let allowPartialPlan ← optimization.fieldOr "allow_partial_plan"
    (·.as yaml.asBool) defaults.allowPartialPlan
  let objective ← optimization.fieldOr "objective"
    (fun node => if node.isMap then parseObjective yaml node else some defaults.objective)
      defaults.objective
  pure
    { backend := backend
      timeLimitMs := timeLimitMs
      relativeGapLimit := relativeGapLimit
      numSearchWorkers := numSearchWorkers
      allowPartialPlan := allowPartialPlan
      objective := objective }

def defaultWindows (windows : List AvailabilityWindowConfig) : List AvailabilityWindowConfig :=
  if windows = []
    then [{ start := kDefaultAvailabilityWindowStart, stop := kDefaultAvailabilityWindowEnd }]
    else windows

def parseActorNode (actorNode : YamlNode) : Option ActorConfig := do
  let id ← actorNode.fieldOr "id" YamlNode.asString ""
  let type ← actorNode.fieldOr "type" YamlNode.asString ""
  let capacity ← actorNode.fieldOr "capacity" (·.as yaml.asInt32) 1
  let capabilities ← actorNode.sequenceField "capabilities" YamlNode.asString
  let executionCostPerUnit ← actorNode.fieldOr "execution_cost_per_unit" (·.as yaml.asDouble) 0
  let windows ← actorNode.sequenceField "windows" (parseAvailabilityWindow yaml)
  pure
    { id := id
      type := type
      capacity := capacity
      windows := defaultWindows windows
      capabilities := capabilities
      executionCostPerUnit := executionCostPerUnit }

/-- A task for which no deadline is given gets one: its release and duration and the slack. -/
def defaultDeadline (task : TaskConfig) : TaskConfig :=
  if task.deadline = 0
    then { task with deadline := task.requestedTime + task.duration + kDefaultDeadlineSlack }
    else task

def parseTaskNode (taskNode : YamlNode) : Option TaskConfig := do
  let id ← taskNode.fieldOr "id" YamlNode.asString ""
  let requestedTime ← taskNode.fieldOr "requested_time" (·.as yaml.asInt64) 0
  let duration ← taskNode.fieldOr "duration" (·.as yaml.asInt64) 0
  let latestStartTime ← taskNode.fieldOr "latest_start_time" (·.as yaml.asInt64) 0
  let deadline ← taskNode.fieldOr "deadline" (·.as yaml.asInt64) 0
  let priority ← taskNode.fieldOr "priority" (·.as yaml.asInt32) 0
  let demand ← taskNode.fieldOr "demand" (·.as yaml.asInt32) 1
  let mandatory ← taskNode.fieldOr "mandatory" (·.as yaml.asBool) true
  let preemptible ← taskNode.fieldOr "preemptible" (·.as yaml.asBool) false
  let allowedActorTypes ← taskNode.sequenceField "allowed_actor_types" YamlNode.asString
  let allowedActorIds ← taskNode.sequenceField "allowed_actor_ids" YamlNode.asString
  let preferredActorIds ← taskNode.sequenceField "preferred_actor_ids" YamlNode.asString
  let requiredCapabilities ← taskNode.sequenceField "required_capabilities" YamlNode.asString
  let dependencyTaskIds ← taskNode.sequenceField "dependency_task_ids" YamlNode.asString
  let mutuallyExclusiveTaskIds ← taskNode.sequenceField "mutually_exclusive_task_ids"
    YamlNode.asString
  let actorDistances ← actorDistanceOverrides yaml taskNode
  let tardinessCostPerUnit ← taskNode.fieldOr "tardiness_cost_per_unit" (·.as yaml.asDouble) 0
  let earlyStartBonus ← taskNode.fieldOr "early_start_bonus" (·.as yaml.asDouble) 0
  let phaseDurations ← taskNode.sequenceField "phase_durations" (·.as yaml.asInt64)
  pure <| defaultDeadline
    { id := id
      requestedTime := requestedTime
      duration := duration
      latestStartTime := latestStartTime
      deadline := deadline
      priority := priority
      demand := demand
      mandatory := mandatory
      preemptible := preemptible
      allowedActorTypes := allowedActorTypes
      allowedActorIds := allowedActorIds
      preferredActorIds := preferredActorIds
      requiredCapabilities := requiredCapabilities
      dependencyTaskIds := dependencyTaskIds
      mutuallyExclusiveTaskIds := mutuallyExclusiveTaskIds
      actorDistances := actorDistances
      tardinessCostPerUnit := tardinessCostPerUnit
      earlyStartBonus := earlyStartBonus
      phaseDurations := phaseDurations }

def parseWorkflowYaml (root : YamlNode) : Option WorkflowConfig :=
  if root.isMap then do
    let id ← root.fieldOr "id" YamlNode.asString ""
    let optimization ← root.fieldOr "optimization"
      (fun node => if node.isMap then parseOptimization yaml node else some {}) {}
    let actors ← root.sequenceField "actors" (parseActorNode yaml)
    let tasks ← root.sequenceField "tasks" (parseTaskNode yaml)
    pure
      { id := if id = "" then kDefaultWorkflowId else id
        optimization := optimization
        actors := actors
        tasks := tasks }
  else some {}

def findWorkflowNode (root : YamlNode) : Option YamlNode :=
  (root.get "workflow").map fun section? =>
    match section? with
    | some (.map entries) => .map entries
    | _ => root

def loadConfigFromString (content : String) : WorkflowConfig :=
  ((yaml.load content).bind fun root =>
    (findWorkflowNode root).bind (parseWorkflowYaml yaml)).getD {}

end Loader

end TaskOrchestrator.App
