import TaskOrchestrator.Application.ConfigLoader
import TaskOrchestrator.Application.Runner

/-!
# Workflow descriptions in two languages

A description lists, for each actor and task, the fields that are given and their values. It is
written in the controlled workflow language and as a YAML document, and it means a model in which
a field that is not given has the default of the optimizer's own structures.
-/

namespace TaskOrchestrator.App

open Library Optimizer

set_option autoImplicit false

/-- A number of one of the cost fields, with the text that denotes it. -/
structure Decimal where
  text : String := "0"
  value : Rat := 0

/-- The values of fields that are not in `given` say nothing. -/
structure ActorDescription where
  id : String
  given : List ActorField
  type : String := ""
  capacity : Int := 1
  windows : List (Int × Int) := []
  capabilities : List String := []
  cost : Decimal := {}

@[inherit_doc ActorDescription]
structure TaskDescription where
  id : String
  given : List TaskField
  duration : Int := 0
  release : Int := 0
  latestStart : Int := 0
  deadline : Int := 0
  priority : Int := 0
  requiresType : List String := []
  allowedActor : List String := []
  preferredActor : List String := []
  dependsOn : List String := []
  distances : List (String × Int) := []
  mandatory : Bool := true
  preemptible : Bool := false
  demand : Int := 1
  requiresCapabilities : List String := []
  mutex : List String := []
  tardinessCost : Decimal := {}
  earlyStartBonus : Decimal := {}

structure WorkflowDescription where
  id : Option String := none
  actors : List ActorDescription
  tasks : List TaskDescription

def ActorDescription.upTo (actor : ActorDescription) (fields : List ActorField) :
    OptimizerActor where
  id := actor.id
  type := if .type ∈ fields then actor.type else ""
  capacity := if .capacity ∈ fields then actor.capacity else 1
  availabilityWindows :=
    if .windows ∈ fields then actor.windows.map fun window =>
      { start := window.1, stop := window.2 } else []
  capabilities := if .capabilities ∈ fields then actor.capabilities else []
  executionCostPerUnit := if .cost ∈ fields then actor.cost.value else 0

def ActorDescription.model (actor : ActorDescription) : OptimizerActor :=
  withDefaultWindow (actor.upTo actor.given)

@[inherit_doc ActorDescription.upTo]
def TaskDescription.upTo (task : TaskDescription) (fields : List TaskField) : OptimizerTask where
  id := task.id
  duration := if .duration ∈ fields then task.duration else 0
  releaseTime := if .release ∈ fields then task.release else 0
  latestStartTime := if .latestStart ∈ fields then some task.latestStart else none
  deadline := if .deadline ∈ fields then some task.deadline else none
  priority := if .priority ∈ fields then task.priority else 0
  demand := if .demand ∈ fields then task.demand else 1
  mandatory := if .mandatory ∈ fields then task.mandatory else true
  preemptible := if .preemptible ∈ fields then task.preemptible else false
  allowedActorTypes := if .requiresType ∈ fields then task.requiresType else []
  allowedActorIds := if .allowedActor ∈ fields then task.allowedActor else []
  preferredActorIds := if .preferredActor ∈ fields then task.preferredActor else []
  requiredCapabilities := if .requiresCapabilities ∈ fields then task.requiresCapabilities else []
  dependencyTaskIds := if .dependsOn ∈ fields then task.dependsOn else []
  mutuallyExclusiveTaskIds := if .mutex ∈ fields then task.mutex else []
  actorDistances :=
    if .distances ∈ fields
      then task.distances.foldl (fun d entry => d.emplace entry.1 entry.2) .empty else .empty
  tardinessCostPerUnit := if .tardinessCost ∈ fields then task.tardinessCost.value else 0
  earlyStartBonus := if .earlyStartBonus ∈ fields then task.earlyStartBonus.value else 0

def TaskDescription.model (task : TaskDescription) : OptimizerTask := task.upTo task.given

def WorkflowDescription.model (workflow : WorkflowDescription) : OptimizationModel where
  id := workflow.id.getD "workflow"
  actors := workflow.actors.map ActorDescription.model
  tasks := workflow.tasks.map TaskDescription.model

def ActorField.name : ActorField → String
  | .type => "type"
  | .capacity => "capacity"
  | .windows => "windows"
  | .capabilities => "capabilities"
  | .cost => "cost"

def TaskField.name : TaskField → String
  | .duration => "duration"
  | .release => "release"
  | .latestStart => "latest_start"
  | .deadline => "deadline"
  | .priority => "priority"
  | .requiresType => "requires_type"
  | .allowedActor => "allowed_actor"
  | .preferredActor => "preferred_actor"
  | .dependsOn => "depends_on"
  | .distances => "distances"
  | .mandatory => "mandatory"
  | .preemptible => "preemptible"
  | .demand => "demand"
  | .requiresCapabilities => "requires_capabilities"
  | .mutex => "mutex"
  | .tardinessCost => "tardiness_cost"
  | .earlyStartBonus => "early_start_bonus"

/-- Items with commas between them. A value cannot be empty, so that no items are one comma. -/
def writeItems (items : List (List Char)) : List Char :=
  if items = [] then [','] else [','].intercalate items

def writeNames (names : List String) : List Char := writeItems (names.map String.toList)

def writeBool (value : Bool) : List Char := if value then "true".toList else "false".toList

def writeWindow (window : Int × Int) : List Char :=
  Text.writeInt window.1 ++ '-' :: Text.writeInt window.2

def writeDistance (entry : String × Int) : List Char :=
  entry.1.toList ++ '=' :: Text.writeInt entry.2

def ActorDescription.word (actor : ActorDescription) : ActorField → List Char
  | .type => actor.type.toList
  | .capacity => Text.writeInt actor.capacity
  | .windows => writeItems (actor.windows.map writeWindow)
  | .capabilities => writeNames actor.capabilities
  | .cost => actor.cost.text.toList

def TaskDescription.word (task : TaskDescription) : TaskField → List Char
  | .duration => Text.writeInt task.duration
  | .release => Text.writeInt task.release
  | .latestStart => Text.writeInt task.latestStart
  | .deadline => Text.writeInt task.deadline
  | .priority => Text.writeInt task.priority
  | .requiresType => writeNames task.requiresType
  | .allowedActor => writeNames task.allowedActor
  | .preferredActor => writeNames task.preferredActor
  | .dependsOn => writeNames task.dependsOn
  | .distances => writeItems (task.distances.map writeDistance)
  | .mandatory => writeBool task.mandatory
  | .preemptible => writeBool task.preemptible
  | .demand => Text.writeInt task.demand
  | .requiresCapabilities => writeNames task.requiresCapabilities
  | .mutex => writeNames task.mutex
  | .tardinessCost => task.tardinessCost.text.toList
  | .earlyStartBonus => task.earlyStartBonus.text.toList

def fieldWords {φ : Type} (name : φ → String) (word : φ → List Char) (given : List φ) :
    List (List Char) :=
  given.flatMap fun field => [(name field).toList, word field]

def declarationLine (keyword id : String) (fields : List (List Char)) : List Char :=
  kLineItemPrefix ++ [' '].intercalate (keyword.toList :: id.toList :: fields)

def ActorDescription.line (actor : ActorDescription) : List Char :=
  declarationLine "actor" actor.id (fieldWords ActorField.name actor.word actor.given)

def TaskDescription.line (task : TaskDescription) : List Char :=
  declarationLine "task" task.id (fieldWords TaskField.name task.word task.given)

def WorkflowDescription.lines (workflow : WorkflowDescription) : List (List Char) :=
  (workflow.id.toList.map fun id => kWorkflowPrefix ++ id.toList) ++
    "actors:".toList :: workflow.actors.map ActorDescription.line ++
    "tasks:".toList :: workflow.tasks.map TaskDescription.line

def WorkflowDescription.textForm (workflow : WorkflowDescription) : String :=
  String.ofList (['\n'].intercalate workflow.lines)

def ActorField.key : ActorField → String
  | .type => "type"
  | .capacity => "capacity"
  | .windows => "windows"
  | .capabilities => "capabilities"
  | .cost => "execution_cost_per_unit"

def TaskField.key : TaskField → String
  | .duration => "duration"
  | .release => "requested_time"
  | .latestStart => "latest_start_time"
  | .deadline => "deadline"
  | .priority => "priority"
  | .requiresType => "allowed_actor_types"
  | .allowedActor => "allowed_actor_ids"
  | .preferredActor => "preferred_actor_ids"
  | .dependsOn => "dependency_task_ids"
  | .distances => "actor_distances"
  | .mandatory => "mandatory"
  | .preemptible => "preemptible"
  | .demand => "demand"
  | .requiresCapabilities => "required_capabilities"
  | .mutex => "mutually_exclusive_task_ids"
  | .tardinessCost => "tardiness_cost_per_unit"
  | .earlyStartBonus => "early_start_bonus"

namespace YamlNode

def ofInt (n : Int) : YamlNode := .scalar (String.ofList (Text.writeInt n))

def ofBool (value : Bool) : YamlNode := .scalar (String.ofList (writeBool value))

def ofNames (names : List String) : YamlNode := .sequence (names.map .scalar)

end YamlNode

def ActorDescription.node (actor : ActorDescription) : ActorField → YamlNode
  | .type => .scalar actor.type
  | .capacity => .ofInt actor.capacity
  | .windows =>
    .sequence (actor.windows.map fun window =>
      .map [("start", .ofInt window.1), ("end", .ofInt window.2)])
  | .capabilities => .ofNames actor.capabilities
  | .cost => .scalar actor.cost.text

def TaskDescription.node (task : TaskDescription) : TaskField → YamlNode
  | .duration => .ofInt task.duration
  | .release => .ofInt task.release
  | .latestStart => .ofInt task.latestStart
  | .deadline => .ofInt task.deadline
  | .priority => .ofInt task.priority
  | .requiresType => .ofNames task.requiresType
  | .allowedActor => .ofNames task.allowedActor
  | .preferredActor => .ofNames task.preferredActor
  | .dependsOn => .ofNames task.dependsOn
  | .distances => .map (task.distances.map fun entry => (entry.1, .ofInt entry.2))
  | .mandatory => .ofBool task.mandatory
  | .preemptible => .ofBool task.preemptible
  | .demand => .ofInt task.demand
  | .requiresCapabilities => .ofNames task.requiresCapabilities
  | .mutex => .ofNames task.mutex
  | .tardinessCost => .scalar task.tardinessCost.text
  | .earlyStartBonus => .scalar task.earlyStartBonus.text

def fieldNodes {φ : Type} (key : φ → String) (node : φ → YamlNode) (id : String)
    (given : List φ) : YamlNode :=
  .map (("id", .scalar id) :: given.map fun field => (key field, node field))

def ActorDescription.yaml (actor : ActorDescription) : YamlNode :=
  fieldNodes ActorField.key actor.node actor.id actor.given

def TaskDescription.yaml (task : TaskDescription) : YamlNode :=
  fieldNodes TaskField.key task.node task.id task.given

def WorkflowDescription.yamlForm (workflow : WorkflowDescription) : YamlNode :=
  .map ((workflow.id.toList.map fun id => ("id", .scalar id)) ++
    [("actors", .sequence (workflow.actors.map ActorDescription.yaml)),
      ("tasks", .sequence (workflow.tasks.map TaskDescription.yaml))])

def IsWord (word : List Char) : Prop := word ≠ [] ∧ ∀ c ∈ word, isSpace c = false

theorem isWord_of_all {word : List Char} (hne : word ≠ [])
    (hall : (word.all fun c => !isSpace c) = true) :
    IsWord word := by
  refine ⟨hne, fun c hc => ?_⟩
  simpa using List.all_eq_true.mp hall c hc

def IsName (name : String) : Prop := IsWord name.toList ∧ ',' ∉ name.toList

/-- The number is one of a signed type with the given number of bits. -/
def Fits (bits : Nat) (n : Int) : Prop := -2 ^ (bits - 1) ≤ n ∧ n < 2 ^ (bits - 1)

def Decimal.Denoted (yaml : YamlCpp) (stod : List Char → Option Rat) (number : Decimal) : Prop :=
  IsWord number.text.toList ∧ stod number.text.toList = some number.value ∧
    yaml.asDouble number.text = some number.value

/-- The dash between the ends of a window is the first one, so that no window starts before zero. -/
def WindowWritable (window : Int × Int) : Prop := 0 ≤ window.1 ∧ Fits 64 window.1 ∧ Fits 64 window.2

structure DistancesWritable (distances : List (String × Int)) : Prop where
  keys : (distances.map Prod.fst).Nodup
  entries : ∀ entry ∈ distances, (∀ c ∈ entry.1.toList, isSpace c = false ∧ c ≠ ',' ∧ c ≠ '=') ∧
    Fits 64 entry.2

section Expressible

variable (yaml : YamlCpp) (stod : List Char → Option Rat)

def ActorDescription.Writable (actor : ActorDescription) : ActorField → Prop
  | .type => IsWord actor.type.toList
  | .capacity => Fits 32 actor.capacity
  | .windows => ∀ window ∈ actor.windows, WindowWritable window
  | .capabilities => ∀ name ∈ actor.capabilities, IsName name
  | .cost => actor.cost.Denoted yaml stod

def TaskDescription.Writable (task : TaskDescription) : TaskField → Prop
  | .duration => Fits 64 task.duration
  | .release => Fits 64 task.release
  | .latestStart => Fits 64 task.latestStart ∧ 0 < task.latestStart
  | .deadline => Fits 64 task.deadline ∧ 0 < task.deadline
  | .priority => Fits 32 task.priority
  | .requiresType => ∀ name ∈ task.requiresType, IsName name
  | .allowedActor => ∀ name ∈ task.allowedActor, IsName name
  | .preferredActor => ∀ name ∈ task.preferredActor, IsName name
  | .dependsOn => ∀ name ∈ task.dependsOn, IsName name
  | .distances => DistancesWritable task.distances
  | .mandatory => True
  | .preemptible => True
  | .demand => Fits 32 task.demand
  | .requiresCapabilities => ∀ name ∈ task.requiresCapabilities, IsName name
  | .mutex => ∀ name ∈ task.mutex, IsName name
  | .tardinessCost => task.tardinessCost.Denoted yaml stod
  | .earlyStartBonus => task.earlyStartBonus.Denoted yaml stod

structure ActorDescription.Expressible (actor : ActorDescription) : Prop where
  id : IsWord actor.id.toList
  type : ActorField.type ∈ actor.given
  fields : ∀ field ∈ actor.given, actor.Writable yaml stod field

structure TaskDescription.Expressible (task : TaskDescription) : Prop where
  id : IsWord task.id.toList
  duration : TaskField.duration ∈ task.given
  fields : ∀ field ∈ task.given, task.Writable yaml stod field

/-- The name of a workflow is the rest of a line, without the blanks around it. -/
structure IsTitle (title : List Char) : Prop where
  nonempty : title ≠ []
  line : '\n' ∉ title
  first : ∀ c ∈ title.head?, isSpace c = false
  last : ∀ c ∈ title.getLast?, isSpace c = false

structure WorkflowDescription.Expressible (workflow : WorkflowDescription) : Prop where
  id : ∀ id ∈ workflow.id, IsTitle id.toList
  actors : ∀ actor ∈ workflow.actors, actor.Expressible yaml stod
  tasks : ∀ task ∈ workflow.tasks, task.Expressible yaml stod
  someActor : workflow.actors ≠ []
  someTask : workflow.tasks ≠ []
  actorIds : (workflow.actors.map ActorDescription.id).Nodup
  taskIds : (workflow.tasks.map TaskDescription.id).Nodup
  dependencies : ∀ task ∈ workflow.tasks, ∀ id ∈ task.model.dependencyTaskIds,
    id ∈ workflow.tasks.map TaskDescription.id
  mutexes : ∀ task ∈ workflow.tasks, ∀ id ∈ task.model.mutuallyExclusiveTaskIds,
    id ∈ workflow.tasks.map TaskDescription.id

structure ReadsAsWritten : Prop where
  asInt64 : ∀ n, Fits 64 n → yaml.asInt64 (String.ofList (Text.writeInt n)) = some n
  asInt32 : ∀ n, Fits 32 n → yaml.asInt32 (String.ofList (Text.writeInt n)) = some n
  asBool : ∀ value, yaml.asBool (String.ofList (writeBool value)) = some value

end Expressible

end TaskOrchestrator.App
