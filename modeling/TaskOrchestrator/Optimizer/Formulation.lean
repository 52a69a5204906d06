import TaskOrchestrator.Optimizer.Schedules
import TaskOrchestrator.Core.Scheduler
import Mathlib.Algebra.Order.Floor.Ring
import Mathlib.Algebra.Order.Ring.Rat
import Mathlib.Data.Rat.Floor

/-!
# The discrete-time formulation

The two solver backends turn a model into a 0/1 problem: one option for each task, actor and
start that fit, at most one of which is selected for a task, and linear constraints between
the options. Here are the formulation, the constraints of the CP-SAT backend on it, and the
decoding of the selected options. The solver itself is outside: what it returns is some
selection that satisfies the constraints.

The nested loops of the source that push to one list are the list of what they push.
-/

namespace TaskOrchestrator.Optimizer

open Library
open TaskOrchestrator.Core hiding earliestStart

set_option autoImplicit false

structure DiscreteOption where
  optionIndex : Nat := 0
  taskIndex : Nat := 0
  actorIndex : Nat := 0
  taskId : TaskId
  actorId : ActorId
  startTime : Time := 0
  endTime : Time := 0
  demand : Int := 1
  objectiveCoefficient : Int := 0
  deriving DecidableEq

structure DiscreteTaskDecision where
  taskIndex : Nat := 0
  taskId : TaskId
  required : Bool := false
  optionIndexes : List Nat := []

structure ActorTimeSlotConstraint where
  actorIndex : Nat := 0
  actorId : ActorId
  time : Time := 0
  capacity : Int := 0
  optionIndexes : List Nat := []

structure DependencyConstraint where
  predecessorTaskIndex : Nat := 0
  successorTaskIndex : Nat := 0

structure MutualExclusionConstraint where
  firstTaskIndex : Nat := 0
  secondTaskIndex : Nat := 0
  deriving DecidableEq

structure DiscreteTimeFormulation where
  model : Option OptimizationModel := none
  options : List DiscreteOption := []
  taskDecisions : List DiscreteTaskDecision := []
  actorTimeSlots : List ActorTimeSlotConstraint := []
  dependencies : List DependencyConstraint := []
  mutualExclusions : List MutualExclusionConstraint := []
  horizonEnd : Time := 0

def kScaledDoubleFactor : Rat := 1000

/-- `std::llround`: to the nearest integer, halves away from zero. -/
def llround (value : Rat) : Int := if 0 ≤ value then ⌊value + 1 / 2⌋ else -⌊-value + 1 / 2⌋

def scaleDouble (value : Rat) : Int := llround (value * kScaledDoubleFactor)

def optionObjectiveCoefficient (task : OptimizerTask) (actor : OptimizerActor)
    (options : OptimizationOptions) (startTime endTime : Time) : Int :=
  let distance := distanceIn task.actorDistances actor.id
  let tardiness := (task.deadline.map fun deadline => max 0 (endTime - deadline)).getD 0
  let scaledExecutionCost := scaleDouble (actor.executionCostPerUnit * task.duration)
  options.objective.fulfilledTaskWeight + task.priority * options.objective.priorityWeight +
    distance * options.objective.travelDistanceWeight + tardiness *
      options.objective.tardinessWeight +
    scaledExecutionCost * options.objective.executionCostWeight - scaleDouble
      task.tardinessCostPerUnit * tardiness -
    scaleDouble task.earlyStartBonus * startTime +
    if actor.id ∈ task.preferredActorIds then options.objective.preferredActorWeight else 0

def latestFeasibleStart (task : OptimizerTask) (window : AvailabilityWindow) : Option Time :=
  if window.stop < task.duration then none
  else
    let latestStart := window.stop - task.duration
    let latestStart :=
      (task.latestStartTime.map fun latest => min latestStart latest).getD latestStart
    (task.deadline.map fun deadline => min latestStart (deadline - task.duration)).getD latestStart

section Build

variable (model : OptimizationModel) (index : ConstraintIndex) (options : OptimizationOptions)

def windowOptions (taskIndex : Nat) (task : OptimizerTask) (actorIndex : Nat)
    (actor : OptimizerActor) (window : AvailabilityWindow) : List DiscreteOption :=
  let firstStart := max window.start task.releaseTime
  match latestFeasibleStart task window with
  | none => []
  | some lastStart => (Int.range firstStart (lastStart + 1)).map fun startTime =>
    { taskIndex := taskIndex
      actorIndex := actorIndex
      taskId := task.id
      actorId := actor.id
      startTime := startTime
      endTime := startTime + task.duration
      demand := task.demand
      objectiveCoefficient :=
        optionObjectiveCoefficient task actor options startTime (startTime + task.duration) }

def actorOptions (taskIndex : Nat) (task : OptimizerTask) (actor : OptimizerActor) :
    List DiscreteOption :=
  if task.demand > actor.capacity ∨ taskCapabilitiesSupported task actor = false then []
  else
    match model.actors.findIdx? fun other => other.id = actor.id with
    | none => []
    | some actorIndex =>
      actor.availabilityWindows.flatMap (windowOptions options taskIndex task actorIndex actor)

def taskOptions (taskIndex : Nat) (task : OptimizerTask) : List DiscreteOption :=
  (index.eligibleActorsForTask task).flatMap (actorOptions model options taskIndex task)

def allOptions : List DiscreteOption :=
  (model.tasks.zipIdx.flatMap fun entry => taskOptions model index options entry.2 entry.1).mapIdx
    fun optionIndex option => { option with optionIndex := optionIndex }

def taskDecision (taskIndex : Nat) (task : OptimizerTask) : DiscreteTaskDecision where
  taskIndex := taskIndex
  taskId := task.id
  required := !options.allowPartialPlan && task.mandatory
  optionIndexes :=
    ((allOptions model index options).filter fun option => option.taskIndex = taskIndex).map
    DiscreteOption.optionIndex

def taskIndexOf (taskId : TaskId) : Option Nat := model.tasks.findIdx? fun task => task.id = taskId

def dependenciesOf (taskIndex : Nat) (task : OptimizerTask) : List DependencyConstraint :=
  task.dependencyTaskIds.filterMap fun dependencyId =>
    (taskIndexOf model dependencyId).map fun predecessor =>
    { predecessorTaskIndex := predecessor, successorTaskIndex := taskIndex }

/-- An exclusion as an unordered pair of two different positions. -/
def mutualExclusionsOf (taskIndex : Nat) (task : OptimizerTask) : List MutualExclusionConstraint :=
  task.mutuallyExclusiveTaskIds.filterMap fun mutexTaskId =>
    (taskIndexOf model mutexTaskId).bind fun other =>
    let first := min taskIndex other
    let second := max taskIndex other
    if first ≠ second then some { firstTaskIndex := first, secondTaskIndex := second } else none

/-- The options that cover each position of an actor and time, in a table that is sorted by
them. -/
def slotOptionIndexes (allOptions : List DiscreteOption) : Dictionary (Nat × Time) (List Nat) :=
  let covered := allOptions.flatMap fun option =>
    (Int.range option.startTime option.endTime).map fun time => (option, time)
  covered.foldl (fun slots entry =>
    slots.pushBack (entry.1.actorIndex, entry.2) entry.1.optionIndex) .empty

def slotLess (lhs rhs : (Nat × Time) × List Nat) : Bool :=
  lhs.1.1 < rhs.1.1 ∨ lhs.1.1 = rhs.1.1 ∧ lhs.1.2 < rhs.1.2

def actorTimeSlots (allOptions : List DiscreteOption) : List ActorTimeSlotConstraint :=
  (sortBy slotLess (slotOptionIndexes allOptions).rows).filterMap fun slot =>
    model.actors[slot.1.1]?.map fun actor =>
      { actorIndex := slot.1.1
        actorId := actor.id
        time := slot.1.2
        capacity := actor.capacity
        optionIndexes := slot.2 }

def buildDiscreteTimeFormulation : DiscreteTimeFormulation where
  model := some model
  options := allOptions model index options
  taskDecisions := model.tasks.zipIdx.map fun entry =>
    taskDecision model index options entry.2 entry.1
  actorTimeSlots := actorTimeSlots model (allOptions model index options)
  dependencies := model.tasks.zipIdx.flatMap fun entry => dependenciesOf model entry.2 entry.1
  mutualExclusions :=
    (model.tasks.zipIdx.flatMap fun entry => mutualExclusionsOf model entry.2 entry.1).eraseDups
  horizonEnd :=
    (allOptions model index options).foldl (fun horizon option => max horizon option.endTime) 0

end Build

section Constraints

variable (formulation : DiscreteTimeFormulation) (selection : Nat → Bool)

def optionValue (optionIndex : Nat) : Int := if selection optionIndex then 1 else 0

def linearSum (coefficient : DiscreteOption → Int) (optionIndexes : List Nat) : Int :=
  (optionIndexes.map fun optionIndex =>
    ((formulation.options[optionIndex]?.map coefficient).getD 0) * optionValue selection
      optionIndex).sum

def taskSum (coefficient : DiscreteOption → Int) (taskIndex : Nat) : Int :=
  ((formulation.taskDecisions.find? fun decision => decision.taskIndex = taskIndex).map
    fun decision =>
    linearSum formulation selection coefficient decision.optionIndexes).getD 0

def taskSelected (taskIndex : Nat) : Int := taskSum formulation selection (fun _ => 1) taskIndex
def taskStart (taskIndex : Nat) : Int :=
  taskSum formulation selection DiscreteOption.startTime taskIndex
def taskEnd (taskIndex : Nat) : Int :=
  taskSum formulation selection DiscreteOption.endTime taskIndex

/-- The selection satisfies the constraints that the CP-SAT backend adds. -/
structure Satisfies : Prop where
  decisions : ∀ decision ∈ formulation.taskDecisions,
    if decision.required then linearSum formulation selection
    (fun _ => 1) decision.optionIndexes = 1
    else linearSum formulation selection (fun _ => 1) decision.optionIndexes ≤ 1
  slots : ∀ slot ∈ formulation.actorTimeSlots,
    linearSum formulation selection DiscreteOption.demand slot.optionIndexes ≤ slot.capacity
  presence : ∀ dependency ∈ formulation.dependencies,
    taskSelected formulation selection dependency.successorTaskIndex ≤
      taskSelected formulation selection dependency.predecessorTaskIndex
  precedence : ∀ dependency ∈ formulation.dependencies,
    taskStart formulation selection dependency.successorTaskIndex -
        taskEnd formulation selection dependency.predecessorTaskIndex -
        formulation.horizonEnd * taskSelected formulation selection dependency.successorTaskIndex ≥
      -formulation.horizonEnd
  exclusions : ∀ exclusion ∈ formulation.mutualExclusions,
    taskSelected formulation selection exclusion.firstTaskIndex +
      taskSelected formulation selection exclusion.secondTaskIndex ≤ 1

instance : Decidable (Satisfies formulation selection) :=
  decidable_of_iff ((∀ decision ∈ formulation.taskDecisions,
      if decision.required then linearSum formulation selection (fun _ => 1)
        decision.optionIndexes = 1
      else linearSum formulation selection (fun _ => 1) decision.optionIndexes ≤ 1) ∧
      (∀ slot ∈ formulation.actorTimeSlots,
        linearSum formulation selection DiscreteOption.demand slot.optionIndexes ≤ slot.capacity) ∧
      (∀ dependency ∈ formulation.dependencies,
        taskSelected formulation selection dependency.successorTaskIndex ≤
          taskSelected formulation selection dependency.predecessorTaskIndex) ∧
      (∀ dependency ∈ formulation.dependencies,
        taskStart formulation selection dependency.successorTaskIndex -
            taskEnd formulation selection dependency.predecessorTaskIndex -
            formulation.horizonEnd * taskSelected formulation selection
              dependency.successorTaskIndex ≥
          -formulation.horizonEnd) ∧
      ∀ exclusion ∈ formulation.mutualExclusions,
        taskSelected formulation selection exclusion.firstTaskIndex +
          taskSelected formulation selection exclusion.secondTaskIndex ≤ 1)
    ⟨fun ⟨h1, h2, h3, h4, h5⟩ => ⟨h1, h2, h3, h4, h5⟩, fun ⟨h1, h2, h3, h4, h5⟩ =>
      ⟨h1, h2, h3, h4, h5⟩⟩

end Constraints

def collectSelectedOptionIndexes (formulation : DiscreteTimeFormulation)
    (selection : Nat → Bool) : List Nat :=
  (List.range formulation.options.length).filter selection

def DiscreteOption.assignment (option : DiscreteOption) : OptimizedAssignment where
  taskId := option.taskId
  actorId := option.actorId
  startTime := option.startTime
  endTime := option.endTime

def optimizedAssignmentLess (lhs rhs : OptimizedAssignment) : Bool :=
  ((compareOfLessAndEq lhs.startTime rhs.startTime).then <|
    (compareOfLessAndEq lhs.endTime rhs.endTime).then <|
    (compareOfLessAndEq lhs.taskId rhs.taskId).then <|
    compareOfLessAndEq lhs.actorId rhs.actorId) = .lt

def decodeSelectedOptions (formulation : DiscreteTimeFormulation) (selectedOptionIndexes : List Nat)
    (backendName : String) (stats : OptimizationStats) : OptimizationSolution :=
  match formulation.model with
  | none =>
    { ok := false
      backendName := backendName
      stats := stats
      errorMessage := "No optimization model was attached to the discrete-time formulation." }
  | some model =>
    let selected := selectedOptionIndexes.filterMap fun optionIndex =>
      formulation.options[optionIndex]?
    { ok := true
      assignments := sortBy optimizedAssignmentLess (selected.map DiscreteOption.assignment)
      unfulfilledTaskIds :=
        (model.tasks.filter fun task => task.id ∉ selected.map DiscreteOption.taskId).map
          OptimizerTask.id
      backendName := backendName
      stats := stats }

end TaskOrchestrator.Optimizer
