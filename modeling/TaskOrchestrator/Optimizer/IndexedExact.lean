import TaskOrchestrator.Optimizer.Schedules
import TaskOrchestrator.Core.Scheduler

/-!
# The indexed exact backend

A depth-first branch-and-bound search. A node takes the first ready task in a fixed order and
branches over the actors that can take it, each at its earliest start, and over dropping the
task. Tasks below a dropped one are dropped with it. The best leaf so far is the incumbent,
and a node whose optimistic score is no better is cut.

The intervals, the reservation table and the capacity test are copies of the runtime
scheduler's in the source and are shared with it here. The search for the earliest start is
not a copy: it takes the windows in the order in which they are listed.
-/

namespace TaskOrchestrator.Optimizer

open Library
open TaskOrchestrator.Core hiding earliestStart

set_option autoImplicit false

def kPriorityOptimizationUpperBoundPerTask : Int := 1000000
def kLargeTime : Time := (2 ^ 63 - 1) / 4

structure SearchAssignment where
  assignment : OptimizedAssignment
  priority : Priority := 0

structure SearchState where
  reservations : ReservationTable := .empty
  completionTimes : CompletionTable := .empty
  scheduled : List TaskId := []
  dropped : List TaskId := []
  assignments : List SearchAssignment := []

structure ObjectiveScore where
  fulfilled : Nat := 0
  totalPriority : Int := 0
  makespan : Time := kLargeTime
  deriving DecidableEq

structure Candidate where
  actorId : ActorId
  startTime : Time
  endTime : Time
  distance : Time
  preferred : Bool
  load : Int
  executionCost : Rat
  tardiness : Time

def scoreFor (state : SearchState) (options : OptimizationOptions) : ObjectiveScore where
  fulfilled := state.assignments.length
  totalPriority := state.assignments.foldl (fun runningPriority searchAssignment =>
    runningPriority + searchAssignment.priority * options.objective.priorityWeight) 0
  makespan := state.assignments.foldl (fun runningMakespan searchAssignment =>
    max runningMakespan searchAssignment.assignment.endTime) 0

/-- The tuples of the two scores compare greater. -/
def betterScore (lhs rhs : ObjectiveScore) : Bool :=
  lhs.fulfilled > rhs.fulfilled ∨ lhs.fulfilled = rhs.fulfilled ∧
    (lhs.totalPriority > rhs.totalPriority ∨ lhs.totalPriority = rhs.totalPriority ∧
      -lhs.makespan > -rhs.makespan)

/-- The first candidate at which the actor has the capacity, in the windows as they are listed. -/
def earliestStart (actor : OptimizerActor) (reservations : List ScheduledInterval)
    (releaseTime : Time) (duration : Duration) (demand : Int) : Option Time :=
  if duration ≤ 0 then some releaseTime
  else
    actor.availabilityWindows.findSome? fun window =>
      (Int.range (max window.start releaseTime) (window.stop - duration + 1)).find? fun candidate =>
        hasCapacityForInterval reservations actor.capacity candidate (candidate + duration) demand

def mutexBlocked (task : OptimizerTask) (state : SearchState) : Bool :=
  task.mutuallyExclusiveTaskIds.any fun mutexTaskId => mutexTaskId ∈ state.scheduled

def readyTaskLess (lhs rhs : OptimizerTask) : Bool :=
  ((compareOfLessAndEq (-lhs.priority) (-rhs.priority)).then <|
    (compareOfLessAndEq (lhs.deadline.getD kLargeTime) (rhs.deadline.getD kLargeTime)).then <|
    (compareOfLessAndEq lhs.releaseTime rhs.releaseTime).then <|
    (compareOfLessAndEq lhs.duration rhs.duration).then <|
    compareOfLessAndEq lhs.id rhs.id) = .lt

def readyTasks (model : OptimizationModel) (state : SearchState) : List OptimizerTask :=
  sortBy readyTaskLess <| model.tasks.filter fun task =>
    !(task.id ∈ state.scheduled || task.id ∈ state.dropped) &&
      !ConstraintIndex.dependencyBlocked task state.dropped &&
        ConstraintIndex.dependenciesSatisfied task state.scheduled state.dropped

def candidateLess (lhs rhs : Candidate) : Bool :=
  ((compareOfLessAndEq (if lhs.preferred then 0 else 1) (if rhs.preferred then 0 else 1)).then <|
    (compareOfLessAndEq lhs.endTime rhs.endTime).then <|
    (compareOfLessAndEq lhs.startTime rhs.startTime).then <|
    (compareOfLessAndEq lhs.distance rhs.distance).then <|
    (compareOfLessAndEq lhs.load rhs.load).then <|
    compareOfLessAndEq lhs.actorId rhs.actorId) = .lt

/-- The latest completion of the dependencies that have one, at least zero. -/
def dependencyReady (task : OptimizerTask) (state : SearchState) : Time :=
  task.dependencyTaskIds.foldl (fun ready dependencyId =>
    match state.completionTimes.lookup dependencyId with
    | some completion => max ready completion
    | none => ready) 0

/-- The candidate that an eligible actor is for the task, if it can take it. -/
def candidateOn (task : OptimizerTask) (state : SearchState) (actor : OptimizerActor) :
    Option Candidate := do
  guard (¬ task.demand > actor.capacity)
  guard (taskCapabilitiesSupported task actor)
  let reservations := reservationsOf state.reservations actor.id
  let start ← earliestStart actor reservations (max task.releaseTime (dependencyReady task state))
    task.duration task.demand
  guard (task.latestStartTime.all fun latest => ¬ start > latest)
  let stop := start + task.duration
  guard (task.deadline.all fun deadline => ¬ stop > deadline)
  pure
    { actorId := actor.id
      startTime := start
      endTime := stop
      distance := (task.actorDistances.lookup actor.id).getD kLargeTime
      preferred := actor.id ∈ task.preferredActorIds
      load := concurrentDemandAt reservations start
      executionCost := actor.executionCostPerUnit * task.duration
      tardiness := (task.deadline.map fun deadline => max 0 (stop - deadline)).getD 0 }

def candidatesForTask (task : OptimizerTask) (index : ConstraintIndex) (state : SearchState) :
    List Candidate :=
  if mutexBlocked task state then []
  else sortBy candidateLess ((index.eligibleActorsForTask task).filterMap (candidateOn task state))

namespace SearchState

def place (state : SearchState) (task : OptimizerTask) (candidate : Candidate) : SearchState where
  reservations := reserve state.reservations candidate.actorId
    { start := candidate.startTime, stop := candidate.endTime, demand := task.demand }
  completionTimes := state.completionTimes.assign task.id candidate.endTime
  scheduled := state.scheduled.insert task.id
  dropped := state.dropped
  assignments := state.assignments ++
    [{ assignment :=
        { taskId := task.id
          actorId := candidate.actorId
          startTime := candidate.startTime
          endTime := candidate.endTime }
       priority := task.priority }]

def drop (state : SearchState) (taskId : TaskId) : SearchState :=
  { state with dropped := state.dropped.insert taskId }

end SearchState

/-- One task of a pass, and whether a task was dropped in the pass up to here. -/
def dropIfBlocked (changing : SearchState × Bool) (task : OptimizerTask) : SearchState × Bool :=
  let (state, changed) := changing
  if task.id ∈ state.scheduled ∨ task.id ∈ state.dropped then (state, changed)
  else if ConstraintIndex.dependencyBlocked task state.dropped then (state.drop task.id, true)
  else (state, changed)

/-- The passes over the tasks. One that is followed by another has dropped a task, so there
are at most as many as tasks and one more. -/
def dropPasses (model : OptimizationModel) : Nat → SearchState → SearchState
  | 0, state => state
  | fuel + 1, state =>
    let (next, changed) := model.tasks.foldl dropIfBlocked (state, false)
    if changed then dropPasses model fuel next else next

def dropDescendantsIfBlocked (model : OptimizationModel) (state : SearchState) : SearchState :=
  dropPasses model (model.tasks.length + 1) state

/-- The best solution found so far, if any, with the counters of the search. -/
structure Incumbent where
  best : OptimizationSolution := {}
  bestScore : ObjectiveScore := {}
  haveBest : Bool := false

namespace Incumbent

def countNode (incumbent : Incumbent) : Incumbent :=
  { incumbent with
    best.stats.searchNodes := incumbent.best.stats.searchNodes + 1 }

def countPruned (incumbent : Incumbent) : Incumbent :=
  { incumbent with
    best.stats.prunedNodes := incumbent.best.stats.prunedNodes + 1 }

def record (incumbent : Incumbent) (model : OptimizationModel) (state : SearchState)
    (score : ObjectiveScore) :
    Incumbent where
  best :=
    { incumbent.best with
      assignments := state.assignments.map SearchAssignment.assignment
      unfulfilledTaskIds :=
        (model.tasks.filter fun task => task.id ∉ state.scheduled).map OptimizerTask.id }
  bestScore := score
  haveBest := true

end Incumbent

section Solve

variable (model : OptimizationModel) (index : ConstraintIndex) (options : OptimizationOptions)

def remainingPossible (state : SearchState) : Nat :=
  model.tasks.length - state.scheduled.length - state.dropped.length

/-- The score of a node if all that remains were scheduled at once. -/
def optimisticScore (state : SearchState) : ObjectiveScore :=
  let currentScore := scoreFor state options
  { fulfilled := currentScore.fulfilled + remainingPossible model state
    totalPriority :=
      currentScore.totalPriority + remainingPossible model
        state * kPriorityOptimizationUpperBoundPerTask
    makespan := currentScore.makespan }

/-- A child has one more task scheduled or dropped, so the depth is at most the number of
tasks. -/
def dfs : Nat → SearchState → Incumbent → Incumbent
  | 0, _, incumbent => incumbent
  | depth + 1, node, incumbent =>
    let incumbent := incumbent.countNode
    let state := dropDescendantsIfBlocked model node
    if incumbent.haveBest && !betterScore (optimisticScore model options state) incumbent.bestScore
      then
      incumbent.countPruned
    else
      match readyTasks model state with
      | [] =>
        let currentScore := scoreFor state options
        if !incumbent.haveBest || betterScore currentScore incumbent.bestScore then
          incumbent.record model state currentScore
        else incumbent
      | task :: _ =>
        let placed := (candidatesForTask task index state).foldl (fun incumbent candidate =>
          dfs depth (state.place task candidate) incumbent) incumbent
        if options.allowPartialPlan || !task.mandatory then dfs depth (state.drop task.id) placed
          else placed

def rootState : SearchState where
  reservations :=
    model.actors.foldl (fun reservations actor => reservations.assign actor.id []) .empty

def backendName : String := "indexed_branch_and_bound"

def solve : OptimizationSolution :=
  let incumbent := dfs model index options (model.tasks.length + 1) (rootState model)
    { best := { ok := true, backendName := backendName } }
  if incumbent.haveBest then incumbent.best
  else
    { incumbent.best with
      ok := false
      errorMessage := "No optimization result could be produced." }

end Solve

end TaskOrchestrator.Optimizer
