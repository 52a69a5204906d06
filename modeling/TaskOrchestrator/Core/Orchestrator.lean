import TaskOrchestrator.Core.Feasibility
import TaskOrchestrator.Library.Machine

/-!
# The orchestrator

The run-time loop around the scheduler. A tick either plans or dispatches what is due of the
latest schedule, by the state of the planner and a flag that notifications raise. Loads are
kept in the actors of the registry and, for the actors that were touched, in the state.
-/

namespace TaskOrchestrator.Core

open Library

set_option autoImplicit false

inductive PlannerState where
  | idle
  | planning
  | dispatching
  | running
  | completing
  deriving DecidableEq

inductive PlannerEvent where
  | startPlanning
  | scheduleReady
  | dispatchComplete
  | phaseComplete
  | allPhasesComplete
  | tick
  deriving DecidableEq

def acceptingStates : PlannerEvent → List PlannerState
  | .startPlanning => [.idle, .planning, .dispatching, .running]
  | .scheduleReady => [.planning]
  | .dispatchComplete => [.dispatching]
  | .phaseComplete => [.planning, .dispatching, .running]
  | .allPhasesComplete => [.running]
  | .tick => [.idle, .planning, .running]

/-- The state that the wrapper records for an event that it hands on. A tick records none. -/
def recordedState (last : PlannerState) : PlannerEvent → PlannerState
  | .startPlanning => .planning
  | .scheduleReady => .dispatching
  | .dispatchComplete => .running
  | .phaseComplete => .running
  | .allPhasesComplete => .idle
  | .tick => last

def PlannerState.processEvent (last : PlannerState) (event : PlannerEvent) : PlannerState :=
  if last ∈ acceptingStates event then recordedState last event else last

structure Orchestrator where
  workflow : Workflow := {}
  registry : ActorRegistry := {}
  strategy : SchedulingStrategy := edfStrategy
  actorRankingProfile : ActorRankingProfile := {}
  fsm : PlannerState := .idle
  workflowState : WorkflowState := {}
  latestSchedule : ScheduleResult := { ok := false }
  started : Bool := false
  replanRequested : Bool := false

def eraseValue (values : List String) (value : String) : List String :=
  values.filter fun v => v ≠ value

/-- `push_back` unless the value is there. -/
def pushNew (values : List String) (value : String) : List String :=
  if value ∈ values then values else values ++ [value]

def ActorRegistry.updateLoad (registry : ActorRegistry) (actorId : ActorId) (update : Int → Int) :
    ActorRegistry :=
  match registry.get actorId with
  | none => registry
  | some actor => registry.add { actor with currentLoad := update actor.currentLoad }

namespace Orchestrator

variable (o : Orchestrator)

def runPlanning (hash : IterationOrder) (now : Time) : Orchestrator :=
  let schedule := plan hash o.workflow o.workflowState o.registry now (some o.strategy)
    (some o.actorRankingProfile)
  { o with
    latestSchedule := schedule
    fsm := if schedule.ok && !schedule.assignments.isEmpty then o.fsm.processEvent .scheduleReady
      else o.fsm }

def requestReplan : Orchestrator := { o with replanRequested := true }

def taskDependenciesCompleted (taskId : TaskId) : Bool :=
  (o.workflow.processForTask taskId).all fun proc =>
    proc.dependencyTaskIds.all fun dependencyId => dependencyId ∈ o.workflowState.completedTasks

/-- The assignment is due and its task may start. -/
def dispatchable (now : Time) (assignment : Assignment) : Bool :=
  assignment.startTime ≤ now && o.taskDependenciesCompleted assignment.taskId &&
    assignment.taskId ∉ o.workflowState.completedTasks && assignment.taskId ∉
    o.workflowState.assignedTasks && assignment.taskId ∉ o.workflowState.unresumableTasks

def dispatch (assignment : Assignment) : Orchestrator :=
  let state := o.workflowState
  let taskId := assignment.taskId
  let actorId := assignment.actorId
  let registry := o.registry.updateLoad actorId fun load => load + taskDemand o.workflow taskId
  { o with
    registry := registry
    workflowState :=
      { state with
        assignedTasks := state.assignedTasks ++ [taskId]
        resumableTasks := eraseValue state.resumableTasks taskId
        unresumableTasks := eraseValue state.unresumableTasks taskId
        taskActor := state.taskActor.assign taskId actorId
        actorLoad :=
          state.actorLoad.assign actorId (((registry.get actorId).map Actor.currentLoad).getD 0)
        taskPlannedStartTime := state.taskPlannedStartTime.assign taskId assignment.startTime
        taskPlannedEndTime := state.taskPlannedEndTime.assign taskId
          (assignment.startTime + taskDuration o.workflow taskId) } }

def dispatchDue (now : Time) (assignment : Assignment) : Orchestrator :=
  if o.dispatchable now assignment then o.dispatch assignment else o

def applyDispatch (now : Time) : Orchestrator :=
  let dispatched :=
    o.latestSchedule.assignments.foldl (fun o assignment => o.dispatchDue now assignment) o
  if dispatched.fsm = .dispatching
    then { dispatched with fsm := dispatched.fsm.processEvent .dispatchComplete }
  else dispatched

def setWorkflow (w : Workflow) : Orchestrator := { o with workflow := w, workflowState := {} }

def registerActor (a : Actor) : Orchestrator := { o with registry := o.registry.add a }

def setSchedulingStrategy (strategy : Option SchedulingStrategy) : Orchestrator :=
  { o with strategy := strategy.getD o.strategy }

def setActorRankingProfile (profile : ActorRankingProfile) : Orchestrator :=
  { o with actorRankingProfile := profile }

def start (hash : IterationOrder) : Orchestrator :=
  { o with started := true, fsm := o.fsm.processEvent .startPlanning }.runPlanning hash 0

def tick (hash : IterationOrder) (now : Time) : Orchestrator :=
  if !o.started then o
  else if o.replanRequested && o.fsm ≠ .planning then
    { o with
      fsm := o.fsm.processEvent .startPlanning
      replanRequested := false }.runPlanning hash now
  else match o.fsm with
    | .idle =>
      { o with
        fsm := o.fsm.processEvent .startPlanning
        replanRequested := false }.runPlanning hash now
    | .planning => { o with replanRequested := false }.runPlanning hash now
    | .dispatching => o.applyDispatch now
    | .running =>
      let dispatched := o.applyDispatch now
      { dispatched with fsm := dispatched.fsm.processEvent .tick }
    | .completing => o

def setActorUnavailable (actorId : ActorId) (unavailable : Bool) : Orchestrator :=
  let state := o.workflowState
  if unavailable then
    if actorId ∉ state.unavailableActors then
      { o with workflowState := { state with unavailableActors := state.unavailableActors ++
        [actorId] } }.requestReplan
    else o
  else if actorId ∈ state.unavailableActors then
    { o with workflowState :=
      { state with unavailableActors := state.unavailableActors.erase actorId } }.requestReplan
  else o

/-- A task that is no longer in flight gives its demand back to the actor that owned it. -/
def releaseOwner (taskId : TaskId) : Orchestrator :=
  let state := o.workflowState
  match state.taskActor.lookup taskId with
  | none => o
  | some ownerId =>
    let released :=
      { o with workflowState := { state with taskActor := state.taskActor.erase taskId } }
    match o.registry.get ownerId with
    | none => released
    | some owner =>
      if owner.currentLoad > 0 then
        let load := max 0 (owner.currentLoad - taskDemand o.workflow taskId)
        { released with
          registry := o.registry.updateLoad ownerId fun _ => load
          workflowState :=
            { released.workflowState with actorLoad := state.actorLoad.assign owner.id load } }
      else released

/-- What both notifications of an end begin with: the task is no longer in flight, the
completed tasks are updated, and the owner is released. -/
def withdraw (taskId : TaskId) (completedTasks : List TaskId) : Orchestrator :=
  { o with
    workflowState :=
      { o.workflowState with
        assignedTasks := eraseValue o.workflowState.assignedTasks taskId
        completedTasks := completedTasks } }.releaseOwner taskId

def notifyTaskFailed (taskId : TaskId) (resumable : Bool) : Orchestrator :=
  let withdrawn := o.withdraw taskId (eraseValue o.workflowState.completedTasks taskId)
  let state := withdrawn.workflowState
  let unresumableTasks := eraseValue state.unresumableTasks taskId
  let resumableTasks := eraseValue state.resumableTasks taskId
  if resumable then
    { withdrawn with
      workflowState :=
        { state with
          unresumableTasks := unresumableTasks
          resumableTasks := resumableTasks ++ [taskId] } }.requestReplan
  else
    { withdrawn with
      workflowState :=
        { state with
          unresumableTasks := unresumableTasks ++ [taskId]
          resumableTasks := resumableTasks } }

def notifyTaskCompleted (taskId : TaskId) (actualCompletionTime : Time) : Orchestrator :=
  let withdrawn := o.withdraw taskId (pushNew o.workflowState.completedTasks taskId)
  let state := withdrawn.workflowState
  { withdrawn with
    workflowState :=
      { state with
        taskActualCompletionTime :=
          state.taskActualCompletionTime.assign taskId actualCompletionTime } }.requestReplan

def markTaskResumable (taskId : TaskId) : Orchestrator :=
  let state := o.workflowState
  { o with
    workflowState :=
      { state with
        unresumableTasks := eraseValue state.unresumableTasks taskId
        resumableTasks := pushNew state.resumableTasks taskId } }.requestReplan

def completePhase (phaseId : PhaseId) : Orchestrator :=
  let completed := pushNew o.workflowState.completedPhases phaseId
  let fsm := o.fsm.processEvent .phaseComplete
  { o with
    workflowState := { o.workflowState with completedPhases := completed }
    fsm := if completed.length ≥ o.workflow.phaseIds.length then fsm.processEvent .allPhasesComplete
      else fsm }

end Orchestrator

/-- The calls on an orchestrator. One that plans comes with the order in which hash sets are
iterated in it. -/
inductive Operation where
  | setWorkflow (w : Workflow)
  | registerActor (a : Actor)
  | setSchedulingStrategy (strategy : Option SchedulingStrategy)
  | setActorRankingProfile (profile : ActorRankingProfile)
  | start (hash : IterationOrder)
  | tick (hash : IterationOrder) (now : Time)
  | setActorUnavailable (actorId : ActorId) (unavailable : Bool)
  | notifyTaskFailed (taskId : TaskId) (resumable : Bool)
  | notifyTaskCompleted (taskId : TaskId) (actualCompletionTime : Time)
  | markTaskResumable (taskId : TaskId)
  | completePhase (phaseId : PhaseId)

def Orchestrator.apply (o : Orchestrator) : Operation → Orchestrator
  | .setWorkflow w => o.setWorkflow w
  | .registerActor a => o.registerActor a
  | .setSchedulingStrategy strategy => o.setSchedulingStrategy strategy
  | .setActorRankingProfile profile => o.setActorRankingProfile profile
  | .start hash => o.start hash
  | .tick hash now => o.tick hash now
  | .setActorUnavailable actorId unavailable => o.setActorUnavailable actorId unavailable
  | .notifyTaskFailed taskId resumable => o.notifyTaskFailed taskId resumable
  | .notifyTaskCompleted taskId actualCompletionTime =>
    o.notifyTaskCompleted taskId actualCompletionTime
  | .markTaskResumable taskId => o.markTaskResumable taskId
  | .completePhase phaseId => o.completePhase phaseId

def Orchestrator.run (o : Orchestrator) (operations : List Operation) : Orchestrator :=
  runMachine Orchestrator.apply o operations

/-- The orchestrator is not configured: it is driven. -/
def Operation.isRuntime : Operation → Bool
  | .setWorkflow _ | .registerActor _ | .setSchedulingStrategy _ | .setActorRankingProfile _ =>
    false
  | _ => true

def Operation.isStart : Operation → Bool
  | .start _ => true
  | _ => false

end TaskOrchestrator.Core
