import TaskOrchestrator.Core.Workflow
import Mathlib.Data.Int.Range

/-!
# The runtime scheduler

`Scheduler::plan` is a greedy list scheduler with timed reservations. It works in rounds:
the remaining tasks whose dependencies have a completion time are ordered by the strategy,
and each is placed on the best actor that can take it or is given up. A placement adds a
reservation and a completion time that the placements after it are checked against.
-/

namespace TaskOrchestrator.Core

open Library

set_option autoImplicit false

inductive ActorRankingCriterion where
  | earliestFeasibleStart
  | earliestFeasibleCompletion
  | distanceToWork
  | executionCost
  | uptimeUtilisation
  | leastLoaded
  | preferredActor
  deriving DecidableEq

structure ActorRankingProfile where
  criteria : List ActorRankingCriterion :=
    [.earliestFeasibleCompletion, .preferredActor, .distanceToWork, .leastLoaded]

structure Assignment where
  taskId : TaskId
  actorId : ActorId
  startTime : Time
  deriving DecidableEq

structure WorkflowState where
  completedPhases : List PhaseId := []
  assignedTasks : List TaskId := []
  completedTasks : List TaskId := []
  actorLoad : Dictionary ActorId Int := .empty
  unavailableActors : List ActorId := []
  resumableTasks : List TaskId := []
  unresumableTasks : List TaskId := []
  taskActorDistance : Dictionary TaskId (Dictionary ActorId Time) := .empty
  taskReleaseTime : Dictionary TaskId Time := .empty
  taskAllowedActors : Dictionary TaskId (List ActorId) := .empty
  taskPreferredActors : Dictionary TaskId (List ActorId) := .empty
  taskActor : Dictionary TaskId ActorId := .empty
  taskPlannedStartTime : Dictionary TaskId Time := .empty
  taskPlannedEndTime : Dictionary TaskId Time := .empty
  taskActualCompletionTime : Dictionary TaskId Time := .empty

structure TaskInfo where
  id : TaskId
  phaseId : PhaseId
  duration : Duration
  priority : Priority
  releaseTime : Time := 0
  deadline : Option Time := none
  latestStartTime : Option Time := none
  demand : Int := 1
  dependencyCount : Nat := 0
  deriving DecidableEq

/-- A strategy orders the tasks it is given: it neither adds nor drops one. -/
structure SchedulingStrategy where
  orderTasks : List TaskInfo → List TaskInfo
  perm : ∀ tasks, (orderTasks tasks).Perm tasks

structure IterationOrder where
  order : Nat → List TaskId → List TaskId
  perm : ∀ round ids, (order round ids).Perm ids

structure ScheduleResult where
  ok : Bool
  assignments : List Assignment := []
  rankingDecisionCriterionIndex : Dictionary TaskId Nat := .empty
  errorMessage : String := ""

def kDefaultTaskDuration : Duration := 1
def kDefaultTaskPriority : Priority := 0
def kDefaultTaskReleaseTime : Time := 0
def kDefaultTaskDemand : Int := 1
def kUnknownDistancePadding : Time := 1
def kOpaqueReservationEnd : Time := (2 ^ 63 - 1) / 4

structure PendingTask where
  info : TaskInfo
  process : Option Process

def durationOf (process : Option Process) : Duration :=
  (process.map Process.estimatedDuration).getD kDefaultTaskDuration

def demandOf (process : Option Process) : Int :=
  (process.map Process.demand).getD kDefaultTaskDemand

def pendingTask (workflow : Workflow) (phaseId : PhaseId) (taskId : TaskId) : PendingTask :=
  let process := workflow.processForTask taskId
  { info :=
      { id := taskId
        phaseId := phaseId
        duration := durationOf process
        priority := (process.map Process.priority).getD kDefaultTaskPriority
        releaseTime := (process.map Process.releaseTime).getD kDefaultTaskReleaseTime
        deadline := process.bind Process.deadline
        latestStartTime := process.bind Process.latestStartTime
        demand := demandOf process
        dependencyCount := (process.map fun p => p.dependencyTaskIds.length).getD 0 }
    process := process }

/-- The task is in flight, completed or waits to be marked resumable. -/
def skippedByPlanning (state : WorkflowState) (taskId : TaskId) : Bool :=
  (taskId ∈ state.assignedTasks && taskId ∉ state.resumableTasks) || taskId ∈
    state.completedTasks ||
    taskId ∈ state.unresumableTasks

def collectPendingTasks (workflow : Workflow) (state : WorkflowState) : List PendingTask :=
  (workflow.readyPhases state.completedPhases).flatMap fun phaseId =>
    ((workflow.taskIdsForPhase phaseId).filter fun taskId => !skippedByPlanning state taskId).map
      (pendingTask workflow phaseId)

def validateSupportedTasks (pendingTasks : List PendingTask) : Option String :=
  (pendingTasks.find? fun task => task.process.any Process.preemptible).map fun task =>
    "Preemptible tasks are not yet supported by the runtime scheduler: " ++ task.info.id

def edfLess (a b : TaskInfo) : Bool :=
  if a.priority ≠ b.priority then a.priority > b.priority
  else if a.deadline.isSome ≠ b.deadline.isSome then a.deadline.isSome
  else match a.deadline, b.deadline with
    | some d, some e => d < e
    | _, _ => false

def sjfLess (a b : TaskInfo) : Bool :=
  if a.duration ≠ b.duration then a.duration < b.duration
  else if a.priority ≠ b.priority then a.priority > b.priority
  else a.id < b.id

def priorityOnlyLess (a b : TaskInfo) : Bool :=
  if a.priority ≠ b.priority then a.priority > b.priority else a.id < b.id

def fifoLess (a b : TaskInfo) : Bool :=
  if a.phaseId ≠ b.phaseId then a.phaseId < b.phaseId else a.id < b.id

def edfStrategy : SchedulingStrategy := ⟨sortBy edfLess, perm_sortBy edfLess⟩

/-- The strategies that come with the scheduler, each a sort by its comparator. -/
inductive ShippedStrategy where
  | edf
  | sjf
  | priorityOnly
  | fifo
  deriving DecidableEq

def ShippedStrategy.less : ShippedStrategy → TaskInfo → TaskInfo → Bool
  | edf => edfLess
  | sjf => sjfLess
  | priorityOnly => priorityOnlyLess
  | fifo => fifoLess

def applyStrategy (strategy : Option SchedulingStrategy) (pending : List TaskInfo) :
    List TaskInfo :=
  (strategy.getD edfStrategy).orderTasks pending

def effectiveRankingProfile (profile : Option ActorRankingProfile) : ActorRankingProfile :=
  profile.getD {}

/-- An override of the state wins, an empty list of the process is none. -/
def effectiveActors (override : Option (List ActorId)) (process : Option Process)
    (ids : Process → List ActorId) : Option (List ActorId) :=
  override <|> (process.map ids).filter fun actorIds => actorIds ≠ []

def effectiveAllowedActors (task : PendingTask) (state : WorkflowState) : Option (List ActorId) :=
  effectiveActors (state.taskAllowedActors.lookup task.info.id) task.process Process.allowedActorIds

def effectivePreferredActors (task : PendingTask) (state : WorkflowState) : Option (List ActorId) :=
  effectiveActors (state.taskPreferredActors.lookup task.info.id) task.process
    Process.preferredActorIds

def effectiveReleaseTime (task : PendingTask) (state : WorkflowState) : Time :=
  (state.taskReleaseTime.lookup task.info.id).getD task.info.releaseTime

def effectiveLatestStartTime (task : PendingTask) : Option Time := task.info.latestStartTime

def actorMatchesTypeConstraints (task : PendingTask) (actor : Actor) : Bool :=
  task.process.all fun process => process.allowedActorTypes = [] ∨
    actor.type ∈ process.allowedActorTypes

def actorSupportsRequiredCapabilities (task : PendingTask) (actor : Actor) : Bool :=
  task.process.all fun process => process.requiredCapabilities.all fun capability =>
    capability ∈ actor.capabilities

def actorIsAllowed (task : PendingTask) (actor : Actor) (state : WorkflowState) : Bool :=
  ((effectiveAllowedActors task state).all fun actorIds => actorIds = [] ∨ actor.id ∈ actorIds) &&
    actorMatchesTypeConstraints task actor && actorSupportsRequiredCapabilities task actor &&
    decide (task.info.demand ≤ actor.capacity)

structure ScheduledInterval where
  start : Time := 0
  stop : Time := 0
  demand : Int := 1
  deriving DecidableEq

abbrev ReservationTable := Dictionary ActorId (List ScheduledInterval)
abbrev CompletionTable := Dictionary TaskId Time

def reservationsOf (reservations : ReservationTable) (actorId : ActorId) : List ScheduledInterval :=
  (reservations.lookup actorId).getD []

def reserve (reservations : ReservationTable) (actorId : ActorId) (interval : ScheduledInterval) :
    ReservationTable :=
  reservations.assign actorId (reservationsOf reservations actorId ++ [interval])

def concurrentDemandAt (reservations : List ScheduledInterval) (instant : Time) : Int :=
  reservations.foldl (fun runningDemand reservation =>
    if reservation.start ≤ instant ∧ instant < reservation.stop
      then runningDemand + reservation.demand
    else runningDemand) 0

def hasCapacityForInterval (reservations : List ScheduledInterval) (capacity : Int)
    (start stop : Time) (demand : Int) : Bool :=
  (Int.range start stop).all fun instant =>
    concurrentDemandAt reservations instant + demand ≤ capacity

/-- The first candidate in the windows, by their start, at which the actor has the capacity.
Windows with the same start may stand in any order, the candidates are tried upwards from it. -/
def earliestStart (actor : Actor) (reservations : List ScheduledInterval) (releaseTime : Time)
    (duration : Duration) (demand : Int) : Option Time :=
  if duration ≤ 0 then some releaseTime
  else
    (sortBy (fun v w => v.start < w.start) actor.availabilityWindows).findSome? fun window =>
      (Int.range (max window.start releaseTime) (window.stop - duration + 1)).find? fun candidate =>
        hasCapacityForInterval reservations actor.capacity candidate (candidate + duration) demand

structure RankedActorCandidate where
  actorId : ActorId
  startTime : Time
  finishTime : Time
  distanceToWork : Time
  executionCost : Rat
  uptimeUtilization : Rat
  actorLoad : Int
  preferredActor : Bool

structure CandidateSelection where
  candidate : RankedActorCandidate
  rankingReasonIndex : Nat

def fallbackDistance (actorDistances : Dictionary ActorId Time) : Time :=
  match actorDistances.rows.map Prod.snd with
  | [] => 0
  | distance :: rest => rest.foldl max distance + kUnknownDistancePadding

def distanceIn (actorDistances : Dictionary ActorId Time) (actorId : ActorId) : Time :=
  (actorDistances.lookup actorId).getD (fallbackDistance actorDistances)

def effectiveDistanceToWork (task : PendingTask) (actorId : ActorId)
    (state : WorkflowState) : Time :=
  match state.taskActorDistance.lookup task.info.id with
  | some actorDistances => distanceIn actorDistances actorId
  | none => match task.process with
    | none => 0
    | some process => distanceIn process.actorDistances actorId

def preferredActorForTask (task : PendingTask) (actorId : ActorId) (state : WorkflowState) : Bool :=
  (effectivePreferredActors task state).any fun actorIds => actorId ∈ actorIds

/-- How a criterion ranks two candidates, `lt` when it prefers the first. -/
def ActorRankingCriterion.compare (lhs rhs : RankedActorCandidate) :
    ActorRankingCriterion → Ordering
  | earliestFeasibleStart => compareOfLessAndEq lhs.startTime rhs.startTime
  | earliestFeasibleCompletion => compareOfLessAndEq lhs.finishTime rhs.finishTime
  | distanceToWork => compareOfLessAndEq lhs.distanceToWork rhs.distanceToWork
  | executionCost => compareOfLessAndEq lhs.executionCost rhs.executionCost
  | uptimeUtilisation => compareOfLessAndEq rhs.uptimeUtilization lhs.uptimeUtilization
  | leastLoaded => compareOfLessAndEq lhs.actorLoad rhs.actorLoad
  | preferredActor =>
    if lhs.preferredActor = rhs.preferredActor then .eq else if lhs.preferredActor then .lt else .gt

/-- The first criterion that tells the candidates apart decides, then the actor id. The
index is that of the criterion, counted from `idx`. -/
def compareByCriteria (lhs rhs : RankedActorCandidate) (idx : Nat) :
    List ActorRankingCriterion → Ordering × Nat
  | [] => (compareOfLessAndEq lhs.actorId rhs.actorId, idx)
  | criterion :: rest =>
    match criterion.compare lhs rhs with
    | .eq => compareByCriteria lhs rhs (idx + 1) rest
    | order => (order, idx)

def compareCandidates (lhs rhs : RankedActorCandidate) (profile : ActorRankingProfile) :
    Ordering × Nat :=
  compareByCriteria lhs rhs 0 profile.criteria

def buildCandidate (task : PendingTask) (actor : Actor) (startTime : Time) (state : WorkflowState)
    (reservations : List ScheduledInterval) : RankedActorCandidate :=
  let actorLoad := concurrentDemandAt reservations startTime
  { actorId := actor.id
    startTime := startTime
    finishTime := startTime + task.info.duration
    distanceToWork := effectiveDistanceToWork task actor.id state
    executionCost := actor.executionCostPerUnit * task.info.duration
    uptimeUtilization := (actorLoad : Rat) / (max actor.capacity 1 : Int)
    actorLoad := actorLoad
    preferredActor := preferredActorForTask task actor.id state }

section Selection

variable (registry : ActorRegistry) (state : WorkflowState) (now : Time)
variable (profile : ActorRankingProfile)

/-- The latest completion of the dependencies, `none` when one of them has no completion time. -/
def dependencyReadyTime (task : PendingTask) (completionTimes : CompletionTable) : Option Time :=
  match task.process with
  | none => some 0
  | some process => process.dependencyTaskIds.foldlM (fun readyTime dependencyId =>
      (completionTimes.lookup dependencyId).map fun completion => max readyTime completion) 0

/-- The candidate that an actor is for a task, if it can take it. -/
def actorCandidate (task : PendingTask) (reservations : ReservationTable) (earliestRelease : Time)
    (actorId : ActorId) : Option RankedActorCandidate := do
  guard (actorId ∉ state.unavailableActors)
  let actor ← registry.get actorId
  guard (actorIsAllowed task actor state)
  let actorReservations := reservationsOf reservations actorId
  let startTime ← earliestStart actor actorReservations earliestRelease task.info.duration
    task.info.demand
  guard ((effectiveLatestStartTime task).all fun latestStart => startTime ≤ latestStart)
  guard (task.info.deadline.all fun deadline => startTime + task.info.duration ≤ deadline)
  pure (buildCandidate task actor startTime state actorReservations)

/-- One actor of the scan: its candidate replaces the best selection so far when it compares
less. -/
def considerActor (task : PendingTask) (reservations : ReservationTable) (earliestRelease : Time)
    (bestSelection : Option CandidateSelection) (actorId : ActorId) : Option CandidateSelection :=
  match actorCandidate registry state task reservations earliestRelease actorId with
  | none => bestSelection
  | some candidate =>
    match bestSelection with
    | none => some { candidate := candidate, rankingReasonIndex := 0 }
    | some best =>
      let (comparisonResult, rankingReasonIndex) :=
        compareCandidates candidate best.candidate profile
      if comparisonResult = .lt
        then some { candidate := candidate, rankingReasonIndex := rankingReasonIndex }
      else some best

def selectBestCandidate (task : PendingTask) (reservations : ReservationTable)
    (completionTimes : CompletionTable) : Option CandidateSelection :=
  match dependencyReadyTime task completionTimes with
  | none => none
  | some dependencyReady =>
    let earliestRelease := max (max now (effectiveReleaseTime task state)) dependencyReady
    registry.actorIds.foldl
      (considerActor registry state profile task reservations earliestRelease) none

end Selection

section Initial

variable (workflow : Workflow) (registry : ActorRegistry) (state : WorkflowState) (now : Time)

def assignedInterval (taskId : TaskId) : ScheduledInterval :=
  let process := workflow.processForTask taskId
  let start := (state.taskPlannedStartTime.lookup taskId).getD now
  { start := start
    stop := (state.taskPlannedEndTime.lookup taskId).getD (max start now + durationOf process)
    demand := demandOf process }

def reserveAssigned (reservations : ReservationTable) (taskId : TaskId) : ReservationTable :=
  match state.taskActor.lookup taskId with
  | none => reservations
  | some actorId =>
    let interval := assignedInterval workflow state now taskId
    if interval.stop ≤ interval.start then reservations else reserve reservations actorId interval

/-- The load that the actor reports, whether or not its tasks are known. -/
def baselineLoad (actorId : ActorId) : Int :=
  (state.actorLoad.lookup actorId).getD (((registry.get actorId).map Actor.currentLoad).getD 0)

/-- Load that no task in flight accounts for is reserved from now on. -/
def reserveOpaque (reservations : ReservationTable) (actorId : ActorId) : ReservationTable :=
  let knownCurrentDemand := concurrentDemandAt (reservationsOf reservations actorId) now
  let opaqueDemand := max 0 (baselineLoad registry state actorId - knownCurrentDemand)
  if opaqueDemand > 0 then
    reserve reservations actorId
      { start := now, stop := kOpaqueReservationEnd, demand := opaqueDemand }
  else reservations

def initializeActorReservations : ReservationTable :=
  let actorIds := registry.actorIds
  let empty := actorIds.foldl (fun reservations actorId => reservations.assign actorId []) .empty
  let assigned := state.assignedTasks.foldl (reserveAssigned workflow state now) empty
  actorIds.foldl (reserveOpaque registry state now) assigned

def completedTime (taskId : TaskId) : Time :=
  (state.taskActualCompletionTime.lookup taskId <|> state.taskPlannedEndTime.lookup taskId).getD now

def plannedTime (taskId : TaskId) : Time :=
  (state.taskPlannedEndTime.lookup taskId).getD (now + durationOf (workflow.processForTask taskId))

def initializeCompletionTimes : CompletionTable :=
  let completed :=
    state.completedTasks.foldl (fun times taskId =>
      times.assign taskId (completedTime state now taskId))
    .empty
  state.assignedTasks.foldl (fun times taskId =>
    times.assign taskId (plannedTime workflow state now taskId)) completed

end Initial

def mutexConflict (task : PendingTask) (blockedTaskIds : List TaskId) : Bool :=
  task.process.any fun process => process.mutuallyExclusiveTaskIds.any fun other =>
    other ∈ blockedTaskIds

def orderReadyTasks (strategy : Option SchedulingStrategy) (readyTasks : List PendingTask) :
    List PendingTask :=
  let orderedTaskInfo := applyStrategy strategy (readyTasks.map PendingTask.info)
  let position := fun task : PendingTask => orderedTaskInfo.findIdx fun info =>
    info.id = task.info.id
  sortBy (fun lhs rhs => position lhs < position rhs ∨ position lhs = position rhs ∧
    lhs.info.id < rhs.info.id) readyTasks

/-- The tables of a planning pass and what it has assigned so far. -/
structure PlanState where
  remainingTaskIds : List TaskId
  reservations : ReservationTable
  completionTimes : CompletionTable
  blockedTaskIds : List TaskId
  assignments : List Assignment := []
  rankingDecisionCriterionIndex : Dictionary TaskId Nat := .empty

def pendingById (pendingTasks : List PendingTask) (taskId : TaskId) : Option PendingTask :=
  pendingTasks.find? fun task => task.info.id = taskId

section Rounds

variable (hash : IterationOrder) (registry : ActorRegistry) (state : WorkflowState) (now : Time)
variable (strategy : Option SchedulingStrategy) (profile : ActorRankingProfile)
variable (pendingTasks : List PendingTask)

def collectReadyTasks (round : Nat) (s : PlanState) : List PendingTask :=
  let readyTasks :=
    ((hash.order round s.remainingTaskIds).filterMap (pendingById pendingTasks)).filter fun task =>
    !mutexConflict task s.blockedTaskIds && (dependencyReadyTime task s.completionTimes).isSome
  orderReadyTasks strategy readyTasks

def assignmentOf (task : PendingTask) (candidate : RankedActorCandidate) : Assignment :=
  { taskId := task.info.id, actorId := candidate.actorId, startTime := candidate.startTime }

def PlanState.giveUp (s : PlanState) (taskId : TaskId) : PlanState :=
  { s with remainingTaskIds := s.remainingTaskIds.erase taskId }

def PlanState.place (s : PlanState) (task : PendingTask)
    (selection : CandidateSelection) : PlanState :=
  let candidate := selection.candidate
  { remainingTaskIds := s.remainingTaskIds.erase task.info.id
    reservations := reserve s.reservations candidate.actorId
      { start := candidate.startTime, stop := candidate.finishTime, demand := task.info.demand }
    completionTimes := s.completionTimes.assign task.info.id candidate.finishTime
    blockedTaskIds := s.blockedTaskIds.insert task.info.id
    assignments := s.assignments ++ [assignmentOf task candidate]
    rankingDecisionCriterionIndex :=
      s.rankingDecisionCriterionIndex.assign task.info.id selection.rankingReasonIndex }

/-- One ready task of a round, and whether a task was placed in the round up to here. -/
def planTask (progressing : PlanState × Bool) (task : PendingTask) : PlanState × Bool :=
  let (s, progress) := progressing
  if task.info.id ∉ s.remainingTaskIds then (s, progress)
  else if mutexConflict task s.blockedTaskIds then (s.giveUp task.info.id, progress)
  else match selectBestCandidate registry state now profile task s.reservations
    s.completionTimes with
    | none => (s.giveUp task.info.id, progress)
    | some selection => (s.place task selection, true)

/-- The rounds of a planning pass. A round that goes on has placed a task, so there are at
most as many as tasks. -/
def planRounds : Nat → Nat → PlanState → PlanState
  | 0, _, s => s
  | fuel + 1, round, s =>
    if s.remainingTaskIds = [] then s
    else
      let readyTasks := collectReadyTasks hash strategy pendingTasks round s
      if readyTasks.isEmpty then s
      else
        let (next, progress) := readyTasks.foldl (planTask registry state now profile) (s, false)
        if progress then planRounds fuel (round + 1) next else next

end Rounds

def assignmentLess (lhs rhs : Assignment) : Bool :=
  lhs.startTime < rhs.startTime ∨ lhs.startTime = rhs.startTime ∧
    (lhs.taskId < rhs.taskId ∨ lhs.taskId = rhs.taskId ∧ lhs.actorId < rhs.actorId)

section Plan

variable (hash : IterationOrder) (workflow : Workflow) (state : WorkflowState)
variable (registry : ActorRegistry)
variable (now : Time) (strategy : Option SchedulingStrategy)
variable (rankingProfile : Option ActorRankingProfile)

def initialPlanState (pendingTasks : List PendingTask) : PlanState where
  remainingTaskIds := (pendingTasks.map fun task => task.info.id).dedup
  reservations := initializeActorReservations workflow registry state now
  completionTimes := initializeCompletionTimes workflow state now
  blockedTaskIds := state.completedTasks ++ state.assignedTasks

def plan : ScheduleResult :=
  let pendingTasks := collectPendingTasks workflow state
  if pendingTasks.isEmpty then { ok := true }
  else match validateSupportedTasks pendingTasks with
    | some validationError => { ok := false, errorMessage := validationError }
    | none =>
      let initial := initialPlanState workflow state registry now pendingTasks
      let final :=
        planRounds hash registry state now strategy
          (effectiveRankingProfile rankingProfile) pendingTasks
        initial.remainingTaskIds.length 0 initial
      { ok := true
        assignments := sortBy assignmentLess final.assignments
        rankingDecisionCriterionIndex := final.rankingDecisionCriterionIndex }

end Plan

end TaskOrchestrator.Core
