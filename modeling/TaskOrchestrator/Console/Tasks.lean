import TaskOrchestrator.Console.ScheduleTime
import TaskOrchestrator.Library.Loops

/-!
# Tasks and actors of the console

How the console shows the tasks and the actors of a workflow, and what it sends for them.
-/

namespace TaskOrchestrator.Console

open Protocol Library

set_option autoImplicit false

structure WorkflowActor where
  id : ActorId
  type : String
  capacity : Option Number
  capabilities : List String
  deriving DecidableEq

structure WorkflowTaskDistance where
  actorId : ActorId
  distance : Number
  deriving DecidableEq

structure WorkflowTask where
  id : TaskId
  requestedTimeMs : Number
  requestedAt : String
  durationMs : Number
  durationMinutes : Number
  latestStartTimeMs : Number
  latestStartAt : Option String
  deadlineMs : Number
  deadlineAt : Option String
  scheduleMode : Option WorkflowScheduleMode
  scheduleAnchorMs : Option Number
  priority : Number
  demand : Option Number
  mandatory : Bool
  preemptible : Bool
  allowedActorTypes : List String
  allowedActorIds : List ActorId
  preferredActorIds : List ActorId
  requiredCapabilities : List String
  dependencyTaskIds : List TaskId
  mutuallyExclusiveTaskIds : List TaskId
  actorDistances : List WorkflowTaskDistance
  tardinessCostPerUnit : Rat
  earlyStartBonus : Rat
  phaseDurations : List Number
  deriving DecidableEq

def mapWorkflowActor (value : ActorConfig) : WorkflowActor where
  id := value.id
  type := value.type
  capacity := value.capacity.map parseNumber
  capabilities := value.capabilities

def formatIfSet (browser : Browser) (value : Number) : Option (Option String) :=
  if Number.zero.lt value then (formatDateTime browser value).map some else some none

def toDurationMinutes (durationMs : Number) : Number :=
  Number.max .zero (durationMs / minuteInMs).round

def mapActorDistance (distance : ActorDistance) : WorkflowTaskDistance where
  actorId := distance.actorId
  distance := parseNumber distance.distance

def mapWorkflowTask (browser : Browser) (value : TaskConfig)
    (scheduleContext : WorkflowScheduleContext) :
    Option WorkflowTask := do
  let requestedTimeMs := toDisplayTimestamp (parseNumber value.requestedTime) scheduleContext false
  let durationMs := toDisplayDurationMs (parseNumber value.duration) scheduleContext
  let latestStartTimeMs :=
    toDisplayTimestamp (parseNumber value.latestStartTime) scheduleContext true
  let deadlineMs := toDisplayTimestamp (parseNumber value.deadline) scheduleContext true
  let requestedAt ← formatDateTime browser requestedTimeMs
  let latestStartAt ← formatIfSet browser latestStartTimeMs
  let deadlineAt ← formatIfSet browser deadlineMs
  return {
    id := value.id
    requestedTimeMs
    requestedAt
    durationMs
    durationMinutes := toDurationMinutes durationMs
    latestStartTimeMs
    latestStartAt
    deadlineMs
    deadlineAt
    scheduleMode := some scheduleContext.mode
    scheduleAnchorMs := scheduleContext.anchorMs
    priority := parseNumber value.priority
    demand := value.demand.map parseNumber
    -- An absent value is not true.
    mandatory := value.mandatory == some true
    preemptible := value.preemptible == some true
    allowedActorTypes := value.allowedActorTypes
    allowedActorIds := value.allowedActorIds
    preferredActorIds := value.preferredActorIds
    requiredCapabilities := value.requiredCapabilities
    dependencyTaskIds := value.dependencyTaskIds
    mutuallyExclusiveTaskIds := value.mutuallyExclusiveTaskIds
    actorDistances := value.actorDistances.map mapActorDistance
    tardinessCostPerUnit := value.tardinessCostPerUnit
    earlyStartBonus := value.earlyStartBonus
    phaseDurations := value.phaseDurations.map parseNumber }

structure ActorPayload where
  id : ActorId
  type : String
  capacity : Option NumberText
  capabilities : List String

structure TaskPayload where
  id : TaskId
  requestedTime : NumberText
  duration : NumberText
  latestStartTime : NumberText
  deadline : NumberText
  priority : NumberText
  demand : Option NumberText
  mandatory : Bool
  preemptible : Bool
  allowedActorTypes : List String
  allowedActorIds : List ActorId
  preferredActorIds : List ActorId
  requiredCapabilities : List String
  dependencyTaskIds : List TaskId
  mutuallyExclusiveTaskIds : List TaskId
  actorDistances : List (ActorId × NumberText)
  tardinessCostPerUnit : Rat
  earlyStartBonus : Rat
  phaseDurations : List NumberText

def toActorPayload (actor : WorkflowActor) : ActorPayload where
  id := actor.id
  type := actor.type
  capacity := actor.capacity.map numberText
  capabilities := actor.capabilities

def WorkflowTask.scheduleContext (task : WorkflowTask) : WorkflowScheduleContext where
  mode := task.scheduleMode.getD .absoluteMs
  anchorMs := task.scheduleAnchorMs

def toTaskPayload (task : WorkflowTask) : TaskPayload where
  id := task.id
  requestedTime := numberText (fromDisplayTimestamp task.requestedTimeMs task.scheduleContext false)
  duration := numberText (fromDisplayDurationMs task.durationMs task.scheduleContext)
  latestStartTime :=
    numberText (fromDisplayTimestamp task.latestStartTimeMs task.scheduleContext true)
  deadline := numberText (fromDisplayTimestamp task.deadlineMs task.scheduleContext true)
  priority := numberText task.priority
  demand := task.demand.map numberText
  mandatory := task.mandatory
  preemptible := task.preemptible
  allowedActorTypes := task.allowedActorTypes
  allowedActorIds := task.allowedActorIds
  preferredActorIds := task.preferredActorIds
  requiredCapabilities := task.requiredCapabilities
  dependencyTaskIds := task.dependencyTaskIds
  mutuallyExclusiveTaskIds := task.mutuallyExclusiveTaskIds
  actorDistances := task.actorDistances.map fun distance =>
    (distance.actorId, numberText distance.distance)
  tardinessCostPerUnit := task.tardinessCostPerUnit
  earlyStartBonus := task.earlyStartBonus
  phaseDurations := task.phaseDurations.map numberText

/-- An optional field that is left out of the body is absent. -/
def readOptionalInt32 : Option NumberText → Option (Option ℤ)
  | none => some none
  | some text => (readInt32 text).map some

def readActor (payload : ActorPayload) : Option ActorConfig := do
  let capacity ← readOptionalInt32 payload.capacity
  return { id := payload.id, type := payload.type, capacity, capabilities := payload.capabilities }

def readDistance (distance : ActorId × NumberText) : Option ActorDistance := do
  let value ← readInt64 distance.2
  return { actorId := distance.1, distance := value }

/-- The message of a body; a body with a number that does not fit its field is refused. -/
def readTask (payload : TaskPayload) : Option TaskConfig := do
  let requestedTime ← readInt64 payload.requestedTime
  let duration ← readInt64 payload.duration
  let latestStartTime ← readInt64 payload.latestStartTime
  let deadline ← readInt64 payload.deadline
  let priority ← readInt64 payload.priority
  let demand ← readOptionalInt32 payload.demand
  let actorDistances ← payload.actorDistances.mapM readDistance
  let phaseDurations ← payload.phaseDurations.mapM readInt64
  return {
    id := payload.id
    requestedTime
    duration
    latestStartTime
    deadline
    priority
    demand
    mandatory := some payload.mandatory
    preemptible := some payload.preemptible
    allowedActorTypes := payload.allowedActorTypes
    allowedActorIds := payload.allowedActorIds
    preferredActorIds := payload.preferredActorIds
    requiredCapabilities := payload.requiredCapabilities
    dependencyTaskIds := payload.dependencyTaskIds
    mutuallyExclusiveTaskIds := payload.mutuallyExclusiveTaskIds
    actorDistances
    tardinessCostPerUnit := payload.tardinessCostPerUnit
    earlyStartBonus := payload.earlyStartBonus
    phaseDurations }

structure ShownAs (browser : Browser) (context : WorkflowScheduleContext) (value : TaskConfig)
    (task : WorkflowTask) :
    Prop where
  id : task.id = value.id
  requestedTimeMs : task.requestedTimeMs =
    toDisplayTimestamp (parseNumber value.requestedTime) context false
  requestedAt : formatDateTime browser task.requestedTimeMs = some task.requestedAt
  durationMs : task.durationMs = toDisplayDurationMs (parseNumber value.duration) context
  durationMinutes : task.durationMinutes =
    toDurationMinutes (toDisplayDurationMs (parseNumber value.duration) context)
  latestStartTimeMs : task.latestStartTimeMs =
    toDisplayTimestamp (parseNumber value.latestStartTime) context true
  latestStartAt : formatIfSet browser task.latestStartTimeMs = some task.latestStartAt
  deadlineMs : task.deadlineMs = toDisplayTimestamp (parseNumber value.deadline) context true
  deadlineAt : formatIfSet browser task.deadlineMs = some task.deadlineAt
  scheduleMode : task.scheduleMode = some context.mode
  scheduleAnchorMs : task.scheduleAnchorMs = context.anchorMs
  priority : task.priority = parseNumber value.priority
  demand : task.demand = value.demand.map parseNumber
  mandatory : task.mandatory = (value.mandatory == some true)
  preemptible : task.preemptible = (value.preemptible == some true)
  allowedActorTypes : task.allowedActorTypes = value.allowedActorTypes
  allowedActorIds : task.allowedActorIds = value.allowedActorIds
  preferredActorIds : task.preferredActorIds = value.preferredActorIds
  requiredCapabilities : task.requiredCapabilities = value.requiredCapabilities
  dependencyTaskIds : task.dependencyTaskIds = value.dependencyTaskIds
  mutuallyExclusiveTaskIds : task.mutuallyExclusiveTaskIds = value.mutuallyExclusiveTaskIds
  actorDistances : task.actorDistances = value.actorDistances.map mapActorDistance
  tardinessCostPerUnit : task.tardinessCostPerUnit = value.tardinessCostPerUnit
  earlyStartBonus : task.earlyStartBonus = value.earlyStartBonus
  phaseDurations : task.phaseDurations = value.phaseDurations.map parseNumber

theorem mapWorkflowTask_eq_some_iff {browser : Browser} {context : WorkflowScheduleContext}
    {value : TaskConfig} {task : WorkflowTask} :
    mapWorkflowTask browser value context = some task ↔ ShownAs browser context value task := by
  simp only [mapWorkflowTask, Option.bind_eq_bind, Option.bind_eq_some_iff, Option.pure_def,
    Option.some.injEq]
  constructor
  · rintro ⟨requestedAt, hrequested, latestStartAt, hlatest, deadlineAt, hdeadline, rfl⟩
    constructor <;> first | rfl | assumption
  · intro h
    refine ⟨task.requestedAt, ?_, task.latestStartAt, ?_, task.deadlineAt, ?_, ?_⟩
    · rw [← h.requestedTimeMs, h.requestedAt]
    · rw [← h.latestStartTimeMs, h.latestStartAt]
    · rw [← h.deadlineMs, h.deadlineAt]
    · obtain ⟨⟩ := task
      obtain ⟨rfl, rfl, -, rfl, rfl, rfl, -, rfl, -, rfl, rfl, rfl, rfl, rfl, rfl, rfl, rfl, rfl,
          rfl, rfl, rfl, rfl, rfl,
        rfl, rfl⟩ := h
      rfl

structure ReadAs (payload : TaskPayload) (task : TaskConfig) : Prop where
  id : task.id = payload.id
  requestedTime : readInt64 payload.requestedTime = some task.requestedTime
  duration : readInt64 payload.duration = some task.duration
  latestStartTime : readInt64 payload.latestStartTime = some task.latestStartTime
  deadline : readInt64 payload.deadline = some task.deadline
  priority : readInt64 payload.priority = some task.priority
  demand : readOptionalInt32 payload.demand = some task.demand
  mandatory : task.mandatory = some payload.mandatory
  preemptible : task.preemptible = some payload.preemptible
  allowedActorTypes : task.allowedActorTypes = payload.allowedActorTypes
  allowedActorIds : task.allowedActorIds = payload.allowedActorIds
  preferredActorIds : task.preferredActorIds = payload.preferredActorIds
  requiredCapabilities : task.requiredCapabilities = payload.requiredCapabilities
  dependencyTaskIds : task.dependencyTaskIds = payload.dependencyTaskIds
  mutuallyExclusiveTaskIds : task.mutuallyExclusiveTaskIds = payload.mutuallyExclusiveTaskIds
  actorDistances : payload.actorDistances.mapM readDistance = some task.actorDistances
  tardinessCostPerUnit : task.tardinessCostPerUnit = payload.tardinessCostPerUnit
  earlyStartBonus : task.earlyStartBonus = payload.earlyStartBonus
  phaseDurations : payload.phaseDurations.mapM readInt64 = some task.phaseDurations

theorem readTask_eq_some_iff {payload : TaskPayload} {task : TaskConfig} :
    readTask payload = some task ↔ ReadAs payload task := by
  simp only [readTask, Option.bind_eq_bind, Option.bind_eq_some_iff, Option.pure_def,
    Option.some.injEq]
  constructor
  · rintro ⟨requestedTime, hrequested, duration, hduration, latestStartTime, hlatest, deadline,
      hdeadline, priority, hpriority, demand, hdemand, actorDistances, hdistances, phaseDurations,
      hphases, rfl⟩
    constructor <;> first | rfl | assumption
  · intro h
    refine ⟨_, h.requestedTime, _, h.duration, _, h.latestStartTime, _, h.deadline, _, h.priority,
      _, h.demand, _, h.actorDistances, _, h.phaseDurations, ?_⟩
    obtain ⟨⟩ := task
    obtain ⟨rfl, -, -, -, -, -, -, rfl, rfl, rfl, rfl, rfl, rfl, rfl, rfl, -, rfl, rfl, -⟩ := h
    rfl

theorem formatIfSet_isSome_iff {browser : Browser} {value : Number} :
    (formatIfSet browser value).isSome ↔ (formatDateTime browser value).isSome := by
  rw [formatIfSet]
  split_ifs with hset
  · rw [Option.isSome_map]
  · cases value with
    | nan => exact Iff.rfl
    | finite q =>
      have hle : q ≤ 0 := by simpa [Number.zero] using hset
      exact iff_of_true rfl (formatDateTime_isSome_iff.mpr (le_trans hle (by norm_num [lastDate])))

end TaskOrchestrator.Console
