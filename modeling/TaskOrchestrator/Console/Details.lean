import TaskOrchestrator.Console.Tasks

/-!
# Details of a workflow

What the console shows of a workflow with its history. A single time beyond the range of dates makes
all of it fail.
-/

namespace TaskOrchestrator.Console

open Protocol Library ControlPlane

set_option autoImplicit false

structure WorkflowDetail where
  summary : WorkflowSummary
  config : WorkflowConfig
  latestResponse : Option RuntimeApiResponse
  planVersions : List WorkflowPlanVersion
  planDiff : WorkflowPlanDiff
  events : List WorkflowEventRecord
  audits : List AuditEntry

inductive WorkflowState where
  | submitted
  | planning
  | planned
  | paused
  | cancelled
  | failed
  | recovering

def stateFromProto : WorkflowLifecycleState → WorkflowState
  | .submitted => .submitted
  | .planning => .planning
  | .paused => .paused
  | .cancelled => .cancelled
  | .failed => .failed
  | .recovering => .recovering
  | .planned | .unspecified => .planned

structure DisplayedSummary where
  workflowId : WorkflowId
  state : WorkflowState
  createdAtUnixMs : Option Number
  updatedAtUnixMs : Number
  updatedAt : String
  latestPlanVersion : Number
  totalEvents : Number
  totalAuditEntries : Number
  lastError : Option String

structure WorkflowAssignment where
  taskId : TaskId
  actorId : ActorId
  startTimeMs : Number
  endTimeMs : Number
  startAt : String
  endAt : String

structure PlanChange where
  taskId : TaskId
  before : Option String := none
  after : Option String := none

structure DisplayedEvent where
  sequence : Number
  recordedAtUnixMs : Number
  recordedAt : String
  detail : String
  type : String

structure DisplayedAudit where
  sequence : Number
  recordedAtUnixMs : Number
  recordedAt : String
  actor : String
  action : String
  detail : String

def mapWorkflowSummary (browser : Browser) (value : WorkflowSummary) : Option DisplayedSummary := do
  let createdAtUnixMs := parseNumber value.createdAtUnixMs
  let updatedAtUnixMs := parseNumber value.updatedAtUnixMs
  let updatedAt ← formatDateTime browser updatedAtUnixMs
  return {
    workflowId := value.workflowId
    state := stateFromProto value.state
    createdAtUnixMs := if Number.zero.lt createdAtUnixMs then some createdAtUnixMs else none
    updatedAtUnixMs
    updatedAt
    latestPlanVersion := parseNumber value.latestPlanVersion
    totalEvents := parseNumber value.totalEventCount
    totalAuditEntries := parseNumber value.totalAuditEntryCount
    lastError := if value.lastErrorMessage ≠ "" then some value.lastErrorMessage else none }

def mapAssignment (browser : Browser) (scheduleContext : WorkflowScheduleContext)
    (value : Assignment) :
    Option WorkflowAssignment := do
  let startTimeMs := toDisplayTimestamp (parseNumber value.startTime) scheduleContext false
  let endTimeMs := toDisplayTimestamp (parseNumber value.endTime) scheduleContext false
  let startAt ← formatDateTime browser startTimeMs
  let endAt ← formatDateTime browser endTimeMs
  return {
    taskId := value.taskId, actorId := value.actorId, startTimeMs, endTimeMs, startAt, endAt }

/-- The name of the type in the schema, without its prefix and in lower case. -/
def formatEventType : WorkflowEventType → String
  | .unspecified => "event"
  | .requestRejected => "request rejected"
  | .workflowAccepted => "workflow accepted"
  | .runtimeOverrideApplied => "runtime override applied"
  | .taskCompleted => "task completed"
  | .replanningStarted => "replanning started"
  | .taskPlanned => "task planned"
  | .runFinished => "run finished"

def mapEventRecord (browser : Browser) (value : WorkflowEventRecord) : Option DisplayedEvent := do
  let recordedAtUnixMs := parseNumber value.recordedAtUnixMs
  let recordedAt ← formatClockTime browser recordedAtUnixMs
  return {
    sequence := parseNumber value.sequence
    recordedAtUnixMs
    recordedAt
    detail := value.event.detail
    type := formatEventType value.event.type }

def mapAuditEntry (browser : Browser) (value : AuditEntry) : Option DisplayedAudit := do
  let recordedAtUnixMs := parseNumber value.recordedAtUnixMs
  let recordedAt ← formatClockTime browser recordedAtUnixMs
  return {
    sequence := parseNumber value.sequence
    recordedAtUnixMs
    recordedAt
    actor := value.actor
    action := value.action
    detail := value.detail }

def formatPlanStartTime (browser : Browser) (value : Int)
    (scheduleContext : WorkflowScheduleContext) : Option String :=
  formatClockTime browser (toDisplayTimestamp (parseNumber value) scheduleContext false)

/-- An assignment in a difference. An empty actor is left out of the message. -/
def planText (browser : Browser) (scheduleContext : WorkflowScheduleContext)
    (assignment : Assignment) : Option String :=
  (formatPlanStartTime browser assignment.startTime scheduleContext).map fun start =>
    (if assignment.actorId = "" then "unassigned" else assignment.actorId) ++ " @ " ++ start

def mapPlanDiff (browser : Browser) (value : WorkflowPlanDiff)
    (scheduleContext : WorkflowScheduleContext) :
    Option (List PlanChange) := do
  let added ← value.addedAssignments.mapM fun assignment => do
    let after ← planText browser scheduleContext assignment
    return { taskId := assignment.taskId, after := some after }
  let removed ← value.removedAssignments.mapM fun assignment => do
    let before ← planText browser scheduleContext assignment
    return { taskId := assignment.taskId, before := some before }
  let changed ← value.changedAssignments.mapM fun assignment => do
    let before ← planText browser scheduleContext assignment.before
    let after ← planText browser scheduleContext assignment.after
    return {
      taskId :=
        if assignment.before.taskId = "" then assignment.after.taskId else assignment.before.taskId
      before := some before
      after := some after }
  return added ++ removed ++ changed

def extractAssignmentsFromPlanVersions (planVersions : List WorkflowPlanVersion) :
    List Assignment :=
  ((planVersions.reverse.map fun version => version.response.result.assignments).find?
    fun assignments =>
    !assignments.isEmpty).getD []

def rawAssignments (detail : WorkflowDetail) : List Assignment :=
  let latest := (detail.latestResponse.map fun response => response.result.assignments).getD []
  if latest.isEmpty then extractAssignmentsFromPlanVersions detail.planVersions else latest

structure DisplayedHistory where
  summary : DisplayedSummary
  assignments : List WorkflowAssignment
  planDiff : List PlanChange
  events : List DisplayedEvent
  audits : List DisplayedAudit
  operatorsNote : String

def displayHistory (browser : Browser) (scheduleContext : WorkflowScheduleContext)
    (detail : WorkflowDetail) :
    Option DisplayedHistory := do
  let summary ← mapWorkflowSummary browser detail.summary
  let audits ← detail.audits.mapM (mapAuditEntry browser)
  let planDiff ← mapPlanDiff browser detail.planDiff scheduleContext
  let assignments ← (rawAssignments detail).mapM (mapAssignment browser scheduleContext)
  let events ← detail.events.mapM (mapEventRecord browser)
  return {
    summary
    assignments
    planDiff
    events
    audits
    operatorsNote :=
      (audits.getLast?.map DisplayedAudit.detail).getD "No operator note recorded yet." }

structure DisplayedWorkflow extends DisplayedHistory where
  scheduleMode : WorkflowScheduleMode
  scheduleAnchorMs : Option Number
  actors : List WorkflowActor
  tasks : List WorkflowTask

/-- The order of the tasks: a difference that is NaN counts as zero. -/
def startsNoLater (left right : WorkflowTask) : Bool :=
  !right.requestedTimeMs.lt left.requestedTimeMs

/-- `mapWorkflowDetail` for a history that was found. -/
def displayWorkflow (browser : Browser) (now : ℕ) (detail : WorkflowDetail) :
    Option DisplayedWorkflow := do
  let scheduleContext :=
    deriveScheduleContext now detail.summary detail.config.tasks (rawAssignments detail)
  let history ← displayHistory browser scheduleContext detail
  let tasks ← detail.config.tasks.mapM fun task => mapWorkflowTask browser task scheduleContext
  return {
    toDisplayedHistory := history
    scheduleMode := scheduleContext.mode
    scheduleAnchorMs := scheduleContext.anchorMs
    actors := detail.config.actors.map mapWorkflowActor
    tasks := tasks.mergeSort startsNoLater }

/-- The time that is shown for a start or an end. -/
def plannedTime (scheduleContext : WorkflowScheduleContext) (value : Int) : Number :=
  toDisplayTimestamp (parseNumber value) scheduleContext false

def assignmentTimes (scheduleContext : WorkflowScheduleContext)
    (value : Assignment) : List Number :=
  [plannedTime scheduleContext value.startTime, plannedTime scheduleContext value.endTime]

def planDiffTimes (scheduleContext : WorkflowScheduleContext)
    (value : WorkflowPlanDiff) : List Number :=
  (value.addedAssignments.map fun assignment => plannedTime scheduleContext assignment.startTime) ++
    (value.removedAssignments.map fun assignment =>
      plannedTime scheduleContext assignment.startTime) ++
    value.changedAssignments.flatMap fun change =>
      [plannedTime scheduleContext change.before.startTime,
        plannedTime scheduleContext change.after.startTime]

def historyTimes (scheduleContext : WorkflowScheduleContext)
    (detail : WorkflowDetail) : List Number :=
  [parseNumber detail.summary.updatedAtUnixMs] ++
    (detail.audits.map fun entry => parseNumber entry.recordedAtUnixMs) ++
    planDiffTimes scheduleContext detail.planDiff ++
    (rawAssignments detail).flatMap (assignmentTimes scheduleContext) ++
    detail.events.map fun event => parseNumber event.recordedAtUnixMs

def taskTimes (scheduleContext : WorkflowScheduleContext) (task : TaskConfig) : List Number :=
  [toDisplayTimestamp (parseNumber task.requestedTime) scheduleContext false,
    toDisplayTimestamp (parseNumber task.latestStartTime) scheduleContext true,
    toDisplayTimestamp (parseNumber task.deadline) scheduleContext true]

def detailTimes (now : ℕ) (detail : WorkflowDetail) : List Number :=
  let scheduleContext :=
    deriveScheduleContext now detail.summary detail.config.tasks (rawAssignments detail)
  historyTimes scheduleContext detail ++ detail.config.tasks.flatMap (taskTimes scheduleContext)

def Prints {α : Type} (value : Option α) (times : List Number) : Prop :=
  value.isSome ↔ ∀ time ∈ times, withinDates time = true

namespace Prints

variable {α β : Type} {value : Option α} {times others : List Number}

theorem pure (a : α) : Prints (some a) [] := iff_of_true rfl fun _ h => absurd h List.not_mem_nil

theorem map (h : Prints value times) (f : α → β) : Prints (value.map f) times := by
  rwa [Prints, Option.isSome_map]

theorem bind {f : α → Option β} (h : Prints value times) (hf : ∀ a, Prints (f a) others) :
    Prints (value.bind f) (times ++ others) := by
  rw [Prints, List.forall_mem_append]
  cases value with
  | none =>
    exact iff_of_false Bool.false_ne_true fun hboth => absurd (h.mpr hboth.1) Bool.false_ne_true
  | some a => exact (hf a).trans ⟨fun hothers => ⟨h.mp rfl, hothers⟩, And.right⟩

theorem bind_pure {f : α → β} (h : Prints value times) :
    Prints (value.bind fun a => some (f a)) times := by
  simpa only [List.append_nil] using h.bind fun a => pure (f a)

theorem mapM {f : β → Option α} {g : β → List Number} (hf : ∀ item, Prints (f item) (g item))
    (items : List β) :
    Prints (items.mapM f) (items.flatMap g) := by
  induction items with
  | nil => exact pure []
  | cons item rest ih =>
    rw [List.mapM_cons, List.flatMap_cons]
    exact (hf item).bind fun _ => ih.bind_pure

theorem mapM_single {f : β → Option α} {g : β → Number} (hf : ∀ item, Prints (f item) [g item])
    (items : List β) :
    Prints (items.mapM f) (items.map g) := by
  rw [List.map_eq_flatMap]
  exact mapM hf items

end Prints

section Printed

variable (browser : Browser) (scheduleContext : WorkflowScheduleContext)

theorem prints_formatDateTime (time : Number) : Prints (formatDateTime browser time) [time] := by
  simp [Prints, formatDateTime, formatTime_isSome]

theorem prints_formatClockTime (time : Number) : Prints (formatClockTime browser time) [time] := by
  simp [Prints, formatClockTime, formatTime_isSome]

theorem prints_formatIfSet (time : Number) : Prints (formatIfSet browser time) [time] := by
  rw [Prints, formatIfSet_isSome_iff]
  exact prints_formatDateTime browser time

theorem prints_mapWorkflowSummary (value : WorkflowSummary) :
    Prints (mapWorkflowSummary browser value) [parseNumber value.updatedAtUnixMs] :=
  (prints_formatDateTime browser _).bind_pure

theorem prints_planText (assignment : Assignment) :
    Prints (planText browser scheduleContext assignment)
      [plannedTime scheduleContext assignment.startTime] :=
  (prints_formatClockTime browser _).map _

theorem prints_mapPlanDiff (value : WorkflowPlanDiff) :
    Prints (mapPlanDiff browser value scheduleContext) (planDiffTimes scheduleContext value) := by
  rw [planDiffTimes, List.append_assoc]
  refine (Prints.mapM_single (fun assignment => ?_) _).bind fun added =>
    (Prints.mapM_single (fun assignment => ?_) _).bind fun removed =>
      (Prints.mapM (fun change => ?_) _).bind_pure
  · exact (prints_planText browser scheduleContext assignment).bind_pure
  · exact (prints_planText browser scheduleContext assignment).bind_pure
  · exact (prints_planText browser scheduleContext change.before).bind fun _ =>
      (prints_planText browser scheduleContext change.after).bind_pure

theorem prints_displayHistory (detail : WorkflowDetail) :
    Prints (displayHistory browser scheduleContext detail)
    (historyTimes scheduleContext detail) := by
  rw [historyTimes, List.append_assoc, List.append_assoc, List.append_assoc]
  refine (prints_mapWorkflowSummary browser detail.summary).bind fun _ =>
    (Prints.mapM_single (fun entry => ?_) _).bind fun _ =>
    (prints_mapPlanDiff browser scheduleContext detail.planDiff).bind fun _ =>
    (Prints.mapM (fun assignment => ?_) _).bind fun _ =>
      (Prints.mapM_single (fun event => ?_) _).bind_pure
  · exact (prints_formatClockTime browser _).bind_pure
  · exact (prints_formatDateTime browser _).bind fun _ =>
      (prints_formatDateTime browser _).bind_pure
  · exact (prints_formatClockTime browser _).bind_pure

theorem prints_mapWorkflowTask (task : TaskConfig) :
    Prints (mapWorkflowTask browser task scheduleContext) (taskTimes scheduleContext task) :=
  (prints_formatDateTime browser _).bind fun _ => (prints_formatIfSet browser _).bind fun _ =>
    (prints_formatIfSet browser _).bind_pure

theorem prints_displayWorkflow (now : ℕ) (detail : WorkflowDetail) :
    Prints (displayWorkflow browser now detail) (detailTimes now detail) :=
  (prints_displayHistory browser _ detail).bind fun _ =>
    (Prints.mapM (fun task => prints_mapWorkflowTask browser _ task) _).bind_pure

end Printed

end TaskOrchestrator.Console
