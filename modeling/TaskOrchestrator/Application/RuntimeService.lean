import TaskOrchestrator.Application.Config
import TaskOrchestrator.Library.KeyedRows

/-!
# The in-memory runtime service

`InMemoryWorkflowRuntimeService`: one session per workflow id, held in `workflows_`.
A stream changes the sessions only inside its one locked section, before its first
event, so a stream is modelled as one call that returns its events and the sessions
it leaves. The optimizer is a parameter.
-/

namespace TaskOrchestrator.App

open Protocol (RuntimeApiResponse WorkflowEvent WorkflowEventType ClientAuthContext SecurityConfig
  SubmitWorkflowRequest ReorchestrateRequest TaskStateOverride ActorStateOverride)
open Library (Dictionary)

set_option autoImplicit false

abbrev Sessions := Dictionary WorkflowId WorkflowConfig

def kRuntimeOverrideAvailabilityStart : Time := 0
def kRuntimeOverrideAvailabilityEnd : Time := 1000000

def makeRuntimeErrorResponse (errorMessage : String) : RuntimeApiResponse where
  ok := false
  result := { ok := false, errorMessage := errorMessage }
  errorMessage := errorMessage

/-- The first task with an id wins, as with `unordered_map::emplace`. -/
def taskDurationForId (workflow : WorkflowConfig) (taskId : TaskId) : Duration :=
  ((workflow.tasks.find? fun task => task.id = taskId).map TaskConfig.duration).getD 0

def toProtoAssignment (workflow : WorkflowConfig) (assignment : Assignment) :
    Protocol.Assignment where
  taskId := assignment.taskId
  actorId := assignment.actorId
  startTime := assignment.startTime
  endTime := assignment.startTime + taskDurationForId workflow assignment.taskId

def populateProtoRunResult (result : RunResult) (workflow : WorkflowConfig) :
    Protocol.RunResult where
  ok := result.ok
  capacityIssue := result.capacityIssue
  assignments := result.assignments.map (toProtoAssignment workflow)
  unfulfilledTaskIds := result.unfulfilledTaskIds
  errorMessage := result.errorMessage

def makeRuntimeResponse (result : RunResult) (workflow : WorkflowConfig) : RuntimeApiResponse where
  ok := result.ok
  result := populateProtoRunResult result workflow
  errorMessage := result.errorMessage

def makeEvent (type : WorkflowEventType) (workflowId : WorkflowId) (detail : String) :
    WorkflowEvent :=
  { type := type, workflowId := workflowId, detail := detail }

def makeResponseEvent (type : WorkflowEventType) (workflowId : WorkflowId)
    (response : RuntimeApiResponse) (detail : String) : WorkflowEvent :=
  { makeEvent type workflowId detail with response := some response }

def consumeFinalResponse (events : List WorkflowEvent) : RuntimeApiResponse :=
  events.foldl (fun response event => event.response.getD response)
    (makeRuntimeErrorResponse "Workflow execution did not produce a final response.")

def removeCompletedTaskDependencies (config : WorkflowConfig) (completedTaskId : TaskId) :
    WorkflowConfig :=
  { config with tasks := config.tasks.map fun task =>
      { task with dependencyTaskIds := task.dependencyTaskIds.filter fun id =>
        id ≠ completedTaskId } }

/-- `std::ranges::find` and an update through the iterator: the first match changes. -/
def updateFirst {α : Type} (p : α → Bool) (f : α → α) : List α → List α
  | [] => []
  | x :: xs => if p x then f x :: xs else x :: updateFirst p f xs

def overrideTask (override : TaskStateOverride) (task : TaskConfig) : TaskConfig :=
  { task with
    requestedTime := override.requestedTime.getD task.requestedTime
    deadline := override.deadline.getD task.deadline
    priority := (override.priority.map toPriority).getD task.priority
    allowedActorIds :=
      (override.pinnedActorId.map fun actorId => [actorId]).getD task.allowedActorIds }

def applyTaskOverride (config : WorkflowConfig) (override : TaskStateOverride) : WorkflowConfig :=
  if config.tasks.any fun task => task.id = override.taskId then
    if override.completed = some true then
      removeCompletedTaskDependencies
        { config with tasks := config.tasks.eraseP fun task => task.id = override.taskId }
        override.taskId
    else
      { config with tasks :=
          updateFirst (fun task => task.id = override.taskId) (overrideTask override) config.tasks }
  else config

def overrideActor (override : ActorStateOverride) (actor : ActorConfig) : ActorConfig :=
  { actor with
    capacity := override.capacity.getD actor.capacity
    windows := match override.unavailable with
      | some true => []
      | some false =>
        if actor.windows = [] then
          [{ start := kRuntimeOverrideAvailabilityStart, stop := kRuntimeOverrideAvailabilityEnd }]
        else actor.windows
      | none => actor.windows }

def applyActorOverride (config : WorkflowConfig) (override : ActorStateOverride) : WorkflowConfig :=
  { config with
    actors :=
      updateFirst (fun actor => actor.id = override.actorId) (overrideActor override)
        config.actors }

def applyOverrides (request : ReorchestrateRequest) (config : WorkflowConfig) : WorkflowConfig :=
  request.actorOverrides.foldl applyActorOverride
    (request.taskOverrides.foldl applyTaskOverride config)

def authorize (security : SecurityConfig) (auth : ClientAuthContext) : RuntimeApiResponse :=
  if security.requireSecureTransport && !auth.secureTransport then
    makeRuntimeErrorResponse "Secure transport is required for this API."
  else if security.mode = .bearerToken && auth.bearerToken ≠ security.expectedCredential then
    makeRuntimeErrorResponse "Bearer token authentication failed."
  else if security.mode = .apiKey && auth.apiKey ≠ security.expectedCredential then
    makeRuntimeErrorResponse "API key authentication failed."
  else { ok := true, result := { ok := true } }

def planningEvents (result : RunResult) (config : WorkflowConfig) (workflowId : WorkflowId)
    (detail : String) : List WorkflowEvent :=
  (result.assignments.map fun assignment =>
    { makeEvent .taskPlanned workflowId "Task assignment planned." with
      taskId := assignment.taskId
      actorId := assignment.actorId
      startTime := assignment.startTime
      endTime := assignment.startTime + taskDurationForId config assignment.taskId }) ++
  [makeResponseEvent .runFinished workflowId (makeRuntimeResponse result config) detail]

variable (security : SecurityConfig) (optimize : WorkflowConfig → RunResult)

def streamSubmitWorkflow (request : SubmitWorkflowRequest) (sessions : Sessions) :
    List WorkflowEvent × Sessions :=
  let authResponse := authorize security request.auth
  if authResponse.ok then
    let config := toAppWorkflow request.config
    let replaceExisting := request.replaceExisting.getD true
    if !replaceExisting && (sessions.lookup config.id).isSome then
      let response :=
        makeRuntimeErrorResponse "Workflow already exists and replace_existing is false."
      ([makeResponseEvent .requestRejected config.id response response.errorMessage], sessions)
    else
      ([makeEvent .workflowAccepted config.id "Workflow accepted and stored.",
        makeEvent .replanningStarted config.id "Initial optimization started."] ++
        planningEvents (optimize config) config config.id "Initial optimization finished.",
        sessions.assign config.id config)
  else
    ([makeResponseEvent .requestRejected request.config.id authResponse authResponse.errorMessage],
      sessions)

def taskOverrideEvent (workflowId : WorkflowId) (override : TaskStateOverride) : WorkflowEvent :=
  if override.completed = some true then
    { makeEvent .taskCompleted workflowId "Task marked completed." with taskId := override.taskId }
  else
    { makeEvent .runtimeOverrideApplied workflowId "Task override applied." with taskId :=
      override.taskId }

def actorOverrideEvent (workflowId : WorkflowId) (override : ActorStateOverride) : WorkflowEvent :=
  { makeEvent .runtimeOverrideApplied workflowId "Actor override applied." with actorId :=
    override.actorId }

def streamReorchestrate (request : ReorchestrateRequest) (sessions : Sessions) :
    List WorkflowEvent × Sessions :=
  let authResponse := authorize security request.auth
  if authResponse.ok then
    match sessions.lookup request.workflowId with
    | none =>
      let response := makeRuntimeErrorResponse "Workflow session not found."
      ([makeResponseEvent .requestRejected request.workflowId response response.errorMessage],
        sessions)
    | some session =>
      let config := applyOverrides request session
      let overrideEvents :=
        request.taskOverrides.map (taskOverrideEvent request.workflowId) ++
        request.actorOverrides.map (actorOverrideEvent request.workflowId)
      let planning :=
        if request.triggerReorchestration.getD true then
          makeEvent .replanningStarted request.workflowId "Replanning started." ::
            planningEvents (optimize config) config request.workflowId "Replanning finished."
        else
          [makeResponseEvent .runFinished request.workflowId
            { ok := true, result := { ok := true } }
            "Overrides stored without replanning."]
      (overrideEvents ++ planning, sessions.assign request.workflowId config)
  else
    ([makeResponseEvent .requestRejected request.workflowId authResponse authResponse.errorMessage],
      sessions)

def submitWorkflow (request : SubmitWorkflowRequest) (sessions : Sessions) :
    RuntimeApiResponse × Sessions :=
  let stream := streamSubmitWorkflow security optimize request sessions
  (consumeFinalResponse stream.1, stream.2)

def reorchestrate (request : ReorchestrateRequest) (sessions : Sessions) :
    RuntimeApiResponse × Sessions :=
  let stream := streamReorchestrate security optimize request sessions
  (consumeFinalResponse stream.1, stream.2)

end TaskOrchestrator.App
