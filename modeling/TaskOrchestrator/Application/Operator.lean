import TaskOrchestrator.ControlPlane.Service

/-!
# The operator service

The mutations of `OperatorService` over the control plane, which is the runtime service
it is given in service mode. Each returns the arguments of `build_mutation_response`;
the dashboard that is attached to them is read-only and is not part of this module.
-/

namespace TaskOrchestrator.Operator

open Protocol ControlPlane

set_option autoImplicit false

structure MutationOutcome where
  selectedWorkflowId : WorkflowId := ""
  ok : Bool
  errorMessage : String := ""
  deriving DecidableEq

def kDefaultOperatorActor : String := "operator_ui"

def resolveActor (actor : String) : String := if actor = "" then kDefaultOperatorActor else actor

def runtimeErrorMessage (response : RuntimeApiResponse) : String :=
  if !response.ok && response.errorMessage ≠ "" then response.errorMessage
  else if !response.result.ok && response.result.errorMessage ≠ "" then response.result.errorMessage
  else ""

def appendAuditEntry (workflowId : WorkflowId) (actor action detail : String) : Service Unit := do
  match ← getWorkflow workflowId with
  | none => pure ()
  | some stored => do
    let recordedAt ← unixTimeMsNow
    let sequence := stored.summary.totalAuditEntryCount + 1
    writeAuditEntry workflowId
      { sequence := sequence
        recordedAtUnixMs := recordedAt
        actor := resolveActor actor
        action := action
        detail := detail }
    upsertWorkflow { stored with
      summary.totalAuditEntryCount := sequence
      summary.updatedAtUnixMs := recordedAt }
    publishWorkflowUpdate workflowId

def replacementRequest (config : WorkflowConfig) (auth : ClientAuthContext)
    (idempotencyKey : Option String) :
    SubmitWorkflowRequest where
  config := config
  auth := auth
  replaceExisting := some true
  idempotencyKey := idempotencyKey

variable (env : Environment)

/-- The common end of the three mutations: submit the new definition through the control
plane, record the audit entry, and report the error message of the response. -/
def submitAndAudit (config : WorkflowConfig) (auth : ClientAuthContext)
    (idempotencyKey : Option String) (workflowId : WorkflowId) (actor action detail : String) :
    Service MutationOutcome := do
  let events ← streamSubmitWorkflow env (replacementRequest config auth idempotencyKey)
  let errorMessage := runtimeErrorMessage (consumeFinalResponse events)
  appendAuditEntry workflowId actor action detail
  pure { selectedWorkflowId := workflowId, ok := decide (errorMessage = ""),
         errorMessage := errorMessage }

def upsertWorkflow (request : UpsertOperatorWorkflowRequest) : Service MutationOutcome :=
  if request.config.id = "" then pure { ok := false, errorMessage := "Workflow id is required." }
  else submitAndAudit env request.config request.auth request.idempotencyKey request.config.id
    request.actor "operator_upsert_workflow"
    (if request.note = "" then "Workflow definition updated from the operator console."
      else request.note)

/-- The first task with the id is replaced, otherwise the task is added at the end. -/
def upsertTaskConfig (config : WorkflowConfig) (task : TaskConfig) : WorkflowConfig :=
  if config.tasks.any fun t => t.id = task.id then
    { config with tasks := App.updateFirst (fun t => t.id = task.id) (fun _ => task) config.tasks }
  else { config with tasks := config.tasks ++ [task] }

def upsertTask (request : UpsertOperatorTaskRequest) : Service MutationOutcome := do
  if request.workflowId = "" then pure { ok := false, errorMessage := "workflow_id is required." }
  else if request.task.id = "" then
    pure { selectedWorkflowId := request.workflowId, ok := false,
           errorMessage := "task.id is required." }
  else
    match ← getWorkflow request.workflowId with
    | none =>
      pure { selectedWorkflowId := request.workflowId, ok := false,
             errorMessage := "Workflow record not found." }
    | some workflow =>
      let replacingExisting := workflow.config.tasks.any fun t => t.id = request.task.id
      let taskAction := if replacingExisting then "operator_update_task" else "operator_insert_task"
      let defaultDetail :=
        if replacingExisting then "Task schedule updated from the operator console."
        else "Task schedule inserted from the operator console."
      submitAndAudit env (upsertTaskConfig workflow.config request.task) request.auth
        request.idempotencyKey request.workflowId request.actor taskAction
        (if request.note = "" then defaultDetail ++ " task_id=" ++ request.task.id
          else request.note)

def deleteTaskConfig (config : WorkflowConfig) (taskId : TaskId) : WorkflowConfig :=
  { config with tasks := config.tasks.eraseP fun t => t.id = taskId }

def deleteTask (request : DeleteOperatorTaskRequest) : Service MutationOutcome := do
  if request.workflowId = "" then pure { ok := false, errorMessage := "workflow_id is required." }
  else if request.taskId = "" then
    pure { selectedWorkflowId := request.workflowId, ok := false,
           errorMessage := "task_id is required." }
  else
    match ← getWorkflow request.workflowId with
    | none =>
      pure { selectedWorkflowId := request.workflowId, ok := false,
             errorMessage := "Workflow record not found." }
    | some workflow =>
      if workflow.config.tasks.any fun t => t.id = request.taskId then
        submitAndAudit env (deleteTaskConfig workflow.config request.taskId) request.auth
          request.idempotencyKey request.workflowId request.actor "operator_delete_task"
          (if request.note = "" then
              "Task removed from the operator console. task_id=" ++ request.taskId
            else request.note)
      else
        pure { selectedWorkflowId := request.workflowId, ok := false,
               errorMessage := "Task record not found." }

/-- `action_reason_or_default`. -/
def actionReasonOrDefault (reason fallback : String) : String :=
  if reason = "" then fallback else reason

/-- The control-plane request of an operator lifecycle action; the credentials are not passed on. -/
def lifecycleRequest (request : OperatorWorkflowActionRequest) (fallback : String) :
    LifecycleRequest where
  workflowId := request.workflowId
  actor := request.actor
  reason := actionReasonOrDefault request.reason fallback

def actionOutcome (workflowId : WorkflowId) (response : WorkflowActionResponse) :
    MutationOutcome where
  selectedWorkflowId := workflowId
  ok := response.ok
  errorMessage := response.errorMessage

def pauseWorkflow (request : OperatorWorkflowActionRequest) : Service MutationOutcome := do
  let response ← ControlPlane.pauseWorkflow
    (lifecycleRequest request "Workflow paused from the operator console.")
  pure (actionOutcome request.workflowId response)

def resumeWorkflow (request : OperatorWorkflowActionRequest) : Service MutationOutcome := do
  let response ← ControlPlane.resumeWorkflow
    (lifecycleRequest request "Workflow resumed from the operator console.")
  pure (actionOutcome request.workflowId response)

def cancelWorkflow (request : OperatorWorkflowActionRequest) : Service MutationOutcome := do
  let response ← ControlPlane.cancelWorkflow
    (lifecycleRequest request "Workflow cancelled from the operator console.")
  pure (actionOutcome request.workflowId response)

def applyManualIntervention (request : ManualInterventionRequest) : Service MutationOutcome := do
  let response ← ControlPlane.applyManualIntervention env request
  pure (actionOutcome request.workflowId response)

end TaskOrchestrator.Operator
