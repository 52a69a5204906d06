import TaskOrchestrator.Application.Operator
import Mathlib.Data.List.TakeWhile

/-!
# The HTTP transport

The dispatch of an HTTP request to the runtime and operator services, as programs of their calls.
Reading a message from a body is protobuf's and is a parameter; `none` is a body that it refuses.
The dashboard is read-only and is not part of this module.
-/

namespace TaskOrchestrator.Http

open Protocol ControlPlane

set_option autoImplicit false

inductive Verb where
  | get
  | post
  | other
  deriving DecidableEq

/-- `authorization` and `apiKey` are the values of the two headers that are read, and are empty
when the header is missing. -/
structure HttpRequest where
  method : Verb
  target : List Char
  authorization : List Char := []
  apiKey : String := ""
  body : String := ""

structure MessageReader where
  submit : String → Option SubmitWorkflowRequest
  reorchestrate : String → Option ReorchestrateRequest
  upsertWorkflow : String → Option UpsertOperatorWorkflowRequest
  upsertTask : String → Option UpsertOperatorTaskRequest
  deleteTask : String → Option DeleteOperatorTaskRequest
  workflowAction : String → Option OperatorWorkflowActionRequest
  manualIntervention : String → Option ManualInterventionRequest

inductive Status where
  | badRequest
  | notFound
  | methodNotAllowed
  | serviceUnavailable
  deriving DecidableEq

inductive HttpResponse where
  | error (status : Status) (message : String)
  | runtime (response : RuntimeApiResponse)
  | mutation (outcome : Operator.MutationOutcome)
  | dashboard (query : List Char)

def kHttpSubmitWorkflowPath : List Char := "/v1/workflows:submit".toList
def kHttpWorkflowsPathPrefix : List Char := "/v1/workflows/".toList
def kHttpReorchestratePathSuffix : List Char := ":reorchestrate".toList
def kHttpOperatorDashboardPath : List Char := "/v1/operator/dashboard".toList
def kHttpOperatorWorkflowsPath : List Char := "/v1/operator/workflows".toList
def kHttpOperatorWorkflowsPathPrefix : List Char := "/v1/operator/workflows/".toList
def kHttpOperatorTasksSuffix : List Char := "/tasks".toList
def kHttpOperatorDeleteTaskSuffix : List Char := ":delete".toList
def kHttpOperatorPauseSuffix : List Char := ":pause".toList
def kHttpOperatorResumeSuffix : List Char := ":resume".toList
def kHttpOperatorCancelSuffix : List Char := ":cancel".toList
def kHttpOperatorManualInterventionSuffix : List Char := ":manualIntervention".toList
def kBearerPrefix : List Char := "Bearer ".toList

/-- `split_target`: the path and the query behind the first question mark. -/
def splitTarget (target : List Char) : List Char × List Char :=
  (target.takeWhile fun c => c ≠ '?', (target.dropWhile fun c => c ≠ '?').drop 1)

theorem splitTarget_of_no_query {path : List Char} (h : '?' ∉ path) :
    splitTarget path = (path, []) := by
  have hall : ∀ c ∈ path, decide (c ≠ '?') = true := fun c hc =>
    decide_eq_true fun hquestion => h (hquestion ▸ hc)
  rw [splitTarget, List.takeWhile_eq_self_iff.mpr hall, List.dropWhile_eq_nil_iff.mpr hall]
  rfl

theorem splitTarget_query {path query : List Char} (h : '?' ∉ path) :
    splitTarget (path ++ '?' :: query) = (path, query) := by
  have hall : ∀ c ∈ path, decide (c ≠ '?') = true := fun c hc => decide_eq_true fun hquestion =>
    h (hquestion ▸ hc)
  rw [splitTarget, List.takeWhile_append_of_pos hall, List.dropWhile_append_of_pos hall]
  simp

/-- What stands between a start and an end of a path. Their lengths are subtracted as `size_t`, so
that the rest of the path is taken when they overlap. -/
def between (start stop path : List Char) : Option (List Char) :=
  if start.isPrefixOf path && stop.isSuffixOf path then
    let size := ((path.length : Int) - start.length - stop.length) % 2 ^ 64
    if size = 0 then none else some ((path.drop start.length).take size.toNat)
  else none

def extractWorkflowIdFromTarget (target : List Char) : Option WorkflowId :=
  (between kHttpWorkflowsPathPrefix kHttpReorchestratePathSuffix target).map String.ofList

def extractOperatorWorkflowId (path suffix : List Char) : Option WorkflowId :=
  ((between kHttpOperatorWorkflowsPathPrefix suffix path).filter fun id => '/' ∉ id).map
    String.ofList

def extractOperatorTaskWorkflowId (path : List Char) : Option WorkflowId :=
  extractOperatorWorkflowId path kHttpOperatorTasksSuffix

structure OperatorTaskRoute where
  workflowId : WorkflowId
  taskId : TaskId

def cutAtText (separator : List Char) : List Char → Option (List Char × List Char)
  | [] => none
  | c :: rest =>
    if separator.isPrefixOf (c :: rest) then some ([], (c :: rest).drop separator.length)
    else (cutAtText separator rest).map fun (before, after) => (c :: before, after)

def extractOperatorTaskDeleteRoute (path : List Char) : Option OperatorTaskRoute :=
  if kHttpOperatorWorkflowsPathPrefix.isPrefixOf path &&
    kHttpOperatorDeleteTaskSuffix.isSuffixOf path then
    let stripped := (path.drop kHttpOperatorWorkflowsPathPrefix.length).take
      (path.length - kHttpOperatorWorkflowsPathPrefix.length - kHttpOperatorDeleteTaskSuffix.length)
    (cutAtText "/tasks/".toList stripped).bind fun (workflowId, taskId) =>
      if workflowId = [] ∨ taskId = [] then none
      else some { workflowId := String.ofList workflowId, taskId := String.ofList taskId }
  else none

/-- `apply_transport_auth`: the headers fill in what the body leaves empty. -/
def applyTransportAuth (request : HttpRequest) (secureTransport : Bool) (auth : ClientAuthContext) :
    ClientAuthContext where
  bearerToken :=
    if request.authorization ≠ [] ∧ auth.bearerToken = "" ∧
      kBearerPrefix.isPrefixOf request.authorization then
      String.ofList (request.authorization.drop kBearerPrefix.length)
    else auth.bearerToken
  apiKey := if request.apiKey ≠ "" ∧ auth.apiKey = "" then request.apiKey else auth.apiKey
  secureTransport := secureTransport

def unreadableJson : HttpResponse := .error .badRequest "Failed to parse JSON request body."

def unreadableMessage : HttpResponse := .error .badRequest "Failed to parse protobuf request body."

def workflowMismatch : HttpResponse :=
  .error .badRequest "workflow_id in path does not match workflow_id in body."

/-- An empty body stands for the message without fields. -/
def readOptionalBody {α : Type} (read : String → Option α) (noFields : α)
    (body : String) : Option α :=
  if body = "" then some noFields else read body

/-- The message of an operator route for the workflow of the path, unless the body is refused. -/
def readForWorkflow {α : Type} (read : String → Option α) (workflowIdOf : α → WorkflowId)
    (body : String) (workflowId : WorkflowId) : Except HttpResponse α :=
  match read body with
  | none => .error unreadableJson
  | some message =>
    if workflowIdOf message ≠ "" ∧ workflowIdOf message ≠ workflowId then .error workflowMismatch
      else .ok message

section Routes

variable (env : Environment) (reader : MessageReader) (secureTransport : Bool)
variable (request : HttpRequest)

def workflowsRoute : Service HttpResponse :=
  match reader.upsertWorkflow request.body with
  | none => pure unreadableJson
  | some message =>
    .mutation <$> Operator.upsertWorkflow env
      { message with auth := applyTransportAuth request secureTransport message.auth }

def tasksRoute (workflowId : WorkflowId) : Service HttpResponse :=
  match readForWorkflow reader.upsertTask UpsertOperatorTaskRequest.workflowId request.body
    workflowId with
  | .error response => pure response
  | .ok message =>
    .mutation <$> Operator.upsertTask env
      { message with
        workflowId := workflowId
        auth := applyTransportAuth request secureTransport message.auth }

def deleteTaskRoute (route : OperatorTaskRoute) : Service HttpResponse :=
  match readOptionalBody reader.deleteTask {} request.body with
  | none => pure unreadableJson
  | some message =>
    if (message.workflowId ≠ "" ∧ message.workflowId ≠ route.workflowId) ∨
        (message.taskId ≠ "" ∧ message.taskId ≠ route.taskId) then
      pure (.error .badRequest "Workflow or task id in path does not match the JSON request body.")
    else
      .mutation <$> Operator.deleteTask env
        { message with
          workflowId := route.workflowId
          taskId := route.taskId
          auth := applyTransportAuth request secureTransport message.auth }

def actionRoute (act : OperatorWorkflowActionRequest → Service Operator.MutationOutcome)
    (workflowId : WorkflowId) :
    Service HttpResponse :=
  match readForWorkflow
    (readOptionalBody reader.workflowAction {}) OperatorWorkflowActionRequest.workflowId
      request.body workflowId with
  | .error response => pure response
  | .ok message =>
    .mutation <$> act
      { message with
        workflowId := workflowId
        auth := applyTransportAuth request secureTransport message.auth }

def manualInterventionRoute (workflowId : WorkflowId) : Service HttpResponse :=
  match readForWorkflow reader.manualIntervention ManualInterventionRequest.workflowId request.body
    workflowId with
  | .error response => pure response
  | .ok message =>
    .mutation <$> Operator.applyManualIntervention env
      { message with
        workflowId := workflowId
        auth := applyTransportAuth request secureTransport message.auth }

def unsupportedOperatorRoute : HttpResponse := .error .notFound "Unsupported operator route."

/-- The routes of a `POST`, in the order in which the path is tried. -/
def operatorPostRoute (path : List Char) : Service HttpResponse :=
  match extractOperatorTaskWorkflowId path with
  | some workflowId => tasksRoute env reader secureTransport request workflowId
  | none =>
  match extractOperatorTaskDeleteRoute path with
  | some route => deleteTaskRoute env reader secureTransport request route
  | none =>
  match extractOperatorWorkflowId path kHttpOperatorPauseSuffix with
  | some workflowId => actionRoute reader secureTransport request Operator.pauseWorkflow workflowId
  | none =>
  match extractOperatorWorkflowId path kHttpOperatorResumeSuffix with
  | some workflowId => actionRoute reader secureTransport request Operator.resumeWorkflow workflowId
  | none =>
  match extractOperatorWorkflowId path kHttpOperatorCancelSuffix with
  | some workflowId => actionRoute reader secureTransport request Operator.cancelWorkflow workflowId
  | none =>
  match extractOperatorWorkflowId path kHttpOperatorManualInterventionSuffix with
  | some workflowId => manualInterventionRoute env reader secureTransport request workflowId
  | none => pure unsupportedOperatorRoute

/-- `operatorEnabled` says that there is an operator service. -/
def handleOperatorHttpRequest (operatorEnabled : Bool) (path query : List Char) :
    Service HttpResponse :=
  if operatorEnabled = false then
    pure (.error .serviceUnavailable
      "Operator API is unavailable because the control plane is not enabled.")
  else if request.method = .get ∧ path = kHttpOperatorDashboardPath then pure (.dashboard query)
  else if request.method = .post ∧ path = kHttpOperatorWorkflowsPath then
    workflowsRoute env reader secureTransport request
  else if request.method = .post then operatorPostRoute env reader secureTransport request path
  else pure unsupportedOperatorRoute

def submitRoute : Service HttpResponse :=
  match reader.submit request.body with
  | none => pure unreadableMessage
  | some message => do
    let events ← streamSubmitWorkflow env
      { message with auth := applyTransportAuth request secureTransport message.auth }
    pure (.runtime (consumeFinalResponse events))

def reorchestrateRoute (workflowId : WorkflowId) : Service HttpResponse :=
  match reader.reorchestrate request.body with
  | none => pure unreadableMessage
  | some message =>
    if message.workflowId ≠ "" ∧ message.workflowId ≠ workflowId then pure workflowMismatch
    else do
      let events ← streamReorchestrate env
        { message with
          workflowId := workflowId
          auth := applyTransportAuth request secureTransport message.auth }
      pure (.runtime (consumeFinalResponse events))

def handleHttpRequest (operatorEnabled : Bool) : Service HttpResponse :=
  let (path, query) := splitTarget request.target
  if "/v1/operator".toList.isPrefixOf path then
    handleOperatorHttpRequest env reader secureTransport request operatorEnabled path query
  else if request.method ≠ .post then pure (.error .methodNotAllowed "Only POST is supported.")
  else if path = kHttpSubmitWorkflowPath then submitRoute env reader secureTransport request
  else
    match extractWorkflowIdFromTarget path with
    | some workflowId => reorchestrateRoute env reader secureTransport request workflowId
    | none => pure (.error .notFound "Unsupported route.")

end Routes

end TaskOrchestrator.Http
