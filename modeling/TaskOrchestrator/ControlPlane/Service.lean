import TaskOrchestrator.ControlPlane.Calls

/-!
# The control-plane service

`ControlPlanService`: every operation as the sequence of its calls. A stream returns
the events it yields, in order. `stream_submit_workflow` and `stream_reorchestrate`
repeat one persistence loop, which is `persistEvents` here.
-/

namespace TaskOrchestrator.ControlPlane

open Protocol Library

set_option autoImplicit false

def kInternalRecoveryActor : String := "control_plane/recovery"
def kInternalControlActor : String := "control_plane"

def makeRuntimeError (message : String) : RuntimeApiResponse where
  ok := false
  result := { ok := false, errorMessage := message }
  errorMessage := message

def makeResponseEvent (type : WorkflowEventType) (workflowId : WorkflowId)
    (response : RuntimeApiResponse) (detail : String) : WorkflowEvent :=
  { type := type, workflowId := workflowId, detail := detail, response := some response }

/-- The stream of a request that the control plane refuses itself. -/
def rejectedStream (workflowId : WorkflowId) (message : String) : List WorkflowEvent :=
  [makeResponseEvent .requestRejected workflowId (makeRuntimeError message) message]

def replayedStream (workflowId : WorkflowId) (existing : IdempotencyRecord) : List WorkflowEvent :=
  [makeResponseEvent .runFinished workflowId existing.cachedResponse
    "Idempotent replay served from durable control plane."]

/-- Starts from an empty response, unlike the function of that name of the runtime service. -/
def consumeFinalResponse (events : List WorkflowEvent) : RuntimeApiResponse :=
  events.foldl (fun response event => event.response.getD response) {}

def stateForTerminalResponse (response : RuntimeApiResponse) : WorkflowLifecycleState :=
  if !response.ok || !response.result.ok then .failed else .planned

def stateForEvent (event : WorkflowEvent) (currentState : WorkflowLifecycleState) :
    WorkflowLifecycleState :=
  match event.type with
  | .workflowAccepted => .submitted
  | .replanningStarted => .planning
  | .taskPlanned => .planned
  | .runFinished => (event.response.map stateForTerminalResponse).getD currentState
  | .requestRejected => .failed
  | .runtimeOverrideApplied => currentState
  | .taskCompleted => currentState
  | .unspecified => currentState

structure Persisting where
  workflowId : WorkflowId
  idempotencyKey : String
  requestFingerprint : String

def carriesPlan (response : RuntimeApiResponse) : Bool := response.ok && response.result.ok

/-- The local record after a response: it counts the plan version that is about to be written. -/
def recordResponse (record : WorkflowRecord) (response : RuntimeApiResponse) : WorkflowRecord :=
  let record := { record with latestResponse := some response }
  if !response.ok then { record with summary.lastErrorMessage := response.errorMessage }
  else if !response.result.ok
    then { record with summary.lastErrorMessage := response.result.errorMessage }
  else { record with
    summary.lastErrorMessage := ""
    summary.latestPlanVersion := record.summary.latestPlanVersion + 1 }

/-- The local record after an event: it counts the event row that is about to be written. -/
def recordEvent (recordedAt : Int) (record : WorkflowRecord) (event : WorkflowEvent) :
    WorkflowRecord :=
  let record := { record with
    summary.updatedAtUnixMs := recordedAt
    summary.totalEventCount := record.summary.totalEventCount + 1
    summary.state := stateForEvent event record.summary.state }
  match event.response with
  | some response => recordResponse record response
  | none => record

section RecordFields

variable (recordedAt : Int) (record : WorkflowRecord) (event : WorkflowEvent)
variable (response : RuntimeApiResponse)

@[simp] theorem recordResponse_latestResponse :
    (recordResponse record response).latestResponse = some response := by
  unfold recordResponse
  split_ifs <;> rfl

@[simp] theorem recordResponse_config :
    (recordResponse record response).config = record.config := by
  unfold recordResponse
  split_ifs <;> rfl

@[simp] theorem recordResponse_workflowId :
    (recordResponse record response).summary.workflowId = record.summary.workflowId := by
  unfold recordResponse
  split_ifs <;> rfl

@[simp] theorem recordResponse_state :
    (recordResponse record response).summary.state = record.summary.state := by
  unfold recordResponse
  split_ifs <;> rfl

@[simp] theorem recordResponse_createdAtUnixMs :
    (recordResponse record response).summary.createdAtUnixMs = record.summary.createdAtUnixMs := by
  unfold recordResponse
  split_ifs <;> rfl

@[simp] theorem recordResponse_totalEventCount :
    (recordResponse record response).summary.totalEventCount = record.summary.totalEventCount := by
  unfold recordResponse
  split_ifs <;> rfl

@[simp] theorem recordResponse_totalAuditEntryCount :
    (recordResponse record response).summary.totalAuditEntryCount =
      record.summary.totalAuditEntryCount := by
  unfold recordResponse
  split_ifs <;> rfl

theorem recordResponse_latestPlanVersion :
    (recordResponse record response).summary.latestPlanVersion =
      if carriesPlan response then record.summary.latestPlanVersion + 1
      else record.summary.latestPlanVersion := by
  unfold recordResponse carriesPlan
  cases response.ok <;> cases response.result.ok <;> rfl

@[simp] theorem recordEvent_latestResponse :
    (recordEvent recordedAt record event).latestResponse =
      event.response.or record.latestResponse := by
  unfold recordEvent
  cases event.response <;> simp

@[simp] theorem recordEvent_config :
    (recordEvent recordedAt record event).config = record.config := by
  unfold recordEvent
  cases event.response <;> simp

@[simp] theorem recordEvent_workflowId :
    (recordEvent recordedAt record event).summary.workflowId = record.summary.workflowId := by
  unfold recordEvent
  cases event.response <;> simp

@[simp] theorem recordEvent_state :
    (recordEvent recordedAt record event).summary.state =
      stateForEvent event record.summary.state := by
  unfold recordEvent
  cases event.response <;> simp

@[simp] theorem recordEvent_createdAtUnixMs :
    (recordEvent recordedAt record event).summary.createdAtUnixMs =
      record.summary.createdAtUnixMs := by
  unfold recordEvent
  cases event.response <;> simp

@[simp] theorem recordEvent_totalEventCount :
    (recordEvent recordedAt record event).summary.totalEventCount =
      record.summary.totalEventCount + 1 := by
  unfold recordEvent
  cases event.response <;> simp

@[simp] theorem recordEvent_totalAuditEntryCount :
    (recordEvent recordedAt record event).summary.totalAuditEntryCount =
      record.summary.totalAuditEntryCount := by
  unfold recordEvent
  cases event.response <;> simp

theorem recordEvent_latestPlanVersion :
    (recordEvent recordedAt record event).summary.latestPlanVersion =
      if event.response.any carriesPlan then record.summary.latestPlanVersion + 1
      else record.summary.latestPlanVersion := by
  unfold recordEvent
  cases event.response <;> simp [recordResponse_latestPlanVersion]

end RecordFields

def persistPlanVersion (request : Persisting) (recordedAt : Int) (record : WorkflowRecord)
    (response : RuntimeApiResponse) : Service Unit :=
  if carriesPlan response then
    writePlanVersion request.workflowId
      { version := record.summary.latestPlanVersion, recordedAtUnixMs := recordedAt,
        response := response }
  else pure ()

def persistIdempotency (request : Persisting) (recordedAt : Int) (response : RuntimeApiResponse) :
    Service Unit :=
  if request.idempotencyKey = "" then pure ()
  else
    putIdempotencyRecord
      { key := request.idempotencyKey
        workflowId := request.workflowId
        requestFingerprint := request.requestFingerprint
        recordedAtUnixMs := recordedAt
        cachedResponse := response }

def persistResponse (request : Persisting) (recordedAt : Int) (record : WorkflowRecord) :
    Option RuntimeApiResponse → Service Unit
  | none => pure ()
  | some response => do
    persistPlanVersion request recordedAt record response
    persistIdempotency request recordedAt response

def persistEvent (request : Persisting) (record : WorkflowRecord) (event : WorkflowEvent) :
    Service WorkflowRecord := do
  let recordedAt ← unixTimeMsNow
  let record := recordEvent recordedAt record event
  persistResponse request recordedAt record event.response
  writeEvent request.workflowId
    { sequence := record.summary.totalEventCount, recordedAtUnixMs := recordedAt, event := event }
  upsertWorkflow record
  publishWorkflowUpdate request.workflowId
  pure record

def persistEvents (request : Persisting) :
    WorkflowRecord → List WorkflowEvent → Service (List WorkflowEvent)
  | _, [] => pure []
  | record, event :: rest => do
    let record ← persistEvent request record event
    let yielded ← persistEvents request record rest
    pure (event :: yielded)

variable (env : Environment)

def submitPersisting (request : SubmitWorkflowRequest) : Persisting where
  workflowId := request.config.id
  idempotencyKey := request.idempotencyKey.getD ""
  requestFingerprint := env.submitFingerprint request

/-- An absent `replace_existing` does not replace, unlike in the runtime service. -/
def existingRecord (request : SubmitWorkflowRequest) : Service (Option WorkflowRecord) :=
  if request.replaceExisting.getD false then getWorkflow request.config.id else pure none

/-- The record that a submission stores before the runtime has seen it. -/
def submittedRecord (request : SubmitWorkflowRequest) (now : Int)
    (existing : Option WorkflowRecord) :
    WorkflowRecord :=
  let record : WorkflowRecord := existing.getD {}
  let record : WorkflowRecord :=
    if record.summary.workflowId = "" then
      { record with summary.workflowId := request.config.id, summary.createdAtUnixMs := now }
    else record
  { record with
    summary.state := .submitted
    summary.updatedAtUnixMs := now
    summary.lastErrorMessage := ""
    config := request.config }

section SubmittedFields

variable (request : SubmitWorkflowRequest) (now : Int) (existing : Option WorkflowRecord)

@[simp] theorem submittedRecord_config :
    (submittedRecord request now existing).config = request.config := rfl

@[simp] theorem submittedRecord_state :
    (submittedRecord request now existing).summary.state = .submitted := rfl

@[simp] theorem submittedRecord_latestResponse :
    (submittedRecord request now existing).latestResponse = (existing.getD {}).latestResponse := by
  simp only [submittedRecord]
  split_ifs <;> rfl

@[simp] theorem submittedRecord_latestPlanVersion :
    (submittedRecord request now existing).summary.latestPlanVersion =
      (existing.getD {}).summary.latestPlanVersion := by
  simp only [submittedRecord]
  split_ifs <;> rfl

@[simp] theorem submittedRecord_totalEventCount :
    (submittedRecord request now existing).summary.totalEventCount =
      (existing.getD {}).summary.totalEventCount := by
  simp only [submittedRecord]
  split_ifs <;> rfl

@[simp] theorem submittedRecord_totalAuditEntryCount :
    (submittedRecord request now existing).summary.totalAuditEntryCount =
      (existing.getD {}).summary.totalAuditEntryCount := by
  simp only [submittedRecord]
  split_ifs <;> rfl

theorem submittedRecord_createdAtUnixMs :
    (submittedRecord request now existing).summary.createdAtUnixMs =
      if (existing.getD {}).summary.workflowId = "" then now
      else (existing.getD {}).summary.createdAtUnixMs := by
  simp only [submittedRecord]
  split_ifs <;> rfl

theorem submittedRecord_workflowId (h : ∀ r ∈ existing, r.summary.workflowId = request.config.id) :
    (submittedRecord request now existing).summary.workflowId = request.config.id := by
  simp only [submittedRecord]
  split_ifs with hempty
  · rfl
  · cases existing with
    | none => exact absurd rfl hempty
    | some r => exact h r rfl

end SubmittedFields

/-- The part of `stream_submit_workflow` after the idempotency check. -/
def submitAccepted (request : SubmitWorkflowRequest) : Service (List WorkflowEvent) := do
  let workflowId := request.config.id
  let now ← unixTimeMsNow
  let existing ← existingRecord request
  let record := submittedRecord request now existing
  upsertWorkflow record
  publishWorkflowUpdate workflowId
  hydratedInsert workflowId
  let events ← runtimeSubmitWorkflow request
  persistEvents (submitPersisting env request) record events

def streamSubmitWorkflow (request : SubmitWorkflowRequest) : Service (List WorkflowEvent) := do
  let workflowId := request.config.id
  let key := request.idempotencyKey.getD ""
  if key = "" then submitAccepted env request
  else do
    match ← getIdempotencyRecord key with
    | none => submitAccepted env request
    | some existing =>
      if existing.requestFingerprint ≠ env.submitFingerprint request then
        pure (rejectedStream workflowId
          "Idempotency key was reused for a different request payload.")
      else pure (replayedStream workflowId existing)

def reorchestratePersisting (request : ReorchestrateRequest) : Persisting where
  workflowId := request.workflowId
  idempotencyKey := request.idempotencyKey.getD ""
  requestFingerprint := env.reorchestrateFingerprint request

/-- The lazy replay of the stored configuration into the runtime: the response of a
replay that failed, `none` when the workflow is hydrated afterwards. -/
def hydrate (auth : ClientAuthContext) (workflowId : WorkflowId) (config : WorkflowConfig) :
    Service (Option RuntimeApiResponse) := do
  if ← hydratedContains workflowId then pure none
  else do
    let events ← runtimeSubmitWorkflow
      { config := config, auth := auth, replaceExisting := some true }
    let replayResponse := App.consumeFinalResponse events
    if !replayResponse.ok then pure (some replayResponse)
    else do
      hydratedInsert workflowId
      pure none

/-- The part of `stream_reorchestrate` after the idempotency check. -/
def reorchestrateAccepted (request : ReorchestrateRequest) (record : WorkflowRecord) :
    Service (List WorkflowEvent) := do
  let events ← runtimeReorchestrate request
  persistEvents (reorchestratePersisting env request) record events

/-- The part of `stream_reorchestrate` after the guards on the stored record. -/
def reorchestrateGuarded (request : ReorchestrateRequest) (record : WorkflowRecord) :
    Service (List WorkflowEvent) := do
  let workflowId := request.workflowId
  match ← hydrate request.auth workflowId record.config with
  | some replayResponse =>
    pure [makeResponseEvent .requestRejected workflowId replayResponse replayResponse.errorMessage]
  | none => do
    let key := request.idempotencyKey.getD ""
    if key = "" then reorchestrateAccepted env request record
    else do
      match ← getIdempotencyRecord key with
      | none => reorchestrateAccepted env request record
      | some existing =>
        if existing.requestFingerprint ≠ env.reorchestrateFingerprint request then
          pure (rejectedStream workflowId
            "Idempotency key was reused for a different re-orchestration payload.")
        else pure (replayedStream workflowId existing)

/-- The message of the guard on the stored record that refuses the request, if one does. -/
def reorchestrateRefusal (request : ReorchestrateRequest) (record : WorkflowRecord) :
    Option String :=
  if record.summary.state = .paused then
    some "Workflow is paused. Resume it before re-orchestrating."
  else if record.summary.state = .cancelled then
    some "Workflow is cancelled and cannot be re-orchestrated."
  else if request.expectedPlanVersion.any fun version =>
    version ≠ record.summary.latestPlanVersion then
    some "Expected plan version does not match the durable control-plane record."
  else none

theorem reorchestrateRefusal_eq_none {request : ReorchestrateRequest} {record : WorkflowRecord} :
    reorchestrateRefusal request record = none ↔
      record.summary.state ≠ .paused ∧ record.summary.state ≠ .cancelled ∧
        ∀ version ∈ request.expectedPlanVersion, version = record.summary.latestPlanVersion := by
  unfold reorchestrateRefusal
  split_ifs with hpaused hcancelled hversion
  · simp [hpaused]
  · simp [hcancelled]
  · obtain ⟨version, hmem, hne⟩ : ∃ version, request.expectedPlanVersion = some version ∧
        version ≠ record.summary.latestPlanVersion := by simpa [Option.any_eq_true] using hversion
    simp [hmem, hne]
  · simp only [true_iff]
    refine ⟨hpaused, hcancelled, fun version hmem => ?_⟩
    by_contra hne
    exact hversion (by simp [Option.mem_def.mp hmem, hne])

def streamReorchestrate (request : ReorchestrateRequest) : Service (List WorkflowEvent) := do
  let workflowId := request.workflowId
  match ← getWorkflow workflowId with
  | none => pure (rejectedStream workflowId "Workflow record was not found in the control plane.")
  | some record =>
    match reorchestrateRefusal request record with
    | some message => pure (rejectedStream workflowId message)
    | none => reorchestrateGuarded env request record

def submitWorkflow (request : SubmitWorkflowRequest) : Service RuntimeApiResponse := do
  let events ← streamSubmitWorkflow env request
  pure (consumeFinalResponse events)

def reorchestrate (request : ReorchestrateRequest) : Service RuntimeApiResponse := do
  let events ← streamReorchestrate env request
  pure (consumeFinalResponse events)

def workflowNotFound : WorkflowActionResponse :=
  { ok := false, errorMessage := "Workflow record not found." }

/-- The body shared by `pause_workflow`, `resume_workflow` and `cancel_workflow`. -/
def lifecycleAction (newState : WorkflowRecord → WorkflowLifecycleState)
    (action defaultDetail : String) (request : LifecycleRequest) :
    Service WorkflowActionResponse := do
  match ← getWorkflow request.workflowId with
  | none => pure workflowNotFound
  | some stored => do
    let updatedAt ← unixTimeMsNow
    let workflow : WorkflowRecord := { stored with
      summary.state := newState stored
      summary.updatedAtUnixMs := updatedAt }
    upsertWorkflow workflow
    let recordedAt ← unixTimeMsNow
    let sequence := workflow.summary.totalAuditEntryCount + 1
    writeAuditEntry request.workflowId
      { sequence := sequence
        recordedAtUnixMs := recordedAt
        actor := if request.actor = "" then kInternalControlActor else request.actor
        action := action
        detail := if request.reason = "" then defaultDetail else request.reason }
    let workflow : WorkflowRecord := { workflow with summary.totalAuditEntryCount := sequence }
    upsertWorkflow workflow
    publishWorkflowUpdate request.workflowId
    pure { ok := true, workflow := some workflow }

def pauseWorkflow : LifecycleRequest → Service WorkflowActionResponse :=
  lifecycleAction (fun _ => .paused) "pause" "Workflow paused from the control plane."

def resumedState (workflow : WorkflowRecord) : WorkflowLifecycleState :=
  if workflow.latestResponse.any fun response => response.ok then .planned else .submitted

def resumeWorkflow : LifecycleRequest → Service WorkflowActionResponse :=
  lifecycleAction resumedState "resume" "Workflow resumed from the control plane."

def cancelWorkflow : LifecycleRequest → Service WorkflowActionResponse :=
  lifecycleAction (fun _ => .cancelled) "cancel" "Workflow cancelled from the control plane."

def interventionReorchestrateRequest (request : ManualInterventionRequest) :
    ReorchestrateRequest where
  workflowId := request.workflowId
  taskOverrides := request.taskOverrides
  actorOverrides := request.actorOverrides
  auth := request.auth
  triggerReorchestration := some request.triggerReorchestration
  idempotencyKey := request.idempotencyKey
  expectedPlanVersion := request.expectedPlanVersion

def applyManualIntervention (request : ManualInterventionRequest) :
    Service WorkflowActionResponse := do
  match ← getWorkflow request.workflowId with
  | none => pure workflowNotFound
  | some stored => do
    let recordedAt ← unixTimeMsNow
    let sequence := stored.summary.totalAuditEntryCount + 1
    writeAuditEntry request.workflowId
      { sequence := sequence
        recordedAtUnixMs := recordedAt
        actor := if request.actor = "" then kInternalControlActor else request.actor
        action := "manual_intervention"
        detail := if request.note = "" then "Manual intervention applied." else request.note }
    upsertWorkflow { stored with summary.totalAuditEntryCount := sequence }
    publishWorkflowUpdate request.workflowId
    let events ← streamReorchestrate env (interventionReorchestrateRequest request)
    let runtimeResponse := consumeFinalResponse events
    let refreshed ← getWorkflow request.workflowId
    if !runtimeResponse.ok then
      pure { ok := false, workflow := refreshed, errorMessage := runtimeResponse.errorMessage }
    else pure { ok := true, workflow := refreshed }

/-- States that `recover_active_workflows` passes over. -/
def skippedByRecovery (state : WorkflowLifecycleState) : Bool :=
  state = .cancelled || state = .failed || state = .unspecified

def recoverWorkflow (auth : ClientAuthContext) (workflow : WorkflowRecord) : Service Unit := do
  let workflowId := workflow.summary.workflowId
  let recordedAt ← unixTimeMsNow
  let sequence := workflow.summary.totalAuditEntryCount + 1
  writeAuditEntry workflowId
    { sequence := sequence
      recordedAtUnixMs := recordedAt
      actor := kInternalRecoveryActor
      action := "recover"
      detail := "Rehydrating workflow state into runtime memory." }
  upsertWorkflow { workflow with
    summary.totalAuditEntryCount := sequence
    summary.updatedAtUnixMs := recordedAt }
  publishWorkflowUpdate workflowId
  let _events ← runtimeSubmitWorkflow
    { config := workflow.config, auth := auth, replaceExisting := some true }
  hydratedInsert workflowId

def recoverWorkflows (auth : ClientAuthContext) : List WorkflowRecord → Service Unit
  | [] => pure ()
  | workflow :: rest =>
    if skippedByRecovery workflow.summary.state then recoverWorkflows auth rest
    else do
      recoverWorkflow auth workflow
      recoverWorkflows auth rest

def recoverActiveWorkflows (auth : ClientAuthContext) : Service Unit := do
  let workflows ← listAllWorkflows
  recoverWorkflows auth workflows

end TaskOrchestrator.ControlPlane
