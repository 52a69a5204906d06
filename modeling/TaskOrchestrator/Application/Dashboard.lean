import TaskOrchestrator.Application.DashboardQuery
import TaskOrchestrator.ControlPlane.Paging
import TaskOrchestrator.ControlPlane.PlanDiff

/-!
# The operator dashboard

`build_dashboard` and `build_dashboard_update` over the store as it is when they are called. An
update carries the history of the selected workflow only when the notification is about it.
-/

namespace TaskOrchestrator.Operator

open Protocol Library ControlPlane Http

set_option autoImplicit false

def kDefaultWorkflowPageSize : Int := 32

def kDefaultHistoryLimit : Int := 32

/-- The last rows of a workflow in the order of their sequence. No limit means all. -/
def latestRows {π : Type} (limit : Nat) (workflowId : WorkflowId) (rows : List (HistoryRow π)) :
    List (HistoryRow π) :=
  let ordered := (rows.filter fun row => row.workflowId = workflowId).insertionSort fun a b =>
    a.sequence ≤ b.sequence
  if limit > 0 then (ordered.reverse.take limit).reverse else ordered

structure GetWorkflowHistoryRequest where
  workflowId : WorkflowId := ""
  maxEvents : Int := 0
  maxPlanVersions : Int := 0
  maxAuditEntries : Int := 0

structure GetWorkflowHistoryResponse where
  ok : Bool := false
  workflow : WorkflowRecord := {}
  events : List WorkflowEventRecord := []
  planVersions : List WorkflowPlanVersion := []
  auditEntries : List AuditEntry := []
  errorMessage : String := ""

def getWorkflowHistory (store : Store) (request : GetWorkflowHistoryRequest) :
    GetWorkflowHistoryResponse :=
  match store.getWorkflow request.workflowId with
  | some workflow =>
    { ok := true
      workflow := workflow
      events :=
        (latestRows request.maxEvents.toNat request.workflowId store.events.rows).map fun row =>
        { sequence := row.sequence, recordedAtUnixMs := row.recordedAtUnixMs, event := row.payload }
      planVersions :=
        (latestRows request.maxPlanVersions.toNat request.workflowId store.planVersions.rows).map
          fun row =>
        { version := row.sequence, recordedAtUnixMs := row.recordedAtUnixMs,
          response := row.payload }
      auditEntries :=
        (latestRows request.maxAuditEntries.toNat request.workflowId store.auditEntries.rows).map
          fun row =>
        { sequence := row.sequence
          recordedAtUnixMs := row.recordedAtUnixMs
          actor := row.payload.actor
          action := row.payload.action
          detail := row.payload.detail } }
  | none => { ok := false, errorMessage := "Workflow record not found." }

structure StorageMetrics where
  recentEventCount : Nat
  retainedPlanVersions : Nat
  trackedWorkflows : Nat
  activeWorkflows : Nat

def isActive : WorkflowLifecycleState → Bool
  | .submitted | .planning | .planned | .paused | .recovering => true
  | _ => false

def getStorageMetrics (store : Store) (recentSinceUnixMs : Int) : StorageMetrics where
  recentEventCount :=
    (store.events.rows.filter fun row => recentSinceUnixMs ≤ row.recordedAtUnixMs).length
  retainedPlanVersions := store.planVersions.rows.length
  trackedWorkflows := store.records.rows.length
  activeWorkflows := (store.records.rows.filter fun record => isActive record.summary.state).length

inductive ConnectorKind where
  | webhookSource
  | scheduleSource
  | queueConsumer
  | outboundCallback
  | domainConnector

structure ConnectorBinding where
  id : String
  kind : ConnectorKind := .webhookSource
  displayName : String
  target : String
  enabled : Bool := true

structure OperatorDashboardStats where
  recentEventsPersisted : Int := 0
  planVersionsRetained : Int := 0
  connectorsTracked : Int := 0
  workflowsTracked : Int := 0
  activeWorkflows : Int := 0

structure OperatorConnectorBinding where
  id : String
  kind : String
  displayName : String
  target : String
  enabled : Bool

def connectorKindLabel : ConnectorKind → String
  | .webhookSource => "Webhook source"
  | .scheduleSource => "Schedule source"
  | .queueConsumer => "Queue consumer"
  | .outboundCallback => "Outbound callback"
  | .domainConnector => "Domain connector"

structure GetOperatorDashboardResponse where
  ok : Bool := false
  serverTimeUnixMs : Int := 0
  stats : OperatorDashboardStats := {}
  workflows : List WorkflowSummary := []
  connectors : List OperatorConnectorBinding := []
  selectedWorkflowId : WorkflowId := ""
  selectedWorkflow : Option GetWorkflowHistoryResponse := none
  selectedPlanDiff : Option GetPlanDiffResponse := none
  errorMessage : String := ""

abbrev OperatorDashboardUpdate := GetOperatorDashboardResponse

structure OperatorDashboardNotification where
  eventId : Nat
  workflowId : WorkflowId

/-- A size or limit that is not positive stands for the default. -/
def positiveOr (value default : Int) : Int := if value > 0 then value else default

def workflowSummaries (store : Store) (workflowQuery : String) (workflowPageSize : Int) :
    List WorkflowSummary :=
  if workflowQuery = "" then
    (listWorkflows store
      { pageSize := positiveOr workflowPageSize kDefaultWorkflowPageSize }).workflows
  else
    (searchWorkflows store
      { query := workflowQuery,
        pageSize := positiveOr workflowPageSize kDefaultWorkflowPageSize }).workflows

def resolveSelectedWorkflowId (selectedWorkflowId : WorkflowId)
    (workflows : List WorkflowSummary) : WorkflowId :=
  match workflows with
  | [] => selectedWorkflowId
  | first :: _ => if selectedWorkflowId = "" then first.workflowId else selectedWorkflowId

/-- `populate_selected_workflow` for an id that is not empty. -/
def selectedHistory (store : Store) (workflowId : WorkflowId)
    (request : GetOperatorDashboardRequest) :
    GetWorkflowHistoryResponse × GetPlanDiffResponse :=
  let history := getWorkflowHistory store
    { workflowId := workflowId
      maxEvents := positiveOr request.maxEvents kDefaultHistoryLimit
      maxPlanVersions := positiveOr request.maxPlanVersions kDefaultHistoryLimit
      maxAuditEntries := positiveOr request.maxAuditEntries kDefaultHistoryLimit }
  if history.ok = false then (history, {})
  else
    match history.planVersions.reverse with
    | latest :: previous :: _ =>
      (history, getPlanDiff store
        { workflowId := workflowId, fromPlanVersion := previous.version,
          toPlanVersion := latest.version })
    | _ => (history, { ok := true })

/-- The response with the history of the selected workflow, and its failure. -/
def withSelectedHistory (response : GetOperatorDashboardResponse)
    (selected : GetWorkflowHistoryResponse × GetPlanDiffResponse) : GetOperatorDashboardResponse :=
  { response with
    ok := selected.1.ok
    selectedWorkflow := some selected.1
    selectedPlanDiff := some selected.2
    errorMessage := selected.1.errorMessage }

def dayInMs : Int := 24 * 60 * 60 * 1000

def populateDashboardStats (bindings : List ConnectorBinding) (store : Store) (now : Int) :
    OperatorDashboardStats :=
  let metrics := getStorageMetrics store (now - dayInMs)
  { recentEventsPersisted := metrics.recentEventCount
    planVersionsRetained := metrics.retainedPlanVersions
    workflowsTracked := metrics.trackedWorkflows
    activeWorkflows := metrics.activeWorkflows
    connectorsTracked := bindings.length }

def populateConnectorBindings (bindings : List ConnectorBinding) : List OperatorConnectorBinding :=
  bindings.map fun connector =>
    { id := connector.id
      kind := connectorKindLabel connector.kind
      displayName := connector.displayName
      target := connector.target
      enabled := connector.enabled }

/-- A response before the workflows are listed, with the reading of the clock. -/
def startResponse (bindings : List ConnectorBinding) (store : Store) (now : Int) :
    GetOperatorDashboardResponse where
  ok := true
  serverTimeUnixMs := now
  stats := populateDashboardStats bindings store now
  connectors := populateConnectorBindings bindings

def buildDashboard (bindings : List ConnectorBinding) (store : Store) (now : Int)
    (request : GetOperatorDashboardRequest) : GetOperatorDashboardResponse :=
  let workflows := workflowSummaries store request.workflowQuery request.workflowPageSize
  let selectedWorkflowId := resolveSelectedWorkflowId request.selectedWorkflowId workflows
  let response := { startResponse bindings store now with workflows, selectedWorkflowId }
  if selectedWorkflowId = "" then response
  else withSelectedHistory response (selectedHistory store selectedWorkflowId request)

def buildDashboardUpdate (bindings : List ConnectorBinding) (store : Store) (now : Int)
    (request : GetOperatorDashboardRequest) (notification : OperatorDashboardNotification) :
    OperatorDashboardUpdate :=
  let workflows := workflowSummaries store request.workflowQuery request.workflowPageSize
  let selectedWorkflowId := resolveSelectedWorkflowId request.selectedWorkflowId workflows
  let update := { startResponse bindings store now with workflows, selectedWorkflowId }
  if selectedWorkflowId ≠ "" ∧ selectedWorkflowId = notification.workflowId then
    withSelectedHistory update (selectedHistory store selectedWorkflowId request)
  else update

section Carries

variable (store : Store) (request : GetOperatorDashboardRequest)

def selectedId : WorkflowId :=
  resolveSelectedWorkflowId request.selectedWorkflowId
    (workflowSummaries store request.workflowQuery request.workflowPageSize)

theorem selectedId_of_selected (h : request.selectedWorkflowId ≠ "") :
    selectedId store request = request.selectedWorkflowId := by
  unfold selectedId resolveSelectedWorkflowId
  split
  · rfl
  · exact if_neg h

@[simp] theorem withSelectedHistory_selectedWorkflowId (response : GetOperatorDashboardResponse)
    (selected : GetWorkflowHistoryResponse × GetPlanDiffResponse) :
    (withSelectedHistory response selected).selectedWorkflowId = response.selectedWorkflowId := rfl

theorem buildDashboard_selectedWorkflowId (bindings : List ConnectorBinding) (now : Int) :
    (buildDashboard bindings store now request).selectedWorkflowId = selectedId store request := by
  simp only [buildDashboard]
  split
  · rfl
  · rfl

theorem buildDashboardUpdate_selectedWorkflowId (bindings : List ConnectorBinding) (now : Int)
    (notification : OperatorDashboardNotification) :
    (buildDashboardUpdate bindings store now request notification).selectedWorkflowId =
      selectedId store request := by
  simp only [buildDashboardUpdate]
  split
  · rfl
  · rfl

theorem selectedHistory_fst (workflowId : WorkflowId) :
    (selectedHistory store workflowId request).1.ok = (store.getWorkflow workflowId).isSome ∧
      ∀ record, store.getWorkflow workflowId = some record →
        (selectedHistory store workflowId request).1.workflow = record := by
  have hfst : (selectedHistory store workflowId request).1 = getWorkflowHistory store
      { workflowId := workflowId
        maxEvents := positiveOr request.maxEvents kDefaultHistoryLimit
        maxPlanVersions := positiveOr request.maxPlanVersions kDefaultHistoryLimit
        maxAuditEntries := positiveOr request.maxAuditEntries kDefaultHistoryLimit } := by
    simp only [selectedHistory]
    split
    · rfl
    · split
      · rfl
      · rfl
  rw [hfst, getWorkflowHistory]
  cases store.getWorkflow workflowId with
  | none => simp
  | some record => simp

end Carries

end TaskOrchestrator.Operator
