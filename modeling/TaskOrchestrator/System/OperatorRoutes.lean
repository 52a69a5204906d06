import TaskOrchestrator.Application.HttpTransport
import TaskOrchestrator.System.Interventions

/-!
# Operator routes and credentials

What the four routes of the operator's actions leave in the store. Credentials are read from the
headers and the body into the message, and no action looks at them before it writes.
-/

namespace TaskOrchestrator.System

open Protocol Library ControlPlane Http

set_option autoImplicit false

inductive OperatorAction where
  | pause
  | resume
  | cancel
  | manualIntervention

def OperatorAction.suffix : OperatorAction → List Char
  | .pause => kHttpOperatorPauseSuffix
  | .resume => kHttpOperatorResumeSuffix
  | .cancel => kHttpOperatorCancelSuffix
  | .manualIntervention => kHttpOperatorManualInterventionSuffix

def RoutesTo (request : HttpRequest) (action : OperatorAction) (workflowId : WorkflowId) : Prop :=
  request.method = .post ∧ extractOperatorWorkflowId (splitTarget request.target).1 action.suffix =
    some workflowId

/-- The body is no message of the route, or names another workflow than the path. -/
def BodyRefused (reader : MessageReader) (request : HttpRequest) (workflowId : WorkflowId) :
    OperatorAction → Prop
  | .manualIntervention =>
    ∃ response, readForWorkflow reader.manualIntervention ManualInterventionRequest.workflowId
      request.body workflowId = .error response
  | _ => ∃ response, readForWorkflow (readOptionalBody reader.workflowAction {})
      OperatorWorkflowActionRequest.workflowId request.body workflowId = .error response

theorem between_ends {start stop path middle : List Char}
    (h : between start stop path = some middle) :
    start <+: path ∧ stop <:+ path := by
  unfold between at h
  split_ifs at h with hends
  rw [Bool.and_eq_true] at hends
  exact ⟨List.isPrefixOf_iff_prefix.mp hends.1, List.isSuffixOf_iff_suffix.mp hends.2⟩

theorem between_eq_none {start stop path : List Char} (h : ¬stop <:+ path) :
    between start stop path = none := by
  cases hbetween : between start stop path with
  | none => rfl
  | some middle => exact absurd (between_ends hbetween).2 h

theorem ends_of_routesTo {path suffix : List Char} {workflowId : WorkflowId}
    (h : extractOperatorWorkflowId path suffix = some workflowId) :
    kHttpOperatorWorkflowsPathPrefix <+: path ∧ suffix <:+ path := by
  obtain ⟨middle, hmiddle, -⟩ := Option.map_eq_some_iff.mp h
  exact between_ends (Option.filter_eq_some_iff.mp hmiddle).1

section Routing

variable (env : Environment) (reader : MessageReader) (secureTransport : Bool)
variable (request : HttpRequest)

def OperatorAction.route (workflowId : WorkflowId) : OperatorAction → Service HttpResponse
  | .pause => actionRoute reader secureTransport request Operator.pauseWorkflow workflowId
  | .resume => actionRoute reader secureTransport request Operator.resumeWorkflow workflowId
  | .cancel => actionRoute reader secureTransport request Operator.cancelWorkflow workflowId
  | .manualIntervention => manualInterventionRoute env reader secureTransport request workflowId

theorem operatorPostRoute_eq {path : List Char} {action : OperatorAction} {workflowId : WorkflowId}
    (h : extractOperatorWorkflowId path action.suffix = some workflowId) :
    operatorPostRoute env reader secureTransport request path =
      action.route env reader secureTransport request workflowId := by
  have hends := (ends_of_routesTo h).2
  have hother : ∀ other : List Char, (¬action.suffix <:+ other ∧ ¬other <:+ action.suffix) →
      ¬other <:+ path := by
    intro other hexcludes hpath
    rcases List.suffix_or_suffix_of_suffix hends hpath with hcase | hcase
    · exact hexcludes.1 hcase
    · exact hexcludes.2 hcase
  have hnone : ∀ other : List Char, (¬action.suffix <:+ other ∧ ¬other <:+ action.suffix) →
      extractOperatorWorkflowId path other = none := by
    intro other hexcludes
    rw [extractOperatorWorkflowId, between_eq_none (hother other hexcludes)]
    rfl
  have htasks : extractOperatorTaskWorkflowId path = none := by
    apply hnone
    cases action <;> decide
  have hdelete : extractOperatorTaskDeleteRoute path = none := by
    have hsuffix : ¬kHttpOperatorDeleteTaskSuffix <:+ path := by
      apply hother
      cases action <;> decide
    have hfalse : kHttpOperatorDeleteTaskSuffix.isSuffixOf path = false := by
      rw [Bool.eq_false_iff]
      intro htrue
      exact hsuffix (List.isSuffixOf_iff_suffix.mp htrue)
    rw [extractOperatorTaskDeleteRoute, hfalse, Bool.and_false]
    rfl
  rw [operatorPostRoute, htasks, hdelete]
  cases action with
  | pause =>
    have hpause : extractOperatorWorkflowId path kHttpOperatorPauseSuffix = some workflowId := h
    rw [hpause]
    rfl
  | resume =>
    have hresume : extractOperatorWorkflowId path kHttpOperatorResumeSuffix = some workflowId := h
    rw [hnone kHttpOperatorPauseSuffix (by decide), hresume]
    rfl
  | cancel =>
    have hcancel : extractOperatorWorkflowId path kHttpOperatorCancelSuffix = some workflowId := h
    rw [hnone kHttpOperatorPauseSuffix (by decide), hnone kHttpOperatorResumeSuffix (by decide),
      hcancel]
    rfl
  | manualIntervention =>
    have hintervention : extractOperatorWorkflowId path kHttpOperatorManualInterventionSuffix =
        some workflowId := h
    rw [hnone kHttpOperatorPauseSuffix (by decide), hnone kHttpOperatorResumeSuffix (by decide),
      hnone kHttpOperatorCancelSuffix (by decide), hintervention]
    rfl

theorem handleHttpRequest_of_operatorPath (hpost : request.method = .post)
    (hstart : kHttpOperatorWorkflowsPathPrefix <+: (splitTarget request.target).1)
    (operatorEnabled : Bool) :
    handleHttpRequest env reader secureTransport request operatorEnabled =
      if operatorEnabled = false then
        pure (.error .serviceUnavailable
          "Operator API is unavailable because the control plane is not enabled.")
      else operatorPostRoute env reader secureTransport request (splitTarget request.target).1 := by
  rcases htarget : splitTarget request.target with ⟨path, query⟩
  rw [htarget] at hstart
  dsimp only at hstart
  have hoperator : "/v1/operator".toList.isPrefixOf path = true := by
    rw [List.isPrefixOf_iff_prefix]
    exact List.IsPrefix.trans (by decide) hstart
  have hdashboard : ¬(request.method = .get ∧ path = kHttpOperatorDashboardPath) := by
    intro hget
    exact absurd (hpost.symm.trans hget.1) (by decide)
  have hworkflows : ¬(request.method = .post ∧ path = kHttpOperatorWorkflowsPath) := by
    intro hupsert
    rw [hupsert.2] at hstart
    exact absurd hstart (by decide)
  rw [handleHttpRequest, htarget]
  dsimp only
  rw [if_pos hoperator, handleOperatorHttpRequest, if_neg hdashboard, if_neg hworkflows,
    if_pos hpost]

theorem handleHttpRequest_eq {action : OperatorAction} {workflowId : WorkflowId}
    (h : RoutesTo request action workflowId) (operatorEnabled : Bool) :
    handleHttpRequest env reader secureTransport request operatorEnabled =
      if operatorEnabled = false then
        pure (.error .serviceUnavailable
          "Operator API is unavailable because the control plane is not enabled.")
      else action.route env reader secureTransport request workflowId := by
  rw [handleHttpRequest_of_operatorPath env reader secureTransport request h.1
    (ends_of_routesTo h.2).1, operatorPostRoute_eq env reader secureTransport request h.2]

end Routing

section Writes

variable (env : Environment) (w : World)

/-- A lifecycle action counts an audit entry in the record, whoever asks for it. -/
theorem lifecycleAction_store_iff (newState : WorkflowRecord → WorkflowLifecycleState)
    (action detail : String) (request : LifecycleRequest) :
    ((lifecycleAction newState action detail request).run (handle env) w).2.store = w.store ↔
      w.store.getWorkflow request.workflowId = none := by
  cases hstored : w.store.getWorkflow request.workflowId with
  | none => simp [lifecycleAction, hstored]
  | some stored =>
    have hid : stored.summary.workflowId = request.workflowId :=
      Store.workflowId_of_getWorkflow hstored
    simp only [reduceCtorEq, iff_false]
    intro hsame
    have hcount :
        (((lifecycleAction newState action detail request).run (handle env) w).2.store.getWorkflow
          request.workflowId).map (fun r => r.summary.totalAuditEntryCount) =
          some (stored.summary.totalAuditEntryCount + 1) := by
      simp [lifecycleAction, hstored, Store.getWorkflow_upsertWorkflow, hid]
    rw [hsame, hstored, Option.map_some, Option.some_inj] at hcount
    omega

end Writes

section Routes

variable (env : Environment) (reader : MessageReader) (secureTransport : Bool)
variable (request : HttpRequest)
  (workflowId : WorkflowId) (w : World)

theorem actionRoute_store_iff
    {act : OperatorWorkflowActionRequest → Service Operator.MutationOutcome}
    (hact : ∀ message, ((act message).run (handle env) w).2.store = w.store ↔
      w.store.getWorkflow message.workflowId = none) :
    ((actionRoute reader secureTransport request act workflowId).run (handle env) w).2.store =
      w.store ↔
      (∃ response,
        readForWorkflow
        (readOptionalBody reader.workflowAction {}) OperatorWorkflowActionRequest.workflowId
        request.body workflowId = .error response) ∨ w.store.getWorkflow workflowId = none := by
  unfold actionRoute
  cases readForWorkflow
    (readOptionalBody reader.workflowAction {}) OperatorWorkflowActionRequest.workflowId
      request.body workflowId with
  | error response => simp
  | ok message => simp [hact]

theorem route_store_iff (action : OperatorAction) :
    ((action.route env reader secureTransport request workflowId).run (handle env) w).2.store =
      w.store ↔
      BodyRefused reader request workflowId action ∨ w.store.getWorkflow workflowId = none := by
  cases action with
  | pause =>
    apply actionRoute_store_iff
    intro message
    simp only [Operator.pauseWorkflow, Program.run_bind, Program.run_pure]
    exact lifecycleAction_store_iff env w _ _ _ _
  | resume =>
    apply actionRoute_store_iff
    intro message
    simp only [Operator.resumeWorkflow, Program.run_bind, Program.run_pure]
    exact lifecycleAction_store_iff env w _ _ _ _
  | cancel =>
    apply actionRoute_store_iff
    intro message
    simp only [Operator.cancelWorkflow, Program.run_bind, Program.run_pure]
    exact lifecycleAction_store_iff env w _ _ _ _
  | manualIntervention =>
    simp only [OperatorAction.route, manualInterventionRoute, BodyRefused]
    cases readForWorkflow reader.manualIntervention ManualInterventionRequest.workflowId
      request.body workflowId with
    | error response => simp
    | ok message => simp [Operator.applyManualIntervention, applyManualIntervention_store_iff]

end Routes

/-- A request to one of the routes leaves the store as it is just when it does not get to the
action: there is no operator service, its body is refused, or there is no record of the workflow.
Its credentials do not matter. -/
theorem operator_route_keeps_store_iff (env : Environment) (reader : MessageReader)
    (secureTransport : Bool) (operatorEnabled : Bool) (request : HttpRequest)
    (action : OperatorAction) (workflowId : WorkflowId) (w : World)
    (hroute : RoutesTo request action workflowId) :
    ((handleHttpRequest env reader secureTransport request operatorEnabled).run
      (handle env) w).2.store = w.store ↔
      operatorEnabled = false ∨ BodyRefused reader request workflowId action ∨
        w.store.getWorkflow workflowId = none := by
  rw [handleHttpRequest_eq env reader secureTransport request hroute]
  cases operatorEnabled with
  | true =>
    rw [if_neg (by decide), route_store_iff]
    simp
  | false =>
    rw [if_pos rfl, Program.run_pure]
    exact iff_of_true rfl (Or.inl rfl)

def barePause : HttpRequest where
  method := .post
  target := "/v1/operator/workflows/w:pause".toList

def noMessages : MessageReader where
  submit _ := none
  reorchestrate _ := none
  upsertWorkflow _ := none
  upsertTask _ := none
  deleteTask _ := none
  workflowAction _ := none
  manualIntervention _ := none

theorem barePause_routes : RoutesTo barePause .pause "w" := ⟨rfl, by decide⟩

def otherWorkflow : World :=
  { newDatabase with store := newDatabase.store.upsertWorkflow { summary.workflowId := "other" } }

theorem operator_route_keeps_other_workflow :
    ((handleHttpRequest tokenEnvironment noMessages true barePause true).run
      (handle tokenEnvironment)
      otherWorkflow).2.store = otherWorkflow.store :=
  (operator_route_keeps_store_iff _ _ _ _ _ _ _ _ barePause_routes).mpr
    (Or.inr (Or.inr (by decide)))

def storedWorkflow : World :=
  { newDatabase with store := newDatabase.store.upsertWorkflow { summary.workflowId := "w" } }

/-- Without any credential a stored workflow is paused, although a token is expected. -/
theorem bare_pause_changes_store :
    tokenEnvironment.security.mode = .bearerToken ∧
    tokenEnvironment.security.expectedCredential = "secret" ∧
      RoutesTo barePause .pause "w" ∧
      barePause.authorization = [] ∧ barePause.apiKey = "" ∧ barePause.body = "" ∧
      ((handleHttpRequest tokenEnvironment noMessages true barePause true).run
        (handle tokenEnvironment) storedWorkflow).2.store ≠ storedWorkflow.store := by
  refine ⟨rfl, rfl, barePause_routes, rfl, rfl, rfl, ?_⟩
  intro hsame
  have hstate :=
    congrArg (fun store => (store.getWorkflow "w").map fun record => record.summary.state) hsame
  exact absurd hstate (by decide)

end TaskOrchestrator.System
