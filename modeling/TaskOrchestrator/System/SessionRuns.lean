import TaskOrchestrator.Application.Overrides
import TaskOrchestrator.Application.Runner
import TaskOrchestrator.System.Agreement
import TaskOrchestrator.System.Streams

/-!
# Plans of a session

From a submission to the next one, the session of a workflow is the submitted configuration with the
overrides of all requests that it took. A request that triggers planning gets the plan of the
session that its own overrides leave.
-/

namespace TaskOrchestrator.System

open Protocol Library ControlPlane

set_option autoImplicit false

def tasksAfter (overrides : List TaskStateOverride) (tasks : List App.TaskConfig) :
    List App.TaskConfig :=
  overrides.foldl (fun tasks override => App.overrideTasks override tasks) tasks

def actorsAfter (overrides : List ActorStateOverride) (actors : List App.ActorConfig) :
    List App.ActorConfig :=
  overrides.foldl (fun actors override => App.overrideActors override actors) actors

theorem withOverrides_eq (requests : List ReorchestrateRequest) (session : App.WorkflowConfig) :
    withOverrides requests session =
      { session with
        tasks := tasksAfter (requests.flatMap (·.taskOverrides)) session.tasks
        actors := actorsAfter (requests.flatMap (·.actorOverrides)) session.actors } := by
  induction requests using List.reverseRecOn with
  | nil => rfl
  | append_singleton rest request ih =>
    rw [withOverrides_append, App.applyOverrides_eq, ih]
    simp [tasksAfter, actorsAfter]

def overridesOfTask (taskId : TaskId) (overrides : List TaskStateOverride) :
    List TaskStateOverride :=
  overrides.filter fun override => override.taskId = taskId

def completions (overrides : List TaskStateOverride) : Nat :=
  overrides.countP fun override => override.completed = some true

theorem count_tasksAfter (taskId : TaskId) (overrides : List TaskStateOverride)
    (tasks : List App.TaskConfig) :
    ((tasksAfter overrides tasks).map App.TaskConfig.id).count taskId =
      (tasks.map App.TaskConfig.id).count taskId - completions
      (overridesOfTask taskId overrides) := by
  induction overrides generalizing tasks with
  | nil => rfl
  | cons override rest ih =>
    change ((tasksAfter rest (App.overrideTasks override tasks)).map App.TaskConfig.id).count
      taskId = _
    rw [ih, App.map_id_overrideTasks_eq, overridesOfTask, overridesOfTask]
    by_cases hid : override.taskId = taskId
    · rw [List.filter_cons_of_pos (by simpa using hid), completions, completions]
      split_ifs with hcompleted
      · rw [hid, List.count_erase_self, List.countP_cons_of_pos (by simpa using hcompleted)]
        omega
      · rw [List.countP_cons_of_neg (by simpa using hcompleted)]
    · rw [List.filter_cons_of_neg (by simpa using hid)]
      split_ifs
      · rw [List.count_erase_of_ne (Ne.symm hid)]
      · rfl

section Session

variable (env : Environment) (id : WorkflowId)

def Takes (request : ReorchestrateRequest) : Prop :=
  authorized env request.auth = true ∧ request.workflowId = id

instance : DecidablePred (Takes env id) := fun _ => inferInstanceAs (Decidable (_ ∧ _))

def takenOf (requests : List ReorchestrateRequest) : List ReorchestrateRequest :=
  requests.filter fun request => Takes env id request

def afterRequests (requests : List ReorchestrateRequest) (sessions : App.Sessions) : App.Sessions :=
  requests.foldl (fun sessions request =>
    (App.streamReorchestrate env.security env.optimize request sessions).2)
    sessions

/-- A request with `trigger_reorchestration` unset plans. -/
def Plans (request : ReorchestrateRequest) : Prop := request.triggerReorchestration.getD true = true

instance : DecidablePred Plans := fun _ => inferInstanceAs (Decidable (_ = true))

/-- The plan that the runtime announces in its answer to the request. -/
def planOf (request : ReorchestrateRequest) (sessions : App.Sessions) : List Assignment :=
  plannedAssignments (App.streamReorchestrate env.security env.optimize request sessions).1

def sessionPlan (session : App.WorkflowConfig) : List Assignment :=
  (env.optimize session).assignments.map (App.toProtoAssignment session)

theorem lookup_streamReorchestrate (request : ReorchestrateRequest) (sessions : App.Sessions) :
    (App.streamReorchestrate env.security env.optimize request sessions).2.lookup id =
      if Takes env id request then (sessions.lookup id).map (App.applyOverrides request)
        else sessions.lookup id := by
  by_cases hrejected : authorized env request.auth = false ∨
    sessions.lookup request.workflowId = none
  · obtain ⟨response, -, -, hstream⟩ := runtimeReorchestrate_rejected env hrejected
    rw [hstream]
    split_ifs with htakes
    · obtain ⟨hauth, rfl⟩ := htakes
      rcases hrejected with hrejected | hnone
      · exact absurd (hauth.symm.trans hrejected) (by simp)
      · simp [hnone]
    · rfl
  · obtain ⟨hauth, hfound⟩ := not_or.mp hrejected
    obtain ⟨session, hsession⟩ := Option.ne_none_iff_exists'.mp hfound
    have hauthorized : authorized env request.auth = true := by simpa using hauth
    rw [runtimeReorchestrate_accepted env hauthorized hsession, Dictionary.lookup_assign]
    by_cases hid : request.workflowId = id
    · subst hid
      rw [if_pos rfl, if_pos ⟨hauthorized, rfl⟩, hsession]
      rfl
    · rw [if_neg hid, if_neg fun htakes => hid htakes.2]

theorem lookup_afterRequests (requests : List ReorchestrateRequest) (sessions : App.Sessions) :
    (afterRequests env requests sessions).lookup id =
      (sessions.lookup id).map (withOverrides (takenOf env id requests)) := by
  induction requests generalizing sessions with
  | nil =>
    cases h : sessions.lookup id <;> simp [afterRequests, takenOf, h]
  | cons request rest ih =>
    change (afterRequests env rest _).lookup id = _
    rw [ih, lookup_streamReorchestrate]
    unfold takenOf
    by_cases htakes : Takes env id request
    · rw [if_pos htakes, List.filter_cons_of_pos (by simpa using htakes), Option.map_map]
      rfl
    · rw [if_neg htakes, List.filter_cons_of_neg (by simpa using htakes)]

theorem planOf_taken {request : ReorchestrateRequest} (htakes : Takes env id request)
    {sessions : App.Sessions} {session : App.WorkflowConfig}
    (hsession : sessions.lookup id = some session) :
    planOf env request sessions =
      if Plans request then sessionPlan env (App.applyOverrides request session) else [] := by
  obtain ⟨hauth, rfl⟩ := htakes
  have hoverrides := plannedAssignments_of_other fun event hevent =>
    (preamble_overrides request event hevent).2
  rw [planOf, runtimeReorchestrate_accepted env hauth hsession, plannedAssignments_append,
    hoverrides, List.nil_append]
  by_cases hplans : Plans request
  · have hplans' : request.triggerReorchestration.getD true = true := hplans
    rw [if_pos hplans, if_pos hplans']
    exact (planningEvents_answer _ _ _ _).2
  · have hplans' : ¬ request.triggerReorchestration.getD true = true := hplans
    rw [if_neg hplans, if_neg hplans']
    rfl

end Session

section Submitted

variable (env : Environment) (submission : SubmitWorkflowRequest)

/-- The plan that a request gets when the workflow was submitted and other requests were served. -/
def planAfter (before : List ReorchestrateRequest) (request : ReorchestrateRequest)
    (sessions : App.Sessions) :
    List Assignment :=
  planOf env request (afterRequests env before
    (App.streamSubmitWorkflow env.security env.optimize submission sessions).2)

def sessionAfter (before : List ReorchestrateRequest) (request : ReorchestrateRequest) :
    App.WorkflowConfig :=
  withOverrides (takenOf env submission.config.id before ++ [request])
    (App.toAppWorkflow submission.config)

theorem planAfter_eq {sessions : App.Sessions}
    (haccepted : runtimeAccepts env submission sessions = true) (before : List ReorchestrateRequest)
    {request : ReorchestrateRequest} (htakes : Takes env submission.config.id request) :
    planAfter env submission before request sessions =
      if Plans request then sessionPlan env (sessionAfter env submission before request)
      else [] := by
  have hsession := lookup_afterRequests env submission.config.id before
    (App.streamSubmitWorkflow env.security env.optimize submission sessions).2
  rw [runtimeSubmit_sessions, if_pos haccepted, Dictionary.lookup_assign, if_pos rfl,
    Option.map_some] at hsession
  rw [planAfter, planOf_taken env _ htakes
    (by rw [runtimeSubmit_sessions, if_pos haccepted, hsession]), sessionAfter,
    withOverrides_append]

end Submitted

def withBackends (env : Environment) (entries : List Optimizer.BackendEntry) : Environment :=
  { env with optimize := App.optimize entries }

theorem sessionPlan_of_allPlans
    {P : Optimizer.OptimizationModel → Optimizer.OptimizedAssignment → Prop} {env : Environment}
    {entries : List Optimizer.BackendEntry} (hentries : Optimizer.AllPlans P entries)
    {session : App.WorkflowConfig} {assignment : Assignment}
    (h : assignment ∈ sessionPlan (withBackends env entries) session) :
    ∃ a, P (App.toModel session) a ∧
      App.toProtoAssignment session (App.toAssignment a) = assignment := by
  obtain ⟨planned, hplanned, rfl⟩ := List.mem_map.mp h
  obtain ⟨a, ha, rfl⟩ := App.optimize_of_allPlans hentries hplanned
  exact ⟨a, ha, rfl⟩

theorem mem_sessionPlan_registeredAlone {env : Environment} {backend : Optimizer.Backend}
    {session : App.WorkflowConfig} {assignment : Assignment} :
    assignment ∈ sessionPlan (withBackends env (Optimizer.registeredAlone backend)) session ↔
      ∃ a ∈ (backend (App.toModel session) (Optimizer.ConstraintIndex.build (App.toModel session))
        (App.toOptions session.optimization)).assignments,
        App.toProtoAssignment session (App.toAssignment a) = assignment := by
  have hsolves : (Optimizer.optimize (Optimizer.registeredAlone backend)
      (Optimizer.backendKindFromString session.optimization.backend)
      (App.toOptions session.optimization)
      (App.toModel session)) = backend (App.toModel session)
        (Optimizer.ConstraintIndex.build (App.toModel session))
        (App.toOptions session.optimization) := by
    rw [Optimizer.optimize, Optimizer.createBackend_registeredAlone]
  rw [← hsolves]
  constructor
  · intro h
    obtain ⟨planned, hplanned, rfl⟩ := List.mem_map.mp h
    obtain ⟨a, ha, rfl⟩ := App.mem_optimize.mp hplanned
    exact ⟨a, ha, rfl⟩
  · rintro ⟨a, ha, rfl⟩
    exact List.mem_map_of_mem (App.mem_optimize.mpr ⟨a, ha, rfl⟩)

end TaskOrchestrator.System
