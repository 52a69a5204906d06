import TaskOrchestrator.System.SessionRuns

/-!
# Alternatives of completed tasks

The runtime scheduler lets a completed task block the tasks that exclude it. A session deletes the
completed task, so nothing is left that an alternative could collide with, and the next planning
pass may assign it.
-/

namespace TaskOrchestrator.System

open Protocol Library ControlPlane

set_option autoImplicit false

/-- A task with the first id was submitted as mutually exclusive with a task of the second id. -/
def SubmittedExclusive (config : WorkflowConfig) (taskId completedId : TaskId) : Prop :=
  (∃ task ∈ config.tasks, task.id = taskId ∧ completedId ∈ task.mutuallyExclusiveTaskIds) ∧
    ∃ task ∈ config.tasks, task.id = completedId

def MarkedCompleted (requests : List ReorchestrateRequest) (taskId : TaskId) : Prop :=
  ∃ request ∈ requests, ∃ override ∈ request.taskOverrides, override.taskId = taskId ∧
    override.completed = some true

def AlternativeOfCompleted (config : WorkflowConfig) (requests : List ReorchestrateRequest)
    (taskId : TaskId) : Prop :=
  ∃ completedId, MarkedCompleted requests completedId ∧ SubmittedExclusive config taskId completedId

def AllCompleted (config : WorkflowConfig) (requests : List ReorchestrateRequest)
    (taskId : TaskId) : Prop :=
  (config.tasks.map TaskConfig.id).count taskId ≤
    completions (overridesOfTask taskId (requests.flatMap (·.taskOverrides)))

instance (config : WorkflowConfig) (requests : List ReorchestrateRequest) :
    DecidablePred (AllCompleted config requests) :=
  fun _ => inferInstanceAs (Decidable (_ ≤ _))

theorem exists_task_iff (config : WorkflowConfig) (requests : List ReorchestrateRequest)
    (taskId : TaskId) :
    (∃ task ∈ (withOverrides requests (App.toAppWorkflow config)).tasks, task.id = taskId) ↔
      ¬ AllCompleted config requests taskId := by
  have hids : (App.toAppWorkflow config).tasks.map App.TaskConfig.id =
      config.tasks.map TaskConfig.id := by
    rw [App.toAppWorkflow, List.map_map]
    rfl
  rw [← List.mem_map, ← List.count_pos_iff, withOverrides_eq, count_tasksAfter, hids, AllCompleted]
  omega

def assigningAll : Optimizer.Backend := fun model _ _ =>
  { assignments := model.tasks.map fun task => { taskId := task.id, actorId := "" } }

theorem assigningAll_assignsTask :
    Optimizer.AllPlans Optimizer.AssignsTask (Optimizer.registeredAlone assigningAll) := by
  apply Optimizer.allPlans_registeredAlone
  intro model options a ha
  obtain ⟨task, htask, rfl⟩ := List.mem_map.mp ha
  exact ⟨task, htask, rfl⟩

section Plans

variable {env : Environment} {session : App.WorkflowConfig} {taskId : TaskId}

theorem exists_task_of_planned {entries : List Optimizer.BackendEntry}
    (hentries : Optimizer.AllPlans Optimizer.AssignsTask entries) {assignment : Assignment}
    (h : assignment ∈ sessionPlan (withBackends env entries) session) :
    ∃ task ∈ session.tasks, task.id = assignment.taskId := by
  obtain ⟨a, ⟨task, htask, hid⟩, rfl⟩ := sessionPlan_of_allPlans hentries h
  obtain ⟨source, hsource, rfl⟩ := List.mem_map.mp htask
  exact ⟨source, hsource, hid⟩

theorem planned_assigningAll (env : Environment) {task : App.TaskConfig}
    (h : task ∈ session.tasks) :
    ∃ assignment ∈ sessionPlan (withBackends env (Optimizer.registeredAlone assigningAll)) session,
      assignment.taskId = task.id := by
  have hassigned : { taskId := task.id, actorId := "" } ∈
      (assigningAll (App.toModel session) (Optimizer.ConstraintIndex.build (App.toModel session))
        (App.toOptions session.optimization)).assignments :=
    List.mem_map_of_mem (List.mem_map_of_mem h)
  exact ⟨_, mem_sessionPlan_registeredAlone.mpr ⟨_, hassigned, rfl⟩, rfl⟩

end Plans

/-- Whatever backends plan, the plan that a request gets assigns no alternative of a completed task
exactly when every such alternative was completed itself. -/
theorem alternatives_excluded_iff (env : Environment) (submission : SubmitWorkflowRequest)
    (sessions : App.Sessions) (haccepted : runtimeAccepts env submission sessions = true)
    (before : List ReorchestrateRequest) (request : ReorchestrateRequest)
    (htakes : Takes env submission.config.id request) :
    (∀ entries, Optimizer.AllPlans Optimizer.AssignsTask entries →
      ∀ assignment ∈ planAfter (withBackends env entries) submission before request sessions,
        ¬ AlternativeOfCompleted submission.config
          (takenOf env submission.config.id before ++ [request])
          assignment.taskId) ↔
    (Plans request → ∀ taskId,
      AlternativeOfCompleted submission.config
        (takenOf env submission.config.id before ++ [request]) taskId →
        AllCompleted submission.config
        (takenOf env submission.config.id before ++ [request]) taskId) := by
  have hplan : ∀ entries, planAfter (withBackends env entries) submission before request sessions =
      if Plans request then sessionPlan (withBackends env entries)
        (sessionAfter env submission before request)
      else [] :=
        fun entries => planAfter_eq (withBackends env entries) submission haccepted before htakes
  constructor
  · intro hexcluded hplans taskId halternative
    by_contra hleft
    obtain ⟨task, htask, rfl⟩ := (exists_task_iff _ _ _).mpr hleft
    obtain ⟨assignment, hassignment, hid⟩ := planned_assigningAll env htask
    rw [← hid] at halternative
    apply hexcluded (Optimizer.registeredAlone assigningAll) assigningAll_assignsTask assignment
      _ halternative
    rw [hplan, if_pos hplans]
    exact hassignment
  · intro hgone entries hentries assignment hassignment
    rw [hplan] at hassignment
    split_ifs at hassignment with hplans
    · intro halternative
      exact (exists_task_iff _ _ _).mp (exists_task_of_planned hentries hassignment)
        (hgone hplans assignment.taskId halternative)
    · exact absurd hassignment List.not_mem_nil

/-- Two tasks that exclude each other, a third one, and an actor. -/
def alternativesSubmission : SubmitWorkflowRequest where
  config :=
    { id := "w"
      actors := [{ id := "x", windows := [{ start := 0, stop := 10 }] }]
      tasks :=
        [{ id := "a", duration := 5, mutuallyExclusiveTaskIds := ["b"] },
          { id := "b", duration := 5, mutuallyExclusiveTaskIds := ["a"] },
            { id := "c", duration := 5 }] }

def completion (taskId : TaskId) : ReorchestrateRequest where
  workflowId := "w"
  taskOverrides := [{ taskId := taskId, completed := some true }]

/-- Once both are completed, neither is planned. -/
theorem alternatives_excluded_both_completed :
    ¬ ∃ assignment ∈ planAfter (withBackends openEnvironment [Optimizer.indexedExactEntry])
      alternativesSubmission
        [completion "a"] (completion "b") .empty,
      AlternativeOfCompleted alternativesSubmission.config [completion "a", completion "b"]
        assignment.taskId := by
  have hassigns := Optimizer.indexedExact_placesInWindow.mono fun _ _ h => h.assignsTask
  rintro ⟨assignment, hassignment, halternative⟩
  refine (alternatives_excluded_iff openEnvironment alternativesSubmission .empty (by decide)
    [completion "a"]
    (completion "b") (by decide)).mpr ?_ [Optimizer.indexedExactEntry] hassigns assignment
      hassignment halternative
  intro _ taskId halternative
  obtain ⟨completedId, -, ⟨other, hother, rfl, hlists⟩, -⟩ := halternative
  simp only [alternativesSubmission, List.mem_cons, List.not_mem_nil, or_false] at hother
  rcases hother with rfl | rfl | rfl
  · decide
  · decide
  · exact absurd hlists List.not_mem_nil

/-- After the first one was planned and completed, the exact search plans the second one. -/
theorem alternative_planned_after_completion :
    planAfter (withBackends openEnvironment [Optimizer.indexedExactEntry]) alternativesSubmission []
        { workflowId := "w" } .empty =
      [{ taskId := "a", actorId := "x", startTime := 0, endTime := 5 },
        { taskId := "c", actorId := "x", startTime := 5, endTime := 10 }] ∧
    planAfter (withBackends openEnvironment [Optimizer.indexedExactEntry]) alternativesSubmission []
      (completion "a")
        .empty =
      [{ taskId := "b", actorId := "x", startTime := 0, endTime := 5 },
        { taskId := "c", actorId := "x", startTime := 5, endTime := 10 }] ∧
    AlternativeOfCompleted alternativesSubmission.config [completion "a"] "b" := by
  refine ⟨by decide +kernel, by decide +kernel, "a",
    ?_, ⟨_, List.mem_cons_of_mem _ List.mem_cons_self, rfl, by decide⟩, _, List.mem_cons_self, rfl⟩
  exact ⟨_, List.mem_singleton_self _, _, List.mem_singleton_self _, rfl, rfl⟩

end TaskOrchestrator.System
