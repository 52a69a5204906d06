import TaskOrchestrator.System.Sessions
import TaskOrchestrator.Application.Overrides
import TaskOrchestrator.Application.Runner
import TaskOrchestrator.Optimizer.SearchTree
import TaskOrchestrator.Library.Machine

/-!
# References to deleted tasks

The operator's deletion takes one task out of the stored configuration and leaves the lists of the
other tasks alone, where the runtime takes a completed task out of the dependencies that list it. A
task that lists a deleted one waits for it in every search.
-/

namespace TaskOrchestrator.System

open Protocol Library ControlPlane

set_option autoImplicit false

def references (task : TaskConfig) : List TaskId :=
  task.dependencyTaskIds ++ task.mutuallyExclusiveTaskIds

/-- All dependency and mutual-exclusion ids name tasks of the configuration. -/
def Closed (config : WorkflowConfig) : Prop :=
  ∀ task ∈ config.tasks, ∀ id ∈ references task, ∃ other ∈ config.tasks, other.id = id

def Unreferenced (config : WorkflowConfig) (taskId : TaskId) : Prop :=
  1 < (config.tasks.map TaskConfig.id).count taskId ∨ ∀ task ∈ config.tasks, task.id ≠ taskId →
    taskId ∉ references task

/-- A task is ready once its dependencies on tasks of the model are scheduled. -/
def NotBlocked (model : Optimizer.OptimizationModel) : Prop :=
  ∀ (state : Optimizer.SearchState), ∀ task ∈ model.tasks, task.id ∉ state.scheduled →
    task.id ∉ state.dropped →
    (∀ dep ∈ task.dependencyTaskIds, (∃ other ∈ model.tasks, other.id = dep) →
      dep ∈ state.scheduled ∧ dep ∉ state.dropped) →
    task ∈ Optimizer.readyTasks model state

/-- The stored configuration of the workflow is closed, and none of its tasks is blocked by one
that it does not have. -/
def WellFormed (id : WorkflowId) (w : World) : Prop :=
  ∃ config, storedConfig w id = some config ∧ Closed config ∧
    NotBlocked (App.toModel (App.toAppWorkflow config))

def SafelyClosed (id : WorkflowId) (w : World) : Prop :=
  RecordsSound w ∧ ∃ config, storedConfig w id = some config ∧ Closed config

structure Deletes (w : World) (request : DeleteOperatorTaskRequest)
    (config : WorkflowConfig) : Prop where
  workflowId : request.workflowId ≠ ""
  taskId : request.taskId ≠ ""
  stored : storedConfig w request.workflowId = some config
  found : (config.tasks.any fun task => task.id = request.taskId) = true
  applied : ¬ KeyHit w (request.idempotencyKey.getD "")

/-- If the call deletes a task of the workflow, no other task of the stored configuration names it. -/
def LeavesNoReference (id : WorkflowId) (w : World) (request : DeleteOperatorTaskRequest) : Prop :=
  ∀ config, Deletes w request config → request.workflowId = id → Unreferenced config request.taskId

section Configurations

variable {config : WorkflowConfig} {taskId : TaskId}

theorem mem_ids_deleteTask_iff :
    taskId ∈ (Operator.deleteTaskConfig config taskId).tasks.map TaskConfig.id ↔
      1 < (config.tasks.map TaskConfig.id).count taskId := by
  rw [Operator.deleteTaskConfig, App.map_key_eraseP, ← List.count_pos_iff, List.count_erase_self]
  omega

theorem closed_deleteTask_iff (h : Closed config) :
    Closed (Operator.deleteTaskConfig config taskId) ↔ Unreferenced config taskId := by
  have hother : ∀ task ∈ config.tasks, task.id ≠ taskId →
      task ∈ (Operator.deleteTaskConfig config taskId).tasks := fun task htask hne =>
    (List.mem_eraseP_of_neg (by simpa using hne)).mpr htask
  constructor
  · intro hclosed
    by_cases hseveral : 1 < (config.tasks.map TaskConfig.id).count taskId
    · exact Or.inl hseveral
    · refine Or.inr fun task htask hne hreferred => ?_
      obtain ⟨left, hleft, hid⟩ := hclosed task (hother task htask hne) taskId hreferred
      exact hseveral (mem_ids_deleteTask_iff.mp (List.mem_map.mpr ⟨left, hleft, hid⟩))
  · intro hunreferenced task htask id hreferred
    have hsource : task ∈ config.tasks := List.mem_of_mem_eraseP htask
    by_cases hleft : taskId ∈ (Operator.deleteTaskConfig config taskId).tasks.map TaskConfig.id
    · by_cases hid : id = taskId
      · obtain ⟨left, hmem, hsame⟩ := List.mem_map.mp hleft
        exact ⟨left, hmem, hsame.trans hid.symm⟩
      · obtain ⟨other, hmem, rfl⟩ := h task hsource id hreferred
        exact ⟨other, hother other hmem hid, rfl⟩
    · have hne : task.id ≠ taskId := fun hsame => hleft (List.mem_map.mpr ⟨task, htask, hsame⟩)
      have hnone :=
        (hunreferenced.resolve_left fun hseveral =>
          hleft (mem_ids_deleteTask_iff.mpr hseveral)) task
        hsource hne
      obtain ⟨other, hmem, rfl⟩ := h task hsource id hreferred
      exact ⟨other, hother other hmem fun hid => hnone (hid ▸ hreferred), rfl⟩

theorem Closed.notBlocked (h : Closed config) :
    NotBlocked (App.toModel (App.toAppWorkflow config)) := by
  intro state task htask hscheduled hdropped hready
  have hall : ∀ dep ∈ task.dependencyTaskIds, dep ∈ state.scheduled ∧ dep ∉ state.dropped := by
    intro dep hdep
    apply hready dep hdep
    simp only [App.toModel, App.toAppWorkflow, List.map_map] at htask ⊢
    obtain ⟨source, hsource, rfl⟩ := List.mem_map.mp htask
    obtain ⟨other, hother, hid⟩ := h source hsource dep (List.mem_append_left _ hdep)
    exact ⟨_, List.mem_map_of_mem hother, hid⟩
  exact Optimizer.mem_readyTasks_of_isReady
    ⟨htask, hscheduled, hdropped, fun dep hdep => (hall dep hdep).1⟩
    fun dep hdep => (hall dep hdep).2

end Configurations

section Deletions

variable {env : Environment} {w : World} {request : DeleteOperatorTaskRequest}

def afterDeletion (env : Environment) (w : World) (request : DeleteOperatorTaskRequest) : World :=
  (serve env (.operatorDeleteTask request) w).2

theorem Deletes.submission {config : WorkflowConfig} (h : Deletes w request config) :
    (Request.operatorDeleteTask request).submission w =
      some (Operator.replacementRequest
        (Operator.deleteTaskConfig config request.taskId) request.auth
        request.idempotencyKey) := by
  simp only [Request.submission, h.workflowId, h.taskId, or_self, if_false, h.stored]
  rw [Option.filter_some, if_pos h.found, Option.map_some]

theorem storedConfig_afterDeletion (hkeyed : ConfigsKeyed w) {config : WorkflowConfig}
    (h : Deletes w request config) (id : WorkflowId) :
    storedConfig (afterDeletion env w request) id =
      if request.workflowId = id then some (Operator.deleteTaskConfig config request.taskId)
      else storedConfig w id := by
  have hid : config.id = request.workflowId := hkeyed _ _ h.stored
  rcases serve_submission env h.submission with ⟨hhit, -⟩ | ⟨-, hconfigs, -⟩
  · exact absurd hhit h.applied
  · rw [← hid]
    exact hconfigs id

theorem storedConfig_afterDeletion_other (h : ∀ config, ¬ Deletes w request config)
    (id : WorkflowId) :
    storedConfig (afterDeletion env w request) id = storedConfig w id := by
  cases hsubmission : (Request.operatorDeleteTask request).submission w with
  | none => rw [afterDeletion, serve_deleteTask_none env hsubmission]
  | some submission =>
    rcases serve_submission env hsubmission with ⟨-, hconfigs, -⟩ | ⟨hmiss, -⟩
    · exact hconfigs id
    · obtain ⟨hworkflow, htask, record, hrecord, hfound, rfl⟩ := submission_deleteTask hsubmission
      have hstored : storedConfig w request.workflowId = some record.config :=
        Option.map_eq_some_iff.mpr ⟨record, hrecord, rfl⟩
      exact absurd ⟨hworkflow, htask, hstored, hfound, hmiss⟩ (h record.config)

theorem closed_afterDeletion (env : Environment) (request : DeleteOperatorTaskRequest)
    (hkeyed : ConfigsKeyed w) {id : WorkflowId} {config : WorkflowConfig}
    (hstored : storedConfig w id = some config) (hclosed : Closed config) :
    ∃ config', storedConfig (afterDeletion env w request) id = some config' ∧
      (Closed config' ↔ LeavesNoReference id w request) := by
  by_cases hdeletes : ∃ old, Deletes w request old ∧ request.workflowId = id
  · obtain ⟨old, hdeletes, rfl⟩ := hdeletes
    obtain rfl := Option.some.inj (hstored.symm.trans hdeletes.stored)
    refine ⟨_, by rw [storedConfig_afterDeletion hkeyed hdeletes, if_pos rfl], ?_⟩
    rw [closed_deleteTask_iff hclosed]
    constructor
    · intro hunreferenced other hother _
      obtain rfl := Option.some.inj (hstored.symm.trans hother.stored)
      exact hunreferenced
    · exact fun hleaves => hleaves config hdeletes rfl
  · have hother : LeavesNoReference id w request :=
      fun old hold hid => absurd ⟨old, hold, hid⟩ hdeletes
    refine ⟨config, ?_, iff_of_true hclosed hother⟩
    by_cases hany : ∃ old, Deletes w request old
    · obtain ⟨old, hold⟩ := hany
      rw [storedConfig_afterDeletion hkeyed hold, if_neg fun hid =>
        hdeletes ⟨old, hold, hid⟩, hstored]
    · rw [storedConfig_afterDeletion_other fun old hold => hany ⟨old, hold⟩, hstored]

end Deletions

/-- A configuration that is stored and closed stays well formed along the operator's deletions
exactly when each of them leaves no reference to what it deletes. -/
theorem deletions_wellFormed_iff (env : Environment) (bootId : String) (clock : Nat → Int)
    (before : List Step) (id : WorkflowId) (config : WorkflowConfig)
    (hstored : storedConfig (runWorld env before (.initial bootId clock)) id = some config)
    (hclosed : Closed config) (deletions : List DeleteOperatorTaskRequest) :
    Throughout (afterDeletion env) (WellFormed id)
      (runWorld env before (.initial bootId clock)) deletions ↔
      Library.Meets (afterDeletion env) (LeavesNoReference id)
        (runWorld env before (.initial bootId clock))
        deletions := by
  have hsafe : ∀ w, SafelyClosed id w → WellFormed id w := by
    rintro w ⟨-, config, hstored, hclosed⟩
    exact ⟨config, hstored, hclosed, hclosed.notBlocked⟩
  have hkeeps : ∀ w request, SafelyClosed id w → True → LeavesNoReference id w request →
      SafelyClosed id (afterDeletion env w request) := by
    rintro w request ⟨hsound, config, hstored, hclosed⟩ - hleaves
    obtain ⟨config', hstored', hiff⟩ :=
      closed_afterDeletion env request hsound.keyed hstored hclosed
    have hnext : RecordsSound (afterDeletion env w request) :=
      @step_recordsSound env (.request (.operatorDeleteTask request)) w hsound
    exact ⟨hnext, config', hstored', hiff.mpr hleaves⟩
  have hbreaks : ∀ w request, SafelyClosed id w → True → ¬ LeavesNoReference id w request →
      ¬ WellFormed id (afterDeletion env w request) := by
    rintro w request ⟨hsound, config, hstored, hclosed⟩ - hfails ⟨config', hstored', hclosed', -⟩
    obtain ⟨config'', hstored'', hiff⟩ :=
      closed_afterDeletion env request hsound.keyed hstored hclosed
    obtain rfl := Option.some.inj (hstored'.symm.trans hstored'')
    exact hfails (hiff.mp hclosed')
  exact throughout_iff_meets hsafe hkeeps hbreaks (meets_of_forall _ _ fun _ _ => trivial)
    ⟨runWorld_recordsSound (initial_recordsSound bootId clock), config, hstored, hclosed⟩

def dependentTasks : WorkflowConfig where
  id := "w"
  tasks := [{ id := "a" }, { id := "b", dependencyTaskIds := ["a"] }]

def dependentTasksStored : World :=
  runWorld openEnvironment [.request (.submit { config := dependentTasks })] newDatabase

theorem dependentTasks_closed : Closed dependentTasks := by
  intro task htask id hid
  simp only [dependentTasks, List.mem_cons, List.not_mem_nil, or_false] at htask
  rcases htask with rfl | rfl
  · simp [references] at hid
  · obtain rfl : id = "a" := by simpa [references] using hid
    exact ⟨_, List.mem_cons_self, rfl⟩

/-- The dependent task is deleted first. -/
theorem deletions_wellFormed_dependent_first :
    Throughout (afterDeletion openEnvironment) (WellFormed "w") dependentTasksStored
      [{ workflowId := "w", taskId := "b" }, { workflowId := "w", taskId := "a" }] := by
  refine (deletions_wellFormed_iff openEnvironment "boot" (fun reading =>
    reading) _ "w" dependentTasks (by decide) ?_ _).mpr ?_
  · exact dependentTasks_closed
  · refine ⟨?_, ?_, trivial⟩
    · intro config hdeletes _
      have hstored : storedConfig dependentTasksStored "w" = some dependentTasks := by decide
      obtain rfl := Option.some.inj (hdeletes.stored.symm.trans hstored)
      exact Or.inr (by decide)
    · intro config hdeletes _
      have hstored : storedConfig (afterDeletion openEnvironment dependentTasksStored
          { workflowId := "w", taskId := "b" }) "w" =
            some { id := "w", tasks := [{ id := "a" }] } := by decide
      obtain rfl := Option.some.inj (hdeletes.stored.symm.trans hstored)
      exact Or.inr (by decide)

/-- The task that others depend on is deleted, with success, and the other one waits for it. -/
theorem deletion_leaves_reference :
    Closed dependentTasks ∧ storedConfig dependentTasksStored "w" = some dependentTasks ∧
    (serve openEnvironment
      (.operatorDeleteTask { workflowId := "w", taskId := "a" }) dependentTasksStored).1 =
      .mutation { selectedWorkflowId := "w", ok := true } ∧
    ∃ config, storedConfig (afterDeletion openEnvironment dependentTasksStored
        { workflowId := "w", taskId := "a" }) "w" = some config ∧
      ¬ Closed config ∧ ¬ NotBlocked (App.toModel (App.toAppWorkflow config)) := by
  refine ⟨dependentTasks_closed, by decide, by decide,
    { id := "w", tasks := [{ id := "b", dependencyTaskIds := ["a"] }] }, by decide, ?_, ?_⟩
  · intro hclosed
    obtain ⟨other, hother, hid⟩ := hclosed _ List.mem_cons_self "a" (by decide)
    obtain rfl := List.mem_singleton.mp hother
    exact absurd hid (by decide)
  · intro hfree
    have hready := hfree {} _ List.mem_cons_self (by decide) (by decide) (by
      rintro dep hdep ⟨other, hother, rfl⟩
      obtain rfl := List.mem_singleton.mp hother
      exact absurd hdep (by decide))
    exact absurd ((Optimizer.isReady_of_mem hready).dependencies "a" (by decide)) (by decide)

end TaskOrchestrator.System
