import TaskOrchestrator.Application.Overrides
import TaskOrchestrator.System.Sessions

/-!
# Stored configurations and the overrides since

A submission, a recovery and a lazy replay make the session of a workflow from its stored
configuration. Overrides change the session only. The session is therefore the stored
configuration with the overrides since it was made, unless a submission was rejected after
its configuration was stored.
-/

namespace TaskOrchestrator.System

open Protocol Library ControlPlane

set_option autoImplicit false

def upsertSessionTask (session : App.WorkflowConfig) (task : App.TaskConfig) : App.WorkflowConfig :=
  if session.tasks.any fun t => t.id = task.id then
    { session with tasks := App.updateFirst (fun t =>
      t.id = task.id) (fun _ => task) session.tasks }
  else { session with tasks := session.tasks ++ [task] }

def deleteSessionTask (session : App.WorkflowConfig) (taskId : TaskId) : App.WorkflowConfig :=
  { session with tasks := session.tasks.eraseP fun t => t.id = taskId }

theorem toAppWorkflow_upsertTask (config : WorkflowConfig) (task : TaskConfig) :
    App.toAppWorkflow (Operator.upsertTaskConfig config task) =
      upsertSessionTask (App.toAppWorkflow config) (App.toAppTask task) := by
  have hany : ((App.toAppWorkflow config).tasks.any fun t => t.id = (App.toAppTask task).id) =
      config.tasks.any fun t => t.id = task.id := by
    simp only [App.toAppWorkflow, List.any_map]
    rfl
  unfold upsertSessionTask Operator.upsertTaskConfig
  rw [hany]
  split_ifs
  · simp only [App.toAppWorkflow]
    congr 1
    apply App.map_updateFirst
    · intro t
      rfl
    · intro t
      rfl
  · simp only [App.toAppWorkflow, List.map_append, List.map_cons, List.map_nil]

theorem toAppWorkflow_deleteTask (config : WorkflowConfig) (taskId : TaskId) :
    App.toAppWorkflow (Operator.deleteTaskConfig config taskId) =
      deleteSessionTask (App.toAppWorkflow config) taskId := by
  simp only [App.toAppWorkflow, Operator.deleteTaskConfig, deleteSessionTask, List.eraseP_map]
  rfl

def withOverrides (requests : List ReorchestrateRequest) (session : App.WorkflowConfig) :
    App.WorkflowConfig :=
  requests.foldl (fun session request => App.applyOverrides request session) session

@[simp]
theorem withOverrides_nil (session : App.WorkflowConfig) : withOverrides [] session = session := rfl

@[simp]
theorem withOverrides_append (requests : List ReorchestrateRequest) (request : ReorchestrateRequest)
    (session : App.WorkflowConfig) :
    withOverrides (requests ++ [request]) session =
      App.applyOverrides request (withOverrides requests session) := by
  simp [withOverrides]

section Carried

variable (env : Environment) (id : WorkflowId)

def BecomesSession (w : World) (submission : SubmitWorkflowRequest) : Prop :=
  submission.config.id = id ∧ ¬ KeyHit w (submission.idempotencyKey.getD "") ∧
    runtimeAccepts env submission w.sessions = true

open Classical in
/-- The re-orchestrations whose overrides are in the session of the id after a request, when
those of a list were in it before. A session that is made again has none. -/
noncomputable def carriedAfter (w : World) (carried : List ReorchestrateRequest)
    (request : Request) :
    List ReorchestrateRequest :=
  match request.submission w, request.reorchestration, request with
  | some submission, _, _ => if BecomesSession env id w submission then [] else carried
  | none, some reorchestration, _ =>
    if reorchestration.workflowId = id then
      let kept := if Reloads env w reorchestration then [] else carried
      if ∃ session, Overrides env w reorchestration session then kept ++ [reorchestration] else kept
    else carried
  | none, none, .recover auth => if Recovers env w auth id then [] else carried
  | none, none, _ => carried

/-- The re-orchestrations whose overrides are in the session of the id after a run. -/
noncomputable def carriedByRun :
    List Step → World → List ReorchestrateRequest → List ReorchestrateRequest
  | [], _, carried => carried
  | .request r :: rest, w, carried =>
    carriedByRun rest (serve env r w).2 (carriedAfter env id w carried r)
  | .restart bootId :: rest, w, _ => carriedByRun rest (w.restart bootId) []
  | .crash r n bootId :: rest, w, _ => carriedByRun rest ((Step.crash r n bootId).next env w) []

end Carried

def Carries (id : WorkflowId) (carried : List ReorchestrateRequest) (w : World) : Prop :=
  ∀ session, w.sessions.lookup id = some session →
    (storedConfig w id).map (fun config => withOverrides carried (App.toAppWorkflow config)) =
      some session

/-- A submission for the id is answered from the idempotency table or accepted, or finds no
session. -/
def KeepsConfig (env : Environment) (id : WorkflowId) (w : World) : Step → Prop
  | .request r => ∀ submission ∈ r.submission w, submission.config.id = id →
    KeyHit w (submission.idempotencyKey.getD "") ∨ runtimeAccepts env submission w.sessions = true ∨
      w.sessions.lookup id = none
  | .restart _ => True
  | .crash _ _ _ => True

section Steps

variable {env : Environment} {id : WorkflowId} {carried : List ReorchestrateRequest} {w w' : World}

theorem Carries.of_none (h : w.sessions.lookup id = none) : Carries id carried w := by
  intro session hsession
  exact absurd (h.symm.trans hsession) (by simp)

theorem Carries.of_made (h : w.sessions.lookup id = (storedConfig w id).map App.toAppWorkflow) :
    Carries id [] w := by
  intro session hsession
  simpa [h] using hsession

theorem Carries.of_same (hconfig : storedConfig w' id = storedConfig w id)
    (hsession : w'.sessions.lookup id = w.sessions.lookup id) (hw : Carries id carried w) :
    Carries id carried w' := by
  intro session h
  rw [hconfig]
  exact hw session (hsession.symm.trans h)

theorem Submitted.carries {submission : SubmitWorkflowRequest} (h : Submitted env submission w w')
    (hkeeps : submission.config.id = id →
      KeyHit w (submission.idempotencyKey.getD "") ∨
      runtimeAccepts env submission w.sessions = true ∨ w.sessions.lookup id = none)
    (hw : Carries id carried w) :
    (BecomesSession env id w submission → Carries id [] w') ∧
    (¬ BecomesSession env id w submission → Carries id carried w') := by
  rcases h with ⟨hhit, hconfigs, hsessions, -⟩ | ⟨hmiss, hconfigs, hsessions, -⟩
  · constructor
    · intro hbecomes
      exact absurd hhit hbecomes.2.1
    · intro _
      exact hw.of_same (hconfigs id) (by rw [hsessions])
  · constructor
    · intro ⟨hid, _, haccepts⟩
      apply Carries.of_made
      rw [hsessions, hconfigs, if_pos haccepts, if_pos hid, Dictionary.lookup_assign, if_pos hid]
      rfl
    · intro hnot
      by_cases hid : submission.config.id = id
      · have hrejected : ¬ runtimeAccepts env submission w.sessions = true :=
          fun haccepts => hnot ⟨hid, hmiss, haccepts⟩
        rcases hkeeps hid with hhit | haccepts | hnone
        · exact absurd hhit hmiss
        · exact absurd haccepts hrejected
        · apply Carries.of_none
          rw [hsessions, if_neg hrejected]
          exact hnone
      · apply hw.of_same
        · rw [hconfigs, if_neg hid]
        · rw [hsessions]
          split_ifs
          · rw [Dictionary.lookup_assign, if_neg hid]
          · rfl

theorem Reloaded.carries {request : ReorchestrateRequest} (h : Reloaded env request w w')
    (hconfigs : storedConfig w' request.workflowId = storedConfig w request.workflowId)
    (hw : Carries request.workflowId carried w) :
    (Reloads env w request → Carries request.workflowId [] w') ∧
    (¬ Reloads env w request → Carries request.workflowId carried w') := by
  constructor
  · intro hreloads
    apply Carries.of_made
    rw [h.1 hreloads, hconfigs]
  · intro hnot
    exact hw.of_same hconfigs (h.2 _ fun hreloads => hnot hreloads.1)

theorem Carries.override {request : ReorchestrateRequest} {session : App.WorkflowConfig}
    (hfound : w.sessions.lookup request.workflowId = some session)
    (hconfig : storedConfig w' request.workflowId = storedConfig w request.workflowId)
    (hnew : w'.sessions = w.sessions.assign request.workflowId (App.applyOverrides request session))
    (hw : Carries request.workflowId carried w) :
    Carries request.workflowId (carried ++ [request]) w' := by
  intro after hafter
  rw [hnew, Dictionary.lookup_assign, if_pos rfl] at hafter
  obtain rfl := Option.some.inj hafter
  obtain ⟨config, hstored, rfl⟩ := Option.map_eq_some_iff.mp (hw session hfound)
  rw [hconfig, hstored]
  simp

open Classical in
theorem Reorchestrated.carries {request : ReorchestrateRequest}
    (h : Reorchestrated env request w w') (hw : Carries request.workflowId carried w) :
    let kept := if Reloads env w request then [] else carried
    Carries request.workflowId
      (if ∃ session, Overrides env w request session then kept ++ [request] else kept) w' := by
  obtain ⟨v, hrefreshes, -, hreloaded, hconfigs, -, hsessions⟩ := h
  have hv : Carries request.workflowId (if Reloads env w request then [] else carried) v := by
    obtain ⟨hmade, hkept⟩ := hreloaded.carries (hrefreshes.configs _) hw
    split_ifs with hreloads
    · exact hmade hreloads
    · exact hkept hreloads
  dsimp only
  rcases hsessions with ⟨hnone, hsame⟩ | ⟨session, hoverrides, hfound, hnew⟩
  · rw [if_neg fun h => h.elim hnone]
    exact hv.of_same (hconfigs _) (by rw [hsame])
  · rw [if_pos ⟨session, hoverrides⟩]
    exact hv.override hfound (hconfigs _) hnew

theorem Reorchestrated.carries_other {request : ReorchestrateRequest}
    (h : Reorchestrated env request w w') (hne : request.workflowId ≠ id)
    (hw : Carries id carried w) : Carries id carried w' := by
  obtain ⟨v, hrefreshes, -, hreloaded, hconfigs, -, hsessions⟩ := h
  apply hw.of_same
  · rw [hconfigs, hrefreshes.configs]
  · rw [← hreloaded.2 id fun hreloads => hne hreloads.2]
    rcases hsessions with ⟨-, hsame⟩ | ⟨session, -, -, hnew⟩
    · rw [hsame]
    · rw [hnew, Dictionary.lookup_assign, if_neg hne]

theorem serve_carries {request : Request} (hkeyed : ConfigsKeyed w)
    (hkeeps : KeepsConfig env id w (.request request)) (hw : Carries id carried w) :
    Carries id (carriedAfter env id w carried request) (serve env request w).2 := by
  unfold carriedAfter
  cases hsubmission : request.submission w with
  | some submission =>
    obtain ⟨hmade, hkept⟩ :=
      (serve_submission env hsubmission).carries (hkeeps submission hsubmission) hw
    dsimp only
    split_ifs with hbecomes
    · exact hmade hbecomes
    · exact hkept hbecomes
  | none =>
    cases hreorchestration : request.reorchestration with
    | some reorchestration =>
      have heffect := serve_reorchestration env hkeyed hreorchestration
      by_cases hid : reorchestration.workflowId = id
      · subst hid
        simp only [if_true]
        exact heffect.carries hw
      · simp only [if_neg hid]
        exact heffect.carries_other hid hw
    | none =>
      obtain ⟨hrefreshes, hsame⟩ := serve_other env hkeyed hsubmission hreorchestration
      by_cases hrecover : ∃ auth, request = .recover auth
      · obtain ⟨auth, rfl⟩ := hrecover
        obtain ⟨hrecovered, hkept⟩ := recoverActiveWorkflows_lookup env auth hkeyed id
        dsimp only
        simp only [serve, Request.program, Program.run_map] at hrefreshes ⊢
        split_ifs with hrecovers
        · apply Carries.of_made
          rw [hrecovered hrecovers, hrefreshes.configs]
        · exact hw.of_same (hrefreshes.configs id) (hkept hrecovers)
      · have hsessions := (hsame fun auth h => hrecover ⟨auth, h⟩).2
        have hunchanged : Carries id carried (serve env request w).2 :=
          hw.of_same (hrefreshes.configs id) (by rw [hsessions])
        cases request with
        | recover auth => exact absurd ⟨auth, rfl⟩ hrecover
        | _ => exact hunchanged

theorem restart_carries (w : World) (bootId : String) : Carries id carried (w.restart bootId) :=
  .of_none rfl

end Steps

/-- The session of the id is its stored configuration with the overrides it carries. A
restart, once the workflows are recovered, and a task edit start from the stored
configuration again. -/
structure CarriesOverrides (env : Environment) (id : WorkflowId)
    (carried : List ReorchestrateRequest) (w : World) : Prop where
  session : Carries id carried w
  restarted : ∀ bootId auth record, authorized env auth = true → w.store.getWorkflow id =
    some record → skippedByRecovery record.summary.state = false →
    (serve env (.recover auth) (w.restart bootId)).2.sessions.lookup id =
      some (App.toAppWorkflow record.config)
  taskUpserted : ∀ request config, request.workflowId = id → id ≠ "" → request.task.id ≠ "" →
    authorized env request.auth = true → ¬ KeyHit w (request.idempotencyKey.getD "") →
    storedConfig w id = some config →
    (serve env (.operatorUpsertTask request) w).2.sessions.lookup id =
      some (upsertSessionTask (App.toAppWorkflow config) (App.toAppTask request.task))
  taskDeleted : ∀ request config, request.workflowId = id → id ≠ "" → request.taskId ≠ "" →
    authorized env request.auth = true → ¬ KeyHit w (request.idempotencyKey.getD "") →
    storedConfig w id = some config → (config.tasks.any fun t => t.id = request.taskId) = true →
    (serve env (.operatorDeleteTask request) w).2.sessions.lookup id =
      some (deleteSessionTask (App.toAppWorkflow config) request.taskId)

section Consequences

variable {env : Environment} {id : WorkflowId} {w : World}

theorem recover_session (hsound : RecordsSound w) (bootId : String) {auth : ClientAuthContext}
    {record : WorkflowRecord} (hauth : authorized env auth = true)
    (hrecord : w.store.getWorkflow id = some record)
    (hactive : skippedByRecovery record.summary.state = false) :
    (serve env (.recover auth) (w.restart bootId)).2.sessions.lookup id =
      some (App.toAppWorkflow record.config) := by
  have hstarted : ConfigsKeyed (w.restart bootId) := hsound.keyed
  have hrecovers : Recovers env (w.restart bootId) auth id := ⟨hauth, record, hrecord, hactive⟩
  have hconfig : storedConfig (w.restart bootId) id = some record.config :=
    storedConfig_of_getWorkflow hrecord
  simp only [serve, Request.program, Program.run_map]
  rw [(recoverActiveWorkflows_lookup env auth hstarted id).1 hrecovers, hconfig]
  rfl

/-- An authorized submission with `replace_existing` that is not answered from the
idempotency table becomes the session. -/
theorem replacement_session {request : Request} {config : WorkflowConfig} {auth : ClientAuthContext}
    {key : Option String} (hauth : authorized env auth = true) (hmiss : ¬ KeyHit w (key.getD ""))
    (hsubmission : request.submission w = some (Operator.replacementRequest config auth key)) :
    (serve env request w).2.sessions.lookup config.id = some (App.toAppWorkflow config) := by
  have haccepts : runtimeAccepts env (Operator.replacementRequest config auth key) w.sessions =
      true := by
    simp [runtimeAccepts, Operator.replacementRequest, hauth]
  rcases serve_submission env hsubmission with ⟨hhit, -⟩ | ⟨-, -, hsessions, -⟩
  · exact absurd hhit hmiss
  · rw [hsessions, if_pos haccepts, Dictionary.lookup_assign]
    exact if_pos rfl

theorem upsertTask_session (hsound : RecordsSound w) {request : UpsertOperatorTaskRequest}
    {config : WorkflowConfig} (hworkflow : request.workflowId ≠ "") (htask : request.task.id ≠ "")
    (hauth : authorized env request.auth = true)
    (hmiss : ¬ KeyHit w (request.idempotencyKey.getD ""))
    (hconfig : storedConfig w request.workflowId = some config) :
    (serve env (.operatorUpsertTask request) w).2.sessions.lookup request.workflowId =
      some (upsertSessionTask (App.toAppWorkflow config) (App.toAppTask request.task)) := by
  have hid : (Operator.upsertTaskConfig config request.task).id = request.workflowId := by
    rw [← hsound.keyed _ _ hconfig]
    unfold Operator.upsertTaskConfig
    split_ifs <;> rfl
  rw [← toAppWorkflow_upsertTask, ← hid]
  apply replacement_session hauth hmiss
  simp only [Request.submission, hworkflow, htask, or_self, if_false, hconfig, Option.map_some]

theorem deleteTask_session (hsound : RecordsSound w) {request : DeleteOperatorTaskRequest}
    {config : WorkflowConfig} (hworkflow : request.workflowId ≠ "") (htask : request.taskId ≠ "")
    (hauth : authorized env request.auth = true)
    (hmiss : ¬ KeyHit w (request.idempotencyKey.getD ""))
    (hconfig : storedConfig w request.workflowId = some config)
    (hany : (config.tasks.any fun t => t.id = request.taskId) = true) :
    (serve env (.operatorDeleteTask request) w).2.sessions.lookup request.workflowId =
      some (deleteSessionTask (App.toAppWorkflow config) request.taskId) := by
  have hid : (Operator.deleteTaskConfig config request.taskId).id = request.workflowId := by
    change config.id = request.workflowId
    exact hsound.keyed _ _ hconfig
  rw [← toAppWorkflow_deleteTask, ← hid]
  apply replacement_session hauth hmiss
  simp only [Request.submission, hworkflow, htask, or_self, if_false, hconfig,
    Option.filter_some, hany, if_true, Option.map_some]

/-- What a run leaves of the records and of the session of one workflow. -/
theorem run_carries {carried : List ReorchestrateRequest} {steps : List Step}
    (hmeets : Meets env (KeepsConfig env id) steps w) (hsound : RecordsSound w)
    (hw : Carries id carried w) :
    RecordsSound (runWorld env steps w) ∧
      Carries id (carriedByRun env id steps w carried) (runWorld env steps w) := by
  induction steps generalizing w carried with
  | nil => exact ⟨hsound, hw⟩
  | cons step rest ih =>
    obtain ⟨hstep, hrest⟩ := hmeets
    cases step with
    | request r => exact ih hrest (step_recordsSound hsound) (serve_carries hsound.keyed hstep hw)
    | restart bootId => exact ih hrest (step_recordsSound hsound) (restart_carries w bootId)
    | crash r n bootId => exact ih hrest (step_recordsSound hsound) (restart_carries _ bootId)

end Consequences

/-- As long as no submission for the workflow is rejected while it has a session, its session
is the stored configuration with the overrides since the session was made. -/
theorem session_carries_overrides (env : Environment) (bootId : String) (clock : Nat → Int)
    (id : WorkflowId) (steps : List Step)
    (hmeets : Meets env (KeepsConfig env id) steps (.initial bootId clock)) :
    CarriesOverrides env id (carriedByRun env id steps (.initial bootId clock) [])
      (runWorld env steps (.initial bootId clock)) := by
  have hinitial : Carries id [] (.initial bootId clock) := .of_none rfl
  obtain ⟨hsound, hcarries⟩ := run_carries hmeets (initial_recordsSound bootId clock) hinitial
  refine ⟨hcarries, ?_, ?_, ?_⟩
  · intro boot auth record hauth hrecord hactive
    exact recover_session hsound boot hauth hrecord hactive
  · intro request config hid hworkflow htask hauth hmiss hconfig
    subst hid
    exact upsertTask_session hsound hworkflow htask hauth hmiss hconfig
  · intro request config hid hworkflow htask hauth hmiss hconfig hany
    subst hid
    exact deleteTask_session hsound hworkflow htask hauth hmiss hconfig hany

def overrideRun (capacity : Int) : List Step :=
  [.request (.submit { config := { id := "w", actors := [{ id := "a" }] } }),
    .request (.reorchestrate
      { workflowId := "w"
        actorOverrides := [{ actorId := "a", capacity := some capacity }]
        triggerReorchestration := some false })]

theorem session_carries_capacity :
    Meets openEnvironment (KeepsConfig openEnvironment "w") (overrideRun 2) newDatabase ∧
      (runWorld openEnvironment (overrideRun 2) newDatabase).sessions.lookup "w" =
        some { id := "w", actors := [{ id := "a", capacity := 2 }] } ∧
      CarriesOverrides openEnvironment "w"
        (carriedByRun openEnvironment "w" (overrideRun 2) newDatabase [])
        (runWorld openEnvironment (overrideRun 2) newDatabase) := by
  have hmeets : Meets openEnvironment (KeepsConfig openEnvironment "w")
      (overrideRun 2) newDatabase := by
    refine ⟨fun submission hsubmission _ => ?_, fun _ h =>
      absurd h (by simp [Request.submission]), trivial⟩
    obtain rfl := Option.some.inj hsubmission
    exact Or.inr (Or.inl rfl)
  exact ⟨hmeets, by decide, session_carries_overrides openEnvironment "boot"
    (fun reading => reading) "w" _ hmeets⟩

def Agrees (w : World) : Prop :=
  ∀ id session, w.sessions.lookup id = some session →
    (storedConfig w id).map App.toAppWorkflow = some session

/-- The override changes the capacity of the session from 1 to 2, and the stored configuration
keeps the 1. -/
theorem override_not_stored :
    ¬ ∀ v ∈ reached openEnvironment (overrideRun 2) newDatabase, Agrees v := by
  intro h
  have hlast :=
    h (runWorld openEnvironment (overrideRun 2) newDatabase)
      (by simp [overrideRun, reached, runWorld])
  exact absurd (hlast "w" { id := "w", actors := [{ id := "a", capacity := 2 }] } (by decide))
    (by decide)

end TaskOrchestrator.System
