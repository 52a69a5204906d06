import TaskOrchestrator.Application.FeasiblePlans
import TaskOrchestrator.System.Lifetimes
import TaskOrchestrator.System.PlanVersions

/-!
# What is stored as a plan

Every plan version of a deployment, at any time and whatever was served at the same time, is the
answer to a planning call on its workflow, and its assignments are a feasible schedule of the
configuration that this call left in the session. The one exception is the empty plan of a
re-orchestration that stores its overrides without replanning.
-/

namespace TaskOrchestrator.System

open Protocol Library ControlPlane
open Program (Obeys obeys_pure obeys_perform_bind)

set_option autoImplicit false

def UniqueConfig (config : Protocol.WorkflowConfig) : Prop :=
  (config.tasks.map TaskConfig.id).Nodup ∧ (config.actors.map ActorConfig.id).Nodup

instance (config : Protocol.WorkflowConfig) : Decidable (UniqueConfig config) :=
  inferInstanceAs (Decidable (_ ∧ _))

def BringsUniqueIds : Request → Prop
  | .submit request => UniqueConfig request.config
  | .operatorUpsertWorkflow request => UniqueConfig request.config
  | _ => True

theorem uniqueIds_toAppWorkflow {config : Protocol.WorkflowConfig} (h : UniqueConfig config) :
    (App.toAppWorkflow config).UniqueIds := by
  constructor
  · have htasks : (App.toAppWorkflow config).tasks.map App.TaskConfig.id =
        config.tasks.map TaskConfig.id := by
      rw [App.toAppWorkflow, List.map_map]
      rfl
    rw [htasks]
    exact h.1
  · have hactors : (App.toAppWorkflow config).actors.map App.ActorConfig.id =
        config.actors.map ActorConfig.id := by
      rw [App.toAppWorkflow, List.map_map]
      rfl
    rw [hactors]
    exact h.2

/-- A task that replaces another one has its id, and a task that is added has a new one. -/
theorem uniqueConfig_upsertTask {config : Protocol.WorkflowConfig} (h : UniqueConfig config)
    (task : TaskConfig) :
    UniqueConfig (Operator.upsertTaskConfig config task) := by
  unfold Operator.upsertTaskConfig
  split_ifs with hany
  · refine ⟨?_, h.2⟩
    have hids : ∀ tasks : List TaskConfig,
        (App.updateFirst (fun t => t.id = task.id) (fun _ => task) tasks).map
        TaskConfig.id = tasks.map TaskConfig.id := by
      intro tasks
      induction tasks with
      | nil => rfl
      | cons first rest ih =>
        unfold App.updateFirst
        split_ifs with hfirst
        · rw [List.map_cons, List.map_cons, of_decide_eq_true hfirst]
        · rw [List.map_cons, List.map_cons, ih]
    rw [hids]
    exact h.1
  · refine ⟨?_, h.2⟩
    have hnew : task.id ∉ config.tasks.map TaskConfig.id := by simpa using hany
    rw [List.map_append]
    exact h.1.append (List.nodup_singleton _) (by simpa using hnew)

theorem uniqueConfig_deleteTask {config : Protocol.WorkflowConfig} (h : UniqueConfig config)
    (taskId : TaskId) :
    UniqueConfig (Operator.deleteTaskConfig config taskId) :=
  ⟨h.1.sublist (List.eraseP_sublist.map _), h.2⟩

def plannedWorkflow : Op → Option WorkflowId
  | .runtimeSubmitWorkflow request => some request.config.id
  | .runtimeReorchestrate request => some request.workflowId
  | _ => none

/-- The response is the plan of the session that a planning call left, or it has no assignments. -/
def PlannedFor (env : Environment) (log : List (Op × World)) (id : WorkflowId)
    (response : RuntimeApiResponse) : Prop :=
  response.result.assignments = [] ∨
    ∃ entry ∈ log, plannedWorkflow entry.1 = some id ∧
    ∃ session, entry.2.sessions.lookup id = some session ∧
      session.UniqueIds ∧ (env.optimize session).ok = true ∧
      response = App.makeRuntimeResponse (env.optimize session) session

theorem PlannedFor.append {env : Environment} {log : List (Op × World)} {id : WorkflowId}
    {response : RuntimeApiResponse} (h : PlannedFor env log id response) (entry : Op × World) :
    PlannedFor env (log ++ [entry]) id response := by
  rcases h with hempty | ⟨planned, hmem, hplanned⟩
  · exact Or.inl hempty
  · exact Or.inr ⟨planned, List.mem_append_left _ hmem, hplanned⟩

/-- The events that the runtime returns, with the workflow that they are about. -/
def received : (op : Op) → op.Reply → List (WorkflowId × WorkflowEvent)
  | .runtimeSubmitWorkflow request, events => events.map fun event => (request.config.id, event)
  | .runtimeReorchestrate request, events => events.map fun event => (request.workflowId, event)
  | _, _ => []

/-- A party stores configurations with unique ids, and plans that it received. -/
def honest : Monitor calls (List (WorkflowId × WorkflowEvent)) where
  allows known op := match op with
    | .upsertWorkflow r => UniqueConfig r.config
    | .runtimeSubmitWorkflow request => UniqueConfig request.config
    | .writePlanVersion id version =>
      ∃ event, (id, event) ∈ known ∧ event.response = some version.response ∧
      carriesPlan version.response = true
    | _ => True
  replies op := match op with
    | .getWorkflow _ => fun reply => ∀ r ∈ (reply : Option WorkflowRecord), UniqueConfig r.config
    | .listAllWorkflows => fun reply => ∀ r ∈ (reply : List WorkflowRecord), UniqueConfig r.config
    | _ => fun _ => True
  next known op reply := known ++ received op reply

section Programs

variable {env : Environment} {known : List (WorkflowId × WorkflowEvent)} {α β : Type}

/-- The program is honest, whatever it knows at its start. -/
def Honest (p : Service α) : Prop := ∀ known, Obeys honest (fun _ _ => True) known p

theorem honest_pure (a : α) : Honest (pure a : Service α) := fun _ => obeys_pure trivial

theorem Honest.bind {p : Service α} {k : α → Service β} (hp : Honest p) (hk : ∀ a, Honest (k a)) :
    Honest (p >>= k) := fun known => Obeys.bind (hp known) fun a known' _ => hk a known'

theorem Honest.map {p : Service α} (k : α → β) (hp : Honest p) : Honest (k <$> p) :=
  fun known => Obeys.bind (hp known) fun _ _ _ => obeys_pure trivial

theorem honest_ask (op : Op) {k : op.Reply → Service α} (hop : ∀ known, honest.allows known op)
    (hk : ∀ r, honest.replies op r → Honest (k r)) : Honest (ask op >>= k) :=
  fun known => obeys_perform_bind (hop known) fun r hr => hk r hr _

theorem honest_publish (id : WorkflowId) : Honest (publishWorkflowUpdate id) := by
  intro known
  unfold publishWorkflowUpdate
  split_ifs
  · exact obeys_pure trivial
  · exact obeys_perform_bind trivial fun _ _ => obeys_pure trivial

/-- The calls of the persistence loop that the runtime does not answer leave what is known. -/
theorem honest_stable (op : Op) (hop : honest.allows known op) (hquiet : ∀ r, received op r = []) :
    Program.Stable honest known op := by
  refine ⟨hop, fun r => ?_⟩
  change known ++ received op r = known
  rw [hquiet, List.append_nil]

theorem honest_persistEvent {p : Persisting} {record : WorkflowRecord}
    (hunique : UniqueConfig record.config) {event : WorkflowEvent}
    (hknown : (p.workflowId, event) ∈ known) :
    (persistEvent p record event).Obeys honest
      (fun record' known' => UniqueConfig record'.config ∧ known' = known) known := by
  apply Program.obeys_stable (honest_stable .unixTimeMsNow trivial fun _ => rfl)
  intro recordedAt _
  have hconfig : UniqueConfig (recordEvent recordedAt record event).config := by
    rw [recordEvent_config]
    exact hunique
  have hresponse : (persistResponse p recordedAt
      (recordEvent recordedAt record event) event.response).Obeys honest
      (fun _ known' => known' = known) known := by
    cases hresponse : event.response with
    | none => exact obeys_pure rfl
    | some response =>
      have hplan : (persistPlanVersion p recordedAt
          (recordEvent recordedAt record event) response).Obeys honest
          (fun _ known' => known' = known) known := by
        unfold persistPlanVersion
        split_ifs with hcarries
        · have hop : ∀ version recordedAt, honest.allows known (.writePlanVersion p.workflowId
              { version := version, recordedAtUnixMs := recordedAt, response := response }) :=
            fun _ _ => ⟨event, hknown, hresponse, hcarries⟩
          apply Program.obeys_stable (honest_stable _ (hop _ _) fun _ => rfl)
          intro _ _
          exact obeys_pure rfl
        · exact obeys_pure rfl
      apply hplan.bind
      rintro _ _ rfl
      unfold persistIdempotency
      split_ifs
      · exact obeys_pure rfl
      · apply Program.obeys_stable (honest_stable (.putIdempotencyRecord _) trivial fun _ => rfl)
        intro _ _
        exact obeys_pure rfl
  apply hresponse.bind
  rintro _ _ rfl
  apply Program.obeys_stable (honest_stable (.writeEvent _ _) trivial fun _ => rfl)
  intro _ _
  apply Program.obeys_stable
    (honest_stable (.upsertWorkflow (recordEvent recordedAt record event)) hconfig fun _ => rfl)
  intro _ _
  apply (publish_stable (honest_stable (.publish _) trivial fun _ => rfl)).bind
  rintro _ _ rfl
  exact obeys_pure ⟨hconfig, rfl⟩

theorem honest_persistEvents {p : Persisting} {record : WorkflowRecord}
    (hunique : UniqueConfig record.config) {events : List WorkflowEvent}
    (hknown : ∀ event ∈ events, (p.workflowId, event) ∈ known) :
    (persistEvents p record events).Obeys honest (fun _ _ => True) known := by
  induction events generalizing record with
  | nil => exact obeys_pure trivial
  | cons event rest ih =>
    apply (honest_persistEvent hunique (hknown event List.mem_cons_self)).bind
    rintro record' _ ⟨hrecord, rfl⟩
    apply (ih hrecord fun later hlater => hknown later (List.mem_cons_of_mem _ hlater)).bind
    intro _ _ _
    exact obeys_pure trivial

theorem honest_submitAccepted {request : SubmitWorkflowRequest}
    (hunique : UniqueConfig request.config) :
    Honest (submitAccepted env request) := by
  apply honest_ask .unixTimeMsNow fun _ => trivial
  intro now _
  have hexisting : Honest (existingRecord request) := by
    unfold existingRecord
    split_ifs
    · exact honest_ask (k := pure) (.getWorkflow _) (fun _ => trivial) fun _ _ => honest_pure _
    · exact honest_pure _
  apply hexisting.bind
  intro existing
  apply honest_ask (.upsertWorkflow (submittedRecord request now existing)) fun _ => hunique
  intro _ _
  apply (honest_publish _).bind
  intro _
  apply honest_ask (.hydratedInsert _) fun _ => trivial
  intro _ _ known
  have hop : honest.allows known (.runtimeSubmitWorkflow request) := hunique
  apply obeys_perform_bind hop
  intro events _
  apply honest_persistEvents hunique
  intro event hevent
  exact List.mem_append_right _ (List.mem_map_of_mem hevent)

theorem honest_streamSubmitWorkflow {request : SubmitWorkflowRequest}
    (hunique : UniqueConfig request.config) :
    Honest (streamSubmitWorkflow env request) := by
  simp only [streamSubmitWorkflow]
  split_ifs
  · exact honest_submitAccepted hunique
  · apply honest_ask (.getIdempotencyRecord _) fun _ => trivial
    intro existing _
    cases existing with
    | none => exact honest_submitAccepted hunique
    | some existing =>
      dsimp only
      split_ifs
      · exact honest_pure _
      · exact honest_pure _

theorem honest_hydrate (auth : ClientAuthContext) (workflowId : WorkflowId)
    {config : Protocol.WorkflowConfig} (hunique : UniqueConfig config) :
    Honest (hydrate auth workflowId config) := by
  apply honest_ask (.hydratedContains _) fun _ => trivial
  intro isHydrated _
  split_ifs
  · exact honest_pure _
  · apply honest_ask
      (.runtimeSubmitWorkflow { config := config, auth := auth, replaceExisting := some true })
      fun _ => hunique
    intro events _
    dsimp only
    split_ifs
    · exact honest_pure _
    · exact honest_ask (.hydratedInsert _) (fun _ => trivial) fun _ _ => honest_pure _

theorem honest_reorchestrateAccepted (request : ReorchestrateRequest) {record : WorkflowRecord}
    (hunique : UniqueConfig record.config) : Honest (reorchestrateAccepted env request record) := by
  intro known
  have hop : honest.allows known (.runtimeReorchestrate request) := trivial
  apply obeys_perform_bind hop
  intro events _
  apply honest_persistEvents hunique
  intro event hevent
  exact List.mem_append_right _ (List.mem_map_of_mem hevent)

theorem honest_streamReorchestrate (request : ReorchestrateRequest) :
    Honest (streamReorchestrate env request) := by
  apply honest_ask (.getWorkflow _) fun _ => trivial
  intro reply hreply
  cases reply with
  | none => exact honest_pure _
  | some record =>
    have hunique := hreply record rfl
    dsimp only
    split
    · exact honest_pure _
    · apply (honest_hydrate _ _ hunique).bind
      intro failure
      cases failure with
      | some response => exact honest_pure _
      | none =>
        dsimp only
        split_ifs
        · exact honest_reorchestrateAccepted request hunique
        · apply honest_ask (.getIdempotencyRecord _) fun _ => trivial
          intro existing _
          cases existing with
          | none => exact honest_reorchestrateAccepted request hunique
          | some existing =>
            dsimp only
            split_ifs
            · exact honest_pure _
            · exact honest_pure _

theorem honest_lifecycleAction (newState : WorkflowRecord → WorkflowLifecycleState)
    (action detail : String) (request : LifecycleRequest) :
    Honest (lifecycleAction newState action detail request) := by
  apply honest_ask (.getWorkflow _) fun _ => trivial
  intro reply hreply
  cases reply with
  | none => exact honest_pure _
  | some stored =>
    have hunique := hreply stored rfl
    apply honest_ask .unixTimeMsNow fun _ => trivial
    intro updatedAt _
    apply honest_ask (.upsertWorkflow _) fun _ => hunique
    intro _ _
    apply honest_ask .unixTimeMsNow fun _ => trivial
    intro recordedAt _
    apply honest_ask (.writeAuditEntry _ _) fun _ => trivial
    intro _ _
    apply honest_ask (.upsertWorkflow _) fun _ => hunique
    intro _ _
    exact (honest_publish _).bind fun _ => honest_pure _

theorem honest_applyManualIntervention (request : ManualInterventionRequest) :
    Honest (applyManualIntervention env request) := by
  apply honest_ask (.getWorkflow _) fun _ => trivial
  intro reply hreply
  cases reply with
  | none => exact honest_pure _
  | some stored =>
    apply honest_ask .unixTimeMsNow fun _ => trivial
    intro recordedAt _
    apply honest_ask (.writeAuditEntry _ _) fun _ => trivial
    intro _ _
    apply honest_ask (.upsertWorkflow _) fun _ => hreply stored rfl
    intro _ _
    apply (honest_publish _).bind
    intro _
    apply (honest_streamReorchestrate _).bind
    intro events
    apply honest_ask (.getWorkflow _) fun _ => trivial
    intro refreshed _
    split_ifs
    · exact honest_pure _
    · exact honest_pure _

theorem honest_recoverWorkflows (auth : ClientAuthContext) {workflows : List WorkflowRecord}
    (h : ∀ r ∈ workflows, UniqueConfig r.config) : Honest (recoverWorkflows auth workflows) := by
  induction workflows with
  | nil => exact honest_pure _
  | cons workflow rest ih =>
    have hunique := h workflow List.mem_cons_self
    have hrest := ih fun r hr => h r (List.mem_cons_of_mem _ hr)
    unfold recoverWorkflows
    split_ifs
    · exact hrest
    · have hworkflow : Honest (recoverWorkflow auth workflow) := by
        apply honest_ask .unixTimeMsNow fun _ => trivial
        intro recordedAt _
        apply honest_ask (.writeAuditEntry _ _) fun _ => trivial
        intro _ _
        apply honest_ask (.upsertWorkflow _) fun _ => hunique
        intro _ _
        apply (honest_publish _).bind
        intro _
        apply honest_ask (.runtimeSubmitWorkflow
          { config := workflow.config, auth := auth, replaceExisting := some true }) fun _ =>
            hunique
        intro _ _
        exact honest_ask (k := pure) (.hydratedInsert _) (fun _ => trivial) fun _ _ => honest_pure _
      exact hworkflow.bind fun _ => hrest

theorem honest_appendAuditEntry (workflowId : WorkflowId) (actor action detail : String) :
    Honest (Operator.appendAuditEntry workflowId actor action detail) := by
  apply honest_ask (.getWorkflow _) fun _ => trivial
  intro reply hreply
  cases reply with
  | none => exact honest_pure _
  | some stored =>
    apply honest_ask .unixTimeMsNow fun _ => trivial
    intro recordedAt _
    apply honest_ask (.writeAuditEntry _ _) fun _ => trivial
    intro _ _
    apply honest_ask (.upsertWorkflow _) fun _ => hreply stored rfl
    intro _ _
    exact honest_publish _

theorem honest_submitAndAudit {config : Protocol.WorkflowConfig} (hunique : UniqueConfig config)
    (auth : ClientAuthContext) (key : Option String) (workflowId : WorkflowId)
    (actor action detail : String) :
    Honest (Operator.submitAndAudit env config auth key workflowId actor action detail) := by
  have hstream : Honest (streamSubmitWorkflow env (Operator.replacementRequest config auth key)) :=
    honest_streamSubmitWorkflow hunique
  apply hstream.bind
  intro events
  exact (honest_appendAuditEntry _ _ _ _).bind fun _ => honest_pure _

theorem honest_upsertTask (request : UpsertOperatorTaskRequest) :
    Honest (Operator.upsertTask env request) := by
  unfold Operator.upsertTask
  split
  · exact honest_pure _
  split
  · exact honest_pure _
  · apply honest_ask (.getWorkflow _) fun _ => trivial
    intro reply hreply
    cases reply with
    | none => exact honest_pure _
    | some stored =>
      exact honest_submitAndAudit (uniqueConfig_upsertTask (hreply stored rfl) _) _ _ _ _ _ _

theorem honest_deleteTask (request : DeleteOperatorTaskRequest) :
    Honest (Operator.deleteTask env request) := by
  unfold Operator.deleteTask
  split
  · exact honest_pure _
  split
  · exact honest_pure _
  · apply honest_ask (.getWorkflow _) fun _ => trivial
    intro reply hreply
    cases reply with
    | none => exact honest_pure _
    | some stored =>
      dsimp only
      split
      · exact honest_submitAndAudit (uniqueConfig_deleteTask (hreply stored rfl) _) _ _ _ _ _ _
      · exact honest_pure _

theorem Request.program_honest {request : Request} (h : BringsUniqueIds request) :
    Honest (request.program env) := by
  cases request with
  | submit request => exact (honest_streamSubmitWorkflow h).map _
  | reorchestrate request => exact (honest_streamReorchestrate request).map _
  | pause request => exact (honest_lifecycleAction _ _ _ request).map _
  | resume request => exact (honest_lifecycleAction _ _ _ request).map _
  | cancel request => exact (honest_lifecycleAction _ _ _ request).map _
  | intervene request => exact (honest_applyManualIntervention request).map _
  | recover auth =>
    apply Honest.map
    exact honest_ask .listAllWorkflows (fun _ => trivial) fun _ hreply =>
      honest_recoverWorkflows auth hreply
  | operatorUpsertWorkflow request =>
    apply Honest.map
    unfold Operator.upsertWorkflow
    split
    · exact honest_pure _
    · exact honest_submitAndAudit h _ _ _ _ _ _
  | operatorUpsertTask request => exact (honest_upsertTask request).map _
  | operatorDeleteTask request => exact (honest_deleteTask request).map _
  | operatorPause request =>
    exact (Honest.bind (honest_lifecycleAction _ _ _ _) fun _ => honest_pure _).map _
  | operatorResume request =>
    exact (Honest.bind (honest_lifecycleAction _ _ _ _) fun _ => honest_pure _).map _
  | operatorCancel request =>
    exact (Honest.bind (honest_lifecycleAction _ _ _ _) fun _ => honest_pure _).map _
  | operatorIntervene request =>
    exact (Honest.bind (honest_applyManualIntervention request) fun _ => honest_pure _).map _
  | prune before =>
    apply Honest.map
    exact honest_ask (k := pure) (.pruneStaleBootData before) (fun _ => trivial) fun _ _ =>
      honest_pure _

end Programs

structure Accounted (env : Environment) (log : List (Op × World)) (w : World) : Prop where
  records : ∀ id record, w.store.getWorkflow id = some record → UniqueConfig record.config
  sessions : ∀ id session, w.sessions.lookup id = some session → session.UniqueIds
  plans : ∀ row ∈ w.store.planVersions.rows, PlannedFor env log row.workflowId row.payload

def Backed (env : Environment) (log : List (Op × World))
    (known : List (WorkflowId × WorkflowEvent)) : Prop :=
  ∀ received ∈ known, ∀ response, received.2.response = some response →
    carriesPlan response = true → PlannedFor env log received.1 response

section Deployment

variable {env : Environment} {log : List (Op × World)} {w : World}

/-- The state of a call that writes no record, no session and no plan version is still accounted
for. -/
theorem Accounted.quiet {w' : World} (h : Accounted env log w) (entry : Op × World)
    (hrecords : w'.store.records = w.store.records) (hsessions : w'.sessions = w.sessions)
    (hplans : ∀ row ∈ w'.store.planVersions.rows, row ∈ w.store.planVersions.rows) :
    Accounted env (log ++ [entry]) w' where
  records id record hrecord := by
    apply h.records id record
    rw [Store.getWorkflow, ← hrecords]
    exact hrecord
  sessions id session hsession := h.sessions id session (hsessions ▸ hsession)
  plans row hrow := (h.plans row (hplans row hrow)).append entry

theorem runtimeSubmit_backed (request : SubmitWorkflowRequest)
    (hunique : UniqueConfig request.config) {event : WorkflowEvent} {response : RuntimeApiResponse}
    (hevent : event ∈ (handle env (.runtimeSubmitWorkflow request) w).1)
    (hresponse : event.response = some response) (hplan : carriesPlan response = true) :
    PlannedFor env
    (log ++ [(.runtimeSubmitWorkflow request, (handle env (.runtimeSubmitWorkflow request) w).2)])
      request.config.id response := by
  obtain ⟨haccepts, hok, hsame⟩ := submitStream_plan (w := w) hevent hresponse hplan
  refine Or.inr ⟨_, List.mem_append_right _ (List.mem_singleton.mpr rfl), rfl,
    App.toAppWorkflow request.config, ?_, uniqueIds_toAppWorkflow hunique, hok, hsame⟩
  change (App.streamSubmitWorkflow env.security env.optimize request w.sessions).2.lookup
    request.config.id = _
  rw [runtimeSubmit_accepted env haccepts, Dictionary.lookup_assign, if_pos rfl]

theorem runtimeReorchestrate_backed (request : ReorchestrateRequest)
    (hunique : ∀ session, w.sessions.lookup request.workflowId = some session → session.UniqueIds)
    {event : WorkflowEvent} {response : RuntimeApiResponse}
    (hevent : event ∈ (handle env (.runtimeReorchestrate request) w).1)
    (hresponse : event.response = some response) (hplan : carriesPlan response = true) :
    PlannedFor env
    (log ++ [(.runtimeReorchestrate request, (handle env (.runtimeReorchestrate request) w).2)])
      request.workflowId response := by
  by_cases htrigger : request.triggerReorchestration = some false
  · -- no planning: the only response has no assignments
    left
    have hevent' : event ∈
        (App.streamReorchestrate env.security env.optimize request w.sessions).1 := hevent
    by_cases hrejected : authorized env request.auth = false ∨
      w.sessions.lookup request.workflowId = none
    · obtain ⟨rejection, -, hempty, hstream⟩ := runtimeReorchestrate_rejected env hrejected
      rw [hstream] at hevent'
      obtain rfl := List.mem_singleton.mp hevent'
      obtain rfl := Option.some.inj hresponse
      exact hempty
    · obtain ⟨hauth, hfound⟩ := not_or.mp hrejected
      obtain ⟨session, hsession⟩ := Option.ne_none_iff_exists'.mp hfound
      rw [runtimeReorchestrate_accepted env (by simpa using hauth) hsession] at hevent'
      simp only [htrigger, Option.getD_some, Bool.false_eq_true, if_false] at hevent'
      rcases List.mem_append.mp hevent' with hoverride | hfinished
      · exact absurd hresponse (by simp [overrideEvents_response hoverride])
      · obtain rfl := List.mem_singleton.mp hfinished
        obtain rfl := Option.some.inj hresponse
        rfl
  · obtain ⟨hauth, session, hsession, hok, hsame⟩ :=
      reorchestrateStream_plan htrigger hevent hresponse hplan
    refine Or.inr ⟨_, List.mem_append_right _ (List.mem_singleton.mpr rfl), rfl,
      App.applyOverrides request session, ?_, App.uniqueIds_applyOverrides request
      (hunique session hsession), hok, hsame⟩
    change (App.streamReorchestrate env.security env.optimize request w.sessions).2.lookup
      request.workflowId = _
    rw [runtimeReorchestrate_accepted env hauth hsession, Dictionary.lookup_assign, if_pos rfl]

theorem runtimeSubmit_unique (h : Accounted env log w) {request : SubmitWorkflowRequest}
    (hunique : UniqueConfig request.config) (id : WorkflowId) (session : App.WorkflowConfig)
    (hsession : (handle env (.runtimeSubmitWorkflow request) w).2.sessions.lookup id =
      some session) :
    session.UniqueIds := by
  change (App.streamSubmitWorkflow env.security env.optimize request w.sessions).2.lookup id =
    some session at hsession
  rw [runtimeSubmit_sessions] at hsession
  split_ifs at hsession
  · rw [Dictionary.lookup_assign] at hsession
    split_ifs at hsession
    · obtain rfl := Option.some.inj hsession
      exact uniqueIds_toAppWorkflow hunique
    · exact h.sessions id session hsession
  · exact h.sessions id session hsession

theorem runtimeReorchestrate_unique (h : Accounted env log w) {request : ReorchestrateRequest}
    (id : WorkflowId) (session : App.WorkflowConfig)
    (hsession : (handle env (.runtimeReorchestrate request) w).2.sessions.lookup id =
      some session) :
    session.UniqueIds := by
  change (App.streamReorchestrate env.security env.optimize request w.sessions).2.lookup id =
    some session at hsession
  by_cases hrejected : authorized env request.auth = false ∨
    w.sessions.lookup request.workflowId = none
  · obtain ⟨rejection, -, -, hstream⟩ := runtimeReorchestrate_rejected env hrejected
    rw [hstream] at hsession
    exact h.sessions id session hsession
  · obtain ⟨hauth, hfound⟩ := not_or.mp hrejected
    obtain ⟨before, hbefore⟩ := Option.ne_none_iff_exists'.mp hfound
    rw [runtimeReorchestrate_accepted env (by simpa using hauth) hbefore, Dictionary.lookup_assign]
      at hsession
    split_ifs at hsession
    · obtain rfl := Option.some.inj hsession
      exact App.uniqueIds_applyOverrides request (h.sessions _ before hbefore)
    · exact h.sessions id session hsession

theorem accounted_step {known : List (WorkflowId × WorkflowEvent)} {op : Op}
    (h : Accounted env log w) (hknown : Backed env log known) (hallows : honest.allows known op) :
    honest.replies op (handle env op w).1 ∧
    Accounted env (log ++ [(op, (handle env op w).2)]) (handle env op w).2 ∧
      Backed env (log ++ [(op, (handle env op w).2)])
      (honest.next known op (handle env op w).1) := by
  have hold : Backed env (log ++ [(op, (handle env op w).2)]) known :=
    fun event hevent response hresponse hplan =>
      (hknown event hevent response hresponse hplan).append _
  have hsame : received op (handle env op w).1 = [] →
      Backed env (log ++ [(op, (handle env op w).2)])
      (honest.next known op (handle env op w).1) := by
    intro hnone
    change Backed env _ (known ++ received op (handle env op w).1)
    rw [hnone, List.append_nil]
    exact hold
  have hgrown : (∀ pair ∈ received op (handle env op w).1, ∀ response, pair.2.response =
      some response →
      carriesPlan response = true →
        PlannedFor env (log ++ [(op, (handle env op w).2)]) pair.1 response) →
      Backed env (log ++ [(op, (handle env op w).2)])
        (honest.next known op (handle env op w).1) := by
    intro hnew pair hpair
    rcases List.mem_append.mp hpair with hpair | hpair
    · exact hold pair hpair
    · exact hnew pair hpair
  cases op with
  | upsertWorkflow r =>
    refine ⟨trivial, ⟨?_, h.sessions, fun row hrow => (h.plans row hrow).append _⟩, hsame rfl⟩
    intro id record hrecord
    change (w.store.upsertWorkflow r).getWorkflow id = some record at hrecord
    rw [Store.getWorkflow_upsertWorkflow] at hrecord
    split_ifs at hrecord
    · obtain rfl := Option.some.inj hrecord
      exact hallows
    · exact h.records id record hrecord
  | getWorkflow id =>
    exact ⟨fun r hr => h.records id r hr, h.quiet _ rfl rfl fun _ hrow => hrow, hsame rfl⟩
  | listAllWorkflows =>
    refine ⟨fun r hr => ?_, h.quiet _ rfl rfl fun _ hrow => hrow, hsame rfl⟩
    exact h.records _ r ((Store.mem_listAllWorkflows w.store r).mp hr)
  | writePlanVersion id version =>
    refine ⟨trivial, ⟨h.records, h.sessions, fun row hrow => ?_⟩, hsame rfl⟩
    rcases (KeyedRows.mem_put _ _ _).mp hrow with rfl | ⟨hstored, -⟩
    · obtain ⟨event, hevent, hresponse, hplan⟩ := hallows
      exact (hknown _ hevent version.response hresponse hplan).append _
    · exact (h.plans row hstored).append _
  | pruneStaleBootData before =>
    exact ⟨trivial, h.quiet _ rfl rfl fun row hrow => ((KeyedRows.mem_deleteWhere _ _ _).mp hrow).1,
      hsame rfl⟩
  | runtimeSubmitWorkflow request =>
    refine ⟨trivial, ⟨h.records, runtimeSubmit_unique h hallows, fun row hrow =>
      (h.plans row hrow).append _⟩, ?_⟩
    apply hgrown
    intro pair hpair response hresponse hplan
    obtain ⟨event, hevent, rfl⟩ := List.mem_map.mp hpair
    exact runtimeSubmit_backed request hallows hevent hresponse hplan
  | runtimeReorchestrate request =>
    refine ⟨trivial, ⟨h.records, runtimeReorchestrate_unique h, fun row hrow =>
      (h.plans row hrow).append _⟩, ?_⟩
    apply hgrown
    intro pair hpair response hresponse hplan
    obtain ⟨event, hevent, rfl⟩ := List.mem_map.mp hpair
    exact runtimeReorchestrate_backed request (h.sessions _) hevent hresponse hplan
  | _ => exact ⟨trivial, h.quiet _ rfl rfl fun _ hrow => hrow, hsame rfl⟩

theorem Lifetimes.accounted {bootId : String} {clock : Nat → Int}
    (run : Lifetimes env BringsUniqueIds (.initial bootId clock) log w) : Accounted env log w := by
  apply run.invariant (N := honest) (Accounted env) (Backed env)
  · intro log u known op h hknown hallows
    exact accounted_step h hknown hallows
  · intro log entry known hknown pair hpair response hresponse hplan
    exact (hknown pair hpair response hresponse hplan).append entry
  · intro request hrequest
    exact ⟨[], fun _ pair hpair => absurd hpair List.not_mem_nil,
      Request.program_honest hrequest []⟩
  · intro log u bootId h
    refine ⟨h.records, fun id session hsession => absurd hsession ?_, h.plans⟩
    simp [World.restart]
  · exact ⟨fun id record hrecord =>
      absurd hrecord (by simp [World.initial, Store.initial, Store.getWorkflow]),
        fun id session hsession => absurd hsession (by simp [World.initial]),
      fun row hrow => absurd hrow List.not_mem_nil⟩

end Deployment

/-- In every deployment that plans with backends whose plans are feasible, each plan version ever
stored is a feasible plan of the configuration that a planning call on its workflow left in the
session, or the empty plan. -/
theorem stored_plans_feasible (env : Environment) (entries : List Optimizer.BackendEntry)
    (hentries : App.FeasibleBackends entries) (hoptimize : env.optimize = App.optimize entries)
    (bootId : String) (clock : Nat → Int) (log : List (Op × World)) (w : World)
    (run : Lifetimes env BringsUniqueIds (.initial bootId clock) log w) :
    ∀ row ∈ w.store.planVersions.rows, row.payload.result.assignments = [] ∨
      ∃ entry ∈ log, plannedWorkflow entry.1 = some row.workflowId ∧
        ∃ session, entry.2.sessions.lookup row.workflowId = some session ∧
          App.FeasiblePlan session row.payload.result.assignments := by
  intro row hrow
  rcases run.accounted.plans row hrow with hempty
    | ⟨entry, hentry, hplanned, session, hsession, hunique, hok, hsame⟩
  · exact Or.inl hempty
  · refine Or.inr ⟨entry, hentry, hplanned, session, hsession, ?_⟩
    rw [hsame, hoptimize]
    rw [hoptimize] at hok
    exact App.response_feasible hentries hunique hok

def searchEnvironment : Environment :=
  { openEnvironment with optimize := App.optimize [Optimizer.indexedExactEntry] }

/-- Two actors with windows of ten minutes, and two tasks of which the second follows the first. -/
def relaySubmission : SubmitWorkflowRequest where
  config :=
    { id := "w"
      actors :=
        [{ id := "x", windows := [{ start := 0, stop := 10 }] },
          { id := "y", windows := [{ start := 0, stop := 10 }] }]
      tasks :=
        [{ id := "a", duration := 2 }, { id := "b", duration := 3, dependencyTaskIds := ["a"] }] }

/-- The workflow is submitted, and planned again with the second task pinned to the other actor. -/
def relayRequests (again : Bool) : Request :=
  if again
    then .reorchestrate
    { workflowId := "w", taskOverrides := [{ taskId := "b", pinnedActorId := some "y" }] }
  else .submit relaySubmission

/-- Both plans are stored, and each is feasible. -/
theorem stored_plans_feasible_relay : ∃ log w,
    Lifetimes searchEnvironment BringsUniqueIds newDatabase log w ∧
      w.store.planVersions.rows.map (fun row => (row.workflowId, row.payload.result.assignments)) =
        [("w", [⟨"a", "x", 0, 2⟩, ⟨"b", "x", 2, 5⟩]), ("w", [⟨"a", "x", 0, 2⟩, ⟨"b", "y", 2, 5⟩])] ∧
      ∀ row ∈ w.store.planVersions.rows, ∃ entry ∈ log, ∃ session,
        entry.2.sessions.lookup "w" = some session ∧
        App.FeasiblePlan session row.payload.result.assignments := by
  have hfits : (Program.runPool (handle searchEnvironment)
      (List.replicate 26 false ++ List.replicate 24 true)
      (fun i => (relayRequests i).program searchEnvironment) newDatabase).any
      (fun r => r.2.2.store.planVersions.rows.map
        (fun row => (row.workflowId, row.payload.result.assignments)) =
        [("w", [⟨"a", "x", 0, 2⟩, ⟨"b", "x", 2, 5⟩]),
          ("w", [⟨"a", "x", 0, 2⟩, ⟨"b", "y", 2, 5⟩])]) = true := by
    decide
  obtain ⟨trace, left, t, hpool, hrows⟩ := Program.exists_pool hfits
  have hserved : ∀ i, BringsUniqueIds (relayRequests i) := by
    intro i
    cases i with
    | true => trivial
    | false => exact show UniqueConfig _ by decide
  have run : Lifetimes searchEnvironment BringsUniqueIds newDatabase (trace.map Prod.snd) t :=
    .live relayRequests hserved .start hpool
  refine ⟨_, t, run, hrows, fun row hrow => ?_⟩
  have hrow' :=
    List.mem_map_of_mem (f := fun row => (row.workflowId, row.payload.result.assignments)) hrow
  have hstored : row.workflowId = "w" ∧ row.payload.result.assignments ≠ [] := by
    rw [hrows, List.mem_cons, List.mem_singleton, Prod.mk.injEq, Prod.mk.injEq] at hrow'
    rcases hrow' with ⟨hid, hassignments⟩ | ⟨hid, hassignments⟩
    all_goals exact ⟨hid, hassignments ▸ List.cons_ne_nil _ _⟩
  rcases stored_plans_feasible searchEnvironment _ App.indexedExact_feasible rfl "boot"
    (fun reading => reading) _ t run
    row hrow with hempty | ⟨entry, hentry, -, session, hsession, hfeasible⟩
  · exact absurd hempty hstored.2
  · exact ⟨entry, hentry, session, hstored.1 ▸ hsession, hfeasible⟩

end TaskOrchestrator.System
