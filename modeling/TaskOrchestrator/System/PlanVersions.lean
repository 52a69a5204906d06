import TaskOrchestrator.System.Sessions

/-!
# Plan versions and planning passes

The control plane takes a response with both flags set for a plan and stores it as the next
plan version. The runtime sends such a response after a planning pass of the optimizer, and
also when overrides are stored without replanning.
-/

namespace TaskOrchestrator.System

open Protocol Library ControlPlane

set_option autoImplicit false

/-- The configuration on which the runtime runs the optimizer to answer a call. -/
def plannedConfig (env : Environment) (w : World) : Op → Option App.WorkflowConfig
  | .runtimeSubmitWorkflow request =>
    if runtimeAccepts env request w.sessions then some (App.toAppWorkflow request.config) else none
  | .runtimeReorchestrate request =>
    if authorized env request.auth && request.triggerReorchestration.getD true then
      (w.sessions.lookup request.workflowId).map (App.applyOverrides request)
    else none
  | _ => none

/-- One of the calls runs the optimizer, which returns ok, and the response is that of its plan. -/
def PlannedBy (env : Environment) (calls : List (Op × World))
    (response : RuntimeApiResponse) : Prop :=
  ∃ call ∈ calls, ∃ config, plannedConfig env call.2 call.1 = some config ∧
    (env.optimize config).ok = true ∧
    response = App.makeRuntimeResponse (env.optimize config) config

def latestVersion (w : World) (id : WorkflowId) : Int :=
  ((w.store.getWorkflow id).map fun r => r.summary.latestPlanVersion).getD 0

def latestPlan (w : World) (id : WorkflowId) : List Protocol.Assignment :=
  (((w.store.getWorkflow id).bind WorkflowRecord.latestResponse).map fun r =>
    r.result.assignments).getD []

/-- New plan versions come from planning passes of the request, and a re-orchestration or an
intervention without replanning leaves the plan versions and the plan of its workflow. -/
structure VersionsFromPlanning (env : Environment) (request : Request) (w : World) : Prop where
  rows : ∀ row ∈ (serve env request w).2.store.planVersions.rows, row ∉ w.store.planVersions.rows →
    PlannedBy env ((request.program env).asked (handle env) w) row.payload
  advances : ∀ id, latestVersion w id < latestVersion (serve env request w).2 id →
    ∃ response, PlannedBy env ((request.program env).asked (handle env) w) response
  untriggered : ∀ reorchestration ∈ request.reorchestration,
    reorchestration.triggerReorchestration = some false →
    latestVersion (serve env request w).2 reorchestration.workflowId =
      latestVersion w reorchestration.workflowId ∧
    (serve env request w).2.store.planVersions = w.store.planVersions ∧
    latestPlan (serve env request w).2 reorchestration.workflowId =
      latestPlan w reorchestration.workflowId

/-- A request without replanning is handed to the runtime, and its overrides are applied or its
workflow has a plan. -/
def StoredUnplanned (env : Environment) (w : World) (request : ReorchestrateRequest) : Prop :=
  request.triggerReorchestration = some false ∧ (∃ record, ReachesRuntime env w request record) ∧
    ((∃ session, Overrides env w request session) ∨ latestPlan w request.workflowId ≠ [])

section Streams

variable {env : Environment}

theorem planningEvents_plan {result : App.RunResult} {config : App.WorkflowConfig}
    {workflowId : WorkflowId} {detail : String} {event : WorkflowEvent}
    {response : RuntimeApiResponse}
    (hevent : event ∈ App.planningEvents result config workflowId detail)
    (hresponse : event.response = some response) (hplan : carriesPlan response = true) :
    result.ok = true ∧ response = App.makeRuntimeResponse result config := by
  rcases List.mem_append.mp hevent with hplanned | hfinished
  · obtain ⟨assignment, -, rfl⟩ := List.mem_map.mp hplanned
    exact absurd hresponse (by simp [App.makeEvent])
  · obtain rfl := List.mem_singleton.mp hfinished
    obtain rfl := Option.some.inj hresponse
    exact ⟨(Bool.and_eq_true_iff.mp hplan).1, rfl⟩

theorem submitStream_plan {request : SubmitWorkflowRequest} {w : World} {event : WorkflowEvent}
    {response : RuntimeApiResponse} (hevent : event ∈ submitStream env request w)
    (hresponse : event.response = some response) (hplan : carriesPlan response = true) :
    runtimeAccepts env request w.sessions = true ∧
    (env.optimize (App.toAppWorkflow request.config)).ok = true ∧
      response = App.makeRuntimeResponse (env.optimize (App.toAppWorkflow request.config))
        (App.toAppWorkflow request.config) := by
  unfold submitStream at hevent
  cases haccepts : runtimeAccepts env request w.sessions with
  | false =>
    obtain ⟨hok, hstream⟩ := runtimeSubmit_rejected env haccepts
    rw [hstream] at hevent
    obtain rfl := List.mem_singleton.mp hevent
    obtain rfl := Option.some.inj hresponse
    exact absurd hplan (by simp [carriesPlan, hok])
  | true =>
    rw [runtimeSubmit_accepted env haccepts] at hevent
    refine ⟨rfl, ?_⟩
    rcases List.mem_append.mp hevent with hfirst | hplanning
    · simp only [List.mem_cons, List.not_mem_nil, or_false] at hfirst
      rcases hfirst with rfl | rfl <;> exact absurd hresponse (by simp [App.makeEvent])
    · exact planningEvents_plan hplanning hresponse hplan

theorem overrideEvents_response {request : ReorchestrateRequest} {event : WorkflowEvent}
    (hevent : event ∈ request.taskOverrides.map (App.taskOverrideEvent request.workflowId) ++
      request.actorOverrides.map (App.actorOverrideEvent request.workflowId)) :
    event.response = none := by
  rcases List.mem_append.mp hevent with htask | hactor
  · obtain ⟨override, -, rfl⟩ := List.mem_map.mp htask
    unfold App.taskOverrideEvent
    split_ifs <;> rfl
  · obtain ⟨override, -, rfl⟩ := List.mem_map.mp hactor
    rfl

theorem triggers_of_ne {trigger : Option Bool} (h : trigger ≠ some false) :
    trigger.getD true = true := by
  cases trigger with
  | none => rfl
  | some b =>
    cases b with
    | true => rfl
    | false => exact absurd rfl h

theorem reorchestrateStream_plan {request : ReorchestrateRequest} {sessions : App.Sessions}
    {event : WorkflowEvent} {response : RuntimeApiResponse}
    (htrigger : request.triggerReorchestration ≠ some false)
    (hevent : event ∈ (App.streamReorchestrate env.security env.optimize request sessions).1)
    (hresponse : event.response = some response) (hplan : carriesPlan response = true) :
    authorized env request.auth = true ∧
    ∃ session, sessions.lookup request.workflowId = some session ∧
      (env.optimize (App.applyOverrides request session)).ok = true ∧
      response = App.makeRuntimeResponse (env.optimize (App.applyOverrides request session))
        (App.applyOverrides request session) := by
  by_cases hrejected : authorized env request.auth = false ∨
    sessions.lookup request.workflowId = none
  · obtain ⟨rejection, hok, -, hstream⟩ := runtimeReorchestrate_rejected env hrejected
    rw [hstream] at hevent
    obtain rfl := List.mem_singleton.mp hevent
    obtain rfl := Option.some.inj hresponse
    exact absurd hplan (by simp [carriesPlan, hok])
  · obtain ⟨hauth, hfound⟩ := not_or.mp hrejected
    have hauth' : authorized env request.auth = true := by simpa using hauth
    obtain ⟨session, hsession⟩ := Option.ne_none_iff_exists'.mp hfound
    rw [runtimeReorchestrate_accepted env hauth' hsession] at hevent
    refine ⟨hauth', session, hsession, ?_⟩
    simp only [triggers_of_ne htrigger, if_true] at hevent
    rcases List.mem_append.mp hevent with hoverride | hrest
    · exact absurd hresponse (by simp [overrideEvents_response hoverride])
    · rcases List.mem_cons.mp hrest with rfl | hrest
      · exact absurd hresponse (by simp [App.makeEvent])
      · exact planningEvents_plan hrest hresponse hplan

end Streams

section Loop

variable {env : Environment} {p : Persisting}

theorem mem_planVersions_storeEvent {recordedAt : Int} {record : WorkflowRecord}
    {event : WorkflowEvent} {store : Store} {row : HistoryRow RuntimeApiResponse}
    (hrow : row ∈ (storeEvent p recordedAt record event store).planVersions.rows) :
    row ∈ store.planVersions.rows ∨ event.response = some row.payload ∧
      carriesPlan row.payload = true := by
  by_cases hevent : event.response.any carriesPlan = true
  · obtain ⟨response, hresponse, hplan⟩ := (Option.any_eq_true _ _).mp hevent
    have hstored : (storeEvent p recordedAt record event store).planVersions =
        store.planVersions.put (Store.planVersionRow store.currentBootId p.workflowId
          { version := record.summary.latestPlanVersion, recordedAtUnixMs := recordedAt,
            response := response }) := by
      change (storeResponse p recordedAt record store event.response).planVersions = _
      rw [hresponse]
      simp only [storeResponse, hplan, if_true]
      split_ifs <;> rfl
    rw [hstored, KeyedRows.mem_put] at hrow
    rcases hrow with rfl | ⟨hold, -⟩
    · exact Or.inr ⟨hresponse, hplan⟩
    · exact Or.inl hold
  · rw [storeEvent_planVersions p recordedAt record (by simpa using hevent)] at hrow
    exact Or.inl hrow

theorem mem_planVersions_persistEvents {record : WorkflowRecord} {events : List WorkflowEvent}
    {w : World} {row : HistoryRow RuntimeApiResponse}
    (hrow : row ∈ ((persistEvents p record events).run (handle env) w).2.store.planVersions.rows) :
    row ∈ w.store.planVersions.rows ∨
      ∃ event ∈ events, event.response = some row.payload ∧ carriesPlan row.payload = true := by
  induction events generalizing record w with
  | nil => exact Or.inl hrow
  | cons event rest ih =>
    rw [run_persistEvents_cons] at hrow
    simp only [run_persistEvent] at hrow
    rcases ih hrow with hold | ⟨later, hlater, hplan⟩
    · rcases mem_planVersions_storeEvent hold with hold | hplan
      · exact Or.inl hold
      · exact Or.inr ⟨event, List.mem_cons_self, hplan⟩
    · exact Or.inr ⟨later, List.mem_cons_of_mem _ hlater, hplan⟩

theorem finalRecord_advances {clock : Nat → Int} {ticks : Nat} {record : WorkflowRecord}
    {events : List WorkflowEvent}
    (h : record.summary.latestPlanVersion <
      (finalRecord clock ticks record events).summary.latestPlanVersion) :
    ∃ event ∈ events, ∃ response, event.response = some response ∧ carriesPlan response = true := by
  rw [finalRecord_latestPlanVersion] at h
  have hpositive : 0 < events.countP fun event => event.response.any carriesPlan := by omega
  obtain ⟨event, hevent, hplan⟩ := List.countP_pos_iff.mp hpositive
  obtain ⟨response, hresponse, hcarries⟩ := (Option.any_eq_true _ _).mp hplan
  exact ⟨event, hevent, response, hresponse, hcarries⟩

end Loop

section Calls

variable {env : Environment} {w : World}

theorem asked_submitAccepted (request : SubmitWorkflowRequest) :
    (.runtimeSubmitWorkflow request, { submittedWorld env request w with sessions := w.sessions }) ∈
      (submitAccepted env request).asked (handle env) w := by
  simp only [submitAccepted, Program.asked_bind, run_unixTimeMsNow, run_existingRecord,
    run_upsertWorkflow, run_publishWorkflowUpdate, run_hydratedInsert, List.mem_append]
  right; right; right; right; right; left
  exact List.mem_singleton.mpr rfl

theorem asked_submit {request : SubmitWorkflowRequest}
    (hmiss : ¬ KeyHit w (request.idempotencyKey.getD "")) :
    (.runtimeSubmitWorkflow request, { submittedWorld env request w with sessions := w.sessions }) ∈
      (streamSubmitWorkflow env request).asked (handle env) w := by
  simp only [streamSubmitWorkflow]
  split_ifs with hkey
  · exact asked_submitAccepted request
  · simp only [Program.asked_bind, run_getIdempotencyRecord,
      getIdempotencyRecord_of_miss hkey hmiss, List.mem_append]
    exact Or.inr (asked_submitAccepted request)

theorem asked_reorchestrate {request : ReorchestrateRequest} {record : WorkflowRecord}
    (h : ReachesRuntime env w request record) :
    (.runtimeReorchestrate request, hydratedWorld env request record w) ∈
      (streamReorchestrate env request).asked (handle env) w := by
  have haccepted : (.runtimeReorchestrate request, hydratedWorld env request record w) ∈
      (reorchestrateAccepted env request record).asked (handle env)
        (hydratedWorld env request record w) := by
    simp only [reorchestrateAccepted, Program.asked_bind, List.mem_append]
    exact Or.inl (List.mem_singleton.mpr rfl)
  have hhydrate := run_hydrate_reaches env h
  obtain ⟨hstored, hrefusal, -, hmiss⟩ := h
  simp only [streamReorchestrate, Program.asked_bind, run_getWorkflow, hstored, hrefusal,
    reorchestrateGuarded, hhydrate, List.mem_append]
  right; right
  split_ifs with hkey
  · exact haccepted
  · simp only [Program.asked_bind, run_getIdempotencyRecord, hydratedWorld_store,
      getIdempotencyRecord_of_miss hkey hmiss, List.mem_append]
    exact Or.inr haccepted

theorem planned_submit {request : SubmitWorkflowRequest} {event : WorkflowEvent}
    {response : RuntimeApiResponse} (hmiss : ¬ KeyHit w (request.idempotencyKey.getD ""))
    (hevent : event ∈ submitStream env request w) (hresponse : event.response = some response)
    (hplan : carriesPlan response = true) :
    PlannedBy env ((streamSubmitWorkflow env request).asked (handle env) w) response := by
  obtain ⟨haccepts, hok, hmade⟩ := submitStream_plan hevent hresponse hplan
  refine ⟨_, asked_submit hmiss, App.toAppWorkflow request.config, ?_, hok, hmade⟩
  exact if_pos haccepts

theorem planned_reorchestrate {request : ReorchestrateRequest} {record : WorkflowRecord}
    {event : WorkflowEvent} {response : RuntimeApiResponse}
    (h : ReachesRuntime env w request record)
    (htrigger : request.triggerReorchestration ≠ some false)
    (hevent : event ∈ (App.streamReorchestrate env.security env.optimize request
      (hydratedWorld env request record w).sessions).1)
    (hresponse : event.response = some response) (hplan : carriesPlan response = true) :
    PlannedBy env ((streamReorchestrate env request).asked (handle env) w) response := by
  obtain ⟨hauth, session, hsession, hok, hmade⟩ :=
    reorchestrateStream_plan htrigger hevent hresponse hplan
  refine ⟨_, asked_reorchestrate h, App.applyOverrides request session, ?_, hok, hmade⟩
  simp only [plannedConfig, hauth, triggers_of_ne htrigger, Bool.and_self, if_true, hsession,
    Option.map_some]

end Calls

section Submission

variable {env : Environment} {w : World} {request : SubmitWorkflowRequest}

theorem submit_rows {row : HistoryRow RuntimeApiResponse}
    (hrow : row ∈ ((streamSubmitWorkflow env request).run (handle env) w).2.store.planVersions.rows)
    (hnew : row ∉ w.store.planVersions.rows) :
    PlannedBy env ((streamSubmitWorkflow env request).asked (handle env) w) row.payload := by
  by_cases hhit : KeyHit w (request.idempotencyKey.getD "")
  · rw [(streamSubmitWorkflow_hit env request w hhit).1] at hrow
    exact absurd hrow hnew
  · rw [streamSubmitWorkflow_miss env request w hhit, run_submitAccepted] at hrow
    rcases mem_planVersions_persistEvents hrow with hold | ⟨event, hevent, hresponse, hplan⟩
    · exact absurd hold hnew
    · exact planned_submit hhit hevent hresponse hplan

theorem submit_advances (hsound : RecordsSound w) {id : WorkflowId}
    (h : latestVersion w id < latestVersion
      ((streamSubmitWorkflow env request).run (handle env) w).2 id) :
    ∃ response, PlannedBy env
    ((streamSubmitWorkflow env request).asked (handle env) w) response := by
  by_cases hhit : KeyHit w (request.idempotencyKey.getD "")
  · rw [(streamSubmitWorkflow_hit env request w hhit).1] at h
    exact absurd h (lt_irrefl _)
  · rw [streamSubmitWorkflow_miss env request w hhit] at h
    simp only [latestVersion, submitAccepted_getWorkflow] at h
    split_ifs at h with hid
    · -- The submission starts from the version of the stored record, or from 0.
      have hstart : (submittedRecord request (w.clock w.ticks)
          (lookedUp request w)).summary.latestPlanVersion ≤
          ((w.store.getWorkflow id).map fun r => r.summary.latestPlanVersion).getD 0 := by
        rw [submittedRecord_latestPlanVersion, lookedUp, hid]
        cases hstored : w.store.getWorkflow id with
        | none => split_ifs <;> exact le_refl _
        | some stored =>
          split_ifs
          · exact le_refl _
          · exact (hsound id stored hstored).2
      obtain ⟨event, hevent, response, hresponse, hplan⟩ :=
        finalRecord_advances (lt_of_le_of_lt hstart h)
      exact ⟨response, planned_submit hhit hevent hresponse hplan⟩
    · exact absurd h (lt_irrefl _)

end Submission

section Reorchestration

variable {env : Environment} {w : World} {request : ReorchestrateRequest}

theorem reorchestrate_stops_store (h : ¬ ∃ record, ReachesRuntime env w request record) :
    ((streamReorchestrate env request).run (handle env) w).2.store = w.store :=
  (run_streamReorchestrate_stops env fun record hrecord => h ⟨record, hrecord⟩).2.store

theorem reorchestrate_rows (htrigger : request.triggerReorchestration ≠ some false)
    {row : HistoryRow RuntimeApiResponse}
    (hrow : row ∈ ((streamReorchestrate env request).run (handle env) w).2.store.planVersions.rows)
    (hnew : row ∉ w.store.planVersions.rows) :
    PlannedBy env ((streamReorchestrate env request).asked (handle env) w) row.payload := by
  by_cases hreaches : ∃ record, ReachesRuntime env w request record
  · obtain ⟨record, hreaches⟩ := hreaches
    rw [run_streamReorchestrate_reaches env hreaches, run_reorchestrateAccepted] at hrow
    rcases mem_planVersions_persistEvents hrow with hold | ⟨event, hevent, hresponse, hplan⟩
    · dsimp only at hold
      rw [hydratedWorld_store] at hold
      exact absurd hold hnew
    · exact planned_reorchestrate hreaches htrigger hevent hresponse hplan
  · rw [reorchestrate_stops_store hreaches] at hrow
    exact absurd hrow hnew

theorem reorchestrate_getWorkflow {record : WorkflowRecord}
    (h : ReachesRuntime env w request record) (id : WorkflowId) :
    ((streamReorchestrate env request).run (handle env) w).2.store.getWorkflow id =
      if request.workflowId = id then
        some (finalRecord w.clock w.ticks record
          (App.streamReorchestrate env.security env.optimize request
            (hydratedWorld env request record w).sessions).1)
      else w.store.getWorkflow id := by
  have hid := Store.workflowId_of_getWorkflow h.1
  have hclock : (hydratedWorld env request record w).clock = w.clock ∧
      (hydratedWorld env request record w).ticks = w.ticks := by
    unfold hydratedWorld
    split_ifs <;> exact ⟨rfl, rfl⟩
  rw [run_streamReorchestrate_reaches env h, run_reorchestrateAccepted, getWorkflow_persistEvents]
  simp only [hid, hclock.1, hclock.2, hydratedWorld_store]
  have hne : (App.streamReorchestrate env.security env.optimize request
      (hydratedWorld env request record w).sessions).1 ≠ [] :=
        runtimeReorchestrate_ne_nil env request _
  simp only [ne_eq, hne, not_false_eq_true, true_and]

theorem latestVersion_of_getWorkflow {id : WorkflowId} {record : WorkflowRecord}
    (h : w.store.getWorkflow id = some record) :
    latestVersion w id = record.summary.latestPlanVersion := by
  simp [latestVersion, h]

theorem reorchestrate_advances (htrigger : request.triggerReorchestration ≠ some false)
    {id : WorkflowId}
    (h : latestVersion w id < latestVersion ((streamReorchestrate env request).run (handle env) w).2
      id) :
    ∃ response, PlannedBy env
    ((streamReorchestrate env request).asked (handle env) w) response := by
  by_cases hreaches : ∃ record, ReachesRuntime env w request record
  · obtain ⟨record, hreaches⟩ := hreaches
    by_cases hid : request.workflowId = id
    · subst hid
      rw [latestVersion_of_getWorkflow hreaches.1] at h
      simp only [latestVersion, reorchestrate_getWorkflow hreaches, if_true, Option.map_some,
        Option.getD_some] at h
      obtain ⟨event, hevent, response, hresponse, hplan⟩ := finalRecord_advances h
      exact ⟨response, planned_reorchestrate hreaches htrigger hevent hresponse hplan⟩
    · simp only [latestVersion, reorchestrate_getWorkflow hreaches, if_neg hid] at h
      exact absurd h (lt_irrefl _)
  · simp only [latestVersion, reorchestrate_stops_store hreaches] at h
    exact absurd h (lt_irrefl _)

theorem reorchestrate_other {id : WorkflowId} (hid : request.workflowId ≠ id) :
    latestVersion ((streamReorchestrate env request).run (handle env) w).2 id =
      latestVersion w id := by
  by_cases hreaches : ∃ record, ReachesRuntime env w request record
  · obtain ⟨record, hreaches⟩ := hreaches
    simp only [latestVersion, reorchestrate_getWorkflow hreaches, if_neg hid]
  · simp only [latestVersion, reorchestrate_stops_store hreaches]

theorem untriggered_applied {record : WorkflowRecord} (h : ReachesRuntime env w request record)
    (htrigger : request.triggerReorchestration = some false)
    (hoverrides : ∃ session, Overrides env w request session) :
    latestVersion ((streamReorchestrate env request).run (handle env) w).2 request.workflowId =
      latestVersion w request.workflowId + 1 := by
  obtain ⟨session, hauth, record', hreaches, hsession⟩ := hoverrides
  obtain rfl := Option.some.inj (h.1.symm.trans hreaches.1)
  rw [latestVersion_of_getWorkflow h.1]
  simp only [latestVersion, reorchestrate_getWorkflow h, if_true, Option.map_some, Option.getD_some,
    finalRecord_latestPlanVersion, runtimeReorchestrate_accepted env hauth hsession, htrigger]
  have hoverride : List.countP (fun event : WorkflowEvent => event.response.any carriesPlan)
      (request.taskOverrides.map (App.taskOverrideEvent request.workflowId) ++
        request.actorOverrides.map (App.actorOverrideEvent request.workflowId)) = 0 := by
    rw [List.countP_eq_zero]
    intro event hevent
    simp [overrideEvents_response hevent]
  rw [List.countP_append, hoverride]
  rfl

/-- A request without replanning that the runtime rejects leaves the plan versions, and the
rejection takes the place of the latest response. -/
theorem untriggered_rejected {record : WorkflowRecord} (h : ReachesRuntime env w request record)
    (hrejected : ¬ ∃ session, Overrides env w request session) :
    latestVersion ((streamReorchestrate env request).run (handle env) w).2 request.workflowId =
      latestVersion w request.workflowId ∧
    ((streamReorchestrate env request).run (handle env) w).2.store.planVersions =
    w.store.planVersions ∧ latestPlan
    ((streamReorchestrate env request).run (handle env) w).2 request.workflowId = [] := by
  have hfails : authorized env request.auth = false ∨
      (hydratedWorld env request record w).sessions.lookup request.workflowId = none := by
    by_contra hboth
    obtain ⟨hauth, hfound⟩ := not_or.mp hboth
    obtain ⟨session, hsession⟩ := Option.ne_none_iff_exists'.mp hfound
    exact hrejected ⟨session, by simpa using hauth, record, h, hsession⟩
  obtain ⟨response, hok, hempty, hstream⟩ := runtimeReorchestrate_rejected env hfails
  have hplan : carriesPlan response = false := by simp [carriesPlan, hok]
  refine ⟨?_, ?_, ?_⟩
  · rw [latestVersion_of_getWorkflow h.1]
    simp only [latestVersion, reorchestrate_getWorkflow h, if_true, Option.map_some,
      Option.getD_some, hstream, finalRecord_latestPlanVersion]
    simp [App.makeResponseEvent, hplan]
  · rw [run_streamReorchestrate_reaches env h, run_reorchestrateAccepted,
      run_persistEvents_planVersions]
    · rw [hydratedWorld_store]
    · intro event hevent
      rw [hstream] at hevent
      obtain rfl := List.mem_singleton.mp hevent
      exact hplan
  · simp only [latestPlan, reorchestrate_getWorkflow h, if_true, Option.bind_some, hstream,
      finalRecord_latestResponse]
    simp [App.makeResponseEvent, hempty]

end Reorchestration

section Requests

variable {env : Environment} {w u : World}

theorem PlannedBy.mono {calls calls' : List (Op × World)} {response : RuntimeApiResponse}
    (h : PlannedBy env calls response) (hsubset : ∀ call ∈ calls, call ∈ calls') :
    PlannedBy env calls' response := by
  obtain ⟨call, hcall, hplanned⟩ := h
  exact ⟨call, hsubset call hcall, hplanned⟩

theorem SamePlans.latestVersion (h : SamePlans w u) (id : WorkflowId) :
    latestVersion u id = latestVersion w id := by
  have hrecords := congrArg (Option.map fun part => part.2.1) (h.records id)
  rw [Option.map_map, Option.map_map] at hrecords
  exact congrArg (Option.getD · 0) hrecords

theorem SamePlans.latestPlan (h : SamePlans w u) (id : WorkflowId) :
    latestPlan u id = latestPlan w id := by
  have hrecords := congrArg (Option.bind · fun part => part.2.2) (h.records id)
  simp only [Option.bind_map] at hrecords
  have hresponse : (u.store.getWorkflow id).bind WorkflowRecord.latestResponse =
      (w.store.getWorkflow id).bind WorkflowRecord.latestResponse := hrecords
  simp only [System.latestPlan, hresponse]

structure ServedBy (env : Environment) (request : Request) (q : ReorchestrateRequest)
    (w u : World) : Prop where
  reorchestration : request.reorchestration = some q
  plans : SamePlans w u
  rows : u.store.planVersions = w.store.planVersions
  world : (serve env request w).2 = ((streamReorchestrate env q).run (handle env) u).2
  asked : ∀ call ∈ (streamReorchestrate env q).asked (handle env) u,
    call ∈ (request.program env).asked (handle env) w
  reaches : (∃ record, ReachesRuntime env u q record) ↔ ∃ record, ReachesRuntime env w q record
  overrides : ∀ session, Overrides env u q session ↔ Overrides env w q session

section ServedBy

variable {request : Request} {q : ReorchestrateRequest}

theorem ServedBy.advances (h : ServedBy env request q w u) {id : WorkflowId}
    (hid : latestVersion w id < latestVersion (serve env request w).2 id) :
    latestVersion u id < latestVersion ((streamReorchestrate env q).run (handle env) u).2 id := by
  rwa [h.world, ← h.plans.latestVersion id] at hid

/-- Overrides that are stored without replanning count as a plan, and a rejection replaces one. -/
theorem ServedBy.not_fromPlanning (h : ServedBy env request q w u)
    (hunplanned : StoredUnplanned env w q) :
    ¬ VersionsFromPlanning env request w := by
  intro hversions
  obtain ⟨htrigger, hreach, hbad⟩ := hunplanned
  obtain ⟨record, hreached⟩ := h.reaches.mpr hreach
  obtain ⟨hversion, -, hplan⟩ := hversions.untriggered q h.reorchestration htrigger
  rw [h.world] at hversion hplan
  by_cases hover : ∃ session, Overrides env u q session
  · have happlied := untriggered_applied hreached htrigger hover
    rw [h.plans.latestVersion] at happlied
    omega
  · obtain ⟨-, -, hempty⟩ := untriggered_rejected hreached hover
    rcases hbad with ⟨session, hsession⟩ | hne
    · exact hover ⟨session, (h.overrides session).mpr hsession⟩
    · exact hne (hplan.symm.trans hempty)

theorem ServedBy.unchanged (h : ServedBy env request q w u) (hgood : ¬ StoredUnplanned env w q)
    (htrigger : q.triggerReorchestration = some false) :
    latestVersion (serve env request w).2 q.workflowId = latestVersion w q.workflowId ∧
      (serve env request w).2.store.planVersions = w.store.planVersions ∧
      latestPlan (serve env request w).2 q.workflowId = latestPlan w q.workflowId := by
  rw [h.world]
  by_cases hreach : ∃ record, ReachesRuntime env u q record
  · obtain ⟨record, hreached⟩ := hreach
    have hrejected : ¬ ∃ session, Overrides env u q session := by
      rintro ⟨session, hsession⟩
      exact hgood ⟨htrigger, h.reaches.mp ⟨record, hreached⟩,
        Or.inl ⟨session, (h.overrides session).mp hsession⟩⟩
    have hempty : latestPlan w q.workflowId = [] := by
      by_contra hne
      exact hgood ⟨htrigger, h.reaches.mp ⟨record, hreached⟩, Or.inr hne⟩
    obtain ⟨hversion, hrows, hplan⟩ := untriggered_rejected hreached hrejected
    exact ⟨hversion.trans (h.plans.latestVersion _), hrows.trans h.rows, hplan.trans hempty.symm⟩
  · have hstore := reorchestrate_stops_store hreach
    refine ⟨?_, by rw [hstore, h.rows], ?_⟩
    · rw [← h.plans.latestVersion]
      simp only [latestVersion, hstore]
    · rw [← h.plans.latestPlan]
      simp only [latestPlan, hstore]

theorem ServedBy.untriggered (h : ServedBy env request q w u) (hgood : ¬ StoredUnplanned env w q)
    (htrigger : q.triggerReorchestration = some false) : VersionsFromPlanning env request w := by
  have hunchanged := h.unchanged hgood htrigger
  constructor
  · intro row hrow hnew
    rw [hunchanged.2.1] at hrow
    exact absurd hrow hnew
  · intro id hid
    by_cases heq : q.workflowId = id
    · subst heq
      exact absurd hid (by rw [hunchanged.1]; exact lt_irrefl _)
    · exact absurd (h.advances hid) (by rw [reorchestrate_other heq]; exact lt_irrefl _)
  · intro other hother _
    obtain rfl := Option.some.inj (h.reorchestration.symm.trans hother)
    exact hunchanged

theorem ServedBy.triggered (h : ServedBy env request q w u)
    (htrigger : q.triggerReorchestration ≠ some false) :
    VersionsFromPlanning env request w := by
  constructor
  · intro row hrow hnew
    rw [h.world] at hrow
    rw [← h.rows] at hnew
    exact (reorchestrate_rows htrigger hrow hnew).mono h.asked
  · intro id hid
    obtain ⟨response, hplanned⟩ := reorchestrate_advances htrigger (h.advances hid)
    exact ⟨response, hplanned.mono h.asked⟩
  · intro other hother hfalse
    obtain rfl := Option.some.inj (h.reorchestration.symm.trans hother)
    exact absurd hfalse htrigger

theorem ServedBy.fromPlanning_iff (h : ServedBy env request q w u) :
    VersionsFromPlanning env request w ↔ ¬ StoredUnplanned env w q := by
  constructor
  · intro hversions hunplanned
    exact h.not_fromPlanning hunplanned hversions
  · intro hgood
    by_cases htrigger : q.triggerReorchestration = some false
    · exact h.untriggered hgood htrigger
    · exact h.triggered htrigger

end ServedBy

theorem asked_submitAndAudit (config : WorkflowConfig) (auth : ClientAuthContext)
    (key : Option String) (workflowId : WorkflowId) (actor action detail : String) :
    ∀ call ∈ (streamSubmitWorkflow env (Operator.replacementRequest config auth key)).asked
      (handle env) w,
      call ∈ (Operator.submitAndAudit env config auth key workflowId actor action detail).asked
        (handle env) w := by
  intro call hcall
  simp only [Operator.submitAndAudit, Program.asked_bind, List.mem_append]
  exact Or.inl hcall

theorem asked_submission {request : Request} {submission : SubmitWorkflowRequest}
    (h : request.submission w = some submission) :
    ∀ call ∈ (streamSubmitWorkflow env submission).asked (handle env) w,
      call ∈ (request.program env).asked (handle env) w := by
  intro call hcall
  cases request with
  | submit request =>
    obtain rfl := Option.some.inj h
    simpa [Request.program] using hcall
  | operatorUpsertWorkflow request =>
    simp only [Request.submission] at h
    split_ifs at h with hid
    obtain rfl := Option.some.inj h
    simp only [Request.program, Program.asked_map, Operator.upsertWorkflow, if_neg hid]
    exact asked_submitAndAudit _ _ _ _ _ _ _ call hcall
  | operatorUpsertTask request =>
    obtain ⟨hworkflow, htask, record, hrecord, rfl⟩ := submission_upsertTask h
    simp only [Request.program, Program.asked_map, Operator.upsertTask, if_neg hworkflow,
      if_neg htask, Program.asked_bind, run_getWorkflow, hrecord, List.mem_append]
    exact Or.inr (asked_submitAndAudit _ _ _ _ _ _ _ call hcall)
  | operatorDeleteTask request =>
    obtain ⟨hworkflow, htask, record, hrecord, hany, rfl⟩ := submission_deleteTask h
    simp only [Request.program, Program.asked_map, Operator.deleteTask, if_neg hworkflow,
      if_neg htask, Program.asked_bind, run_getWorkflow, hrecord, if_pos hany, List.mem_append]
    exact Or.inr (asked_submitAndAudit _ _ _ _ _ _ _ call hcall)
  | _ => exact absurd h (by simp [Request.submission])

/-- An intervention makes all the calls of its re-orchestration, in the audited state. -/
theorem asked_applyManualIntervention {request : ManualInterventionRequest}
    {stored : WorkflowRecord} (hstored : w.store.getWorkflow request.workflowId = some stored) :
    ∀ call ∈ (streamReorchestrate env (interventionReorchestrateRequest request)).asked (handle env)
        (auditedWorld request stored w),
      call ∈ (applyManualIntervention env request).asked (handle env) w := by
  intro call hcall
  simp only [applyManualIntervention, Program.asked_bind, run_getWorkflow, hstored,
    run_unixTimeMsNow, run_writeAuditEntry, run_upsertWorkflow, run_publishWorkflowUpdate,
    List.mem_append]
  right; right; right; right; right; left
  exact hcall

theorem versionsFromPlanning_submission {request : Request} {submission : SubmitWorkflowRequest}
    (hsound : RecordsSound w) (hsubmission : request.submission w = some submission) :
    VersionsFromPlanning env request w := by
  have hplans := (serve_submission_same env hsubmission).plans
  have hasked : ∀ call ∈ (streamSubmitWorkflow env submission).asked (handle env) w,
      call ∈ (request.program env).asked (handle env) w := asked_submission hsubmission
  refine ⟨fun row hrow hnew => ?_, fun id h => ?_, fun q hq => ?_⟩
  · exact (submit_rows (hplans.planVersions row hrow) hnew).mono hasked
  · rw [hplans.latestVersion] at h
    obtain ⟨response, hplanned⟩ := submit_advances hsound h
    exact ⟨response, hplanned.mono hasked⟩
  · cases request <;> simp [Request.submission, Request.reorchestration] at hsubmission hq

theorem versionsFromPlanning_intervention {request : Request}
    {intervention : ManualInterventionRequest}
    (hq : request.reorchestration = some (interventionReorchestrateRequest intervention))
    (hserve : (serve env request w).2 =
      ((applyManualIntervention env intervention).run (handle env) w).2)
    (hasked : (request.program env).asked (handle env) w =
      (applyManualIntervention env intervention).asked (handle env) w) :
    VersionsFromPlanning env request w ↔
      ¬ StoredUnplanned env w (interventionReorchestrateRequest intervention) := by
  cases hstored : w.store.getWorkflow intervention.workflowId with
  | none =>
    have hunchanged : (serve env request w).2 = w := by
      rw [hserve]
      simp only [applyManualIntervention, Program.run_bind, run_getWorkflow, hstored,
        Program.run_pure]
    constructor
    · rintro - ⟨-, ⟨record, hrecord, -⟩, -⟩
      exact absurd (hstored.symm.trans hrecord) (by simp)
    · intro _
      refine ⟨fun row hrow hnew => ?_, fun id h => ?_, fun q _ _ => ?_⟩
      · rw [hunchanged] at hrow
        exact absurd hrow hnew
      · rw [hunchanged] at h
        exact absurd h (lt_irrefl _)
      · rw [hunchanged]
        exact ⟨rfl, rfl, rfl⟩
  | some stored =>
    have hsame := auditedWorld_same hstored
    apply ServedBy.fromPlanning_iff
    refine ⟨hq, hsame.plans, rfl, hserve.trans (run_applyManualIntervention env hstored), ?_, ?_,
      fun _ => overrides_audited env hstored⟩
    · rw [hasked]
      exact asked_applyManualIntervention hstored
    · constructor
      · rintro ⟨record, hreaches⟩
        exact ⟨stored, (reachesRuntime_audited env hstored hreaches).2⟩
      · rintro ⟨record, hreaches⟩
        obtain rfl := Option.some.inj (hstored.symm.trans hreaches.1)
        exact ⟨_, reachesRuntime_of_audited env hstored hreaches⟩

/-- In every reachable state and for every request, plan versions come from planning passes
exactly when the request does not store overrides, or a rejection over a plan, without
replanning. -/
theorem versions_from_planning_iff (env : Environment) (bootId : String) (clock : Nat → Int)
    (steps : List Step) (request : Request) :
    VersionsFromPlanning env request (runWorld env steps (.initial bootId clock)) ↔
      ∀ q ∈ request.reorchestration,
        ¬ StoredUnplanned env (runWorld env steps (.initial bootId clock)) q := by
  have hsound : RecordsSound (runWorld env steps (.initial bootId clock)) :=
    runWorld_recordsSound (initial_recordsSound bootId clock)
  generalize runWorld env steps (.initial bootId clock) = w at hsound
  cases hreorchestration : request.reorchestration with
  | none =>
    simp only [Option.not_mem_none, false_imp_iff, implies_true, iff_true]
    cases hsubmission : request.submission w with
    | some submission => exact versionsFromPlanning_submission hsound hsubmission
    | none =>
      have hplans := (serve_other env hsound.keyed hsubmission hreorchestration).1.plans
      refine ⟨fun row hrow hnew => absurd (hplans.planVersions row hrow) hnew, fun id h =>
        ?_, fun q hq => ?_⟩
      · rw [hplans.latestVersion] at h
        exact absurd h (lt_irrefl _)
      · exact absurd (hreorchestration.symm.trans hq) (by simp)
  | some q =>
    have hsingle : (∀ q' ∈ some q, ¬ StoredUnplanned env w q') ↔
        ¬ StoredUnplanned env w q := by simp
    rw [hsingle]
    cases request with
    | reorchestrate request =>
      obtain rfl := Option.some.inj hreorchestration
      apply ServedBy.fromPlanning_iff
      refine ⟨rfl, .refl w, rfl, ?_, ?_, Iff.rfl, fun _ => Iff.rfl⟩
      · simp only [serve, Request.program, Program.run_map]
      · simp only [Request.program, Program.asked_map]
        exact fun _ h => h
    | intervene request =>
      obtain rfl := Option.some.inj hreorchestration
      apply versionsFromPlanning_intervention rfl
      · simp only [serve, Request.program, Program.run_map]
      · simp only [Request.program, Program.asked_map]
    | operatorIntervene request =>
      obtain rfl := Option.some.inj hreorchestration
      apply versionsFromPlanning_intervention rfl
      · simp only [serve, Request.program, Program.run_map, Operator.applyManualIntervention,
          Program.run_bind, Program.run_pure]
      · simp only [Request.program, Program.asked_map, Operator.applyManualIntervention,
          Program.asked_bind]
        exact List.append_nil _
    | _ => exact absurd hreorchestration (by simp [Request.reorchestration])

end Requests

/-- A planned workflow and a request that stores no override without replanning. -/
theorem unplanned_version_recorded :
    ¬ VersionsFromPlanning openEnvironment
      (.reorchestrate { workflowId := "w", triggerReorchestration := some false })
      (runWorld openEnvironment [.request (.submit { config := { id := "w" } })] newDatabase) := by
  intro h
  exact absurd (h.untriggered _ rfl rfl).1 (by decide)

end TaskOrchestrator.System
