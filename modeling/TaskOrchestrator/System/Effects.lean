import TaskOrchestrator.System.Runs

/-!
# What an operation leaves behind

The effect of the operations on the parts of the state that the following modules reason
about: the sessions of the runtime, the hydration set, the stored records and the plan
versions. The persistence loop comes first, since it ends every stream that is accepted.
-/

namespace TaskOrchestrator.System

open Protocol Library ControlPlane

set_option autoImplicit false

def storeResponse (p : Persisting) (recordedAt : Int) (record : WorkflowRecord) (store : Store) :
    Option RuntimeApiResponse → Store
  | none => store
  | some response =>
    let store :=
      if carriesPlan response then
        store.writePlanVersion p.workflowId
          { version := record.summary.latestPlanVersion, recordedAtUnixMs := recordedAt,
            response := response }
      else store
    if p.idempotencyKey = "" then store
    else
      store.putIdempotencyRecord
        { key := p.idempotencyKey
          workflowId := p.workflowId
          requestFingerprint := p.requestFingerprint
          recordedAtUnixMs := recordedAt
          cachedResponse := response }

def storeEvent (p : Persisting) (recordedAt : Int) (record : WorkflowRecord) (event : WorkflowEvent)
    (store : Store) : Store :=
  ((storeResponse p recordedAt record store event.response).writeEvent p.workflowId
    { sequence := record.summary.totalEventCount, recordedAtUnixMs := recordedAt,
      event := event }).upsertWorkflow record

/-- The record after the loop has stored the events, from the given reading of the clock on. -/
def finalRecord (clock : Nat → Int) : Nat → WorkflowRecord → List WorkflowEvent → WorkflowRecord
  | _, record, [] => record
  | ticks, record, event :: rest =>
    finalRecord clock (ticks + 1) (recordEvent (clock ticks) record event) rest

section Loop

variable (env : Environment) (p : Persisting)

theorem run_persistResponse (recordedAt : Int) (record : WorkflowRecord)
    (response : Option RuntimeApiResponse) (w : World) :
    (persistResponse p recordedAt record response).run (handle env) w =
      ((), { w with store := storeResponse p recordedAt record w.store response }) := by
  cases response with
  | none => rfl
  | some response =>
    simp only [persistResponse, persistPlanVersion, persistIdempotency, storeResponse,
      Program.run_bind, Program.run_ite, run_writePlanVersion, run_putIdempotencyRecord,
      Program.run_pure]
    split_ifs <;> rfl

theorem run_persistEvent (record : WorkflowRecord) (event : WorkflowEvent) (w : World) :
    (persistEvent p record event).run (handle env) w =
      (recordEvent (w.clock w.ticks) record event,
        { w with
          ticks := w.ticks + 1
          store := storeEvent p (w.clock w.ticks) (recordEvent (w.clock w.ticks) record event)
            event w.store
          feed := if p.workflowId = "" then w.feed else w.feed.publish p.workflowId }) := by
  simp only [persistEvent, Program.run_bind, run_unixTimeMsNow, run_persistResponse, run_writeEvent,
    run_upsertWorkflow, run_publishWorkflowUpdate, Program.run_pure]
  rfl

theorem getWorkflow_storeResponse (recordedAt : Int) (record : WorkflowRecord) (store : Store)
    (response : Option RuntimeApiResponse) (id : WorkflowId) :
    (storeResponse p recordedAt record store response).getWorkflow id = store.getWorkflow id := by
  cases response with
  | none => rfl
  | some response =>
    simp only [storeResponse]
    split_ifs <;> rfl

theorem getWorkflow_storeEvent (recordedAt : Int) (record : WorkflowRecord) (event : WorkflowEvent)
    (store : Store) (id : WorkflowId) :
    (storeEvent p recordedAt record event store).getWorkflow id =
      if record.summary.workflowId = id then some record else store.getWorkflow id := by
  rw [storeEvent, Store.getWorkflow_upsertWorkflow]
  split
  · rfl
  · exact getWorkflow_storeResponse p recordedAt record store event.response id

theorem run_persistEvents_cons (record : WorkflowRecord) (event : WorkflowEvent)
    (rest : List WorkflowEvent) (w : World) :
    (persistEvents p record (event :: rest)).run (handle env) w =
      let next := (persistEvent p record event).run (handle env) w
      let looped := (persistEvents p next.1 rest).run (handle env) next.2
      (event :: looped.1, looped.2) := by
  simp only [persistEvents, Program.run_bind, Program.run_pure]

/-- The loop changes the store, the feed and the clock only, and yields what it was given. -/
theorem run_persistEvents_frame (record : WorkflowRecord) (events : List WorkflowEvent)
    (w : World) :
    ((persistEvents p record events).run (handle env) w).1 = events ∧
    ((persistEvents p record events).run (handle env) w).2.sessions = w.sessions ∧
    ((persistEvents p record events).run (handle env) w).2.hydrated = w.hydrated ∧
    ((persistEvents p record events).run (handle env) w).2.store.auditEntries =
      w.store.auditEntries := by
  induction events generalizing record w with
  | nil => exact ⟨rfl, rfl, rfl, rfl⟩
  | cons event rest ih =>
    rw [run_persistEvents_cons]
    simp only [run_persistEvent]
    obtain ⟨hyield, hsessions, hhydrated, haudit⟩ :=
      ih (recordEvent (w.clock w.ticks) record event) _
    refine ⟨by rw [hyield], hsessions, hhydrated, haudit.trans ?_⟩
    simp only [storeEvent, storeResponse]
    cases event.response with
    | none => rfl
    | some response =>
      dsimp only
      split_ifs <;> rfl

theorem storeEvent_planVersions (recordedAt : Int) (record : WorkflowRecord) {event : WorkflowEvent}
    (hevent : event.response.any carriesPlan = false) (store : Store) :
    (storeEvent p recordedAt record event store).planVersions = store.planVersions := by
  change (storeResponse p recordedAt record store event.response).planVersions = store.planVersions
  cases hresponse : event.response with
  | none => rfl
  | some response =>
    have hplan : ¬ carriesPlan response = true := by simpa [hresponse] using hevent
    simp only [storeResponse, if_neg hplan]
    split_ifs <;> rfl

theorem run_persistEvents_planVersions {events : List WorkflowEvent}
    (hevents : ∀ event ∈ events, event.response.any carriesPlan = false) (record : WorkflowRecord)
    (w : World) :
    ((persistEvents p record events).run (handle env) w).2.store.planVersions =
      w.store.planVersions := by
  induction events generalizing record w with
  | nil => rfl
  | cons event rest ih =>
    rw [run_persistEvents_cons]
    simp only [run_persistEvent]
    rw [ih fun e he => hevents e (List.mem_cons_of_mem _ he)]
    exact storeEvent_planVersions p _ _ (hevents event List.mem_cons_self) w.store

/-- The record of the loop's workflow becomes the final one; the others stay. -/
theorem getWorkflow_persistEvents (record : WorkflowRecord) (events : List WorkflowEvent)
    (w : World) (id : WorkflowId) :
    ((persistEvents p record events).run (handle env) w).2.store.getWorkflow id =
      if events ≠ [] ∧ record.summary.workflowId = id then
        some (finalRecord w.clock w.ticks record events)
      else w.store.getWorkflow id := by
  induction events generalizing record w with
  | nil => simp [persistEvents]
  | cons event rest ih =>
    rw [run_persistEvents_cons]
    simp only [run_persistEvent]
    rw [ih]
    simp only [recordEvent_workflowId, getWorkflow_storeEvent, finalRecord]
    by_cases hid : record.summary.workflowId = id
    · by_cases hrest : rest = []
      · simp [hid, hrest, finalRecord]
      · simp [hid, hrest]
    · simp [hid]

end Loop

section Final

variable (clock : Nat → Int) (ticks : Nat) (record : WorkflowRecord) (events : List WorkflowEvent)

@[simp] theorem finalRecord_workflowId :
    (finalRecord clock ticks record events).summary.workflowId = record.summary.workflowId := by
  induction events generalizing ticks record with
  | nil => rfl
  | cons event rest ih => simp [finalRecord, ih]

@[simp] theorem finalRecord_config :
    (finalRecord clock ticks record events).config = record.config := by
  induction events generalizing ticks record with
  | nil => rfl
  | cons event rest ih => simp [finalRecord, ih]

@[simp] theorem finalRecord_totalAuditEntryCount :
    (finalRecord clock ticks record events).summary.totalAuditEntryCount =
      record.summary.totalAuditEntryCount := by
  induction events generalizing ticks record with
  | nil => rfl
  | cons event rest ih => rw [finalRecord, ih, recordEvent_totalAuditEntryCount]

theorem finalRecord_latestPlanVersion :
    (finalRecord clock ticks record events).summary.latestPlanVersion =
      record.summary.latestPlanVersion + (events.countP fun event =>
        event.response.any carriesPlan : Nat) := by
  induction events generalizing ticks record with
  | nil => simp [finalRecord]
  | cons event rest ih =>
    rw [finalRecord, ih, recordEvent_latestPlanVersion, List.countP_cons]
    split <;> simp
    omega

theorem finalRecord_latestResponse :
    (finalRecord clock ticks record events).latestResponse =
      events.foldl (fun response event => event.response.or response) record.latestResponse := by
  induction events generalizing ticks record with
  | nil => rfl
  | cons event rest ih => simp [finalRecord, ih]

end Final

def authorized (env : Environment) (auth : ClientAuthContext) : Bool :=
  (App.authorize env.security auth).ok

/-- The runtime accepts a submission: the caller is authorized, and the session is new or may
be replaced. -/
def runtimeAccepts (env : Environment) (request : SubmitWorkflowRequest)
    (sessions : App.Sessions) : Bool :=
  authorized env request.auth &&
    (request.replaceExisting.getD true || (sessions.lookup request.config.id).isNone)

section Runtime

variable (env : Environment)

def rejection (request : SubmitWorkflowRequest) : RuntimeApiResponse :=
  if authorized env request.auth then
    App.makeRuntimeErrorResponse "Workflow already exists and replace_existing is false."
  else App.authorize env.security request.auth

theorem runtimeSubmit_rejected {request : SubmitWorkflowRequest} {sessions : App.Sessions}
    (h : runtimeAccepts env request sessions = false) :
    (rejection env request).ok = false ∧
      App.streamSubmitWorkflow env.security env.optimize request sessions =
        ([App.makeResponseEvent .requestRejected request.config.id (rejection env request)
          (rejection env request).errorMessage], sessions) := by
  unfold App.streamSubmitWorkflow rejection
  unfold runtimeAccepts at h
  cases hauth : authorized env request.auth with
  | true =>
    have hok : (App.authorize env.security request.auth).ok = true := hauth
    simp only [hauth, Bool.true_and, Bool.or_eq_false_iff, Option.isNone_eq_false_iff] at h
    refine ⟨rfl, ?_⟩
    simp only [hok, if_true, App.toAppWorkflow_id, h.1, h.2, Bool.not_false, Bool.and_self]
  | false =>
    have hok : (App.authorize env.security request.auth).ok = false := hauth
    refine ⟨hok, ?_⟩
    simp only [hok]
    rfl

theorem runtimeSubmit_accepted {request : SubmitWorkflowRequest} {sessions : App.Sessions}
    (h : runtimeAccepts env request sessions = true) :
    App.streamSubmitWorkflow env.security env.optimize request sessions =
      ([App.makeEvent .workflowAccepted request.config.id "Workflow accepted and stored.",
        App.makeEvent .replanningStarted request.config.id "Initial optimization started."] ++
          App.planningEvents (env.optimize (App.toAppWorkflow request.config))
            (App.toAppWorkflow request.config) request.config.id "Initial optimization finished.",
        sessions.assign request.config.id (App.toAppWorkflow request.config)) := by
  unfold App.streamSubmitWorkflow
  unfold runtimeAccepts authorized at h
  obtain ⟨hauth, hnew⟩ := Bool.and_eq_true_iff.mp h
  have hreplace : ¬ ((!request.replaceExisting.getD true &&
      (sessions.lookup request.config.id).isSome) = true) := by
    cases hr : request.replaceExisting.getD true with
    | true => simp
    | false =>
      rw [hr, Bool.false_or] at hnew
      simpa using hnew
  simp only [hauth, if_true, App.toAppWorkflow_id]
  exact if_neg hreplace

theorem runtimeSubmit_sessions (request : SubmitWorkflowRequest) (sessions : App.Sessions) :
    (App.streamSubmitWorkflow env.security env.optimize request sessions).2 =
      if runtimeAccepts env request sessions then
        sessions.assign request.config.id (App.toAppWorkflow request.config)
      else sessions := by
  cases h : runtimeAccepts env request sessions with
  | true => simp [runtimeSubmit_accepted env h]
  | false =>
    obtain ⟨-, hstream⟩ := runtimeSubmit_rejected env h
    simp [hstream]

theorem runtimeSubmit_ne_nil (request : SubmitWorkflowRequest) (sessions : App.Sessions) :
    (App.streamSubmitWorkflow env.security env.optimize request sessions).1 ≠ [] := by
  cases h : runtimeAccepts env request sessions with
  | true => simp [runtimeSubmit_accepted env h]
  | false =>
    obtain ⟨-, hevents⟩ := runtimeSubmit_rejected env h
    simp [hevents]

theorem runtimeReorchestrate_accepted {request : ReorchestrateRequest} {sessions : App.Sessions}
    {session : App.WorkflowConfig} (hauth : authorized env request.auth = true)
    (hsession : sessions.lookup request.workflowId = some session) :
    App.streamReorchestrate env.security env.optimize request sessions =
      (request.taskOverrides.map (App.taskOverrideEvent request.workflowId) ++
        request.actorOverrides.map (App.actorOverrideEvent request.workflowId) ++
        (if request.triggerReorchestration.getD true then
          App.makeEvent .replanningStarted request.workflowId "Replanning started." ::
            App.planningEvents (env.optimize (App.applyOverrides request session))
              (App.applyOverrides request session) request.workflowId "Replanning finished."
        else
          [App.makeResponseEvent .runFinished request.workflowId
            { ok := true, result := { ok := true } }
            "Overrides stored without replanning."]),
        sessions.assign request.workflowId (App.applyOverrides request session)) := by
  unfold authorized at hauth
  simp only [App.streamReorchestrate, hauth, if_true, hsession]

theorem runtimeReorchestrate_rejected {request : ReorchestrateRequest} {sessions : App.Sessions}
    (h : authorized env request.auth = false ∨ sessions.lookup request.workflowId = none) :
    ∃ response : RuntimeApiResponse, response.ok = false ∧ response.result.assignments = [] ∧
      App.streamReorchestrate env.security env.optimize request sessions =
        ([App.makeResponseEvent .requestRejected request.workflowId response response.errorMessage],
          sessions) := by
  unfold authorized at h
  by_cases hauth : (App.authorize env.security request.auth).ok = true
  · have hnone : sessions.lookup request.workflowId = none := by
      rcases h with h | h
      · exact absurd (hauth.symm.trans h) (by simp)
      · exact h
    refine ⟨App.makeRuntimeErrorResponse "Workflow session not found.", rfl, rfl, ?_⟩
    simp only [App.streamReorchestrate, hauth, if_true, hnone]
  · refine ⟨App.authorize env.security request.auth, by simpa using hauth, ?_, ?_⟩
    · unfold App.authorize
      split_ifs <;> rfl
    · simp only [App.streamReorchestrate, hauth]
      rfl

theorem runtimeReorchestrate_ne_nil (request : ReorchestrateRequest) (sessions : App.Sessions) :
    (App.streamReorchestrate env.security env.optimize request sessions).1 ≠ [] := by
  by_cases h : authorized env request.auth = false ∨ sessions.lookup request.workflowId = none
  · obtain ⟨response, -, -, hstream⟩ := runtimeReorchestrate_rejected env h
    simp [hstream]
  · obtain ⟨hauth, hfound⟩ := not_or.mp h
    obtain ⟨session, hsession⟩ := Option.ne_none_iff_exists'.mp hfound
    rw [runtimeReorchestrate_accepted env (by simpa using hauth) hsession]
    split_ifs <;> simp

end Runtime

def KeyHit (w : World) (key : String) : Prop :=
  key ≠ "" ∧ (w.store.getIdempotencyRecord key).isSome = true

instance (w : World) (key : String) :
    Decidable (KeyHit w key) := inferInstanceAs (Decidable (_ ∧ _))

theorem getIdempotencyRecord_of_miss {w : World} {key : String} (hkey : key ≠ "")
    (hmiss : ¬ KeyHit w key) :
    w.store.getIdempotencyRecord key = none := by
  by_contra hsome
  exact hmiss ⟨hkey, Option.isSome_iff_ne_none.mpr hsome⟩

section Submission

variable (env : Environment) (request : SubmitWorkflowRequest) (w : World)

theorem streamSubmitWorkflow_hit (h : KeyHit w (request.idempotencyKey.getD "")) :
    ((streamSubmitWorkflow env request).run (handle env) w).2 = w ∧
      (streamSubmitWorkflow env request).steps (handle env) w =
        [(.getIdempotencyRecord (request.idempotencyKey.getD ""), w)] := by
  obtain ⟨hkey, hhit⟩ := h
  obtain ⟨existing, hexisting⟩ := Option.isSome_iff_exists.mp hhit
  simp only [streamSubmitWorkflow, if_neg hkey, Program.run_bind, Program.steps_bind,
    run_getIdempotencyRecord, hexisting]
  split <;> exact ⟨rfl, rfl⟩

theorem streamSubmitWorkflow_miss (h : ¬ KeyHit w (request.idempotencyKey.getD "")) :
    (streamSubmitWorkflow env request).run (handle env) w =
      (submitAccepted env request).run (handle env) w := by
  simp only [streamSubmitWorkflow]
  split_ifs with hkey
  · rfl
  · simp only [Program.run_bind, run_getIdempotencyRecord, getIdempotencyRecord_of_miss hkey h]

def lookedUp : Option WorkflowRecord :=
  if request.replaceExisting.getD false then w.store.getWorkflow request.config.id else none

theorem run_existingRecord :
    (existingRecord request).run (handle env) w = (lookedUp request w, w) := by
  unfold existingRecord lookedUp
  split_ifs <;> rfl

theorem lookedUp_workflowId :
    ∀ r ∈ lookedUp request w, r.summary.workflowId = request.config.id := by
  intro r hr
  unfold lookedUp at hr
  split_ifs at hr
  · exact Store.workflowId_of_getWorkflow hr
  · exact absurd hr (by simp)

def submitStream : List WorkflowEvent :=
  (App.streamSubmitWorkflow env.security env.optimize request w.sessions).1

/-- The state in which the persistence loop of a submission starts. -/
def submittedWorld : World :=
  { w with
    ticks := w.ticks + 1
    store := w.store.upsertWorkflow (submittedRecord request (w.clock w.ticks) (lookedUp request w))
    feed := if request.config.id = "" then w.feed else w.feed.publish request.config.id
    hydrated := w.hydrated.insert request.config.id
    sessions := (App.streamSubmitWorkflow env.security env.optimize request w.sessions).2 }

theorem run_submitAccepted :
    (submitAccepted env request).run (handle env) w =
      (persistEvents (submitPersisting env request)
        (submittedRecord request (w.clock w.ticks) (lookedUp request w))
        (submitStream env request w)).run (handle env) (submittedWorld env request w) := by
  simp only [submitAccepted, Program.run_bind, run_unixTimeMsNow, run_existingRecord,
    run_upsertWorkflow, run_publishWorkflowUpdate, run_hydratedInsert, run_runtimeSubmitWorkflow]
  rfl

theorem submitAccepted_sessions :
    ((submitAccepted env request).run (handle env) w).2.sessions =
      if runtimeAccepts env request w.sessions then
        w.sessions.assign request.config.id (App.toAppWorkflow request.config)
      else w.sessions := by
  rw [run_submitAccepted, (run_persistEvents_frame env _ _ _ _).2.1]
  exact runtimeSubmit_sessions env request w.sessions

theorem submitAccepted_hydrated :
    ((submitAccepted env request).run (handle env) w).2.hydrated =
      w.hydrated.insert request.config.id := by
  rw [run_submitAccepted, (run_persistEvents_frame env _ _ _ _).2.2.1]
  rfl

theorem submitAccepted_getWorkflow (id : WorkflowId) :
    ((submitAccepted env request).run (handle env) w).2.store.getWorkflow id =
      if request.config.id = id then
        some (finalRecord w.clock (w.ticks + 1)
          (submittedRecord request (w.clock w.ticks) (lookedUp request w))
          (submitStream env request w))
      else w.store.getWorkflow id := by
  have hid := submittedRecord_workflowId request (w.clock w.ticks) _ (lookedUp_workflowId request w)
  have hne : submitStream env request w ≠ [] := runtimeSubmit_ne_nil env request w.sessions
  rw [run_submitAccepted, getWorkflow_persistEvents]
  simp only [ne_eq, hne, not_false_eq_true, true_and, hid]
  split_ifs with h
  · rfl
  · simp only [submittedWorld, Store.getWorkflow_upsertWorkflow, hid, if_neg h]

end Submission

/-- The response of a replay is good when the caller is authorized and the optimizer finds a plan. -/
def replaySucceeds (env : Environment) (auth : ClientAuthContext)
    (config : WorkflowConfig) : Bool :=
  authorized env auth && (env.optimize (App.toAppWorkflow config)).ok

section Reorchestration

variable (env : Environment)

theorem consumeFinalResponse_planningEvents (events : List WorkflowEvent) (result : App.RunResult)
    (config : App.WorkflowConfig) (workflowId : WorkflowId) (detail : String) :
    App.consumeFinalResponse (events ++ App.planningEvents result config workflowId detail) =
      App.makeRuntimeResponse result config := by
  simp only [App.consumeFinalResponse, App.planningEvents, List.foldl_append, List.foldl_cons,
    List.foldl_nil]
  rfl

def replayedSessions (auth : ClientAuthContext) (config : WorkflowConfig)
    (sessions : App.Sessions) :
    App.Sessions :=
  if authorized env auth then sessions.assign config.id (App.toAppWorkflow config) else sessions

theorem runtimeReplay (auth : ClientAuthContext) (config : WorkflowConfig)
    (sessions : App.Sessions) :
    let stream := App.streamSubmitWorkflow env.security env.optimize
      { config := config, auth := auth, replaceExisting := some true } sessions
    (App.consumeFinalResponse stream.1).ok = replaySucceeds env auth config ∧
      stream.2 = replayedSessions env auth config sessions := by
  have haccepts : runtimeAccepts env
      { config := config, auth := auth, replaceExisting := some true } sessions =
      authorized env auth := by simp [runtimeAccepts]
  dsimp only
  cases hauth : authorized env auth with
  | true =>
    rw [hauth] at haccepts
    rw [runtimeSubmit_accepted env haccepts, consumeFinalResponse_planningEvents]
    simp [replaySucceeds, replayedSessions, hauth, App.makeRuntimeResponse]
  | false =>
    rw [hauth] at haccepts
    obtain ⟨hok, hstream⟩ := runtimeSubmit_rejected env haccepts
    rw [hstream]
    simp [replaySucceeds, replayedSessions, hauth, App.consumeFinalResponse,
      App.makeResponseEvent, hok]

theorem run_hydrate_hydrated {auth : ClientAuthContext} {workflowId : WorkflowId}
    {config : WorkflowConfig} {w : World} (h : workflowId ∈ w.hydrated) :
    (hydrate auth workflowId config).run (handle env) w = (none, w) := by
  simp [hydrate, Program.run_bind, h]

theorem run_hydrate_replay (auth : ClientAuthContext) {workflowId : WorkflowId}
    (config : WorkflowConfig) {w : World} (h : workflowId ∉ w.hydrated) :
    (replaySucceeds env auth config = true ∧ (hydrate auth workflowId config).run (handle env) w =
      (none, { w with
        sessions := replayedSessions env auth config w.sessions
        hydrated := w.hydrated.insert workflowId })) ∨
    (replaySucceeds env auth config = false ∧ ∃ response : RuntimeApiResponse, response.ok = false ∧
      (hydrate auth workflowId config).run (handle env) w =
        (some response, { w with sessions := replayedSessions env auth config w.sessions })) := by
  obtain ⟨hok, hsessions⟩ := runtimeReplay env auth config w.sessions
  cases hsucceeds : replaySucceeds env auth config with
  | true =>
    left
    rw [hsucceeds] at hok
    simp [hydrate, Program.run_bind, h, hok, hsessions]
  | false =>
    right
    rw [hsucceeds] at hok
    refine ⟨rfl, App.consumeFinalResponse (App.streamSubmitWorkflow env.security env.optimize
      { config := config, auth := auth, replaceExisting := some true } w.sessions).1, hok, ?_⟩
    simp only [hydrate, Program.run_bind, run_hydratedContains, h, decide_false,
      Bool.false_eq_true, if_false, run_runtimeSubmitWorkflow, hok, Bool.not_false, if_true,
      Program.run_pure, hsessions]

/-- The state in which the runtime is asked, after the stored configuration was replayed. -/
def hydratedWorld (request : ReorchestrateRequest) (record : WorkflowRecord) (w : World) : World :=
  if request.workflowId ∈ w.hydrated then w
  else { w with
    sessions := replayedSessions env request.auth record.config w.sessions
    hydrated := w.hydrated.insert request.workflowId }

theorem hydratedWorld_store (request : ReorchestrateRequest) (record : WorkflowRecord) (w : World) :
    (hydratedWorld env request record w).store = w.store := by
  unfold hydratedWorld
  split_ifs <;> rfl

theorem hydratedWorld_sessions (request : ReorchestrateRequest) (record : WorkflowRecord)
    (w : World) :
    (hydratedWorld env request record w).sessions =
      if request.workflowId ∈ w.hydrated then w.sessions
      else replayedSessions env request.auth record.config w.sessions := by
  unfold hydratedWorld
  split_ifs <;> rfl

/-- The request passes every check of the control plane and is handed to the runtime. -/
def ReachesRuntime (w : World) (request : ReorchestrateRequest) (record : WorkflowRecord) : Prop :=
  w.store.getWorkflow request.workflowId = some record ∧
    reorchestrateRefusal request record = none ∧
  (request.workflowId ∈ w.hydrated ∨ replaySucceeds env request.auth record.config = true) ∧
  ¬ KeyHit w (request.idempotencyKey.getD "")

/-- The stream of a request that does not reach the runtime is one event: a rejection, or the
response under its key when the stored fingerprint is that of the request. -/
def Stopped (w : World) (request : ReorchestrateRequest) (stream : List WorkflowEvent) : Prop :=
  ∃ event, stream = [event] ∧ (event.type = .requestRejected ∨
    ∃ existing, w.store.getIdempotencyRecord (request.idempotencyKey.getD "") = some existing ∧
      existing.requestFingerprint = env.reorchestrateFingerprint request ∧
        event.type = .runFinished)

theorem run_hydrate_reaches {request : ReorchestrateRequest} {record : WorkflowRecord} {w : World}
    (h : ReachesRuntime env w request record) :
    (hydrate request.auth request.workflowId record.config).run (handle env) w =
      (none, hydratedWorld env request record w) := by
  obtain ⟨-, -, hready, -⟩ := h
  unfold hydratedWorld
  by_cases hmem : request.workflowId ∈ w.hydrated
  · rw [run_hydrate_hydrated env hmem, if_pos hmem]
  · rcases run_hydrate_replay env request.auth record.config hmem with ⟨-, hrun⟩ | ⟨hfails, -⟩
    · rw [hrun, if_neg hmem]
    · rcases hready with hmem' | hsucceeds
      · exact absurd hmem' hmem
      · exact absurd (hsucceeds.symm.trans hfails) (by simp)

theorem run_streamReorchestrate_reaches {request : ReorchestrateRequest} {record : WorkflowRecord}
    {w : World} (h : ReachesRuntime env w request record) :
    (streamReorchestrate env request).run (handle env) w =
      (reorchestrateAccepted env request record).run (handle env)
        (hydratedWorld env request record w) := by
  have hhydrate := run_hydrate_reaches env h
  obtain ⟨hstored, hrefusal, -, hmiss⟩ := h
  simp only [streamReorchestrate, Program.run_bind, run_getWorkflow, hstored, hrefusal,
    reorchestrateGuarded, hhydrate]
  split_ifs with hkey
  · rfl
  · simp only [Program.run_bind, run_getIdempotencyRecord, hydratedWorld_store,
      getIdempotencyRecord_of_miss hkey hmiss]

inductive Replayed (request : ReorchestrateRequest) (w : World) : World → Prop where
  | unchanged (hstopped : ∀ record, w.store.getWorkflow request.workflowId = some record →
      reorchestrateRefusal request record = none → request.workflowId ∈ w.hydrated) :
      Replayed request w w
  | failed {record : WorkflowRecord}
    (hstored : w.store.getWorkflow request.workflowId = some record)
      (hadmitted : reorchestrateRefusal request record = none)
      (hmem : request.workflowId ∉ w.hydrated) :
      Replayed request w
        { w with sessions := replayedSessions env request.auth record.config w.sessions }
  | succeeded {record : WorkflowRecord}
    (hstored : w.store.getWorkflow request.workflowId = some record)
      (hadmitted : reorchestrateRefusal request record = none)
      (hmem : request.workflowId ∉ w.hydrated)
      (hsucceeds : replaySucceeds env request.auth record.config = true) :
      Replayed request w { w with
        sessions := replayedSessions env request.auth record.config w.sessions
        hydrated := w.hydrated.insert request.workflowId }

theorem Replayed.store {request : ReorchestrateRequest} {w w' : World}
    (h : Replayed env request w w') :
    w'.store = w.store := by
  cases h <;> rfl

theorem run_streamReorchestrate_stops {request : ReorchestrateRequest} {w : World}
    (h : ∀ record, ¬ ReachesRuntime env w request record) :
    Stopped env w request ((streamReorchestrate env request).run (handle env) w).1 ∧
      Replayed env request w ((streamReorchestrate env request).run (handle env) w).2 := by
  simp only [streamReorchestrate, Program.run_bind, run_getWorkflow]
  cases hstored : w.store.getWorkflow request.workflowId with
  | none =>
    refine ⟨⟨_, rfl, Or.inl rfl⟩, .unchanged fun record hrecord => ?_⟩
    exact absurd (hstored.symm.trans hrecord) (by simp)
  | some record =>
    have hsame : ∀ other, w.store.getWorkflow request.workflowId = some other → other = record :=
      fun other hother => (Option.some.inj (hstored.symm.trans hother)).symm
    dsimp only
    cases hrefusal : reorchestrateRefusal request record with
    | some message =>
      refine ⟨⟨_, rfl, Or.inl rfl⟩, .unchanged fun other hother hadmitted => ?_⟩
      rw [hsame other hother] at hadmitted
      exact absurd (hrefusal.symm.trans hadmitted) (by simp)
    | none =>
      dsimp only
      -- The checks after a successful hydration end in the idempotency table.
      have hhit : ∀ v : World,
          (hydrate request.auth request.workflowId record.config).run (handle env) w = (none, v) →
          v.store = w.store →
          (request.workflowId ∈ w.hydrated ∨ replaySucceeds env request.auth record.config = true) →
          Stopped env w request ((reorchestrateGuarded env request record).run (handle env) w).1 ∧
            ((reorchestrateGuarded env request record).run (handle env) w).2 = v := by
        intro v hrun hv hready
        have hkey : KeyHit w (request.idempotencyKey.getD "") := by
          by_contra hmiss
          exact h record ⟨hstored, hrefusal, hready, hmiss⟩
        obtain ⟨existing, hexisting⟩ := Option.isSome_iff_exists.mp hkey.2
        simp only [reorchestrateGuarded, Program.run_bind, hrun, if_neg hkey.1,
          run_getIdempotencyRecord, hv, hexisting]
        split_ifs with hsame
        · exact ⟨⟨_, rfl, Or.inl rfl⟩, rfl⟩
        · exact ⟨⟨_, rfl, Or.inr ⟨existing, hexisting, not_not.mp hsame, rfl⟩⟩, rfl⟩
      by_cases hmem : request.workflowId ∈ w.hydrated
      · obtain ⟨hstopped, hworld⟩ := hhit w (run_hydrate_hydrated env hmem) rfl (Or.inl hmem)
        rw [hworld]
        exact ⟨hstopped, .unchanged fun _ _ _ => hmem⟩
      · rcases run_hydrate_replay env request.auth record.config hmem with
          ⟨hsucceeds, hrun⟩ | ⟨-, response, -, hrun⟩
        · obtain ⟨hstopped, hworld⟩ := hhit _ hrun rfl (Or.inr hsucceeds)
          rw [hworld]
          exact ⟨hstopped, .succeeded hstored hrefusal hmem hsucceeds⟩
        · simp only [reorchestrateGuarded, Program.run_bind, hrun]
          exact ⟨⟨_, rfl, Or.inl rfl⟩, .failed hstored hrefusal hmem⟩

theorem run_reorchestrateAccepted (request : ReorchestrateRequest) (record : WorkflowRecord)
    (w : World) :
    (reorchestrateAccepted env request record).run (handle env) w =
      (persistEvents (reorchestratePersisting env request) record
        (App.streamReorchestrate env.security env.optimize request w.sessions).1).run (handle env)
        { w with
          sessions :=
            (App.streamReorchestrate env.security env.optimize request w.sessions).2 } := by
  simp only [reorchestrateAccepted, Program.run_bind, run_runtimeReorchestrate]

end Reorchestration

end TaskOrchestrator.System
