import TaskOrchestrator.System.History
import Mathlib.Data.List.Induction

/-!
# Crashes

A request is persisted by several store calls without a transaction around them. A crash
does no harm where every row written before it is counted in the stored record: the
numbers continue, and a cached response is the response of the record.
-/

namespace TaskOrchestrator.System

open Protocol Library ControlPlane
open Program (Stable obeys_stable)

set_option autoImplicit false

/-- The requests that a crash may interrupt, and the recovery that follows a restart. -/
def Request.Durable : Request → Prop
  | submit request => request.replaceExisting = some true
  | reorchestrate _ => True
  | pause _ => True
  | resume _ => True
  | cancel _ => True
  | intervene _ => True
  | recover _ => True
  | _ => False

theorem Request.Durable.replacing {request : Request} (h : request.Durable) :
    request.Replacing := by
  cases request <;> first | exact h | exact trivial

def saveStep (id : WorkflowId) (waiting : Bool) : Op → Bool
  | .writeEvent id' _ => waiting || decide (id' = id)
  | .writePlanVersion id' _ => waiting || decide (id' = id)
  | .writeAuditEntry id' _ => waiting || decide (id' = id)
  | .putIdempotencyRecord r => waiting || decide (r.workflowId = id)
  | .upsertWorkflow r => waiting && !decide (r.summary.workflowId = id)
  | _ => waiting

/-- Whether a row written for the workflow, or a response cached for it, is not yet followed
by a write of its record. -/
def unsaved (id : WorkflowId) (ops : List Op) : Bool := ops.foldl (saveStep id) false

theorem unsaved_snoc (id : WorkflowId) (ops : List Op) (op : Op) :
    unsaved id (ops ++ [op]) = saveStep id (unsaved id ops) op := by
  simp only [unsaved, List.foldl_append, List.foldl_cons, List.foldl_nil]

/-- The steps of a run with crashes. A crash may fall anywhere except between a write of a
row or of a cached response and the next write of its workflow's record. -/
def CrashesSaved (env : Environment) (w : World) : Step → Prop
  | .request request => request.Durable
  | .restart _ => True
  | .crash request n _ => request.Durable ∧
      ∀ id, unsaved id (((request.program env).cut (handle env) n w).1.map Prod.fst) = false

def Reflects (w : World) (cached : IdempotencyRecord) : Prop :=
  ∃ record, w.store.getWorkflow cached.workflowId = some record ∧
    record.latestResponse = some cached.cachedResponse ∧
    (carriesPlan cached.cachedResponse = true →
      ∃ row ∈ w.store.planVersions.rows,
        row.key = (cached.workflowId, record.summary.latestPlanVersion) ∧
        row.payload = cached.cachedResponse)

def CachesReflected (env : Environment) : List Step → World → Prop
  | [], _ => True
  | step :: rest, w =>
    (∀ key cached, (step.next env w).store.getIdempotencyRecord key = some cached →
      w.store.getIdempotencyRecord key ≠ some cached → Reflects (step.next env w) cached) ∧
    CachesReflected env rest (step.next env w)

/-- Rows keep their numbers, and responses are cached only once the record reflects them. -/
def CrashConsistent (env : Environment) (steps : List Step) (w : World) : Prop :=
  AppendOnly env steps w ∧ CachesReflected env steps w

theorem unsaved_of_pending (env : Environment) (id : WorkflowId) (ops : List Op)
    (h : (ledger env id).pending ops = true) : unsaved id ops = true := by
  induction ops using List.reverseRecOn with
  | nil => exact absurd h Bool.false_ne_true
  | append_singleton ops op ih =>
    rw [LedgerView.pending_snoc] at h
    rw [unsaved_snoc]
    have hact : (ledger env id).act op = ledgerAct id op := rfl
    rw [hact] at h
    cases op with
    | writeEvent id' e =>
      by_cases hid : id' = id
      · simp [saveStep, hid]
      · simp only [ledgerAct, hid, if_false] at h
        simp [saveStep, ih h]
    | writePlanVersion id' v =>
      by_cases hid : id' = id
      · simp [saveStep, hid]
      · simp only [ledgerAct, hid, if_false] at h
        simp [saveStep, ih h]
    | writeAuditEntry id' a =>
      by_cases hid : id' = id
      · simp [saveStep, hid]
      · simp only [ledgerAct, hid, if_false] at h
        simp [saveStep, ih h]
    | upsertWorkflow r =>
      by_cases hid : r.summary.workflowId = id
      · simp [ledgerAct, hid] at h
      · simp only [ledgerAct, hid, if_false] at h
        simp [saveStep, ih h, hid]
    | getWorkflow id' =>
      have hpending : (ledger env id).pending ops = true := by
        by_cases hid : id' = id <;> simpa [ledgerAct, hid] using h
      exact ih hpending
    | putIdempotencyRecord r => simp [saveStep, ih h]
    | _ => exact ih h

theorem CrashesSaved.keepsNumbers {env : Environment} {w : World} {step : Step}
    (h : CrashesSaved env w step) :
    KeepsNumbers env w step := by
  cases step with
  | request request =>
    cases request with
    | submit request => exact Or.inr (Or.inl h)
    | _ => trivial
  | restart bootId => trivial
  | crash request n bootId =>
    refine ⟨h.1.replacing, ?_⟩
    intro id
    by_contra hpending
    have hunsaved := unsaved_of_pending env id _ (by simpa using hpending)
    exact absurd (hunsaved.symm.trans (h.2 id)) (by simp)

def ResponseLast (events : List WorkflowEvent) : Prop :=
  ∀ pre event post, events = pre ++ event :: post → event.response.isSome = true → post = []

def repliesStreamed : (op : Op) → op.Reply → Prop
  | .runtimeSubmitWorkflow _, events => ResponseLast events
  | .runtimeReorchestrate _, events => ResponseLast events
  | op, reply => repliesKeyed op reply

/-- Where a request stands: it has cached no response and may have stored a plan; or a cached
response waits for the record; or the record reflects it. -/
inductive Caching where
  | idle (plan : Option (WorkflowId × Int × RuntimeApiResponse))
  | due (cached : IdempotencyRecord) (version : Int)
  | saved (cached : IdempotencyRecord)

def cachingAllows : Caching → Op → Prop
  | _, .pruneStaleBootData _ => False
  | .idle plan, .putIdempotencyRecord r => carriesPlan r.cachedResponse = true →
      ∃ version, plan = some (r.workflowId, version, r.cachedResponse)
  | .due cached version, .upsertWorkflow r => r.summary.workflowId = cached.workflowId ∧
      r.latestResponse = some cached.cachedResponse ∧
      (carriesPlan cached.cachedResponse = true → r.summary.latestPlanVersion = version)
  | .due _ _, .putIdempotencyRecord _ => False
  | .due _ _, .writePlanVersion _ _ => False
  | .saved _, .upsertWorkflow _ => False
  | .saved _, .putIdempotencyRecord _ => False
  | .saved _, .writePlanVersion _ _ => False
  | _, _ => True

def cachingNext : Caching → Op → Caching
  | .idle _, .writePlanVersion id v => .idle (some (id, v.version, v.response))
  | .idle plan, .putIdempotencyRecord r => .due r ((plan.map fun p => p.2.1).getD 0)
  | .due cached _, .upsertWorkflow _ => .saved cached
  | k, _ => k

def caching : Monitor calls Caching where
  allows := cachingAllows
  replies := repliesStreamed
  next k op _ := cachingNext k op

def PlanStored (w : World) (plan : WorkflowId × Int × RuntimeApiResponse) : Prop :=
  ∃ row ∈ w.store.planVersions.rows, row.key = (plan.1, plan.2.1) ∧ row.payload = plan.2.2

/-- What the store holds at each stage of a request that began in the state `start`. -/
def CachingInv (start : World) (log : List (Op × World)) (w : World) : Caching → Prop
  | .idle plan =>
    (∀ key, w.store.getIdempotencyRecord key = start.store.getIdempotencyRecord key) ∧
    ∀ p ∈ plan, PlanStored w p
  | .due cached version =>
    (∀ key, w.store.getIdempotencyRecord key =
      if cached.key = key then some cached else start.store.getIdempotencyRecord key) ∧
    (carriesPlan cached.cachedResponse = true →
      PlanStored w (cached.workflowId, version, cached.cachedResponse)) ∧
    unsaved cached.workflowId (log.map Prod.fst) = true
  | .saved cached =>
    (∀ key, w.store.getIdempotencyRecord key =
      if cached.key = key then some cached else start.store.getIdempotencyRecord key) ∧
    Reflects w cached

/-- A call that changes neither the records nor the plan versions nor the cached responses. -/
theorem CachingInv.neutral {start w : World} {log : List (Op × World)} {k : Caching}
    (h : CachingInv start log w k) {w' : World} {op : Op}
    (hidempotency : w'.store.idempotency = w.store.idempotency)
    (hrecords : w'.store.records = w.store.records)
    (hplans : w'.store.planVersions = w.store.planVersions)
    (hop : ∀ id, saveStep id true op = true) : CachingInv start (log ++ [(op, w')]) w' k := by
  have hget : ∀ key, w'.store.getIdempotencyRecord key = w.store.getIdempotencyRecord key := by
    intro key
    simp only [Store.getIdempotencyRecord, hidempotency]
  have hplan : ∀ plan, PlanStored w plan → PlanStored w' plan := by
    intro plan hstored
    simpa only [PlanStored, hplans] using hstored
  cases k with
  | idle plan => exact ⟨fun key => (hget key).trans (h.1 key), fun p hp => hplan p (h.2 p hp)⟩
  | due cached version =>
    refine ⟨fun key => (hget key).trans (h.1 key), fun hcarries => hplan _ (h.2.1 hcarries), ?_⟩
    rw [List.map_append, List.map_cons, List.map_nil, unsaved_snoc, h.2.2]
    exact hop cached.workflowId
  | saved cached =>
    refine ⟨fun key => (hget key).trans (h.1 key), ?_⟩
    simpa only [Reflects, Store.getWorkflow, hrecords, hplans] using h.2

theorem caching_step (env : Environment) (start : World)
    (hreplies : ∀ op w, repliesStreamed op (handle env op w).1) :
    Program.StepPreserves (handle env) caching (CachingInv start) := by
  intro log w k op hinv hallows
  refine ⟨hreplies op w, ?_⟩
  change CachingInv start _ _ (cachingNext k op)
  change cachingAllows k op at hallows
  cases op with
  | pruneStaleBootData before => cases k <;> exact absurd hallows not_false
  | writePlanVersion id v =>
    cases k with
    | idle plan =>
      refine ⟨hinv.1, fun p hp => ?_⟩
      obtain rfl := Option.mem_some.mp hp
      exact ⟨_, (KeyedRows.mem_put _ _ _).mpr (Or.inl rfl), rfl, rfl⟩
    | due cached version => exact absurd hallows not_false
    | saved cached => exact absurd hallows not_false
  | putIdempotencyRecord r =>
    cases k with
    | idle plan =>
      refine ⟨fun key => ?_, fun hcarries => ?_, ?_⟩
      · have hput := Store.getIdempotencyRecord_put w.store r key
        rw [hinv.1 key] at hput
        exact hput
      · obtain ⟨version, hplan⟩ := hallows hcarries
        have hstored := hinv.2 _ hplan
        rw [hplan]
        exact hstored
      · simp only [List.map_append, List.map_cons, List.map_nil, unsaved_snoc]
        simp [saveStep]
    | due cached version => exact absurd hallows not_false
    | saved cached => exact absurd hallows not_false
  | upsertWorkflow r =>
    cases k with
    | idle plan => exact ⟨hinv.1, hinv.2⟩
    | due cached version =>
      obtain ⟨hid, hresponse, hversion⟩ := hallows
      refine ⟨hinv.1, r, ?_, hresponse, fun hcarries => ?_⟩
      · simp only [handle, Store.getWorkflow_upsertWorkflow, hid, if_true]
      · rw [hversion hcarries]
        exact hinv.2.1 hcarries
    | saved cached => exact absurd hallows not_false
  | _ => cases k <;> exact hinv.neutral rfl rfl rfl fun _ => rfl

theorem responseLast_singleton (event : WorkflowEvent) : ResponseLast [event] := by
  intro pre e post h _
  cases pre with
  | nil => exact (List.cons.inj h).2.symm
  | cons x pre => exact absurd (List.cons.inj h).2 (by simp)

theorem ResponseLast.cons {event : WorkflowEvent} {events : List WorkflowEvent}
    (hevent : event.response = none) (h : ResponseLast events) :
    ResponseLast (event :: events) := by
  intro pre e post heq hsome
  cases pre with
  | nil =>
    obtain ⟨rfl, -⟩ := List.cons.inj heq
    simp [hevent] at hsome
  | cons x pre => exact h pre e post (List.cons.inj heq).2 hsome

theorem ResponseLast.append {xs ys : List WorkflowEvent} (hx : ∀ event ∈ xs, event.response = none)
    (hy : ResponseLast ys) : ResponseLast (xs ++ ys) := by
  induction xs with
  | nil => exact hy
  | cons x xs ih =>
    exact (ih fun event he => hx event (List.mem_cons_of_mem _ he)).cons (hx x List.mem_cons_self)

theorem responseLast_planningEvents (result : App.RunResult) (config : App.WorkflowConfig)
    (workflowId : WorkflowId) (detail : String) :
    ResponseLast (App.planningEvents result config workflowId detail) := by
  refine ResponseLast.append ?_ (responseLast_singleton _)
  intro event he
  obtain ⟨assignment, -, rfl⟩ := List.mem_map.mp he
  rfl

theorem responseLast_submit (env : Environment) (request : SubmitWorkflowRequest)
    (sessions : App.Sessions) :
    ResponseLast (App.streamSubmitWorkflow env.security env.optimize request sessions).1 := by
  simp only [App.streamSubmitWorkflow]
  split_ifs
  · exact responseLast_singleton _
  · exact ((responseLast_planningEvents _ _ _ _).cons rfl).cons rfl
  · exact responseLast_singleton _

theorem responseLast_reorchestrate (env : Environment) (request : ReorchestrateRequest)
    (sessions : App.Sessions) :
    ResponseLast (App.streamReorchestrate env.security env.optimize request sessions).1 := by
  simp only [App.streamReorchestrate]
  split
  · split
    · exact responseLast_singleton _
    · refine ResponseLast.append ?_ ?_
      · intro event he
        rcases List.mem_append.mp he with he | he
        · obtain ⟨override, -, rfl⟩ := List.mem_map.mp he
          unfold App.taskOverrideEvent
          split <;> rfl
        · obtain ⟨override, -, rfl⟩ := List.mem_map.mp he
          rfl
      · split
        · exact (responseLast_planningEvents _ _ _ _).cons rfl
        · exact responseLast_singleton _
  · exact responseLast_singleton _

theorem repliesStreamed_handle (env : Environment) (op : Op) (w : World) :
    repliesStreamed op (handle env op w).1 := by
  cases op with
  | runtimeSubmitWorkflow request => exact responseLast_submit env request w.sessions
  | runtimeReorchestrate request => exact responseLast_reorchestrate env request w.sessions
  | getWorkflow id => exact repliesKeyed_handle env (.getWorkflow id) w
  | listAllWorkflows => exact repliesKeyed_handle env .listAllWorkflows w
  | _ => trivial

def Caching.Complete : Caching → Prop
  | due _ _ => False
  | _ => True

section Requests

variable {env : Environment} {plan : Option (WorkflowId × Int × RuntimeApiResponse)}

theorem caching_idle {op : Op} (hplan : ∀ id v, op ≠ .writePlanVersion id v)
    (hcache : ∀ r, op ≠ .putIdempotencyRecord r)
    (hprune : ∀ before, op ≠ .pruneStaleBootData before) :
    Stable caching (.idle plan) op := by
  cases op with
  | writePlanVersion id v => exact absurd rfl (hplan id v)
  | putIdempotencyRecord r => exact absurd rfl (hcache r)
  | pruneStaleBootData before => exact absurd rfl (hprune before)
  | _ => exact ⟨trivial, fun _ => rfl⟩

theorem caching_publish (id : WorkflowId) (k : Caching) :
    (publishWorkflowUpdate id).Obeys caching (fun _ k' => k' = k) k := by
  apply publish_stable
  cases k <;> exact ⟨trivial, fun _ => rfl⟩

/-- The stage after the rows of a response are written: nothing was cached, or the record
`record` is what is due. -/
def Caching.Awaits (p : Persisting) (record : WorkflowRecord) (response : RuntimeApiResponse)
    (k : Caching) :
    Prop :=
  (∃ plan, k = .idle plan) ∨
  ∃ cached version, k = .due cached version ∧ cached.workflowId = p.workflowId ∧
    cached.cachedResponse = response ∧
    (carriesPlan response = true → version = record.summary.latestPlanVersion)

theorem caching_persistResponse (p : Persisting) (recordedAt : Int) (record : WorkflowRecord)
    (response : RuntimeApiResponse) :
    (persistResponse p recordedAt record (some response)).Obeys caching
      (fun _ k' => k'.Awaits p record response) (.idle plan) := by
  have hplan : (persistPlanVersion p recordedAt record response).Obeys caching
      (fun _ k' => ∃ plan', k' = .idle plan' ∧ (carriesPlan response = true →
        plan' = some (p.workflowId, record.summary.latestPlanVersion, response))) (.idle plan) := by
    unfold persistPlanVersion
    split
    · exact Program.obeys_perform_bind trivial fun _ _ => Program.obeys_pure ⟨_, rfl, fun _ => rfl⟩
    · rename_i hcarries
      exact Program.obeys_pure ⟨plan, rfl, fun h => absurd h hcarries⟩
  refine hplan.bind ?_
  rintro _ _ ⟨plan', rfl, hplan'⟩
  unfold persistIdempotency
  split
  · exact Program.obeys_pure (Or.inl ⟨plan', rfl⟩)
  · refine Program.obeys_perform_bind (fun hcarries => ⟨_, hplan' hcarries⟩) fun _ _ => ?_
    refine Program.obeys_pure (Or.inr ⟨_, _, rfl, rfl, rfl, fun hcarries => ?_⟩)
    rw [hplan' hcarries]
    rfl

/-- An event without a response leaves the request as it was; one with a response leaves
nothing waiting. -/
theorem caching_persistEvent {p : Persisting} {record : WorkflowRecord}
    (hid : record.summary.workflowId = p.workflowId) (event : WorkflowEvent) :
    (persistEvent p record event).Obeys caching
      (fun record' k' => record'.summary.workflowId = p.workflowId ∧ k'.Complete ∧
        (event.response = none → k' = .idle plan)) (.idle plan) := by
  refine obeys_stable (caching_idle (by simp) (by simp) (by simp)) fun recordedAt _ => ?_
  have hid' :
    (recordEvent recordedAt record event).summary.workflowId = p.workflowId := by simpa using hid
  have hresponse' := recordEvent_latestResponse recordedAt record event
  generalize recordEvent recordedAt record event = record' at hid' hresponse'
  cases hresponse : event.response with
  | none =>
    refine obeys_stable (caching_idle (by simp) (by simp) (by simp)) fun _ _ => ?_
    refine obeys_stable (caching_idle (by simp) (by simp) (by simp)) fun _ _ => ?_
    refine (caching_publish _ _).bind ?_
    rintro _ _ rfl
    exact Program.obeys_pure ⟨hid', trivial, fun _ => rfl⟩
  | some response =>
    rw [hresponse, Option.some_or] at hresponse'
    refine (caching_persistResponse p recordedAt record' response).bind ?_
    rintro _ _ (⟨plan', rfl⟩ | ⟨cached, version, rfl, hcached, rfl, hversion⟩)
    · refine obeys_stable (caching_idle (by simp) (by simp) (by simp)) fun _ _ => ?_
      refine obeys_stable (caching_idle (by simp) (by simp) (by simp)) fun _ _ => ?_
      refine (caching_publish _ _).bind ?_
      rintro _ _ rfl
      exact Program.obeys_pure ⟨hid', trivial, fun h => absurd h (by simp)⟩
    · refine obeys_stable ⟨trivial, fun _ => rfl⟩ fun _ _ => ?_
      have hupsert : cachingAllows (.due cached version) (.upsertWorkflow record') :=
        ⟨hid'.trans hcached.symm, hresponse', fun hcarries => (hversion hcarries).symm⟩
      refine Program.obeys_perform_bind hupsert fun _ _ => ?_
      refine (caching_publish _ _).bind ?_
      rintro _ _ rfl
      exact Program.obeys_pure ⟨hid', trivial, fun h => absurd h (by simp)⟩

theorem caching_persistEvents {p : Persisting} {record : WorkflowRecord}
    (hid : record.summary.workflowId = p.workflowId) {events : List WorkflowEvent}
    (hlast : ResponseLast events) :
    (persistEvents p record events).Obeys caching (fun _ k' => k'.Complete) (.idle plan) := by
  induction events generalizing record with
  | nil => exact Program.obeys_pure trivial
  | cons event rest ih =>
    refine (caching_persistEvent hid event).bind ?_
    intro record' k' ⟨hid', hcomplete, hidle⟩
    cases hresponse : event.response with
    | some response =>
      obtain rfl : rest = [] := hlast [] event rest rfl (by simp [hresponse])
      exact Program.obeys_pure hcomplete
    | none =>
      obtain rfl := hidle hresponse
      have hrest : ResponseLast rest := by
        intro pre e post h
        exact hlast (event :: pre) e post (by rw [h, List.cons_append])
      refine (ih hid' hrest).bind ?_
      exact fun _ _ h => Program.obeys_pure h

/-- The program caches its response in order, from the start of a request. -/
def CachesInOrder {α : Type} (p : Service α) : Prop :=
  ∀ plan, p.Obeys caching (fun _ k' => k'.Complete) (.idle plan)

theorem CachesInOrder.map {α β : Type} {p : Service α} (f : α → β) (h : CachesInOrder p) :
    CachesInOrder (f <$> p) := fun plan => (h plan).bind fun _ _ hk => Program.obeys_pure hk

theorem submitAccepted_caches {request : SubmitWorkflowRequest}
    (hreplace : request.replaceExisting = some true) :
    CachesInOrder (submitAccepted env request) := by
  intro plan
  refine obeys_stable (caching_idle (by simp) (by simp) (by simp)) fun now _ => ?_
  simp only [existingRecord, hreplace, Option.getD_some, if_true]
  refine obeys_stable (caching_idle (by simp) (by simp) (by simp)) fun existing hexisting => ?_
  refine obeys_stable (caching_idle (by simp) (by simp) (by simp)) fun _ _ => ?_
  refine (caching_publish _ _).bind ?_
  rintro _ _ rfl
  refine obeys_stable (caching_idle (by simp) (by simp) (by simp)) fun _ _ => ?_
  refine obeys_stable (caching_idle (by simp) (by simp) (by simp)) fun events hlast => ?_
  exact caching_persistEvents (submittedRecord_workflowId request now existing hexisting) hlast

theorem streamSubmitWorkflow_caches {request : SubmitWorkflowRequest}
    (hreplace : request.replaceExisting = some true) :
    CachesInOrder (streamSubmitWorkflow env request) := by
  intro plan
  simp only [streamSubmitWorkflow]
  split
  · exact submitAccepted_caches hreplace plan
  · refine obeys_stable (caching_idle (by simp) (by simp) (by simp)) fun existing _ => ?_
    cases existing with
    | none => exact submitAccepted_caches hreplace plan
    | some existing =>
      dsimp only
      split <;> exact Program.obeys_pure trivial

theorem hydrate_caches (auth : ClientAuthContext) (workflowId : WorkflowId)
    (config : WorkflowConfig) :
    (hydrate auth workflowId config).Obeys caching (fun _ k' => k' = .idle plan) (.idle plan) := by
  refine obeys_stable (caching_idle (by simp) (by simp) (by simp)) fun hydrated _ => ?_
  split
  · exact Program.obeys_pure rfl
  · refine obeys_stable (caching_idle (by simp) (by simp) (by simp)) fun events _ => ?_
    dsimp only
    split
    · exact Program.obeys_pure rfl
    · exact obeys_stable (caching_idle (by simp) (by simp) (by simp)) fun _ _ =>
        Program.obeys_pure rfl

theorem reorchestrateAccepted_caches {request : ReorchestrateRequest} {record : WorkflowRecord}
    (hid : record.summary.workflowId = request.workflowId) :
    CachesInOrder (reorchestrateAccepted env request record) := by
  intro plan
  refine obeys_stable (caching_idle (by simp) (by simp) (by simp)) fun events hlast => ?_
  exact caching_persistEvents hid hlast

theorem streamReorchestrate_caches (request : ReorchestrateRequest) :
    CachesInOrder (streamReorchestrate env request) := by
  intro plan
  refine obeys_stable (caching_idle (by simp) (by simp) (by simp)) fun reply hreply => ?_
  cases reply with
  | none => exact Program.obeys_pure trivial
  | some record =>
    have hid : record.summary.workflowId = request.workflowId := hreply record rfl
    dsimp only
    split
    · exact Program.obeys_pure trivial
    · refine (hydrate_caches request.auth request.workflowId record.config).bind ?_
      rintro failure _ rfl
      cases failure with
      | some response => exact Program.obeys_pure trivial
      | none =>
        dsimp only
        split
        · exact reorchestrateAccepted_caches hid plan
        · refine obeys_stable (caching_idle (by simp) (by simp) (by simp)) fun existing _ => ?_
          cases existing with
          | none => exact reorchestrateAccepted_caches hid plan
          | some existing =>
            dsimp only
            split <;> exact Program.obeys_pure trivial

theorem lifecycleAction_caches (newState : WorkflowRecord → WorkflowLifecycleState)
    (action defaultDetail : String) (request : LifecycleRequest) :
    CachesInOrder (lifecycleAction newState action defaultDetail request) := by
  intro plan
  refine obeys_stable (caching_idle (by simp) (by simp) (by simp)) fun reply _ => ?_
  cases reply with
  | none => exact Program.obeys_pure trivial
  | some stored =>
    refine obeys_stable (caching_idle (by simp) (by simp) (by simp)) fun _ _ => ?_
    refine obeys_stable (caching_idle (by simp) (by simp) (by simp)) fun _ _ => ?_
    refine obeys_stable (caching_idle (by simp) (by simp) (by simp)) fun _ _ => ?_
    refine obeys_stable (caching_idle (by simp) (by simp) (by simp)) fun _ _ => ?_
    refine obeys_stable (caching_idle (by simp) (by simp) (by simp)) fun _ _ => ?_
    refine (caching_publish _ _).bind ?_
    rintro _ _ rfl
    exact Program.obeys_pure trivial

theorem applyManualIntervention_caches (request : ManualInterventionRequest) :
    CachesInOrder (applyManualIntervention env request) := by
  intro plan
  refine obeys_stable (caching_idle (by simp) (by simp) (by simp)) fun reply _ => ?_
  cases reply with
  | none => exact Program.obeys_pure trivial
  | some stored =>
    refine obeys_stable (caching_idle (by simp) (by simp) (by simp)) fun _ _ => ?_
    refine obeys_stable (caching_idle (by simp) (by simp) (by simp)) fun _ _ => ?_
    refine obeys_stable (caching_idle (by simp) (by simp) (by simp)) fun _ _ => ?_
    refine (caching_publish _ _).bind ?_
    rintro _ _ rfl
    refine (streamReorchestrate_caches _ plan).bind fun events k' hk' => ?_
    have hread : Stable caching k' (.getWorkflow request.workflowId) := by
      cases k' <;> exact ⟨trivial, fun _ => rfl⟩
    refine obeys_stable hread fun refreshed _ => ?_
    split <;> exact Program.obeys_pure hk'

theorem recoverWorkflows_caches (auth : ClientAuthContext) (workflows : List WorkflowRecord) :
    CachesInOrder (recoverWorkflows auth workflows) := by
  intro plan
  induction workflows with
  | nil => exact Program.obeys_pure trivial
  | cons workflow rest ih =>
    unfold recoverWorkflows
    split
    · exact ih
    · have hworkflow : (recoverWorkflow auth workflow).Obeys caching (fun _ k' => k' = .idle plan)
          (.idle plan) := by
        refine obeys_stable (caching_idle (by simp) (by simp) (by simp)) fun _ _ => ?_
        refine obeys_stable (caching_idle (by simp) (by simp) (by simp)) fun _ _ => ?_
        refine obeys_stable (caching_idle (by simp) (by simp) (by simp)) fun _ _ => ?_
        refine (caching_publish _ _).bind ?_
        rintro _ _ rfl
        refine obeys_stable (caching_idle (by simp) (by simp) (by simp)) fun _ _ => ?_
        exact obeys_stable (caching_idle (by simp) (by simp) (by simp)) fun _ _ =>
          Program.obeys_pure rfl
      refine hworkflow.bind ?_
      rintro _ _ rfl
      exact ih

theorem recoverActiveWorkflows_caches (auth : ClientAuthContext) :
    CachesInOrder (recoverActiveWorkflows auth) := by
  intro plan
  refine obeys_stable (caching_idle (by simp) (by simp) (by simp)) fun workflows _ => ?_
  exact recoverWorkflows_caches auth workflows plan

theorem Request.Durable.caches {request : Request} (h : request.Durable) :
    CachesInOrder (request.program env) := by
  cases request with
  | submit request => exact (streamSubmitWorkflow_caches h).map _
  | reorchestrate request => exact (streamReorchestrate_caches request).map _
  | pause request => exact (lifecycleAction_caches _ _ _ request).map _
  | resume request => exact (lifecycleAction_caches _ _ _ request).map _
  | cancel request => exact (lifecycleAction_caches _ _ _ request).map _
  | intervene request => exact (applyManualIntervention_caches request).map _
  | recover auth => exact (recoverActiveWorkflows_caches auth).map _
  | _ => exact absurd h not_false

end Requests

theorem CachingInv.reflects {start w : World} {log : List (Op × World)} {k : Caching}
    (h : CachingInv start log w k) (hcomplete : k.Complete) {key : String}
    {cached : IdempotencyRecord} (hcached : w.store.getIdempotencyRecord key = some cached)
    (hnew : start.store.getIdempotencyRecord key ≠ some cached) : Reflects w cached := by
  cases k with
  | idle plan => exact absurd ((h.1 key).symm.trans hcached) hnew
  | due _ _ => exact absurd hcomplete not_false
  | saved cached' =>
    have hlookup := (h.1 key).symm.trans hcached
    split_ifs at hlookup
    · obtain rfl := Option.some.inj hlookup
      exact h.2
    · exact absurd hlookup hnew

theorem Step.caches_reflected {env : Environment} {w : World} {step : Step}
    (h : CrashesSaved env w step) {key : String} {cached : IdempotencyRecord}
    (hcached : (step.next env w).store.getIdempotencyRecord key = some cached)
    (hnew : w.store.getIdempotencyRecord key ≠ some cached) :
    Reflects (step.next env w) cached := by
  have hstep := caching_step env w (repliesStreamed_handle env)
  have hstart : CachingInv w [] w (.idle none) := ⟨fun _ => rfl, fun _ hp => absurd hp (by simp)⟩
  cases step with
  | restart bootId => exact absurd hcached hnew
  | request request =>
    obtain ⟨k, hcomplete, hinv⟩ := Program.Obeys.run hstep (Request.Durable.caches h none) hstart
    exact hinv.reflects hcomplete hcached hnew
  | crash request n bootId =>
    obtain ⟨hdurable, hsaved⟩ := h
    obtain ⟨k, hinv⟩ := Program.Obeys.cut hstep (hdurable.caches none) hstart n
    rw [List.nil_append] at hinv
    have hcomplete : k.Complete := by
      cases k with
      | due cached' version =>
        exact absurd (hinv.2.2.symm.trans (hsaved cached'.workflowId)) (by simp)
      | idle plan => trivial
      | saved cached' => trivial
    exact hinv.reflects hcomplete hcached hnew

/-- A run with crashes and recoveries, from a new database, is consistent if no crash falls
between a write of a row or of a cached response and the next write of the record. -/
theorem crash_consistent (env : Environment) (bootId : String) (clock : Nat → Int)
    (steps : List Step) (hmeets : Meets env (CrashesSaved env) steps (.initial bootId clock)) :
    CrashConsistent env steps (.initial bootId clock) := by
  refine ⟨appendOnly_of_keepsNumbers (hmeets.mono fun _ _ h => h.keepsNumbers), ?_⟩
  generalize World.initial bootId clock = w at hmeets
  induction steps generalizing w with
  | nil => trivial
  | cons step rest ih =>
    refine ⟨fun key cached hcached hnew => Step.caches_reflected hmeets.1 hcached hnew, ?_⟩
    exact ih _ hmeets.2

/-- A pause is stopped after `callsMade` calls; the process recovers and the pause is repeated. -/
def crashRun (callsMade : Nat) : List Step :=
  [.request (.submit { config := { id := "w" }, replaceExisting := some true }),
    .crash (.pause { workflowId := "w" }) callsMade "second boot",
    .request (.recover {}),
    .request (.pause { workflowId := "w" })]

theorem crash_consistent_before_audit :
    Meets openEnvironment (CrashesSaved openEnvironment) (crashRun 3) newDatabase ∧
      CrashConsistent openEnvironment (crashRun 3) newDatabase := by
  have hmeets : Meets openEnvironment (CrashesSaved openEnvironment) (crashRun 3) newDatabase :=
    ⟨rfl, ⟨trivial, fun _ => rfl⟩, trivial, trivial, trivial⟩
  exact ⟨hmeets, crash_consistent openEnvironment "boot" (fun reading => reading) _ hmeets⟩

/-- The process stops after the audit entry is written and before the record counts it: the
entry of the recovery is written over it. -/
theorem crash_overwrites_audit_entry :
    ¬ CrashConsistent openEnvironment (crashRun 5) newDatabase := by
  intro h
  exact absurd (h.1 .auditEntries).1 (by decide)

end TaskOrchestrator.System
