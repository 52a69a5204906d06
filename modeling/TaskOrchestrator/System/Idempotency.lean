import TaskOrchestrator.System.Effects
import TaskOrchestrator.System.StoredRecords

/-!
# Retries under an idempotency key

A request that was processed leaves its response under its key. The record stays until it is
pruned, so a retry finds it, whatever happened in between. A submission looks for it first;
a re-orchestration looks only after the guards on the stored record and the hydration of the
runtime.
-/

namespace TaskOrchestrator.System

open Protocol Library ControlPlane

set_option autoImplicit false

inductive KeyedRequest where
  | submit (request : SubmitWorkflowRequest)
  | reorchestrate (request : ReorchestrateRequest)
  deriving DecidableEq

namespace KeyedRequest

def request : KeyedRequest → Request
  | submit q => .submit q
  | reorchestrate q => .reorchestrate q

def key : KeyedRequest → String
  | submit q => q.idempotencyKey.getD ""
  | reorchestrate q => q.idempotencyKey.getD ""

def fingerprint (env : Environment) : KeyedRequest → String
  | submit q => env.submitFingerprint q
  | reorchestrate q => env.reorchestrateFingerprint q

end KeyedRequest

def isRuntimeCall : Op → Bool
  | .runtimeSubmitWorkflow _ => true
  | .runtimeReorchestrate _ => true
  | _ => false

/-- The request left a record under its key, where there was none. -/
def Processed (env : Environment) (r : KeyedRequest) (w : World)
    (record : IdempotencyRecord) : Prop :=
  r.key ≠ "" ∧ w.store.getIdempotencyRecord r.key = none ∧
    (serve env r.request w).2.store.getIdempotencyRecord r.key = some record

/-- The request is answered by one event with the cached response, without a runtime call and
without a change of a table. -/
structure RetryServed (env : Environment) (r : KeyedRequest) (cached : RuntimeApiResponse)
    (w : World) : Prop where
  answer : ∃ event, (serve env r.request w).1 = .events [event] ∧ event.type = .runFinished ∧
    event.response = some cached
  noRuntimeCall : ∀ call ∈ (r.request.program env).steps (handle env) w,
    isRuntimeCall call.1 = false
  tables : (serve env r.request w).2.store = w.store

def ReuseRejected (env : Environment) (r : KeyedRequest) (w : World) : Prop :=
  ∀ other : KeyedRequest, other.key = r.key → other ≠ r →
    (∃ event, (serve env other.request w).1 = .events [event] ∧ event.type = .requestRejected) ∧
    (serve env other.request w).2.store = w.store

/-- The guards in front of the idempotency check let the retry pass: a re-orchestration needs a
stored workflow that is neither paused nor cancelled, the plan version it expects, and a
hydrated workflow. -/
def RetryReady (w : World) : KeyedRequest → Prop
  | .submit _ => True
  | .reorchestrate q => q.workflowId ∈ w.hydrated ∧
    ∃ record, w.store.getWorkflow q.workflowId = some record ∧
      record.summary.state ≠ .paused ∧ record.summary.state ≠ .cancelled ∧
      ∀ version ∈ q.expectedPlanVersion, version = record.summary.latestPlanVersion

def cachedUnder (store : Store) (key : String) : Option (String × RuntimeApiResponse) :=
  (store.getIdempotencyRecord key).map fun r => (r.requestFingerprint, r.cachedResponse)

section Processing

variable {env : Environment} {p : Persisting}

theorem cachedUnder_storeEvent (hkey : p.idempotencyKey ≠ "") (recordedAt : Int)
    (record : WorkflowRecord) (event : WorkflowEvent) (store : Store) :
    cachedUnder (storeEvent p recordedAt record event store) p.idempotencyKey =
      (event.response.map fun response => (p.requestFingerprint, response)).or
        (cachedUnder store p.idempotencyKey) := by
  change cachedUnder (storeResponse p recordedAt record store event.response) p.idempotencyKey = _
  cases event.response with
  | none => rfl
  | some response =>
    simp only [storeResponse, if_neg hkey, cachedUnder, Store.getIdempotencyRecord_put]
    rfl

/-- The table has the request's fingerprint under its key after a stream with a response. -/
theorem cachedUnder_persistEvents (hkey : p.idempotencyKey ≠ "") (record : WorkflowRecord)
    (events : List WorkflowEvent) (w : World) :
    ∀ cached ∈ cachedUnder ((persistEvents p record events).run (handle env) w).2.store
      p.idempotencyKey,
      cached.1 = p.requestFingerprint ∨ cachedUnder w.store p.idempotencyKey = some cached := by
  induction events generalizing record w with
  | nil => exact fun cached hcached => Or.inr hcached
  | cons event rest ih =>
    intro cached hcached
    rw [run_persistEvents_cons] at hcached
    simp only [run_persistEvent] at hcached
    rcases ih _ _ cached hcached with hnew | hold
    · exact Or.inl hnew
    · dsimp only at hold
      rw [cachedUnder_storeEvent hkey] at hold
      cases hresponse : event.response with
      | none =>
        rw [hresponse] at hold
        exact Or.inr hold
      | some response =>
        rw [hresponse] at hold
        obtain rfl := Option.some.inj hold
        exact Or.inl rfl

theorem Processed.fingerprint {r : KeyedRequest} {w : World} {record : IdempotencyRecord}
    (h : Processed env r w record) : record.requestFingerprint = r.fingerprint env := by
  obtain ⟨hkey, hnone, hrecord⟩ := h
  have hcached : cachedUnder (serve env r.request w).2.store r.key =
      some (record.requestFingerprint, record.cachedResponse) := by
    rw [cachedUnder, hrecord]
    rfl
  have hbefore : cachedUnder w.store r.key = none := by
    rw [cachedUnder, hnone]
    rfl
  cases r with
  | submit q =>
    have hmiss : ¬ KeyHit w (q.idempotencyKey.getD "") :=
      fun hhit => absurd (hnone ▸ hhit.2) (by simp)
    simp only [KeyedRequest.request, serve, Request.program, Program.run_map] at hcached
    rw [streamSubmitWorkflow_miss env q w hmiss, run_submitAccepted] at hcached
    rcases cachedUnder_persistEvents (p := submitPersisting env q) hkey _ _ _ _ hcached with hnew
      | hold
    · exact hnew
    · exact absurd (hbefore.symm.trans hold) (by simp)
  | reorchestrate q =>
    simp only [KeyedRequest.request, serve, Request.program, Program.run_map] at hcached
    by_cases hreaches : ∃ stored, ReachesRuntime env w q stored
    · obtain ⟨stored, hreaches⟩ := hreaches
      rw [run_streamReorchestrate_reaches env hreaches, run_reorchestrateAccepted] at hcached
      rcases cachedUnder_persistEvents
        (p := reorchestratePersisting env q) hkey _ _ _ _ hcached with hnew | hold
      · exact hnew
      · dsimp only at hold
        rw [hydratedWorld_store] at hold
        exact absurd (hbefore.symm.trans hold) (by simp)
    · obtain ⟨-, hreplayed⟩ := run_streamReorchestrate_stops env
        (fun stored hstored => hreaches ⟨stored, hstored⟩)
      rw [hreplayed.store] at hcached
      exact absurd (hbefore.symm.trans hcached) (by simp)

end Processing

section Retry

variable {env : Environment} {w : World} {existing : IdempotencyRecord}

theorem keyHit_of_record {key : String} (hkey : key ≠ "")
    (hexisting : w.store.getIdempotencyRecord key = some existing) : KeyHit w key :=
  ⟨hkey, by rw [hexisting]; rfl⟩

theorem run_submit_existing {q : SubmitWorkflowRequest} (hkey : q.idempotencyKey.getD "" ≠ "")
    (hexisting : w.store.getIdempotencyRecord (q.idempotencyKey.getD "") = some existing) :
    ((streamSubmitWorkflow env q).run (handle env) w).1 =
      if existing.requestFingerprint ≠ env.submitFingerprint q then
        rejectedStream q.config.id "Idempotency key was reused for a different request payload."
      else replayedStream q.config.id existing := by
  simp only [streamSubmitWorkflow, if_neg hkey, Program.run_bind, run_getIdempotencyRecord,
    hexisting]
  split_ifs <;> rfl

theorem reuseRejected_of_record {r : KeyedRequest} (hkey : r.key ≠ "")
    (hexisting : w.store.getIdempotencyRecord r.key = some existing)
    (hother : ∀ other : KeyedRequest, other ≠ r →
      existing.requestFingerprint ≠ other.fingerprint env) :
    ReuseRejected env r w := by
  intro other hsame hne
  rw [← hsame] at hkey hexisting
  have hhit := keyHit_of_record hkey hexisting
  cases other with
  | submit q =>
    have hdiffers : existing.requestFingerprint ≠ env.submitFingerprint q := hother _ hne
    simp only [KeyedRequest.request, serve, Request.program, Program.run_map]
    rw [run_submit_existing hkey hexisting, if_pos hdiffers,
      (streamSubmitWorkflow_hit env q w hhit).1]
    exact ⟨⟨_, rfl, rfl⟩, rfl⟩
  | reorchestrate q =>
    simp only [KeyedRequest.request, serve, Request.program, Program.run_map]
    obtain ⟨⟨event, hstream, htype⟩, hreplayed⟩ := run_streamReorchestrate_stops env
      (fun stored (hstored : ReachesRuntime env w q stored) => hstored.2.2.2 hhit)
    refine ⟨⟨event, by rw [hstream], ?_⟩, hreplayed.store⟩
    rcases htype with hrejected | ⟨found, hfound, hmatches, -⟩
    · exact hrejected
    · obtain rfl := Option.some.inj (hexisting.symm.trans hfound)
      exact absurd hmatches (hother _ hne)

theorem retryServed_submit {q : SubmitWorkflowRequest} (hkey : q.idempotencyKey.getD "" ≠ "")
    (hexisting : w.store.getIdempotencyRecord (q.idempotencyKey.getD "") = some existing)
    (hmatches : existing.requestFingerprint = env.submitFingerprint q) :
    RetryServed env (.submit q) existing.cachedResponse w := by
  obtain ⟨hworld, hsteps⟩ := streamSubmitWorkflow_hit env q w (keyHit_of_record hkey hexisting)
  constructor
  · simp only [KeyedRequest.request, serve, Request.program, Program.run_map]
    rw [run_submit_existing hkey hexisting, if_neg (not_not.mpr hmatches)]
    exact ⟨_, rfl, rfl, rfl⟩
  · intro call hcall
    simp only [KeyedRequest.request, Request.program, Program.steps_map, hsteps] at hcall
    obtain rfl := List.mem_singleton.mp hcall
    rfl
  · simp only [KeyedRequest.request, serve, Request.program, Program.run_map]
    rw [hworld]

/-- The calls and the answer of a re-orchestration of a hydrated workflow that no guard refuses
and whose key has a record. -/
theorem run_reorchestrate_existing {q : ReorchestrateRequest} {record : WorkflowRecord}
    (hkey : q.idempotencyKey.getD "" ≠ "")
    (hexisting : w.store.getIdempotencyRecord (q.idempotencyKey.getD "") = some existing)
    (hmatches : existing.requestFingerprint = env.reorchestrateFingerprint q)
    (hstored : w.store.getWorkflow q.workflowId = some record)
    (hrefusal : reorchestrateRefusal q record = none) (hhydrated : q.workflowId ∈ w.hydrated) :
    (streamReorchestrate env q).run (handle env) w = (replayedStream q.workflowId existing, w) ∧
      (streamReorchestrate env q).steps (handle env) w =
        [(.getWorkflow q.workflowId, w), (.hydratedContains q.workflowId, w),
          (.getIdempotencyRecord (q.idempotencyKey.getD ""), w)] := by
  have hhydrate : (hydrate q.auth q.workflowId record.config).run (handle env) w = (none, w) :=
    run_hydrate_hydrated env hhydrated
  constructor
  · simp only [streamReorchestrate, Program.run_bind, run_getWorkflow, hstored, hrefusal,
      reorchestrateGuarded, hhydrate, if_neg hkey, run_getIdempotencyRecord, hexisting,
      if_neg (not_not.mpr hmatches), Program.run_pure]
  · simp only [streamReorchestrate, Program.steps_bind, run_getWorkflow, hstored, hrefusal,
      reorchestrateGuarded, hhydrate, if_neg hkey, run_getIdempotencyRecord, hexisting,
      if_neg (not_not.mpr hmatches)]
    simp only [hydrate, Program.steps_bind, run_hydratedContains, hhydrated, decide_true, if_true]
    rfl

theorem reorchestrate_replays {q : ReorchestrateRequest} {record : WorkflowRecord}
    (hstored : w.store.getWorkflow q.workflowId = some record)
    (hrefusal : reorchestrateRefusal q record = none) (hhydrated : q.workflowId ∉ w.hydrated) :
    ∃ call ∈ (streamReorchestrate env q).steps (handle env) w, isRuntimeCall call.1 = true := by
  refine ⟨(.runtimeSubmitWorkflow
    { config := record.config, auth := q.auth, replaceExisting := some true },
    { w with sessions := (App.streamSubmitWorkflow env.security env.optimize
        { config := record.config, auth := q.auth, replaceExisting := some true } w.sessions).2 }),
          ?_, rfl⟩
  simp only [streamReorchestrate, Program.steps_bind, run_getWorkflow, hstored, hrefusal,
    reorchestrateGuarded, hydrate, run_hydratedContains, hhydrated, decide_false,
    Bool.false_eq_true, if_false, List.mem_append]
  exact Or.inr (Or.inl (Or.inr (Or.inl List.mem_cons_self)))

theorem retryServed_reorchestrate {q : ReorchestrateRequest} (hkey : q.idempotencyKey.getD "" ≠ "")
    (hexisting : w.store.getIdempotencyRecord (q.idempotencyKey.getD "") = some existing)
    (hmatches : existing.requestFingerprint = env.reorchestrateFingerprint q) :
    RetryServed env (.reorchestrate q) existing.cachedResponse w ↔
      RetryReady w (.reorchestrate q) := by
  constructor
  · rintro ⟨⟨event, hanswer, htype, -⟩, hcalls, -⟩
    simp only [KeyedRequest.request, serve, Request.program, Program.run_map, Program.steps_map,
      Answer.events.injEq] at hanswer hcalls
    cases hstored : w.store.getWorkflow q.workflowId with
    | none =>
      simp only [streamReorchestrate, Program.run_bind, run_getWorkflow, hstored, Program.run_pure]
        at hanswer
      obtain rfl := (List.cons.inj hanswer).1
      exact absurd htype (by simp [makeResponseEvent])
    | some record =>
      cases hrefusal : reorchestrateRefusal q record with
      | some message =>
        simp only [streamReorchestrate, Program.run_bind, run_getWorkflow, hstored, hrefusal,
          Program.run_pure] at hanswer
        obtain rfl := (List.cons.inj hanswer).1
        exact absurd htype (by simp [makeResponseEvent])
      | none =>
        refine ⟨?_, record, hstored, reorchestrateRefusal_eq_none.mp hrefusal⟩
        by_contra hhydrated
        obtain ⟨call, hcall, hruntime⟩ := reorchestrate_replays hstored hrefusal hhydrated
        exact absurd (hcalls call hcall) (by simp [hruntime])
  · rintro ⟨hhydrated, record, hstored, hguards⟩
    obtain ⟨hrun, hsteps⟩ := run_reorchestrate_existing hkey hexisting hmatches hstored
      (reorchestrateRefusal_eq_none.mpr hguards) hhydrated
    constructor
    · simp only [KeyedRequest.request, serve, Request.program, Program.run_map, hrun]
      exact ⟨_, rfl, rfl, rfl⟩
    · intro call hcall
      simp only [KeyedRequest.request, Request.program, Program.steps_map, hsteps, List.mem_cons,
        List.not_mem_nil, or_false] at hcall
      rcases hcall with rfl | rfl | rfl <;> rfl
    · simp only [KeyedRequest.request, serve, Request.program, Program.run_map, hrun]

end Retry

/-- The request and its key are answered as they should be in the state. -/
def IdempotentRetries (env : Environment) (r : KeyedRequest) (cached : RuntimeApiResponse)
    (w : World) : Prop :=
  RetryServed env r cached w ∧ ReuseRejected env r w

def KeepsRecord (key : String) (w : World) (step : Step) : Prop :=
  ∀ request ∈ step.served, Spares key w request

section Runs

variable {env : Environment}

theorem step_kept {w : World} {step : Step} {record : IdempotencyRecord} (hsound : RecordsSound w)
    (hrecord : w.store.getIdempotencyRecord record.key = some record)
    (hstep : KeepsRecord record.key w step) :
    (step.next env w).store.getIdempotencyRecord record.key = some record := by
  have hfrozen : GuardedWorld ⟨fun _ => False, fun r => r = record⟩ [] w := by
    refine ⟨hsound, fun _ h => h.elim, ?_, fun _ h => absurd h (by simp)⟩
    rintro r rfl
    exact hrecord
  have hnext : GuardedWorld ⟨fun _ => False, fun r => r = record⟩ (step.log env w)
      (step.next env w) := by
    apply step_guarded hfrozen
    · exact fun _ _ _ _ => not_false
    · exact fun _ _ _ _ => not_false
    · rintro request hserved r rfl
      exact hstep request hserved
  exact hnext.kept record rfl

theorem run_kept {steps : List Step} {w : World} {record : IdempotencyRecord}
    (hsound : RecordsSound w) (hrecord : w.store.getIdempotencyRecord record.key = some record)
    (hmeets : Meets env (KeepsRecord record.key) steps w) :
    (runWorld env steps w).store.getIdempotencyRecord record.key = some record := by
  induction steps generalizing w with
  | nil => exact hrecord
  | cons step rest ih =>
    exact ih (step_recordsSound hsound) (step_kept hsound hrecord hmeets.1) hmeets.2

/-- A processed request is retried, in a state that any steps reached without pruning its record:
the retry is idempotent exactly when the guards in front of the idempotency check let it pass. -/
theorem idempotent_retries_iff (env : Environment) (bootId : String) (clock : Nat → Int)
    (before after : List Step) (r : KeyedRequest) (record : IdempotencyRecord)
    (hinjective : ∀ other : KeyedRequest, other.fingerprint env = r.fingerprint env → other = r)
    (hprocessed : Processed env r (runWorld env before (.initial bootId clock)) record)
    (hkeeps : Meets env (KeepsRecord r.key) after
      (serve env r.request (runWorld env before (.initial bootId clock))).2) :
    IdempotentRetries env r record.cachedResponse
        (runWorld env after (serve env r.request (runWorld env before (.initial bootId clock))).2) ↔
      RetryReady
      (runWorld env after
        (serve env r.request (runWorld env before (.initial bootId clock))).2) r := by
  have hfingerprint := hprocessed.fingerprint
  obtain ⟨hkey, -, hrecord⟩ := hprocessed
  have hsound : RecordsSound
      (serve env r.request (runWorld env before (.initial bootId clock))).2 := by
    change RecordsSound
      (Step.next env (.request r.request) (runWorld env before (.initial bootId clock)))
    exact step_recordsSound (runWorld_recordsSound (initial_recordsSound bootId clock))
  have hrkey : record.key = r.key := Store.key_of_getIdempotencyRecord hrecord
  rw [← hrkey] at hrecord hkeeps hkey
  have hexisting := run_kept hsound hrecord hkeeps
  rw [hrkey] at hexisting hkey
  have hreuse : ReuseRejected env r
      (runWorld env after
        (serve env r.request (runWorld env before (.initial bootId clock))).2) := by
    apply reuseRejected_of_record hkey hexisting
    intro other hne heq
    exact hne (hinjective other (heq.symm.trans hfingerprint))
  unfold IdempotentRetries
  rw [and_iff_left hreuse]
  cases r with
  | submit q => exact ⟨fun _ => trivial, fun _ => retryServed_submit hkey hexisting hfingerprint⟩
  | reorchestrate q => exact retryServed_reorchestrate hkey hexisting hfingerprint

end Runs

/-- A re-orchestration under a key, for the plan version of a workflow that was planned once. -/
def expectingRequest : ReorchestrateRequest where
  workflowId := "w"
  idempotencyKey := some "key"
  expectedPlanVersion := some 1

def anyVersionRequest : ReorchestrateRequest :=
  { expectingRequest with expectedPlanVersion := none }

def fingerprintEnvironment (request : ReorchestrateRequest) : Environment :=
  { openEnvironment with
    submitFingerprint := fun _ => "submission"
    reorchestrateFingerprint := fun other =>
      if other = request then "this request" else "another request" }

theorem fingerprintEnvironment_injective (request : ReorchestrateRequest) (other : KeyedRequest)
    (h : other.fingerprint (fingerprintEnvironment request) =
      (KeyedRequest.reorchestrate request).fingerprint (fingerprintEnvironment request)) :
    other = .reorchestrate request := by
  cases other with
  | submit q => exact absurd h (by simp [KeyedRequest.fingerprint, fingerprintEnvironment])
  | reorchestrate q =>
    by_contra hne
    have hq : q ≠ request := fun heq => hne (by rw [heq])
    exact absurd h (by simp [KeyedRequest.fingerprint, fingerprintEnvironment, hq])

def plannedOnce : List Step := [.request (.submit { config := { id := "w" } })]

/-- The record that either request leaves under its key. -/
def processedRecord : IdempotencyRecord where
  key := "key"
  workflowId := "w"
  requestFingerprint := "this request"
  recordedAtUnixMs := 5
  cachedResponse := { ok := true, result := { ok := true } }

theorem idempotent_retries_recovered :
    Processed (fingerprintEnvironment anyVersionRequest) (.reorchestrate anyVersionRequest)
        (runWorld (fingerprintEnvironment anyVersionRequest) plannedOnce newDatabase)
          processedRecord ∧
      IdempotentRetries (fingerprintEnvironment anyVersionRequest)
        (.reorchestrate anyVersionRequest)
        processedRecord.cachedResponse
        (runWorld (fingerprintEnvironment anyVersionRequest)
          [.restart "second boot", .request (.recover {})]
          (serve (fingerprintEnvironment anyVersionRequest) (.reorchestrate anyVersionRequest)
            (runWorld (fingerprintEnvironment anyVersionRequest) plannedOnce newDatabase)).2) := by
  have hprocessed :
    Processed (fingerprintEnvironment anyVersionRequest) (.reorchestrate anyVersionRequest)
      (runWorld (fingerprintEnvironment anyVersionRequest) plannedOnce newDatabase)
        processedRecord :=
    ⟨by decide, by decide, by decide⟩
  refine ⟨hprocessed,
    (idempotent_retries_iff _ "boot" (fun reading => reading) plannedOnce _ _ processedRecord
      (fingerprintEnvironment_injective anyVersionRequest) hprocessed ?_).mpr ?_⟩
  · refine ⟨?_, ?_, trivial⟩ <;>
    · intro request hserved before hprune
      cases hserved <;> cases hprune
  · exact ⟨by decide, _, rfl, by decide, by decide, by decide⟩

/-- The request succeeds and makes plan version 2; its retry is refused because it expects
plan version 1. -/
theorem retry_refused_after_replanning :
    (∀ other : KeyedRequest, other.fingerprint (fingerprintEnvironment expectingRequest) =
      (KeyedRequest.reorchestrate expectingRequest).fingerprint
        (fingerprintEnvironment expectingRequest) →
        other = .reorchestrate expectingRequest) ∧
    Processed (fingerprintEnvironment expectingRequest) (.reorchestrate expectingRequest)
      (runWorld (fingerprintEnvironment expectingRequest) plannedOnce newDatabase) processedRecord ∧
    ¬ IdempotentRetries (fingerprintEnvironment expectingRequest) (.reorchestrate expectingRequest)
      processedRecord.cachedResponse
      (serve (fingerprintEnvironment expectingRequest) (.reorchestrate expectingRequest)
        (runWorld (fingerprintEnvironment expectingRequest) plannedOnce newDatabase)).2 := by
  refine ⟨fingerprintEnvironment_injective expectingRequest, ⟨by decide, by decide, by decide⟩, ?_⟩
  rintro ⟨⟨⟨event, hanswer, htype, -⟩, -, -⟩, -⟩
  have hrejected :
    (serve (fingerprintEnvironment expectingRequest) (.reorchestrate expectingRequest)
      (serve (fingerprintEnvironment expectingRequest) (.reorchestrate expectingRequest)
        (runWorld (fingerprintEnvironment expectingRequest) plannedOnce newDatabase)).2).1 =
      .events (rejectedStream "w"
        "Expected plan version does not match the durable control-plane record.") := by decide
  obtain rfl := (List.cons.inj (Answer.events.inj (hanswer.symm.trans hrejected))).1
  exact absurd htype (by decide)

end TaskOrchestrator.System
