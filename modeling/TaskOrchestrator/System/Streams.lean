import TaskOrchestrator.System.Idempotency

/-!
# The grammar of event streams

A stream ends with its only response, and a plan is announced assignment by assignment before it.
The control plane yields what the runtime yields. A response from the idempotency table is the only
plan that comes without its assignments.
-/

namespace TaskOrchestrator.System

open Protocol Library ControlPlane

set_option autoImplicit false

def EndsWith (stream : List WorkflowEvent) (response : RuntimeApiResponse) : Prop :=
  ∃ front last, stream = front ++ [last] ∧ last.response = some response ∧ ∀ event ∈ front,
    event.response = none

def plannedAssignments (stream : List WorkflowEvent) : List Assignment :=
  (stream.filter fun event => event.type = .taskPlanned).map fun event =>
    { taskId := event.taskId, actorId := event.actorId, startTime := event.startTime,
      endTime := event.endTime }

def Announces (stream : List WorkflowEvent) (response : RuntimeApiResponse) : Prop :=
  carriesPlan response = true → plannedAssignments stream = response.result.assignments

theorem endsWith_singleton {event : WorkflowEvent} {response : RuntimeApiResponse}
    (h : event.response = some response) : EndsWith [event] response :=
  ⟨[], event, rfl, h, by simp⟩

theorem EndsWith.append {front stream : List WorkflowEvent} {response : RuntimeApiResponse}
    (hfront : ∀ event ∈ front, event.response = none) (h : EndsWith stream response) :
    EndsWith (front ++ stream) response := by
  obtain ⟨before, last, rfl, hlast, hbefore⟩ := h
  refine ⟨front ++ before, last, (List.append_assoc _ _ _).symm, hlast, fun event hevent => ?_⟩
  rcases List.mem_append.mp hevent with hevent | hevent
  · exact hfront event hevent
  · exact hbefore event hevent

theorem EndsWith.foldl {stream : List WorkflowEvent} {response : RuntimeApiResponse}
    (h : EndsWith stream response) (first : RuntimeApiResponse) :
    stream.foldl (fun response event => event.response.getD response) first = response := by
  obtain ⟨front, last, rfl, hlast, -⟩ := h
  rw [List.foldl_append, List.foldl_cons, List.foldl_nil, hlast, Option.getD_some]

theorem announces_of_failed {stream : List WorkflowEvent} {response : RuntimeApiResponse}
    (h : response.ok = false) : Announces stream response := by
  intro hplan
  simp [carriesPlan, h] at hplan

theorem plannedAssignments_append (front stream : List WorkflowEvent) :
    plannedAssignments (front ++ stream) = plannedAssignments front ++
    plannedAssignments stream := by
  rw [plannedAssignments, List.filter_append, List.map_append]
  rfl

theorem plannedAssignments_of_other {front : List WorkflowEvent}
    (h : ∀ event ∈ front, event.type ≠ .taskPlanned) :
    plannedAssignments front = [] := by
  rw [plannedAssignments, List.map_eq_nil_iff, List.filter_eq_nil_iff]
  intro event hevent
  simpa using h event hevent

/-- A planning pass announces its assignments and ends with the response that has them. -/
theorem planningEvents_answer (result : App.RunResult) (config : App.WorkflowConfig)
    (workflowId : WorkflowId) (detail : String) :
    EndsWith (App.planningEvents result config workflowId detail)
      (App.makeRuntimeResponse result config) ∧
      plannedAssignments (App.planningEvents result config workflowId detail) =
        (App.makeRuntimeResponse result config).result.assignments := by
  constructor
  · apply EndsWith.append
    · intro event hevent
      obtain ⟨assignment, -, rfl⟩ := List.mem_map.mp hevent
      rfl
    · exact endsWith_singleton rfl
  · rw [App.planningEvents, plannedAssignments_append, plannedAssignments, List.filter_eq_self.mpr,
      List.map_map]
    · exact List.append_nil _
    · intro event hevent
      obtain ⟨assignment, -, rfl⟩ := List.mem_map.mp hevent
      rfl

/-- What comes before a planning pass in the streams of the runtime. -/
def Preamble (events : List WorkflowEvent) : Prop :=
  ∀ event ∈ events, event.response = none ∧ event.type ≠ .taskPlanned

theorem Preamble.answer {front stream : List WorkflowEvent} {response : RuntimeApiResponse}
    (hfront : Preamble front) (hends : EndsWith stream response)
    (hannounces : Announces stream response) :
    EndsWith (front ++ stream) response ∧ Announces (front ++ stream) response := by
  refine ⟨hends.append fun event hevent => (hfront event hevent).1, fun hplan => ?_⟩
  rw [plannedAssignments_append, plannedAssignments_of_other fun event hevent =>
    (hfront event hevent).2, List.nil_append]
  exact hannounces hplan

section Runtime

variable (env : Environment)

theorem runtimeSubmit_answers (request : SubmitWorkflowRequest) (sessions : App.Sessions) :
    ∃ response, EndsWith
    (App.streamSubmitWorkflow env.security env.optimize request sessions).1 response ∧
      Announces
      (App.streamSubmitWorkflow env.security env.optimize request sessions).1 response := by
  cases haccepts : runtimeAccepts env request sessions with
  | false =>
    obtain ⟨hok, hstream⟩ := runtimeSubmit_rejected env haccepts
    rw [hstream]
    exact ⟨rejection env request, endsWith_singleton rfl, announces_of_failed hok⟩
  | true =>
    rw [runtimeSubmit_accepted env haccepts]
    obtain ⟨hends, hplanned⟩ :=
      planningEvents_answer (env.optimize (App.toAppWorkflow request.config))
      (App.toAppWorkflow request.config) request.config.id "Initial optimization finished."
    refine ⟨_, Preamble.answer ?_ hends fun _ => hplanned⟩
    intro event hevent
    simp only [List.mem_cons, List.not_mem_nil, or_false] at hevent
    rcases hevent with rfl | rfl
    · exact ⟨rfl, by simp [App.makeEvent]⟩
    · exact ⟨rfl, by simp [App.makeEvent]⟩

theorem preamble_overrides (request : ReorchestrateRequest) :
    Preamble (request.taskOverrides.map (App.taskOverrideEvent request.workflowId) ++
      request.actorOverrides.map (App.actorOverrideEvent request.workflowId)) := by
  intro event hevent
  rcases List.mem_append.mp hevent with hevent | hevent
  · obtain ⟨override, -, rfl⟩ := List.mem_map.mp hevent
    unfold App.taskOverrideEvent
    split_ifs
    · exact ⟨rfl, by simp [App.makeEvent]⟩
    · exact ⟨rfl, by simp [App.makeEvent]⟩
  · obtain ⟨override, -, rfl⟩ := List.mem_map.mp hevent
    exact ⟨rfl, by simp [App.actorOverrideEvent, App.makeEvent]⟩

theorem runtimeReorchestrate_answers (request : ReorchestrateRequest) (sessions : App.Sessions) :
    ∃ response, EndsWith
    (App.streamReorchestrate env.security env.optimize request sessions).1 response ∧
      Announces
      (App.streamReorchestrate env.security env.optimize request sessions).1 response := by
  by_cases h : authorized env request.auth = false ∨ sessions.lookup request.workflowId = none
  · obtain ⟨response, hok, -, hstream⟩ := runtimeReorchestrate_rejected env h
    rw [hstream]
    exact ⟨response, endsWith_singleton rfl, announces_of_failed hok⟩
  · obtain ⟨hauth, hfound⟩ := not_or.mp h
    obtain ⟨session, hsession⟩ := Option.ne_none_iff_exists'.mp hfound
    rw [runtimeReorchestrate_accepted env (by simpa using hauth) hsession]
    have hoverrides := preamble_overrides request
    split_ifs
    · obtain ⟨hends, hplanned⟩ :=
        planningEvents_answer (env.optimize (App.applyOverrides request session))
        (App.applyOverrides request session) request.workflowId "Replanning finished."
      have hstarted : Preamble
          [App.makeEvent .replanningStarted request.workflowId "Replanning started."] := by
        intro event hevent
        obtain rfl := List.mem_singleton.mp hevent
        exact ⟨rfl, by simp [App.makeEvent]⟩
      obtain ⟨hstream, hannounced⟩ := hstarted.answer hends fun _ => hplanned
      exact ⟨_, hoverrides.answer hstream hannounced⟩
    · exact ⟨_, hoverrides.answer (endsWith_singleton rfl) fun _ => rfl⟩

end Runtime

/-- The stream is the answer from the idempotency table to a request that was sent again. -/
def ServedAgain (w : World) (workflowId : WorkflowId) (key fingerprint : String)
    (stream : List WorkflowEvent) : Prop :=
  ∃ existing, w.store.getIdempotencyRecord key = some existing ∧ existing.requestFingerprint =
    fingerprint ∧ stream = replayedStream workflowId existing

/-- How a stream answers when it may come from the idempotency table. -/
def Answers (w : World) (workflowId : WorkflowId) (key fingerprint : String)
    (stream : List WorkflowEvent) (response : RuntimeApiResponse) : Prop :=
  EndsWith stream response ∧
    (Announces stream response ∨ ServedAgain w workflowId key fingerprint stream)

section Answers

variable {w : World} {workflowId : WorkflowId} {key fingerprint : String}

theorem answers_rejected (message : String) :
    Answers w workflowId key fingerprint (rejectedStream workflowId message)
      (makeRuntimeError message) :=
  ⟨endsWith_singleton rfl, Or.inl (announces_of_failed rfl)⟩

theorem answers_replayed {existing : IdempotencyRecord}
    (h : w.store.getIdempotencyRecord key = some existing)
    (hsame : existing.requestFingerprint = fingerprint) :
    Answers w workflowId key fingerprint (replayedStream workflowId existing)
      existing.cachedResponse :=
  ⟨endsWith_singleton rfl, Or.inr ⟨existing, h, hsame, rfl⟩⟩

end Answers

section ControlPlane

variable {env : Environment} {w : World}

/-- What the control plane has to yield: the events of the call that it picks, which is made at
most once. -/
def relaying (pick : (op : Op) → op.Reply → Option (List WorkflowEvent)) :
    Monitor calls (Option (List WorkflowEvent)) where
  allows due op := due = none ∨ ∀ reply, pick op reply = none
  replies _ _ := True
  next due op reply := due.or (pick op reply)

/-- The program yields the events of the call that is picked, if it makes it. -/
def Relays (env : Environment) (pick : (op : Op) → op.Reply → Option (List WorkflowEvent))
    (stream : Service (List WorkflowEvent)) (w : World) : Prop :=
  ∀ call ∈ stream.asked (handle env) w, ∀ events ∈ pick call.1 (handle env call.1 call.2).1,
    (stream.run (handle env) w).1 = events

section Relaying

variable {pick : (op : Op) → op.Reply → Option (List WorkflowEvent)}

theorem relays_of_obeys {stream : Service (List WorkflowEvent)}
    (h : stream.Obeys (relaying pick) (fun yielded due => ∀ events ∈ due, yielded = events) none) :
    Relays env pick stream w := by
  have hstep : ∀ (log : List (Op × World)) (v : World) (due : Option (List WorkflowEvent))
      (op : Op),
      (∀ call ∈ log, ∀ events ∈ pick call.1 (handle env call.1 call.2).1, due = some events) →
      (relaying pick).allows due op → (relaying pick).replies op (handle env op v).1 ∧
        ∀ call ∈ log ++ [(op, v)], ∀ events ∈ pick call.1 (handle env call.1 call.2).1,
          (relaying pick).next due op (handle env op v).1 = some events := by
    intro log v due op hlog hallowed
    refine ⟨trivial, fun call hcall events hevents => ?_⟩
    rcases List.mem_append.mp hcall with hcall | hcall
    · simp [relaying, hlog call hcall events hevents]
    · obtain rfl := List.mem_singleton.mp hcall
      rcases hallowed with rfl | hnone
      · exact hevents
      · exact absurd hevents (by simp [hnone])
  have hempty : ∀ call ∈ ([] : List (Op × World)),
      ∀ events ∈ pick call.1 (handle env call.1 call.2).1,
      (none : Option (List WorkflowEvent)) = some events := by simp
  obtain ⟨due, hyields, hdue⟩ := h.asked hstep hempty
  intro call hcall events hevents
  exact hyields events (hdue call hcall events hevents)

theorem relaying_stable {due : Option (List WorkflowEvent)} {op : Op}
    (h : ∀ reply, pick op reply = none) :
    Program.Stable (relaying pick) due op :=
  ⟨Or.inr h, fun reply => by simp [relaying, h]⟩

theorem relaying_persistEvents
    (hquiet : ∀ op, isRuntimeCall op = false → ∀ reply, pick op reply = none) (p : Persisting)
    (record : WorkflowRecord) (events : List WorkflowEvent) :
    (persistEvents p record events).Obeys (relaying pick)
      (fun yielded due => ∀ e ∈ due, yielded = e) (some events) := by
  have hstable : ∀ op, persistOp p record op → Program.Stable (relaying pick) (some events) op := by
    intro op hop
    apply relaying_stable
    apply hquiet
    cases op <;> first | rfl | exact absurd hop id
  apply (persistEvents_yields hstable events).mono
  rintro yielded _ ⟨rfl, rfl⟩ e he
  exact Option.some.inj he

theorem relaying_return {due : Option (List WorkflowEvent)} (stream : List WorkflowEvent)
    (h : due = none) :
    (pure stream : Service (List WorkflowEvent)).Obeys (relaying pick)
    (fun yielded due => ∀ e ∈ due, yielded = e)
      due := by
  subst h
  exact Program.obeys_pure (by simp)

end Relaying

def submissionEvents : (op : Op) → op.Reply → Option (List WorkflowEvent)
  | .runtimeSubmitWorkflow _, events => some events
  | _, _ => none

def reorchestrationEvents : (op : Op) → op.Reply → Option (List WorkflowEvent)
  | .runtimeReorchestrate _, events => some events
  | _, _ => none

theorem submissionEvents_quiet (op : Op) (h : isRuntimeCall op = false) (reply : op.Reply) :
    submissionEvents op reply = none := by
  cases op <;> first | rfl | exact absurd h (by simp [isRuntimeCall])

theorem reorchestrationEvents_quiet (op : Op) (h : isRuntimeCall op = false) (reply : op.Reply) :
    reorchestrationEvents op reply = none := by
  cases op <;> first | rfl | exact absurd h (by simp [isRuntimeCall])

theorem submission_other (due : Option (List WorkflowEvent)) (op : Op)
    (h : isRuntimeCall op = false) :
    Program.Stable (relaying submissionEvents) due op :=
  relaying_stable (submissionEvents_quiet op h)

theorem reorchestration_other (due : Option (List WorkflowEvent)) (op : Op)
    (h : isRuntimeCall op = false) :
    Program.Stable (relaying reorchestrationEvents) due op :=
  relaying_stable (reorchestrationEvents_quiet op h)

theorem submitAccepted_relays (request : SubmitWorkflowRequest) :
    (submitAccepted env request).Obeys (relaying submissionEvents)
      (fun yielded due => ∀ e ∈ due, yielded = e)
      none := by
  unfold submitAccepted
  refine Program.obeys_stable (submission_other none _ rfl) fun now _ => ?_
  have hexisting : (existingRecord request).Obeys (relaying submissionEvents)
      (fun _ due => due = none) none := by
    unfold existingRecord
    split_ifs
    · exact Program.obeys_stable (submission_other none _ rfl) fun _ _ => Program.obeys_pure rfl
    · exact Program.obeys_pure rfl
  refine hexisting.bind ?_
  rintro existing _ rfl
  refine Program.obeys_stable (submission_other none _ rfl) fun _ _ => ?_
  refine (publish_stable (submission_other none _ rfl)).bind ?_
  rintro _ _ rfl
  refine Program.obeys_stable (submission_other none _ rfl) fun _ _ => ?_
  refine Program.obeys_perform_bind (Or.inl rfl) fun events _ => ?_
  exact relaying_persistEvents submissionEvents_quiet _ _ events

theorem submit_relays (request : SubmitWorkflowRequest) :
    Relays env submissionEvents (streamSubmitWorkflow env request) w := by
  apply relays_of_obeys
  unfold streamSubmitWorkflow
  dsimp only
  split_ifs
  · exact submitAccepted_relays request
  · refine Program.obeys_stable (submission_other none _ rfl) fun existing _ => ?_
    cases existing with
    | none => exact submitAccepted_relays request
    | some existing =>
      dsimp only
      split_ifs
      · exact relaying_return _ rfl
      · exact relaying_return _ rfl

theorem reorchestrateAccepted_relays (request : ReorchestrateRequest) (record : WorkflowRecord) :
    (reorchestrateAccepted env request record).Obeys (relaying reorchestrationEvents)
      (fun yielded due => ∀ e ∈ due, yielded = e) none := by
  unfold reorchestrateAccepted
  refine Program.obeys_perform_bind (Or.inl rfl) fun events _ => ?_
  exact relaying_persistEvents reorchestrationEvents_quiet _ _ events

theorem hydrate_relays (auth : ClientAuthContext) (workflowId : WorkflowId)
    (config : WorkflowConfig) :
    (hydrate auth workflowId config).Obeys (relaying reorchestrationEvents)
      (fun _ due => due = none) none := by
  refine Program.obeys_stable (reorchestration_other none _ rfl) fun hydrated _ => ?_
  dsimp only
  split_ifs
  · exact Program.obeys_pure rfl
  · refine Program.obeys_stable (relaying_stable fun _ => rfl) fun events _ => ?_
    split_ifs
    · exact Program.obeys_pure rfl
    · exact Program.obeys_stable (reorchestration_other none _ rfl) fun _ _ =>
        Program.obeys_pure rfl

/-- What a re-orchestration yields when it calls the runtime for more than a replay. -/
theorem reorchestrate_relays (request : ReorchestrateRequest) :
    Relays env reorchestrationEvents (streamReorchestrate env request) w := by
  apply relays_of_obeys
  refine Program.obeys_stable (reorchestration_other none _ rfl) fun stored _ => ?_
  cases stored with
  | none => exact relaying_return _ rfl
  | some record =>
    dsimp only
    cases reorchestrateRefusal request record with
    | some message => exact relaying_return _ rfl
    | none =>
      refine (hydrate_relays request.auth request.workflowId record.config).bind ?_
      rintro replayed _ rfl
      cases replayed with
      | some response => exact relaying_return _ rfl
      | none =>
        dsimp only
        split_ifs
        · exact reorchestrateAccepted_relays request record
        · refine Program.obeys_stable (reorchestration_other none _ rfl) fun existing _ => ?_
          cases existing with
          | none => exact reorchestrateAccepted_relays request record
          | some existing =>
            dsimp only
            split_ifs
            · exact relaying_return _ rfl
            · exact relaying_return _ rfl

theorem streamSubmitWorkflow_answers (env : Environment) (w : World)
    (request : SubmitWorkflowRequest) :
    ∃ response, Answers w request.config.id (request.idempotencyKey.getD "")
      (env.submitFingerprint request)
      ((streamSubmitWorkflow env request).run (handle env) w).1 response := by
  by_cases hhit : KeyHit w (request.idempotencyKey.getD "")
  · obtain ⟨existing, hexisting⟩ := Option.isSome_iff_exists.mp hhit.2
    rw [run_submit_existing hhit.1 hexisting]
    split_ifs with hsame
    · exact ⟨_, answers_rejected _⟩
    · exact ⟨_, answers_replayed hexisting (not_not.mp hsame)⟩
  · rw [streamSubmitWorkflow_miss env request w hhit, run_submitAccepted,
      (run_persistEvents_frame env _ _ _ _).1]
    obtain ⟨response, hends, hannounces⟩ := runtimeSubmit_answers env request w.sessions
    exact ⟨response, hends, Or.inl hannounces⟩

theorem reorchestrateGuarded_answers {request : ReorchestrateRequest} {record : WorkflowRecord}
    {v : World}
    (hrun : (hydrate request.auth request.workflowId record.config).run (handle env) w = (none, v))
    (hstore : v.store = w.store) :
    ∃ response, Answers w request.workflowId (request.idempotencyKey.getD "")
      (env.reorchestrateFingerprint request)
      ((reorchestrateGuarded env request record).run (handle env) w).1 response := by
  have haccepted : ∃ response,
      Answers w request.workflowId (request.idempotencyKey.getD "")
        (env.reorchestrateFingerprint request)
        ((reorchestrateAccepted env request record).run (handle env) v).1 response := by
    rw [run_reorchestrateAccepted, (run_persistEvents_frame env _ _ _ _).1]
    obtain ⟨response, hends, hannounces⟩ := runtimeReorchestrate_answers env request v.sessions
    exact ⟨response, hends, Or.inl hannounces⟩
  simp only [reorchestrateGuarded, Program.run_bind, hrun]
  split_ifs with hkey
  · exact haccepted
  · simp only [Program.run_bind, run_getIdempotencyRecord, hstore]
    cases hexisting : w.store.getIdempotencyRecord (request.idempotencyKey.getD "") with
    | none => exact haccepted
    | some existing =>
      dsimp only
      split_ifs with hsame
      · exact ⟨_, answers_rejected _⟩
      · exact ⟨_, answers_replayed hexisting (not_not.mp hsame)⟩

theorem streamReorchestrate_answers (env : Environment) (w : World)
    (request : ReorchestrateRequest) :
    ∃ response, Answers w request.workflowId (request.idempotencyKey.getD "")
      (env.reorchestrateFingerprint request)
      ((streamReorchestrate env request).run (handle env) w).1 response := by
  simp only [streamReorchestrate, Program.run_bind, run_getWorkflow]
  cases w.store.getWorkflow request.workflowId with
  | none => exact ⟨_, answers_rejected _⟩
  | some record =>
    dsimp only
    cases reorchestrateRefusal request record with
    | some message => exact ⟨_, answers_rejected _⟩
    | none =>
      dsimp only
      by_cases hmem : request.workflowId ∈ w.hydrated
      · exact reorchestrateGuarded_answers (run_hydrate_hydrated env hmem) rfl
      · rcases run_hydrate_replay env request.auth record.config hmem with
          ⟨-, hrun⟩ | ⟨-, response, hfailed, hrun⟩
        · exact reorchestrateGuarded_answers hrun rfl
        · simp only [reorchestrateGuarded, Program.run_bind, hrun]
          exact ⟨response, endsWith_singleton rfl, Or.inl (announces_of_failed hfailed)⟩

/-- Where the hydration goes well, the table and the sessions of the store are as they were. -/
theorem hydrate_store {auth : ClientAuthContext} {workflowId : WorkflowId} {config : WorkflowConfig}
    (h : ((hydrate auth workflowId config).run (handle env) w).1 = none) :
    ((hydrate auth workflowId config).run (handle env) w).2.store = w.store := by
  by_cases hmem : workflowId ∈ w.hydrated
  · rw [run_hydrate_hydrated env hmem]
  · rcases run_hydrate_replay env auth config hmem with ⟨-, hrun⟩ | ⟨-, response, -, hrun⟩
    · rw [hrun]
    · rw [hrun] at h
      exact absurd h (by simp)

/-- A re-orchestration that is sent again, and that the guards let through, comes from the table. -/
theorem streamReorchestrate_replayed {request : ReorchestrateRequest} {record : WorkflowRecord}
    {existing : IdempotencyRecord} (hrecord : w.store.getWorkflow request.workflowId = some record)
    (hguards : reorchestrateRefusal request record = none)
    (hhydrated : ((hydrate request.auth request.workflowId record.config).run (handle env) w).1 =
      none)
    (hkey : request.idempotencyKey.getD "" ≠ "")
    (hexisting : w.store.getIdempotencyRecord (request.idempotencyKey.getD "") = some existing)
    (hsame : existing.requestFingerprint = env.reorchestrateFingerprint request) :
    ((streamReorchestrate env request).run (handle env) w).1 =
      replayedStream request.workflowId existing := by
  have hstore := hydrate_store hhydrated
  simp only [streamReorchestrate, reorchestrateGuarded, Program.run_bind, run_getWorkflow, hrecord,
    hguards, hhydrated, if_neg hkey, run_getIdempotencyRecord, hstore, hexisting, hsame, ne_eq,
    not_true_eq_false, if_false, Program.run_pure]

end ControlPlane

def RuntimeAnswers (stream : List WorkflowEvent × App.Sessions)
    (unary : RuntimeApiResponse × App.Sessions) : Prop :=
  EndsWith stream.1 unary.1 ∧ Announces stream.1 unary.1 ∧ stream.2 = unary.2

/-- Every stream has one response, which is its last event and the unary answer. A plan comes after
its assignments, unless it is served from the idempotency table. Through the control plane come the
events of the runtime's answer to the request. A request that is sent again under its key is served
from the table, once the guards have let it through, whatever the stored response is. -/
theorem streams_answer (env : Environment) (w : World) (sessions : App.Sessions)
    (submission : SubmitWorkflowRequest) (reorchestration : ReorchestrateRequest) :
    RuntimeAnswers (App.streamSubmitWorkflow env.security env.optimize submission sessions)
      (App.submitWorkflow env.security env.optimize submission sessions) ∧
    RuntimeAnswers (App.streamReorchestrate env.security env.optimize reorchestration sessions)
      (App.reorchestrate env.security env.optimize reorchestration sessions) ∧
    Answers w submission.config.id (submission.idempotencyKey.getD "")
      (env.submitFingerprint submission)
      ((streamSubmitWorkflow env submission).run (handle env) w).1
      ((submitWorkflow env submission).run (handle env) w).1 ∧
    Relays env submissionEvents (streamSubmitWorkflow env submission) w ∧
    Answers w reorchestration.workflowId (reorchestration.idempotencyKey.getD "")
      (env.reorchestrateFingerprint reorchestration)
      ((streamReorchestrate env reorchestration).run (handle env) w).1
      ((reorchestrate env reorchestration).run (handle env) w).1 ∧
    Relays env reorchestrationEvents (streamReorchestrate env reorchestration) w ∧
    (∀ existing, submission.idempotencyKey.getD "" ≠ "" →
      w.store.getIdempotencyRecord (submission.idempotencyKey.getD "") = some existing →
      existing.requestFingerprint = env.submitFingerprint submission →
        ((streamSubmitWorkflow env submission).run (handle env) w).1 =
          replayedStream submission.config.id existing) ∧
    ∀ record existing, w.store.getWorkflow reorchestration.workflowId = some record →
      reorchestrateRefusal reorchestration record = none →
      ((hydrate reorchestration.auth reorchestration.workflowId record.config).run
        (handle env) w).1 = none →
      reorchestration.idempotencyKey.getD "" ≠ "" →
      w.store.getIdempotencyRecord (reorchestration.idempotencyKey.getD "") = some existing →
      existing.requestFingerprint = env.reorchestrateFingerprint reorchestration →
        ((streamReorchestrate env reorchestration).run (handle env) w).1 =
          replayedStream reorchestration.workflowId existing := by
  obtain ⟨submitted, hsubmitted, hsubmittedPlan⟩ := runtimeSubmit_answers env submission sessions
  obtain ⟨replanned, hreplanned, hreplannedPlan⟩ :=
    runtimeReorchestrate_answers env reorchestration sessions
  have hsubmit : (App.submitWorkflow env.security env.optimize submission sessions).1 = submitted :=
    hsubmitted.foldl _
  have hreorchestrate : (App.reorchestrate env.security env.optimize reorchestration sessions).1 =
      replanned :=
    hreplanned.foldl _
  refine ⟨⟨hsubmit ▸ hsubmitted, hsubmit ▸ hsubmittedPlan, rfl⟩,
    ⟨hreorchestrate ▸ hreplanned, hreorchestrate ▸ hreplannedPlan, rfl⟩,
    ?_, submit_relays submission, ?_, reorchestrate_relays reorchestration, ?_, ?_⟩
  · obtain ⟨response, hends, hannounces⟩ := streamSubmitWorkflow_answers env w submission
    have hunary : ((submitWorkflow env submission).run (handle env) w).1 = response := by
      simp only [submitWorkflow, Program.run_bind, Program.run_pure]
      exact hends.foldl _
    rw [hunary]
    exact ⟨hends, hannounces⟩
  · obtain ⟨response, hends, hannounces⟩ := streamReorchestrate_answers env w reorchestration
    have hunary : ((reorchestrate env reorchestration).run (handle env) w).1 = response := by
      simp only [reorchestrate, Program.run_bind, Program.run_pure]
      exact hends.foldl _
    rw [hunary]
    exact ⟨hends, hannounces⟩
  · intro existing hkey hexisting hsame
    rw [run_submit_existing hkey hexisting, if_neg (not_not.mpr hsame)]
  · intro record existing hrecord hguards hhydrated hkey hexisting hsame
    exact streamReorchestrate_replayed hrecord hguards hhydrated hkey hexisting hsame

def oneTaskSubmission : SubmitWorkflowRequest where
  config :=
    { id := "w"
      actors := [{ id := "actor", windows := [{ start := 0, stop := 10 }] }]
      tasks := [{ id := "task", duration := 5, deadline := 10 }] }
  idempotencyKey := some "key"

def oneTaskEnvironment : Environment :=
  { openEnvironment with
    optimize :=
      fun _ => { assignments := [{ taskId := "task", actorId := "actor", startTime := 0 }] } }

/-- The second submission is answered with the plan and no assignment is announced. -/
theorem resubmission_not_announced :
    ¬ ∃ response,
      EndsWith
      ((streamSubmitWorkflow oneTaskEnvironment oneTaskSubmission).run (handle oneTaskEnvironment)
        (serve oneTaskEnvironment (.submit oneTaskSubmission) newDatabase).2).1 response ∧
      Announces
      ((streamSubmitWorkflow oneTaskEnvironment oneTaskSubmission).run (handle oneTaskEnvironment)
        (serve oneTaskEnvironment (.submit oneTaskSubmission) newDatabase).2).1 response := by
  rintro ⟨response, hends, hannounces⟩
  have hstream :
    ((streamSubmitWorkflow oneTaskEnvironment oneTaskSubmission).run (handle oneTaskEnvironment)
      (serve oneTaskEnvironment (.submit oneTaskSubmission) newDatabase).2).1 =
      [makeResponseEvent .runFinished "w"
        { ok := true,
          result :=
            { ok := true,
              assignments :=
                [{ taskId := "task", actorId := "actor", startTime := 0, endTime := 5 }] } }
        "Idempotent replay served from durable control plane."] := by decide
  rw [hstream] at hends hannounces
  obtain rfl := hends.foldl {}
  exact absurd (hannounces rfl) (by decide)

end TaskOrchestrator.System
