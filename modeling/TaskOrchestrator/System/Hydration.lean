import TaskOrchestrator.System.Sessions

/-!
# Hydration tracking

`hydrated_workflows_` is the control plane's record of which workflows the runtime knows. It
is written before the runtime has decided a submission, and after a recovery whatever the
runtime answered, so it is right only as long as the runtime accepts what it is given or has
a session already.
-/

namespace TaskOrchestrator.System

open Protocol Library ControlPlane

set_option autoImplicit false

/-- A re-orchestration of a stored workflow with good credentials that no guard on the record
refuses and that is not answered from the idempotency table. -/
structure Eligible (env : Environment) (w : World) (request : ReorchestrateRequest)
    (record : WorkflowRecord) :
    Prop where
  authorized : authorized env request.auth = true
  stored : w.store.getWorkflow request.workflowId = some record
  admitted : reorchestrateRefusal request record = none
  miss : ¬ KeyHit w (request.idempotencyKey.getD "")

/-- The request reaches the application of its overrides: it finds a session, yields an event for
each override, then the events of a run that is not rejected, and leaves the session with the
overrides. -/
def AppliesOverrides (env : Environment) (w : World) (request : ReorchestrateRequest) : Prop :=
  ∃ session rest, Overrides env w request session ∧
    (serve env (.reorchestrate request) w).1 =
      .events (request.taskOverrides.map (App.taskOverrideEvent request.workflowId) ++
        request.actorOverrides.map (App.actorOverrideEvent request.workflowId) ++ rest) ∧
    (∀ event ∈ rest, event.type ≠ .requestRejected) ∧
    (serve env (.reorchestrate request) w).2.sessions.lookup request.workflowId =
      some (App.applyOverrides request session)

/-- The session exists, or a replay of the stored configuration finds a plan. -/
def Replayable (env : Environment) (w : World) (request : ReorchestrateRequest)
    (record : WorkflowRecord) :
    Prop :=
  request.workflowId ∈ w.hydrated ∨ (env.optimize (App.toAppWorkflow record.config)).ok = true

section Eligible

variable {env : Environment} {w : World} {request : ReorchestrateRequest} {record : WorkflowRecord}

theorem Eligible.reachesRuntime (h : Eligible env w request record)
    (hreplay : Replayable env w request record) :
    ReachesRuntime env w request record := by
  refine ⟨h.stored, h.admitted, hreplay.imp_right fun hok => ?_, h.miss⟩
  simp [replaySucceeds, h.authorized, hok]

theorem Eligible.session (h : Eligible env w request record) (hkeyed : ConfigsKeyed w)
    (hw : Hydrated w) :
    ∃ session, (hydratedWorld env request record w).sessions.lookup request.workflowId =
      some session := by
  rw [hydratedWorld_sessions]
  split_ifs with hmem
  · exact Option.isSome_iff_exists.mp (hw _ hmem)
  · have hid := hkeyed _ _ (storedConfig_of_getWorkflow h.stored)
    exact ⟨_, by rw [lookup_replayedSessions, if_pos ⟨h.authorized, hid⟩]⟩

theorem planningEvents_not_rejected (result : App.RunResult) (config : App.WorkflowConfig)
    (workflowId : WorkflowId) (detail : String) :
    ∀ event ∈ App.planningEvents result config workflowId detail, event.type ≠
    .requestRejected := by
  intro event hevent
  rcases List.mem_append.mp hevent with hplanned | hfinished
  · obtain ⟨assignment, -, rfl⟩ := List.mem_map.mp hplanned
    simp [App.makeEvent]
  · obtain rfl := List.mem_singleton.mp hfinished
    simp [App.makeResponseEvent, App.makeEvent]

theorem Eligible.appliesOverrides (h : Eligible env w request record) (hkeyed : ConfigsKeyed w)
    (hw : Hydrated w) (hreplay : Replayable env w request record) :
    AppliesOverrides env w request := by
  have hreaches := h.reachesRuntime hreplay
  obtain ⟨session, hsession⟩ := h.session hkeyed hw
  have haccepted := runtimeReorchestrate_accepted env h.authorized hsession
  obtain ⟨-, hsessions, -⟩ := streamReorchestrate_reached env hreaches
  have hstream : ((streamReorchestrate env request).run (handle env) w).1 =
      (App.streamReorchestrate env.security env.optimize request
        (hydratedWorld env request record w).sessions).1 := by
    rw [run_streamReorchestrate_reaches env hreaches, run_reorchestrateAccepted]
    exact (run_persistEvents_frame env _ _ _ _).1
  simp only [AppliesOverrides, serve, Request.program, Program.run_map]
  rw [hstream, hsessions, haccepted]
  refine ⟨session, _, ⟨h.authorized, record, hreaches, hsession⟩, rfl, ?_, ?_⟩
  · intro event hevent
    split_ifs at hevent
    · rcases List.mem_cons.mp hevent with rfl | hevent
      · simp [App.makeEvent]
      · exact planningEvents_not_rejected _ _ _ _ event hevent
    · obtain rfl := List.mem_singleton.mp hevent
      simp [App.makeResponseEvent, App.makeEvent]
  · rw [Dictionary.lookup_assign]
    exact if_pos rfl

end Eligible

/-- A submission that is not answered from the idempotency table has good credentials or finds
a session, a recovery has good credentials or finds every session it is for, and an eligible
re-orchestration finds its workflow hydrated or its stored configuration feasible. -/
def TracksSessions (env : Environment) (w : World) : Step → Prop
  | .request request =>
    (∀ submission ∈ request.submission w, KeyHit w (submission.idempotencyKey.getD "") ∨
      authorized env submission.auth = true ∨
        (w.sessions.lookup submission.config.id).isSome = true) ∧
    (∀ auth, request = .recover auth → authorized env auth = true ∨
      ∀ id record, w.store.getWorkflow id = some record →
      skippedByRecovery record.summary.state = false →
        (w.sessions.lookup id).isSome = true) ∧
    (∀ reorchestration record, request = .reorchestrate reorchestration →
      Eligible env w reorchestration record → Replayable env w reorchestration record)
  | .restart _ => True
  | .crash _ _ _ => True

section Steps

variable {env : Environment} {w w' : World}

theorem Submitted.hydrated {request : SubmitWorkflowRequest} (h : Submitted env request w w')
    (htracks : KeyHit w (request.idempotencyKey.getD "") ∨ authorized env request.auth = true ∨
      (w.sessions.lookup request.config.id).isSome = true) (hw : Hydrated w) : Hydrated w' := by
  intro id hid
  rcases h with ⟨-, -, hsessions, hhydrated⟩ | ⟨hmiss, -, hsessions, hhydrated⟩
  · rw [hsessions]
    exact hw id (hhydrated ▸ hid)
  · rw [hhydrated, List.mem_insert_iff] at hid
    rw [hsessions]
    split_ifs with haccepts
    · rw [Dictionary.lookup_assign]
      split_ifs with hsame
      · rfl
      · rcases hid with rfl | hold
        · exact absurd rfl hsame
        · exact hw id hold
    · rcases hid with rfl | hold
      · rcases htracks with hhit | hauth | hsome
        · exact absurd hhit hmiss
        · -- With good credentials only an existing session is a reason to reject.
          simp only [runtimeAccepts, hauth, Bool.true_and, Bool.or_eq_true, not_or] at haccepts
          simpa [Option.isSome_iff_ne_none] using haccepts.2
        · exact hsome
      · exact hw id hold

theorem Reorchestrated.hydrated {request : ReorchestrateRequest}
    (h : Reorchestrated env request w w') (hw : Hydrated w) : Hydrated w' := by
  obtain ⟨v, hrefreshes, hjustified, -, -, hhydrated, hsessions⟩ := h
  have hv : Hydrated v := hjustified.hydrated hrefreshes hw
  intro id hid
  rw [hhydrated] at hid
  rcases hsessions with ⟨-, hsame⟩ | ⟨session, -, -, hnew⟩
  · rw [hsame]
    exact hv id hid
  · rw [hnew, Dictionary.lookup_assign]
    split_ifs
    · rfl
    · exact hv id hid

theorem restart_hydrated (w : World) (bootId : String) : Hydrated (w.restart bootId) := by
  intro id hid
  exact absurd hid (by simp [World.restart])

theorem step_hydrated {step : Step} (hw : RecordsSound w ∧ Hydrated w)
    (hstep : TracksSessions env w step) :
    RecordsSound (step.next env w) ∧ Hydrated (step.next env w) := by
  obtain ⟨hsound, hhydrated⟩ := hw
  have hkeyed := hsound.keyed
  refine ⟨step_recordsSound hsound, ?_⟩
  cases step with
  | crash r n bootId => exact restart_hydrated _ bootId
  | restart bootId => exact restart_hydrated w bootId
  | request request =>
    obtain ⟨hsubmits, hrecovers, -⟩ := hstep
    change Hydrated (serve env request w).2
    cases hsubmission : request.submission w with
    | some submission =>
      exact (serve_submission env hsubmission).hydrated (hsubmits _ hsubmission) hhydrated
    | none =>
      cases hreorchestration : request.reorchestration with
      | some reorchestration =>
        exact (serve_reorchestration env hkeyed hreorchestration).hydrated hhydrated
      | none =>
        obtain ⟨hrefreshes, hsame⟩ := serve_other env hkeyed hsubmission hreorchestration
        by_cases hrecover : ∃ auth, request = .recover auth
        · obtain ⟨auth, rfl⟩ := hrecover
          have hjustified := recoverActiveWorkflows_justified env auth hkeyed (hrecovers auth rfl)
          simp only [serve, Request.program, Program.run_map] at hrefreshes ⊢
          exact hjustified.hydrated hrefreshes hhydrated
        · have hjustified := Justified.of_same (hsame fun auth h => hrecover ⟨auth, h⟩).1
          exact hjustified.hydrated hrefreshes hhydrated

end Steps

/-- Every eligible re-orchestration of the run reaches the application of its overrides. -/
def ServesEligible (env : Environment) (w : World) (step : Step) : Prop :=
  ∀ request record, step = .request (.reorchestrate request) → Eligible env w request record →
    AppliesOverrides env w request

/-- In every state between two steps every hydrated workflow has a session, and every eligible
re-orchestration applies its overrides. -/
def HydrationTruthful (env : Environment) (steps : List Step) (w : World) : Prop :=
  (∀ v ∈ reached env steps w, Hydrated v) ∧ Meets env (ServesEligible env) steps w

theorem hydration_truthful (env : Environment) (bootId : String) (clock : Nat → Int)
    (steps : List Step) (hmeets : Meets env (TracksSessions env) steps (.initial bootId clock)) :
    HydrationTruthful env steps (.initial bootId clock) := by
  have hinitial : RecordsSound (.initial bootId clock) ∧ Hydrated (.initial bootId clock) := by
    refine ⟨initial_recordsSound bootId clock, fun id hid => ?_⟩
    exact absurd hid (by simp [World.initial])
  constructor
  · intro v hv
    exact (reached_preserves (fun w step hw hstep => step_hydrated hw hstep) hmeets hinitial v hv).2
  · refine Meets.of_invariant (fun w step hw hstep => step_hydrated hw hstep) ?_ hmeets hinitial
    rintro w step ⟨hsound, hhydrated⟩ hstep request record rfl heligible
    obtain ⟨-, -, hreplay⟩ := hstep
    exact heligible.appliesOverrides hsound.keyed hhydrated (hreplay request record rfl heligible)

/-- A submission with the given token, then a re-orchestration with the right one. -/
def credentialsRun (bearerToken : String) : List Step :=
  [.request (.submit { config := { id := "w" }, auth := { bearerToken := bearerToken } }),
    .request (.reorchestrate { workflowId := "w", auth := { bearerToken := "secret" } })]

theorem hydration_truthful_right_token :
    Meets tokenEnvironment (TracksSessions tokenEnvironment) (credentialsRun "secret") newDatabase ∧
      HydrationTruthful tokenEnvironment (credentialsRun "secret") newDatabase := by
  have hmeets : Meets tokenEnvironment (TracksSessions tokenEnvironment) (credentialsRun "secret")
      newDatabase := by
    refine ⟨⟨?_, ?_, ?_⟩, ⟨?_, ?_, ?_⟩, trivial⟩
    · intro submission hsubmission
      obtain rfl := Option.some.inj hsubmission
      exact Or.inr (Or.inl rfl)
    · intro auth h
      cases h
    · intro request record h
      cases h
    · intro submission hsubmission
      exact absurd hsubmission (by simp [Request.submission])
    · intro auth h
      cases h
    · intro request record h heligible
      exact Or.inr rfl
  exact ⟨hmeets, hydration_truthful tokenEnvironment "boot" (fun reading => reading) _ hmeets⟩

/-- The submission with a wrong token is rejected and leaves its id among the hydrated ones. -/
theorem rejected_submission_hydrated :
    ¬ HydrationTruthful tokenEnvironment (credentialsRun "wrong") newDatabase := by
  intro h
  have hlast := h.1 (runWorld tokenEnvironment (credentialsRun "wrong") newDatabase)
    (by simp [credentialsRun, reached, runWorld])
  exact absurd (hlast "w" (by decide)) (by decide)

end TaskOrchestrator.System
