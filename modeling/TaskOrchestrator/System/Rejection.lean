import TaskOrchestrator.System.Effects

/-!
# Rejected submissions

A submission stores its configuration, in a record that is new or reused, before the runtime
has decided, and the rejection is then recorded in that record. What is left of the record
that was stored before is compared here field by field.
-/

namespace TaskOrchestrator.System

open Protocol Library ControlPlane

set_option autoImplicit false

/-- The stored record and the plan versions are as they were before the submission, and no
counter went down. -/
def SubmissionHarmless (env : Environment) (request : SubmitWorkflowRequest) (w : World)
    (stored : WorkflowRecord) :
    Prop :=
  (serve env (.submit request) w).2.store.planVersions = w.store.planVersions ∧
  ∃ after, (serve env (.submit request) w).2.store.getWorkflow request.config.id = some after ∧
    after.config = stored.config ∧
    after.summary.state = stored.summary.state ∧
    after.summary.createdAtUnixMs = stored.summary.createdAtUnixMs ∧
    after.summary.latestPlanVersion = stored.summary.latestPlanVersion ∧
    after.latestResponse = stored.latestResponse ∧
    stored.summary.totalEventCount ≤ after.summary.totalEventCount ∧
    stored.summary.totalAuditEntryCount ≤ after.summary.totalAuditEntryCount

/-- What a rejected submission leaves: the plan versions, and the record of the rejection. A
request that sets `replace_existing` reuses the stored record for it. -/
structure RejectionRecorded (env : Environment) (request : SubmitWorkflowRequest) (w : World)
    (stored after : WorkflowRecord) : Prop where
  planVersions : (serve env (.submit request) w).2.store.planVersions = w.store.planVersions
  record : (serve env (.submit request) w).2.store.getWorkflow request.config.id = some after
  state : after.summary.state = .failed
  latestResponse : after.latestResponse = some (rejection env request)
  createdAtUnixMs : request.replaceExisting = some true → request.config.id ≠ "" →
    after.summary.createdAtUnixMs = stored.summary.createdAtUnixMs
  latestPlanVersion : request.replaceExisting = some true →
    after.summary.latestPlanVersion = stored.summary.latestPlanVersion
  totalEventCount : request.replaceExisting = some true →
    stored.summary.totalEventCount ≤ after.summary.totalEventCount
  totalAuditEntryCount : request.replaceExisting = some true →
    stored.summary.totalAuditEntryCount ≤ after.summary.totalAuditEntryCount

section Rejected

variable {env : Environment} {request : SubmitWorkflowRequest} {w : World}

def rejectionEvent (env : Environment) (request : SubmitWorkflowRequest) : WorkflowEvent :=
  App.makeResponseEvent .requestRejected request.config.id (rejection env request)
    (rejection env request).errorMessage

def rejectedRecord (env : Environment) (request : SubmitWorkflowRequest) (w : World) :
    WorkflowRecord :=
  recordEvent (w.clock (w.ticks + 1))
    (submittedRecord request (w.clock w.ticks) (lookedUp request w))
    (rejectionEvent env request)

theorem submitStream_rejected (hrejected : runtimeAccepts env request w.sessions = false) :
    submitStream env request w = [rejectionEvent env request] := by
  rw [submitStream, (runtimeSubmit_rejected env hrejected).2]
  rfl

theorem serve_rejected_getWorkflow (hmiss : ¬ KeyHit w (request.idempotencyKey.getD ""))
    (hrejected : runtimeAccepts env request w.sessions = false) :
    (serve env (.submit request) w).2.store.getWorkflow request.config.id =
      some (rejectedRecord env request w) := by
  simp only [serve, Request.program, Program.run_map]
  rw [streamSubmitWorkflow_miss env request w hmiss, submitAccepted_getWorkflow, if_pos rfl,
    submitStream_rejected hrejected]
  rfl

theorem rejection_not_plan (hrejected : runtimeAccepts env request w.sessions = false) :
    (rejectionEvent env request).response.any carriesPlan = false := by
  simp [rejectionEvent, App.makeResponseEvent, carriesPlan,
    (runtimeSubmit_rejected env hrejected).1]

theorem serve_rejected_planVersions (hmiss : ¬ KeyHit w (request.idempotencyKey.getD ""))
    (hrejected : runtimeAccepts env request w.sessions = false) :
    (serve env (.submit request) w).2.store.planVersions = w.store.planVersions := by
  simp only [serve, Request.program, Program.run_map]
  rw [streamSubmitWorkflow_miss env request w hmiss, run_submitAccepted,
    submitStream_rejected hrejected, run_persistEvents_planVersions]
  · rfl
  · intro event hevent
    obtain rfl := List.mem_singleton.mp hevent
    exact rejection_not_plan hrejected

theorem rejectedRecord_state : (rejectedRecord env request w).summary.state = .failed := by
  simp [rejectedRecord, rejectionEvent, stateForEvent, App.makeResponseEvent, App.makeEvent]

theorem rejectedRecord_latestResponse :
    (rejectedRecord env request w).latestResponse = some (rejection env request) := by
  simp [rejectedRecord, rejectionEvent, App.makeResponseEvent]

theorem rejectedRecord_latestPlanVersion
    (hrejected : runtimeAccepts env request w.sessions = false) :
    (rejectedRecord env request w).summary.latestPlanVersion =
      ((lookedUp request w).getD {}).summary.latestPlanVersion := by
  simp [rejectedRecord, recordEvent_latestPlanVersion, rejection_not_plan hrejected]

theorem rejectedRecord_createdAtUnixMs :
    (rejectedRecord env request w).summary.createdAtUnixMs =
      if ((lookedUp request w).getD {}).summary.workflowId = "" then w.clock w.ticks
      else ((lookedUp request w).getD {}).summary.createdAtUnixMs := by
  simp [rejectedRecord, submittedRecord_createdAtUnixMs]

theorem rejectedRecord_counters :
    (rejectedRecord env request w).summary.totalEventCount =
      ((lookedUp request w).getD {}).summary.totalEventCount + 1 ∧
    (rejectedRecord env request w).summary.totalAuditEntryCount =
      ((lookedUp request w).getD {}).summary.totalAuditEntryCount := by
  simp [rejectedRecord]

theorem lookedUp_replacing {stored : WorkflowRecord}
    (hstored : w.store.getWorkflow request.config.id = some stored)
    (hreplace : request.replaceExisting = some true) : lookedUp request w = some stored := by
  simp [lookedUp, hreplace, hstored]

/-- A rejected submission leaves the plan versions and the record of its rejection. -/
theorem rejected_submission_recorded (env : Environment) (request : SubmitWorkflowRequest)
    (w : World) (stored : WorkflowRecord)
    (hstored : w.store.getWorkflow request.config.id = some stored)
    (hmiss : ¬ KeyHit w (request.idempotencyKey.getD ""))
    (hrejected : runtimeAccepts env request w.sessions = false) :
    ∃ after, RejectionRecorded env request w stored after := by
  have hid := Store.workflowId_of_getWorkflow hstored
  refine ⟨rejectedRecord env request w, ?_⟩
  constructor
  · exact serve_rejected_planVersions hmiss hrejected
  · exact serve_rejected_getWorkflow hmiss hrejected
  · exact rejectedRecord_state
  · exact rejectedRecord_latestResponse
  · intro hreplace hnonempty
    rw [rejectedRecord_createdAtUnixMs, lookedUp_replacing hstored hreplace]
    simp [hid, hnonempty]
  · intro hreplace
    rw [rejectedRecord_latestPlanVersion hrejected, lookedUp_replacing hstored hreplace]
    rfl
  · intro hreplace
    rw [rejectedRecord_counters.1, lookedUp_replacing hstored hreplace]
    exact Int.le_add_one (le_refl _)
  · intro hreplace
    rw [rejectedRecord_counters.2, lookedUp_replacing hstored hreplace]
    exact le_refl _

end Rejected

/-- The state after a workflow was submitted with the token and planned. -/
def plannedWorld : World :=
  runWorld tokenEnvironment
    [.request (.submit { config := { id := "w" }, auth := { bearerToken := "secret" } })]
      newDatabase

def tokenlessRequest : SubmitWorkflowRequest :=
  { config := { id := "w" }, replaceExisting := some true }

theorem rejected_submission_recorded_tokenless :
    ∃ stored, plannedWorld.store.getWorkflow "w" = some stored ∧
      runtimeAccepts tokenEnvironment tokenlessRequest plannedWorld.sessions = false ∧
      ∃ after, RejectionRecorded tokenEnvironment tokenlessRequest plannedWorld stored after :=
  ⟨_, rfl, by decide, rejected_submission_recorded tokenEnvironment tokenlessRequest plannedWorld
    _ rfl (by decide) (by decide)⟩

/-- The planned workflow is FAILED after the submission. -/
theorem rejected_submission_fails_workflow :
    ∃ stored, plannedWorld.store.getWorkflow "w" = some stored ∧
      runtimeAccepts tokenEnvironment tokenlessRequest plannedWorld.sessions = false ∧
      ¬ SubmissionHarmless tokenEnvironment tokenlessRequest plannedWorld stored := by
  refine ⟨_, rfl, by decide, ?_⟩
  rintro ⟨-, after, hafter, -, hstate, -⟩
  have hfailed :
      ((serve tokenEnvironment (.submit tokenlessRequest) plannedWorld).2.store.getWorkflow "w").map
      (fun r => r.summary.state) = some .failed := by decide
  change (serve tokenEnvironment _ plannedWorld).2.store.getWorkflow "w" = some after at hafter
  rw [hafter] at hfailed
  exact absurd (hstate.symm.trans (Option.some.inj hfailed)) (by decide)

end TaskOrchestrator.System
