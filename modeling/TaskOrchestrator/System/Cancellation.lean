import TaskOrchestrator.System.StoredRecords

/-!
# Cancelled workflows

A cancelled workflow should stay cancelled, without new plan versions, until it is submitted
again. Re-orchestrations check for the state and recoveries pass it over; a pause and a
resume overwrite it.
-/

namespace TaskOrchestrator.System

open Protocol Library ControlPlane

set_option autoImplicit false

def NotSubmitting (id : WorkflowId) (_ : World) (step : Step) : Prop :=
  ∀ request ∈ step.served, request.submittedId ≠ some id

/-- From every state of the run in which a workflow is cancelled, and along every continuation
that does not submit it, the workflow stays cancelled and gets no plan version. -/
def CancellationPermanent (env : Environment) (steps : List Step) (w : World) : Prop :=
  ∀ before after id, steps = before ++ after → Cancelled id (runWorld env before w) →
    Meets env (NotSubmitting id) after (runWorld env before w) →
    (∀ v ∈ reached env after (runWorld env before w), Cancelled id v) ∧
    ∀ call ∈ runLog env after (runWorld env before w), ∀ version, call.1 ≠
      .writePlanVersion id version

def RespectsCancelled (w : World) (step : Step) : Prop :=
  ∀ request ∈ step.served, ∀ id ∈ request.pausedOrResumedId, ¬ Cancelled id w

section Runs

variable {env : Environment}

theorem step_cancelled {step : Step} {w : World} {id : WorkflowId} (hsound : RecordsSound w)
    (hcancelled : Cancelled id w) (hsubmits : NotSubmitting id w step)
    (hrespects : RespectsCancelled w step) :
    Cancelled id (step.next env w) ∧
      ∀ call ∈ step.log env w, ∀ version, call.1 ≠ .writePlanVersion id version := by
  have hfrozen : GuardedWorld ⟨fun other => other = id, fun _ => False⟩ [] w := by
    refine ⟨hsound, ?_, fun _ h => h.elim, fun _ h => absurd h (by simp)⟩
    rintro other rfl
    exact hcancelled
  have hnext : GuardedWorld ⟨fun other => other = id, fun _ => False⟩ (step.log env w)
      (step.next env w) := by
    apply step_guarded hfrozen
    · rintro request hserved other hother rfl
      exact hsubmits request hserved hother
    · rintro request hserved other hother rfl
      exact hrespects request hserved other hother hcancelled
    · intro request hserved r hkept
      exact hkept.elim
  exact ⟨hnext.cancelled id rfl, fun call hcall version heq =>
    hnext.log call hcall id version heq rfl⟩

theorem run_cancelled {steps : List Step} {w : World} {id : WorkflowId} (hsound : RecordsSound w)
    (hcancelled : Cancelled id w) (hsubmits : Meets env (NotSubmitting id) steps w)
    (hrespects : Meets env RespectsCancelled steps w) :
    (∀ v ∈ reached env steps w, Cancelled id v) ∧
      ∀ call ∈ runLog env steps w, ∀ version, call.1 ≠ .writePlanVersion id version := by
  induction steps generalizing w with
  | nil =>
    refine ⟨fun v hv => ?_, fun _ h => absurd h (by simp [runLog])⟩
    obtain rfl := List.mem_singleton.mp hv
    exact hcancelled
  | cons step rest ih =>
    obtain ⟨hnext, hlog⟩ := step_cancelled hsound hcancelled hsubmits.1 hrespects.1
    obtain ⟨hrest, hrestLog⟩ := ih (step_recordsSound hsound) hnext hsubmits.2 hrespects.2
    constructor
    · intro v hv
      rcases List.mem_cons.mp hv with rfl | hv
      · exact hcancelled
      · exact hrest v hv
    · intro call hcall
      rcases List.mem_append.mp hcall with hcall | hcall
      · exact hlog call hcall
      · exact hrestLog call hcall

theorem Meets.drop {condition : World → Step → Prop} {before after : List Step} {w : World}
    (h : Meets env condition (before ++ after) w) :
    Meets env condition after (runWorld env before w) := by
  induction before generalizing w with
  | nil => exact h
  | cons step rest ih => exact ih h.2

end Runs

/-- Cancellation is permanent along every run in which no cancelled workflow is paused or
resumed. -/
theorem cancellation_permanent (env : Environment) (bootId : String) (clock : Nat → Int)
    (steps : List Step) (hmeets : Meets env RespectsCancelled steps (.initial bootId clock)) :
    CancellationPermanent env steps (.initial bootId clock) := by
  rintro before after id rfl hcancelled hsubmits
  have hsound : RecordsSound (runWorld env before (.initial bootId clock)) :=
    runWorld_recordsSound (initial_recordsSound bootId clock)
  exact run_cancelled hsound hcancelled hsubmits hmeets.drop

def cancelRun : List Step :=
  [.request (.submit { config := { id := "w" } }), .request (.cancel { workflowId := "w" })]

def restartedSteps : List Step :=
  [.restart "second boot", .request (.recover {}), .request (.reorchestrate { workflowId := "w" })]

def revivingSteps : List Step :=
  [.request (.pause { workflowId := "w" }), .request (.resume { workflowId := "w" }),
    .request (.reorchestrate { workflowId := "w" })]

theorem cancellation_permanent_restarted :
    Meets openEnvironment RespectsCancelled (cancelRun ++ restartedSteps) newDatabase ∧
      CancellationPermanent openEnvironment (cancelRun ++ restartedSteps) newDatabase := by
  have hmeets : Meets openEnvironment RespectsCancelled
      (cancelRun ++ restartedSteps) newDatabase := by
    refine ⟨?_, ?_, ?_, ?_, ?_, trivial⟩ <;>
    · intro request hserved id hid
      cases hserved <;> cases hid
  exact ⟨hmeets, cancellation_permanent openEnvironment "boot" (fun reading => reading) _ hmeets⟩

/-- The pause overwrites the state, and after the resume the cancelled workflow is planned again. -/
theorem pause_resume_revives_cancelled :
    ¬ CancellationPermanent openEnvironment (cancelRun ++ revivingSteps) newDatabase := by
  intro h
  have hsubmits : Meets openEnvironment (NotSubmitting "w") revivingSteps
      (runWorld openEnvironment cancelRun newDatabase) := by
    refine ⟨?_, ?_, ?_, trivial⟩ <;>
    · intro request hserved
      cases hserved
      simp [Request.submittedId]
  obtain ⟨hreached, -⟩ := h cancelRun revivingSteps "w" rfl (by decide) hsubmits
  have hlast := hreached (runWorld openEnvironment (cancelRun ++ revivingSteps) newDatabase)
    (by simp [cancelRun, revivingSteps, reached, runWorld])
  exact absurd hlast (by decide)

end TaskOrchestrator.System
