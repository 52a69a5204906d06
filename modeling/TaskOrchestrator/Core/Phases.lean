import TaskOrchestrator.Core.Dispatching

/-!
# Completing a phase

A phase that completes takes the planner to its running state, in which a tick dispatches
and does not plan. So the phases that became ready are planned by the next tick only if a plan
was asked for already, or the planner is idle or is sent there by the count of phases.
-/

namespace TaskOrchestrator.Core

open Library

set_option autoImplicit false

theorem processEvent_ne_completing {last : PlannerState} (h : last ≠ .completing)
    (event : PlannerEvent) :
    last.processEvent event ≠ .completing := by
  cases last <;> cases event <;> first | decide | exact absurd rfl h

namespace Orchestrator

theorem stateAfterPlanning_ne_completing (schedule : ScheduleResult) :
    stateAfterPlanning schedule ≠ .completing := by
  unfold stateAfterPlanning
  split_ifs <;> decide

theorem fsm_apply_ne_completing {o : Orchestrator} (h : o.fsm ≠ .completing) (op : Operation) :
    (o.apply op).fsm ≠ .completing := by
  cases op with
  | start hash =>
    obtain ⟨fsm, heq, hfsm⟩ := o.start_eq hash
    rw [Orchestrator.apply, heq]
    exact hfsm h ▸ stateAfterPlanning_ne_completing _
  | tick hash now =>
    rw [Orchestrator.apply]
    rcases o.tick_eq hash now with ⟨-, fsm, heq, hfsm⟩ | ⟨-, -, heq⟩ | ⟨-, -, heq⟩
    · rw [heq]
      exact hfsm h ▸ stateAfterPlanning_ne_completing _
    · rw [heq]
      exact PlannerState.noConfusion
    · rw [heq]
      exact h
  | setActorUnavailable actorId unavailable =>
    simp only [Orchestrator.apply, setActorUnavailable]
    split_ifs
    all_goals exact h
  | notifyTaskFailed taskId resumable =>
    obtain ⟨registry, taskActor, actorLoad, heq, -⟩ :=
      o.withdraw_eq taskId (eraseValue o.workflowState.completedTasks taskId)
    simp only [Orchestrator.apply, notifyTaskFailed, heq]
    split_ifs
    all_goals exact h
  | notifyTaskCompleted taskId actualCompletionTime =>
    obtain ⟨registry, taskActor, actorLoad, heq, -⟩ :=
      o.withdraw_eq taskId (pushNew o.workflowState.completedTasks taskId)
    simp only [Orchestrator.apply, notifyTaskCompleted, heq]
    exact h
  | completePhase phaseId =>
    simp only [Orchestrator.apply, completePhase]
    split_ifs
    · exact processEvent_ne_completing (processEvent_ne_completing h _) _
    · exact processEvent_ne_completing h _
  | setWorkflow w => exact h
  | registerActor a => exact h
  | setSchedulingStrategy strategy => exact h
  | setActorRankingProfile profile => exact h
  | markTaskResumable taskId => exact h

theorem fsm_run_ne_completing (operations : List Operation) :
    (({} : Orchestrator).run operations).fsm ≠ .completing := by
  have hmeets : Meets Orchestrator.apply (fun _ _ => True) {} operations :=
    meets_of_forall Orchestrator.apply {} fun _ _ => trivial
  exact hmeets.invariant (P := fun o => o.fsm ≠ .completing) (by decide)
    fun o op ho _ => fsm_apply_ne_completing ho op

/-- The planner is idle after a phase was completed if it was, or if as many phases were
reported as there are. -/
theorem fsm_completePhase {o : Orchestrator} (h : o.fsm ≠ .completing) (phaseId : PhaseId) :
    (o.completePhase phaseId).fsm =
      if o.fsm = .idle ∨ o.workflow.phaseIds.length ≤
        (pushNew o.workflowState.completedPhases phaseId).length
      then .idle else .running := by
  unfold completePhase
  dsimp only
  by_cases hcount : o.workflow.phaseIds.length ≤
    (pushNew o.workflowState.completedPhases phaseId).length
  · rw [if_pos hcount, if_pos (Or.inr hcount)]
    cases hfsm : o.fsm with
    | completing => exact absurd hfsm h
    | _ => rfl
  · rw [if_neg hcount]
    simp only [hcount, or_false]
    cases hfsm : o.fsm with
    | completing => exact absurd hfsm h
    | _ => rfl

/-- The tick after the phase is completed plans: a plan was asked for before, the planner was idle,
or it becomes idle because as many phases were reported as there are. -/
def PlansAfterPhase (o : Orchestrator) (phaseId : PhaseId) : Prop :=
  o.replanRequested = true ∨ o.fsm = .idle ∨
    o.workflow.phaseIds.length ≤ (pushNew o.workflowState.completedPhases phaseId).length

theorem planningTime_completePhase {o : Orchestrator} (hstarted : o.started = true)
    (hfsm : o.fsm ≠ .completing) (phaseId : PhaseId) (hash : IterationOrder) (now : Time) :
    (o.PlansAfterPhase phaseId → (o.completePhase phaseId).planningTime (.tick hash now) =
      some now) ∧
      (¬o.PlansAfterPhase phaseId → (o.completePhase phaseId).planningTime (.tick hash now) =
        none) := by
  have hcompleted : (o.completePhase phaseId).fsm = _ := fsm_completePhase hfsm phaseId
  constructor
  · intro hplans
    refine if_pos ⟨hstarted, ?_⟩
    rcases hplans with hflag | hidle
    · exact Or.inl hflag
    · exact Or.inr (Or.inl (hcompleted.trans (if_pos hidle)))
  · intro hplans
    have hrunning : (o.completePhase phaseId).fsm = .running :=
      hcompleted.trans (if_neg fun hidle => hplans (Or.inr hidle))
    have hflag : o.replanRequested = false := Bool.eq_false_iff.mpr fun hflag =>
      hplans (Or.inl hflag)
    refine if_neg fun ⟨_, hcase⟩ => ?_
    rcases hcase with hcase | hcase | hcase
    · exact absurd (hflag.symm.trans hcase) (by simp)
    · exact absurd (hrunning.symm.trans hcase) (by simp)
    · exact absurd (hrunning.symm.trans hcase) (by simp)

end Orchestrator

/-- A tick after a phase was completed plans for the state then, when a plan was asked for, the
planner was idle, or the count of reported phases makes it idle. Otherwise it plans nothing and
leaves the schedule of before. -/
theorem planned_after_phase (operations : List Operation) (phaseId : PhaseId)
    (hash : IterationOrder) (now : Time)
    (hstarted : (({} : Orchestrator).run operations).started = true) :
    let o := ({} : Orchestrator).run operations
    let completed := o.completePhase phaseId
    (o.PlansAfterPhase phaseId → (completed.tick hash now).latestSchedule =
      completed.scheduleAt hash now) ∧
      (¬o.PlansAfterPhase phaseId → (completed.tick hash now).latestSchedule =
        o.latestSchedule) := by
  intro o completed
  obtain ⟨hplanning, hdispatching⟩ := Orchestrator.planningTime_completePhase hstarted
    (Orchestrator.fsm_run_ne_completing operations) phaseId hash now
  refine ⟨fun hplans => ?_, fun hplans =>
    @latestSchedule_apply completed (.tick hash now) rfl (hdispatching hplans)⟩
  have htick : completed.planningTime (.tick hash now) = some now := hplanning hplans
  rcases completed.tick_eq hash now with ⟨-, fsm, heq, -⟩ | ⟨hnone, -⟩ | ⟨hnone, -⟩
  · rw [heq]
  · exact absurd (hnone.symm.trans htick) (by simp)
  · exact absurd (hnone.symm.trans htick) (by simp)

/-- Two phases of one task each, the second after the first. The task of the first is
dispatched and completes. -/
def firstPhaseDone : List Operation :=
  [.setWorkflow ((((({} : Workflow).addPhase { id := "first", processIds := ["a"] }).addPhase
      { id := "second", processIds := ["b"], dependencyPhaseIds := ["first"] }).addProcess
      { id := "a", estimatedDuration := 2 }).addProcess { id := "b", estimatedDuration := 2 }),
    .registerActor { id := "x", availabilityWindows := [{ start := 0, stop := 20 }] },
    .start insertionOrder, .tick insertionOrder 0, .notifyTaskCompleted "a" 2]

theorem planned_after_first_phase :
    let completed := (({} : Orchestrator).run firstPhaseDone).completePhase "first"
    (completed.tick insertionOrder 3).latestSchedule = completed.scheduleAt insertionOrder 3 ∧
      (completed.tick insertionOrder 3).latestSchedule.assignments ≠ [] :=
  ⟨(planned_after_phase firstPhaseDone "first" insertionOrder 3 (by decide)).1 (Or.inl (by decide)),
    by decide⟩

/-- A tick between the completion of the last task and that of the phase takes the request away,
and the second phase is not planned. -/
theorem second_phase_stalls :
    let o := ({} : Orchestrator).run (firstPhaseDone ++ [.tick insertionOrder 2])
    let completed := o.completePhase "first"
    o.started = true ∧ ¬o.PlansAfterPhase "first" ∧ "second" ∈ o.workflow.phaseIds ∧
      "second" ∉ completed.workflowState.completedPhases ∧
      (completed.tick insertionOrder 3).latestSchedule ≠ completed.scheduleAt insertionOrder 3 := by
  refine ⟨by decide, by simp only [Orchestrator.PlansAfterPhase]; decide, by decide, by decide,
    fun heq => ?_⟩
  have hassignments := congrArg ScheduleResult.assignments heq
  exact absurd hassignments (by decide)

end TaskOrchestrator.Core
