import TaskOrchestrator.Core.Phases
import Mathlib.Data.Finset.Card

/-!
# The count of completed phases

Whether the workflow is finished is decided by comparing two lengths. Ids that name no phase are
counted too, so the planner becomes idle with phases missing once as many foreign ids were
reported as phases are missing.
-/

namespace TaskOrchestrator.Core

open Library

set_option autoImplicit false

def reportPhases (completed phaseIds : List PhaseId) : List PhaseId :=
  phaseIds.foldl pushNew completed

theorem mem_reportPhases {completed phaseIds : List PhaseId} {id : PhaseId} :
    id ∈ reportPhases completed phaseIds ↔ id ∈ completed ∨ id ∈ phaseIds := by
  induction phaseIds generalizing completed with
  | nil => simp [reportPhases]
  | cons first rest ih =>
    have hrest := @ih (pushNew completed first)
    rw [mem_pushNew] at hrest
    rw [List.mem_cons, ← or_assoc]
    exact hrest

theorem nodup_reportPhases {completed : List PhaseId} (h : completed.Nodup)
    (phaseIds : List PhaseId) :
    (reportPhases completed phaseIds).Nodup := by
  induction phaseIds generalizing completed with
  | nil => exact h
  | cons first rest ih => exact ih (nodup_pushNew h first)

theorem length_le_pushNew (values : List String) (value : String) :
    values.length ≤ (pushNew values value).length := by
  unfold pushNew
  split_ifs
  · omega
  · rw [List.length_append]
    omega

/-- Of two sets of phases given as lists, comparing the lengths is right about inclusion when
nothing is missing, or less is foreign than is missing. -/
theorem length_le_iff_includes {phaseIds completed : List PhaseId} (hphases : phaseIds.Nodup)
    (hcompleted : completed.Nodup) :
    (phaseIds.length ≤ completed.length ↔ ∀ id ∈ phaseIds, id ∈ completed) ↔
      phaseIds.toFinset \ completed.toFinset = ∅ ∨
        (completed.toFinset \ phaseIds.toFinset).card <
          (phaseIds.toFinset \ completed.toFinset).card := by
  have hincludes : (∀ id ∈ phaseIds, id ∈ completed) ↔
      phaseIds.toFinset \ completed.toFinset = ∅ := by
    rw [Finset.sdiff_eq_empty_iff_subset, Finset.subset_iff]
    simp only [List.mem_toFinset]
  have hmissing := Finset.card_sdiff_add_card_inter phaseIds.toFinset completed.toFinset
  have hforeign := Finset.card_sdiff_add_card_inter completed.toFinset phaseIds.toFinset
  rw [List.toFinset_card_of_nodup hphases] at hmissing
  rw [Finset.inter_comm, List.toFinset_card_of_nodup hcompleted] at hforeign
  rw [hincludes]
  by_cases hempty : phaseIds.toFinset \ completed.toFinset = ∅
  · rw [hempty, Finset.card_empty] at hmissing
    have hle : phaseIds.length ≤ completed.length := by omega
    exact iff_of_true (iff_of_true hle hempty) (Or.inl hempty)
  · simp only [hempty, iff_false, false_or]
    omega

namespace Orchestrator

theorem completedPhases_apply {o : Orchestrator} (h : o.workflowState.completedPhases.Nodup)
    (op : Operation) :
    (o.apply op).workflowState.completedPhases.Nodup := by
  cases op with
  | setWorkflow w => exact List.nodup_nil
  | completePhase phaseId => exact nodup_pushNew h phaseId
  | start hash =>
    obtain ⟨fsm, heq, -⟩ := o.start_eq hash
    rw [Orchestrator.apply, heq]
    exact h
  | tick hash now =>
    rw [Orchestrator.apply]
    rcases o.tick_eq hash now with ⟨-, fsm, heq, -⟩ | ⟨-, -, heq⟩ | ⟨-, -, heq⟩
    · rw [heq]
      exact h
    · rw [heq]
      exact dispatchAll_invariant (P := fun c => c.workflowState.completedPhases.Nodup) h
        fun c a _ hc _ => hc
    · rw [heq]
      exact h
  | setActorUnavailable actorId unavailable =>
    simp only [Orchestrator.apply, setActorUnavailable]
    split_ifs
    all_goals exact h
  | notifyTaskFailed taskId resumable =>
    obtain ⟨registry, taskActor, actorLoad, heq, -⟩ :=
      o.withdraw_eq taskId (eraseValue o.workflowState.completedTasks taskId)
    simp only [Orchestrator.apply, notifyTaskFailed, heq]
    split_ifs
    all_goals exact h
  | notifyTaskCompleted taskId actualCompletionTime =>
    obtain ⟨registry, taskActor, actorLoad, heq, -⟩ :=
      o.withdraw_eq taskId (pushNew o.workflowState.completedTasks taskId)
    simp only [Orchestrator.apply, notifyTaskCompleted, heq]
    exact h
  | registerActor a => exact h
  | setSchedulingStrategy strategy => exact h
  | setActorRankingProfile profile => exact h
  | markTaskResumable taskId => exact h

theorem nodup_completedPhases_run (operations : List Operation) :
    (({} : Orchestrator).run operations).workflowState.completedPhases.Nodup := by
  have hmeets : Meets Orchestrator.apply (fun _ _ => True) {} operations :=
    meets_of_forall Orchestrator.apply {} fun _ _ => trivial
  exact hmeets.invariant (P := fun o => o.workflowState.completedPhases.Nodup) List.nodup_nil
    fun o op ho _ => completedPhases_apply ho op

def completePhases (o : Orchestrator) (phaseIds : List PhaseId) : Orchestrator :=
  runMachine completePhase o phaseIds

theorem completePhases_concat (o : Orchestrator) (phaseIds : List PhaseId) (id : PhaseId) :
    o.completePhases (phaseIds ++ [id]) = (o.completePhases phaseIds).completePhase id :=
  runMachine_concat completePhase o phaseIds id

theorem workflow_completePhases (o : Orchestrator) (phaseIds : List PhaseId) :
    (o.completePhases phaseIds).workflow = o.workflow := by
  induction phaseIds generalizing o with
  | nil => rfl
  | cons first rest ih => exact ih (o.completePhase first)

theorem completedPhases_completePhases (o : Orchestrator) (phaseIds : List PhaseId) :
    (o.completePhases phaseIds).workflowState.completedPhases =
      reportPhases o.workflowState.completedPhases phaseIds := by
  induction phaseIds generalizing o with
  | nil => rfl
  | cons first rest ih => exact ih (o.completePhase first)

def Active (o : Orchestrator) : Prop := o.fsm = .planning ∨ o.fsm = .dispatching ∨ o.fsm = .running

theorem counted_of_idle {o : Orchestrator} (h : o.Active) (phaseIds : List PhaseId) :
    (o.completePhases phaseIds).fsm ≠ .completing ∧
      ((o.completePhases phaseIds).fsm = .idle → o.workflow.phaseIds.length ≤
        (o.completePhases phaseIds).workflowState.completedPhases.length) := by
  induction phaseIds using List.reverseRecOn with
  | nil =>
    rw [show o.completePhases [] = o from rfl]
    constructor
    · intro hcompleting
      rcases h with h | h | h
      all_goals exact PlannerState.noConfusion (h.symm.trans hcompleting)
    · intro hidle
      rcases h with h | h | h
      all_goals exact PlannerState.noConfusion (h.symm.trans hidle)
  | append_singleton before id ih =>
    obtain ⟨hcompleting, hcounted⟩ := ih
    have hfsm := fsm_completePhase hcompleting id
    rw [completePhases_concat]
    refine ⟨fsm_apply_ne_completing hcompleting (.completePhase id), fun hidle => ?_⟩
    have hgrows := length_le_pushNew (o.completePhases before).workflowState.completedPhases id
    rw [hfsm, workflow_completePhases] at hidle
    split_ifs at hidle with hcase
    rcases hcase with hbefore | hcount
    · exact le_trans (hcounted hbefore) hgrows
    · exact hcount

theorem idle_completePhases_iff {o : Orchestrator} (h : o.Active) {phaseIds : List PhaseId}
    (hne : phaseIds ≠ []) :
    (o.completePhases phaseIds).fsm = .idle ↔
      o.workflow.phaseIds.length ≤
      (reportPhases o.workflowState.completedPhases phaseIds).length := by
  rw [← completedPhases_completePhases]
  refine ⟨(counted_of_idle h phaseIds).2, fun hcount => ?_⟩
  obtain ⟨before, id, rfl⟩ : ∃ before id, phaseIds = before ++ [id] :=
    ⟨phaseIds.dropLast, phaseIds.getLast hne, (List.dropLast_append_getLast hne).symm⟩
  rw [completePhases_concat] at hcount ⊢
  rw [fsm_completePhase (counted_of_idle h before).1, workflow_completePhases]
  exact if_pos (Or.inr hcount)

/-- The phases that are not complete when the ids were reported. -/
def missingPhases (o : Orchestrator) (phaseIds : List PhaseId) : Finset PhaseId :=
  o.workflow.phaseIds.toFinset \ (o.workflowState.completedPhases ++ phaseIds).toFinset

def foreignIds (o : Orchestrator) (phaseIds : List PhaseId) : Finset PhaseId :=
  (o.workflowState.completedPhases ++ phaseIds).toFinset \ o.workflow.phaseIds.toFinset

theorem toFinset_reportPhases (completed phaseIds : List PhaseId) :
    (reportPhases completed phaseIds).toFinset = (completed ++ phaseIds).toFinset := by
  ext id
  rw [List.mem_toFinset, List.mem_toFinset, mem_reportPhases, List.mem_append]

/-- No foreign id makes the count go wrong when none was reported. -/
theorem missing_or_fewer_of_known {o : Orchestrator} {phaseIds : List PhaseId}
    (h : o.foreignIds phaseIds = ∅) :
    o.missingPhases phaseIds = ∅ ∨ (o.foreignIds phaseIds).card <
    (o.missingPhases phaseIds).card := by
  rw [h, Finset.card_empty, Finset.card_pos]
  exact Finset.eq_empty_or_nonempty _

end Orchestrator

/-- After every call of a sequence the planner is idle exactly when all phases are complete, if
and only if after every call no phase is missing, or fewer foreign ids were reported than phases
are missing. -/
theorem idle_when_finished_iff (operations : List Operation) (phaseIds : List PhaseId)
    (hactive : (({} : Orchestrator).run operations).Active) :
    let o := ({} : Orchestrator).run operations
    (∀ calls, calls ≠ [] → calls <+: phaseIds →
      ((o.completePhases calls).fsm = .idle ↔ ∀ id ∈ (o.completePhases calls).workflow.phaseIds,
        id ∈ (o.completePhases calls).workflowState.completedPhases)) ↔
      ∀ calls, calls ≠ [] → calls <+: phaseIds →
        o.missingPhases calls = ∅ ∨ (o.foreignIds calls).card < (o.missingPhases calls).card := by
  intro o
  refine forall_congr' fun calls => imp_congr_right fun hne => imp_congr_right fun _ => ?_
  have hphases : o.workflow.phaseIds.Nodup := o.workflow.phases.nodup
  have hcompleted := nodup_reportPhases (Orchestrator.nodup_completedPhases_run operations) calls
  have hlengths := length_le_iff_includes hphases hcompleted
  rw [Orchestrator.toFinset_reportPhases] at hlengths
  rw [Orchestrator.idle_completePhases_iff hactive hne, Orchestrator.workflow_completePhases,
    Orchestrator.completedPhases_completePhases]
  exact hlengths

def twoPhases : List Operation :=
  [.setWorkflow ((({} : Workflow).addPhase { id := "first" }).addPhase
      { id := "second", dependencyPhaseIds := ["first"] }),
    .start insertionOrder]

theorem idle_when_both_finished :
    let o := ({} : Orchestrator).run twoPhases
    ∀ calls, calls ≠ [] → calls <+: ["first", "first", "second"] →
      ((o.completePhases calls).fsm = .idle ↔ ∀ id ∈ (o.completePhases calls).workflow.phaseIds,
        id ∈ (o.completePhases calls).workflowState.completedPhases) := by
  refine (idle_when_finished_iff twoPhases ["first", "first", "second"] (Or.inl (by decide))).mpr ?_
  intro calls _ hprefix
  apply Orchestrator.missing_or_fewer_of_known
  have hknown : ∀ calls ∈ ["first", "first", "second"].inits,
      (({} : Orchestrator).run twoPhases).foreignIds calls = ∅ := by decide
  exact hknown calls ((List.mem_inits _ _).mpr hprefix)

theorem idle_after_foreign_ids :
    let o := (({} : Orchestrator).run twoPhases).completePhases ["x", "y"]
    (({} : Orchestrator).run twoPhases).fsm = .planning ∧ o.fsm = .idle ∧
      ¬ ∀ id ∈ o.workflow.phaseIds, id ∈ o.workflowState.completedPhases := by decide

end TaskOrchestrator.Core
