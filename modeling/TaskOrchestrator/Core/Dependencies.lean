import TaskOrchestrator.Core.Planning

/-!
# Dependencies of what is planned

A planning pass places a task only once each of its dependencies has a completion time, so a
dependency that is neither completed nor in flight has been placed before it.
-/

namespace TaskOrchestrator.Core

open Library

set_option autoImplicit false

section Scheduler

variable {hash : IterationOrder} {workflow : Workflow} {state : WorkflowState}
variable {registry : ActorRegistry} {now : Time}
variable {strategy : Option SchedulingStrategy} {rankingProfile : Option ActorRankingProfile}

def Accounted (state : WorkflowState) (assignments : List Assignment) (taskId : TaskId) : Prop :=
  taskId ∈ state.completedTasks ∨ taskId ∈ state.assignedTasks ∨ ∃ a ∈ assignments,
    a.taskId = taskId

theorem Accounted.mono {assignments larger : List Assignment} {taskId : TaskId}
    (h : Accounted state assignments taskId) (hsub : ∀ a ∈ assignments, a ∈ larger) :
    Accounted state larger taskId := by
  rcases h with hcompleted | hinFlight | ⟨a, ha, hid⟩
  · exact Or.inl hcompleted
  · exact Or.inr (Or.inl hinFlight)
  · exact Or.inr (Or.inr ⟨a, hsub a ha, hid⟩)

structure AccountedInvariant (workflow : Workflow) (state : WorkflowState)
    (s : PlanState) : Prop where
  completions : ∀ taskId time, s.completionTimes.lookup taskId = some time →
    Accounted state s.assignments taskId
  dependencies : ∀ a ∈ s.assignments, ∀ process ∈ workflow.processForTask a.taskId,
    ∀ dep ∈ process.dependencyTaskIds, Accounted state s.assignments dep

theorem AccountedInvariant.initial (pendingTasks : List PendingTask) :
    AccountedInvariant workflow state
    (initialPlanState workflow state registry now pendingTasks) where
  completions := by
    intro taskId time hlookup
    rcases initializeCompletionTimes_done hlookup with ⟨hinFlight, -⟩ | ⟨-, hcompleted, -⟩
      | ⟨a, ha, -⟩
    · exact Or.inr (Or.inl hinFlight)
    · exact Or.inl hcompleted
    · exact absurd ha (by simp)
  dependencies := by simp [initialPlanState]

theorem AccountedInvariant.kept {profile : ActorRankingProfile} :
    KeptByPlanning workflow registry state now profile (AccountedInvariant workflow state) where
  giveUp := fun _ _ hs => ⟨hs.completions, hs.dependencies⟩
  place := by
    intro s task selection hs hpending _ _ hselection
    obtain ⟨htask, -, -⟩ := mem_collectPendingTasks hpending
    obtain ⟨dependencyReady, hready, -⟩ := selectBestCandidate_sound hselection
    have hgrows : ∀ a ∈ s.assignments, a ∈ (s.place task selection).assignments := fun a ha =>
      List.mem_append_left _ ha
    constructor
    · intro taskId time hlookup
      simp only [PlanState.place, Dictionary.lookup_assign] at hlookup
      split_ifs at hlookup with hid
      · exact Or.inr (Or.inr ⟨_, List.mem_append_right _ List.mem_cons_self, hid⟩)
      · exact (hs.completions taskId time hlookup).mono hgrows
    · intro a ha process hprocess dep hdep
      rcases List.mem_append.mp ha with ha | ha
      · exact (hs.dependencies a ha process hprocess dep hdep).mono hgrows
      · obtain rfl := List.mem_singleton.mp ha
        have hsame : task.process = some process := htask.process.trans hprocess
        obtain ⟨time, hlookup, -⟩ := dependencyReadyTime_sound hready process hsame dep hdep
        exact (hs.completions dep time hlookup).mono hgrows

theorem plan_accounted {a : Assignment}
    (h : a ∈ (plan hash workflow state registry now strategy rankingProfile).assignments) :
    ∀ process ∈ workflow.processForTask a.taskId, ∀ dep ∈ process.dependencyTaskIds,
      Accounted state
      (plan hash workflow state registry now strategy rankingProfile).assignments dep := by
  obtain ⟨final, hfinal, hperm⟩ :=
    AccountedInvariant.kept.plan hash strategy (.initial _) (ok_of_mem_plan hash strategy h)
  intro process hprocess dep hdep
  have haccounted := hfinal.dependencies a (hperm.mem_iff.mp h) process hprocess dep hdep
  exact haccounted.mono fun b hb => hperm.mem_iff.mpr hb

end Scheduler

end TaskOrchestrator.Core
