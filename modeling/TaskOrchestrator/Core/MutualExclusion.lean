import TaskOrchestrator.Core.Dispatching

/-!
# Mutual exclusion at run time

The scheduler looks at the tasks that a task lists, not at those that list it. Where two
tasks list each other, no plan has both, and none has one when the other is completed or in
flight. Over a run the exclusion is carried by the latest schedule, which
stays compatible with what was dispatched from it until a new one is asked for.
-/

namespace TaskOrchestrator.Core

open Library

set_option autoImplicit false

/-- The tasks that a task may not be combined with, as its process lists them. -/
def excludedBy (workflow : Workflow) (taskId : TaskId) : List TaskId :=
  ((workflow.processForTask taskId).map Process.mutuallyExclusiveTaskIds).getD []

def IsTaken (state : WorkflowState) (taskId : TaskId) : Prop :=
  taskId ∈ state.completedTasks ∨ taskId ∈ state.assignedTasks

theorem not_mutexConflict {workflow : Workflow} {task : PendingTask}
    (htask : Describes workflow task) {blockedTaskIds : List TaskId}
    (h : mutexConflict task blockedTaskIds = false) :
    ∀ other ∈ blockedTaskIds, other ∉ excludedBy workflow task.info.id := by
  intro other hblocked hlisted
  unfold excludedBy at hlisted
  rw [← htask.process] at hlisted
  unfold mutexConflict at h
  cases hprocess : task.process with
  | none => exact absurd hlisted (by simp [hprocess])
  | some process =>
    rw [hprocess] at h hlisted
    have hnone : ∀ id ∈ process.mutuallyExclusiveTaskIds, id ∉ blockedTaskIds := by simpa using h
    exact hnone other hlisted hblocked

/-- No placed task lists one that is taken, and no two placed tasks list each other. -/
structure ExclusionInvariant (workflow : Workflow) (state : WorkflowState)
    (s : PlanState) : Prop where
  blocked : ∀ taskId, taskId ∈ s.blockedTaskIds ↔
    IsTaken state taskId ∨ ∃ a ∈ s.assignments, a.taskId = taskId
  taken : ∀ a ∈ s.assignments, ∀ taskId, IsTaken state taskId →
    taskId ∉ excludedBy workflow a.taskId
  oneWay : ∀ a ∈ s.assignments, ∀ b ∈ s.assignments, a.taskId ≠ b.taskId →
    b.taskId ∈ excludedBy workflow a.taskId → a.taskId ∉ excludedBy workflow b.taskId

def SymmetricExclusions (workflow : Workflow) : Prop :=
  ∀ a b, b ∈ excludedBy workflow a → a ∈ excludedBy workflow b

section Plans

variable {workflow : Workflow} {state : WorkflowState} {registry : ActorRegistry} {now : Time}
variable {profile : ActorRankingProfile}

theorem ExclusionInvariant.initial :
    ExclusionInvariant workflow state
      (initialPlanState workflow state registry now (collectPendingTasks workflow state)) where
  blocked := by simp [initialPlanState, IsTaken]
  taken := by simp [initialPlanState]
  oneWay := by simp [initialPlanState]

theorem ExclusionInvariant.place {s : PlanState} {task : PendingTask}
    {selection : CandidateSelection} (hs : ExclusionInvariant workflow state s)
    (hpending : task ∈ collectPendingTasks workflow state)
    (hfree : mutexConflict task s.blockedTaskIds = false) :
    ExclusionInvariant workflow state (s.place task selection) := by
  have hown := not_mutexConflict (mem_collectPendingTasks hpending).1 hfree
  have hplaced : ∀ a ∈ s.assignments, a.taskId ∉ excludedBy workflow task.info.id := fun a ha =>
    hown a.taskId ((hs.blocked a.taskId).mpr (Or.inr ⟨a, ha, rfl⟩))
  constructor
  · intro taskId
    simp only [PlanState.place, List.mem_insert_iff, hs.blocked, List.mem_append,
      List.mem_singleton]
    constructor
    · rintro (rfl | htaken | ⟨a, ha, rfl⟩)
      · exact Or.inr ⟨_, Or.inr rfl, rfl⟩
      · exact Or.inl htaken
      · exact Or.inr ⟨a, Or.inl ha, rfl⟩
    · rintro (htaken | ⟨a, ha | rfl, rfl⟩)
      · exact Or.inr (Or.inl htaken)
      · exact Or.inr (Or.inr ⟨a, ha, rfl⟩)
      · exact Or.inl rfl
  · intro a ha taskId htaken
    rcases List.mem_append.mp ha with ha | ha
    · exact hs.taken a ha taskId htaken
    · obtain rfl := List.mem_singleton.mp ha
      exact hown taskId ((hs.blocked taskId).mpr (Or.inl htaken))
  · -- Of two placed tasks the later one does not list the earlier one.
    intro a ha b hb hne hlists
    rcases List.mem_append.mp ha with ha | ha
    · rcases List.mem_append.mp hb with hb | hb
      · exact hs.oneWay a ha b hb hne hlists
      · obtain rfl := List.mem_singleton.mp hb
        exact hplaced a ha
    · obtain rfl := List.mem_singleton.mp ha
      rcases List.mem_append.mp hb with hb | hb
      · exact absurd hlists (hplaced b hb)
      · obtain rfl := List.mem_singleton.mp hb
        exact absurd rfl hne

theorem ExclusionInvariant.kept :
    KeptByPlanning workflow registry state now profile (ExclusionInvariant workflow state) where
  giveUp := fun _ _ hs => ⟨hs.blocked, hs.taken, hs.oneWay⟩
  place := fun _ _ _ hs hpending _ hfree _ => hs.place hpending hfree

variable {hash : IterationOrder} {strategy : Option SchedulingStrategy}
variable {rankingProfile : Option ActorRankingProfile}
variable {a : Assignment}
variable (ha : a ∈ (plan hash workflow state registry now strategy rankingProfile).assignments)

include ha in
theorem plan_lists_none_taken {taskId : TaskId} (htaken : IsTaken state taskId) :
    taskId ∉ excludedBy workflow a.taskId := by
  obtain ⟨final, hfinal, hperm⟩ :=
    ExclusionInvariant.kept.plan hash strategy .initial (ok_of_mem_plan hash strategy ha)
  exact hfinal.taken a (hperm.mem_iff.mp ha) taskId htaken

include ha in
theorem plan_lists_one_way {b : Assignment}
    (hb : b ∈ (plan hash workflow state registry now strategy rankingProfile).assignments)
    (hne : a.taskId ≠ b.taskId) (hlists : b.taskId ∈ excludedBy workflow a.taskId) :
    a.taskId ∉ excludedBy workflow b.taskId := by
  obtain ⟨final, hfinal, hperm⟩ :=
    ExclusionInvariant.kept.plan hash strategy .initial (ok_of_mem_plan hash strategy ha)
  exact hfinal.oneWay a (hperm.mem_iff.mp ha) b (hperm.mem_iff.mp hb) hne hlists

include ha in
/-- Where exclusions are listed by both tasks, no assigned task lists another that is assigned,
completed or in flight. -/
theorem plan_exclusive (hsymmetric : SymmetricExclusions workflow) {taskId : TaskId}
    (htaken : IsTaken state taskId ∨
      ∃ b ∈ (plan hash workflow state registry now strategy rankingProfile).assignments,
        b.taskId = taskId)
    (hne : taskId ≠ a.taskId) : taskId ∉ excludedBy workflow a.taskId := by
  rcases htaken with htaken | ⟨b, hb, rfl⟩
  · exact plan_lists_none_taken ha htaken
  · intro hlists
    exact plan_lists_one_way ha hb hne.symm hlists (hsymmetric a.taskId b.taskId hlists)

end Plans

def NotifiesInFlight (o : Orchestrator) : Operation → Prop
  | .notifyTaskFailed taskId _ => taskId ∈ o.workflowState.assignedTasks
  | .notifyTaskCompleted taskId _ => taskId ∈ o.workflowState.assignedTasks
  | _ => True

/-- The tasks that are taken exclude none of each other, and while no plan is asked for no
assignment of the latest schedule excludes one of them or of each other. -/
structure Exclusive (workflow : Workflow) (o : Orchestrator) : Prop where
  sameWorkflow : o.workflow = workflow
  taken : ∀ a b, IsTaken o.workflowState a → IsTaken o.workflowState b → a ≠ b →
    b ∉ excludedBy workflow a
  scheduled : o.replanRequested = false → ∀ a ∈ o.latestSchedule.assignments, ∀ taskId,
    (IsTaken o.workflowState taskId ∨ ∃ b ∈ o.latestSchedule.assignments, b.taskId = taskId) →
      taskId ≠ a.taskId → taskId ∉ excludedBy workflow a.taskId

section Runs

variable {workflow : Workflow} {o : Orchestrator}

/-- A step that takes no new task and either asks for a plan or leaves the schedule. -/
theorem Exclusive.step (h : Exclusive workflow o) {c : Orchestrator}
    (hworkflow : c.workflow = o.workflow)
    (htaken : ∀ taskId, IsTaken c.workflowState taskId → IsTaken o.workflowState taskId)
    (hschedule : c.replanRequested = false →
      o.replanRequested = false ∧ c.latestSchedule = o.latestSchedule) : Exclusive workflow c := by
  refine ⟨hworkflow.trans h.sameWorkflow, fun a b ha hb =>
    h.taken a b (htaken a ha) (htaken b hb), ?_⟩
  intro hflag a ha taskId hin hne
  obtain ⟨hbefore, hsame⟩ := hschedule hflag
  rw [hsame] at ha hin
  refine h.scheduled hbefore a ha taskId ?_ hne
  rcases hin with hin | hin
  · exact Or.inl (htaken taskId hin)
  · exact Or.inr hin

theorem Exclusive.planned (hsymmetric : SymmetricExclusions workflow) (h : Exclusive workflow o)
    (hash : IterationOrder) (now : Time) (fsm : PlannerState) (started replanRequested : Bool) :
    Exclusive workflow { o with
      latestSchedule := o.scheduleAt hash now, fsm := fsm, started := started,
      replanRequested := replanRequested } := by
  refine ⟨h.sameWorkflow, h.taken, fun _ a ha taskId hin hne => ?_⟩
  obtain rfl := h.sameWorkflow
  exact plan_exclusive ha hsymmetric hin hne

theorem Exclusive.dispatched (hsymmetric : SymmetricExclusions workflow) (h : Exclusive workflow o)
    (hflag : o.replanRequested = false) (now : Time) (fsm : PlannerState) :
    Exclusive workflow { o.dispatchAll now with fsm := fsm } := by
  have hout := handedOut_dispatchAll o now
  have htaken : ∀ taskId, IsTaken (o.dispatchAll now).workflowState taskId →
      IsTaken o.workflowState taskId ∨ ∃ a ∈ o.latestSchedule.assignments, a.taskId = taskId := by
    rintro taskId (hcompleted | hassigned)
    · exact Or.inl (Or.inl (hout.same.completedTasks ▸ hcompleted))
    · rcases hout.origin taskId hassigned with hruns | ⟨-, a, ha, hid, -⟩
      · exact Or.inl (Or.inr hruns.inFlight)
      · exact Or.inr ⟨a, ha, hid⟩
  refine ⟨hout.same.workflow.trans h.sameWorkflow, ?_, ?_⟩
  · intro a b ha hb hne
    rcases htaken a ha with hbefore | ⟨assignment, hassignment, rfl⟩
    · rcases htaken b hb with hother | ⟨assignment, hassignment, rfl⟩
      · exact h.taken a b hbefore hother hne
      · -- The one that is handed out does not list the other, so it is not listed by it.
        intro hlists
        exact h.scheduled hflag assignment hassignment a (Or.inl hbefore) hne
          (hsymmetric _ _ hlists)
    · exact h.scheduled hflag assignment hassignment b (htaken b hb) (Ne.symm hne)
  · intro _ a ha taskId hin hne
    change a ∈ (o.dispatchAll now).latestSchedule.assignments at ha
    change IsTaken (o.dispatchAll now).workflowState taskId ∨
      ∃ b ∈ (o.dispatchAll now).latestSchedule.assignments, b.taskId = taskId at hin
    rw [hout.same.latestSchedule] at ha hin
    refine h.scheduled hflag a ha taskId ?_ hne
    rcases hin with hin | hin
    · exact htaken taskId hin
    · exact Or.inr hin

theorem Exclusive.apply (hsymmetric : SymmetricExclusions workflow) (h : Exclusive workflow o)
    {op : Operation} (hop : op.isRuntime = true) (hnotifies : NotifiesInFlight o op) :
    Exclusive workflow (o.apply op) := by
  cases op, hop using Operation.runtimeCases with
  | start hash =>
    obtain ⟨fsm, heq, -⟩ := o.start_eq hash
    rw [Orchestrator.apply, heq]
    exact h.planned hsymmetric hash 0 fsm true o.replanRequested
  | tick hash now =>
    rw [Orchestrator.apply]
    rcases o.tick_eq hash now with ⟨-, fsm, heq, -⟩ | ⟨-, hdispatches, heq⟩ | ⟨-, -, heq⟩
    · rw [heq]
      exact h.planned hsymmetric hash now fsm o.started false
    · rw [heq]
      exact h.dispatched hsymmetric hdispatches.2.1 now .running
    · rw [heq]
      exact h
  | setActorUnavailable actorId unavailable =>
    simp only [Orchestrator.apply, Orchestrator.setActorUnavailable]
    split_ifs
    · exact h
    · exact h.step rfl (fun _ => id) fun hflag =>
        absurd hflag (by simp [Orchestrator.requestReplan])
    · exact h.step rfl (fun _ => id) fun hflag =>
        absurd hflag (by simp [Orchestrator.requestReplan])
    · exact h
  | notifyTaskFailed taskId resumable =>
    obtain ⟨registry, taskActor, actorLoad, heq, -⟩ :=
      o.withdraw_eq taskId (eraseValue o.workflowState.completedTasks taskId)
    have htaken : ∀ other, other ∈ eraseValue o.workflowState.completedTasks taskId ∨
        other ∈ eraseValue o.workflowState.assignedTasks taskId →
        IsTaken o.workflowState other := by
      rintro other (hmem | hmem)
      · exact Or.inl (mem_eraseValue.mp hmem).1
      · exact Or.inr (mem_eraseValue.mp hmem).1
    simp only [Orchestrator.apply, Orchestrator.notifyTaskFailed, heq]
    split_ifs
    · exact h.step rfl htaken fun hflag => absurd hflag (by simp [Orchestrator.requestReplan])
    · exact h.step rfl htaken fun hflag => ⟨hflag, rfl⟩
  | notifyTaskCompleted taskId actualCompletionTime =>
    obtain ⟨registry, taskActor, actorLoad, heq, -⟩ :=
      o.withdraw_eq taskId (pushNew o.workflowState.completedTasks taskId)
    simp only [Orchestrator.apply, Orchestrator.notifyTaskCompleted, heq]
    refine h.step rfl ?_ fun hflag => absurd hflag (by simp [Orchestrator.requestReplan])
    rintro other (hmem | hmem)
    · rcases mem_pushNew.mp hmem with hmem | rfl
      · exact Or.inl hmem
      · exact Or.inr hnotifies
    · exact Or.inr (mem_eraseValue.mp hmem).1
  | markTaskResumable taskId =>
    exact h.step rfl (fun _ => id) fun hflag =>
      absurd hflag
        (by simp [Orchestrator.apply, Orchestrator.markTaskResumable, Orchestrator.requestReplan])
  | completePhase phaseId => exact h.step rfl (fun _ => id) fun hflag => ⟨hflag, rfl⟩

theorem exclusive_unstarted {before : List Operation} (hbefore : ∀ op ∈ before, op.isStart = false)
    (hnotifies : Meets Orchestrator.apply NotifiesInFlight {} before) :
    Exclusive (({} : Orchestrator).run before).workflow (({} : Orchestrator).run before) := by
  have hkind := meets_of_forall Orchestrator.apply ({} : Orchestrator) hbefore
  have hnone : (({} : Orchestrator).run before).workflowState.completedTasks = [] := by
    have hrun := (hkind.and hnotifies).invariant
      (P := fun o => Orchestrator.Unstarted o ∧ o.workflowState.completedTasks = []) ⟨.new, rfl⟩ ?_
    · exact hrun.2
    · intro o op ⟨hunstarted, hcompleted⟩ ⟨hop, hin⟩
      refine ⟨hunstarted.apply hop, ?_⟩
      cases op with
      | start hash => exact absurd hop (by simp [Operation.isStart])
      | notifyTaskFailed taskId resumable =>
        exact absurd hin (by simp [NotifiesInFlight, hunstarted.noneAssigned])
      | notifyTaskCompleted taskId time =>
        exact absurd hin (by simp [NotifiesInFlight, hunstarted.noneAssigned])
      | tick hash now =>
        simpa [Orchestrator.apply, Orchestrator.tick, hunstarted.notStarted] using hcompleted
      | setActorUnavailable actorId unavailable =>
        simp only [Orchestrator.apply, Orchestrator.setActorUnavailable]
        split_ifs
        all_goals exact hcompleted
      | setWorkflow w => rfl
      | registerActor a => exact hcompleted
      | setSchedulingStrategy strategy => exact hcompleted
      | setActorRankingProfile profile => exact hcompleted
      | markTaskResumable taskId => exact hcompleted
      | completePhase phaseId => exact hcompleted
  have hunstarted := Orchestrator.unstarted_run hbefore
  refine ⟨rfl, ?_, ?_⟩
  · intro a b ha
    exact absurd ha (by simp [IsTaken, hnone, hunstarted.noneAssigned])
  · simp [hunstarted.noSchedule]

end Runs

/-- In no state of a run are two tasks that exclude each other both in flight or completed. -/
theorem exclusive_over_runs (before after : List Operation)
    (hbefore : ∀ op ∈ before, op.isStart = false) (hafter : ∀ op ∈ after, op.isRuntime = true)
    (hnotifies : Meets Orchestrator.apply NotifiesInFlight {} (before ++ after))
    (hsymmetric : SymmetricExclusions (({} : Orchestrator).run before).workflow) :
    let o := (({} : Orchestrator).run before).run after
    ∀ a b, IsTaken o.workflowState a → IsTaken o.workflowState b → a ≠ b →
      b ∉ excludedBy o.workflow a := by
  intro o a b ha hb hne
  obtain ⟨hfirst, hrest⟩ := meets_append.mp hnotifies
  have hkind := meets_of_forall Orchestrator.apply (({} : Orchestrator).run before) hafter
  have hrun : Exclusive (({} : Orchestrator).run before).workflow o :=
    (hkind.and hrest).invariant (exclusive_unstarted hbefore hfirst) fun c op hc hop =>
      hc.apply hsymmetric hop.1 hop.2
  rw [hrun.sameWorkflow]
  exact hrun.taken a b ha hb hne

/-- Two ways to do the same work, each of which rules out the other. -/
def alternativesSetup : List Operation :=
  [.setWorkflow (((({} : Workflow).addPhase { id := "phase", processIds := ["a", "b"] }).addProcess
      { id := "a", estimatedDuration := 2, mutuallyExclusiveTaskIds := ["b"] }).addProcess
      { id := "b", estimatedDuration := 2, mutuallyExclusiveTaskIds := ["a"] }),
    .registerActor { id := "x", availabilityWindows := [{ start := 0, stop := 20 }] }]

theorem alternatives_symmetric :
    SymmetricExclusions (({} : Orchestrator).run alternativesSetup).workflow := by
  have hrows : (({} : Orchestrator).run alternativesSetup).workflow.processes.rows =
      [{ id := "a", estimatedDuration := 2, mutuallyExclusiveTaskIds := ["b"] },
        { id := "b", estimatedDuration := 2, mutuallyExclusiveTaskIds := ["a"] }] := rfl
  intro a b hlisted
  have hlists : ∀ id, excludedBy (({} : Orchestrator).run alternativesSetup).workflow id =
      if id = "a" then ["b"] else if id = "b" then ["a"] else [] := by
    intro id
    simp only [excludedBy, Workflow.processForTask, Workflow.process, KeyedRows.get?, hrows]
    split_ifs with ha hb
    · subst ha
      rfl
    · subst hb
      rfl
    · simp [Ne.symm ha, Ne.symm hb]
  rw [hlists] at hlisted ⊢
  split_ifs at hlisted with ha hb
  · simp_all
  · simp_all
  · exact absurd hlisted (by simp)

theorem exclusive_over_alternatives :
    let o := (({} : Orchestrator).run alternativesSetup).run
      [.start insertionOrder, .tick insertionOrder 0, .notifyTaskCompleted "a" 1,
        .tick insertionOrder 1]
    o.workflowState.completedTasks = ["a"] ∧ o.workflowState.assignedTasks = [] ∧
    ∀ a b, IsTaken o.workflowState a → IsTaken o.workflowState b → a ≠ b →
      b ∉ excludedBy o.workflow a :=
  ⟨by decide, by decide, exclusive_over_runs alternativesSetup _ (by decide) (by decide)
    ⟨trivial, trivial, trivial, trivial, by change "a" ∈ _; decide, trivial,
      trivial⟩ alternatives_symmetric⟩

end TaskOrchestrator.Core
