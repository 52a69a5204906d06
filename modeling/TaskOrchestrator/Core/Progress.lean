import TaskOrchestrator.Library.Liveness
import TaskOrchestrator.Core.Maximality
import TaskOrchestrator.Core.Phases
import Mathlib.Logic.Relation

/-!
# Progress

An environment that cooperates completes the tasks in flight, reports a phase once all its tasks are
completed, and before the next tick, and goes on ticking. Then whatever a tick finds when nothing is
in flight, it plans a task that can start, and in the end every task and every phase is completed.
-/

namespace TaskOrchestrator.Core

open Library

set_option autoImplicit false

namespace Workflow

variable (workflow : Workflow)

def taskIds : List TaskId := workflow.phaseIds.flatMap workflow.taskIdsForPhase

/-- The second phase waits for the first, or for a phase that does. -/
def Precedes : PhaseId → PhaseId → Prop :=
  Relation.TransGen fun earlier later =>
    ∃ phase ∈ workflow.phases.rows, phase.id = later ∧ earlier ∈ phase.dependencyPhaseIds

/-- Phases wait for phases of the workflow, and tasks for tasks of their own phase or of earlier
ones, neither in a circle. No task excludes another one, and none is preemptible. -/
structure Achievable (phaseRank taskRank : String → Nat) : Prop where
  phases : ∀ phase ∈ workflow.phases.rows, ∀ dep ∈ phase.dependencyPhaseIds,
    dep ∈ workflow.phaseIds ∧ phaseRank dep < phaseRank phase.id
  tasks : ∀ phaseId ∈ workflow.phaseIds, ∀ taskId ∈ workflow.taskIdsForPhase phaseId,
    ∀ process ∈ workflow.processForTask taskId, ∀ dep ∈ process.dependencyTaskIds,
      taskRank dep < taskRank taskId ∧
        ∃ earlier, dep ∈ workflow.taskIdsForPhase earlier ∧
        (earlier = phaseId ∨ workflow.Precedes earlier phaseId)
  noExclusions : ∀ process ∈ workflow.processes.rows, process.mutuallyExclusiveTaskIds = []
  supported : ∀ process ∈ workflow.processes.rows, process.preemptible = false
  demands : ∀ process ∈ workflow.processes.rows, 0 ≤ process.demand

variable {workflow}

theorem phase_of_row {phase : Phase} (h : phase ∈ workflow.phases.rows) :
    workflow.phase phase.id = some phase :=
  (KeyedRows.get?_eq_some_iff _ _ _).mpr ⟨h, rfl⟩

theorem row_of_mem_taskIdsForPhase {phaseId : PhaseId} {taskId : TaskId}
    (h : taskId ∈ workflow.taskIdsForPhase phaseId) :
    ∃ phase ∈ workflow.phases.rows, phase.id = phaseId := by
  cases hphase : workflow.phase phaseId with
  | none => simp [taskIdsForPhase, hphase] at h
  | some phase => exact ⟨phase, (KeyedRows.get?_eq_some_iff _ _ _).mp hphase⟩

theorem mem_taskIds {taskId : TaskId} :
    taskId ∈ workflow.taskIds ↔ ∃ phase ∈ workflow.phases.rows,
      taskId ∈ workflow.taskIdsForPhase phase.id := by
  constructor
  · intro h
    obtain ⟨phaseId, hphaseId, htask⟩ := List.mem_flatMap.mp h
    obtain ⟨phase, hphase, rfl⟩ := List.mem_map.mp hphaseId
    exact ⟨phase, hphase, htask⟩
  · rintro ⟨phase, hphase, htask⟩
    exact List.mem_flatMap.mpr ⟨phase.id, List.mem_map_of_mem hphase, htask⟩

theorem inReadyPhase_iff {state : WorkflowState} {taskId : TaskId} :
    InReadyPhase workflow state taskId ↔
      ∃ phase ∈ workflow.phases.rows, phase.id ∉ state.completedPhases ∧
      (∀ dep ∈ phase.dependencyPhaseIds, dep ∈ state.completedPhases) ∧
      taskId ∈ workflow.taskIdsForPhase phase.id := by
  constructor
  · rintro ⟨phase, hphase, hopen, hdeps, processId, hprocessId, process, hprocess, htask⟩
    refine ⟨phase, hphase, hopen, hdeps, ?_⟩
    simp only [taskIdsForPhase, phase_of_row hphase]
    exact List.mem_flatMap.mpr ⟨processId, hprocessId, by simpa [hprocess] using htask⟩
  · rintro ⟨phase, hphase, hopen, hdeps, htask⟩
    exact ⟨phase, hphase, hopen, hdeps, mem_taskIdsForPhase (phase_of_row hphase) htask⟩

end Workflow

namespace Orchestrator

/-- It is the phase's turn, and all its tasks are completed. -/
def Finishable (o : Orchestrator) (phaseId : PhaseId) : Prop :=
  phaseId ∈ o.workflow.readyPhases o.workflowState.completedPhases ∧
    ∀ taskId ∈ o.workflow.taskIdsForPhase phaseId, taskId ∈ o.workflowState.completedTasks

def Serviceable (o : Orchestrator) (now : Time) : Prop :=
  o.workflowState.assignedTasks = [] → ∀ taskId, Pending o.workflow o.workflowState taskId →
    ¬ Waiting o.workflow o.workflowState [] taskId →
      Placeable o.workflow o.workflowState o.registry now (Set.Ici 0) [] taskId

/-- What the environment may do next: it ticks when no phase is left to report, and reports what is
done. -/
def Cooperative (o : Orchestrator) : Operation → Prop
  | .tick _ now => (∀ phaseId, ¬ o.Finishable phaseId) ∧ o.Serviceable now
  | .notifyTaskCompleted taskId _ => taskId ∈ o.workflowState.assignedTasks
  | .completePhase phaseId => o.Finishable phaseId
  | _ => False

abbrev driven (start : Orchestrator) (operations : Nat → Operation) : Nat → Orchestrator :=
  drive Orchestrator.apply start operations

/-- The environment goes on ticking, completes what is in flight, and its clock gets to every
planned start. -/
structure Fair (states : Nat → Orchestrator) (operations : Nat → Operation) : Prop where
  ticks : ∀ n, ∃ m, n ≤ m ∧ ∃ hash now, operations m = .tick hash now
  completions : ∀ n, ∀ taskId ∈ (states n).workflowState.assignedTasks,
    ∃ m, n ≤ m ∧ ∃ time, operations m = .notifyTaskCompleted taskId time
  clock : ∀ n, ∀ a ∈ (states n).latestSchedule.assignments,
    ∃ m, n ≤ m ∧ ∃ hash now, operations m = .tick hash now ∧ a.startTime ≤ now

def TasksDone (o : Orchestrator) : Prop :=
  ∀ taskId ∈ o.workflow.taskIds, taskId ∈ o.workflowState.completedTasks

def Finished (o : Orchestrator) : Prop :=
  o.TasksDone ∧ ∀ phaseId ∈ o.workflow.phaseIds, phaseId ∈ o.workflowState.completedPhases

/-- Nothing but the time keeps the assignment from being dispatched. -/
structure Startable (o : Orchestrator) (a : Assignment) : Prop where
  dependencies : ∀ process ∈ o.workflow.processForTask a.taskId, ∀ dep ∈ process.dependencyTaskIds,
    dep ∈ o.workflowState.completedTasks
  notCompleted : a.taskId ∉ o.workflowState.completedTasks
  resumable : a.taskId ∉ o.workflowState.unresumableTasks

/-- The next ticks plan or dispatch, or something is in flight, unless all tasks are completed. -/
def Awake (o : Orchestrator) : Prop :=
  (o.replanRequested = true ∨ o.fsm = .idle) ∨ o.workflowState.assignedTasks ≠ [] ∨
    ((o.fsm = .dispatching ∨ o.fsm = .running) ∧ ∃ a ∈ o.latestSchedule.assignments,
      o.Startable a) ∨ o.TasksDone

/-- No task waits to be marked resumable, and the phases that were reported had their turn and are
done. -/
structure Tidy (o : Orchestrator) : Prop where
  resumable : ∀ taskId ∈ o.workflow.taskIds, taskId ∉ o.workflowState.unresumableTasks
  reported : ∀ phase ∈ o.workflow.phases.rows, phase.id ∈ o.workflowState.completedPhases →
    (∀ taskId ∈ o.workflow.taskIdsForPhase phase.id, taskId ∈ o.workflowState.completedTasks) ∧
      ∀ dep ∈ phase.dependencyPhaseIds, dep ∈ o.workflowState.completedPhases

structure Belongs (o : Orchestrator) : Prop where
  inFlight : ∀ taskId ∈ o.workflowState.assignedTasks, taskId ∈ o.workflow.taskIds
  scheduled : ∀ a ∈ o.latestSchedule.assignments, a.taskId ∈ o.workflow.taskIds

variable {o : Orchestrator} {phaseRank taskRank : String → Nat}

theorem Belongs.planned (o : Orchestrator) (hash : IterationOrder) (now : Time) :
    ∀ a ∈ (o.scheduleAt hash now).assignments, a.taskId ∈ o.workflow.taskIds := by
  intro a ha
  obtain ⟨actor, hoffered⟩ := plan_offered ha
  obtain ⟨phase, hphase, -, -, htask⟩ := Workflow.inReadyPhase_iff.mp hoffered.ready
  exact Workflow.mem_taskIds.mpr ⟨phase, hphase, htask⟩

theorem Belongs.dispatchAll (h : o.Belongs) (now : Time) : (o.dispatchAll now).Belongs := by
  have hsame := o.dispatchAll_same now
  refine ⟨?_, by rw [hsame.latestSchedule, hsame.workflow]; exact h.scheduled⟩
  rw [hsame.workflow]
  refine dispatchAll_invariant (P := fun c => ∀ taskId ∈ c.workflowState.assignedTasks,
    taskId ∈ o.workflow.taskIds) h.inFlight ?_
  intro c a ha hc _ taskId hmem
  rcases List.mem_append.mp hmem with hmem | hmem
  · exact hc taskId hmem
  · obtain rfl := List.mem_singleton.mp hmem
    exact h.scheduled a ha

theorem Belongs.withdraw (h : o.Belongs) (taskId : TaskId) (completedTasks : List TaskId) :
    (o.withdraw taskId completedTasks).Belongs := by
  obtain ⟨registry, taskActor, actorLoad, heq, -⟩ := o.withdraw_eq taskId completedTasks
  rw [heq]
  exact ⟨fun other hmem => h.inFlight other (mem_eraseValue.mp hmem).1, h.scheduled⟩

theorem Belongs.apply (h : o.Belongs) {op : Operation} (hop : op.isRuntime = true) :
    (o.apply op).Belongs := by
  cases op, hop using Operation.runtimeCases with
  | start hash =>
    obtain ⟨fsm, heq, -⟩ := o.start_eq hash
    rw [Orchestrator.apply, heq]
    exact ⟨h.inFlight, Belongs.planned o hash 0⟩
  | tick hash now =>
    rw [Orchestrator.apply]
    rcases o.tick_eq hash now with ⟨-, fsm, heq, -⟩ | ⟨-, -, heq⟩ | ⟨-, -, heq⟩
    · rw [heq]
      exact ⟨h.inFlight, Belongs.planned o hash now⟩
    · rw [heq]
      exact ⟨(h.dispatchAll now).inFlight, (h.dispatchAll now).scheduled⟩
    · rw [heq]
      exact h
  | setActorUnavailable actorId unavailable =>
    simp only [Orchestrator.apply, setActorUnavailable]
    split_ifs
    all_goals exact ⟨h.inFlight, h.scheduled⟩
  | notifyTaskFailed taskId resumable =>
    have hs := h.withdraw taskId (eraseValue o.workflowState.completedTasks taskId)
    simp only [Orchestrator.apply, notifyTaskFailed]
    split_ifs
    all_goals exact ⟨hs.inFlight, hs.scheduled⟩
  | notifyTaskCompleted taskId actualCompletionTime =>
    have hs := h.withdraw taskId (pushNew o.workflowState.completedTasks taskId)
    exact ⟨hs.inFlight, hs.scheduled⟩
  | markTaskResumable taskId => exact ⟨h.inFlight, h.scheduled⟩
  | completePhase phaseId => exact ⟨h.inFlight, h.scheduled⟩

theorem exists_lowest (rank : String → Nat) {P : String → Prop} (h : ∃ x, P x) :
    ∃ x, P x ∧ ∀ y, P y → rank x ≤ rank y := by
  obtain ⟨x, hx, hleast⟩ := (InvImage.wf rank wellFounded_lt).has_min {x | P x} h
  exact ⟨x, hx, fun y hy => Nat.le_of_not_lt (hleast y hy)⟩

theorem Tidy.reported_before (h : o.Tidy) {phase : Phase} (hphase : phase ∈ o.workflow.phases.rows)
    (hdeps : ∀ dep ∈ phase.dependencyPhaseIds, dep ∈ o.workflowState.completedPhases)
    {earlier : PhaseId} (hbefore : o.workflow.Precedes earlier phase.id) :
    earlier ∈ o.workflowState.completedPhases := by
  induction hbefore using Relation.TransGen.head_induction_on with
  | single hlast =>
    obtain ⟨other, hother, hid, hmem⟩ := hlast
    have hsame := (Workflow.phase_of_row hphase).symm.trans (hid ▸ Workflow.phase_of_row hother)
    obtain rfl := Option.some.inj hsame
    exact hdeps _ hmem
  | head hfirst _ ih =>
    obtain ⟨other, hother, rfl, hmem⟩ := hfirst
    exact (h.reported other hother ih).2 _ hmem

theorem mem_readyPhases_of {phase : Phase} (hphase : phase ∈ o.workflow.phases.rows)
    (hopen : phase.id ∉ o.workflowState.completedPhases)
    (hdeps : ∀ dep ∈ phase.dependencyPhaseIds, dep ∈ o.workflowState.completedPhases) :
    phase.id ∈ o.workflow.readyPhases o.workflowState.completedPhases := by
  refine List.mem_map.mpr ⟨phase, List.mem_filter.mpr ⟨hphase, ?_⟩, rfl⟩
  simpa [hopen] using hdeps

/-- Among the phases that are not reported there is one whose turn it is. -/
theorem exists_open_phase (hw : o.workflow.Achievable phaseRank taskRank) {phaseId : PhaseId}
    (hknown : phaseId ∈ o.workflow.phaseIds) (hopen : phaseId ∉ o.workflowState.completedPhases) :
    ∃ phase ∈ o.workflow.phases.rows, phase.id ∉ o.workflowState.completedPhases ∧
      ∀ dep ∈ phase.dependencyPhaseIds, dep ∈ o.workflowState.completedPhases := by
  obtain ⟨first, ⟨hfirst, hfirstOpen⟩, hleast⟩ := exists_lowest phaseRank
    (P := fun id => id ∈ o.workflow.phaseIds ∧ id ∉ o.workflowState.completedPhases)
    ⟨phaseId, hknown, hopen⟩
  obtain ⟨phase, hphase, rfl⟩ := List.mem_map.mp hfirst
  refine ⟨phase, hphase, hfirstOpen, fun dep hdep => ?_⟩
  by_contra hnot
  obtain ⟨hdepKnown, hlower⟩ := hw.phases phase hphase dep hdep
  have hbound := hleast dep ⟨hdepKnown, hnot⟩
  omega

theorem exists_ready_task (hw : o.workflow.Achievable phaseRank taskRank) (htidy : o.Tidy)
    (hidle : o.workflowState.assignedTasks = []) (hprompt : ∀ phaseId, ¬ o.Finishable phaseId)
    (hopen : ¬ o.TasksDone) :
    ∃ taskId, Pending o.workflow o.workflowState taskId ∧
    ∀ process ∈ o.workflow.processForTask taskId,
      ∀ dep ∈ process.dependencyTaskIds, dep ∈ o.workflowState.completedTasks := by
  obtain ⟨someTask, hsomeTask, hsomeOpen⟩ :
      ∃ taskId ∈ o.workflow.taskIds, taskId ∉ o.workflowState.completedTasks := by
    simpa [TasksDone] using hopen
  obtain ⟨somePhase, hsomePhase, hmem⟩ := Workflow.mem_taskIds.mp hsomeTask
  obtain ⟨turn, hturn, hturnOpen, hturnDeps⟩ :=
    exists_open_phase hw (List.mem_map_of_mem hsomePhase)
    fun hreported => hsomeOpen ((htidy.reported somePhase hsomePhase hreported).1 someTask hmem)
  obtain ⟨candidate, hcandidate, hcandidateOpen⟩ : ∃ taskId ∈ o.workflow.taskIdsForPhase turn.id,
      taskId ∉ o.workflowState.completedTasks := by
    by_contra hnone
    refine hprompt turn.id ⟨mem_readyPhases_of hturn hturnOpen hturnDeps, fun taskId htask => ?_⟩
    by_contra hnot
    exact hnone ⟨taskId, htask, hnot⟩
  -- The first open task in the order of the dependencies, among the phases whose turn it is.
  obtain ⟨taskId, ⟨phase, hphase, hphaseOpen, hdeps, htask, htaskOpen⟩, hleast⟩ :=
    exists_lowest taskRank
    (P := fun id => ∃ phase ∈ o.workflow.phases.rows, phase.id ∉ o.workflowState.completedPhases ∧
      (∀ dep ∈ phase.dependencyPhaseIds, dep ∈ o.workflowState.completedPhases) ∧
      id ∈ o.workflow.taskIdsForPhase phase.id ∧ id ∉ o.workflowState.completedTasks)
    ⟨candidate, turn, hturn, hturnOpen, hturnDeps, hcandidate, hcandidateOpen⟩
  refine ⟨taskId, ⟨Workflow.inReadyPhase_iff.mpr ⟨phase, hphase, hphaseOpen, hdeps, htask⟩,
    ?_, htaskOpen, ?_⟩, ?_⟩
  · rw [hidle]
    exact List.not_mem_nil
  · exact htidy.resumable taskId (Workflow.mem_taskIds.mpr ⟨phase, hphase, htask⟩)
  · intro process hprocess dep hdep
    by_contra hnot
    obtain ⟨hlower, earlier, hearlier, hsame | hbefore⟩ :=
      hw.tasks phase.id (List.mem_map_of_mem hphase) taskId htask process hprocess dep hdep
    · subst hsame
      have hbound := hleast dep ⟨phase, hphase, hphaseOpen, hdeps, hearlier, hnot⟩
      omega
    · obtain ⟨before, hrow, rfl⟩ := Workflow.row_of_mem_taskIdsForPhase hearlier
      have hreported := htidy.reported_before hphase hdeps hbefore
      exact hnot ((htidy.reported before hrow hreported).1 dep hearlier)

/-- A pass looks at every pending task: what it does not assign is excluded, waits, or could not be
started. -/
theorem exists_settled {hash : IterationOrder} {workflow : Workflow} {state : WorkflowState}
    {registry : ActorRegistry} {now : Time} {strategy : Option SchedulingStrategy}
    {rankingProfile : Option ActorRankingProfile}
    (hdisjoint : ∀ id ∈ state.assignedTasks, id ∉ state.resumableTasks)
    (hdemand : ∀ process ∈ workflow.processes.rows, 0 ≤ process.demand)
    (hsupported : ∀ process ∈ workflow.processes.rows, process.preemptible = false)
    {taskId : TaskId} (hpending : Pending workflow state taskId) :
    ∃ final, MaximalInvariant workflow state registry now final ∧
      (∀ id ∈ final.remainingTaskIds, Pending workflow state id →
        Excluded workflow state final.assignments id ∨
          Waiting workflow state final.assignments id) ∧
      (plan hash workflow state registry now strategy rankingProfile).assignments.Perm
        final.assignments := by
  obtain ⟨entry, hentry, -⟩ := (pending_iff hdisjoint taskId).mp hpending
  have hvalid : validateSupportedTasks (collectPendingTasks workflow state) = none := by
    rw [validateSupportedTasks, Option.map_eq_none_iff, List.find?_eq_none]
    intro task htask
    rw [Bool.not_eq_true, (mem_collectPendingTasks htask).1.process, Option.any_eq_false]
    intro process hmem
    simpa using hsupported process (Workflow.mem_rows_of_processForTask hmem)
  have hinitial := MaximalInvariant.initial workflow registry now hdisjoint
  have hmaximal := rounds_maximal hash strategy (effectiveRankingProfile rankingProfile) hdisjoint
    (taskDemand_nonneg hdemand) _ 0 (Nat.le_refl _) hinitial
  refine ⟨_, hmaximal.1, hmaximal.2, ?_⟩
  simp only [plan, hvalid]
  rw [if_neg (by simpa using List.ne_nil_of_mem hentry)]
  exact perm_sortBy _ _

/-- A task that waits for nothing and could be placed on its own makes the plan not empty. -/
theorem plan_ne_nil {workflow : Workflow} {state : WorkflowState} {registry : ActorRegistry}
    {now : Time} (hw : workflow.Achievable phaseRank taskRank)
    (hdisjoint : ∀ id ∈ state.assignedTasks, id ∉ state.resumableTasks) {taskId : TaskId}
    (hpending : Pending workflow state taskId) (hready : ¬ Waiting workflow state [] taskId)
    (hplaceable : Placeable workflow state registry now (Set.Ici 0) [] taskId)
    (hash : IterationOrder) (strategy : Option SchedulingStrategy)
    (rankingProfile : Option ActorRankingProfile) :
    (plan hash workflow state registry now strategy rankingProfile).assignments ≠ [] := by
  intro hnil
  obtain ⟨final, hfinal, hremaining, hperm⟩ :=
    exists_settled hdisjoint hw.demands hw.supported hpending
  rw [hnil] at hperm
  have hempty : final.assignments = [] := hperm.nil_eq.symm
  rw [hempty] at hremaining
  have hnotExcluded : ¬ Excluded workflow state [] taskId := by
    rintro ⟨process, hprocess, other, hother, -⟩
    rw [hw.noExclusions process (Workflow.mem_rows_of_processForTask hprocess)] at hother
    exact absurd hother List.not_mem_nil
  have hsettled := hfinal.settled taskId hpending
  rw [hempty] at hsettled
  rcases hsettled with hremains | ⟨a, ha, -⟩ | hexcluded | ⟨-, hnone⟩
  · rcases hremaining taskId hremains hpending with hexcluded | hwaiting
    · exact hnotExcluded hexcluded
    · exact hready hwaiting
  · exact absurd ha List.not_mem_nil
  · exact hnotExcluded hexcluded
  · exact hnone.not_placeable hplaceable

/-- When nothing is in flight and a task is open, a pass plans a task that waits for nothing. -/
theorem scheduleAt_startable (hw : o.workflow.Achievable phaseRank taskRank) (htidy : o.Tidy)
    (hidle : o.workflowState.assignedTasks = []) (hprompt : ∀ phaseId, ¬ o.Finishable phaseId)
    {now : Time} (hservice : o.Serviceable now) (hopen : ¬ o.TasksDone) (hash : IterationOrder) :
    ∃ a ∈ (o.scheduleAt hash now).assignments, o.Startable a := by
  have hdisjoint : ∀ id ∈ o.workflowState.assignedTasks, id ∉ o.workflowState.resumableTasks := by
    simp [hidle]
  obtain ⟨taskId, hpending, hdeps⟩ := exists_ready_task hw htidy hidle hprompt hopen
  have hready : ¬ Waiting o.workflow o.workflowState [] taskId := by
    rintro ⟨process, hprocess, dep, hdep, hnot⟩
    exact hnot (Or.inl (hdeps process hprocess dep hdep))
  have hne := plan_ne_nil hw hdisjoint hpending hready (hservice hidle taskId hpending hready) hash
    (some o.strategy) (some o.actorRankingProfile)
  obtain ⟨someone, hsomeone⟩ := List.exists_mem_of_ne_nil _ hne
  obtain ⟨final, hfinal, hperm⟩ :=
    (PlanInvariant.kept hdisjoint).plan hash (some o.strategy) (.initial _)
    (ok_of_mem_plan hash (some o.strategy) hsomeone)
  have hfeasible := hfinal.feasible.perm hperm.symm
  -- The first planned task in the order of the dependencies waits for no other one of the plan.
  obtain ⟨_, ⟨a, ha, rfl⟩, hleast⟩ := exists_lowest taskRank
    (P := fun id => ∃ a ∈ (o.scheduleAt hash now).assignments, a.taskId = id)
    ⟨_, someone, hsomeone, rfl⟩
  obtain ⟨actor, -, hadmissible⟩ := hfeasible.admissible a ha
  obtain ⟨phase, hphase, -, -, htask⟩ := Workflow.inReadyPhase_iff.mp hadmissible.ready
  refine ⟨a, ha, ?_, hadmissible.notCompleted, hadmissible.resumable⟩
  intro process hprocess dep hdep
  rcases hfeasible.dependencies a ha process hprocess dep hdep with
    ⟨hinFlight, -⟩ | ⟨-, hcompleted, -⟩ | ⟨b, hb, hid, -⟩
  · rw [hidle] at hinFlight
    exact absurd hinFlight List.not_mem_nil
  · exact hcompleted
  · have hlower :=
      (hw.tasks phase.id (List.mem_map_of_mem hphase) a.taskId htask process hprocess dep hdep).1
    have hbound := hleast dep ⟨b, hb, hid⟩
    omega

theorem stateAfterPlanning_of_mem {hash : IterationOrder} {now : Time} {a : Assignment}
    (h : a ∈ (o.scheduleAt hash now).assignments) :
    stateAfterPlanning (o.scheduleAt hash now) = .dispatching := by
  have hok : (o.scheduleAt hash now).ok = true := ok_of_mem_plan hash (some o.strategy) h
  have hne : (o.scheduleAt hash now).assignments.isEmpty = false :=
    List.isEmpty_eq_false_iff.mpr (List.ne_nil_of_mem h)
  simp [stateAfterPlanning, hok, hne]

theorem dispatchDue_busy {now : Time} (a : Assignment) (h : o.workflowState.assignedTasks ≠ []) :
    (o.dispatchDue now a).workflowState.assignedTasks ≠ [] := by
  rcases o.dispatchDue_eq now a with ⟨-, heq⟩ | ⟨-, heq⟩
  · rw [heq]
    exact List.append_ne_nil_of_right_ne_nil _ (List.cons_ne_nil _ _)
  · rw [heq]
    exact h

theorem foldl_dispatchDue_busy {now : Time} (assignments : List Assignment)
    (h : o.workflowState.assignedTasks ≠ []) :
    (assignments.foldl (fun c b => c.dispatchDue now b) o).workflowState.assignedTasks ≠ [] := by
  induction assignments generalizing o with
  | nil => exact h
  | cons a rest ih => exact ih (dispatchDue_busy a h)

/-- The loop hands out something when one of the assignments is due. -/
theorem foldl_dispatchDue_due {now : Time} {assignments : List Assignment} {a : Assignment}
    (ha : a ∈ assignments) (hdue : o.dispatchable now a = true) :
    (assignments.foldl (fun c b => c.dispatchDue now b) o).workflowState.assignedTasks ≠ [] := by
  induction assignments with
  | nil => exact absurd ha List.not_mem_nil
  | cons b rest ih =>
    rw [List.foldl_cons]
    rcases o.dispatchDue_eq now b with ⟨-, heq⟩ | ⟨hnot, heq⟩
    · rw [heq]
      exact foldl_dispatchDue_busy rest
        (List.append_ne_nil_of_right_ne_nil _ (List.cons_ne_nil _ _))
    · rw [heq]
      rcases List.mem_cons.mp ha with rfl | hrest
      · exact absurd (hnot.symm.trans hdue) (by simp)
      · exact ih hrest

theorem dispatchAll_due {now : Time} {a : Assignment} (ha : a ∈ o.latestSchedule.assignments)
    (hstart : o.Startable a) (hidle : o.workflowState.assignedTasks = [])
    (hdue : a.startTime ≤ now) :
    (o.dispatchAll now).workflowState.assignedTasks ≠ [] := by
  have hnew : a.taskId ∉ o.workflowState.assignedTasks := by
    rw [hidle]
    exact List.not_mem_nil
  exact foldl_dispatchDue_due ha
    (dispatchable_iff.mpr ⟨hdue, hstart.dependencies, hstart.notCompleted, hnew, hstart.resumable⟩)

theorem dispatchAll_busy_or_same (o : Orchestrator) (now : Time) :
    (o.dispatchAll now).workflowState.assignedTasks ≠ [] ∨ o.dispatchAll now = o := by
  refine dispatchAll_invariant (P := fun c => c.workflowState.assignedTasks ≠ [] ∨ c = o)
    (Or.inr rfl) ?_
  intro c a _ _ _
  exact Or.inl (List.append_ne_nil_of_right_ne_nil _ (List.cons_ne_nil _ _))

theorem dispatchAll_tidy (h : o.Tidy) (now : Time) : (o.dispatchAll now).Tidy := by
  refine dispatchAll_invariant (P := Tidy) h ?_
  intro c a _ hc _
  exact ⟨fun taskId htask hmem => hc.resumable taskId htask (mem_eraseValue.mp hmem).1, hc.reported⟩

structure OnCourse (workflow : Workflow) (registered : ActorRegistry)
    (o : Orchestrator) : Prop where
  books : Bookkeeping workflow registered o
  belongs : o.Belongs
  tidy : o.Tidy
  started : o.started = true
  planner : o.fsm ≠ .completing
  awake : o.Awake

theorem notifyTaskCompleted_data (o : Orchestrator) (taskId : TaskId) (time : Time) :
    ∃ registry taskActor actorLoad, o.notifyTaskCompleted taskId time = { o with
      registry := registry
      replanRequested := true
      workflowState := { o.workflowState with
        assignedTasks := eraseValue o.workflowState.assignedTasks taskId
        completedTasks := pushNew o.workflowState.completedTasks taskId
        taskActor := taskActor
        actorLoad := actorLoad
        taskActualCompletionTime :=
          o.workflowState.taskActualCompletionTime.assign taskId time } } := by
  obtain ⟨registry, taskActor, actorLoad, heq, -⟩ :=
    o.withdraw_eq taskId (pushNew o.workflowState.completedTasks taskId)
  refine ⟨registry, taskActor, actorLoad, ?_⟩
  simp only [notifyTaskCompleted, heq, requestReplan]

theorem Tidy.notifyTaskCompleted (h : o.Tidy) (taskId : TaskId) (time : Time) :
    (o.notifyTaskCompleted taskId time).Tidy := by
  obtain ⟨registry, taskActor, actorLoad, heq⟩ := o.notifyTaskCompleted_data taskId time
  rw [heq]
  refine ⟨h.resumable, fun phase hphase hreported => ?_⟩
  obtain ⟨htasks, hdeps⟩ := h.reported phase hphase hreported
  exact ⟨fun other hother => mem_pushNew.mpr (Or.inl (htasks other hother)), hdeps⟩

theorem Tidy.completePhase (h : o.Tidy) {phaseId : PhaseId} (hfinishable : o.Finishable phaseId) :
    (o.completePhase phaseId).Tidy := by
  refine ⟨h.resumable, fun phase hphase hreported => ?_⟩
  rcases mem_pushNew.mp hreported with hold | rfl
  · obtain ⟨htasks, hdeps⟩ := h.reported phase hphase hold
    exact ⟨htasks, fun dep hdep => mem_pushNew.mpr (Or.inl (hdeps dep hdep))⟩
  · obtain ⟨hready, htasks⟩ := hfinishable
    obtain ⟨other, hother, -, hdeps⟩ := mem_readyPhases hready
    have hsame := (Workflow.phase_of_row hphase).symm.trans hother
    obtain rfl := Option.some.inj hsame
    exact ⟨htasks, fun dep hdep => mem_pushNew.mpr (Or.inl (hdeps dep hdep))⟩

/-- A phase that is reported may make the planner idle, which then plans, or leaves it to dispatch. -/
theorem Awake.completePhase (h : o.Awake) (hplanner : o.fsm ≠ .completing) (phaseId : PhaseId) :
    (o.completePhase phaseId).Awake := by
  have hfsm := fsm_completePhase hplanner phaseId
  rcases h with (hflag | hidle) | hbusy | ⟨-, a, ha, hstart⟩ | hdone
  · exact Or.inl (Or.inl hflag)
  · rw [if_pos (Or.inl hidle)] at hfsm
    exact Or.inl (Or.inr hfsm)
  · exact Or.inr (Or.inl hbusy)
  · split_ifs at hfsm
    · exact Or.inl (Or.inr hfsm)
    · exact Or.inr (Or.inr (Or.inl
        ⟨Or.inr hfsm, a, ha, ⟨hstart.dependencies, hstart.notCompleted, hstart.resumable⟩⟩))
  · exact Or.inr (Or.inr (Or.inr hdone))

theorem awake_of_planned (hw : o.workflow.Achievable phaseRank taskRank) (htidy : o.Tidy)
    (hidle : o.workflowState.assignedTasks = []) (hprompt : ∀ phaseId, ¬ o.Finishable phaseId)
    {now : Time} (hservice : o.Serviceable now) {hash : IterationOrder} {fsm : PlannerState}
    (hfsm : fsm = stateAfterPlanning (o.scheduleAt hash now)) :
    (fsm = .dispatching ∧ ∃ a ∈ (o.scheduleAt hash now).assignments, o.Startable a) ∨
    o.TasksDone := by
  by_cases hopen : o.TasksDone
  · exact Or.inr hopen
  · obtain ⟨a, ha, hstart⟩ := scheduleAt_startable hw htidy hidle hprompt hservice hopen hash
    exact Or.inl ⟨hfsm.trans (stateAfterPlanning_of_mem ha), a, ha, hstart⟩

theorem awake_tick (hw : o.workflow.Achievable phaseRank taskRank) (htidy : o.Tidy)
    (hawake : o.Awake) (hplanner : o.fsm ≠ .completing) {hash : IterationOrder} {now : Time}
    (hprompt : ∀ phaseId, ¬ o.Finishable phaseId) (hservice : o.Serviceable now) :
    (o.tick hash now).Awake := by
  rcases o.tick_eq hash now with ⟨-, fsm, heq, hfsm⟩ | ⟨-, hdispatches, heq⟩ | ⟨-, -, heq⟩
  · rw [heq]
    by_cases hidle : o.workflowState.assignedTasks = []
    · rcases awake_of_planned hw htidy hidle hprompt hservice (hfsm hplanner) with ⟨hdispatching, a,
        ha, hstart⟩ | hdone
      · exact Or.inr (Or.inr (Or.inl ⟨Or.inl hdispatching, a, ha,
          ⟨hstart.dependencies, hstart.notCompleted, hstart.resumable⟩⟩))
      · exact Or.inr (Or.inr (Or.inr hdone))
    · exact Or.inr (Or.inl hidle)
  · rw [heq]
    rcases o.dispatchAll_busy_or_same now with hbusy | hkept
    · exact Or.inr (Or.inl hbusy)
    · rw [hkept]
      rcases hawake with (hflag | hidle) | hbusy | ⟨-, a, ha, hstart⟩ | hdone
      · exact Or.inl (Or.inl hflag)
      · rcases hdispatches.2.2 with hdispatching | hrunning
        · exact absurd (hidle.symm.trans hdispatching) (by simp)
        · exact absurd (hidle.symm.trans hrunning) (by simp)
      · exact Or.inr (Or.inl hbusy)
      · exact Or.inr (Or.inr (Or.inl ⟨Or.inr rfl, a, ha,
          ⟨hstart.dependencies, hstart.notCompleted, hstart.resumable⟩⟩))
      · exact Or.inr (Or.inr (Or.inr hdone))
  · rw [heq]
    exact hawake

theorem Tidy.tick (h : o.Tidy) (hash : IterationOrder) (now : Time) : (o.tick hash now).Tidy := by
  rcases o.tick_eq hash now with ⟨-, fsm, heq, -⟩ | ⟨-, -, heq⟩ | ⟨-, -, heq⟩
  · rw [heq]
    exact ⟨h.resumable, h.reported⟩
  · rw [heq]
    exact ⟨(dispatchAll_tidy h now).resumable, (dispatchAll_tidy h now).reported⟩
  · rw [heq]
    exact h

theorem started_tick (o : Orchestrator) (hash : IterationOrder) (now : Time) :
    (o.tick hash now).started = o.started := by
  rcases o.tick_eq hash now with ⟨-, fsm, heq, -⟩ | ⟨-, -, heq⟩ | ⟨-, -, heq⟩
  · rw [heq]
  · rw [heq]
    exact (o.dispatchAll_same now).started
  · rw [heq]

section Run

variable {workflow : Workflow} {registered : ActorRegistry}

theorem isRuntime_of_cooperative {op : Operation} (h : o.Cooperative op) : op.isRuntime = true := by
  cases op with
  | tick hash now => rfl
  | notifyTaskCompleted taskId time => rfl
  | completePhase phaseId => rfl
  | _ => exact h.elim

theorem OnCourse.apply (hw : workflow.Achievable phaseRank taskRank)
    (hregistered : ∀ id actor, registered.get id = some actor → 0 ≤ actor.currentLoad)
    (h : OnCourse workflow registered o) {op : Operation} (hop : o.Cooperative op) :
    OnCourse workflow registered (o.apply op) := by
  have hbooks :=
    h.books.apply (taskDemand_nonneg hw.demands) hregistered (isRuntime_of_cooperative hop)
  have hbelongs := h.belongs.apply (isRuntime_of_cooperative hop)
  have hplanner := fsm_apply_ne_completing h.planner op
  have hachievable : o.workflow.Achievable phaseRank taskRank := by
    rw [h.books.sameWorkflow]
    exact hw
  cases op with
  | tick hash now =>
    exact ⟨hbooks, hbelongs, h.tidy.tick hash now,
      (o.started_tick hash now).trans h.started, hplanner,
      awake_tick hachievable h.tidy h.awake h.planner hop.1 hop.2⟩
  | notifyTaskCompleted taskId time =>
    obtain ⟨registry, taskActor, actorLoad, heq⟩ := o.notifyTaskCompleted_data taskId time
    have hstarted : (o.notifyTaskCompleted taskId time).started = true := by
      rw [heq]
      exact h.started
    have hflag : (o.notifyTaskCompleted taskId time).replanRequested = true := by rw [heq]
    exact ⟨hbooks, hbelongs, h.tidy.notifyTaskCompleted taskId time, hstarted, hplanner,
      Or.inl (Or.inl hflag)⟩
  | completePhase phaseId =>
    exact ⟨hbooks, hbelongs, h.tidy.completePhase hop, h.started, hplanner,
      h.awake.completePhase h.planner phaseId⟩
  | _ => exact hop.elim

/-- How many of the ids are not done. -/
def countOpen (ids done : List String) : Nat := (ids.filter fun id => id ∉ done).length

theorem countOpen_cons (id : String) (rest done : List String) :
    countOpen (id :: rest) done = countOpen rest done + if id ∈ done then 0 else 1 := by
  unfold countOpen
  by_cases hid : id ∈ done
  · simp [hid]
  · simp [hid]

theorem countOpen_pushNew_le (ids done : List String) (id : String) :
    countOpen ids (pushNew done id) ≤ countOpen ids done := by
  induction ids with
  | nil => exact Nat.le_refl 0
  | cons x rest ih =>
    rw [countOpen_cons, countOpen_cons]
    by_cases hx : x ∈ done
    · rw [if_pos hx, if_pos (mem_pushNew.mpr (Or.inl hx))]
      exact ih
    · rw [if_neg hx]
      split_ifs
      · omega
      · omega

theorem countOpen_pushNew_lt {ids done : List String} {id : String} (hmem : id ∈ ids)
    (hopen : id ∉ done) :
    countOpen ids (pushNew done id) < countOpen ids done := by
  induction ids with
  | nil => exact absurd hmem List.not_mem_nil
  | cons x rest ih =>
    have hle := countOpen_pushNew_le rest done id
    rw [countOpen_cons, countOpen_cons]
    by_cases hid : x = id
    · subst hid
      rw [if_pos (mem_pushNew.mpr (Or.inr rfl)), if_neg hopen]
      omega
    · have hrest := ih ((List.mem_cons.mp hmem).resolve_left (Ne.symm hid))
      have hsame : x ∈ pushNew done id ↔ x ∈ done := by simp [hid]
      simp only [hsame]
      omega

/-- The open tasks and the phases that are not reported. -/
def remaining (workflow : Workflow) (o : Orchestrator) : Nat :=
  countOpen workflow.taskIds o.workflowState.completedTasks + countOpen workflow.phaseIds
    o.workflowState.completedPhases

theorem remaining_tick (o : Orchestrator) (hash : IterationOrder) (now : Time) :
    remaining workflow (o.tick hash now) = remaining workflow o := by
  rcases o.tick_eq hash now with ⟨-, fsm, heq, -⟩ | ⟨-, -, heq⟩ | ⟨-, -, heq⟩
  · rw [heq]
    rfl
  · rw [heq]
    refine dispatchAll_invariant (P := fun c => remaining workflow c = remaining workflow o) rfl ?_
    intro c a _ hc _
    exact hc
  · rw [heq]

theorem remaining_notifyTaskCompleted {taskId : TaskId} (hmem : taskId ∈ workflow.taskIds)
    (hopen : taskId ∉ o.workflowState.completedTasks) (time : Time) :
    remaining workflow (o.notifyTaskCompleted taskId time) < remaining workflow o := by
  obtain ⟨registry, taskActor, actorLoad, heq⟩ := o.notifyTaskCompleted_data taskId time
  rw [heq]
  exact Nat.add_lt_add_right (countOpen_pushNew_lt hmem hopen) _

theorem remaining_completePhase {phaseId : PhaseId} (hmem : phaseId ∈ workflow.phaseIds)
    (hopen : phaseId ∉ o.workflowState.completedPhases) :
    remaining workflow (o.completePhase phaseId) < remaining workflow o :=
  Nat.add_lt_add_left (countOpen_pushNew_lt hmem hopen) _

/-- Every report of the environment leaves less to do, and a tick as much. -/
theorem OnCourse.remaining_apply (h : OnCourse workflow registered o) {op : Operation}
    (hop : o.Cooperative op) :
    (∃ hash now, op = .tick hash now) ∧ remaining workflow (o.apply op) = remaining workflow o ∨
      remaining workflow (o.apply op) < remaining workflow o := by
  cases op with
  | tick hash now => exact Or.inl ⟨⟨hash, now, rfl⟩, o.remaining_tick hash now⟩
  | notifyTaskCompleted taskId time =>
    have hmem := h.belongs.inFlight taskId hop
    rw [h.books.sameWorkflow] at hmem
    exact Or.inr (remaining_notifyTaskCompleted hmem (h.books.notCompleted taskId hop) time)
  | completePhase phaseId =>
    obtain ⟨phase, hphase, hopen, -⟩ := mem_readyPhases hop.1
    obtain ⟨hrow, rfl⟩ := (KeyedRows.get?_eq_some_iff _ _ _).mp hphase
    rw [h.books.sameWorkflow] at hrow
    exact Or.inr (remaining_completePhase (List.mem_map_of_mem hrow) hopen)
  | _ => exact hop.elim

section Cooperation

variable {start : Orchestrator} {operations : Nat → Operation}

theorem onCourse_throughout (hw : workflow.Achievable phaseRank taskRank)
    (hregistered : ∀ id actor, registered.get id = some actor → 0 ≤ actor.currentLoad)
    (hstart : OnCourse workflow registered start)
    (hcooperative : ∀ n, (start.driven operations n).Cooperative (operations n)) (n : Nat) :
    OnCourse workflow registered (start.driven operations n) :=
  drive_invariant Orchestrator.apply hstart (fun k hk => hk.apply hw hregistered (hcooperative k)) n

structure CarriedOut (workflow : Workflow) (registered : ActorRegistry) (start : Orchestrator)
    (operations : Nat → Operation) : Prop where
  onCourse : ∀ n, OnCourse workflow registered (start.driven operations n)
  cooperative : ∀ n, (start.driven operations n).Cooperative (operations n)
  fair : Fair (start.driven operations) operations

theorem CarriedOut.remaining_later (h : CarriedOut workflow registered start operations) {n m : Nat}
    (hlater : n ≤ m) :
    remaining workflow (start.driven operations m) ≤
      remaining workflow (start.driven operations n) := by
  refine stays (P := fun s => remaining workflow s ≤ remaining workflow
    (start.driven operations n)) ?_ hlater (Nat.le_refl _)
  intro k hk
  rcases (h.onCourse k).remaining_apply (h.cooperative k) with ⟨-, hsame⟩ | hless
  · exact Nat.le_trans (Nat.le_of_eq hsame) hk
  · exact Nat.le_trans (Nat.le_of_lt hless) hk

theorem CarriedOut.busy (h : CarriedOut workflow registered start operations) {n : Nat}
    (hbusy : (start.driven operations n).workflowState.assignedTasks ≠ []) :
    ∃ m, n ≤ m ∧ remaining workflow (start.driven operations m) <
      remaining workflow (start.driven operations n) := by
  obtain ⟨taskId, htask⟩ := List.exists_mem_of_ne_nil _ hbusy
  obtain ⟨m, hnm, time, hop⟩ := h.fair.completions n taskId htask
  have hinFlight := h.cooperative m
  rw [hop] at hinFlight
  have hbelongs := (h.onCourse m).belongs.inFlight taskId hinFlight
  rw [(h.onCourse m).books.sameWorkflow] at hbelongs
  have hless :=
    remaining_notifyTaskCompleted hbelongs ((h.onCourse m).books.notCompleted taskId hinFlight) time
  have hnext : start.driven operations (m + 1) =
      (start.driven operations m).notifyTaskCompleted taskId time := by
    change (start.driven operations m).apply (operations m) = _
    rw [hop]
    rfl
  refine ⟨m + 1, by omega, ?_⟩
  rw [hnext]
  exact Nat.lt_of_lt_of_le hless (h.remaining_later hnm)

/-- Nothing is in flight, and the planner hands out the assignment when it is due. -/
structure Due (workflow : Workflow) (left : Nat) (a : Assignment) (s : Orchestrator) : Prop where
  left : remaining workflow s = left
  idle : s.workflowState.assignedTasks = []
  started : s.started = true
  flag : s.replanRequested = false
  planner : s.fsm = .dispatching ∨ s.fsm = .running
  scheduled : a ∈ s.latestSchedule.assignments
  startable : s.Startable a

theorem Due.tick {left : Nat} {a : Assignment} (h : Due workflow left a o) (hash : IterationOrder)
    (now : Time) :
    (o.tick hash now).workflowState.assignedTasks ≠ [] ∨ ¬ a.startTime ≤ now ∧
      Due workflow left a (o.tick hash now) := by
  have hnotPlanned : o.planningTime (.tick hash now) = none := by
    refine if_neg fun ⟨_, hcase⟩ => ?_
    rcases hcase with hflag | hidle | hplanning
    · exact absurd (h.flag.symm.trans hflag) (by simp)
    · rcases h.planner with hdispatching | hrunning
      · exact absurd (hidle.symm.trans hdispatching) (by simp)
      · exact absurd (hidle.symm.trans hrunning) (by simp)
    · rcases h.planner with hdispatching | hrunning
      · exact absurd (hplanning.symm.trans hdispatching) (by simp)
      · exact absurd (hplanning.symm.trans hrunning) (by simp)
  rcases o.tick_eq hash now with ⟨hsome, -⟩ | ⟨-, -, heq⟩ | ⟨-, hnot, heq⟩
  · exact absurd (hnotPlanned.symm.trans hsome) (by simp)
  · rw [heq]
    rcases o.dispatchAll_busy_or_same now with hbusy | hsame
    · exact Or.inl hbusy
    · refine Or.inr ⟨fun hdue => ?_, ?_⟩
      · have hbusy := dispatchAll_due h.scheduled h.startable h.idle hdue
        rw [hsame] at hbusy
        exact hbusy h.idle
      · rw [hsame]
        exact ⟨h.left, h.idle, h.started, h.flag, Or.inr rfl, h.scheduled,
          ⟨h.startable.dependencies, h.startable.notCompleted, h.startable.resumable⟩⟩
  · exact absurd ⟨h.started, h.flag, h.planner⟩ hnot

/-- An assignment that only waits for its time is handed out, unless something is reported before. -/
theorem CarriedOut.due (h : CarriedOut workflow registered start operations) {left : Nat}
    {a : Assignment} :
    LeadsTo (start.driven operations) (Due workflow left a)
      (fun s => s.workflowState.assignedTasks ≠ [] ∧ remaining workflow s ≤ left ∨
        remaining workflow s < left) := by
  have htick :
    ∀ n hash now, operations n = .tick hash now → Due workflow left a (start.driven operations n) →
      (start.driven operations (n + 1)).workflowState.assignedTasks ≠ [] ∧
          remaining workflow (start.driven operations (n + 1)) ≤ left ∨
        ¬ a.startTime ≤ now ∧ Due workflow left a (start.driven operations (n + 1)) := by
    intro n hash now hop hdue
    have hnext : start.driven operations (n + 1) = (start.driven operations n).tick hash now := by
      change (start.driven operations n).apply (operations n) = _
      rw [hop]
      rfl
    rw [hnext]
    rcases hdue.tick hash now with hbusy | hwaits
    · exact Or.inl ⟨hbusy, Nat.le_of_eq ((remaining_tick _ hash now).trans hdue.left)⟩
    · exact Or.inr hwaits
  apply LeadsTo.of_helpful
  · intro n hdue
    rcases (h.onCourse n).remaining_apply (h.cooperative n) with ⟨⟨hash, now, hop⟩, -⟩ | hless
    · rcases htick n hash now hop hdue with hbusy | ⟨-, hwaits⟩
      · exact Or.inr (Or.inl hbusy)
      · exact Or.inl hwaits
    · exact Or.inr (Or.inr (Nat.lt_of_lt_of_eq hless hdue.left))
  · intro n hdue
    obtain ⟨m, hnm, hash, now, hop, hlate⟩ := h.fair.clock n a hdue.scheduled
    refine ⟨m, hnm, fun hstill => ?_⟩
    rcases htick m hash now hop hstill with hbusy | ⟨hearly, -⟩
    · exact Or.inl hbusy
    · exact absurd hlate hearly

theorem CarriedOut.due_progress (h : CarriedOut workflow registered start operations) {n : Nat}
    {a : Assignment}
    (hdue : Due workflow (remaining workflow (start.driven operations n)) a
      (start.driven operations n)) :
    ∃ m, n ≤ m ∧ remaining workflow (start.driven operations m) <
      remaining workflow (start.driven operations n) := by
  obtain ⟨m, hnm, ⟨hbusy, hleft⟩ | hless⟩ := h.due n hdue
  · obtain ⟨k, hmk, hless⟩ := h.busy hbusy
    exact ⟨k, by omega, by omega⟩
  · exact ⟨m, hnm, hless⟩

/-- A tick that plans while nothing is in flight finds an assignment, unless all tasks are
completed. -/
theorem CarriedOut.plans (h : CarriedOut workflow registered start operations)
    (hw : workflow.Achievable phaseRank taskRank) {n : Nat}
    (hidle : (start.driven operations n).workflowState.assignedTasks = [])
    (hplans : (start.driven operations n).replanRequested = true ∨
      (start.driven operations n).fsm = .idle) :
    ∃ m, n ≤ m ∧ ((start.driven operations m).TasksDone ∨
      remaining workflow (start.driven operations m) <
        remaining workflow (start.driven operations n)) := by
  have hcourse := h.onCourse n
  rcases hcourse.remaining_apply (h.cooperative n) with ⟨⟨hash, now, hop⟩, -⟩ | hless
  · have hcooperative := h.cooperative n
    rw [hop] at hcooperative
    have hachievable : (start.driven operations n).workflow.Achievable phaseRank taskRank := by
      rw [hcourse.books.sameWorkflow]
      exact hw
    have hplanned : (start.driven operations n).planningTime (.tick hash now) = some now := by
      refine if_pos ⟨hcourse.started, ?_⟩
      rcases hplans with hflag | hidle
      · exact Or.inl hflag
      · exact Or.inr (Or.inl hidle)
    have hnext : start.driven operations (n + 1) = (start.driven operations n).tick hash now := by
      change (start.driven operations n).apply (operations n) = _
      rw [hop]
      rfl
    have hleft : remaining workflow (start.driven operations (n + 1)) =
        remaining workflow (start.driven operations n) := by
      rw [hnext]
      exact remaining_tick _ hash now
    rcases (start.driven operations n).tick_eq hash now with ⟨-, fsm, heq, hfsm⟩ | ⟨hnone, -⟩
      | ⟨hnone, -⟩
    · rw [← hnext] at heq
      rcases awake_of_planned hachievable hcourse.tidy hidle hcooperative.1 hcooperative.2
        (hfsm hcourse.planner) with ⟨hdispatching, a, ha, hstart⟩ | hdone
      · have hdue : Due workflow (remaining workflow (start.driven operations (n + 1))) a
            (start.driven operations (n + 1)) := by
          rw [heq]
          exact ⟨rfl, hidle, hcourse.started, rfl, Or.inl hdispatching, ha,
            ⟨hstart.dependencies, hstart.notCompleted, hstart.resumable⟩⟩
        obtain ⟨m, hnm, hless⟩ := h.due_progress hdue
        exact ⟨m, by omega, Or.inr (by omega)⟩
      · exact ⟨n, Nat.le_refl n, Or.inl hdone⟩
    · exact absurd (hnone.symm.trans hplanned) (by simp)
    · exact absurd (hnone.symm.trans hplanned) (by simp)
  · exact ⟨n + 1, by omega, Or.inr hless⟩

theorem CarriedOut.tasksDone (h : CarriedOut workflow registered start operations)
    (hw : workflow.Achievable phaseRank taskRank) (n : Nat) :
    ∃ m, n ≤ m ∧ (start.driven operations m).TasksDone := by
  refine reaches_of_decreasing (remaining workflow) (fun k => ?_) n
  have hcourse := h.onCourse k
  by_cases hidle : (start.driven operations k).workflowState.assignedTasks = []
  · by_cases hplans : (start.driven operations k).replanRequested = true ∨
      (start.driven operations k).fsm = .idle
    · exact h.plans hw hidle hplans
    · obtain ⟨hflag, -⟩ := not_or.mp hplans
      rcases hcourse.awake with hplan | hbusy | ⟨hplanner, a, ha, hstart⟩ | hdone
      · exact absurd hplan hplans
      · exact absurd hidle hbusy
      · obtain ⟨m, hkm, hless⟩ := h.due_progress
          ⟨rfl, hidle, hcourse.started, Bool.eq_false_iff.mpr hflag, hplanner, ha, hstart⟩
        exact ⟨m, hkm, Or.inr hless⟩
      · exact ⟨k, Nat.le_refl k, Or.inl hdone⟩
  · obtain ⟨m, hkm, hless⟩ := h.busy hidle
    exact ⟨m, hkm, Or.inr hless⟩

theorem completedTasks_tick (o : Orchestrator) (hash : IterationOrder) (now : Time) :
    (o.tick hash now).workflowState.completedTasks = o.workflowState.completedTasks := by
  rcases o.tick_eq hash now with ⟨-, fsm, heq, -⟩ | ⟨-, -, heq⟩ | ⟨-, -, heq⟩
  · rw [heq]
  · rw [heq]
    exact (o.dispatchAll_same now).completedTasks
  · rw [heq]

theorem completedPhases_tick (o : Orchestrator) (hash : IterationOrder) (now : Time) :
    (o.tick hash now).workflowState.completedPhases = o.workflowState.completedPhases := by
  rcases o.tick_eq hash now with ⟨-, fsm, heq, -⟩ | ⟨-, -, heq⟩ | ⟨-, -, heq⟩
  · rw [heq]
  · rw [heq]
    exact dispatchAll_invariant (P := fun c => c.workflowState.completedPhases =
      o.workflowState.completedPhases) rfl
      fun _ _ _ hc _ => hc
  · rw [heq]

theorem reports_kept {op : Operation} (h : o.Cooperative op) :
    (∀ taskId ∈ o.workflowState.completedTasks,
      taskId ∈ (o.apply op).workflowState.completedTasks) ∧
      ∀ phaseId ∈ o.workflowState.completedPhases,
        phaseId ∈ (o.apply op).workflowState.completedPhases := by
  cases op with
  | tick hash now =>
    refine ⟨fun taskId htask => ?_, fun phaseId hphase => ?_⟩
    · exact (o.completedTasks_tick hash now).symm ▸ htask
    · exact (o.completedPhases_tick hash now).symm ▸ hphase
  | notifyTaskCompleted taskId time =>
    obtain ⟨registry, taskActor, actorLoad, heq⟩ := o.notifyTaskCompleted_data taskId time
    simp only [Orchestrator.apply, heq]
    exact ⟨fun other hother => mem_pushNew.mpr (Or.inl hother), fun phaseId hphase => hphase⟩
  | completePhase phaseId =>
    exact ⟨fun taskId htask => htask, fun other hother => mem_pushNew.mpr (Or.inl hother)⟩
  | _ => exact h.elim

theorem CarriedOut.tasksDone_later (h : CarriedOut workflow registered start operations) {n m : Nat}
    (hlater : n ≤ m) (hdone : (start.driven operations n).TasksDone) :
    (start.driven operations m).TasksDone := by
  refine stays (P := TasksDone) (fun k hk taskId htask => ?_) hlater hdone
  apply (reports_kept (h.cooperative k)).1
  apply hk
  rw [(h.onCourse k).books.sameWorkflow]
  rw [(h.onCourse (k + 1)).books.sameWorkflow] at htask
  exact htask

theorem CarriedOut.finished_later (h : CarriedOut workflow registered start operations) {n m : Nat}
    (hlater : n ≤ m) (hdone : (start.driven operations n).Finished) :
    (start.driven operations m).Finished := by
  refine ⟨h.tasksDone_later hlater hdone.1, ?_⟩
  rw [(h.onCourse m).books.sameWorkflow, ← (h.onCourse n).books.sameWorkflow]
  intro phaseId hphase
  refine stays (P := fun s : Orchestrator => phaseId ∈ s.workflowState.completedPhases)
    (fun k hk => ?_) hlater (hdone.2 phaseId hphase)
  exact (reports_kept (h.cooperative k)).2 phaseId hk

/-- When all tasks are completed and no phase is left to report, all phases were reported. -/
theorem finished_of_tasksDone (hw : o.workflow.Achievable phaseRank taskRank) (hdone : o.TasksDone)
    (hprompt : ∀ phaseId, ¬ o.Finishable phaseId) : o.Finished := by
  refine ⟨hdone, fun phaseId hknown => ?_⟩
  by_contra hopen
  obtain ⟨phase, hphase, hphaseOpen, hdeps⟩ := exists_open_phase hw hknown hopen
  refine hprompt phase.id ⟨mem_readyPhases_of hphase hphaseOpen hdeps, fun taskId htask => ?_⟩
  exact hdone taskId (Workflow.mem_taskIds.mpr ⟨phase, hphase, htask⟩)

theorem CarriedOut.finishes (h : CarriedOut workflow registered start operations)
    (hw : workflow.Achievable phaseRank taskRank) :
    ∃ n, ∀ m, n ≤ m → (start.driven operations m).Finished := by
  obtain ⟨n, -, hdone⟩ := h.tasksDone hw 0
  obtain ⟨k, hnk, hash, now, hop⟩ := h.fair.ticks n
  have hcooperative := h.cooperative k
  rw [hop] at hcooperative
  have hachievable : (start.driven operations k).workflow.Achievable phaseRank taskRank := by
    rw [(h.onCourse k).books.sameWorkflow]
    exact hw
  have hfinished := finished_of_tasksDone hachievable (h.tasksDone_later hnk hdone) hcooperative.1
  exact ⟨k, fun m hm => h.finished_later hm hfinished⟩

end Cooperation

end Run

/-- The planner is awake when an orchestrator was started that has an actor for every task and no
phase to report. -/
theorem awake_start (hw : o.workflow.Achievable phaseRank taskRank) (hunstarted : Unstarted o)
    (htidy : o.Tidy) (hprompt : ∀ phaseId, ¬ o.Finishable phaseId) (hservice : o.Serviceable 0)
    (hash : IterationOrder) :
    (o.start hash).Awake := by
  obtain ⟨fsm, heq, hfsm⟩ := o.start_eq hash
  have hplanner : o.fsm ≠ .completing := by simp [hunstarted.idle]
  rw [heq]
  rcases awake_of_planned hw htidy hunstarted.noneAssigned hprompt hservice (hfsm hplanner) with
    ⟨hdispatching, a, ha, hstart⟩ | hdone
  · exact Or.inr (Or.inr (Or.inl ⟨Or.inl hdispatching, a, ha,
      ⟨hstart.dependencies, hstart.notCompleted, hstart.resumable⟩⟩))
  · exact Or.inr (Or.inr (Or.inr hdone))

theorem Belongs.unstarted (h : Unstarted o) : o.Belongs := by
  refine ⟨?_, ?_⟩
  · rw [h.noneAssigned]
    exact fun taskId hmem => absurd hmem List.not_mem_nil
  · rw [h.noSchedule]
    exact fun a hmem => absurd hmem List.not_mem_nil

end Orchestrator

/-- A started orchestrator finishes its workflow, from any state of any run in which no task waits
to be marked resumable, every reported phase is done, and the planner is not asleep, if from then on
the environment cooperates and is fair: after some operation, every task and every phase is
completed for good. -/
theorem workflow_finishes {phaseRank taskRank : String → Nat} (before after : List Operation)
    (hbefore : ∀ op ∈ before, op.isStart = false) (hafter : ∀ op ∈ after, op.isRuntime = true)
    (hloads : ∀ actor ∈ (({} : Orchestrator).run before).registry.actors.rows,
      0 ≤ actor.currentLoad)
    (hw : (({} : Orchestrator).run before).workflow.Achievable phaseRank taskRank)
    (hstarted : ((({} : Orchestrator).run before).run after).started = true)
    (htidy : ((({} : Orchestrator).run before).run after).Tidy)
    (hawake : ((({} : Orchestrator).run before).run after).Awake) (operations : Nat → Operation)
    (hcooperative : ∀ n, (((({} : Orchestrator).run before).run after).driven operations
      n).Cooperative (operations n))
    (hfair : Orchestrator.Fair (((({} : Orchestrator).run before).run after).driven operations)
      operations) :
    ∃ n, ∀ m, n ≤ m →
    (((({} : Orchestrator).run before).run after).driven operations m).Finished := by
  have hbooks := bookkeeping_run hbefore hafter hw.demands hloads
  have hbelongs : ((({} : Orchestrator).run before).run after).Belongs := by
    have hmeets := meets_of_forall Orchestrator.apply (({} : Orchestrator).run before) hafter
    exact hmeets.invariant (Orchestrator.Belongs.unstarted (Orchestrator.unstarted_run hbefore))
      fun o op ho hop => ho.apply hop
  have hplanner : ((({} : Orchestrator).run before).run after).fsm ≠ .completing := by
    have hrun := Orchestrator.fsm_run_ne_completing (before ++ after)
    rwa [Orchestrator.run, runMachine_append] at hrun
  have hregistered : ∀ id actor, (({} : Orchestrator).run before).registry.get id = some actor →
      0 ≤ actor.currentLoad :=
    fun id actor hactor => hloads actor ((KeyedRows.get?_eq_some_iff _ _ _).mp hactor).1
  have hcourse := Orchestrator.onCourse_throughout hw hregistered
    ⟨hbooks, hbelongs, htidy, hstarted, hplanner, hawake⟩ hcooperative
  exact Orchestrator.CarriedOut.finishes ⟨hcourse, hcooperative, hfair⟩ hw

/-- Two phases of one task each, and an actor. The second phase and its task wait for the first. -/
def relaySetup : List Operation :=
  [.setWorkflow ((((({} : Workflow).addPhase { id := "first", processIds := ["a"] }).addPhase
      { id := "second", processIds := ["b"], dependencyPhaseIds := ["first"] }).addProcess
        { id := "a", estimatedDuration := 5 }).addProcess
          { id := "b", estimatedDuration := 5, dependencyTaskIds := ["a"] }),
    .registerActor { id := "x", availabilityWindows := [{ start := 0, stop := 20 }] }]

/-- Each task is planned, dispatched and completed, its phase is reported, and the clock goes on. -/
def relayRun : Nat → Operation
  | 0 => .tick insertionOrder 0
  | 1 => .notifyTaskCompleted "a" 5
  | 2 => .completePhase "first"
  | 3 | 4 => .tick insertionOrder 5
  | 5 => .notifyTaskCompleted "b" 10
  | 6 => .completePhase "second"
  | _ => .tick insertionOrder 10

def relayStart : Orchestrator := (({} : Orchestrator).run relaySetup).run [.start insertionOrder]

def relayState (n : Nat) : Orchestrator := relayStart.driven relayRun n

/-- The second phase and its task come later. -/
def relayRank (id : String) : Nat := if id = "second" ∨ id = "b" then 1 else 0

theorem relay_achievable :
    (({} : Orchestrator).run relaySetup).workflow.Achievable relayRank relayRank where
  phases := by decide
  tasks := by
    have hcases : ∀ phaseId ∈ (({} : Orchestrator).run relaySetup).workflow.phaseIds,
        ∀ taskId ∈ (({} : Orchestrator).run relaySetup).workflow.taskIdsForPhase phaseId,
        ∀ process ∈ (({} : Orchestrator).run relaySetup).workflow.processForTask taskId,
        ∀ dep ∈ process.dependencyTaskIds, relayRank dep < relayRank taskId ∧ dep = "a" ∧
          phaseId = "second" := by
      decide
    intro phaseId hphase taskId htask process hprocess dep hdep
    obtain ⟨hrank, rfl, rfl⟩ := hcases phaseId hphase taskId htask process hprocess dep hdep
    refine ⟨hrank, "first", by decide, Or.inr (.single ?_)⟩
    exact ⟨{ id := "second", processIds := ["b"], dependencyPhaseIds := ["first"] },
      List.mem_cons_of_mem _ (List.mem_singleton_self _), rfl, by decide⟩
  noExclusions := by decide
  supported := by decide
  demands := by decide

theorem relay_settles (n : Nat) : relayState (n + 8) = relayState 8 := by
  induction n with
  | zero => rfl
  | succ n ih =>
    change (relayState (n + 8)).tick insertionOrder 10 = _
    rw [ih]
    rfl

theorem relay_placeable {state : WorkflowState} {taskId : TaskId} {now : Time} (hnow : 0 ≤ now)
    (hstop : now + 5 ≤ 20) (havailable : "x" ∉ state.unavailableActors)
    (hidle : state.assignedTasks = []) (hload : baselineLoad relayStart.registry state "x" = 0)
    (hsuits : Suits relayStart.workflow state taskId
      { id := "x", availabilityWindows := [{ start := 0, stop := 20 }] })
    (hreleased : releaseTime relayStart.workflow state taskId ≤ now)
    (hdependencies : ∀ process ∈ relayStart.workflow.processForTask taskId,
      ∀ dep ∈ process.dependencyTaskIds, DoneBy relayStart.workflow state now [] dep now)
    (hduration : taskDuration relayStart.workflow taskId = 5)
    (hdemand : taskDemand relayStart.workflow taskId = 1)
    (hinTime : InTime relayStart.workflow taskId now) :
    Placeable relayStart.workflow state relayStart.registry now (Set.Ici 0) [] taskId := by
  refine ⟨"x", { id := "x", availabilityWindows := [{ start := 0, stop := 20 }] }, rfl, havailable,
    hsuits, now, ?_, hinTime⟩
  refine ⟨⟨Set.mem_Ici.mpr hnow, ⟨Int.le_refl now, hreleased, hdependencies, ?_, ?_⟩⟩,
    fun start hstart => hstart.2.1⟩
  · rw [hduration]
    exact fun _ => ⟨{ start := 0, stop := 20 }, List.mem_singleton_self _, hnow, hstop⟩
  · intro instant _ _
    simp [reservedDemandAt, inFlightDemandAt, hidle, hload, hdemand, assignedTo]

theorem relay_pending {o : Orchestrator} (hworkflow : o.workflow = relayStart.workflow)
    {taskId : TaskId} (h : Pending o.workflow o.workflowState taskId) :
    (taskId = "a" ∧ "first" ∉ o.workflowState.completedPhases) ∨
      taskId = "b" ∧ "first" ∈ o.workflowState.completedPhases ∧
      "second" ∉ o.workflowState.completedPhases := by
  obtain ⟨phase, hphase, hopen, hdeps, htask⟩ := Workflow.inReadyPhase_iff.mp h.ready
  rw [hworkflow] at hphase htask
  rcases List.mem_cons.mp hphase with rfl | hsecond
  · exact Or.inl ⟨List.mem_singleton.mp htask, hopen⟩
  · obtain rfl := List.mem_singleton.mp hsecond
    exact Or.inr ⟨List.mem_singleton.mp htask, hdeps "first" (List.mem_singleton_self _), hopen⟩

/-- Once both phases were reported, there is nothing to report and nothing to place. -/
theorem relay_quiet {o : Orchestrator} (hworkflow : o.workflow = relayStart.workflow)
    (hfirst : "first" ∈ o.workflowState.completedPhases)
    (hsecond : "second" ∈ o.workflowState.completedPhases) (now : Time) :
    (∀ phaseId, ¬o.Finishable phaseId) ∧ o.Serviceable now := by
  constructor
  · rintro phaseId ⟨hready, -⟩
    obtain ⟨phase, hphase, hopen, -⟩ := mem_readyPhases hready
    rw [hworkflow] at hphase
    obtain ⟨hrow, -⟩ := (KeyedRows.get?_eq_some_iff _ _ _).mp hphase
    rcases List.mem_cons.mp hrow with rfl | hrow
    · exact hopen hfirst
    · obtain rfl := List.mem_singleton.mp hrow
      exact hopen hsecond
  · intro _ taskId hpending _
    rcases relay_pending hworkflow hpending with ⟨-, hopen⟩ | ⟨-, -, hopen⟩
    · exact absurd hfirst hopen
    · exact absurd hsecond hopen

/-- While the second task waits for its dispatch. -/
theorem relay_second {o : Orchestrator} (hworkflow : o.workflow = relayStart.workflow)
    (hregistry : o.registry = (relayState 3).registry)
    (hstate : o.workflowState = (relayState 3).workflowState) :
    (∀ phaseId, ¬o.Finishable phaseId) ∧ o.Serviceable 5 := by
  refine ⟨fun phaseId ⟨hready, htasks⟩ => ?_, fun _ taskId hpending _ => ?_⟩
  · rw [hworkflow, hstate] at hready htasks
    obtain rfl : phaseId = "second" := List.mem_singleton.mp hready
    exact absurd (htasks "b" (List.mem_singleton_self _)) (by decide)
  · rcases relay_pending hworkflow hpending with ⟨-, hopen⟩ | ⟨rfl, -, -⟩
    · rw [hstate] at hopen
      exact absurd (List.mem_singleton_self _) hopen
    · have hdone : DoneBy relayStart.workflow (relayState 3).workflowState 5 [] "a" 5 :=
        Or.inr (Or.inl (by decide))
      have hdependencies : ∀ process ∈ relayStart.workflow.processForTask "b",
          ∀ dep ∈ process.dependencyTaskIds,
          DoneBy relayStart.workflow (relayState 3).workflowState 5 [] dep 5 := by
        intro process hprocess dep hdep
        obtain rfl := Option.some.inj hprocess
        obtain rfl := List.mem_singleton.mp hdep
        exact hdone
      rw [hworkflow, hregistry, hstate]
      exact relay_placeable (by decide) (by decide) (by decide) rfl (by decide)
        ⟨by decide, by decide, by decide, by decide⟩ (by decide) hdependencies (by decide)
        (by decide) ⟨by decide, by decide⟩

theorem relay_cooperative (n : Nat) : (relayState n).Cooperative (relayRun n) := by
  match n with
  | 0 =>
    refine ⟨fun phaseId hfinishable => ?_, fun _ taskId hpending _ => ?_⟩
    · obtain rfl : phaseId = "first" := List.mem_singleton.mp hfinishable.1
      exact absurd (hfinishable.2 "a" (List.mem_singleton_self _)) List.not_mem_nil
    · rcases relay_pending rfl hpending with ⟨rfl, -⟩ | ⟨-, hfirst, -⟩
      · have hdependencies : ∀ process ∈ relayStart.workflow.processForTask "a",
            ∀ dep ∈ process.dependencyTaskIds,
            DoneBy relayStart.workflow relayStart.workflowState 0 [] dep 0 := by
          intro process hprocess dep hdep
          obtain rfl := Option.some.inj hprocess
          exact absurd hdep List.not_mem_nil
        exact relay_placeable (by decide) (by decide) (by decide) rfl (by decide)
          ⟨by decide, by decide, by decide, by decide⟩ (by decide) hdependencies (by decide)
          (by decide) ⟨by decide, by decide⟩
      · exact absurd hfirst List.not_mem_nil
  | 1 => exact List.mem_singleton_self _
  | 2 => exact ⟨List.mem_singleton_self _, by decide⟩
  | 3 => exact @relay_second (relayState 3) rfl rfl rfl
  | 4 => exact @relay_second (relayState 4) rfl rfl rfl
  | 5 => exact List.mem_singleton_self _
  | 6 => exact ⟨List.mem_singleton_self _, by decide⟩
  | 7 => exact @relay_quiet (relayState 7) rfl (by decide) (by decide) 10
  | n + 8 =>
    rw [relay_settles]
    exact @relay_quiet (relayState 8) rfl (by decide) (by decide) 10

theorem relay_fair : Orchestrator.Fair relayState relayRun where
  ticks n := ⟨n + 7, by omega, insertionOrder, 10, rfl⟩
  completions n taskId htask := by
    match n with
    | 1 =>
      obtain rfl : taskId = "a" := List.mem_singleton.mp htask
      exact ⟨1, Nat.le_refl 1, 5, rfl⟩
    | 5 =>
      obtain rfl : taskId = "b" := List.mem_singleton.mp htask
      exact ⟨5, Nat.le_refl 5, 10, rfl⟩
    | 0 | 2 | 3 | 4 | 6 | 7 => exact absurd htask List.not_mem_nil
    | n + 8 =>
      rw [relay_settles] at htask
      exact absurd htask List.not_mem_nil
  clock n a ha := by
    have hsoon : ∀ b ∈ (relayState n).latestSchedule.assignments, b.startTime ≤ 10 := by
      match n with
      | 0 | 1 | 2 | 3 | 4 | 5 | 6 | 7 => decide
      | n + 8 =>
        rw [relay_settles]
        decide
    exact ⟨n + 7, by omega, insertionOrder, 10, rfl, hsoon a ha⟩

theorem workflow_finishes_relay : ∃ n, ∀ m, n ≤ m → (relayState m).Finished := by
  have hunstarted := @Orchestrator.unstarted_run relaySetup (by decide)
  have htidy : ∀ o : Orchestrator, o.workflow = relayStart.workflow → o.workflowState = {} →
      o.Tidy := by
    intro o _ hstate
    refine ⟨?_, ?_⟩
    · rw [hstate]
      exact fun taskId _ => List.not_mem_nil
    · rw [hstate]
      exact fun phase _ hreported => absurd hreported List.not_mem_nil
  obtain ⟨hprompt, hserviceable⟩ := relay_cooperative 0
  exact workflow_finishes relaySetup [.start insertionOrder] (by decide) (by decide)
    (by decide) relay_achievable rfl (htidy _ rfl rfl)
    (Orchestrator.awake_start relay_achievable hunstarted
      (htidy _ rfl rfl) hprompt hserviceable insertionOrder)
    relayRun relay_cooperative relay_fair

end TaskOrchestrator.Core
