import TaskOrchestrator.Core.Bookkeeping

/-!
# Dispatch from the latest schedule

A schedule is computed in one state and handed out in later ones. Between the two only quiet
operations are possible: those that neither plan nor ask for a new plan. What they leave of
the state in which the schedule was computed is enough for every property of a dispatch.
-/

namespace TaskOrchestrator.Core

open Library

set_option autoImplicit false

structure RunsAs (workflow : Workflow) (state : WorkflowState) (a : Assignment) : Prop where
  actor : state.taskActor.lookup a.taskId = some a.actorId
  start : state.taskPlannedStartTime.lookup a.taskId = some a.startTime
  stop : state.taskPlannedEndTime.lookup a.taskId =
    some (a.startTime + taskDuration workflow a.taskId)

structure RunsOn (past state : WorkflowState) (taskId : TaskId) : Prop where
  inFlight : taskId ∈ past.assignedTasks
  actor : state.taskActor.lookup taskId = past.taskActor.lookup taskId
  start : state.taskPlannedStartTime.lookup taskId = past.taskPlannedStartTime.lookup taskId
  stop : state.taskPlannedEndTime.lookup taskId = past.taskPlannedEndTime.lookup taskId

theorem RunsOn.trans {past middle state : WorkflowState} {taskId : TaskId}
    (h : RunsOn past middle taskId) (hnext : RunsOn middle state taskId) :
    RunsOn past state taskId :=
  ⟨h.inFlight, hnext.actor.trans h.actor, hnext.start.trans h.start, hnext.stop.trans h.stop⟩

theorem RunsAs.later {workflow : Workflow} {past state : WorkflowState} {a : Assignment}
    (h : RunsAs workflow past a) (hnext : RunsOn past state a.taskId) : RunsAs workflow state a :=
  ⟨hnext.actor.trans h.actor, hnext.start.trans h.start, hnext.stop.trans h.stop⟩

/-- A tick has handed out some assignments of the latest schedule that were due. -/
structure HandedOut (o : Orchestrator) (now : Time) (c : Orchestrator) : Prop where
  same : Orchestrator.SameButForTasks o c
  unresumable : ∀ taskId, taskId ∈ c.workflowState.unresumableTasks ↔
    taskId ∈ o.workflowState.unresumableTasks
  kept : ∀ taskId ∈ o.workflowState.assignedTasks, taskId ∈ c.workflowState.assignedTasks
  origin : ∀ taskId ∈ c.workflowState.assignedTasks, RunsOn o.workflowState c.workflowState taskId ∨
    taskId ∉ o.workflowState.assignedTasks ∧ ∃ a ∈ o.latestSchedule.assignments, a.taskId = taskId ∧
      o.dispatchable now a = true ∧ RunsAs o.workflow c.workflowState a

section Dispatch

variable {o c : Orchestrator} {now : Time} {a : Assignment}

theorem runsAs_dispatch : RunsAs c.workflow (c.dispatch a).workflowState a := by
  constructor
  all_goals
    change (Dictionary.assign _ a.taskId _).lookup a.taskId = _
    rw [Dictionary.lookup_assign, if_pos rfl]

theorem runsOn_dispatch {taskId : TaskId} (hmem : taskId ∈ c.workflowState.assignedTasks)
    (hne : a.taskId ≠ taskId) : RunsOn c.workflowState (c.dispatch a).workflowState taskId := by
  refine ⟨hmem, ?_, ?_, ?_⟩
  all_goals
    change (Dictionary.assign _ a.taskId _).lookup taskId = _
    rw [Dictionary.lookup_assign, if_neg hne]

theorem HandedOut.dispatchable (h : HandedOut o now c) (hdue : c.dispatchable now a = true) :
    o.dispatchable now a = true := by
  rw [Orchestrator.dispatchable_iff, h.same.workflow, h.same.completedTasks] at hdue
  obtain ⟨hstart, hdependencies, hcompleted, hassigned, hunresumable⟩ := hdue
  exact Orchestrator.dispatchable_iff.mpr ⟨hstart, hdependencies, hcompleted,
    fun hmem => hassigned (h.kept a.taskId hmem),
      fun hmem => hunresumable ((h.unresumable a.taskId).mpr hmem)⟩

theorem HandedOut.dispatch (h : HandedOut o now c) (ha : a ∈ o.latestSchedule.assignments)
    (hdue : c.dispatchable now a = true) : HandedOut o now (c.dispatch a) := by
  obtain ⟨-, -, -, hnew, hresumable⟩ := Orchestrator.dispatchable_iff.mp hdue
  have hsame := h.same
  refine ⟨⟨hsame.workflow, hsame.fsm, hsame.latestSchedule, hsame.started, hsame.replanRequested,
    hsame.completedTasks, hsame.unavailableActors⟩, ?_, ?_, ?_⟩
  · intro taskId
    change taskId ∈ eraseValue c.workflowState.unresumableTasks a.taskId ↔ _
    rw [mem_eraseValue, ← h.unresumable]
    constructor
    · exact And.left
    · intro hmem
      exact ⟨hmem, fun heq => hresumable (heq ▸ hmem)⟩
  · intro taskId hmem
    exact List.mem_append_left _ (h.kept taskId hmem)
  · intro taskId hmem
    rcases List.mem_append.mp hmem with hmem | hmem
    · have hne : a.taskId ≠ taskId := fun heq => hnew (heq ▸ hmem)
      have hruns := runsOn_dispatch (a := a) hmem hne
      rcases h.origin taskId hmem with hbefore | ⟨hnot, b, hb, rfl, hbdue, hbruns⟩
      · exact Or.inl (hbefore.trans hruns)
      · exact Or.inr ⟨hnot, b, hb, rfl, hbdue, hbruns.later hruns⟩
    · obtain rfl := List.mem_singleton.mp hmem
      refine Or.inr ⟨fun hold => hnew (h.kept a.taskId hold), a, ha, rfl, h.dispatchable hdue, ?_⟩
      exact h.same.workflow ▸ runsAs_dispatch

theorem handedOut_dispatchAll (o : Orchestrator) (now : Time) :
    HandedOut o now (o.dispatchAll now) := by
  refine Orchestrator.dispatchAll_invariant (P := HandedOut o now) ?_ fun c a ha hc hdue =>
    hc.dispatch ha hdue
  exact ⟨⟨rfl, rfl, rfl, rfl, rfl, rfl, rfl⟩, fun _ => Iff.rfl, fun _ => id, fun _ hmem =>
    Or.inl ⟨hmem, rfl, rfl, rfl⟩⟩

theorem tick_origin {hash : IterationOrder} {taskId : TaskId}
    (hnew : taskId ∉ o.workflowState.assignedTasks)
    (hmem : taskId ∈ (o.tick hash now).workflowState.assignedTasks) :
    o.dispatches ∧ ∃ a ∈ o.latestSchedule.assignments, a.taskId = taskId ∧
    o.dispatchable now a = true ∧
      RunsAs o.workflow (o.tick hash now).workflowState a := by
  rcases o.tick_eq hash now with ⟨-, fsm, heq, -⟩ | ⟨-, hdispatches, heq⟩ | ⟨-, -, heq⟩
  · rw [heq] at hmem
    exact absurd hmem hnew
  · rw [heq] at hmem ⊢
    rcases (handedOut_dispatchAll o now).origin taskId hmem with hbefore | ⟨-, horigin⟩
    · exact absurd hbefore.inFlight hnew
    · exact ⟨hdispatches, horigin⟩
  · rw [heq] at hmem
    exact absurd hmem hnew

def Operation.tickTime : Operation → Option Time
  | .tick _ now => some now
  | _ => none

theorem runsOn_apply {op : Operation} (hop : op.isRuntime = true)
    (hnone : ∀ now ∈ op.tickTime, ¬ o.dispatches) {taskId : TaskId}
    (hmem : taskId ∈ (o.apply op).workflowState.assignedTasks) :
    RunsOn o.workflowState (o.apply op).workflowState taskId := by
  have hwithdraw : ∀ id completed, taskId ∈ (o.withdraw id completed).workflowState.assignedTasks →
      RunsOn o.workflowState (o.withdraw id completed).workflowState taskId := by
    intro id completed hmem
    obtain ⟨registry, taskActor, actorLoad, heq, hactors, -⟩ := o.withdraw_eq id completed
    rw [heq] at hmem ⊢
    obtain ⟨hmem, hne⟩ := mem_eraseValue.mp hmem
    refine ⟨hmem, ?_, rfl, rfl⟩
    exact (hactors taskId).trans (if_neg (Ne.symm hne))
  cases op, hop using Operation.runtimeCases with
  | start hash => exact ⟨hmem, rfl, rfl, rfl⟩
  | tick hash now =>
    rw [Orchestrator.apply] at hmem ⊢
    rcases o.tick_eq hash now with ⟨-, fsm, heq, -⟩ | ⟨-, hdispatches, -⟩ | ⟨-, -, heq⟩
    · rw [heq] at hmem ⊢
      exact ⟨hmem, rfl, rfl, rfl⟩
    · exact absurd hdispatches (hnone now rfl)
    · rw [heq] at hmem ⊢
      exact ⟨hmem, rfl, rfl, rfl⟩
  | setActorUnavailable actorId unavailable =>
    simp only [Orchestrator.apply, Orchestrator.setActorUnavailable] at hmem ⊢
    split_ifs at hmem ⊢
    all_goals exact ⟨hmem, rfl, rfl, rfl⟩
  | notifyTaskFailed id resumable =>
    simp only [Orchestrator.apply, Orchestrator.notifyTaskFailed] at hmem ⊢
    split_ifs at hmem ⊢
    all_goals
      have hruns := hwithdraw id _ hmem
      exact ⟨hruns.inFlight, hruns.actor, hruns.start, hruns.stop⟩
  | notifyTaskCompleted id actualCompletionTime =>
    have hruns := hwithdraw id _ hmem
    exact ⟨hruns.inFlight, hruns.actor, hruns.start, hruns.stop⟩
  | markTaskResumable id => exact ⟨hmem, rfl, rfl, rfl⟩
  | completePhase phaseId => exact ⟨hmem, rfl, rfl, rfl⟩

end Dispatch

/-- An operation that neither plans nor asks for a plan. -/
def Quiet (o : Orchestrator) (op : Operation) : Prop :=
  op.isRuntime = true ∧ o.planningTime op = none ∧ o.requestsReplan op = false

structure SincePlanning (workflow : Workflow) (past : WorkflowState) (schedule : ScheduleResult)
    (o : Orchestrator) : Prop where
  sameWorkflow : o.workflow = workflow
  latestSchedule : o.latestSchedule = schedule
  completed : ∀ taskId ∈ o.workflowState.completedTasks, taskId ∈ past.completedTasks
  unavailableActors : o.workflowState.unavailableActors = past.unavailableActors
  origin : ∀ taskId ∈ o.workflowState.assignedTasks, RunsOn past o.workflowState taskId ∨
    ∃ a ∈ schedule.assignments, a.taskId = taskId ∧ RunsAs workflow o.workflowState a

section Quiet

variable {workflow : Workflow} {past : WorkflowState} {schedule : ScheduleResult} {o : Orchestrator}

theorem SincePlanning.step (h : SincePlanning workflow past schedule o) {c : Orchestrator}
    (hworkflow : c.workflow = o.workflow) (hschedule : c.latestSchedule = o.latestSchedule)
    (hcompleted : ∀ taskId ∈ c.workflowState.completedTasks,
      taskId ∈ o.workflowState.completedTasks)
    (hunavailable : c.workflowState.unavailableActors = o.workflowState.unavailableActors)
    (horigin : ∀ taskId ∈ c.workflowState.assignedTasks,
      RunsOn o.workflowState c.workflowState taskId ∨
      ∃ a ∈ schedule.assignments, a.taskId = taskId ∧ RunsAs workflow c.workflowState a) :
    SincePlanning workflow past schedule c := by
  refine ⟨hworkflow.trans h.sameWorkflow, hschedule.trans h.latestSchedule,
    fun taskId hmem => h.completed taskId (hcompleted taskId hmem),
      hunavailable.trans h.unavailableActors, ?_⟩
  intro taskId hmem
  rcases horigin taskId hmem with hruns | hassigned
  · rcases h.origin taskId hruns.inFlight with hbefore | ⟨a, ha, rfl, hbefore⟩
    · exact Or.inl (hbefore.trans hruns)
    · exact Or.inr ⟨a, ha, rfl, hbefore.later hruns⟩
  · exact Or.inr hassigned

theorem SincePlanning.apply (h : SincePlanning workflow past schedule o) {op : Operation}
    (hquiet : Quiet o op) :
    SincePlanning workflow past schedule (o.apply op) := by
  obtain ⟨hop, hplans, hrequests⟩ := hquiet
  cases op, hop using Operation.runtimeCases with
  | start hash => exact absurd hplans (by simp [Orchestrator.planningTime])
  | tick hash now =>
    rw [Orchestrator.apply]
    rcases o.tick_eq hash now with ⟨hsome, -⟩ | ⟨-, -, heq⟩ | ⟨-, -, heq⟩
    · exact absurd (hplans.symm.trans hsome) (by simp)
    · rw [heq]
      have hout := handedOut_dispatchAll o now
      refine h.step hout.same.workflow hout.same.latestSchedule
        (fun _ hmem => hout.same.completedTasks ▸ hmem)
        hout.same.unavailableActors ?_
      intro taskId hmem
      rcases hout.origin taskId hmem with hruns | ⟨-, a, ha, hid, -, hruns⟩
      · exact Or.inl hruns
      · exact Or.inr ⟨a, h.latestSchedule ▸ ha, hid, h.sameWorkflow ▸ hruns⟩
    · rw [heq]
      exact h
  | setActorUnavailable actorId unavailable =>
    have heq : o.setActorUnavailable actorId unavailable = o := by
      unfold Orchestrator.requestsReplan at hrequests
      unfold Orchestrator.setActorUnavailable
      dsimp only at hrequests ⊢
      split_ifs at hrequests ⊢ with hset hmem hmem
      all_goals first | rfl | exact absurd hrequests (by simp [hmem])
    rw [Orchestrator.apply, heq]
    exact h
  | notifyTaskFailed taskId resumable =>
    obtain rfl : resumable = false := hrequests
    obtain ⟨registry, taskActor, actorLoad, heq, hactors, -⟩ :=
      o.withdraw_eq taskId (eraseValue o.workflowState.completedTasks taskId)
    simp only [Orchestrator.apply, Orchestrator.notifyTaskFailed, heq, Bool.false_eq_true, if_false]
    refine h.step rfl rfl (fun _ hmem => (mem_eraseValue.mp hmem).1) rfl ?_
    intro other hmem
    obtain ⟨hmem, hne⟩ := mem_eraseValue.mp hmem
    refine Or.inl ⟨hmem, ?_, rfl, rfl⟩
    change taskActor.lookup other = _
    rw [hactors, if_neg (Ne.symm hne)]
  | notifyTaskCompleted taskId actualCompletionTime =>
    exact absurd hrequests (by simp [Orchestrator.requestsReplan])
  | markTaskResumable taskId => exact absurd hrequests (by simp [Orchestrator.requestsReplan])
  | completePhase phaseId =>
    exact h.step rfl rfl (fun _ => id) rfl fun _ hmem => Or.inl ⟨hmem, rfl, rfl, rfl⟩

end Quiet

theorem latestSchedule_apply {o : Orchestrator} {op : Operation} (hop : op.isRuntime = true)
    (hplans : o.planningTime op = none) : (o.apply op).latestSchedule = o.latestSchedule := by
  cases op, hop using Operation.runtimeCases with
  | start hash => exact absurd hplans (by simp [Orchestrator.planningTime])
  | tick hash now =>
    rw [Orchestrator.apply]
    rcases o.tick_eq hash now with ⟨hsome, -⟩ | ⟨-, -, heq⟩ | ⟨-, -, heq⟩
    · exact absurd (hplans.symm.trans hsome) (by simp)
    · rw [heq]
      exact (o.dispatchAll_same now).latestSchedule
    · rw [heq]
  | setActorUnavailable actorId unavailable =>
    simp only [Orchestrator.apply, Orchestrator.setActorUnavailable]
    split_ifs
    all_goals rfl
  | notifyTaskFailed taskId resumable =>
    obtain ⟨registry, taskActor, actorLoad, heq, -⟩ :=
      o.withdraw_eq taskId (eraseValue o.workflowState.completedTasks taskId)
    simp only [Orchestrator.apply, Orchestrator.notifyTaskFailed, heq]
    cases resumable <;> rfl
  | notifyTaskCompleted taskId actualCompletionTime =>
    obtain ⟨registry, taskActor, actorLoad, heq, -⟩ :=
      o.withdraw_eq taskId (pushNew o.workflowState.completedTasks taskId)
    simp only [Orchestrator.apply, Orchestrator.notifyTaskCompleted, heq]
    rfl
  | markTaskResumable taskId => rfl
  | completePhase phaseId => rfl

/-- When no plan is asked for at the end of a run without planning, none was asked for in it. -/
theorem quiet_of_not_requested {s : Orchestrator} {operations : List Operation}
    (h : Meets Orchestrator.apply (fun o op => op.isRuntime = true ∧ o.planningTime op = none) s
      operations)
    (hflag : (s.run operations).replanRequested = false) :
    s.replanRequested = false ∧ Meets Orchestrator.apply Quiet s operations := by
  induction operations generalizing s with
  | nil => exact ⟨hflag, trivial⟩
  | cons op rest ih =>
    obtain ⟨⟨hop, hplans⟩, hrest⟩ := h
    obtain ⟨hnext, hquiet⟩ := ih hrest hflag
    rw [Orchestrator.replanRequested_apply hop hplans, Bool.or_eq_false_iff] at hnext
    exact ⟨hnext.1, ⟨hop, hplans, hnext.2⟩, hquiet⟩

structure Plans (o : Orchestrator) (op : Operation) (schedule : ScheduleResult)
    (time : Time) : Prop where
  plansFor : o.planningTime op = some time
  computed : ∃ hash, schedule = o.scheduleAt hash time
  stored : (o.apply op).latestSchedule = schedule
  state : (o.apply op).workflowState = o.workflowState
  workflow : (o.apply op).workflow = o.workflow
  registry : (o.apply op).registry = o.registry

theorem exists_plans {o : Orchestrator} {op : Operation} (h : o.planningTime op ≠ none) :
    ∃ schedule time, Plans o op schedule time := by
  cases op with
  | start hash =>
    obtain ⟨fsm, heq, -⟩ := o.start_eq hash
    have heq : o.apply (.start hash) = _ := heq
    exact ⟨o.scheduleAt hash 0, 0, rfl,
      ⟨hash, rfl⟩, by rw [heq], by rw [heq], by rw [heq], by rw [heq]⟩
  | tick hash now =>
    rcases o.tick_eq hash now with ⟨htime, fsm, heq, -⟩ | ⟨hnone, -⟩ | ⟨hnone, -⟩
    · have heq : o.apply (.tick hash now) = _ := heq
      exact ⟨o.scheduleAt hash now, now, htime,
        ⟨hash, rfl⟩, by rw [heq], by rw [heq], by rw [heq], by rw [heq]⟩
    · exact absurd hnone h
    · exact absurd hnone h
  | _ => exact absurd rfl h

/-- When no plan is asked for, a schedule that assigns something was computed by an operation
after which all are quiet. -/
theorem exists_planning {initial : Orchestrator}
    (hinitial : initial.latestSchedule.assignments = []) {after : List Operation}
    (hafter : ∀ op ∈ after, op.isRuntime = true)
    (hflag : (initial.run after).replanRequested = false)
    (hschedule : (initial.run after).latestSchedule.assignments ≠ []) :
    ∃ past op rest time, after = past ++ op :: rest ∧
      Plans (initial.run past) op (initial.run after).latestSchedule time ∧
      Meets Orchestrator.apply Quiet ((initial.run past).apply op) rest := by
  have hruntime := meets_of_forall Orchestrator.apply initial hafter
  rcases last_of_kind Orchestrator.apply (fun o op => o.planningTime op ≠ none) initial after with
    hnone | ⟨past, op, rest, rfl, hplans, hrest⟩
  · -- Nothing was planned, so the schedule is still the first one.
    refine absurd ?_ hschedule
    refine (hruntime.and hnone).invariant (P := fun o => o.latestSchedule.assignments =
      []) hinitial ?_
    intro o op ho ⟨hop, hplans⟩
    rw [latestSchedule_apply hop (not_not.mp hplans)]
    exact ho
  · obtain ⟨schedule, time, h⟩ := exists_plans hplans
    have hsplit := (meets_append.mp hruntime).2.2
    have hrun : initial.run (past ++ op :: rest) = ((initial.run past).apply op).run rest :=
      runMachine_append Orchestrator.apply initial past (op :: rest)
    have hmeets : Meets Orchestrator.apply (fun o op => op.isRuntime = true ∧
        o.planningTime op = none) ((initial.run past).apply op) rest :=
      (hsplit.and hrest).mono fun o op h => ⟨h.1, not_not.mp h.2⟩
    obtain ⟨-, hquiet⟩ := quiet_of_not_requested hmeets (hrun ▸ hflag)
    refine ⟨past, op, rest, time, rfl, ?_, hquiet⟩
    have hstored : (initial.run (past ++ op :: rest)).latestSchedule = schedule := by
      rw [hrun]
      refine hquiet.invariant (P := fun o => o.latestSchedule = schedule) h.stored ?_
      intro o op ho hq
      rw [latestSchedule_apply hq.1 hq.2.1]
      exact ho
    rw [hstored]
    exact h

theorem SincePlanning.run {s : Orchestrator} {op : Operation} {schedule : ScheduleResult}
    {time : Time} (h : Plans s op schedule time) {rest : List Operation}
    (hquiet : Meets Orchestrator.apply Quiet (s.apply op) rest) :
    SincePlanning s.workflow s.workflowState schedule ((s.apply op).run rest) := by
  refine hquiet.invariant ?_ fun o op ho hq => ho.apply hq
  refine ⟨h.workflow, h.stored, fun taskId hmem => h.state ▸ hmem, by rw [h.state],
    fun taskId hmem => Or.inl ?_⟩
  rw [h.state] at hmem ⊢
  exact ⟨hmem, rfl, rfl, rfl⟩

/-- A task goes in flight only when it is due, its dependencies are completed, nothing bars it
and its actor is available, and from a schedule that was computed after the last operation
that asked for one. -/
theorem dispatch_timely (before after : List Operation)
    (hbefore : ∀ op ∈ before, op.isStart = false) (hafter : ∀ op ∈ after, op.isRuntime = true)
    (hash : IterationOrder) (now : Time) (taskId : TaskId)
    (hnew : taskId ∉ ((({} : Orchestrator).run before).run after).workflowState.assignedTasks)
    (hassigned : taskId ∈
      (((({} : Orchestrator).run before).run after).tick hash now).workflowState.assignedTasks) :
    let initial := ({} : Orchestrator).run before
    let o := initial.run after
    let state := o.workflowState
    ∃ a ∈ o.latestSchedule.assignments, a.taskId = taskId ∧
      RunsAs o.workflow (o.tick hash now).workflowState a ∧ a.startTime ≤ now ∧
      (∀ process ∈ o.workflow.processForTask taskId, ∀ dep ∈ process.dependencyTaskIds,
        dep ∈ state.completedTasks) ∧
      taskId ∉ state.completedTasks ∧ taskId ∉ state.assignedTasks ∧
        taskId ∉ state.unresumableTasks ∧
      a.actorId ∉ state.unavailableActors ∧
      ∃ past op rest time, after = past ++ op :: rest ∧
        Plans (initial.run past) op o.latestSchedule time ∧
        Meets Orchestrator.apply (fun c op => c.requestsReplan op = false)
          ((initial.run past).apply op) rest := by
  intro initial o state
  obtain ⟨hdispatches, a, ha, rfl, hdue, hruns⟩ := tick_origin hnew hassigned
  obtain ⟨hstart, hdependencies, hcompleted, hinFlight, hunresumable⟩ :=
    Orchestrator.dispatchable_iff.mp hdue
  obtain ⟨past, op, rest, time, rfl, hplans, hquiet⟩ :=
    exists_planning (Orchestrator.unstarted_run hbefore).noSchedule
    hafter hdispatches.2.1 (List.ne_nil_of_mem ha)
  have hsince := SincePlanning.run hplans hquiet
  have hrun : initial.run (past ++ op :: rest) = ((initial.run past).apply op).run rest :=
    runMachine_append Orchestrator.apply initial past (op :: rest)
  rw [← hrun] at hsince
  obtain ⟨planHash, hschedule⟩ := hplans.computed
  obtain ⟨actor, hoffered⟩ :=
    plan_offered (show a ∈ ((initial.run past).scheduleAt planHash time).assignments from
      hschedule ▸ ha)
  refine ⟨a, ha, rfl, hruns, hstart, hdependencies, hcompleted, hinFlight, hunresumable, ?_, past,
    op, rest, time, rfl, hplans, hquiet.mono fun _ _ h => h.2.2⟩
  rw [show state.unavailableActors = _ from hsince.unavailableActors]
  exact hoffered.available

theorem dispatch_timely_first_task :
    ∃ a ∈ ((({} : Orchestrator).run exampleSetup).run
      [.start insertionOrder]).latestSchedule.assignments,
      a.taskId = "a" ∧ a.startTime ≤ 0 := by
  obtain ⟨a, ha, hid, -, hstart, -⟩ :=
    dispatch_timely exampleSetup [.start insertionOrder] (by decide) (by decide)
    insertionOrder 0 "a" (by decide) (by decide)
  exact ⟨a, ha, hid, hstart⟩

end TaskOrchestrator.Core
