import TaskOrchestrator.Core.Dispatching

/-!
# Successive workflows

Setting a workflow clears the workflow state and nothing else: the schedule of the workflow
before it, the state of the planner and the loads of the actors stay. The new workflow is
isolated from the old one when the old schedule will be replaced before it is dispatched from,
or has no foreign task, and when nothing that takes capacity is in flight.
-/

namespace TaskOrchestrator.Core

open Library

set_option autoImplicit false

def IsTaskOf (workflow : Workflow) (taskId : TaskId) : Prop :=
  (workflow.processForTask taskId).isSome

theorem InReadyPhase.isTaskOf {workflow : Workflow} {state : WorkflowState} {taskId : TaskId}
    (h : InReadyPhase workflow state taskId) : IsTaskOf workflow taskId := by
  obtain ⟨phase, -, -, -, processId, -, process, hprocess, hmem⟩ := h
  unfold IsTaskOf Workflow.processForTask
  cases hown : workflow.process taskId with
  | some own => rfl
  | none =>
    obtain ⟨hrow, hkey⟩ := (KeyedRows.get?_eq_some_iff _ _ _).mp hprocess
    rcases List.mem_cons.mp hmem with rfl | hsub
    · have hsome : workflow.process process.id = some process :=
        (KeyedRows.get?_eq_some_iff _ _ _).mpr ⟨hrow, rfl⟩
      exact absurd (hown.symm.trans hsome) (by simp)
    · rw [List.find?_isSome]
      exact ⟨process, hrow, by simpa using hsub⟩

/-- The latest schedule is of the workflow, or a tick will plan before it dispatches. -/
def ScheduleCurrent (o : Orchestrator) : Prop :=
  o.replanRequested = true ∨ o.fsm = .idle ∨ ∀ a ∈ o.latestSchedule.assignments,
    IsTaskOf o.workflow a.taskId

/-- The operation leaves nothing of what was before it behind. At a switch the schedule will not
be dispatched or has only tasks of the new workflow, and no task in flight takes capacity. An
actor is registered when no task in flight takes capacity of it. -/
def CleanStep (o : Orchestrator) : Operation → Prop
  | .setWorkflow w => (o.replanRequested = true ∨ o.fsm = .idle ∨
      ∀ a ∈ o.latestSchedule.assignments, IsTaskOf w a.taskId) ∧
    (∀ taskId ∈ o.workflowState.assignedTasks, taskDemand o.workflow taskId = 0) ∧
    ∀ process ∈ w.processes.rows, 0 ≤ process.demand
  | .registerActor a => 0 ≤ a.currentLoad ∧
    ∀ taskId ∈ ownedBy o.workflowState a.id, taskDemand o.workflow taskId = 0
  | _ => True

def Operation.registers (registry : ActorRegistry) : Operation → ActorRegistry
  | .registerActor a => registry.add a
  | _ => registry

def registeredBy (operations : List Operation) : ActorRegistry :=
  operations.foldl Operation.registers {}

structure Isolated (registered : ActorRegistry) (o : Orchestrator) : Prop where
  demands : ∀ process ∈ o.workflow.processes.rows, 0 ≤ process.demand
  registeredLoads : ∀ id actor, registered.get id = some actor → 0 ≤ actor.currentLoad
  loads : LoadAccounting o.workflow registered o
  tasks : ∀ taskId ∈ o.workflowState.assignedTasks, IsTaskOf o.workflow taskId
  schedule : ScheduleCurrent o

section Steps

variable {registered : ActorRegistry} {o : Orchestrator}

theorem scheduleCurrent_planned (o : Orchestrator) (hash : IterationOrder) (now : Time)
    (fsm : PlannerState) (started replanRequested : Bool) :
    ScheduleCurrent { o with
      latestSchedule := o.scheduleAt hash now, fsm := fsm, started := started,
      replanRequested := replanRequested } := by
  refine Or.inr (Or.inr fun a ha => ?_)
  obtain ⟨actor, hoffered⟩ := plan_offered ha
  exact hoffered.ready.isTaskOf

theorem ScheduleCurrent.step {c : Orchestrator} (h : ScheduleCurrent o)
    (hworkflow : c.workflow = o.workflow) (hschedule : c.latestSchedule = o.latestSchedule)
    (hflag : o.replanRequested = true → c.replanRequested = true)
    (hfsm : o.fsm = .idle → c.fsm = .idle) : ScheduleCurrent c := by
  rcases h with hrequested | hidle | htasks
  · exact Or.inl (hflag hrequested)
  · exact Or.inr (Or.inl (hfsm hidle))
  · rw [ScheduleCurrent, hworkflow, hschedule]
    exact Or.inr (Or.inr htasks)

theorem ScheduleCurrent.apply (h : ScheduleCurrent o) {op : Operation} (hop : op.isRuntime = true) :
    ScheduleCurrent (o.apply op) := by
  cases op, hop using Operation.runtimeCases with
  | start hash =>
    obtain ⟨fsm, heq, -⟩ := o.start_eq hash
    rw [Orchestrator.apply, heq]
    exact scheduleCurrent_planned o hash 0 fsm true o.replanRequested
  | tick hash now =>
    rw [Orchestrator.apply]
    rcases o.tick_eq hash now with ⟨-, fsm, heq, -⟩ | ⟨-, hdispatches, heq⟩ | ⟨-, -, heq⟩
    · rw [heq]
      exact scheduleCurrent_planned o hash now fsm o.started false
    · rw [heq]
      have hsame := o.dispatchAll_same now
      refine h.step hsame.workflow hsame.latestSchedule
        (fun hflag => hsame.replanRequested.trans hflag) ?_
      intro hidle
      rcases hdispatches.2.2 with hfsm | hfsm
      · exact absurd (hidle.symm.trans hfsm) (by simp)
      · exact absurd (hidle.symm.trans hfsm) (by simp)
    · rw [heq]
      exact h
  | setActorUnavailable actorId unavailable =>
    simp only [Orchestrator.apply, Orchestrator.setActorUnavailable]
    split_ifs
    · exact h
    · exact Or.inl rfl
    · exact Or.inl rfl
    · exact h
  | notifyTaskFailed taskId resumable =>
    obtain ⟨registry, taskActor, actorLoad, heq, -⟩ :=
      o.withdraw_eq taskId (eraseValue o.workflowState.completedTasks taskId)
    simp only [Orchestrator.apply, Orchestrator.notifyTaskFailed, heq]
    split_ifs
    · exact Or.inl rfl
    · exact h.step rfl rfl id id
  | notifyTaskCompleted taskId actualCompletionTime => exact Or.inl rfl
  | markTaskResumable taskId => exact Or.inl rfl
  | completePhase phaseId =>
    refine h.step rfl rfl id fun hidle => ?_
    simp only [Orchestrator.apply, Orchestrator.completePhase, hidle]
    split_ifs <;> rfl

theorem Isolated.drive (h : Isolated registered o) {op : Operation} (hop : op.isRuntime = true) :
    Isolated registered (o.apply op) := by
  have hloads := h.loads.apply (taskDemand_nonneg h.demands) h.registeredLoads hop
  refine ⟨hloads.sameWorkflow ▸ h.demands, h.registeredLoads, hloads.sameWorkflow ▸ hloads,
    ?_, h.schedule.apply hop⟩
  rw [hloads.sameWorkflow]
  intro taskId hmem
  by_cases hdispatches : ∃ now ∈ op.tickTime, o.dispatches
  · obtain ⟨now, hnow, hdispatches⟩ := hdispatches
    cases op with
    | tick hash time =>
      by_cases hbefore : taskId ∈ o.workflowState.assignedTasks
      · exact h.tasks taskId hbefore
      · -- A dispatch is from a schedule of the workflow: no plan is asked for and the planner is not idle.
        obtain ⟨-, a, ha, rfl, -⟩ := tick_origin hbefore hmem
        obtain ⟨-, hflag, hfsm⟩ := hdispatches
        rcases h.schedule with hrequested | hidle | htasks
        · exact absurd (hflag.symm.trans hrequested) (by simp)
        · rcases hfsm with hfsm | hfsm
          · exact absurd (hidle.symm.trans hfsm) (by simp)
          · exact absurd (hidle.symm.trans hfsm) (by simp)
        · exact htasks a ha
    | _ => exact absurd hnow (by simp [Operation.tickTime])
  · have hruns := runsOn_apply hop (fun now hnow hd => hdispatches ⟨now, hnow, hd⟩) hmem
    exact h.tasks taskId hruns.inFlight

theorem committedDemand_eq_zero {workflow : Workflow} {state : WorkflowState} {id : ActorId}
    (h : ∀ taskId ∈ ownedBy state id, taskDemand workflow taskId = 0) :
    committedDemand workflow state id = 0 := by
  apply List.sum_eq_zero
  intro demand hmem
  obtain ⟨taskId, howned, rfl⟩ := List.mem_map.mp hmem
  exact h taskId howned

/-- A clean switch starts the new workflow from the loads that the actors were registered with. -/
theorem Isolated.setWorkflow (h : Isolated registered o) {w : Workflow}
    (hclean : CleanStep o (.setWorkflow w)) :
    Isolated registered (o.setWorkflow w) := by
  obtain ⟨hschedule, hfree, hdemands⟩ := hclean
  refine ⟨hdemands, h.registeredLoads, ?_, fun taskId hmem =>
    absurd hmem (by simp [Orchestrator.setWorkflow]), hschedule⟩
  constructor
  · rfl
  · intro id
    have hold : committedDemand o.workflow o.workflowState id = 0 :=
      committedDemand_eq_zero fun taskId hmem => hfree taskId (mem_ownedBy.mp hmem).1
    have hnew : committedDemand w ({} : WorkflowState) id = 0 := rfl
    change o.registry.get id = (registered.get id).map fun actor =>
      { actor with currentLoad := actor.currentLoad + committedDemand w ({} : WorkflowState) id }
    rw [h.loads.loads id, hold, hnew]
  · intro taskId
    simp [Orchestrator.setWorkflow]
  · intro taskId id hlookup
    exact absurd hlookup (by simp [Orchestrator.setWorkflow])
  · exact List.nodup_nil
  · exact h.loads.scheduled

theorem Isolated.registerActor (h : Isolated registered o) {a : Actor}
    (hclean : CleanStep o (.registerActor a)) :
    Isolated (registered.add a) (o.registerActor a) := by
  obtain ⟨hload, hfree⟩ := hclean
  have hget : ∀ (registry : ActorRegistry) id,
      (registry.add a).get id = if a.id = id then some a else registry.get id := by
    intro registry id
    simp only [ActorRegistry.get, ActorRegistry.add, KeyedRows.get?_put]
  have hkept : ∀ id, (registered.get id).isSome → ((registered.add a).get id).isSome := by
    intro id hsome
    rw [hget]
    split_ifs
    · rfl
    · exact hsome
  refine ⟨h.demands, ?_, ?_, h.tasks, h.schedule⟩
  · intro id actor hactor
    rw [hget] at hactor
    split_ifs at hactor
    · exact Option.some.inj hactor ▸ hload
    · exact h.registeredLoads id actor hactor
  · refine ⟨rfl, ?_, h.loads.owned, fun taskId id hlookup =>
      hkept id (h.loads.owners taskId id hlookup), h.loads.assignedNodup, fun b hb =>
        hkept b.actorId (h.loads.scheduled b hb)⟩
    intro id
    change (o.registry.add a).get id = ((registered.add a).get id).map fun actor =>
      { actor with
        currentLoad := actor.currentLoad + committedDemand o.workflow o.workflowState id }
    rw [hget, hget, h.loads.loads id]
    split_ifs with hid
    · subst hid
      simp [committedDemand_eq_zero hfree]
    · rfl

theorem Isolated.apply (h : Isolated registered o) {op : Operation} (hclean : CleanStep o op) :
    Isolated (op.registers registered) (o.apply op) := by
  have hdriven : op.isRuntime = true → Isolated registered (o.apply op) := h.drive
  cases op with
  | setWorkflow w => exact h.setWorkflow hclean
  | registerActor a => exact h.registerActor hclean
  | setSchedulingStrategy strategy =>
    exact ⟨h.demands, h.registeredLoads, h.loads.step rfl rfl rfl rfl h.loads.scheduled,
      h.tasks, h.schedule.step rfl rfl id id⟩
  | setActorRankingProfile profile => exact ⟨h.demands, h.registeredLoads,
      h.loads.step rfl rfl rfl rfl h.loads.scheduled, h.tasks, h.schedule.step rfl rfl id id⟩
  | start hash => exact hdriven rfl
  | tick hash now => exact hdriven rfl
  | setActorUnavailable actorId unavailable => exact hdriven rfl
  | notifyTaskFailed taskId resumable => exact hdriven rfl
  | notifyTaskCompleted taskId actualCompletionTime => exact hdriven rfl
  | markTaskResumable taskId => exact hdriven rfl
  | completePhase phaseId => exact hdriven rfl

end Steps

theorem Isolated.run {operations : List Operation}
    (hclean : Meets Orchestrator.apply CleanStep {} operations) :
    Isolated (registeredBy operations) (({} : Orchestrator).run operations) := by
  induction operations using List.reverseRecOn with
  | nil =>
    refine ⟨?_, ?_, .unstarted .new, ?_, Or.inr (Or.inl rfl)⟩
    · intro process hmem
      exact absurd hmem (by simp [Orchestrator.run, KeyedRows.empty])
    · intro id actor hactor
      exact absurd hactor
        (by simp [registeredBy, ActorRegistry.get, KeyedRows.get?, KeyedRows.empty])
    · intro taskId hmem
      exact absurd hmem (by simp [Orchestrator.run])
  | append_singleton operations op ih =>
    obtain ⟨hbefore, hop⟩ := meets_concat.mp hclean
    have hstep : Isolated (op.registers (registeredBy operations))
        ((({} : Orchestrator).run operations).apply op) :=
      (ih hbefore).apply hop
    rw [Orchestrator.run, runMachine_concat, registeredBy, List.foldl_append]
    exact hstep

/-- In a run in which every step is clean, all tasks in flight are of the workflow that is set,
and the loads count them and nothing else. -/
theorem workflows_isolated (operations : List Operation)
    (hclean : Meets Orchestrator.apply CleanStep {} operations) :
    let o := ({} : Orchestrator).run operations
    (∀ taskId ∈ o.workflowState.assignedTasks, IsTaskOf o.workflow taskId) ∧
    ∀ id actor, o.registry.get id = some actor →
      ∃ registered, (registeredBy operations).get id = some registered ∧
      actor.currentLoad =
        registered.currentLoad + committedDemand o.workflow o.workflowState id := by
  intro o
  have hrun : Isolated (registeredBy operations) o := .run hclean
  refine ⟨hrun.tasks, fun id actor hactor => ?_⟩
  rw [hrun.loads.loads id] at hactor
  obtain ⟨registered, hget, rfl⟩ := Option.map_eq_some_iff.mp hactor
  exact ⟨registered, hget, rfl⟩

def nextWorkflow : Workflow :=
  (({} : Workflow).addPhase { id := "phase", processIds := ["c"] }).addProcess
    { id := "c", estimatedDuration := 1 }

/-- The switch comes when the task in flight has completed. -/
def switchAfterCompletion : List Operation :=
  [.start insertionOrder, .tick insertionOrder 0, .notifyTaskCompleted "a" 3,
    .setWorkflow nextWorkflow, .tick insertionOrder 4, .tick insertionOrder 4]

theorem workflows_isolated_after_completion :
    let o := ({} : Orchestrator).run (exampleSetup ++ switchAfterCompletion)
    o.workflowState.assignedTasks = ["c"] ∧ ∀ taskId ∈ o.workflowState.assignedTasks,
      IsTaskOf o.workflow taskId :=
  ⟨by decide, (workflows_isolated (exampleSetup ++ switchAfterCompletion)
    ⟨⟨Or.inr (Or.inl rfl), by decide, by decide⟩, ⟨by decide, by decide⟩, trivial, trivial, trivial,
      ⟨Or.inl (by decide), by decide, by decide⟩, trivial, trivial, trivial⟩).1⟩

/-- The switch comes while a task is in flight. The next tick dispatches tasks of the workflow
that is gone, and its load is still counted. -/
theorem switch_keeps_schedule_and_loads :
    let operations :=
      exampleSetup ++ [.start insertionOrder, .tick insertionOrder 0, .setWorkflow nextWorkflow]
    let switched := ({} : Orchestrator).run operations
    let o := switched.run [.tick insertionOrder 6]
    (¬ ∀ taskId ∈ o.workflowState.assignedTasks, IsTaskOf o.workflow taskId) ∧
    ¬ ∀ id actor, switched.registry.get id = some actor →
      ∃ registered, (registeredBy operations).get id = some registered ∧
        actor.currentLoad = registered.currentLoad + committedDemand switched.workflow
          switched.workflowState id := by
  intro operations switched o
  have hassigned : o.workflowState.assignedTasks = ["a", "b"] := by decide
  have hforeign : (o.workflow.processForTask "a").isSome = false := by decide
  have hload : (switched.registry.get "x").map Actor.currentLoad = some 2 := by decide
  have hregistered : ((registeredBy operations).get "x").map Actor.currentLoad = some 0 := by decide
  have hnone : committedDemand switched.workflow switched.workflowState "x" = 0 := by decide
  refine ⟨fun htasks => ?_, fun hloads => ?_⟩
  · have htask := htasks "a" (by simp [hassigned])
    exact absurd (htask.symm.trans hforeign) (by simp)
  · obtain ⟨actor, hactor, htwo⟩ := Option.map_eq_some_iff.mp hload
    obtain ⟨registered, hget, heq⟩ := hloads "x" actor hactor
    rw [hget, Option.map_some] at hregistered
    have hzero := Option.some.inj hregistered
    omega

end TaskOrchestrator.Core
