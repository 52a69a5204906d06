import TaskOrchestrator.Core.Steps
import Mathlib.Algebra.Order.BigOperators.Group.List

/-!
# Load accounting

The collections of the workflow state and the loads of the actors tell one story: a task is
in flight exactly when it has an owner, and an actor carries the load it was registered with
and the demands of the tasks it owns. The clamp at zero never bites, whatever notifications
arrive.
-/

namespace TaskOrchestrator.Core

open Library

set_option autoImplicit false

def ownedBy (state : WorkflowState) (actorId : ActorId) : List TaskId :=
  state.assignedTasks.filter fun taskId => state.taskActor.lookup taskId = some actorId

def committedDemand (workflow : Workflow) (state : WorkflowState) (actorId : ActorId) : Int :=
  ((ownedBy state actorId).map (taskDemand workflow)).sum

theorem mem_ownedBy {state : WorkflowState} {actorId : ActorId} {taskId : TaskId} :
    taskId ∈ ownedBy state actorId ↔
      taskId ∈ state.assignedTasks ∧ state.taskActor.lookup taskId = some actorId := by
  simp [ownedBy]

theorem sum_map_eraseValue {ids : List TaskId} (hnodup : ids.Nodup) (weight : TaskId → Int)
    (taskId : TaskId) :
    ((eraseValue ids taskId).map weight).sum = (ids.map weight).sum - if taskId ∈ ids
    then weight taskId else 0 := by
  induction ids with
  | nil => simp [eraseValue]
  | cons id rest ih =>
    obtain ⟨hid, hrest⟩ := List.nodup_cons.mp hnodup
    have hsum := ih hrest
    by_cases heq : id = taskId
    · subst heq
      have hkeep : eraseValue (id :: rest) id = eraseValue rest id := by simp [eraseValue]
      rw [hkeep, hsum, if_neg hid]
      simp
    · have hkeep : eraseValue (id :: rest) taskId = id :: eraseValue rest taskId := by
        simp [eraseValue, heq]
      have hmem : taskId ∈ id :: rest ↔ taskId ∈ rest := by simp [Ne.symm heq]
      rw [hkeep, List.map_cons, List.sum_cons, hsum, List.map_cons, List.sum_cons]
      simp only [hmem]
      omega

theorem taskDemand_nonneg {workflow : Workflow}
    (h : ∀ process ∈ workflow.processes.rows, 0 ≤ process.demand) (taskId : TaskId) :
    0 ≤ taskDemand workflow taskId := by
  unfold taskDemand demandOf
  cases hprocess : workflow.processForTask taskId with
  | none => decide
  | some process => exact h process (Workflow.mem_rows_of_processForTask hprocess)

theorem taskDemand_le_committedDemand {workflow : Workflow} {state : WorkflowState}
    {actorId : ActorId} {taskId : TaskId} (hdemand : ∀ id, 0 ≤ taskDemand workflow id)
    (h : taskId ∈ ownedBy state actorId) :
    taskDemand workflow taskId ≤ committedDemand workflow state actorId := by
  unfold committedDemand
  apply List.single_le_sum
  · intro demand hmem
    obtain ⟨id, -, rfl⟩ := List.mem_map.mp hmem
    exact hdemand id
  · exact List.mem_map.mpr ⟨taskId, h, rfl⟩

/-- The loads are those of the tasks in flight. The actors were registered as in `registered`;
what has changed since is their load. -/
structure LoadAccounting (workflow : Workflow) (registered : ActorRegistry)
    (o : Orchestrator) : Prop where
  sameWorkflow : o.workflow = workflow
  loads : ∀ id, o.registry.get id = (registered.get id).map fun actor =>
    { actor with currentLoad := actor.currentLoad + committedDemand workflow o.workflowState id }
  owned : ∀ taskId, (o.workflowState.taskActor.lookup taskId).isSome ↔
    taskId ∈ o.workflowState.assignedTasks
  owners : ∀ taskId id, o.workflowState.taskActor.lookup taskId = some id →
    (registered.get id).isSome
  assignedNodup : o.workflowState.assignedTasks.Nodup
  scheduled : ∀ a ∈ o.latestSchedule.assignments, (registered.get a.actorId).isSome

/-- The loads and all the collections agree. -/
structure Bookkeeping (workflow : Workflow) (registered : ActorRegistry) (o : Orchestrator) : Prop
    extends LoadAccounting workflow registered o where
  reported : ∀ id load, o.workflowState.actorLoad.lookup id = some load →
    ∃ actor, o.registry.get id = some actor ∧ load = actor.currentLoad
  completedNodup : o.workflowState.completedTasks.Nodup
  notCompleted : ∀ taskId ∈ o.workflowState.assignedTasks, taskId ∉ o.workflowState.completedTasks
  notUnresumable : ∀ taskId ∈ o.workflowState.assignedTasks,
    taskId ∉ o.workflowState.unresumableTasks

section Steps

variable {workflow : Workflow} {registered : ActorRegistry} {o : Orchestrator}

theorem LoadAccounting.isSome_get (h : LoadAccounting workflow registered o) (id : ActorId) :
    (o.registry.get id).isSome = (registered.get id).isSome := by
  rw [h.loads id, Option.isSome_map]

/-- What is not about loads, owners and the schedule may change freely. -/
theorem LoadAccounting.step {c : Orchestrator} (h : LoadAccounting workflow registered o)
    (hworkflow : c.workflow = o.workflow) (hregistry : c.registry = o.registry)
    (hassigned : c.workflowState.assignedTasks = o.workflowState.assignedTasks)
    (hactors : c.workflowState.taskActor = o.workflowState.taskActor)
    (hscheduled : ∀ a ∈ c.latestSchedule.assignments, (registered.get a.actorId).isSome) :
    LoadAccounting workflow registered c where
  sameWorkflow := hworkflow.trans h.sameWorkflow
  loads := by
    intro id
    rw [hregistry, h.loads id, committedDemand, committedDemand, ownedBy, ownedBy,
      hassigned, hactors]
  owned := by
    rw [hassigned, hactors]
    exact h.owned
  owners := by
    rw [hactors]
    exact h.owners
  assignedNodup := hassigned ▸ h.assignedNodup
  scheduled := hscheduled

theorem ownedBy_dispatch {a : Assignment} (hnew : a.taskId ∉ o.workflowState.assignedTasks)
    (id : ActorId) :
    ownedBy (o.dispatch a).workflowState id =
      ownedBy o.workflowState id ++ if a.actorId = id then [a.taskId] else [] := by
  have hold : o.workflowState.assignedTasks.filter (fun taskId =>
      (o.workflowState.taskActor.assign a.taskId a.actorId).lookup taskId = some id) =
      ownedBy o.workflowState id := by
    apply List.filter_congr
    intro taskId hmem
    rw [Dictionary.lookup_assign, if_neg]
    intro heq
    exact hnew (heq ▸ hmem)
  change (o.workflowState.assignedTasks ++ [a.taskId]).filter (fun taskId =>
    (o.workflowState.taskActor.assign a.taskId a.actorId).lookup taskId = some id) = _
  rw [List.filter_append, hold, List.filter_cons, List.filter_nil, Dictionary.lookup_assign,
    if_pos rfl]
  simp only [Option.some.injEq, decide_eq_true_eq]

theorem committedDemand_dispatch {a : Assignment} (hnew : a.taskId ∉ o.workflowState.assignedTasks)
    (id : ActorId) :
    committedDemand workflow (o.dispatch a).workflowState id =
      committedDemand workflow o.workflowState id +
      if a.actorId = id then taskDemand workflow a.taskId else 0 := by
  unfold committedDemand
  rw [ownedBy_dispatch hnew]
  split_ifs <;> simp

theorem LoadAccounting.dispatch (h : LoadAccounting workflow registered o) {a : Assignment}
    (hactor : (registered.get a.actorId).isSome) (hnew : a.taskId ∉ o.workflowState.assignedTasks) :
    LoadAccounting workflow registered (o.dispatch a) := by
  constructor
  · exact h.sameWorkflow
  · intro id
    rw [committedDemand_dispatch hnew]
    change (o.registry.updateLoad a.actorId _).get id = _
    rw [get_updateLoad, h.loads id, h.sameWorkflow]
    split_ifs with hid
    · rw [Option.map_map]
      congr 1
      funext actor
      simp [add_assoc]
    · simp
  · intro taskId
    change ((o.workflowState.taskActor.assign a.taskId a.actorId).lookup taskId).isSome ↔
      taskId ∈ o.workflowState.assignedTasks ++ [a.taskId]
    rw [Dictionary.lookup_assign]
    split_ifs with hid
    · simp [hid]
    · simp [h.owned taskId, Ne.symm hid]
  · intro taskId id hlookup
    change (o.workflowState.taskActor.assign a.taskId a.actorId).lookup taskId = some id at hlookup
    rw [Dictionary.lookup_assign] at hlookup
    split_ifs at hlookup
    · exact Option.some.inj hlookup ▸ hactor
    · exact h.owners taskId id hlookup
  · change (o.workflowState.assignedTasks ++ [a.taskId]).Nodup
    rw [← List.concat_eq_append]
    exact h.assignedNodup.concat hnew
  · exact h.scheduled

theorem LoadAccounting.dispatchAll (h : LoadAccounting workflow registered o) (now : Time) :
    LoadAccounting workflow registered (o.dispatchAll now) :=
  Orchestrator.dispatchAll_invariant h fun _ a ha hc hdue =>
    hc.dispatch (h.scheduled a ha) (Orchestrator.dispatchable_iff.mp hdue).2.2.2.1

theorem Bookkeeping.dispatch (h : Bookkeeping workflow registered o) {a : Assignment} {now : Time}
    (hactor : (registered.get a.actorId).isSome) (hdue : o.dispatchable now a = true) :
    Bookkeeping workflow registered (o.dispatch a) := by
  obtain ⟨-, -, hnotCompleted, hnew, hnotUnresumable⟩ := Orchestrator.dispatchable_iff.mp hdue
  have hloads := h.toLoadAccounting.dispatch hactor hnew
  refine ⟨hloads, ?_, h.completedNodup, ?_, ?_⟩
  · intro id load hload
    change (o.workflowState.actorLoad.assign a.actorId _).lookup id = some load at hload
    rw [Dictionary.lookup_assign] at hload
    split_ifs at hload with hid
    · subst hid
      have hsome : ((o.dispatch a).registry.get a.actorId).isSome := by
        rw [hloads.isSome_get]
        exact hactor
      obtain ⟨actor, hget⟩ := Option.isSome_iff_exists.mp hsome
      change some ((((o.dispatch a).registry.get a.actorId).map Actor.currentLoad).getD 0) =
        some load at hload
      rw [hget] at hload
      exact ⟨actor, hget, (Option.some.inj hload).symm⟩
    · obtain ⟨actor, hget, rfl⟩ := h.reported id load hload
      refine ⟨actor, ?_, rfl⟩
      change (o.registry.updateLoad a.actorId _).get id = _
      rw [get_updateLoad, if_neg hid]
      exact hget
  · intro taskId hmem
    rcases List.mem_append.mp hmem with hmem | hmem
    · exact h.notCompleted taskId hmem
    · obtain rfl := List.mem_singleton.mp hmem
      exact hnotCompleted
  · intro taskId hmem hunresumable
    obtain ⟨hunresumable, hne⟩ := mem_eraseValue.mp hunresumable
    rcases List.mem_append.mp hmem with hmem | hmem
    · exact h.notUnresumable taskId hmem hunresumable
    · exact hne (List.mem_singleton.mp hmem)

theorem LoadAccounting.planned (h : LoadAccounting workflow registered o) (hash : IterationOrder)
    (now : Time) :
    ∀ a ∈ (o.scheduleAt hash now).assignments, (registered.get a.actorId).isSome := by
  intro a ha
  obtain ⟨actor, hoffered⟩ := plan_offered ha
  rw [← h.isSome_get, hoffered.registered]
  rfl

theorem committedDemand_erase {state next : WorkflowState} {taskId : TaskId}
    (hnodup : state.assignedTasks.Nodup)
    (howned : (state.taskActor.lookup taskId).isSome ↔ taskId ∈ state.assignedTasks)
    (hassigned : next.assignedTasks = eraseValue state.assignedTasks taskId)
    (hactors : ∀ id, next.taskActor.lookup id =
      if taskId = id then none else state.taskActor.lookup id)
    (id : ActorId) :
    committedDemand workflow next id = committedDemand workflow state id -
      if state.taskActor.lookup taskId = some id then taskDemand workflow taskId else 0 := by
  have hown : ownedBy next id = eraseValue (ownedBy state id) taskId := by
    unfold ownedBy eraseValue
    rw [hassigned, eraseValue, List.filter_filter, List.filter_filter]
    apply List.filter_congr
    intro other _
    rw [hactors]
    by_cases heq : taskId = other
    · simp [heq]
    · simp [heq, Ne.symm heq]
  have hmem : taskId ∈ ownedBy state id ↔ state.taskActor.lookup taskId = some id := by
    rw [mem_ownedBy]
    constructor
    · exact And.right
    · intro hlookup
      exact ⟨howned.mp (by rw [hlookup]; rfl), hlookup⟩
  have hnodupOwned : (ownedBy state id).Nodup := hnodup.filter _
  unfold committedDemand
  rw [hown, sum_map_eraseValue hnodupOwned]
  simp only [hmem]

theorem LoadAccounting.withdraw (hdemand : ∀ id, 0 ≤ taskDemand workflow id)
    (hregistered : ∀ id actor, registered.get id = some actor → 0 ≤ actor.currentLoad)
    (h : LoadAccounting workflow registered o) (taskId : TaskId) (completed : List TaskId) :
    LoadAccounting workflow registered (o.withdraw taskId completed) := by
  obtain ⟨registry, taskActor, actorLoad, heq, hactors, hregistry, -⟩ :=
    o.withdraw_eq taskId completed
  rw [heq]
  have hcommitted := fun id => @committedDemand_erase workflow o.workflowState
    { o.workflowState with
      assignedTasks := eraseValue o.workflowState.assignedTasks taskId
      completedTasks := completed, taskActor := taskActor, actorLoad := actorLoad }
    taskId h.assignedNodup (h.owned taskId) rfl hactors id
  constructor
  · exact h.sameWorkflow
  · intro id
    change registry.get id = _
    rw [hregistry id, hcommitted id]
    rw [h.loads id, h.sameWorkflow]
    split_ifs with howner
    · -- The owner carries at least the demand of the task, so the clamp at zero takes nothing off.
      rw [Option.map_map]
      apply Option.map_congr
      intro actor hactor
      have hassigned : taskId ∈ o.workflowState.assignedTasks :=
        (h.owned taskId).mp (by rw [howner]; rfl)
      have hle := taskDemand_le_committedDemand hdemand (mem_ownedBy.mpr ⟨hassigned, howner⟩)
      have hinitial := hregistered id actor hactor
      have htask := hdemand taskId
      simp only [Function.comp]
      congr 1
      split_ifs with hpositive
      · rw [max_eq_right (by omega)]
        omega
      · omega
    · simp
  · intro other
    change (taskActor.lookup other).isSome ↔ other ∈ eraseValue o.workflowState.assignedTasks taskId
    rw [hactors other, mem_eraseValue]
    split_ifs with hid
    · simp [hid]
    · rw [h.owned other]
      simp [Ne.symm hid]
  · intro other id hlookup
    rw [show taskActor.lookup other = _ from hactors other] at hlookup
    split_ifs at hlookup
    exact h.owners other id hlookup
  · exact h.assignedNodup.filter _
  · exact h.scheduled

/-- Withdrawing a task keeps the books, if what stays in flight is not among the tasks that
are now completed. -/
theorem Bookkeeping.withdraw (hdemand : ∀ id, 0 ≤ taskDemand workflow id)
    (hregistered : ∀ id actor, registered.get id = some actor → 0 ≤ actor.currentLoad)
    (h : Bookkeeping workflow registered o) (taskId : TaskId) {completed : List TaskId}
    (hnodup : completed.Nodup)
    (hcompleted : ∀ id ∈ o.workflowState.assignedTasks, id ≠ taskId → id ∉ completed) :
    Bookkeeping workflow registered (o.withdraw taskId completed) := by
  have hloads := h.toLoadAccounting.withdraw hdemand hregistered taskId completed
  obtain ⟨registry, taskActor, actorLoad, heq, -, -, hreported⟩ := o.withdraw_eq taskId completed
  rw [heq] at hloads ⊢
  refine ⟨hloads, ?_, hnodup, ?_, ?_⟩
  · intro id load hload
    rcases hreported id with ⟨hsame, hlookup⟩ | ⟨actor, hactor, hlookup⟩
    · obtain ⟨actor, hactor, rfl⟩ := h.reported id load (hlookup ▸ hload)
      exact ⟨actor, hsame.trans hactor, rfl⟩
    · exact ⟨actor, hactor, Option.some.inj (hload.symm.trans hlookup)⟩
  · intro other hmem
    obtain ⟨hmem, hne⟩ := mem_eraseValue.mp hmem
    exact hcompleted other hmem hne
  · intro other hmem
    exact h.notUnresumable other (mem_eraseValue.mp hmem).1

theorem LoadAccounting.apply (hdemand : ∀ id, 0 ≤ taskDemand workflow id)
    (hregistered : ∀ id actor, registered.get id = some actor → 0 ≤ actor.currentLoad)
    (h : LoadAccounting workflow registered o) {op : Operation} (hop : op.isRuntime = true) :
    LoadAccounting workflow registered (o.apply op) := by
  cases op, hop using Operation.runtimeCases with
  | start hash =>
    obtain ⟨fsm, heq, -⟩ := o.start_eq hash
    rw [Orchestrator.apply, heq]
    exact h.step rfl rfl rfl rfl (h.planned hash 0)
  | tick hash now =>
    rw [Orchestrator.apply]
    rcases o.tick_eq hash now with ⟨-, fsm, heq, -⟩ | ⟨-, -, heq⟩ | ⟨-, -, heq⟩
    · rw [heq]
      exact h.step rfl rfl rfl rfl (h.planned hash now)
    · rw [heq]
      have hdispatched := h.dispatchAll now
      exact hdispatched.step rfl rfl rfl rfl hdispatched.scheduled
    · rw [heq]
      exact h
  | setActorUnavailable actorId unavailable =>
    simp only [Orchestrator.apply, Orchestrator.setActorUnavailable]
    split_ifs
    all_goals exact h.step rfl rfl rfl rfl h.scheduled
  | notifyTaskFailed taskId resumable =>
    have hs :=
      h.withdraw hdemand hregistered taskId (eraseValue o.workflowState.completedTasks taskId)
    simp only [Orchestrator.apply, Orchestrator.notifyTaskFailed]
    split_ifs
    all_goals exact hs.step rfl rfl rfl rfl hs.scheduled
  | notifyTaskCompleted taskId actualCompletionTime =>
    have hs := h.withdraw hdemand hregistered taskId (pushNew o.workflowState.completedTasks taskId)
    exact hs.step rfl rfl rfl rfl hs.scheduled
  | markTaskResumable taskId => exact h.step rfl rfl rfl rfl h.scheduled
  | completePhase phaseId => exact h.step rfl rfl rfl rfl h.scheduled

theorem Bookkeeping.apply (hdemand : ∀ id, 0 ≤ taskDemand workflow id)
    (hregistered : ∀ id actor, registered.get id = some actor → 0 ≤ actor.currentLoad)
    (h : Bookkeeping workflow registered o) {op : Operation} (hop : op.isRuntime = true) :
    Bookkeeping workflow registered (o.apply op) := by
  have hloads := h.toLoadAccounting.apply hdemand hregistered hop
  cases op, hop using Operation.runtimeCases with
  | start hash =>
    obtain ⟨fsm, heq, -⟩ := o.start_eq hash
    rw [Orchestrator.apply, heq] at hloads ⊢
    exact ⟨hloads, h.reported, h.completedNodup, h.notCompleted, h.notUnresumable⟩
  | tick hash now =>
    rw [Orchestrator.apply] at hloads ⊢
    rcases o.tick_eq hash now with ⟨-, fsm, heq, -⟩ | ⟨-, -, heq⟩ | ⟨-, -, heq⟩
    · rw [heq] at hloads ⊢
      exact ⟨hloads, h.reported, h.completedNodup, h.notCompleted, h.notUnresumable⟩
    · rw [heq] at hloads ⊢
      have hd : Bookkeeping workflow registered (o.dispatchAll now) :=
        Orchestrator.dispatchAll_invariant h fun _ a ha hc hdue =>
          hc.dispatch (h.scheduled a ha) hdue
      exact ⟨hloads, hd.reported, hd.completedNodup, hd.notCompleted, hd.notUnresumable⟩
    · rw [heq]
      exact h
  | setActorUnavailable actorId unavailable =>
    simp only [Orchestrator.apply, Orchestrator.setActorUnavailable] at hloads ⊢
    split_ifs at hloads ⊢
    all_goals exact ⟨hloads, h.reported, h.completedNodup, h.notCompleted, h.notUnresumable⟩
  | notifyTaskFailed taskId resumable =>
    have hs := h.withdraw hdemand hregistered taskId (nodup_eraseValue h.completedNodup taskId)
      fun id hid _ hmem => h.notCompleted id hid (mem_eraseValue.mp hmem).1
    obtain ⟨registry, taskActor, actorLoad, heq, -⟩ :=
      o.withdraw_eq taskId (eraseValue o.workflowState.completedTasks taskId)
    rw [heq] at hs
    simp only [Orchestrator.apply, Orchestrator.notifyTaskFailed, heq] at hloads ⊢
    split_ifs at hloads ⊢
    · refine ⟨hloads, hs.reported, hs.completedNodup, hs.notCompleted, ?_⟩
      intro id hid hmem
      exact hs.notUnresumable id hid (mem_eraseValue.mp hmem).1
    · refine ⟨hloads, hs.reported, hs.completedNodup, hs.notCompleted, ?_⟩
      intro id hid hmem
      rcases List.mem_append.mp hmem with hmem | hmem
      · exact hs.notUnresumable id hid (mem_eraseValue.mp hmem).1
      · exact (mem_eraseValue.mp hid).2 (List.mem_singleton.mp hmem)
  | notifyTaskCompleted taskId actualCompletionTime =>
    have hs := h.withdraw hdemand hregistered taskId (nodup_pushNew h.completedNodup taskId) ?_
    · exact ⟨hloads, hs.reported, hs.completedNodup, hs.notCompleted, hs.notUnresumable⟩
    · intro id hid hne hmem
      rcases mem_pushNew.mp hmem with hmem | rfl
      · exact h.notCompleted id hid hmem
      · exact hne rfl
  | markTaskResumable taskId =>
    refine ⟨hloads, h.reported, h.completedNodup, h.notCompleted, ?_⟩
    intro id hid hmem
    exact h.notUnresumable id hid (mem_eraseValue.mp hmem).1
  | completePhase phaseId =>
    exact ⟨hloads, h.reported, h.completedNodup, h.notCompleted, h.notUnresumable⟩

theorem LoadAccounting.unstarted (h : Orchestrator.Unstarted o) :
    LoadAccounting o.workflow o.registry o where
  sameWorkflow := rfl
  loads := by
    intro id
    have hnone : committedDemand o.workflow o.workflowState id = 0 := by
      simp [committedDemand, ownedBy, h.noneAssigned]
    simp [hnone]
  owned := by simp [h.noOwner, h.noneAssigned]
  owners := by simp [h.noOwner]
  assignedNodup := by simp [h.noneAssigned]
  scheduled := by simp [h.noSchedule]

theorem Bookkeeping.unstarted (h : Orchestrator.Unstarted o) :
    Bookkeeping o.workflow o.registry o where
  toLoadAccounting := .unstarted h
  reported := by simp [h.noLoad]
  completedNodup := h.completedNodup
  notCompleted := by simp [h.noneAssigned]
  notUnresumable := by simp [h.noneAssigned]

/-- The books are kept over a whole run: whatever came before the start, then any calls but
those that configure. -/
theorem bookkeeping_run {before after : List Operation}
    (hbefore : ∀ op ∈ before, op.isStart = false) (hafter : ∀ op ∈ after, op.isRuntime = true)
    (hdemands : ∀ process ∈ (({} : Orchestrator).run before).workflow.processes.rows,
      0 ≤ process.demand)
    (hloads : ∀ actor ∈ (({} : Orchestrator).run before).registry.actors.rows,
      0 ≤ actor.currentLoad) :
    Bookkeeping (({} : Orchestrator).run before).workflow (({} : Orchestrator).run before).registry
      ((({} : Orchestrator).run before).run after) := by
  have hinitial := Bookkeeping.unstarted (Orchestrator.unstarted_run hbefore)
  have hmeets := meets_of_forall Orchestrator.apply (({} : Orchestrator).run before) hafter
  refine hmeets.invariant hinitial fun o op ho hop => ho.apply (taskDemand_nonneg hdemands) ?_ hop
  intro id actor hactor
  exact hloads actor ((KeyedRows.get?_eq_some_iff _ _ _).mp hactor).1

end Steps

/-- In every state of a run each actor carries the load it was registered with and the demands
of the tasks in flight that it owns, the state reports the loads as they are, and the
collections of tasks agree. -/
theorem loads_account_for_tasks (before after : List Operation)
    (hbefore : ∀ op ∈ before, op.isStart = false) (hafter : ∀ op ∈ after, op.isRuntime = true)
    (hdemands : ∀ process ∈ (({} : Orchestrator).run before).workflow.processes.rows,
      0 ≤ process.demand)
    (hloads : ∀ actor ∈ (({} : Orchestrator).run before).registry.actors.rows,
      0 ≤ actor.currentLoad) :
    let initial := ({} : Orchestrator).run before
    let o := initial.run after
    let state := o.workflowState
    (∀ id actor, o.registry.get id = some actor →
      ∃ registered, initial.registry.get id = some registered ∧
      actor.currentLoad = registered.currentLoad + committedDemand o.workflow state id) ∧
    (∀ id load, state.actorLoad.lookup id = some load →
      ∃ actor, o.registry.get id = some actor ∧ load = actor.currentLoad) ∧
    (∀ taskId, (state.taskActor.lookup taskId).isSome ↔ taskId ∈ state.assignedTasks) ∧
    state.assignedTasks.Nodup ∧ state.completedTasks.Nodup ∧
    (∀ taskId ∈ state.assignedTasks, taskId ∉ state.completedTasks ∧
      taskId ∉ state.unresumableTasks) := by
  have h := bookkeeping_run hbefore hafter hdemands hloads
  refine ⟨?_, h.reported, h.owned, h.assignedNodup, h.completedNodup,
    fun taskId hmem => ⟨h.notCompleted taskId hmem, h.notUnresumable taskId hmem⟩⟩
  intro id actor hactor
  rw [h.loads id] at hactor
  obtain ⟨registered, hregistered, rfl⟩ := Option.map_eq_some_iff.mp hactor
  rw [h.sameWorkflow]
  exact ⟨registered, hregistered, rfl⟩

/-- Two tasks of one phase on an actor that can take one of them at a time. -/
def exampleSetup : List Operation :=
  [.setWorkflow (((({} : Workflow).addPhase { id := "phase", processIds := ["a", "b"] }).addProcess
      { id := "a", estimatedDuration := 5, priority := 1, demand := 2 }).addProcess
      { id := "b", estimatedDuration := 5 }),
    .registerActor { id := "x", capacity := 2,
                     availabilityWindows := [{ start := 0, stop := 20 }] }]

/-- The first task is dispatched and completes, then the second is dispatched. A notification
for a task that was never dispatched changes nothing. -/
def exampleCalls : List Operation :=
  [.start insertionOrder, .tick insertionOrder 0, .notifyTaskFailed "c" false,
    .notifyTaskCompleted "a" 3, .tick insertionOrder 3, .tick insertionOrder 4]

theorem loads_account_for_second_task :
    let initial := ({} : Orchestrator).run exampleSetup
    let o := initial.run exampleCalls
    o.workflowState.assignedTasks = ["b"] ∧ o.workflowState.completedTasks = ["a"] ∧
    ∀ id actor, o.registry.get id = some actor →
      ∃ registered, initial.registry.get id = some registered ∧
      actor.currentLoad = registered.currentLoad + committedDemand o.workflow o.workflowState id :=
  ⟨by decide, by decide,
    (loads_account_for_tasks exampleSetup exampleCalls (by decide) (by decide) (by decide)
      (by decide)).1⟩

end TaskOrchestrator.Core
