import TaskOrchestrator.Core.Orchestrator
import TaskOrchestrator.Core.Planning

/-!
# What an operation does

One equation for each operation of the orchestrator that has more than one way to go. A tick
plans, dispatches or does nothing; the loop of a dispatch takes one assignment at a time; a
release takes a task from its owner. Invariants are proved from these and never unfold an
operation.
-/

namespace TaskOrchestrator.Core

open Library

set_option autoImplicit false

@[simp]
theorem mem_eraseValue {values : List String} {value v : String} :
    v ∈ eraseValue values value ↔ v ∈ values ∧ v ≠ value := by
  simp [eraseValue]

theorem nodup_eraseValue {values : List String} (h : values.Nodup) (value : String) :
    (eraseValue values value).Nodup :=
  h.filter _

@[simp]
theorem mem_pushNew {values : List String} {value v : String} :
    v ∈ pushNew values value ↔ v ∈ values ∨ v = value := by
  unfold pushNew
  split_ifs with hmem
  · constructor
    · exact Or.inl
    · rintro (hv | rfl)
      · exact hv
      · exact hmem
  · simp

theorem nodup_pushNew {values : List String} (h : values.Nodup) (value : String) :
    (pushNew values value).Nodup := by
  unfold pushNew
  split_ifs with hmem
  · exact h
  · rw [← List.concat_eq_append]
    exact h.concat hmem

theorem get_updateLoad (registry : ActorRegistry) (actorId other : ActorId) (update : Int → Int) :
    (registry.updateLoad actorId update).get other =
      if actorId = other then
        (registry.get other).map fun actor => { actor with currentLoad := update actor.currentLoad }
      else registry.get other := by
  unfold ActorRegistry.updateLoad
  cases hactor : registry.get actorId with
  | none =>
    split_ifs with hid
    · subst hid
      simp [hactor]
    · rfl
  | some actor =>
    obtain rfl : actor.id = actorId := ActorRegistry.id_of_get hactor
    simp only [ActorRegistry.get, ActorRegistry.add, KeyedRows.get?_put]
    split_ifs with hid
    · subst hid
      change _ = (registry.get actor.id).map _
      rw [hactor]
      rfl
    · rfl

@[elab_as_elim]
theorem Operation.runtimeCases {motive : (op : Operation) → op.isRuntime = true → Prop}
    (start : ∀ hash, motive (.start hash) rfl) (tick : ∀ hash now, motive (.tick hash now) rfl)
    (setActorUnavailable : ∀ actorId unavailable,
      motive (.setActorUnavailable actorId unavailable) rfl)
    (notifyTaskFailed : ∀ taskId resumable, motive (.notifyTaskFailed taskId resumable) rfl)
    (notifyTaskCompleted : ∀ taskId actualCompletionTime,
      motive (.notifyTaskCompleted taskId actualCompletionTime) rfl)
    (markTaskResumable : ∀ taskId, motive (.markTaskResumable taskId) rfl)
    (completePhase : ∀ phaseId, motive (.completePhase phaseId) rfl) (op : Operation)
    (h : op.isRuntime = true) :
    motive op h := by
  cases op with
  | setWorkflow w => exact absurd h (by simp [Operation.isRuntime])
  | registerActor a => exact absurd h (by simp [Operation.isRuntime])
  | setSchedulingStrategy strategy => exact absurd h (by simp [Operation.isRuntime])
  | setActorRankingProfile profile => exact absurd h (by simp [Operation.isRuntime])
  | start hash => exact start hash
  | tick hash now => exact tick hash now
  | setActorUnavailable actorId unavailable => exact setActorUnavailable actorId unavailable
  | notifyTaskFailed taskId resumable => exact notifyTaskFailed taskId resumable
  | notifyTaskCompleted taskId actualCompletionTime =>
    exact notifyTaskCompleted taskId actualCompletionTime
  | markTaskResumable taskId => exact markTaskResumable taskId
  | completePhase phaseId => exact completePhase phaseId

namespace Orchestrator

def scheduleAt (o : Orchestrator) (hash : IterationOrder) (now : Time) : ScheduleResult :=
  plan hash o.workflow o.workflowState o.registry now (some o.strategy) (some o.actorRankingProfile)

def planningTime (o : Orchestrator) : Operation → Option Time
  | .start _ => some 0
  | .tick _ now =>
    if o.started ∧ (o.replanRequested ∨ o.fsm = .idle ∨ o.fsm = .planning) then some now else none
  | _ => none

/-- A tick hands out what is due of the latest schedule. -/
def dispatches (o : Orchestrator) : Prop :=
  o.started = true ∧ o.replanRequested = false ∧ (o.fsm = .dispatching ∨ o.fsm = .running)

/-- The operation makes the next tick plan. -/
def requestsReplan (o : Orchestrator) : Operation → Bool
  | .setActorUnavailable actorId unavailable =>
    if unavailable then actorId ∉ o.workflowState.unavailableActors
      else actorId ∈ o.workflowState.unavailableActors
  | .notifyTaskFailed _ resumable => resumable
  | .notifyTaskCompleted _ _ => true
  | .markTaskResumable _ => true
  | _ => false

def stateAfterPlanning (schedule : ScheduleResult) : PlannerState :=
  if schedule.ok && !schedule.assignments.isEmpty then .dispatching else .planning

theorem start_eq (o : Orchestrator) (hash : IterationOrder) :
    ∃ fsm, o.start hash =
    { o with started := true, latestSchedule := o.scheduleAt hash 0, fsm := fsm } ∧
      (o.fsm ≠ .completing → fsm = stateAfterPlanning (o.scheduleAt hash 0)) := by
  refine ⟨_, rfl, fun hfsm => ?_⟩
  have hplanning : o.fsm.processEvent .startPlanning = .planning := by
    cases hcase : o.fsm with
    | completing => exact absurd hcase hfsm
    | _ => rfl
  simp only [stateAfterPlanning, hplanning]
  rfl

def dispatchAll (o : Orchestrator) (now : Time) : Orchestrator :=
  o.latestSchedule.assignments.foldl (fun o assignment => o.dispatchDue now assignment) o

theorem dispatchDue_eq (o : Orchestrator) (now : Time) (a : Assignment) :
    (o.dispatchable now a = true ∧ o.dispatchDue now a = o.dispatch a) ∨
      (o.dispatchable now a = false ∧ o.dispatchDue now a = o) := by
  unfold dispatchDue
  cases h : o.dispatchable now a with
  | true => exact Or.inl ⟨rfl, rfl⟩
  | false => exact Or.inr ⟨rfl, rfl⟩

theorem dispatchable_iff {o : Orchestrator} {now : Time} {a : Assignment} :
    o.dispatchable now a = true ↔ a.startTime ≤ now ∧
      (∀ process ∈ o.workflow.processForTask a.taskId, ∀ dep ∈ process.dependencyTaskIds,
        dep ∈ o.workflowState.completedTasks) ∧
      a.taskId ∉ o.workflowState.completedTasks ∧ a.taskId ∉ o.workflowState.assignedTasks ∧
      a.taskId ∉ o.workflowState.unresumableTasks := by
  simp [dispatchable, taskDependenciesCompleted, Option.all_eq_true, and_assoc]

theorem dispatchAll_invariant {P : Orchestrator → Prop} {o : Orchestrator} {now : Time} (ho : P o)
    (hstep : ∀ c, ∀ a ∈ o.latestSchedule.assignments, P c → c.dispatchable now a = true →
      P (c.dispatch a)) :
    P (o.dispatchAll now) := by
  refine List.foldlRecOn _ _ (motive := P) (b := o) ho fun c hc a ha => ?_
  rcases c.dispatchDue_eq now a with ⟨hdue, heq⟩ | ⟨-, heq⟩
  · rw [heq]
    exact hstep c a ha hc hdue
  · rw [heq]
    exact hc

structure SameButForTasks (o c : Orchestrator) : Prop where
  workflow : c.workflow = o.workflow
  fsm : c.fsm = o.fsm
  latestSchedule : c.latestSchedule = o.latestSchedule
  started : c.started = o.started
  replanRequested : c.replanRequested = o.replanRequested
  completedTasks : c.workflowState.completedTasks = o.workflowState.completedTasks
  unavailableActors : c.workflowState.unavailableActors = o.workflowState.unavailableActors

theorem dispatchAll_same (o : Orchestrator) (now : Time) :
    SameButForTasks o (o.dispatchAll now) := by
  refine dispatchAll_invariant (P := SameButForTasks o) ⟨rfl, rfl, rfl, rfl, rfl, rfl, rfl⟩ ?_
  intro c a _ hc _
  exact ⟨hc.workflow, hc.fsm, hc.latestSchedule, hc.started, hc.replanRequested, hc.completedTasks,
    hc.unavailableActors⟩

theorem applyDispatch_eq (o : Orchestrator) (now : Time) :
    o.applyDispatch now = { o.dispatchAll now with
      fsm := if o.fsm = .dispatching then .running else o.fsm } := by
  have hfsm := (o.dispatchAll_same now).fsm
  change (if (o.dispatchAll now).fsm = .dispatching then
    { o.dispatchAll now with fsm := (o.dispatchAll now).fsm.processEvent .dispatchComplete }
    else o.dispatchAll now) = _
  rw [hfsm]
  split_ifs with hdispatching
  · rw [hdispatching]
    rfl
  · rw [← hfsm]

theorem tick_eq (o : Orchestrator) (hash : IterationOrder) (now : Time) :
    (o.planningTime (.tick hash now) = some now ∧ ∃ fsm, o.tick hash now =
        { o with replanRequested := false, latestSchedule := o.scheduleAt hash now, fsm := fsm } ∧
      (o.fsm ≠ .completing → fsm = stateAfterPlanning (o.scheduleAt hash now))) ∨
    (o.planningTime (.tick hash now) = none ∧ o.dispatches ∧
      o.tick hash now = { o.dispatchAll now with fsm := .running }) ∨
    (o.planningTime (.tick hash now) = none ∧ ¬ o.dispatches ∧ o.tick hash now = o) := by
  unfold tick planningTime dispatches
  cases hstarted : o.started with
  | false => simp
  | true =>
    have hplanning : o.fsm ≠ .completing → o.fsm.processEvent .startPlanning = .planning := by
      intro hfsm
      cases hcase : o.fsm with
      | completing => exact absurd hcase hfsm
      | _ => rfl
    simp only [Bool.not_true, Bool.false_eq_true, if_false, true_and]
    -- A tick that plans goes through the planning state, which only a completing planner refuses.
    have hplans : ∀ fsm, (o.fsm ≠ .completing → fsm = .planning) → ∃ next,
        { o with fsm := fsm, replanRequested := false }.runPlanning hash now =
          { o with
            replanRequested := false
            latestSchedule := o.scheduleAt hash now
            fsm := next } ∧
        (o.fsm ≠ .completing → next = stateAfterPlanning (o.scheduleAt hash now)) := by
      intro fsm hfsm
      refine ⟨_, rfl, fun hne => ?_⟩
      simp only [stateAfterPlanning, hfsm hne]
      rfl
    by_cases hreplan : o.replanRequested = true
    · rw [if_pos (Or.inl hreplan)]
      refine Or.inl ⟨rfl, ?_⟩
      by_cases hfsm : o.fsm = .planning
      · simp only [hreplan, hfsm, ne_eq, not_true,
          decide_false, Bool.and_false, Bool.false_eq_true, if_false]
        have hsame := hplans .planning (fun _ => rfl)
        rw [← hfsm] at hsame
        simpa [hfsm, hstarted] using hsame
      · simp only [hreplan, ne_eq, hfsm, not_false_eq_true, decide_true, Bool.and_true, if_true]
        simpa [hstarted] using hplans _ hplanning
    · have hfalse : o.replanRequested = false := Bool.eq_false_iff.mpr hreplan
      simp only [hfalse, Bool.false_and, Bool.false_eq_true, if_false, false_or]
      cases hfsm : o.fsm with
      | idle =>
        refine Or.inl ⟨by simp, ?_⟩
        have hnext := hplans (o.fsm.processEvent .startPlanning) hplanning
        simpa [hfsm, hstarted] using hnext
      | planning =>
        refine Or.inl ⟨by simp, ?_⟩
        have hnext := hplans .planning (fun _ => rfl)
        simpa [hfsm, hstarted] using hnext
      | dispatching =>
        refine Or.inr (Or.inl ⟨by simp, by simp, ?_⟩)
        simp only [applyDispatch_eq, hfsm, if_true]
      | running =>
        refine Or.inr (Or.inl ⟨by simp, by simp, ?_⟩)
        simp only [applyDispatch_eq, hfsm]
        rfl
      | completing => exact Or.inr (Or.inr ⟨by simp, by simp, rfl⟩)

/-- Withdrawing a task takes it from the tasks in flight and from its owner, and from the
owner's load what the task took of it. -/
theorem withdraw_eq (o : Orchestrator) (taskId : TaskId) (completedTasks : List TaskId) :
    ∃ registry taskActor actorLoad, o.withdraw taskId completedTasks = { o with
        registry := registry
        workflowState := { o.workflowState with
          assignedTasks := eraseValue o.workflowState.assignedTasks taskId
          completedTasks := completedTasks
          taskActor := taskActor
          actorLoad := actorLoad } } ∧
      (∀ id, taskActor.lookup id = if taskId = id then none
        else o.workflowState.taskActor.lookup id) ∧
      (∀ id, registry.get id =
        if o.workflowState.taskActor.lookup taskId = some id then
          (o.registry.get id).map fun owner =>
          { owner with currentLoad :=
              if owner.currentLoad > 0 then max 0 (owner.currentLoad - taskDemand o.workflow taskId)
              else owner.currentLoad }
        else o.registry.get id) ∧
      ∀ id, (registry.get id = o.registry.get id ∧
        actorLoad.lookup id = o.workflowState.actorLoad.lookup id) ∨
        ∃ actor, registry.get id = some actor ∧ actorLoad.lookup id = some actor.currentLoad := by
  unfold withdraw releaseOwner
  dsimp only
  cases howner : o.workflowState.taskActor.lookup taskId with
  | none =>
    refine ⟨o.registry, o.workflowState.taskActor, o.workflowState.actorLoad, rfl, ?_, ?_, ?_⟩
    · intro id
      split_ifs with hid
      · exact hid ▸ howner
      · rfl
    · intro id
      simp
    · intro id
      exact Or.inl ⟨rfl, rfl⟩
  | some ownerId =>
    dsimp only
    cases hactor : o.registry.get ownerId with
    | none =>
      refine ⟨o.registry, _, o.workflowState.actorLoad, rfl, fun id =>
        Dictionary.lookup_erase _ _ _, ?_, ?_⟩
      · intro id
        split_ifs with hid
        · obtain rfl := Option.some.inj hid
          simp [hactor]
        · rfl
      · intro id
        exact Or.inl ⟨rfl, rfl⟩
    | some owner =>
      have hkey : owner.id = ownerId := ActorRegistry.id_of_get hactor
      dsimp only
      split_ifs with hload
      · refine ⟨_, _, _, rfl, fun id => Dictionary.lookup_erase _ _ _, ?_, ?_⟩
        · intro id
          rw [get_updateLoad]
          simp only [Option.some.injEq]
          split_ifs with hid
          · subst hid
            simp [hactor, hload]
          · rfl
        · intro id
          rw [get_updateLoad, hkey, Dictionary.lookup_assign]
          by_cases hid : ownerId = id
          · subst hid
            rw [if_pos rfl, if_pos rfl, hactor]
            exact Or.inr ⟨_, rfl, rfl⟩
          · rw [if_neg hid, if_neg hid]
            exact Or.inl ⟨rfl, rfl⟩
      · refine ⟨o.registry, _, o.workflowState.actorLoad, rfl, fun id =>
          Dictionary.lookup_erase _ _ _, ?_, ?_⟩
        · intro id
          simp only [Option.some.injEq]
          split_ifs with hid
          · subst hid
            simp [hactor, hload]
          · rfl
        · intro id
          exact Or.inl ⟨rfl, rfl⟩

theorem withdraw_of_none {o : Orchestrator} {taskId : TaskId} {completedTasks : List TaskId}
    (h : o.workflowState.taskActor.lookup taskId = none) :
    o.withdraw taskId completedTasks = { o with
      workflowState := { o.workflowState with
        assignedTasks := eraseValue o.workflowState.assignedTasks taskId
        completedTasks := completedTasks } } := by
  unfold withdraw releaseOwner
  dsimp only
  rw [h]

theorem replanRequested_apply {o : Orchestrator} {op : Operation} (hop : op.isRuntime = true)
    (hplans : o.planningTime op = none) :
    (o.apply op).replanRequested = (o.replanRequested || o.requestsReplan op) := by
  cases op, hop using Operation.runtimeCases with
  | start hash => exact absurd hplans (by simp [Orchestrator.planningTime])
  | tick hash now =>
    change (o.tick hash now).replanRequested = (o.replanRequested || false)
    rw [Bool.or_false]
    rcases o.tick_eq hash now with ⟨hsome, -⟩ | ⟨-, -, heq⟩ | ⟨-, -, heq⟩
    · exact absurd (hplans.symm.trans hsome) (by simp)
    · rw [heq]
      exact (o.dispatchAll_same now).replanRequested
    · rw [heq]
  | setActorUnavailable actorId unavailable =>
    simp only [Orchestrator.apply, Orchestrator.setActorUnavailable, Orchestrator.requestsReplan]
    split_ifs with hset hmem hmem
    all_goals simp [hmem, Orchestrator.requestReplan]
  | notifyTaskFailed taskId resumable =>
    obtain ⟨registry, taskActor, actorLoad, heq, -⟩ :=
      o.withdraw_eq taskId (eraseValue o.workflowState.completedTasks taskId)
    simp only [Orchestrator.apply, Orchestrator.notifyTaskFailed, heq, Orchestrator.requestsReplan]
    cases resumable <;> simp [Orchestrator.requestReplan]
  | notifyTaskCompleted taskId actualCompletionTime =>
    simp [Orchestrator.apply, Orchestrator.notifyTaskCompleted, Orchestrator.requestReplan,
      Orchestrator.requestsReplan]
  | markTaskResumable taskId =>
    simp [Orchestrator.apply, Orchestrator.markTaskResumable, Orchestrator.requestReplan,
      Orchestrator.requestsReplan]
  | completePhase phaseId =>
    simp [Orchestrator.apply, Orchestrator.completePhase, Orchestrator.requestsReplan]

structure Unstarted (o : Orchestrator) : Prop where
  notStarted : o.started = false
  idle : o.fsm = .idle
  noSchedule : o.latestSchedule.assignments = []
  noneAssigned : o.workflowState.assignedTasks = []
  noOwner : ∀ taskId, o.workflowState.taskActor.lookup taskId = none
  noLoad : ∀ actorId, o.workflowState.actorLoad.lookup actorId = none
  completedNodup : o.workflowState.completedTasks.Nodup

theorem Unstarted.new : Unstarted {} :=
  ⟨rfl, rfl, rfl, rfl, fun _ => rfl, fun _ => rfl, List.nodup_nil⟩

theorem Unstarted.apply {o : Orchestrator} (h : Unstarted o) {op : Operation}
    (hop : op.isStart = false) :
    Unstarted (o.apply op) := by
  cases op with
  | start hash => exact absurd hop (by simp [Operation.isStart])
  | setWorkflow w =>
    exact ⟨h.notStarted, h.idle, h.noSchedule, rfl, fun _ => rfl, fun _ => rfl, List.nodup_nil⟩
  | registerActor a =>
    exact ⟨h.notStarted, h.idle, h.noSchedule, h.noneAssigned, h.noOwner, h.noLoad,
      h.completedNodup⟩
  | setSchedulingStrategy strategy =>
    exact ⟨h.notStarted, h.idle, h.noSchedule, h.noneAssigned, h.noOwner, h.noLoad,
      h.completedNodup⟩
  | setActorRankingProfile profile =>
    exact ⟨h.notStarted, h.idle, h.noSchedule, h.noneAssigned, h.noOwner, h.noLoad,
      h.completedNodup⟩
  | tick hash now =>
    have heq : o.tick hash now = o := by simp [tick, h.notStarted]
    rw [Orchestrator.apply, heq]
    exact h
  | setActorUnavailable actorId unavailable =>
    simp only [Orchestrator.apply, setActorUnavailable]
    split_ifs
    all_goals exact ⟨h.notStarted, h.idle, h.noSchedule, h.noneAssigned, h.noOwner, h.noLoad,
      h.completedNodup⟩
  | notifyTaskFailed taskId resumable =>
    have hnone : eraseValue o.workflowState.assignedTasks taskId = [] := by
      simp [h.noneAssigned, eraseValue]
    simp only [Orchestrator.apply, notifyTaskFailed]
    rw [withdraw_of_none (h.noOwner taskId)]
    split_ifs
    all_goals exact ⟨h.notStarted, h.idle, h.noSchedule, hnone, h.noOwner, h.noLoad,
      nodup_eraseValue h.completedNodup taskId⟩
  | notifyTaskCompleted taskId actualCompletionTime =>
    have hnone : eraseValue o.workflowState.assignedTasks taskId = [] := by
      simp [h.noneAssigned, eraseValue]
    simp only [Orchestrator.apply, notifyTaskCompleted]
    rw [withdraw_of_none (h.noOwner taskId)]
    exact ⟨h.notStarted, h.idle, h.noSchedule, hnone, h.noOwner, h.noLoad,
      nodup_pushNew h.completedNodup taskId⟩
  | markTaskResumable taskId =>
    exact ⟨h.notStarted, h.idle, h.noSchedule, h.noneAssigned, h.noOwner, h.noLoad,
      h.completedNodup⟩
  | completePhase phaseId =>
    refine ⟨h.notStarted, ?_, h.noSchedule, h.noneAssigned, h.noOwner, h.noLoad, h.completedNodup⟩
    simp only [Orchestrator.apply, completePhase, h.idle]
    split_ifs <;> rfl

theorem unstarted_run {before : List Operation} (h : ∀ op ∈ before, op.isStart = false) :
    Unstarted (({} : Orchestrator).run before) := by
  have hmeets := meets_of_forall Orchestrator.apply {} h
  exact hmeets.invariant Unstarted.new fun o op ho hop => ho.apply hop

end Orchestrator

end TaskOrchestrator.Core
