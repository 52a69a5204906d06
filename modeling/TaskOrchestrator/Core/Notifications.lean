import TaskOrchestrator.Core.Simulation
import TaskOrchestrator.Core.Bookkeeping

/-!
# Notifications between two ticks

A notification changes the record of the one task it is about, the availability of the one
actor it is about, and the load of the actor that the task is taken from. Two notifications
about different tasks and actors meet only in such a load, which is cut off at zero.
-/

namespace TaskOrchestrator.Core

open Library

set_option autoImplicit false

namespace Operation

def isNotification : Operation → Bool
  | .setActorUnavailable _ _ | .notifyTaskFailed _ _ | .notifyTaskCompleted _ _
    | .markTaskResumable _ => true
  | _ => false

def task : Operation → Option TaskId
  | .notifyTaskFailed taskId _ | .notifyTaskCompleted taskId _ | .markTaskResumable taskId =>
    some taskId
  | _ => none

def actor : Operation → Option ActorId
  | .setActorUnavailable actorId _ => some actorId
  | _ => none

def endedTask : Operation → Option TaskId
  | .notifyTaskFailed taskId _ | .notifyTaskCompleted taskId _ => some taskId
  | _ => none

end Operation

/-- The states agree, but for the order in which sets and maps are kept. -/
structure WorkflowState.Alike (s t : WorkflowState) : Prop where
  completedPhases : s.completedPhases = t.completedPhases
  assignedTasks : s.assignedTasks = t.assignedTasks
  completedTasks : ∀ id, id ∈ s.completedTasks ↔ id ∈ t.completedTasks
  actorLoad : ∀ id, s.actorLoad.lookup id = t.actorLoad.lookup id
  unavailableActors : ∀ id, id ∈ s.unavailableActors ↔ id ∈ t.unavailableActors
  resumableTasks : ∀ id, id ∈ s.resumableTasks ↔ id ∈ t.resumableTasks
  unresumableTasks : ∀ id, id ∈ s.unresumableTasks ↔ id ∈ t.unresumableTasks
  taskActorDistance : s.taskActorDistance = t.taskActorDistance
  taskReleaseTime : s.taskReleaseTime = t.taskReleaseTime
  taskAllowedActors : s.taskAllowedActors = t.taskAllowedActors
  taskPreferredActors : s.taskPreferredActors = t.taskPreferredActors
  taskActor : ∀ id, s.taskActor.lookup id = t.taskActor.lookup id
  taskPlannedStartTime : s.taskPlannedStartTime = t.taskPlannedStartTime
  taskPlannedEndTime : s.taskPlannedEndTime = t.taskPlannedEndTime
  taskActualCompletionTime : ∀ id, s.taskActualCompletionTime.lookup id =
    t.taskActualCompletionTime.lookup id

structure Orchestrator.Alike (o c : Orchestrator) : Prop where
  workflow : o.workflow = c.workflow
  actorIds : o.registry.actorIds = c.registry.actorIds
  actors : ∀ id, o.registry.get id = c.registry.get id
  strategy : o.strategy = c.strategy
  actorRankingProfile : o.actorRankingProfile = c.actorRankingProfile
  fsm : o.fsm = c.fsm
  workflowState : o.workflowState.Alike c.workflowState
  latestSchedule : o.latestSchedule = c.latestSchedule
  started : o.started = c.started
  replanRequested : o.replanRequested = c.replanRequested

section Plan

variable {workflow : Workflow} {registry registry' : ActorRegistry} {state state' : WorkflowState}
variable {now : Time}

theorem collectPendingTasks_congr (h : state.Alike state') :
    collectPendingTasks workflow state = collectPendingTasks workflow state' := by
  have hskipped : ∀ taskId, skippedByPlanning state taskId = skippedByPlanning state' taskId := by
    intro taskId
    simp only [skippedByPlanning, h.assignedTasks, h.completedTasks, h.resumableTasks,
      h.unresumableTasks]
  unfold collectPendingTasks
  simp only [h.completedPhases, hskipped]

theorem sameCandidates_of_alike (h : state.Alike state')
    (hids : registry.actorIds = registry'.actorIds)
    (hactors : ∀ id, registry.get id = registry'.get id) :
    SameCandidates registry state registry' state' where
  actorIds := hids
  release task := by rw [effectiveReleaseTime, effectiveReleaseTime, h.taskReleaseTime]
  candidate task reservations earliestRelease actorId := by
    have hallowed : ∀ actor, actorIsAllowed task actor state =
        actorIsAllowed task actor state' := by
      intro actor
      rw [actorIsAllowed, actorIsAllowed, effectiveAllowedActors, effectiveAllowedActors,
        h.taskAllowedActors]
    have hbuild : ∀ actor startTime, buildCandidate task actor startTime state =
        buildCandidate task actor startTime state' := by
      intro actor startTime
      funext reservations
      simp only [buildCandidate, effectiveDistanceToWork, h.taskActorDistance,
        preferredActorForTask, effectivePreferredActors, h.taskPreferredActors]
    unfold actorCandidate
    rw [hactors]
    by_cases hunavailable : actorId ∈ state'.unavailableActors
    · have hmem := (h.unavailableActors actorId).mpr hunavailable
      simp [hmem, hunavailable]
    · have hmem : actorId ∉ state.unavailableActors :=
        fun hmem => hunavailable ((h.unavailableActors actorId).mp hmem)
      simp only [guard, hmem, hunavailable, not_false_eq_true, if_true, hbuild, hallowed]

theorem initializeActorReservations_congr (h : state.Alike state')
    (hids : registry.actorIds = registry'.actorIds)
    (hactors : ∀ id, registry.get id = registry'.get id) :
    initializeActorReservations workflow registry state now =
      initializeActorReservations workflow registry' state' now := by
  have hassigned : reserveAssigned workflow state now = reserveAssigned workflow state' now := by
    funext reservations taskId
    have hinterval : assignedInterval workflow state now =
        assignedInterval workflow state' now := by
      funext taskId
      rw [assignedInterval, assignedInterval, h.taskPlannedStartTime, h.taskPlannedEndTime]
    rw [reserveAssigned, reserveAssigned, h.taskActor, hinterval]
  have hload : reserveOpaque registry state now = reserveOpaque registry' state' now := by
    funext reservations actorId
    have hbaseline : baselineLoad registry state actorId =
        baselineLoad registry' state' actorId := by
      rw [baselineLoad, baselineLoad, h.actorLoad, hactors]
    rw [reserveOpaque, reserveOpaque, hbaseline]
  simp only [initializeActorReservations, hids, h.assignedTasks, hassigned, hload]

theorem initializeCompletionTimes_congr (h : state.Alike state') (taskId : TaskId) :
    (initializeCompletionTimes workflow state now).lookup taskId =
      (initializeCompletionTimes workflow state' now).lookup taskId := by
  simp only [initializeCompletionTimes, Dictionary.lookup_foldl_assign, h.assignedTasks,
    h.completedTasks, plannedTime, completedTime, h.taskPlannedEndTime, h.taskActualCompletionTime]

theorem plan_congr {strategy : Option SchedulingStrategy}
    {rankingProfile : Option ActorRankingProfile} (h : state.Alike state')
    (hids : registry.actorIds = registry'.actorIds)
    (hactors : ∀ id, registry.get id = registry'.get id) (hash : IterationOrder) :
    plan hash workflow state registry now strategy rankingProfile =
      plan hash workflow state' registry' now strategy rankingProfile := by
  have hcandidates := sameCandidates_of_alike h hids hactors
  have hinitial : (initialPlanState workflow state registry now
      (collectPendingTasks workflow state')).Matches
      (initialPlanState workflow state' registry' now (collectPendingTasks workflow state')) := by
    refine ⟨List.Perm.refl _, initializeActorReservations_congr h hids hactors,
      initializeCompletionTimes_congr h, ?_, rfl, rfl⟩
    intro id
    simp only [initialPlanState, List.mem_append, h.completedTasks, h.assignedTasks]
  -- The set of remaining tasks goes through the same insertions and removals, so it is iterated
  -- alike.
  have hready : ∀ round s t, s.Matches t → s.remainingTaskIds = t.remainingTaskIds →
      collectReadyTasks hash strategy (collectPendingTasks workflow state') round s =
        collectReadyTasks hash strategy (collectPendingTasks workflow state') round t := by
    intro round s t hs hremaining
    simp only [collectReadyTasks, hremaining, mutexConflict_congr hs.blocked,
      dependencyReadyTime_congr hs.completionTimes]
  have hrounds := hcandidates.rounds now (effectiveRankingProfile rankingProfile)
    (fun _ s t => s.remainingTaskIds = t.remainingTaskIds)
    (fun round s t hs hremaining => congrArg _ (hready round s t hs hremaining))
    (fun round s t hs hremaining _ => by
      simp only [foldl_planTask_erases, hready round s t hs hremaining, hremaining])
    (initialPlanState workflow state' registry' now
      (collectPendingTasks workflow state')).remainingTaskIds.length 0
    hinitial rfl
  unfold plan
  dsimp only
  rw [collectPendingTasks_congr h]
  split_ifs
  · rfl
  · cases validateSupportedTasks (collectPendingTasks workflow state') with
    | some validationError => rfl
    | none =>
      have hlength : (initialPlanState workflow state registry now
          (collectPendingTasks workflow state')).remainingTaskIds.length =
        (initialPlanState workflow state' registry' now
          (collectPendingTasks workflow state')).remainingTaskIds.length := rfl
      simp only [hlength, hrounds.assignments, hrounds.ranking]

end Plan

theorem Orchestrator.Alike.tick {o c : Orchestrator} (h : o.Alike c) (hash : IterationOrder)
    (now : Time) :
    (o.tick hash now).latestSchedule = (c.tick hash now).latestSchedule := by
  have hplanning : o.planningTime (.tick hash now) = c.planningTime (.tick hash now) := by
    simp only [planningTime, h.started, h.replanRequested, h.fsm]
  have hschedule : o.scheduleAt hash now = c.scheduleAt hash now := by
    unfold scheduleAt
    rw [h.workflow, h.strategy, h.actorRankingProfile]
    exact plan_congr h.workflowState h.actorIds h.actors hash
  have hkept : ∀ o : Orchestrator, o.planningTime (.tick hash now) = none →
      (o.tick hash now).latestSchedule = o.latestSchedule := by
    intro o hnone
    rcases o.tick_eq hash now with ⟨hsome, -⟩ | ⟨-, -, heq⟩ | ⟨-, -, heq⟩
    · rw [hnone] at hsome
      exact absurd hsome (by simp)
    · rw [heq]
      exact (o.dispatchAll_same now).latestSchedule
    · rw [heq]
  have hplanned : ∀ o : Orchestrator, o.planningTime (.tick hash now) = some now →
      (o.tick hash now).latestSchedule = o.scheduleAt hash now := by
    intro o hsome
    rcases o.tick_eq hash now with ⟨-, fsm, heq, -⟩ | ⟨hnone, -⟩ | ⟨hnone, -⟩
    · rw [heq]
    · rw [hsome] at hnone
      exact absurd hnone (by simp)
    · rw [hsome] at hnone
      exact absurd hnone (by simp)
  rcases o.tick_eq hash now with ⟨hsome, -⟩ | ⟨hnone, -⟩ | ⟨hnone, -⟩
  · rw [hplanned o hsome, hplanned c (hplanning ▸ hsome), hschedule]
  · rw [hkept o hnone, hkept c (hplanning ▸ hnone), h.latestSchedule]
  · rw [hkept o hnone, hkept c (hplanning ▸ hnone), h.latestSchedule]

/-- What the state says about a task, the tasks in flight apart. -/
structure TaskRecord where
  completed : Prop
  resumable : Prop
  unresumable : Prop
  owner : Option ActorId
  completionTime : Option Time

def WorkflowState.recordOf (state : WorkflowState) (taskId : TaskId) : TaskRecord where
  completed := taskId ∈ state.completedTasks
  resumable := taskId ∈ state.resumableTasks
  unresumable := taskId ∈ state.unresumableTasks
  owner := state.taskActor.lookup taskId
  completionTime := state.taskActualCompletionTime.lookup taskId

def Operation.update (record : TaskRecord) : Operation → TaskRecord
  | .notifyTaskFailed _ resumable =>
    { record with
      completed := False
      resumable := resumable = true
      unresumable := resumable = false
      owner := none }
  | .notifyTaskCompleted _ time =>
    { record with completed := True, owner := none, completionTime := some time }
  | .markTaskResumable _ => { record with resumable := True, unresumable := False }
  | _ => record

/-- How often the actor stands in the list of unavailable actors. -/
def WorkflowState.absences (state : WorkflowState) (actorId : ActorId) : Nat :=
  state.unavailableActors.count actorId

def Operation.updateAbsences (absences : Nat) : Operation → Nat
  | .setActorUnavailable _ unavailable => if unavailable then max 1 absences else absences - 1
  | _ => absences

/-- The actor as it is registered and the load that the state has for it. -/
def Orchestrator.loadOf (o : Orchestrator) (actorId : ActorId) : Option Actor × Option Int :=
  (o.registry.get actorId, o.workflowState.actorLoad.lookup actorId)

def release (demand : Int) : Option Actor × Option Int → Option Actor × Option Int
  | (some actor, recorded) =>
    if actor.currentLoad > 0 then
      (some { actor with currentLoad := max 0 (actor.currentLoad - demand) },
        some (max 0 (actor.currentLoad - demand)))
    else (some actor, recorded)
  | (none, recorded) => (none, recorded)

def Orchestrator.releasedActor (o : Orchestrator) (op : Operation) : Option ActorId :=
  op.endedTask.bind o.workflowState.taskActor.lookup

def Orchestrator.releasedDemand (o : Orchestrator) (op : Operation) : Int :=
  (op.endedTask.map (taskDemand o.workflow)).getD 0

structure Setting where
  workflow : Workflow
  actorIds : List ActorId
  strategy : SchedulingStrategy
  actorRankingProfile : ActorRankingProfile
  fsm : PlannerState
  latestSchedule : ScheduleResult
  started : Bool
  completedPhases : List PhaseId
  taskActorDistance : Dictionary TaskId (Dictionary ActorId Time)
  taskReleaseTime : Dictionary TaskId Time
  taskAllowedActors : Dictionary TaskId (List ActorId)
  taskPreferredActors : Dictionary TaskId (List ActorId)
  taskPlannedStartTime : Dictionary TaskId Time
  taskPlannedEndTime : Dictionary TaskId Time

def Orchestrator.setting (o : Orchestrator) : Setting where
  workflow := o.workflow
  actorIds := o.registry.actorIds
  strategy := o.strategy
  actorRankingProfile := o.actorRankingProfile
  fsm := o.fsm
  latestSchedule := o.latestSchedule
  started := o.started
  completedPhases := o.workflowState.completedPhases
  taskActorDistance := o.workflowState.taskActorDistance
  taskReleaseTime := o.workflowState.taskReleaseTime
  taskAllowedActors := o.workflowState.taskAllowedActors
  taskPreferredActors := o.workflowState.taskPreferredActors
  taskPlannedStartTime := o.workflowState.taskPlannedStartTime
  taskPlannedEndTime := o.workflowState.taskPlannedEndTime

section Apply

variable (o : Orchestrator) {op : Operation}

theorem notifyTaskFailed_eq (taskId : TaskId) (resumable : Bool) :
    ∃ registry taskActor actorLoad, o.notifyTaskFailed taskId resumable = { o with
        registry := registry
        replanRequested := o.replanRequested || resumable
        workflowState := { o.workflowState with
          assignedTasks := eraseValue o.workflowState.assignedTasks taskId
          completedTasks := eraseValue o.workflowState.completedTasks taskId
          resumableTasks := eraseValue o.workflowState.resumableTasks taskId ++ if resumable
            then [taskId] else []
          unresumableTasks := eraseValue o.workflowState.unresumableTasks taskId ++ if resumable
            then [] else [taskId]
          taskActor := taskActor
          actorLoad := actorLoad } } ∧
      ∀ id, taskActor.lookup id = if taskId = id then none
        else o.workflowState.taskActor.lookup id := by
  obtain ⟨registry, taskActor, actorLoad, heq, hlookup, -⟩ :=
    o.withdraw_eq taskId (eraseValue o.workflowState.completedTasks taskId)
  refine ⟨registry, taskActor, actorLoad, ?_, hlookup⟩
  unfold Orchestrator.notifyTaskFailed
  rw [heq]
  cases resumable with
  | true => simp [Orchestrator.requestReplan]
  | false => simp

theorem notifyTaskCompleted_eq (taskId : TaskId) (time : Time) :
    ∃ registry taskActor actorLoad, o.notifyTaskCompleted taskId time = { o with
        registry := registry
        replanRequested := true
        workflowState := { o.workflowState with
          assignedTasks := eraseValue o.workflowState.assignedTasks taskId
          completedTasks := pushNew o.workflowState.completedTasks taskId
          taskActualCompletionTime := o.workflowState.taskActualCompletionTime.assign taskId time
          taskActor := taskActor
          actorLoad := actorLoad } } ∧
      ∀ id, taskActor.lookup id = if taskId = id then none
        else o.workflowState.taskActor.lookup id := by
  obtain ⟨registry, taskActor, actorLoad, heq, hlookup, -⟩ :=
    o.withdraw_eq taskId (pushNew o.workflowState.completedTasks taskId)
  refine ⟨registry, taskActor, actorLoad, ?_, hlookup⟩
  unfold Orchestrator.notifyTaskCompleted
  rw [heq]
  rfl

theorem actorIds_updateLoad (registry : ActorRegistry) (actorId : ActorId) (update : Int → Int) :
    (registry.updateLoad actorId update).actorIds = registry.actorIds := by
  unfold ActorRegistry.updateLoad
  cases hactor : registry.get actorId with
  | none => rfl
  | some actor =>
    have hmem : actor.id ∈ registry.actors.rows.map Actor.id :=
      List.mem_map_of_mem (List.mem_of_find?_eq_some hactor)
    unfold ActorRegistry.actorIds ActorRegistry.add
    congr 1
    change (KeyedRows.putRows Actor.id _ registry.actors.rows).map Actor.id = _
    rw [KeyedRows.putRows, if_pos hmem, KeyedRows.map_key_replace]

theorem actorIds_withdraw (taskId : TaskId) (completedTasks : List TaskId) :
    (o.withdraw taskId completedTasks).registry.actorIds = o.registry.actorIds := by
  unfold Orchestrator.withdraw Orchestrator.releaseOwner
  dsimp only
  cases o.workflowState.taskActor.lookup taskId with
  | none => rfl
  | some ownerId =>
    dsimp only
    cases o.registry.get ownerId with
    | none => rfl
    | some owner =>
      dsimp only
      split_ifs
      · exact actorIds_updateLoad _ _ _
      · rfl

theorem loadOf_withdraw (taskId : TaskId) (completedTasks : List TaskId) (actorId : ActorId) :
    (o.withdraw taskId completedTasks).loadOf actorId =
      if o.workflowState.taskActor.lookup taskId = some actorId then
        release (taskDemand o.workflow taskId) (o.loadOf actorId)
      else o.loadOf actorId := by
  unfold Orchestrator.withdraw Orchestrator.releaseOwner
  dsimp only
  cases howner : o.workflowState.taskActor.lookup taskId with
  | none => rfl
  | some ownerId =>
    dsimp only
    cases hactor : o.registry.get ownerId with
    | none =>
      split_ifs with hid
      · obtain rfl := Option.some.inj hid
        simp [Orchestrator.loadOf, hactor, release]
      · rfl
    | some owner =>
      have hkey : owner.id = ownerId := ActorRegistry.id_of_get hactor
      dsimp only
      by_cases hid : ownerId = actorId
      · subst hid
        rw [if_pos rfl]
        split_ifs with hload
        · simp [Orchestrator.loadOf, get_updateLoad, hactor, release, hload, hkey,
            Dictionary.lookup_assign]
        · simp [Orchestrator.loadOf, hactor, release, hload]
      · rw [if_neg (fun h => hid (Option.some.inj h))]
        split_ifs with hload
        · simp [Orchestrator.loadOf, get_updateLoad, hid, hkey, Dictionary.lookup_assign]
        · rfl

theorem loadOf_apply (hop : op.isNotification = true) (actorId : ActorId) :
    (o.apply op).loadOf actorId =
      if o.releasedActor op = some actorId then release (o.releasedDemand op) (o.loadOf actorId)
      else o.loadOf actorId := by
  cases op with
  | notifyTaskFailed taskId resumable =>
    have hwithdraw :=
      loadOf_withdraw o taskId (eraseValue o.workflowState.completedTasks taskId) actorId
    cases resumable with
    | true => exact hwithdraw
    | false => exact hwithdraw
  | notifyTaskCompleted taskId time =>
    exact loadOf_withdraw o taskId (pushNew o.workflowState.completedTasks taskId) actorId
  | markTaskResumable taskId => rfl
  | setActorUnavailable id unavailable =>
    change (o.setActorUnavailable id unavailable).loadOf actorId = o.loadOf actorId
    unfold Orchestrator.setActorUnavailable
    dsimp only
    split_ifs <;> rfl
  | _ => exact absurd hop (by simp [Operation.isNotification])

theorem recordOf_apply (hop : op.isNotification = true) (taskId : TaskId) :
    (o.apply op).workflowState.recordOf taskId =
      if op.task = some taskId then op.update (o.workflowState.recordOf taskId)
      else o.workflowState.recordOf taskId := by
  cases op with
  | notifyTaskFailed id resumable =>
    obtain ⟨registry, taskActor, actorLoad, heq, hlookup⟩ := notifyTaskFailed_eq o id resumable
    simp only [Orchestrator.apply, heq, Operation.task, Option.some.injEq]
    by_cases hid : id = taskId
    · subst hid
      cases resumable <;> simp [WorkflowState.recordOf, Operation.update, hlookup]
    · have hother : taskId ≠ id := Ne.symm hid
      cases resumable <;> simp [WorkflowState.recordOf, hlookup, hid, hother]
  | notifyTaskCompleted id time =>
    obtain ⟨registry, taskActor, actorLoad, heq, hlookup⟩ := notifyTaskCompleted_eq o id time
    simp only [Orchestrator.apply, heq, Operation.task, Option.some.injEq]
    by_cases hid : id = taskId
    · subst hid
      simp [WorkflowState.recordOf, Operation.update, hlookup, Dictionary.lookup_assign]
    · have hother : taskId ≠ id := Ne.symm hid
      simp [WorkflowState.recordOf, hlookup, Dictionary.lookup_assign, hid, hother]
  | markTaskResumable id =>
    simp only [Orchestrator.apply, Orchestrator.markTaskResumable, Operation.task,
      Option.some.injEq]
    by_cases hid : id = taskId
    · subst hid
      simp [WorkflowState.recordOf, Operation.update, Orchestrator.requestReplan]
    · have hother : taskId ≠ id := Ne.symm hid
      simp [WorkflowState.recordOf, Orchestrator.requestReplan, hid, hother]
  | setActorUnavailable id unavailable =>
    change (o.setActorUnavailable id unavailable).workflowState.recordOf taskId =
      o.workflowState.recordOf taskId
    unfold Orchestrator.setActorUnavailable
    dsimp only
    split_ifs <;> rfl
  | _ => exact absurd hop (by simp [Operation.isNotification])

theorem setting_withdraw (taskId : TaskId) (completedTasks : List TaskId) :
    (o.withdraw taskId completedTasks).setting = o.setting := by
  have hids := actorIds_withdraw o taskId completedTasks
  obtain ⟨registry, taskActor, actorLoad, heq, -⟩ := o.withdraw_eq taskId completedTasks
  rw [heq] at hids ⊢
  simp only [Orchestrator.setting, hids]

theorem setting_apply (hop : op.isNotification = true) : (o.apply op).setting = o.setting := by
  cases op with
  | notifyTaskFailed taskId resumable =>
    have hwithdraw := setting_withdraw o taskId (eraseValue o.workflowState.completedTasks taskId)
    cases resumable with
    | true => exact hwithdraw
    | false => exact hwithdraw
  | notifyTaskCompleted taskId time =>
    exact setting_withdraw o taskId (pushNew o.workflowState.completedTasks taskId)
  | markTaskResumable taskId => rfl
  | setActorUnavailable id unavailable =>
    change (o.setActorUnavailable id unavailable).setting = o.setting
    unfold Orchestrator.setActorUnavailable
    dsimp only
    split_ifs <;> rfl
  | _ => exact absurd hop (by simp [Operation.isNotification])

theorem assignedTasks_apply (hop : op.isNotification = true) :
    (o.apply op).workflowState.assignedTasks =
      op.endedTask.elim o.workflowState.assignedTasks
      (eraseValue o.workflowState.assignedTasks) := by
  cases op with
  | notifyTaskFailed taskId resumable =>
    obtain ⟨registry, taskActor, actorLoad, heq, -⟩ := notifyTaskFailed_eq o taskId resumable
    exact congrArg (fun o => o.workflowState.assignedTasks) heq
  | notifyTaskCompleted taskId time =>
    obtain ⟨registry, taskActor, actorLoad, heq, -⟩ := notifyTaskCompleted_eq o taskId time
    exact congrArg (fun o => o.workflowState.assignedTasks) heq
  | markTaskResumable taskId => rfl
  | setActorUnavailable id unavailable =>
    change (o.setActorUnavailable id unavailable).workflowState.assignedTasks =
      o.workflowState.assignedTasks
    unfold Orchestrator.setActorUnavailable
    dsimp only
    split_ifs <;> rfl
  | _ => exact absurd hop (by simp [Operation.isNotification])

theorem absences_apply (hop : op.isNotification = true) (actorId : ActorId) :
    (o.apply op).workflowState.absences actorId =
      if op.actor = some actorId then op.updateAbsences (o.workflowState.absences actorId)
      else o.workflowState.absences actorId := by
  cases op with
  | notifyTaskFailed taskId resumable =>
    obtain ⟨registry, taskActor, actorLoad, heq, -⟩ := notifyTaskFailed_eq o taskId resumable
    exact congrArg (fun o => o.workflowState.absences actorId) heq
  | notifyTaskCompleted taskId time =>
    obtain ⟨registry, taskActor, actorLoad, heq, -⟩ := notifyTaskCompleted_eq o taskId time
    exact congrArg (fun o => o.workflowState.absences actorId) heq
  | markTaskResumable taskId => rfl
  | setActorUnavailable id unavailable =>
    change (o.setActorUnavailable id unavailable).workflowState.absences actorId = _
    simp only [Operation.actor, Option.some.injEq, WorkflowState.absences, Operation.updateAbsences]
    unfold Orchestrator.setActorUnavailable
    dsimp only
    by_cases hid : id = actorId
    · subst hid
      rw [if_pos rfl]
      split_ifs with hunavailable hmem hmem
      · have hpositive := List.count_pos_iff.mpr hmem
        omega
      · have hzero := List.count_eq_zero.mpr hmem
        simp [Orchestrator.requestReplan, hzero]
      · simp [Orchestrator.requestReplan]
      · have hzero := List.count_eq_zero.mpr hmem
        simp [hzero]
    · rw [if_neg hid]
      split_ifs
      · rfl
      · simp [Orchestrator.requestReplan, hid]
      · simp [Orchestrator.requestReplan, List.count_erase_of_ne (Ne.symm hid)]
      · rfl
  | _ => exact absurd hop (by simp [Operation.isNotification])

theorem replanRequested_notified (hop : op.isNotification = true) :
    (o.apply op).replanRequested = (o.replanRequested || o.requestsReplan op) := by
  have hruntime : op.isRuntime = true ∧ o.planningTime op = none := by
    cases op with
    | notifyTaskFailed | notifyTaskCompleted | markTaskResumable | setActorUnavailable =>
      exact ⟨rfl, rfl⟩
    | _ => exact absurd hop (by simp [Operation.isNotification])
  exact Orchestrator.replanRequested_apply hruntime.1 hruntime.2

end Apply

/-- Notifications about different tasks and about the availability of different actors. -/
structure Operation.Apart (first second : Operation) : Prop where
  left : first.isNotification = true
  right : second.isNotification = true
  task : ∀ taskId, first.task = some taskId → second.task ≠ some taskId
  actor : ∀ actorId, first.actor = some actorId → second.actor ≠ some actorId

/-- Whether one or the other comes first does not show, neither in the state nor in the schedule
after the next tick. -/
def Orchestrator.OrderFree (o : Orchestrator) (first second : Operation) : Prop :=
  ((o.apply first).apply second).Alike ((o.apply second).apply first) ∧
    ∀ hash now, (((o.apply first).apply second).tick hash now).latestSchedule =
      (((o.apply second).apply first).tick hash now).latestSchedule

/-- When both tasks are taken from one actor that has load, their demands are at least the load
together, or each of them is less than it. -/
def Orchestrator.ReleasesCommute (o : Orchestrator) (first second : Operation) : Prop :=
  ∀ actorId actor, o.releasedActor first = some actorId → o.releasedActor second = some actorId →
    o.registry.get actorId = some actor → 0 < actor.currentLoad →
      actor.currentLoad ≤ o.releasedDemand first + o.releasedDemand second ∨
        o.releasedDemand first < actor.currentLoad ∧ o.releasedDemand second < actor.currentLoad

theorem Operation.Apart.symm {first second : Operation} (h : first.Apart second) :
    second.Apart first where
  left := h.right
  right := h.left
  task taskId hsecond hfirst := h.task taskId hfirst hsecond
  actor actorId hsecond hfirst := h.actor actorId hfirst hsecond

theorem Operation.task_of_endedTask {op : Operation} {taskId : TaskId}
    (h : op.endedTask = some taskId) :
    op.task = some taskId := by
  cases op <;> first | exact h | exact absurd h (by simp [Operation.endedTask])

theorem release_release {actor : Actor} (recorded : Option Int) (a b : Int)
    (hload : 0 < actor.currentLoad) :
    release b (release a (some actor, recorded)) =
      let load := if a < actor.currentLoad then max 0 (actor.currentLoad - a - b) else 0
      (some { actor with currentLoad := load }, some load) := by
  simp only [release, gt_iff_lt, hload, if_true]
  by_cases ha : a < actor.currentLoad
  · have hrest : max 0 (actor.currentLoad - a) = actor.currentLoad - a := by omega
    have hpositive : 0 < actor.currentLoad - a := by omega
    simp only [ha, hrest, hpositive, if_true]
  · have hrest : max 0 (actor.currentLoad - a) = 0 := by omega
    simp [ha, hrest]

theorem release_comm_iff (a b : Int) (load : Option Actor × Option Int) :
    release b (release a load) = release a (release b load) ↔ ∀ actor, load.1 = some actor →
    0 < actor.currentLoad →
      actor.currentLoad ≤ a + b ∨ a < actor.currentLoad ∧ b < actor.currentLoad := by
  obtain ⟨_ | actor, recorded⟩ := load
  · simp [release]
  · simp only [Option.some.injEq, forall_eq']
    by_cases hload : 0 < actor.currentLoad
    · simp only [release_release recorded _ _ hload, Prod.mk.injEq, Option.some.injEq, hload,
        forall_const]
      constructor
      · rintro ⟨-, hsame⟩
        split_ifs at hsame <;> omega
      · intro hdemands
        have hsame : (if a < actor.currentLoad then max 0 (actor.currentLoad - a - b) else 0) =
            if b < actor.currentLoad then max 0 (actor.currentLoad - b - a) else 0 := by
          split_ifs <;> omega
        rw [hsame]
        exact ⟨rfl, rfl⟩
    · simp [release, hload]

section Commute

variable (o : Orchestrator) {first second : Operation} (h : first.Apart second)

include h

theorem recordOf_comm (taskId : TaskId) :
    ((o.apply first).apply second).workflowState.recordOf taskId =
      ((o.apply second).apply first).workflowState.recordOf taskId := by
  rw [recordOf_apply _ h.right, recordOf_apply _ h.left, recordOf_apply _ h.left,
    recordOf_apply _ h.right]
  by_cases hfirst : first.task = some taskId
  · rw [if_neg (h.task taskId hfirst), if_pos hfirst, if_pos hfirst, if_neg (h.task taskId hfirst)]
  · rw [if_neg hfirst, if_neg hfirst]

theorem absences_comm (actorId : ActorId) :
    ((o.apply first).apply second).workflowState.absences actorId =
      ((o.apply second).apply first).workflowState.absences actorId := by
  rw [absences_apply _ h.right, absences_apply _ h.left, absences_apply _ h.left,
    absences_apply _ h.right]
  by_cases hfirst : first.actor = some actorId
  · rw [if_neg (h.actor actorId hfirst), if_pos hfirst, if_pos hfirst,
      if_neg (h.actor actorId hfirst)]
  · rw [if_neg hfirst, if_neg hfirst]

theorem releasedActor_apply : (o.apply first).releasedActor second = o.releasedActor second := by
  unfold Orchestrator.releasedActor
  cases hended : second.endedTask with
  | none => rfl
  | some taskId =>
    have hrecord := recordOf_apply o h.left taskId
    rw [if_neg fun hfirst => h.task taskId hfirst (Operation.task_of_endedTask hended)] at hrecord
    exact congrArg TaskRecord.owner hrecord

theorem releasedDemand_apply : (o.apply first).releasedDemand second = o.releasedDemand second := by
  have hworkflow : (o.apply first).workflow = o.workflow :=
    congrArg Setting.workflow (setting_apply o h.left)
  unfold Orchestrator.releasedDemand
  rw [hworkflow]

theorem loadOf_apply_apply (actorId : ActorId) :
    ((o.apply first).apply second).loadOf actorId =
      if o.releasedActor second = some actorId then
        release (o.releasedDemand second) (if o.releasedActor first = some actorId then
          release (o.releasedDemand first) (o.loadOf actorId) else o.loadOf actorId)
      else if o.releasedActor first = some actorId then
        release (o.releasedDemand first) (o.loadOf actorId)
      else o.loadOf actorId := by
  rw [loadOf_apply _ h.right, loadOf_apply _ h.left, releasedActor_apply o h,
    releasedDemand_apply o h]

theorem requestsReplan_apply : (o.apply first).requestsReplan second = o.requestsReplan second := by
  cases second with
  | setActorUnavailable actorId unavailable =>
    have habsences := absences_apply o h.left actorId
    rw [if_neg fun hfirst => h.actor actorId hfirst rfl] at habsences
    have hmem : actorId ∈ (o.apply first).workflowState.unavailableActors ↔
        actorId ∈ o.workflowState.unavailableActors := by
      rw [← List.count_pos_iff, ← List.count_pos_iff]
      exact Iff.of_eq (congrArg (0 < ·) habsences)
    simp only [Orchestrator.requestsReplan, hmem]
  | _ => rfl

theorem replanRequested_comm :
    ((o.apply first).apply second).replanRequested =
      ((o.apply second).apply first).replanRequested := by
  rw [replanRequested_notified _ h.right, replanRequested_notified _ h.left,
    replanRequested_notified _ h.left, replanRequested_notified _ h.right, requestsReplan_apply o h,
    requestsReplan_apply o h.symm, Bool.or_right_comm]

theorem assignedTasks_comm :
    ((o.apply first).apply second).workflowState.assignedTasks =
      ((o.apply second).apply first).workflowState.assignedTasks := by
  rw [assignedTasks_apply _ h.right, assignedTasks_apply _ h.left, assignedTasks_apply _ h.left,
    assignedTasks_apply _ h.right]
  cases first.endedTask with
  | none => rfl
  | some taskId =>
    cases second.endedTask with
    | none => rfl
    | some other => exact List.filter_comm _ _ _

theorem loadOf_comm_iff :
    (∀ actorId, ((o.apply first).apply second).loadOf actorId =
      ((o.apply second).apply first).loadOf actorId) ↔
      o.ReleasesCommute first second := by
  have hboth : ∀ actorId, o.releasedActor first = some actorId →
      o.releasedActor second = some actorId →
      (((o.apply first).apply second).loadOf actorId =
        ((o.apply second).apply first).loadOf actorId ↔
        ∀ actor, o.registry.get actorId = some actor → 0 < actor.currentLoad →
          actor.currentLoad ≤ o.releasedDemand first + o.releasedDemand second ∨
            o.releasedDemand first < actor.currentLoad ∧
              o.releasedDemand second < actor.currentLoad) := by
    intro actorId hfirst hsecond
    rw [loadOf_apply_apply o h, loadOf_apply_apply o h.symm]
    simp only [hfirst, hsecond, if_true]
    exact release_comm_iff _ _ _
  constructor
  · intro hsame actorId actor hfirst hsecond
    exact (hboth actorId hfirst hsecond).mp (hsame actorId) actor
  · intro hcommute actorId
    by_cases hfirst : o.releasedActor first = some actorId
    · by_cases hsecond : o.releasedActor second = some actorId
      · exact (hboth actorId hfirst hsecond).mpr fun actor => hcommute actorId actor hfirst hsecond
      · simp only [loadOf_apply_apply o h, loadOf_apply_apply o h.symm, hfirst, hsecond,
          if_true, if_false]
    · simp only [loadOf_apply_apply o h, loadOf_apply_apply o h.symm, hfirst, if_false]

theorem alike_of_loadOf
    (hloads : ∀ actorId,
      ((o.apply first).apply second).loadOf actorId =
        ((o.apply second).apply first).loadOf actorId) :
    ((o.apply first).apply second).Alike ((o.apply second).apply first) := by
  have hsetting : ((o.apply first).apply second).setting =
      ((o.apply second).apply first).setting := by
    rw [setting_apply _ h.right, setting_apply _ h.left, setting_apply _ h.left,
      setting_apply _ h.right]
  have hrecord := recordOf_comm o h
  have habsent : ∀ id, id ∈ ((o.apply first).apply second).workflowState.unavailableActors ↔
      id ∈ ((o.apply second).apply first).workflowState.unavailableActors := by
    intro id
    rw [← List.count_pos_iff, ← List.count_pos_iff]
    exact Iff.of_eq (congrArg (0 < ·) (absences_comm o h id))
  exact
    { workflow := congrArg Setting.workflow hsetting
      actorIds := congrArg Setting.actorIds hsetting
      actors := fun id => congrArg Prod.fst (hloads id)
      strategy := congrArg Setting.strategy hsetting
      actorRankingProfile := congrArg Setting.actorRankingProfile hsetting
      fsm := congrArg Setting.fsm hsetting
      latestSchedule := congrArg Setting.latestSchedule hsetting
      started := congrArg Setting.started hsetting
      replanRequested := replanRequested_comm o h
      workflowState :=
        { completedPhases := congrArg Setting.completedPhases hsetting
          assignedTasks := assignedTasks_comm o h
          completedTasks := fun id => Iff.of_eq (congrArg TaskRecord.completed (hrecord id))
          actorLoad := fun id => congrArg Prod.snd (hloads id)
          unavailableActors := habsent
          resumableTasks := fun id => Iff.of_eq (congrArg TaskRecord.resumable (hrecord id))
          unresumableTasks := fun id => Iff.of_eq (congrArg TaskRecord.unresumable (hrecord id))
          taskActorDistance := congrArg Setting.taskActorDistance hsetting
          taskReleaseTime := congrArg Setting.taskReleaseTime hsetting
          taskAllowedActors := congrArg Setting.taskAllowedActors hsetting
          taskPreferredActors := congrArg Setting.taskPreferredActors hsetting
          taskActor := fun id => congrArg TaskRecord.owner (hrecord id)
          taskPlannedStartTime := congrArg Setting.taskPlannedStartTime hsetting
          taskPlannedEndTime := congrArg Setting.taskPlannedEndTime hsetting
          taskActualCompletionTime := fun id => congrArg TaskRecord.completionTime (hrecord id) } }

end Commute

/-- Two notifications commute unless they cut off what one of them gives back to an actor. -/
theorem order_free_iff (o : Orchestrator) {first second : Operation} (h : first.Apart second) :
    o.OrderFree first second ↔ o.ReleasesCommute first second := by
  constructor
  · intro hfree
    apply (loadOf_comm_iff o h).mp
    intro actorId
    exact Prod.ext (hfree.1.actors actorId) (hfree.1.workflowState.actorLoad actorId)
  · intro hcommute
    have halike := alike_of_loadOf o h ((loadOf_comm_iff o h).mpr hcommute)
    exact ⟨halike, halike.tick⟩

/-- Demands that are not negative are never cut off out of order. -/
theorem releasesCommute_of_nonneg (o : Orchestrator) (first second : Operation)
    (hdemand : ∀ process ∈ o.workflow.processes.rows, 0 ≤ process.demand) :
    o.ReleasesCommute first second := by
  have hreleased : ∀ op, 0 ≤ o.releasedDemand op := by
    intro op
    unfold Orchestrator.releasedDemand
    cases op.endedTask with
    | none => exact le_refl 0
    | some taskId => exact taskDemand_nonneg hdemand taskId
  intro actorId actor _ _ _ _
  have hfirst := hreleased first
  have hsecond := hreleased second
  omega

def twoInFlight (demand : Int) : Orchestrator :=
  ({} : Orchestrator).run
    [.setWorkflow
      (((({} : Workflow).addPhase { id := "phase", processIds := ["a", "b"] }).addProcess
        { id := "a", estimatedDuration := 5, demand := 2 }).addProcess
        { id := "b", estimatedDuration := 5, demand := demand }),
      .registerActor
        { id := "x", capacity := 5, availabilityWindows := [{ start := 0, stop := 20 }],
          currentLoad := 2 },
      .start insertionOrder, .tick insertionOrder 0]

theorem order_free_of_two_tasks :
    (twoInFlight 1).workflowState.assignedTasks = ["a", "b"] ∧
      (twoInFlight 1).OrderFree (.notifyTaskCompleted "a" 5) (.notifyTaskFailed "b" true) := by
  have hapart : Operation.Apart (.notifyTaskCompleted "a" 5) (.notifyTaskFailed "b" true) :=
    ⟨rfl, rfl, by simp [Operation.task], by simp [Operation.actor]⟩
  exact ⟨by decide, (order_free_iff (twoInFlight 1) hapart).mpr
    (releasesCommute_of_nonneg _ _ _ (by decide))⟩

theorem order_shows_of_negative_demand :
    (twoInFlight (-3)).workflowState.assignedTasks = ["a", "b"] ∧
      ¬(twoInFlight (-3)).OrderFree (.notifyTaskCompleted "a" 5) (.notifyTaskCompleted "b" 5) := by
  refine ⟨by decide, ?_⟩
  intro hfree
  have hloads := congrArg (Option.map Actor.currentLoad) (hfree.1.actors "x")
  exact absurd hloads (by decide)

end TaskOrchestrator.Core
