import TaskOrchestrator.Core.Feasibility
import Mathlib.Data.List.Dedup
import Mathlib.Data.Option.Basic

/-!
# Planning

Every plan that the scheduler returns is feasible. Each function of a planning pass gets what
it promises; the promises carry the invariant of the rounds through one task, one round and
the whole pass.
-/

namespace TaskOrchestrator.Core

open Library

set_option autoImplicit false

section Pending

variable {workflow : Workflow} {state : WorkflowState}

theorem mem_readyPhases {phaseId : PhaseId}
    (h : phaseId ∈ workflow.readyPhases state.completedPhases) :
    ∃ phase, workflow.phase phaseId = some phase ∧ phase.id ∉ state.completedPhases ∧
      ∀ dep ∈ phase.dependencyPhaseIds, dep ∈ state.completedPhases := by
  obtain ⟨phase, hphase, rfl⟩ := List.mem_map.mp h
  obtain ⟨hmem, hready⟩ := List.mem_filter.mp hphase
  simp only [Bool.and_eq_true, decide_eq_true_eq, List.all_eq_true] at hready
  exact ⟨phase, (KeyedRows.get?_eq_some_iff _ _ _).mpr ⟨hmem, rfl⟩, hready⟩

theorem mem_taskIdsForPhase {phase : Phase} {phaseId : PhaseId} {taskId : TaskId}
    (hphase : workflow.phase phaseId = some phase) (h : taskId ∈ workflow.taskIdsForPhase phaseId) :
    ∃ processId ∈ phase.processIds, ∃ process, workflow.process processId = some process ∧
      taskId ∈ process.taskIds := by
  simp only [Workflow.taskIdsForPhase, hphase] at h
  obtain ⟨processId, hprocessId, htask⟩ := List.mem_flatMap.mp h
  cases hprocess : workflow.process processId with
  | none => exact absurd htask (by simp [hprocess])
  | some process =>
    exact ⟨processId, hprocessId, process, hprocess, by simpa [hprocess] using htask⟩

/-- The task has its process and the values of it. -/
structure Describes (workflow : Workflow) (task : PendingTask) : Prop where
  process : task.process = workflow.processForTask task.info.id
  duration : task.info.duration = taskDuration workflow task.info.id
  demand : task.info.demand = taskDemand workflow task.info.id
  releaseTime : task.info.releaseTime =
    (task.process.map Process.releaseTime).getD kDefaultTaskReleaseTime
  latestStartTime : task.info.latestStartTime = task.process.bind Process.latestStartTime
  deadline : task.info.deadline = task.process.bind Process.deadline

theorem pendingTask_describes (phaseId : PhaseId) (taskId : TaskId) :
    Describes workflow (pendingTask workflow phaseId taskId) :=
  ⟨rfl, rfl, rfl, rfl, rfl, rfl⟩

theorem mem_collectPendingTasks {task : PendingTask}
    (h : task ∈ collectPendingTasks workflow state) :
    Describes workflow task ∧ InReadyPhase workflow state task.info.id ∧
      skippedByPlanning state task.info.id = false := by
  obtain ⟨phaseId, hphaseId, htask⟩ := List.mem_flatMap.mp h
  obtain ⟨taskId, htaskId, rfl⟩ := List.mem_map.mp htask
  obtain ⟨hmem, hskipped⟩ := List.mem_filter.mp htaskId
  obtain ⟨phase, hphase, hopen, hdeps⟩ := mem_readyPhases hphaseId
  have hrow : phase ∈ workflow.phases.rows := ((KeyedRows.get?_eq_some_iff _ _ _).mp hphase).1
  refine ⟨pendingTask_describes phaseId taskId,
    ⟨phase, hrow, hopen, hdeps, mem_taskIdsForPhase hphase hmem⟩, ?_⟩
  change skippedByPlanning state taskId = false
  simpa using hskipped

theorem not_skippedByPlanning {taskId : TaskId} (h : skippedByPlanning state taskId = false)
    (hdisjoint : ∀ id ∈ state.assignedTasks, id ∉ state.resumableTasks) :
    taskId ∉ state.assignedTasks ∧ taskId ∉ state.completedTasks ∧
    taskId ∉ state.unresumableTasks := by
  simp only [skippedByPlanning, Bool.or_eq_false_iff, Bool.and_eq_false_iff,
    decide_eq_false_iff_not, not_not] at h
  obtain ⟨⟨hassigned, hcompleted⟩, hunresumable⟩ := h
  refine ⟨fun hmem => ?_, hcompleted, hunresumable⟩
  rcases hassigned with hnot | hresumable
  · exact hnot hmem
  · exact hdisjoint taskId hmem hresumable

end Pending

def reserved : Weighing ScheduledInterval where
  start := ScheduledInterval.start
  stop := ScheduledInterval.stop
  weight := ScheduledInterval.demand

theorem concurrentDemandAt_eq_load (reservations : List ScheduledInterval) (instant : Time) :
    concurrentDemandAt reservations instant = reserved.load reservations instant := by
  have hfold := reserved.foldl_load reservations instant 0
  rw [zero_add] at hfold
  exact hfold

theorem hasCapacityForInterval_iff (reservations : List ScheduledInterval) (capacity : Int)
    (start stop : Time) (demand : Int) :
    hasCapacityForInterval reservations capacity start stop demand = true ↔
      ∀ instant, start ≤ instant → instant < stop →
        concurrentDemandAt reservations instant + demand ≤ capacity := by
  simp only [hasCapacityForInterval, List.all_eq_true, decide_eq_true_eq]
  constructor
  · intro h instant hstart hstop
    exact h instant (Int.mem_range_iff.mpr ⟨hstart, hstop⟩)
  · intro h instant hmem
    obtain ⟨hstart, hstop⟩ := Int.mem_range_iff.mp hmem
    exact h instant hstart hstop

/-- A start that is found in a list of windows is not before the release, lies in one of them
and finds the capacity free. -/
theorem start_in_window_sound {windows : List AvailabilityWindow}
    {reservations : List ScheduledInterval} {capacity : Int} {releaseTime : Time}
    {duration : Duration} {demand : Int} {start : Time} (h : (windows.findSome? fun window =>
      (Int.range (max window.start releaseTime) (window.stop - duration + 1)).find? fun candidate =>
        hasCapacityForInterval reservations capacity candidate (candidate + duration) demand) =
          some start) :
    releaseTime ≤ start ∧
    (∃ window ∈ windows, window.start ≤ start ∧ start + duration ≤ window.stop) ∧
      ∀ instant, start ≤ instant → instant < start + duration →
        concurrentDemandAt reservations instant + demand ≤ capacity := by
  obtain ⟨window, hwindow, hfind⟩ := List.exists_of_findSome?_eq_some h
  have hcapacity := List.find?_some hfind
  obtain ⟨hlower, hupper⟩ := Int.mem_range_iff.mp (List.mem_of_find?_eq_some hfind)
  obtain ⟨hwindowStart, hrelease⟩ := max_le_iff.mp hlower
  have hwindowStop : start + duration ≤ window.stop := by
    have hle := Int.le_of_lt_add_one hupper
    exact Int.add_le_of_le_sub_right hle
  exact ⟨hrelease, ⟨window, hwindow, hwindowStart, hwindowStop⟩,
    (hasCapacityForInterval_iff _ _ _ _ _).mp hcapacity⟩

theorem earliestStart_sound {actor : Actor} {reservations : List ScheduledInterval}
    {releaseTime : Time} {duration : Duration} {demand : Int} {start : Time}
    (h : earliestStart actor reservations releaseTime duration demand = some start) :
    releaseTime ≤ start ∧ (0 < duration →
      (∃ window ∈ actor.availabilityWindows, window.start ≤ start ∧ start + duration ≤
        window.stop) ∧
      ∀ instant, start ≤ instant → instant < start + duration →
        concurrentDemandAt reservations instant + demand ≤ actor.capacity) := by
  unfold earliestStart at h
  split_ifs at h with hduration
  · obtain rfl := Option.some.inj h
    exact ⟨le_refl _, fun hpositive => absurd hpositive (not_lt.mpr hduration)⟩
  · obtain ⟨hrelease, ⟨window, hwindow, hinside⟩, hcapacity⟩ := start_in_window_sound h
    exact ⟨hrelease, fun _ => ⟨⟨window, (perm_sortBy _ _).mem_iff.mp hwindow, hinside⟩, hcapacity⟩⟩

theorem foldlM_readyTime {completionTimes : CompletionTable} {dependencyIds : List TaskId}
    {first ready : Time} (h : dependencyIds.foldlM (fun readyTime dependencyId =>
      (completionTimes.lookup dependencyId).map fun completion => max readyTime completion) first =
        some ready) :
    first ≤ ready ∧ ∀ dep ∈ dependencyIds, ∃ completion,
      completionTimes.lookup dep = some completion ∧
      completion ≤ ready := by
  induction dependencyIds generalizing first with
  | nil =>
    obtain rfl := Option.some.inj h
    exact ⟨le_refl _, by simp⟩
  | cons dep rest ih =>
    rw [List.foldlM_cons] at h
    obtain ⟨next, hnext, hrest⟩ := Option.bind_eq_some_iff.mp h
    obtain ⟨completion, hcompletion, rfl⟩ := Option.map_eq_some_iff.mp hnext
    obtain ⟨hle, hall⟩ := ih hrest
    obtain ⟨hfirst, hcompletionLe⟩ := max_le_iff.mp hle
    refine ⟨hfirst, fun other hother => ?_⟩
    rcases List.mem_cons.mp hother with rfl | hother
    · exact ⟨completion, hcompletion, hcompletionLe⟩
    · exact hall other hother

theorem dependencyReadyTime_sound {task : PendingTask} {completionTimes : CompletionTable}
    {ready : Time} (h : dependencyReadyTime task completionTimes = some ready) :
    ∀ process ∈ task.process, ∀ dep ∈ process.dependencyTaskIds, ∃ completion,
      completionTimes.lookup dep = some completion ∧ completion ≤ ready := by
  intro process hprocess
  simp only [dependencyReadyTime, Option.mem_def.mp hprocess] at h
  exact (foldlM_readyTime h).2

theorem foldlM_readyTime_isSome {completionTimes : CompletionTable} {dependencyIds : List TaskId}
    (h : ∀ dep ∈ dependencyIds, (completionTimes.lookup dep).isSome) (first : Time) :
    (dependencyIds.foldlM (fun readyTime dependencyId =>
      (completionTimes.lookup dependencyId).map fun completion => max readyTime completion)
        first).isSome := by
  induction dependencyIds generalizing first with
  | nil => rfl
  | cons dep rest ih =>
    obtain ⟨completion, hcompletion⟩ := Option.isSome_iff_exists.mp (h dep List.mem_cons_self)
    rw [List.foldlM_cons, hcompletion]
    exact ih (fun other hother => h other (List.mem_cons_of_mem _ hother)) _

theorem dependencyReadyTime_isSome_iff {task : PendingTask} {completionTimes : CompletionTable} :
    (dependencyReadyTime task completionTimes).isSome = true ↔
      ∀ process ∈ task.process, ∀ dep ∈ process.dependencyTaskIds,
        (completionTimes.lookup dep).isSome = true := by
  constructor
  · intro hready process hprocess dep hdep
    obtain ⟨ready, hready⟩ := Option.isSome_iff_exists.mp hready
    obtain ⟨completion, hcompletion, -⟩ :=
      dependencyReadyTime_sound hready process hprocess dep hdep
    rw [hcompletion]
    rfl
  · intro h
    unfold dependencyReadyTime
    cases hprocess : task.process with
    | none => rfl
    | some process => exact foldlM_readyTime_isSome (h process hprocess) 0

section Selection

variable {registry : ActorRegistry} {state : WorkflowState} {now : Time}
variable {profile : ActorRankingProfile}
variable {task : PendingTask} {reservations : ReservationTable}

theorem actorCandidate_sound {earliestRelease : Time} {actorId : ActorId}
    {candidate : RankedActorCandidate}
    (h : actorCandidate registry state task reservations earliestRelease actorId = some candidate) :
    actorId ∉ state.unavailableActors ∧ ∃ actor, registry.get actorId = some actor ∧
      actorIsAllowed task actor state = true ∧
      earliestStart actor (reservationsOf reservations actorId) earliestRelease task.info.duration
        task.info.demand = some candidate.startTime ∧
      (∀ latest ∈ task.info.latestStartTime, candidate.startTime ≤ latest) ∧
      (∀ deadline ∈ task.info.deadline, candidate.startTime + task.info.duration ≤ deadline) ∧
      candidate.actorId = actorId ∧ candidate.finishTime =
        candidate.startTime + task.info.duration := by
  simp only [actorCandidate, Option.bind_eq_bind, Option.bind_eq_some_iff, Option.guard_eq_some',
    exists_const, Option.all_eq_true, decide_eq_true_eq, effectiveLatestStartTime] at h
  obtain ⟨havailable, actor, hactor, hallowed, start, hstart, hlatest, hdeadline, hcandidate⟩ := h
  obtain rfl := Option.some.inj hcandidate
  exact ⟨havailable, actor, hactor, hallowed, hstart, hlatest, hdeadline,
    ActorRegistry.id_of_get hactor, rfl⟩

def FromActor (registry : ActorRegistry) (state : WorkflowState) (task : PendingTask)
    (reservations : ReservationTable) (earliestRelease : Time)
    (selection : CandidateSelection) : Prop :=
  ∃ actorId, actorCandidate registry state task reservations earliestRelease actorId =
    some selection.candidate

theorem considerActor_fromActor {earliestRelease : Time} {best : Option CandidateSelection}
    {actorId : ActorId}
    (hbest : ∀ s ∈ best, FromActor registry state task reservations earliestRelease s) :
    ∀ s ∈ considerActor registry state profile task reservations earliestRelease best actorId,
      FromActor registry state task reservations earliestRelease s := by
  intro s hs
  unfold considerActor at hs
  cases hcandidate : actorCandidate registry state task reservations earliestRelease actorId with
  | none =>
    rw [hcandidate] at hs
    exact hbest s hs
  | some candidate =>
    rw [hcandidate] at hs
    cases best with
    | none =>
      obtain rfl := Option.some.inj hs
      exact ⟨actorId, hcandidate⟩
    | some previous =>
      dsimp only at hs
      split_ifs at hs
      · obtain rfl := Option.some.inj hs
        exact ⟨actorId, hcandidate⟩
      · exact hbest s hs

theorem selectBestCandidate_sound {completionTimes : CompletionTable}
    {selection : CandidateSelection}
    (h : selectBestCandidate registry state now profile task reservations completionTimes =
      some selection) :
    ∃ dependencyReady, dependencyReadyTime task completionTimes = some dependencyReady ∧
      FromActor registry state task reservations
        (max (max now (effectiveReleaseTime task state)) dependencyReady) selection := by
  unfold selectBestCandidate at h
  cases hready : dependencyReadyTime task completionTimes with
  | none => exact absurd h (by simp [hready])
  | some dependencyReady =>
    simp only [hready] at h
    refine ⟨dependencyReady, rfl, ?_⟩
    generalize max (max now (effectiveReleaseTime task state)) dependencyReady =
      earliestRelease at h ⊢
    have hscan := List.foldlRecOn registry.actorIds
      (considerActor registry state profile task reservations earliestRelease)
      (motive := fun best => ∀ s ∈ best,
        FromActor registry state task reservations earliestRelease s)
      (b := none) (by simp) (fun best hbest actorId _ => considerActor_fromActor hbest)
    exact hscan selection h

end Selection

section Admissibility

variable {workflow : Workflow} {state : WorkflowState} {registry : ActorRegistry} {now : Time}

theorem effectiveAllowedActors_iff {task : PendingTask} (htask : Describes workflow task)
    (actorId : ActorId) :
    ((effectiveAllowedActors task state).all fun actorIds => actorIds = [] ∨ actorId ∈ actorIds) =
      true ↔
      allowList workflow state task.info.id = [] ∨
      actorId ∈ allowList workflow state task.info.id := by
  unfold effectiveAllowedActors effectiveActors allowList
  rw [htask.process]
  cases state.taskAllowedActors.lookup task.info.id with
  | some actorIds => simp
  | none =>
    cases workflow.processForTask task.info.id with
    | none => simp
    | some process =>
      by_cases hempty : process.allowedActorIds = []
      · simp [hempty]
      · simp [hempty]

theorem actorIsAllowed_iff {task : PendingTask} (htask : Describes workflow task) (actor : Actor) :
    actorIsAllowed task actor state = true ↔ Suits workflow state task.info.id actor := by
  have htypes : actorMatchesTypeConstraints task actor = true ↔
      ∀ process ∈ workflow.processForTask task.info.id,
        process.allowedActorTypes = [] ∨ actor.type ∈ process.allowedActorTypes := by
    simp [actorMatchesTypeConstraints, htask.process, Option.all_eq_true]
  have hcapabilities : actorSupportsRequiredCapabilities task actor = true ↔
      ∀ process ∈ workflow.processForTask task.info.id, ∀ capability ∈ process.requiredCapabilities,
        capability ∈ actor.capabilities := by
    simp [actorSupportsRequiredCapabilities, htask.process, Option.all_eq_true]
  unfold actorIsAllowed
  rw [Bool.and_eq_true, Bool.and_eq_true, Bool.and_eq_true, effectiveAllowedActors_iff htask,
    htypes, hcapabilities, decide_eq_true_eq, htask.demand]
  constructor
  · intro ⟨⟨⟨hallowed, htyped⟩, hcapable⟩, hfits⟩
    exact ⟨hallowed, htyped, hcapable, hfits⟩
  · intro ⟨hallowed, htyped, hcapable, hfits⟩
    exact ⟨⟨⟨hallowed, htyped⟩, hcapable⟩, hfits⟩

theorem actorCandidate_offered {task : PendingTask} {reservations : ReservationTable}
    {dependencyReady : Time} {actorId : ActorId} {candidate : RankedActorCandidate}
    (hpending : task ∈ collectPendingTasks workflow state)
    (h : actorCandidate registry state task reservations
      (max (max now (effectiveReleaseTime task state)) dependencyReady) actorId = some candidate) :
    ∃ actor, Offered workflow state registry now (assignmentOf task candidate) actor ∧
      dependencyReady ≤ candidate.startTime ∧
      candidate.finishTime = candidate.startTime + taskDuration workflow task.info.id ∧
      ∀ instant, (planned workflow).Covers (assignmentOf task candidate) instant →
        concurrentDemandAt (reservationsOf reservations candidate.actorId) instant +
          taskDemand workflow task.info.id ≤ actor.capacity := by
  obtain ⟨htask, hready, -⟩ := mem_collectPendingTasks hpending
  obtain ⟨havailable, actor, hactor, -, hstart, -, -, rfl, hfinish⟩ := actorCandidate_sound h
  obtain ⟨hrelease, hpositive⟩ := earliestStart_sound hstart
  obtain ⟨hnowRelease, hdependencies⟩ := max_le_iff.mp hrelease
  rw [htask.duration] at hpositive hfinish
  rw [htask.demand] at hpositive
  refine ⟨actor, ⟨hactor, havailable, hready, (max_le_iff.mp hnowRelease).1⟩, hdependencies,
    hfinish, ?_⟩
  intro instant hcovers
  obtain ⟨hlower, hupper⟩ : candidate.startTime ≤ instant ∧
      instant < candidate.startTime + taskDuration workflow task.info.id := hcovers
  have hduration : 0 < taskDuration workflow task.info.id :=
    pos_of_lt_add_right (hlower.trans_lt hupper)
  exact (hpositive hduration).2 instant hlower hupper

theorem actorCandidate_admissible {task : PendingTask} {reservations : ReservationTable}
    {dependencyReady : Time} {actorId : ActorId} {candidate : RankedActorCandidate}
    (hdisjoint : ∀ id ∈ state.assignedTasks, id ∉ state.resumableTasks)
    (hpending : task ∈ collectPendingTasks workflow state)
    (h : actorCandidate registry state task reservations
      (max (max now (effectiveReleaseTime task state)) dependencyReady) actorId = some candidate) :
    ∃ actor, registry.get candidate.actorId = some actor ∧
      Admissible workflow state now (assignmentOf task candidate) actor := by
  obtain ⟨htask, hready, hskipped⟩ := mem_collectPendingTasks hpending
  obtain ⟨hnotInFlight, hnotCompleted, hresumable⟩ := not_skippedByPlanning hskipped hdisjoint
  obtain ⟨havailable, actor, hactor, hallowed, hstart, hlatest, hdeadline, rfl, hfinish⟩ :=
    actorCandidate_sound h
  obtain ⟨hrelease, hpositive⟩ := earliestStart_sound hstart
  obtain ⟨hnow, hreleased⟩ := max_le_iff.mp (max_le_iff.mp hrelease).1
  rw [htask.duration] at hpositive hdeadline
  rw [htask.latestStartTime, htask.process] at hlatest
  rw [htask.deadline, htask.process] at hdeadline
  rw [effectiveReleaseTime, htask.releaseTime, htask.process] at hreleased
  refine ⟨actor, hactor, ?_⟩
  constructor
  · exact hready
  · exact hnotInFlight
  · exact hnotCompleted
  · exact hresumable
  · exact havailable
  · exact (actorIsAllowed_iff htask actor).mp hallowed
  · exact hnow
  · exact hreleased
  · intro process hprocess latest hmem
    exact hlatest latest (Option.bind_eq_some_iff.mpr ⟨process, hprocess, hmem⟩)
  · intro process hprocess deadline hmem
    exact hdeadline deadline (Option.bind_eq_some_iff.mpr ⟨process, hprocess, hmem⟩)
  · intro hduration
    exact (hpositive hduration).1

end Admissibility

theorem concurrentDemandAt_append (xs ys : List ScheduledInterval) (instant : Time) :
    concurrentDemandAt
    (xs ++ ys) instant = concurrentDemandAt xs instant + concurrentDemandAt ys instant := by
  simp only [concurrentDemandAt_eq_load, Weighing.load_append]

theorem concurrentDemandAt_singleton (interval : ScheduledInterval) (instant : Time) :
    concurrentDemandAt [interval] instant =
      if interval.start ≤ instant ∧ instant < interval.stop then interval.demand else 0 := by
  simp [concurrentDemandAt]

@[simp]
theorem reservationsOf_reserve (reservations : ReservationTable) (actorId other : ActorId)
    (interval : ScheduledInterval) :
    reservationsOf (reserve reservations actorId interval) other =
      reservationsOf reservations other ++ if actorId = other then [interval] else [] := by
  unfold reserve
  rw [reservationsOf, Dictionary.lookup_assign]
  split_ifs with hid
  · subst hid
    rfl
  · rw [List.append_nil]
    rfl

section Initial

variable {workflow : Workflow} {registry : ActorRegistry} {state : WorkflowState} {now : Time}

theorem reserveAssigned_demand (reservations : ReservationTable) (taskId : TaskId)
    (actorId : ActorId) (instant : Time) :
    concurrentDemandAt
    (reservationsOf (reserveAssigned workflow state now reservations taskId) actorId) instant =
      concurrentDemandAt (reservationsOf reservations actorId) instant +
        (inFlight workflow state now).load
          ([taskId].filter fun id => state.taskActor.lookup id = some actorId) instant := by
  unfold reserveAssigned
  cases howner : state.taskActor.lookup taskId with
  | none => simp [howner]
  | some owner =>
    by_cases hid : owner = actorId
    · subst hid
      have hload : (inFlight workflow state now).load
          ([taskId].filter fun id => state.taskActor.lookup id = some owner) instant =
          concurrentDemandAt [assignedInterval workflow state now taskId] instant := by
        rw [concurrentDemandAt_eq_load]
        simp only [List.filter_cons, howner, decide_true, if_true, List.filter_nil]
        rfl
      rw [hload]
      dsimp only
      split_ifs with hempty
      · -- An interval that ends before it starts covers no instant.
        have hnot : ¬ ((assignedInterval workflow state now taskId).start ≤ instant ∧
            instant < (assignedInterval workflow state now taskId).stop) :=
          fun h => absurd (h.1.trans_lt h.2) (not_lt.mpr hempty)
        rw [concurrentDemandAt_singleton, if_neg hnot, add_zero]
      · rw [reservationsOf_reserve, if_pos rfl, concurrentDemandAt_append]
    · dsimp only
      split_ifs with hempty
      · simp [howner, hid]
      · simp [howner, hid]

theorem foldl_reserveAssigned_demand (taskIds : List TaskId) (reservations : ReservationTable)
    (actorId : ActorId) (instant : Time) :
    concurrentDemandAt
    (reservationsOf (taskIds.foldl (reserveAssigned workflow state now) reservations) actorId)
        instant =
      concurrentDemandAt (reservationsOf reservations actorId) instant +
        (inFlight workflow state now).load
          (taskIds.filter fun id => state.taskActor.lookup id = some actorId) instant := by
  induction taskIds generalizing reservations with
  | nil => simp
  | cons taskId rest ih =>
    have hcons : (taskId :: rest).filter (fun id => state.taskActor.lookup id = some actorId) =
        [taskId].filter (fun id => state.taskActor.lookup id = some actorId) ++
          rest.filter (fun id => state.taskActor.lookup id = some actorId) := by
      rw [← List.filter_append]
      rfl
    rw [List.foldl_cons, ih, reserveAssigned_demand, hcons, Weighing.load_append, add_assoc]

def opaqueDemandAt (registry : ActorRegistry) (state : WorkflowState) (now : Time)
    (reservations : ReservationTable) (actorId : ActorId) (instant : Time) : Int :=
  if now ≤ instant ∧ instant < kOpaqueReservationEnd then
    max 0 (baselineLoad registry state actorId - concurrentDemandAt
      (reservationsOf reservations actorId) now)
  else 0

theorem reserveOpaque_self (reservations : ReservationTable) (actorId : ActorId) (instant : Time) :
    concurrentDemandAt
    (reservationsOf (reserveOpaque registry state now reservations actorId) actorId) instant =
      concurrentDemandAt (reservationsOf reservations actorId) instant +
        opaqueDemandAt registry state now reservations actorId instant := by
  unfold reserveOpaque opaqueDemandAt
  dsimp only
  split_ifs with hpositive hcovered hcovered
  · rw [reservationsOf_reserve, if_pos rfl, concurrentDemandAt_append, concurrentDemandAt_singleton,
      if_pos hcovered]
  · rw [reservationsOf_reserve, if_pos rfl, concurrentDemandAt_append, concurrentDemandAt_singleton,
      if_neg hcovered]
  · have hzero : max 0 (baselineLoad registry state actorId -
        concurrentDemandAt (reservationsOf reservations actorId) now) = 0 :=
      le_antisymm (not_lt.mp hpositive) (le_max_left _ _)
    rw [hzero, add_zero]
  · rw [add_zero]

theorem reserveOpaque_other (reservations : ReservationTable) {actorId other : ActorId}
    (hne : actorId ≠ other) :
    reservationsOf (reserveOpaque registry state now reservations actorId) other =
      reservationsOf reservations other := by
  unfold reserveOpaque
  dsimp only
  split_ifs
  · rw [reservationsOf_reserve, if_neg hne, List.append_nil]
  · rfl

theorem foldl_reserveOpaque_of_notMem {actorIds : List ActorId} {actorId : ActorId}
    (h : actorId ∉ actorIds) (reservations : ReservationTable) :
    reservationsOf (actorIds.foldl (reserveOpaque registry state now) reservations) actorId =
      reservationsOf reservations actorId := by
  induction actorIds generalizing reservations with
  | nil => rfl
  | cons first rest ih =>
    have hne : first ≠ actorId := fun heq => h (heq ▸ List.mem_cons_self)
    have hrest : actorId ∉ rest := fun hmem => h (List.mem_cons_of_mem _ hmem)
    rw [List.foldl_cons, ih hrest, reserveOpaque_other _ hne]

theorem foldl_reserveOpaque_demand {actorIds : List ActorId} {actorId : ActorId}
    (hnodup : actorIds.Nodup) (h : actorId ∈ actorIds) (reservations : ReservationTable)
    (instant : Time) :
    concurrentDemandAt
    (reservationsOf (actorIds.foldl (reserveOpaque registry state now) reservations) actorId)
        instant =
      concurrentDemandAt (reservationsOf reservations actorId) instant +
        opaqueDemandAt registry state now reservations actorId instant := by
  induction actorIds generalizing reservations with
  | nil => exact absurd h (by simp)
  | cons first rest ih =>
    obtain ⟨hfirst, hrestNodup⟩ := List.nodup_cons.mp hnodup
    rw [List.foldl_cons]
    rcases List.mem_cons.mp h with rfl | hrest
    · rw [foldl_reserveOpaque_of_notMem hfirst, reserveOpaque_self]
    · have hne : first ≠ actorId := fun heq => hfirst (heq ▸ hrest)
      rw [ih hrestNodup hrest]
      simp only [opaqueDemandAt, reserveOpaque_other _ hne]

theorem actorIds_nodup (registry : ActorRegistry) : registry.actorIds.Nodup :=
  (perm_sortBy _ _).nodup_iff.mpr registry.actors.nodup

theorem mem_actorIds {actorId : ActorId} {actor : Actor} (h : registry.get actorId = some actor) :
    actorId ∈ registry.actorIds := by
  obtain ⟨hrow, hid⟩ := (KeyedRows.get?_eq_some_iff _ _ _).mp h
  exact (perm_sortBy _ _).mem_iff.mpr (List.mem_map.mpr ⟨actor, hrow, hid⟩)

theorem initializeActorReservations_demand {actorId : ActorId} {actor : Actor}
    (hactor : registry.get actorId = some actor) (instant : Time) :
    concurrentDemandAt
    (reservationsOf (initializeActorReservations workflow registry state now) actorId) instant =
      reservedDemandAt workflow state registry now actorId instant := by
  unfold initializeActorReservations
  have hempty : reservationsOf (registry.actorIds.foldl
      (fun (reservations : ReservationTable) id => reservations.assign id []) .empty) actorId =
        [] := by
    rw [reservationsOf, Dictionary.lookup_foldl_assign, if_pos (mem_actorIds hactor)]
    rfl
  have hassigned : ∀ time, concurrentDemandAt (reservationsOf (state.assignedTasks.foldl
      (reserveAssigned workflow state now) (registry.actorIds.foldl
        (fun (reservations : ReservationTable) id => reservations.assign id []) .empty)) actorId)
          time =
      inFlightDemandAt workflow state now actorId time := by
    intro time
    rw [foldl_reserveAssigned_demand, hempty]
    exact zero_add _
  rw [foldl_reserveOpaque_demand (actorIds_nodup registry) (mem_actorIds hactor), opaqueDemandAt,
    hassigned, hassigned]
  rfl

theorem initializeCompletionTimes_done {taskId : TaskId} {time : Time}
    (h : (initializeCompletionTimes workflow state now).lookup taskId = some time) :
    DoneBy workflow state now [] taskId time := by
  unfold initializeCompletionTimes at h
  rw [Dictionary.lookup_foldl_assign, Dictionary.lookup_foldl_assign] at h
  split_ifs at h with hassigned hcompleted
  · obtain rfl := Option.some.inj h
    exact Or.inl ⟨hassigned, le_of_eq (plannedTime_eq taskId).symm⟩
  · obtain rfl := Option.some.inj h
    exact Or.inr (Or.inl ⟨hassigned, hcompleted, le_of_eq (completedTime_eq taskId).symm⟩)
  · exact absurd h (by simp)

end Initial

/-- The plan so far is feasible, its tasks are not looked at again, and the tables of the pass
are what the state and the plan make of them. -/
structure PlanInvariant (workflow : Workflow) (state : WorkflowState) (registry : ActorRegistry)
    (now : Time) (s : PlanState) : Prop where
  feasible : Feasible workflow state registry now s.assignments
  nodup : s.remainingTaskIds.Nodup
  placed : ∀ a ∈ s.assignments, a.taskId ∉ s.remainingTaskIds
  completions : ∀ taskId time, s.completionTimes.lookup taskId = some time →
    DoneBy workflow state now s.assignments taskId time
  reservations : ∀ actorId actor, registry.get actorId = some actor → ∀ instant,
    concurrentDemandAt (reservationsOf s.reservations actorId) instant =
      reservedDemandAt workflow state registry now actorId instant +
        (planned workflow).load (assignedTo actorId s.assignments) instant

/-- The reservations are those of the state and of the plan so far, and no actor is over its
capacity. -/
structure TableInvariant (workflow : Workflow) (state : WorkflowState) (registry : ActorRegistry)
    (now : Time) (s : PlanState) : Prop where
  nodup : s.remainingTaskIds.Nodup
  unique : (s.assignments.map Assignment.taskId).Nodup
  placed : ∀ a ∈ s.assignments, a.taskId ∉ s.remainingTaskIds
  offered : ∀ a ∈ s.assignments, ∃ actor, Offered workflow state registry now a actor
  reservations : ∀ actorId actor, registry.get actorId = some actor → ∀ instant,
    concurrentDemandAt (reservationsOf s.reservations actorId) instant =
      reservedDemandAt workflow state registry now actorId instant +
        (planned workflow).load (assignedTo actorId s.assignments) instant
  capacity : ∀ actorId actor, registry.get actorId = some actor →
    (planned workflow).Within (reservedDemandAt workflow state registry now actorId) actor.capacity
      (assignedTo actorId s.assignments)

section Invariant

variable {workflow : Workflow} {state : WorkflowState} {registry : ActorRegistry} {now : Time}
variable {s : PlanState} {task : PendingTask}

theorem TableInvariant.initial (pendingTasks : List PendingTask) :
    TableInvariant workflow state registry now
      (initialPlanState workflow state registry now pendingTasks) where
  nodup := List.nodup_dedup _
  unique := List.nodup_nil
  placed := by simp [initialPlanState]
  offered := by simp [initialPlanState]
  reservations := by
    intro actorId actor hactor instant
    simp only [initialPlanState, assignedTo, List.filter_nil, Weighing.load_nil, add_zero]
    exact initializeActorReservations_demand hactor instant
  capacity := by
    intro actorId actor _ a ha
    exact absurd ha (by simp [assignedTo, initialPlanState])

theorem TableInvariant.giveUp (hs : TableInvariant workflow state registry now s)
    (taskId : TaskId) :
    TableInvariant workflow state registry now (s.giveUp taskId) where
  nodup := hs.nodup.erase taskId
  unique := hs.unique
  placed := fun a ha hmem => hs.placed a ha (List.mem_of_mem_erase hmem)
  offered := hs.offered
  reservations := hs.reservations
  capacity := hs.capacity

theorem TableInvariant.place (hs : TableInvariant workflow state registry now s)
    (hpending : task ∈ collectPendingTasks workflow state)
    (hremaining : task.info.id ∈ s.remainingTaskIds) {profile : ActorRankingProfile}
    {selection : CandidateSelection}
    (h : selectBestCandidate registry state now profile task s.reservations s.completionTimes =
      some selection) :
    TableInvariant workflow state registry now (s.place task selection) := by
  obtain ⟨htask, -, -⟩ := mem_collectPendingTasks hpending
  obtain ⟨dependencyReady, -, actorId, hcandidate⟩ := selectBestCandidate_sound h
  obtain ⟨actor, hoffered, -, hfinish, hfits⟩ := actorCandidate_offered hpending hcandidate
  constructor
  · exact hs.nodup.erase _
  · rw [PlanState.place, List.map_append, List.nodup_append]
    refine ⟨hs.unique, by simp, ?_⟩
    intro id hid other hother heq
    obtain ⟨b, hb, rfl⟩ := List.mem_map.mp hid
    have hsame : b.taskId = task.info.id := by simpa [assignmentOf, heq] using hother
    exact hs.placed b hb (hsame ▸ hremaining)
  · intro a ha hmem
    rcases List.mem_append.mp ha with ha | ha
    · exact hs.placed a ha (List.mem_of_mem_erase hmem)
    · obtain rfl := List.mem_singleton.mp ha
      exact hs.nodup.not_mem_erase hmem
  · intro a ha
    rcases List.mem_append.mp ha with ha | ha
    · exact hs.offered a ha
    · obtain rfl := List.mem_singleton.mp ha
      exact ⟨actor, hoffered⟩
  · intro other otherActor hother instant
    simp only [PlanState.place, reservationsOf_reserve, assignedTo_append]
    change concurrentDemandAt (reservationsOf s.reservations other ++
      if selection.candidate.actorId = other then _ else []) instant = _ + (planned workflow).load
        (_ ++ if selection.candidate.actorId = other then _ else []) instant
    rw [concurrentDemandAt_append, Weighing.load_append, hs.reservations other otherActor hother,
      add_assoc]
    congr 2
    split_ifs
    · rw [concurrentDemandAt_singleton, Weighing.load_singleton, hfinish, htask.demand]
      rfl
    · rfl
  · refine capacity_append hs.capacity hoffered.registered fun instant hcovers => ?_
    have hbound := hfits instant hcovers
    rw [hs.reservations selection.candidate.actorId actor hoffered.registered] at hbound
    exact hbound

theorem PlanInvariant.tables (hs : PlanInvariant workflow state registry now s) :
    TableInvariant workflow state registry now s where
  nodup := hs.nodup
  unique := hs.feasible.unique
  placed := hs.placed
  offered := by
    intro a ha
    obtain ⟨actor, hactor, hadmissible⟩ := hs.feasible.admissible a ha
    exact ⟨actor, hactor, hadmissible.available, hadmissible.ready, hadmissible.afterNow⟩
  reservations := hs.reservations
  capacity := hs.feasible.capacity

theorem PlanInvariant.initial (pendingTasks : List PendingTask) :
    PlanInvariant workflow state registry now
      (initialPlanState workflow state registry now pendingTasks) where
  feasible := .nil
  nodup := List.nodup_dedup _
  placed := by simp [initialPlanState]
  completions := fun _ _ h => initializeCompletionTimes_done h
  reservations := (TableInvariant.initial pendingTasks).reservations

theorem PlanInvariant.giveUp (hs : PlanInvariant workflow state registry now s) (taskId : TaskId) :
    PlanInvariant workflow state registry now (s.giveUp taskId) where
  feasible := hs.feasible
  nodup := hs.nodup.erase taskId
  placed := fun a ha hmem => hs.placed a ha (List.mem_of_mem_erase hmem)
  completions := hs.completions
  reservations := hs.reservations

theorem PlanInvariant.place (hdisjoint : ∀ id ∈ state.assignedTasks, id ∉ state.resumableTasks)
    (hpending : task ∈ collectPendingTasks workflow state)
    (hs : PlanInvariant workflow state registry now s)
    (hremaining : task.info.id ∈ s.remainingTaskIds) {profile : ActorRankingProfile}
    {selection : CandidateSelection}
    (h : selectBestCandidate registry state now profile task s.reservations s.completionTimes =
      some selection) :
    PlanInvariant workflow state registry now (s.place task selection) := by
  obtain ⟨htask, -, -⟩ := mem_collectPendingTasks hpending
  obtain ⟨dependencyReady, hready, actorId, hcandidate⟩ := selectBestCandidate_sound h
  obtain ⟨actor, hactor, hadmissible⟩ := actorCandidate_admissible hdisjoint hpending hcandidate
  obtain ⟨offering, hoffered, hafter, hfinish, hfits⟩ := actorCandidate_offered hpending hcandidate
  obtain rfl := Option.some.inj (hactor.symm.trans hoffered.registered)
  have hsub : ∀ a ∈ s.assignments, a ∈ s.assignments ++ [assignmentOf task selection.candidate] :=
    fun a ha => List.mem_append_left _ ha
  have htables := hs.tables.place hpending hremaining h
  constructor
  · -- The tables stand for what the plan so far and the state reserve and complete.
    refine hs.feasible.append ?_ hactor hadmissible ?_ ?_
    · intro b hb heq
      exact hs.placed b hb (heq ▸ hremaining)
    · intro process hprocess dep hdep
      obtain ⟨completion, hcompletion, hle⟩ :=
        dependencyReadyTime_sound hready process (htask.process ▸ hprocess) dep hdep
      exact (hs.completions dep completion hcompletion).later (hle.trans hafter)
    · intro instant hcovers
      have hbound := hfits instant hcovers
      rw [hs.reservations _ _ hactor] at hbound
      exact hbound
  · exact htables.nodup
  · exact htables.placed
  · intro taskId time htime
    rw [PlanState.place, Dictionary.lookup_assign] at htime
    split_ifs at htime with hid
    · obtain rfl := Option.some.inj htime
      subst hid
      refine Or.inr (Or.inr ⟨assignmentOf task selection.candidate,
        List.mem_append_right _ List.mem_cons_self, rfl, ?_⟩)
      exact hfinish.ge
    · exact (hs.completions taskId time htime).mono hsub
  · exact htables.reservations

end Invariant

section Rounds

variable (workflow : Workflow) (registry : ActorRegistry) (state : WorkflowState) (now : Time)
variable (hash : IterationOrder) (strategy : Option SchedulingStrategy)
variable (profile : ActorRankingProfile)

/-- What a planning pass keeps: giving a task up keeps it, and so does placing a pending task
that no blocked task excludes on the actor selected for it. -/
structure KeptByPlanning (Inv : PlanState → Prop) : Prop where
  giveUp : ∀ s taskId, Inv s → Inv (s.giveUp taskId)
  place : ∀ s task selection, Inv s → task ∈ collectPendingTasks workflow state →
    task.info.id ∈ s.remainingTaskIds → mutexConflict task s.blockedTaskIds = false →
    selectBestCandidate registry state now profile task s.reservations s.completionTimes =
      some selection → Inv (s.place task selection)

variable {workflow registry state now profile} {Inv : PlanState → Prop}

theorem mem_collectReadyTasks {pendingTasks : List PendingTask} {round : Nat} {s : PlanState}
    {task : PendingTask} (h : task ∈ collectReadyTasks hash strategy pendingTasks round s) :
    task ∈ pendingTasks := by
  have hready := (perm_sortBy _ _).mem_iff.mp h
  obtain ⟨taskId, -, hfound⟩ := List.mem_filterMap.mp (List.mem_filter.mp hready).1
  exact List.mem_of_find?_eq_some hfound

theorem mem_collectReadyTasks_iff {hash : IterationOrder} {strategy : Option SchedulingStrategy}
    {pendingTasks : List PendingTask} {round : Nat} {s : PlanState} {task : PendingTask} :
    task ∈ collectReadyTasks hash strategy pendingTasks round s ↔
      (∃ id ∈ s.remainingTaskIds, pendingById pendingTasks id = some task) ∧
        mutexConflict task s.blockedTaskIds = false ∧
        (dependencyReadyTime task s.completionTimes).isSome = true := by
  unfold collectReadyTasks orderReadyTasks
  rw [(perm_sortBy _ _).mem_iff, List.mem_filter, List.mem_filterMap]
  simp only [(hash.perm round s.remainingTaskIds).mem_iff, Bool.and_eq_true, Bool.not_eq_true']

theorem pendingById_sound {pendingTasks : List PendingTask} {id : TaskId} {task : PendingTask}
    (h : pendingById pendingTasks id = some task) : task ∈ pendingTasks ∧ task.info.id = id :=
  ⟨List.mem_of_find?_eq_some h, by simpa using List.find?_some h⟩

theorem ready_of_mem_collectReadyTasks {hash : IterationOrder}
    {strategy : Option SchedulingStrategy} {pendingTasks : List PendingTask} {round : Nat}
    {s : PlanState} {task : PendingTask}
    (h : task ∈ collectReadyTasks hash strategy pendingTasks round s) :
    task ∈ pendingTasks ∧ task.info.id ∈ s.remainingTaskIds ∧
    mutexConflict task s.blockedTaskIds = false ∧
      (dependencyReadyTime task s.completionTimes).isSome = true := by
  obtain ⟨⟨id, hid, hfound⟩, hfree, hready⟩ := mem_collectReadyTasks_iff.mp h
  obtain ⟨hpending, rfl⟩ := pendingById_sound hfound
  exact ⟨hpending, hid, hfree, hready⟩

/-- A remaining task is taken up when nothing keeps it back. The entry that is taken up may be one
of another phase. -/
theorem exists_mem_collectReadyTasks (hash : IterationOrder) (strategy : Option SchedulingStrategy)
    (round : Nat) {pendingTasks : List PendingTask} {s : PlanState} {task : PendingTask}
    (htask : task ∈ pendingTasks)
    (hprocess : ∀ entry ∈ pendingTasks, entry.info.id = task.info.id → entry.process = task.process)
    (hremaining : task.info.id ∈ s.remainingTaskIds)
    (hfree : mutexConflict task s.blockedTaskIds = false)
    (hready : (dependencyReadyTime task s.completionTimes).isSome = true) :
    ∃ entry ∈ collectReadyTasks hash strategy pendingTasks round s, entry.info.id =
    task.info.id := by
  have hsome : (pendingById pendingTasks task.info.id).isSome = true := by
    rw [pendingById, List.find?_isSome]
    exact ⟨task, htask, by simp⟩
  obtain ⟨entry, hentry⟩ := Option.isSome_iff_exists.mp hsome
  obtain ⟨hpending, hid⟩ := pendingById_sound hentry
  have hsame : entry.process = task.process := hprocess entry hpending hid
  refine ⟨entry, mem_collectReadyTasks_iff.mpr ⟨⟨_, hremaining, hentry⟩, ?_, ?_⟩, hid⟩
  · rwa [mutexConflict, hsame]
  · rwa [dependencyReadyTime, hsame]

theorem process_eq_of_pending {a b : PendingTask} (ha : a ∈ collectPendingTasks workflow state)
    (hb : b ∈ collectPendingTasks workflow state) (hid : a.info.id = b.info.id) :
    a.process = b.process := by
  rw [(mem_collectPendingTasks ha).1.process, (mem_collectPendingTasks hb).1.process, hid]

theorem KeptByPlanning.planTask (hkept : KeptByPlanning workflow registry state now profile Inv)
    {s : PlanState} (hs : Inv s) {task : PendingTask}
    (hpending : task ∈ collectPendingTasks workflow state) (progress : Bool) :
    Inv (planTask registry state now profile (s, progress) task).1 := by
  unfold Core.planTask
  dsimp only
  split_ifs with hremaining hconflict
  · exact hkept.giveUp s _ hs
  · cases hselection : selectBestCandidate registry state now profile task s.reservations
      s.completionTimes with
    | none => exact hkept.giveUp s _ hs
    | some selection =>
      exact hkept.place s task selection hs hpending hremaining
        (Bool.eq_false_iff.mpr hconflict) hselection
  · exact hs

theorem KeptByPlanning.round (hkept : KeptByPlanning workflow registry state now profile Inv)
    {readyTasks : List PendingTask}
    (hready : ∀ task ∈ readyTasks, task ∈ collectPendingTasks workflow state) {s : PlanState}
    (hs : Inv s) (progress : Bool) :
    Inv (readyTasks.foldl (Core.planTask registry state now profile) (s, progress)).1 := by
  induction readyTasks generalizing s progress with
  | nil => exact hs
  | cons task rest ih =>
    have htask := hkept.planTask hs (hready task List.mem_cons_self) progress
    exact ih (fun other hother => hready other (List.mem_cons_of_mem _ hother)) htask _

theorem KeptByPlanning.rounds (hkept : KeptByPlanning workflow registry state now profile Inv)
    (fuel round : Nat) {s : PlanState} (hs : Inv s) :
    Inv (planRounds hash registry state now strategy profile
      (collectPendingTasks workflow state) fuel round s) := by
  induction fuel generalizing round s with
  | zero => exact hs
  | succ fuel ih =>
    have hready :
        ∀ task ∈ collectReadyTasks hash strategy (collectPendingTasks workflow state) round s,
        task ∈ collectPendingTasks workflow state :=
      fun task htask => mem_collectReadyTasks hash strategy htask
    have hnext := hkept.round hready hs false
    unfold planRounds
    dsimp only
    split_ifs
    · exact hs
    · exact hs
    · exact ih _ hnext
    · exact hnext

/-- What is true of the initial tables and kept holds of the tables that the assignments of a
plan are read from. -/
theorem KeptByPlanning.plan {rankingProfile : Option ActorRankingProfile}
    (hkept : KeptByPlanning workflow registry state now (effectiveRankingProfile rankingProfile)
      Inv)
    (hinitial : Inv (initialPlanState workflow state registry now
      (collectPendingTasks workflow state)))
    (hok : (plan hash workflow state registry now strategy rankingProfile).ok = true) :
    ∃ final, Inv final ∧
      (plan hash workflow state registry now strategy rankingProfile).assignments.Perm
        final.assignments := by
  unfold Core.plan at hok ⊢
  dsimp only at hok ⊢
  split_ifs at hok ⊢ with hpending
  · exact ⟨_, hinitial, .refl _⟩
  · cases hvalid : validateSupportedTasks (collectPendingTasks workflow state) with
    | some validationError => exact absurd hok (by simp [hvalid])
    | none => exact ⟨_, hkept.rounds hash strategy _ _ hinitial, perm_sortBy _ _⟩

theorem ok_of_mem_plan {rankingProfile : Option ActorRankingProfile} {a : Assignment}
    (h : a ∈ (plan hash workflow state registry now strategy rankingProfile).assignments) :
    (plan hash workflow state registry now strategy rankingProfile).ok = true := by
  unfold plan at h ⊢
  dsimp only at h ⊢
  split_ifs at h ⊢ with hpending
  · rfl
  · cases hvalid : validateSupportedTasks (collectPendingTasks workflow state) with
    | some validationError => exact absurd h (by simp [hvalid])
    | none => rfl

theorem TableInvariant.kept :
    KeptByPlanning workflow registry state now profile
    (TableInvariant workflow state registry now) where
  giveUp := fun _ taskId hs => hs.giveUp taskId
  place := fun _ _ _ hs hpending hremaining _ h => hs.place hpending hremaining h

theorem PlanInvariant.kept (hdisjoint : ∀ id ∈ state.assignedTasks, id ∉ state.resumableTasks) :
    KeptByPlanning workflow registry state now profile
    (PlanInvariant workflow state registry now) where
  giveUp := fun _ taskId hs => hs.giveUp taskId
  place := fun _ _ _ hs hpending hremaining _ h => hs.place hdisjoint hpending hremaining h

end Rounds

section Termination

variable (hash : IterationOrder) (registry : ActorRegistry) (state : WorkflowState) (now : Time)
variable (strategy : Option SchedulingStrategy) (profile : ActorRankingProfile)

theorem planTask_remaining (s : PlanState) (progress : Bool) (task : PendingTask) :
    let next := planTask registry state now profile (s, progress) task
    next.1.remainingTaskIds.length ≤ s.remainingTaskIds.length ∧
      (next.2 = true → progress = true ∨
        next.1.remainingTaskIds.length < s.remainingTaskIds.length) := by
  unfold planTask
  dsimp only
  split_ifs with hremaining hconflict
  · exact ⟨List.length_erase_le, Or.inl⟩
  · have hshorter : (s.remainingTaskIds.erase task.info.id).length < s.remainingTaskIds.length := by
      have hpositive := List.length_pos_of_mem hremaining
      rw [List.length_erase_of_mem hremaining]
      omega
    cases selectBestCandidate registry state now profile task s.reservations s.completionTimes with
    | none => exact ⟨List.length_erase_le, Or.inl⟩
    | some selection => exact ⟨le_of_lt hshorter, fun _ => Or.inr hshorter⟩
  · exact ⟨le_refl _, Or.inl⟩

theorem foldl_planTask_remaining (s : PlanState) (readyTasks : List PendingTask) :
    (readyTasks.foldl (planTask registry state now profile) (s, false)).2 = true →
      (readyTasks.foldl (planTask registry state now profile)
        (s, false)).1.remainingTaskIds.length <
        s.remainingTaskIds.length := by
  have hfold := List.foldlRecOn readyTasks (planTask registry state now profile)
    (motive := fun next => next.1.remainingTaskIds.length ≤ s.remainingTaskIds.length ∧
      (next.2 = true → next.1.remainingTaskIds.length < s.remainingTaskIds.length))
    (b := (s, false)) ⟨le_refl _, by simp⟩ ?_
  · exact hfold.2
  · intro ⟨current, progress⟩ ⟨hle, hprogress⟩ task _
    obtain ⟨hnext, hplaced⟩ := planTask_remaining registry state now profile current progress task
    refine ⟨hnext.trans hle, fun h => ?_⟩
    rcases hplaced h with hbefore | hshorter
    · exact lt_of_le_of_lt hnext (hprogress hbefore)
    · exact lt_of_lt_of_le hshorter hle

/-- There are no more rounds than remaining tasks: the bound of `plan` never stops it. -/
theorem planRounds_fuel {pendingTasks : List PendingTask} {fuel : Nat} {s : PlanState}
    (hfuel : s.remainingTaskIds.length ≤ fuel) (round extra : Nat) :
    planRounds hash registry state now strategy profile pendingTasks (fuel + extra) round s =
      planRounds hash registry state now strategy profile pendingTasks fuel round s := by
  induction fuel generalizing round s with
  | zero =>
    have hempty : s.remainingTaskIds = [] := List.eq_nil_of_length_eq_zero (Nat.le_zero.mp hfuel)
    cases extra with
    | zero => rfl
    | succ extra => simp [planRounds, hempty]
  | succ fuel ih =>
    rw [Nat.succ_add_eq_add_succ]
    have hshorter := foldl_planTask_remaining registry state now profile s
      (collectReadyTasks hash strategy pendingTasks round s)
    unfold planRounds
    dsimp only
    split_ifs with hdone hready hprogress
    · rfl
    · rfl
    · exact ih (by have := hshorter hprogress; omega) _
    · rfl

end Termination

section Promises

variable {hash : IterationOrder} {workflow : Workflow} {state : WorkflowState}
variable {registry : ActorRegistry} {now : Time}
variable {strategy : Option SchedulingStrategy} {rankingProfile : Option ActorRankingProfile}
variable {a : Assignment}

theorem plan_offered
    (h : a ∈ (plan hash workflow state registry now strategy rankingProfile).assignments) :
    ∃ actor, Offered workflow state registry now a actor := by
  obtain ⟨final, hfinal, hperm⟩ :=
    TableInvariant.kept.plan hash strategy (.initial _) (ok_of_mem_plan hash strategy h)
  exact hfinal.offered a (hperm.mem_iff.mp h)

theorem plan_capacity
    (h : a ∈ (plan hash workflow state registry now strategy rankingProfile).assignments)
    {actor : Actor} (hactor : registry.get a.actorId = some actor) {instant : Time}
    (hcovers : (planned workflow).Covers a instant) :
    reservedDemandAt workflow state registry now a.actorId instant +
      (planned workflow).load (assignedTo a.actorId
        (plan hash workflow state registry now strategy rankingProfile).assignments) instant ≤
          actor.capacity := by
  obtain ⟨final, hfinal, hperm⟩ :=
    TableInvariant.kept.plan hash strategy (.initial _) (ok_of_mem_plan hash strategy h)
  have hwithin := (hfinal.capacity a.actorId actor hactor).perm (hperm.filter _).symm
  exact hwithin a (by simpa [assignedTo] using h) instant hcovers

end Promises

/-- Every plan that the scheduler returns is feasible, whatever the strategy, the ranking and
the order in which hash sets are iterated. -/
theorem plan_feasible (hash : IterationOrder) (workflow : Workflow) (state : WorkflowState)
    (registry : ActorRegistry) (now : Time) (strategy : Option SchedulingStrategy)
    (rankingProfile : Option ActorRankingProfile)
    (hdisjoint : ∀ id ∈ state.assignedTasks, id ∉ state.resumableTasks)
    (hok : (plan hash workflow state registry now strategy rankingProfile).ok = true) :
    Feasible workflow state registry now
      (plan hash workflow state registry now strategy rankingProfile).assignments := by
  obtain ⟨final, hfinal, hperm⟩ :=
    (PlanInvariant.kept hdisjoint).plan hash strategy (.initial _) hok
  exact hfinal.feasible.perm hperm.symm

/-- Three tasks of one phase. The first is in flight, the second waits for it, and the third
needs the actor as long as the second does. -/
def exampleWorkflow : Workflow :=
  ((((({} : Workflow).addPhase { id := "phase", processIds := ["a", "b", "c"] }).addProcess
    { id := "a", estimatedDuration := 2 }).addProcess
    { id := "b", estimatedDuration := 3, dependencyTaskIds := ["a"] }).addProcess
    { id := "c", estimatedDuration := 1, deadline := some 9 })

def exampleRegistry : ActorRegistry :=
  ({} : ActorRegistry).add { id := "x", availabilityWindows := [{ start := 0, stop := 10 }] }

def exampleState : WorkflowState :=
  { assignedTasks := ["a"], taskActor := KeyedRows.empty.put ("a", "x") }

/-- Hash sets that are iterated in the order of insertion. -/
def insertionOrder : IterationOrder := ⟨fun _ ids => ids, fun _ _ => .refl _⟩

theorem plan_feasible_in_turn :
    (plan insertionOrder exampleWorkflow exampleState exampleRegistry 0 none none).assignments =
      [{ taskId := "c", actorId := "x", startTime := 2 },
        { taskId := "b", actorId := "x", startTime := 3 }] ∧
    Feasible exampleWorkflow exampleState exampleRegistry 0
      (plan insertionOrder exampleWorkflow exampleState exampleRegistry 0 none none).assignments :=
  ⟨by decide, plan_feasible insertionOrder exampleWorkflow exampleState exampleRegistry 0 none none
    (by decide) (by decide)⟩

end TaskOrchestrator.Core
