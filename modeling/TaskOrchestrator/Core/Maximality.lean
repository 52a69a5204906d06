import TaskOrchestrator.Core.Dependencies
import TaskOrchestrator.Core.EarliestStart
import TaskOrchestrator.Core.Simulation
import TaskOrchestrator.Core.Bookkeeping
import Mathlib.Data.Int.ConditionallyCompleteOrder
import Mathlib.Order.ConditionallyCompleteLattice.Basic
import Mathlib.Order.Interval.Set.Defs
import Mathlib.Order.Bounds.Defs

/-!
# Maximal plans

A planning pass gives a task up on the basis of a plan that still grows. What speaks against the
task then speaks against it in the final plan: an exclusion stays, the completions of its
dependencies do not move, and reservations of demand that is not negative only take capacity.
The tasks that are never looked at wait for a dependency that no round accounts for.
-/

namespace TaskOrchestrator.Core

open Library

set_option autoImplicit false

section Specification

variable (workflow : Workflow) (state : WorkflowState) (registry : ActorRegistry) (now : Time)

structure Pending (taskId : TaskId) : Prop where
  ready : InReadyPhase workflow state taskId
  notInFlight : taskId ∉ state.assignedTasks
  notCompleted : taskId ∉ state.completedTasks
  resumable : taskId ∉ state.unresumableTasks

/-- The task excludes one that is completed, in flight or assigned. -/
def Excluded (plan : List Assignment) (taskId : TaskId) : Prop :=
  ∃ process ∈ workflow.processForTask taskId, ∃ other ∈ process.mutuallyExclusiveTaskIds,
    Accounted state plan other

/-- A dependency of the task is neither completed, nor in flight, nor assigned. -/
def Waiting (plan : List Assignment) (taskId : TaskId) : Prop :=
  ∃ process ∈ workflow.processForTask taskId, ∃ dep ∈ process.dependencyTaskIds,
    ¬ Accounted state plan dep

structure CanStart (plan : List Assignment) (taskId : TaskId) (actorId : ActorId) (actor : Actor)
    (start : Time) :
    Prop where
  afterNow : now ≤ start
  released : releaseTime workflow state taskId ≤ start
  dependencies : ∀ process ∈ workflow.processForTask taskId, ∀ dep ∈ process.dependencyTaskIds,
    DoneBy workflow state now plan dep start
  window : 0 < taskDuration workflow taskId → ∃ window ∈ actor.availabilityWindows,
    window.start ≤ start ∧ start + taskDuration workflow taskId ≤ window.stop
  capacity : ∀ instant, start ≤ instant → instant < start + taskDuration workflow taskId →
    reservedDemandAt workflow state registry now actorId instant +
      (planned workflow).load (assignedTo actorId plan) instant + taskDemand workflow taskId ≤
        actor.capacity

structure InTime (taskId : TaskId) (start : Time) : Prop where
  latestStart : ∀ process ∈ workflow.processForTask taskId, ∀ latest ∈ process.latestStartTime,
    start ≤ latest
  deadline : ∀ process ∈ workflow.processForTask taskId, ∀ deadline ∈ process.deadline,
    start + taskDuration workflow taskId ≤ deadline

/-- There is an available allowed actor whose earliest start for the task, among the instants, is
in time. -/
def Placeable (instants : Set Time) (plan : List Assignment) (taskId : TaskId) : Prop :=
  ∃ actorId actor, registry.get actorId = some actor ∧ actorId ∉ state.unavailableActors ∧
    Suits workflow state taskId actor ∧
    ∃ start,
      IsLeast
      {start ∈ instants | CanStart workflow state registry now plan taskId actorId actor
        start} start ∧
      InTime workflow taskId start

end Specification

section Growth

variable {workflow : Workflow} {state : WorkflowState} {registry : ActorRegistry} {now : Time}
variable {plan : List Assignment} {a : Assignment} {taskId : TaskId}

/-- No available allowed actor can start the task in time. Time counts from zero: a pass starts
nothing earlier. -/
def NoStart (workflow : Workflow) (state : WorkflowState) (registry : ActorRegistry) (now : Time)
    (plan : List Assignment) (taskId : TaskId) : Prop :=
  ∀ actorId actor start, registry.get actorId = some actor → actorId ∉ state.unavailableActors →
    Suits workflow state taskId actor → 0 ≤ start →
      CanStart workflow state registry now plan taskId actorId actor start →
      ¬ InTime workflow taskId start

theorem NoStart.not_placeable (h : NoStart workflow state registry now plan taskId) :
    ¬ Placeable workflow state registry now (Set.Ici 0) plan taskId := by
  rintro ⟨actorId, actor, hactor, havailable, hsuits, start, hleast, hintime⟩
  exact h actorId actor start hactor havailable hsuits hleast.1.1 hleast.1.2 hintime

def Discarded (workflow : Workflow) (state : WorkflowState) (registry : ActorRegistry) (now : Time)
    (plan : List Assignment) (taskId : TaskId) : Prop :=
  Excluded workflow state plan taskId ∨
    ¬ Waiting workflow state plan taskId ∧ NoStart workflow state registry now plan taskId

theorem Excluded.append (h : Excluded workflow state plan taskId) (a : Assignment) :
    Excluded workflow state (plan ++ [a]) taskId := by
  obtain ⟨process, hprocess, other, hother, haccounted⟩ := h
  exact ⟨process, hprocess, other, hother, haccounted.mono fun b hb => List.mem_append_left _ hb⟩

theorem not_waiting_append (h : ¬ Waiting workflow state plan taskId) (a : Assignment) :
    ¬ Waiting workflow state (plan ++ [a]) taskId := by
  rintro ⟨process, hprocess, dep, hdep, hnot⟩
  refine h ⟨process, hprocess, dep, hdep, fun haccounted => hnot ?_⟩
  exact haccounted.mono fun b hb => List.mem_append_left _ hb

theorem DoneBy.of_append {dep : TaskId} {instant : Time}
    (h : DoneBy workflow state now (plan ++ [a]) dep instant) (hne : a.taskId ≠ dep) :
    DoneBy workflow state now plan dep instant := by
  rcases h with hinFlight | hcompleted | ⟨b, hb, hid, hdone⟩
  · exact Or.inl hinFlight
  · exact Or.inr (Or.inl hcompleted)
  · rcases List.mem_append.mp hb with hb | hb
    · exact Or.inr (Or.inr ⟨b, hb, hid, hdone⟩)
    · rw [List.mem_singleton.mp hb] at hid
      exact absurd hid hne

theorem load_le_append (plan : List Assignment) (hdemand : 0 ≤ taskDemand workflow a.taskId)
    (actorId : ActorId) (instant : Time) :
    (planned workflow).load (assignedTo actorId plan) instant ≤
      (planned workflow).load (assignedTo actorId (plan ++ [a])) instant := by
  rw [assignedTo_append, Weighing.load_append]
  have hnonneg : 0 ≤ (planned workflow).load (if a.actorId = actorId then [a] else []) instant := by
    split_ifs
    · rw [Weighing.load_singleton]
      split_ifs
      · exact hdemand
      · exact le_refl 0
    · exact le_refl 0
  omega

theorem CanStart.of_append {actorId : ActorId} {actor : Actor} {start : Time}
    (h : CanStart workflow state registry now (plan ++ [a]) taskId actorId actor start)
    (hdemand : 0 ≤ taskDemand workflow a.taskId) (hnew : ¬ Accounted state plan a.taskId)
    (hready : ¬ Waiting workflow state plan taskId) :
    CanStart workflow state registry now plan taskId actorId actor start where
  afterNow := h.afterNow
  released := h.released
  dependencies process hprocess dep hdep := by
    apply (h.dependencies process hprocess dep hdep).of_append
    rintro rfl
    exact hready ⟨process, hprocess, a.taskId, hdep, hnew⟩
  window := h.window
  capacity instant hstart hstop := by
    have hcapacity := h.capacity instant hstart hstop
    have hload := load_le_append plan hdemand actorId instant
    omega

theorem CanStart.perm {other : List Assignment} {actorId : ActorId} {actor : Actor} {start : Time}
    (h : CanStart workflow state registry now plan taskId actorId actor start)
    (hperm : plan.Perm other) :
    CanStart workflow state registry now other taskId actorId actor start where
  afterNow := h.afterNow
  released := h.released
  dependencies process hprocess dep hdep :=
    (h.dependencies process hprocess dep hdep).mono fun b hb => hperm.mem_iff.mp hb
  window := h.window
  capacity instant hstart hstop := by
    have hload := (planned workflow).load_perm (hperm.filter fun b => b.actorId = actorId) instant
    have hcapacity := h.capacity instant hstart hstop
    rw [assignedTo, hload] at hcapacity
    exact hcapacity

theorem Discarded.append (h : Discarded workflow state registry now plan taskId)
    (hdemand : 0 ≤ taskDemand workflow a.taskId) (hnew : ¬ Accounted state plan a.taskId) :
    Discarded workflow state registry now (plan ++ [a]) taskId := by
  rcases h with hexcluded | ⟨hready, hnone⟩
  · exact Or.inl (hexcluded.append a)
  · refine Or.inr ⟨not_waiting_append hready a, ?_⟩
    intro actorId actor start hactor havailable hsuits hzero hstart
    exact hnone actorId actor start hactor havailable hsuits hzero
      (hstart.of_append hdemand hnew hready)

end Growth

section Completeness

variable {workflow : Workflow} {state : WorkflowState} {registry : ActorRegistry} {now : Time}
variable {profile : ActorRankingProfile} {task : PendingTask}

theorem actorCandidate_isSome {reservations : ReservationTable} {earliestRelease start : Time}
    {actorId : ActorId} {actor : Actor} (havailable : actorId ∉ state.unavailableActors)
    (hactor : registry.get actorId = some actor) (hallowed : actorIsAllowed task actor state = true)
    (hstart : earliestStart actor (reservationsOf reservations actorId) earliestRelease
      task.info.duration task.info.demand = some start)
    (hlatest : ∀ latest ∈ task.info.latestStartTime, start ≤ latest)
    (hdeadline : ∀ deadline ∈ task.info.deadline, start + task.info.duration ≤ deadline) :
    (actorCandidate registry state task reservations earliestRelease actorId).isSome := by
  have hlatest' : ((effectiveLatestStartTime task).all fun latest => start ≤ latest) = true := by
    simpa [effectiveLatestStartTime, Option.all_eq_true] using hlatest
  have hdeadline' : (task.info.deadline.all fun deadline => start + task.info.duration ≤ deadline) =
      true := by
    simpa [Option.all_eq_true] using hdeadline
  simp [actorCandidate, guard, havailable, hactor, hallowed, hstart, hlatest', hdeadline']

theorem considerActor_isSome {reservations : ReservationTable} {earliestRelease : Time}
    {best : Option CandidateSelection} {actorId : ActorId}
    (h : best.isSome ∨ (actorCandidate registry state task reservations earliestRelease
      actorId).isSome) :
    (considerActor registry state profile task reservations earliestRelease best
      actorId).isSome := by
  unfold considerActor
  cases hcandidate : actorCandidate registry state task reservations earliestRelease actorId with
  | none => simpa [hcandidate] using h
  | some candidate =>
    cases best with
    | none => rfl
    | some previous =>
      dsimp only
      split_ifs <;> rfl

theorem selectBestCandidate_isSome (profile : ActorRankingProfile) {reservations : ReservationTable}
    {completionTimes : CompletionTable} {dependencyReady : Time}
    (hready : dependencyReadyTime task completionTimes = some dependencyReady) {actorId : ActorId}
    (hactor : actorId ∈ registry.actorIds)
    (hcandidate : (actorCandidate registry state task reservations
      (max (max now (effectiveReleaseTime task state)) dependencyReady) actorId).isSome) :
    (selectBestCandidate registry state now profile task reservations completionTimes).isSome := by
  simp only [selectBestCandidate, hready]
  generalize max (max now (effectiveReleaseTime task state)) dependencyReady =
    earliestRelease at hcandidate ⊢
  obtain ⟨before, after, heq⟩ := List.append_of_mem hactor
  rw [heq, List.foldl_append, List.foldl_cons]
  have hkept : ∀ (ids : List ActorId) (best : Option CandidateSelection), best.isSome →
      (ids.foldl (considerActor registry state profile task reservations earliestRelease)
        best).isSome := by
    intro ids
    induction ids with
    | nil => exact fun best hbest => hbest
    | cons id rest ih => exact fun best hbest => ih _ (considerActor_isSome (Or.inl hbest))
  exact hkept after _ (considerActor_isSome (Or.inr hcandidate))

theorem foldlM_readyTime_le {completionTimes : CompletionTable} {dependencyIds : List TaskId}
    {first ready bound : Time}
    (h : dependencyIds.foldlM (fun readyTime dependencyId => (completionTimes.lookup
      dependencyId).map fun completion => max readyTime completion) first = some ready)
    (hfirst : first ≤ bound)
    (hall : ∀ dep ∈ dependencyIds, ∀ completion, completionTimes.lookup dep = some completion →
      completion ≤ bound) :
    ready ≤ bound := by
  induction dependencyIds generalizing first with
  | nil =>
    obtain rfl := Option.some.inj h
    exact hfirst
  | cons dep rest ih =>
    rw [List.foldlM_cons] at h
    obtain ⟨next, hnext, hrest⟩ := Option.bind_eq_some_iff.mp h
    obtain ⟨completion, hcompletion, rfl⟩ := Option.map_eq_some_iff.mp hnext
    have hle := hall dep List.mem_cons_self completion hcompletion
    exact ih hrest (max_le hfirst hle) fun other hother =>
      hall other (List.mem_cons_of_mem _ hother)

theorem dependencyReadyTime_le {completionTimes : CompletionTable} {ready bound : Time}
    (h : dependencyReadyTime task completionTimes = some ready) (hbound : 0 ≤ bound)
    (hall : ∀ process ∈ task.process, ∀ dep ∈ process.dependencyTaskIds, ∀ completion,
      completionTimes.lookup dep = some completion → completion ≤ bound) : ready ≤ bound := by
  unfold dependencyReadyTime at h
  cases hprocess : task.process with
  | none =>
    rw [hprocess] at h
    obtain rfl := Option.some.inj h
    exact hbound
  | some process =>
    rw [hprocess] at h
    exact foldlM_readyTime_le h hbound (hall process hprocess)

theorem pending_iff (hdisjoint : ∀ id ∈ state.assignedTasks, id ∉ state.resumableTasks)
    (taskId : TaskId) :
    Pending workflow state taskId ↔
      ∃ task ∈ collectPendingTasks workflow state, task.info.id = taskId := by
  constructor
  · rintro ⟨⟨phase, hphase, hnotCompleted, hdeps, processId, hprocessId, process, hprocess, htask⟩,
      hinFlight, hcompleted, hresumable⟩
    refine ⟨pendingTask workflow phase.id taskId, ?_, rfl⟩
    have hready : phase.id ∈ workflow.readyPhases state.completedPhases := by
      refine List.mem_map.mpr ⟨phase, List.mem_filter.mpr ⟨hphase, ?_⟩, rfl⟩
      simpa [hnotCompleted] using hdeps
    have hlookup : workflow.phase phase.id = some phase :=
      (KeyedRows.get?_eq_some_iff _ _ _).mpr ⟨hphase, rfl⟩
    have hmem : taskId ∈ workflow.taskIdsForPhase phase.id := by
      simp only [Workflow.taskIdsForPhase, hlookup]
      exact List.mem_flatMap.mpr ⟨processId, hprocessId, by simpa [hprocess] using htask⟩
    have hskipped : skippedByPlanning state taskId = false := by
      simp [skippedByPlanning, hinFlight, hcompleted, hresumable]
    exact List.mem_flatMap.mpr ⟨phase.id, hready, List.mem_map.mpr
      ⟨taskId, List.mem_filter.mpr ⟨hmem, by simp [hskipped]⟩, rfl⟩⟩
  · rintro ⟨task, htask, rfl⟩
    obtain ⟨-, hready, hskipped⟩ := mem_collectPendingTasks htask
    obtain ⟨hinFlight, hcompleted, hresumable⟩ := not_skippedByPlanning hskipped hdisjoint
    exact ⟨hready, hinFlight, hcompleted, hresumable⟩

end Completeness

/-- The tables say what is accounted for and when, and a pending task that does not remain is
assigned or discarded. -/
structure MaximalInvariant (workflow : Workflow) (state : WorkflowState) (registry : ActorRegistry)
    (now : Time) (s : PlanState) : Prop where
  tables : PlanInvariant workflow state registry now s
  blocked : ∀ id, id ∈ s.blockedTaskIds ↔ Accounted state s.assignments id
  times : ∀ id, Accounted state s.assignments id → ∃ time, s.completionTimes.lookup id = some time ∧
    ∀ instant, DoneBy workflow state now s.assignments id instant → time ≤ instant
  settled : ∀ id, Pending workflow state id → id ∈ s.remainingTaskIds ∨
    (∃ a ∈ s.assignments, a.taskId = id) ∨ Discarded workflow state registry now s.assignments id

section Invariant

variable {workflow : Workflow} {state : WorkflowState} {registry : ActorRegistry} {now : Time}
variable {profile : ActorRankingProfile} {s : PlanState} {task : PendingTask}

theorem DoneBy.accounted {plan : List Assignment} {taskId : TaskId} {instant : Time}
    (h : DoneBy workflow state now plan taskId instant) : Accounted state plan taskId := by
  rcases h with ⟨hinFlight, -⟩ | ⟨-, hcompleted, -⟩ | ⟨b, hb, hid, -⟩
  · exact Or.inr (Or.inl hinFlight)
  · exact Or.inl hcompleted
  · exact Or.inr (Or.inr ⟨b, hb, hid⟩)

theorem MaximalInvariant.initial (workflow : Workflow) (registry : ActorRegistry) (now : Time)
    (hdisjoint : ∀ id ∈ state.assignedTasks, id ∉ state.resumableTasks) :
    MaximalInvariant workflow state registry now
      (initialPlanState workflow state registry now (collectPendingTasks workflow state)) where
  tables := .initial _
  blocked id := by simp [initialPlanState, Accounted]
  times id haccounted := by
    simp only [initialPlanState, initializeCompletionTimes, Dictionary.lookup_foldl_assign]
    by_cases hinFlight : id ∈ state.assignedTasks
    · refine ⟨_, if_pos hinFlight, ?_⟩
      rintro instant (⟨-, hle⟩ | ⟨hnot, -⟩ | ⟨b, hb, -⟩)
      · exact (plannedTime_eq id).trans_le hle
      · exact absurd hinFlight hnot
      · exact absurd hb List.not_mem_nil
    · have hcompleted : id ∈ state.completedTasks := by
        simpa [Accounted, hinFlight, initialPlanState] using haccounted
      refine ⟨completedTime state now id, by rw [if_neg hinFlight, if_pos hcompleted], ?_⟩
      rintro instant (⟨hmem, -⟩ | ⟨-, -, hle⟩ | ⟨b, hb, -⟩)
      · exact absurd hmem hinFlight
      · exact (completedTime_eq id).trans_le hle
      · exact absurd hb List.not_mem_nil
  settled id hpending := by
    obtain ⟨task, htask, rfl⟩ := (pending_iff hdisjoint id).mp hpending
    exact Or.inl (List.mem_dedup.mpr (List.mem_map_of_mem htask))

theorem MaximalInvariant.giveUp (hs : MaximalInvariant workflow state registry now s)
    {taskId : TaskId} (hdiscarded : Discarded workflow state registry now s.assignments taskId) :
    MaximalInvariant workflow state registry now (s.giveUp taskId) where
  tables := hs.tables.giveUp taskId
  blocked := hs.blocked
  times := hs.times
  settled id hpending := by
    by_cases hid : id = taskId
    · subst hid
      exact Or.inr (Or.inr hdiscarded)
    · rcases hs.settled id hpending with hremaining | hrest
      · exact Or.inl ((List.mem_erase_of_ne hid).mpr hremaining)
      · exact Or.inr hrest

theorem MaximalInvariant.not_accounted (hs : MaximalInvariant workflow state registry now s)
    (hdisjoint : ∀ id ∈ state.assignedTasks, id ∉ state.resumableTasks)
    (hpending : task ∈ collectPendingTasks workflow state)
    (hremaining : task.info.id ∈ s.remainingTaskIds) :
    ¬ Accounted state s.assignments task.info.id := by
  have hpending := (pending_iff hdisjoint task.info.id).mpr ⟨task, hpending, rfl⟩
  rintro (hcompleted | hinFlight | ⟨a, ha, hid⟩)
  · exact hpending.notCompleted hcompleted
  · exact hpending.notInFlight hinFlight
  · exact hs.tables.placed a ha (hid ▸ hremaining)

theorem accounted_place {selection : CandidateSelection} {id : TaskId} :
    Accounted state (s.place task selection).assignments id ↔ id = task.info.id ∨
    Accounted state s.assignments id := by
  constructor
  · rintro (hcompleted | hinFlight | ⟨a, ha, hid⟩)
    · exact Or.inr (Or.inl hcompleted)
    · exact Or.inr (Or.inr (Or.inl hinFlight))
    · rcases List.mem_append.mp ha with ha | ha
      · exact Or.inr (Or.inr (Or.inr ⟨a, ha, hid⟩))
      · rw [List.mem_singleton.mp ha] at hid
        exact Or.inl hid.symm
  · rintro (rfl | haccounted)
    · exact Or.inr (Or.inr ⟨_, List.mem_append_right _ List.mem_cons_self, rfl⟩)
    · exact haccounted.mono fun a ha => List.mem_append_left _ ha

theorem finish_le_of_doneBy (hpending : task ∈ collectPendingTasks workflow state)
    (hnot : ¬ Accounted state s.assignments task.info.id) {selection : CandidateSelection}
    (h : selectBestCandidate registry state now profile task s.reservations s.completionTimes =
      some selection)
    {instant : Time}
    (hdone : DoneBy workflow state now (s.place task selection).assignments task.info.id instant) :
    selection.candidate.finishTime ≤ instant := by
  obtain ⟨dependencyReady, -, actorId, hcandidate⟩ := selectBestCandidate_sound h
  obtain ⟨-, -, -, -, -, -, -, -, hfinish⟩ := actorCandidate_sound hcandidate
  have hduration := (mem_collectPendingTasks hpending).1.duration
  rcases hdone with ⟨hinFlight, -⟩ | ⟨-, hcompleted, -⟩ | ⟨b, hb, hsame, hle⟩
  · exact absurd (Or.inr (Or.inl hinFlight)) hnot
  · exact absurd (Or.inl hcompleted) hnot
  · rcases List.mem_append.mp hb with hb | hb
    · exact absurd (Or.inr (Or.inr ⟨b, hb, hsame⟩)) hnot
    · rw [List.mem_singleton.mp hb] at hle
      rw [hfinish, hduration]
      exact hle

theorem MaximalInvariant.place (hdisjoint : ∀ id ∈ state.assignedTasks, id ∉ state.resumableTasks)
    (hdemand : ∀ id, 0 ≤ taskDemand workflow id)
    (hpending : task ∈ collectPendingTasks workflow state)
    (hs : MaximalInvariant workflow state registry now s)
    (hremaining : task.info.id ∈ s.remainingTaskIds) {selection : CandidateSelection}
    (h : selectBestCandidate registry state now profile task s.reservations s.completionTimes =
      some selection) :
    MaximalInvariant workflow state registry now (s.place task selection) := by
  have hnot := hs.not_accounted hdisjoint hpending hremaining
  refine ⟨hs.tables.place hdisjoint hpending hremaining h, ?_, ?_, ?_⟩
  · intro id
    rw [accounted_place, ← hs.blocked]
    exact List.mem_insert_iff
  · intro id haccounted
    simp only [PlanState.place, Dictionary.lookup_assign]
    by_cases hid : task.info.id = id
    · subst hid
      exact ⟨_, if_pos rfl, fun instant => finish_le_of_doneBy hpending hnot h⟩
    · obtain ⟨time, hlookup, hleast⟩ :=
        hs.times id ((accounted_place.mp haccounted).resolve_left (Ne.symm hid))
      refine ⟨time, by rw [if_neg hid, hlookup], ?_⟩
      intro instant hdone
      exact hleast instant (hdone.of_append hid)
  · intro id hid
    rcases hs.settled id hid with hremains | ⟨a, ha, hassigned⟩ | hdiscarded
    · by_cases hsame : id = task.info.id
      · exact Or.inr (Or.inl ⟨_, List.mem_append_right _ List.mem_cons_self, hsame.symm⟩)
      · exact Or.inl ((List.mem_erase_of_ne hsame).mpr hremains)
    · exact Or.inr (Or.inl ⟨a, List.mem_append_left _ ha, hassigned⟩)
    · exact Or.inr (Or.inr (hdiscarded.append (hdemand _) hnot))

theorem excluded_of_mutexConflict (hs : MaximalInvariant workflow state registry now s)
    (htask : Describes workflow task) :
    mutexConflict task s.blockedTaskIds = true ↔
      Excluded workflow state s.assignments task.info.id := by
  simp only [mutexConflict, htask.process, Option.any_eq_true, List.any_eq_true, decide_eq_true_eq,
    hs.blocked]
  rfl

theorem not_waiting_iff (hs : MaximalInvariant workflow state registry now s)
    (htask : Describes workflow task) :
    (dependencyReadyTime task s.completionTimes).isSome = true ↔
      ¬ Waiting workflow state s.assignments task.info.id := by
  rw [dependencyReadyTime_isSome_iff, htask.process]
  constructor
  · rintro htimes ⟨process, hprocess, dep, hdep, hnot⟩
    obtain ⟨time, htime⟩ := Option.isSome_iff_exists.mp (htimes process hprocess dep hdep)
    exact hnot (hs.tables.completions dep time htime).accounted
  · intro hnot process hprocess dep hdep
    by_contra hnone
    refine hnot ⟨process, hprocess, dep, hdep, fun haccounted => hnone ?_⟩
    obtain ⟨time, htime, -⟩ := hs.times dep haccounted
    rw [htime]
    rfl

theorem noStart_of_selection (hs : MaximalInvariant workflow state registry now s)
    (hpending : task ∈ collectPendingTasks workflow state)
    (hready : ¬ Waiting workflow state s.assignments task.info.id)
    (h : selectBestCandidate registry state now profile task s.reservations s.completionTimes =
      none) :
    NoStart workflow state registry now s.assignments task.info.id := by
  intro actorId actor start hactor havailable hsuits hzero hstart hintime
  have htask := (mem_collectPendingTasks hpending).1
  obtain ⟨dependencyReady, hdependencies⟩ :=
    Option.isSome_iff_exists.mp ((not_waiting_iff hs htask).mpr hready)
  have hafter : dependencyReady ≤ start := by
    apply dependencyReadyTime_le hdependencies hzero
    intro process hprocess dep hdep completion hcompletion
    have hdone := hstart.dependencies process (htask.process ▸ hprocess) dep hdep
    obtain ⟨time, htime, hleast⟩ := hs.times dep hdone.accounted
    obtain rfl := Option.some.inj (hcompletion.symm.trans htime)
    exact hleast start hdone
  have hfits : FitsAt actor (reservationsOf s.reservations actorId)
      (max (max now (effectiveReleaseTime task state)) dependencyReady) task.info.duration
        task.info.demand start := by
    rw [htask.duration, htask.demand]
    refine ⟨max_le (max_le hstart.afterNow ?_) hafter, hstart.window, ?_⟩
    · rw [effectiveReleaseTime, htask.releaseTime, htask.process]
      exact hstart.released
    · intro instant hlower hupper
      rw [hs.tables.reservations actorId actor hactor]
      exact hstart.capacity instant hlower hupper
  obtain ⟨first, hfirst, hle⟩ := hfits.earliestStart_le
  have hcandidate : (actorCandidate registry state task s.reservations
      (max (max now (effectiveReleaseTime task state)) dependencyReady) actorId).isSome := by
    apply actorCandidate_isSome havailable hactor
      ((actorIsAllowed_iff htask actor).mpr hsuits) hfirst
    · intro latest hlatest
      rw [htask.latestStartTime, htask.process] at hlatest
      obtain ⟨process, hprocess, hmem⟩ := Option.bind_eq_some_iff.mp hlatest
      exact le_trans hle (hintime.latestStart process hprocess latest hmem)
    · intro deadline hdeadline
      rw [htask.deadline, htask.process] at hdeadline
      obtain ⟨process, hprocess, hmem⟩ := Option.bind_eq_some_iff.mp hdeadline
      have hbound := hintime.deadline process hprocess deadline hmem
      rw [htask.duration]
      exact le_trans (Int.add_le_add_right hle _) hbound
  have hselected :=
    selectBestCandidate_isSome profile hdependencies (mem_actorIds hactor) hcandidate
  rw [h] at hselected
  exact Bool.noConfusion hselected

theorem planTask_maximal (profile : ActorRankingProfile)
    (hdisjoint : ∀ id ∈ state.assignedTasks, id ∉ state.resumableTasks)
    (hdemand : ∀ id, 0 ≤ taskDemand workflow id)
    (hs : MaximalInvariant workflow state registry now s)
    (hpending : task ∈ collectPendingTasks workflow state)
    (hready : ¬ Waiting workflow state s.assignments task.info.id) (progress : Bool) :
    let next := planTask registry state now profile (s, progress) task
    MaximalInvariant workflow state registry now next.1 ∧
      (next.1.assignments = s.assignments ∧ next.2 = progress ∨
        (∃ a, next.1.assignments = s.assignments ++ [a]) ∧ next.2 = true) := by
  have htask := (mem_collectPendingTasks hpending).1
  unfold planTask
  dsimp only
  split_ifs with hremaining hconflict
  · exact ⟨hs.giveUp (Or.inl ((excluded_of_mutexConflict hs htask).mp hconflict)),
      Or.inl ⟨rfl, rfl⟩⟩
  · cases hselection : selectBestCandidate registry state now profile task s.reservations
      s.completionTimes with
    | none =>
      exact ⟨hs.giveUp (Or.inr ⟨hready, noStart_of_selection hs hpending hready hselection⟩),
        Or.inl ⟨rfl, rfl⟩⟩
    | some selection =>
      exact ⟨hs.place hdisjoint hdemand hpending hremaining hselection, Or.inr ⟨⟨_, rfl⟩, rfl⟩⟩
  · exact ⟨hs, Or.inl ⟨rfl, rfl⟩⟩

theorem round_maximal (profile : ActorRankingProfile)
    (hdisjoint : ∀ id ∈ state.assignedTasks, id ∉ state.resumableTasks)
    (hdemand : ∀ id, 0 ≤ taskDemand workflow id) {readyTasks : List PendingTask}
    (hpending : ∀ task ∈ readyTasks, task ∈ collectPendingTasks workflow state)
    (hready : ∀ task ∈ readyTasks, ¬ Waiting workflow state s.assignments task.info.id)
    (hs : MaximalInvariant workflow state registry now s) (progress : Bool) :
    let next := readyTasks.foldl (planTask registry state now profile) (s, progress)
    MaximalInvariant workflow state registry now next.1 ∧
      (next.2 = false → progress = false ∧ next.1.assignments = s.assignments) := by
  induction readyTasks generalizing s progress with
  | nil => exact ⟨hs, fun hprogress => ⟨hprogress, rfl⟩⟩
  | cons task rest ih =>
    obtain ⟨hnext, hchange⟩ := planTask_maximal profile hdisjoint hdemand hs
      (hpending task List.mem_cons_self) (hready task List.mem_cons_self) progress
    have hrest : ∀ other ∈ rest, ¬ Waiting workflow state
        (planTask registry state now profile (s, progress) task).1.assignments other.info.id := by
      intro other hother
      have hbefore := hready other (List.mem_cons_of_mem _ hother)
      rcases hchange with ⟨hsame, -⟩ | ⟨⟨a, hsame⟩, -⟩
      · rw [hsame]
        exact hbefore
      · rw [hsame]
        exact not_waiting_append hbefore a
    obtain ⟨hlast, hstalled⟩ :=
      ih (fun other hother => hpending other (List.mem_cons_of_mem _ hother)) hrest hnext
      (planTask registry state now profile (s, progress) task).2
    refine ⟨hlast, fun hprogress => ?_⟩
    obtain ⟨hfalse, hsame⟩ := hstalled hprogress
    rcases hchange with ⟨hkept, hprogress⟩ | ⟨-, htrue⟩
    · exact ⟨hprogress ▸ hfalse, hsame.trans hkept⟩
    · rw [htrue] at hfalse
      exact Bool.noConfusion hfalse

theorem excluded_or_waiting (hash : IterationOrder) (strategy : Option SchedulingStrategy)
    (round : Nat) (hdisjoint : ∀ id ∈ state.assignedTasks, id ∉ state.resumableTasks)
    (hs : MaximalInvariant workflow state registry now s) {id : TaskId}
    (hid : Pending workflow state id) (hremaining : id ∈ s.remainingTaskIds)
    (hnot : ∀ task ∈ collectReadyTasks hash strategy (collectPendingTasks workflow state) round s,
      task.info.id ≠ id) :
    Excluded workflow state s.assignments id ∨ Waiting workflow state s.assignments id := by
  obtain ⟨task, htask, rfl⟩ := (pending_iff hdisjoint id).mp hid
  have hdescribes := (mem_collectPendingTasks htask).1
  by_contra hneither
  obtain ⟨hexcluded, hwaiting⟩ := not_or.mp hneither
  obtain ⟨entry, hentry, hentryId⟩ := exists_mem_collectReadyTasks hash strategy round htask
    (fun other hother => process_eq_of_pending hother htask) hremaining
    (Bool.eq_false_iff.mpr fun hconflict =>
      hexcluded ((excluded_of_mutexConflict hs hdescribes).mp hconflict))
    ((not_waiting_iff hs hdescribes).mpr hwaiting)
  exact hnot entry hentry hentryId

/-- All rounds: what remains in the end excludes a task of the plan or waits for one that is not
in it. -/
theorem rounds_maximal (hash : IterationOrder) (strategy : Option SchedulingStrategy)
    (profile : ActorRankingProfile)
    (hdisjoint : ∀ id ∈ state.assignedTasks, id ∉ state.resumableTasks)
    (hdemand : ∀ id, 0 ≤ taskDemand workflow id) (fuel : Nat) (round : Nat)
    (hfuel : s.remainingTaskIds.length ≤ fuel)
    (hs : MaximalInvariant workflow state registry now s) :
    let final :=
      planRounds hash registry state now strategy profile (collectPendingTasks workflow state) fuel
        round s
    MaximalInvariant workflow state registry now final ∧
      ∀ id ∈ final.remainingTaskIds, Pending workflow state id →
      Excluded workflow state final.assignments id ∨
        Waiting workflow state final.assignments id := by
  induction fuel generalizing round s with
  | zero =>
    have hempty : s.remainingTaskIds = [] := List.eq_nil_of_length_eq_zero (Nat.le_zero.mp hfuel)
    refine ⟨hs, fun id hid => ?_⟩
    rw [planRounds, hempty] at hid
    exact absurd hid List.not_mem_nil
  | succ fuel ih =>
    have hpending :
        ∀ task ∈ collectReadyTasks hash strategy (collectPendingTasks workflow state) round s,
          task ∈ collectPendingTasks workflow state :=
      fun task htask => mem_collectReadyTasks hash strategy htask
    have hready : ∀ task ∈ collectReadyTasks hash strategy (collectPendingTasks workflow state)
        round s,
        ¬ Waiting workflow state s.assignments task.info.id := by
      intro task htask
      have hdescribes := (mem_collectPendingTasks (hpending task htask)).1
      exact (not_waiting_iff hs hdescribes).mp (mem_collectReadyTasks_iff.mp htask).2.2
    obtain ⟨hnext, hstalled⟩ := round_maximal profile hdisjoint hdemand hpending hready hs false
    have hshorter := foldl_planTask_remaining registry state now profile s
      (collectReadyTasks hash strategy (collectPendingTasks workflow state) round s)
    have herases := foldl_planTask_erases now profile registry state (s, false)
      (collectReadyTasks hash strategy (collectPendingTasks workflow state) round s)
    unfold planRounds
    dsimp only
    split_ifs with hdone hempty hprogress
    · refine ⟨hs, fun id hid => ?_⟩
      rw [hdone] at hid
      exact absurd hid List.not_mem_nil
    · refine ⟨hs, fun id hid hpendingId => ?_⟩
      apply excluded_or_waiting hash strategy round hdisjoint hs hpendingId hid
      intro task htask
      rw [List.isEmpty_iff.mp hempty] at htask
      exact absurd htask List.not_mem_nil
    · exact ih (round + 1) (by have := hshorter hprogress; omega) hnext
    · refine ⟨hnext, fun id hid hpendingId => ?_⟩
      -- The round placed nothing and erased the tasks that it took up.
      rw [(hstalled (Bool.eq_false_iff.mpr hprogress)).2]
      rw [herases, mem_foldl_erase hs.tables.nodup] at hid
      exact excluded_or_waiting hash strategy round hdisjoint hs hpendingId hid.1 hid.2

end Invariant

/-- A pass never leaves out a task that it could have placed: a pending task that is not assigned
excludes one that is accounted for, waits for one that is not, or cannot be started in time, from
instant zero on, beside the final plan. -/
theorem plan_maximal (hash : IterationOrder) (workflow : Workflow) (state : WorkflowState)
    (registry : ActorRegistry) (now : Time) (strategy : Option SchedulingStrategy)
    (rankingProfile : Option ActorRankingProfile)
    (hdisjoint : ∀ id ∈ state.assignedTasks, id ∉ state.resumableTasks)
    (hdemand : ∀ process ∈ workflow.processes.rows, 0 ≤ process.demand)
    (hpreemptible : ∀ id, Pending workflow state id → ∀ process ∈ workflow.processForTask id,
      process.preemptible = false)
    {taskId : TaskId} (hpending : Pending workflow state taskId)
    (habsent : ∀ a ∈ (plan hash workflow state registry now strategy rankingProfile).assignments,
      a.taskId ≠ taskId) :
    let assignments := (plan hash workflow state registry now strategy rankingProfile).assignments
    Excluded workflow state assignments taskId ∨ Waiting workflow state assignments taskId ∨
      ¬ Placeable workflow state registry now (Set.Ici 0) assignments taskId := by
  intro assignments
  obtain ⟨entry, hentry, -⟩ := (pending_iff hdisjoint taskId).mp hpending
  have hvalid : validateSupportedTasks (collectPendingTasks workflow state) = none := by
    rw [validateSupportedTasks, Option.map_eq_none_iff, List.find?_eq_none]
    intro task htask
    have hprocess := (mem_collectPendingTasks htask).1.process
    have hid := (pending_iff hdisjoint task.info.id).mpr ⟨task, htask, rfl⟩
    rw [Bool.not_eq_true, hprocess, Option.any_eq_false]
    exact fun process hmem => by simpa using hpreemptible task.info.id hid process hmem
  obtain ⟨final, hfinal, hremaining, hperm⟩ :
      ∃ final, MaximalInvariant workflow state registry now final ∧
      (∀ id ∈ final.remainingTaskIds, Pending workflow state id →
        Excluded workflow state final.assignments id ∨
          Waiting workflow state final.assignments id) ∧
      assignments.Perm final.assignments := by
    have hinitial := MaximalInvariant.initial workflow registry now hdisjoint
    have hmaximal := rounds_maximal hash strategy (effectiveRankingProfile rankingProfile) hdisjoint
      (taskDemand_nonneg hdemand) _ 0 (le_refl _) hinitial
    refine ⟨_, hmaximal.1, hmaximal.2, ?_⟩
    simp only [assignments, plan, hvalid]
    rw [if_neg (by simpa using List.ne_nil_of_mem hentry)]
    exact perm_sortBy _ _
  have haccounted : ∀ id, Accounted state final.assignments id ↔ Accounted state assignments id :=
    fun id => ⟨fun h => h.mono fun b hb => hperm.mem_iff.mpr hb,
      fun h => h.mono fun b hb => hperm.mem_iff.mp hb⟩
  have hexcluded : Excluded workflow state final.assignments taskId →
      Excluded workflow state assignments taskId := by
    rintro ⟨process, hprocess, other, hother, h⟩
    exact ⟨process, hprocess, other, hother, (haccounted other).mp h⟩
  rcases hfinal.settled taskId hpending with hremains | ⟨a, ha, hid⟩ | hdiscarded | ⟨-, hnone⟩
  · rcases hremaining taskId hremains hpending with hblocked | ⟨process, hprocess, dep, hdep, hnot⟩
    · exact Or.inl (hexcluded hblocked)
    · exact Or.inr (Or.inl ⟨process, hprocess, dep, hdep, fun h => hnot ((haccounted dep).mpr h)⟩)
  · exact absurd hid (habsent a (hperm.mem_iff.mpr ha))
  · exact Or.inl (hexcluded hdiscarded)
  · refine Or.inr (Or.inr (NoStart.not_placeable ?_))
    intro actorId actor start hactor havailable hsuits hzero hstart
    exact hnone actorId actor start hactor havailable hsuits hzero (hstart.perm hperm)

/-- A task that is due before instant zero, and an actor that is free then. -/
def earlyProcess : Process :=
  { id := "a", estimatedDuration := 5, releaseTime := -10, deadline := some (-5) }

def earlyWorkflow : Workflow :=
  (({} : Workflow).addPhase { id := "phase", processIds := ["a"] }).addProcess earlyProcess

def earlyActor : Actor := { id := "x", availabilityWindows := [{ start := -10, stop := 20 }] }

def earlyRegistry : ActorRegistry := ({} : ActorRegistry).add earlyActor

theorem pending_early : Pending earlyWorkflow {} "a" where
  ready :=
    ⟨{ id := "phase", processIds := ["a"] }, List.mem_singleton_self _, by decide, by decide,
      "a", by decide, earlyProcess, rfl, by decide⟩
  notInFlight := by decide
  notCompleted := by decide
  resumable := by decide

theorem processForTask_early {process : Process} (h : process ∈ earlyWorkflow.processForTask "a") :
    process = earlyProcess :=
  (Option.some.inj h).symm

theorem not_preemptible_early :
    ∀ process ∈ earlyWorkflow.processes.rows, process.preemptible = false := by decide

theorem plan_maximal_early :
    let assignments :=
      (plan insertionOrder earlyWorkflow {} earlyRegistry (-10) none none).assignments
    assignments = [] ∧
    (Excluded earlyWorkflow {} assignments "a" ∨ Waiting earlyWorkflow {} assignments "a" ∨
      ¬ Placeable earlyWorkflow {} earlyRegistry (-10) (Set.Ici 0) assignments "a") :=
  ⟨by decide, plan_maximal insertionOrder earlyWorkflow {} earlyRegistry (-10) none none (by decide)
    (by decide)
    (fun _ _ process hprocess =>
      not_preemptible_early process (Workflow.mem_rows_of_processForTask hprocess))
    pending_early (by decide)⟩

theorem canStart_early :
    CanStart earlyWorkflow {} earlyRegistry (-10) [] "a" "x" earlyActor (-10) where
  afterNow := by decide
  released := by decide
  dependencies process hprocess dep hdep := by
    obtain rfl := processForTask_early hprocess
    exact absurd hdep List.not_mem_nil
  window _ := ⟨{ start := -10, stop := 20 }, List.mem_singleton_self _, by decide⟩
  capacity instant _ _ := by
    have hload : baselineLoad earlyRegistry {} "x" = 0 := by decide
    have hdemand : taskDemand earlyWorkflow "a" = 1 := by decide
    have hcapacity : earlyActor.capacity = 1 := rfl
    simp [reservedDemandAt, inFlightDemandAt, hload, hdemand, hcapacity, assignedTo]

/-- Without the origin the statement fails: the pass lets every task wait for instant zero. -/
theorem not_maximal_before_zero :
    let assignments :=
      (plan insertionOrder earlyWorkflow {} earlyRegistry (-10) none none).assignments
    (∀ process ∈ earlyWorkflow.processes.rows, 0 ≤ process.demand ∧ process.preemptible = false) ∧
      Pending earlyWorkflow {} "a" ∧ (∀ a ∈ assignments, a.taskId ≠ "a") ∧
      ¬ (Excluded earlyWorkflow {} assignments "a" ∨ Waiting earlyWorkflow {} assignments "a" ∨
        ¬ Placeable earlyWorkflow {} earlyRegistry (-10) Set.univ assignments "a") := by
  have hnil : (plan insertionOrder earlyWorkflow {} earlyRegistry (-10) none none).assignments =
      [] := by decide
  rw [hnil]
  refine ⟨by decide, pending_early, by simp, ?_⟩
  rintro (⟨process, hprocess, other, hother, -⟩ | ⟨process, hprocess, dep, hdep, -⟩ | hnot)
  · obtain rfl := processForTask_early hprocess
    exact absurd hother List.not_mem_nil
  · obtain rfl := processForTask_early hprocess
    exact absurd hdep List.not_mem_nil
  · have hleast : IsLeast {start ∈ Set.univ | CanStart earlyWorkflow {} earlyRegistry (-10)
        [] "a" "x" earlyActor start}
        (-10) := ⟨⟨trivial, canStart_early⟩, fun start hstart => hstart.2.afterNow⟩
    refine hnot ⟨"x", earlyActor, rfl, by decide, ?_, -10, hleast, ?_⟩
    · refine ⟨Or.inl (by decide), ?_, ?_, by decide⟩
      · intro process hprocess
        exact Or.inl (processForTask_early hprocess ▸ rfl)
      · intro process hprocess capability hcapability
        obtain rfl := processForTask_early hprocess
        exact absurd hcapability List.not_mem_nil
    · constructor
      · intro process hprocess latest hlatest
        obtain rfl := processForTask_early hprocess
        exact absurd hlatest (by simp [earlyProcess])
      · intro process hprocess deadline hdeadline
        obtain rfl := processForTask_early hprocess
        obtain rfl := Option.some.inj hdeadline
        decide

end TaskOrchestrator.Core
