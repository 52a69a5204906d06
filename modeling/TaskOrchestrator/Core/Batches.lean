import TaskOrchestrator.Core.ActorChoice
import TaskOrchestrator.Core.Determinism
import TaskOrchestrator.Core.Maximality
import TaskOrchestrator.Library.Sequencing

/-!
# Batches of tasks

When nothing keeps a pending task back, a pass has one round, which takes up the tasks in the order
of the strategy. On actors that have room for one task at a time each task is appended to what its
actor has, and any feasible plan is a timetable in which no actor works on two tasks at a time.
-/

namespace TaskOrchestrator.Core

open Library

set_option autoImplicit false

section Specification

variable (workflow : Workflow) (state : WorkflowState) (registry : ActorRegistry) (now : Time)

/-- No pending task waits for another one or for an instant after now, and none is excluded. -/
structure Batch : Prop where
  origin : 0 ≤ now
  disjoint : ∀ id ∈ state.assignedTasks, id ∉ state.resumableTasks
  demands : ∀ process ∈ workflow.processes.rows, 0 ≤ process.demand
  supported : ∀ id, Pending workflow state id →
    ∀ process ∈ workflow.processForTask id, process.preemptible = false
  durations : ∀ id, Pending workflow state id → 0 < taskDuration workflow id
  released : ∀ id, Pending workflow state id → releaseTime workflow state id ≤ now
  dependencies : ∀ id, Pending workflow state id → ∀ process ∈ workflow.processForTask id,
    ∀ dep ∈ process.dependencyTaskIds, DoneBy workflow state now [] dep now
  exclusions : ∀ id, Pending workflow state id → ∀ process ∈ workflow.processForTask id,
    ∀ other ∈ process.mutuallyExclusiveTaskIds, ¬ Accounted state [] other ∧
    ¬ Pending workflow state other

/-- From the instant on the actor has room for any of the pending tasks that it suits, and never for
two. It can begin none before. -/
structure OneAtATime (actorId : ActorId) (actor : Actor) (opens : Time) : Prop where
  busy : ∀ id, Pending workflow state id → Suits workflow state id actor →
    ∀ instant, now ≤ instant → instant < opens →
    (∀ window ∈ actor.availabilityWindows, instant < window.start) ∨
      actor.capacity < reservedDemandAt workflow state registry now actorId instant + taskDemand
        workflow id
  room : ∀ id, Pending workflow state id → Suits workflow state id actor →
    ∀ instant, opens ≤ instant →
    reservedDemandAt workflow state registry now actorId instant + taskDemand workflow id ≤
      actor.capacity
  single : ∀ id other, Pending workflow state id → Pending workflow state other → id ≠ other →
    Suits workflow state id actor → Suits workflow state other actor → ∀ instant, opens ≤ instant →
      actor.capacity < reservedDemandAt workflow state registry now actorId instant + taskDemand
        workflow id +
        taskDemand workflow other

def Complete (plan : List Assignment) : Prop :=
  ∀ id, Pending workflow state id → ∃ a ∈ plan, a.taskId = id

/-- When the actor is free again, if it does its assignments one after another. -/
def freeFrom (opens : Time) (plan : List Assignment) (actorId : ActorId) : Time :=
  opens + ((assignedTo actorId plan).map fun a => taskDuration workflow a.taskId).sum

/-- The actor has done its assignments without a break. -/
structure Packed (opens : Time) (plan : List Assignment) (actorId : ActorId) : Prop where
  covered : ∀ instant, opens ≤ instant → instant < freeFrom workflow opens plan actorId →
    ∃ b ∈ assignedTo actorId plan, (planned workflow).Covers b instant
  finished : ∀ b ∈ assignedTo actorId plan,
    b.startTime + taskDuration workflow b.taskId ≤ freeFrom workflow opens plan actorId

end Specification

theorem Batch.of_rows {workflow : Workflow} {state : WorkflowState} {now : Time} (horigin : 0 ≤ now)
    (hdisjoint : ∀ id ∈ state.assignedTasks, id ∉ state.resumableTasks)
    (hrows : ∀ process ∈ workflow.processes.rows, 0 ≤ process.demand ∧ process.preemptible = false ∧
      process.dependencyTaskIds = [] ∧ process.mutuallyExclusiveTaskIds = [])
    (htimes : ∀ id, Pending workflow state id →
      0 < taskDuration workflow id ∧ releaseTime workflow state id ≤ now) :
    Batch workflow state now where
  origin := horigin
  disjoint := hdisjoint
  demands process hprocess := (hrows process hprocess).1
  supported id _ process hprocess :=
    (hrows process (Workflow.mem_rows_of_processForTask hprocess)).2.1
  durations id hid := (htimes id hid).1
  released id hid := (htimes id hid).2
  dependencies id _ process hprocess dep hdep := by
    rw [(hrows process (Workflow.mem_rows_of_processForTask hprocess)).2.2.1] at hdep
    exact absurd hdep List.not_mem_nil
  exclusions id _ process hprocess other hother := by
    rw [(hrows process (Workflow.mem_rows_of_processForTask hprocess)).2.2.2] at hother
    exact absurd hother List.not_mem_nil

section Actors

variable {workflow : Workflow} {state : WorkflowState} {registry : ActorRegistry} {now opens : Time}
variable {plan : List Assignment} {actorId : ActorId} {actor : Actor}

theorem sum_demand_le_load (hdemand : ∀ id, 0 ≤ taskDemand workflow id)
    {part items : List Assignment} {instant : Time} (hnodup : part.Nodup)
    (hpart : ∀ a ∈ part, a ∈ items ∧ (planned workflow).Covers a instant) :
    (part.map fun a => taskDemand workflow a.taskId).sum ≤
    (planned workflow).load items instant := by
  rw [Weighing.load_eq_sum_inForce]
  apply sum_map_le_of_subset (fun a => hdemand a.taskId) hnodup
  intro a ha
  exact ((planned workflow).mem_inForce).mpr (hpart a ha)

theorem pending_of_admissible {a : Assignment} (h : Admissible workflow state now a actor) :
    Pending workflow state a.taskId :=
  ⟨h.ready, h.notInFlight, h.notCompleted, h.resumable⟩

theorem mem_assignedTo {a : Assignment} :
    a ∈ assignedTo actorId plan ↔ a ∈ plan ∧ a.actorId = actorId := by
  simp [assignedTo]

theorem Feasible.admissible_on (h : Feasible workflow state registry now plan)
    (hactor : registry.get actorId = some actor) {a : Assignment}
    (ha : a ∈ assignedTo actorId plan) :
    Admissible workflow state now a actor := by
  obtain ⟨hmem, rfl⟩ := mem_assignedTo.mp ha
  obtain ⟨own, hown, hadmissible⟩ := h.admissible a hmem
  obtain rfl := Option.some.inj (hactor.symm.trans hown)
  exact hadmissible

theorem Feasible.nodup (h : Feasible workflow state registry now plan) :
    plan.Nodup := h.unique.of_map

theorem OneAtATime.opens_le (hone : OneAtATime workflow state registry now actorId actor opens)
    (hbatch : Batch workflow state now) (hactor : registry.get actorId = some actor)
    (h : Feasible workflow state registry now plan) {a : Assignment}
    (ha : a ∈ assignedTo actorId plan) :
    opens ≤ a.startTime := by
  have hadmissible := h.admissible_on hactor ha
  have hpending := pending_of_admissible hadmissible
  have hduration := hbatch.durations _ hpending
  have hcovers : (planned workflow).Covers a a.startTime :=
    ⟨le_refl _, lt_add_of_pos_right _ hduration⟩
  by_contra hearly
  rcases hone.busy _ hpending hadmissible.suits _ hadmissible.afterNow
    (not_le.mp hearly) with hclosed | hfull
  · obtain ⟨window, hwindow, hstart, -⟩ := hadmissible.window hduration
    exact absurd (hclosed window hwindow) (not_lt.mpr hstart)
  · have hcapacity := h.capacity actorId actor hactor a ha a.startTime hcovers
    have hload := sum_demand_le_load (taskDemand_nonneg hbatch.demands) (List.nodup_singleton a)
      (fun b hb => by rw [List.mem_singleton.mp hb]; exact ⟨ha, hcovers⟩)
    simp only [List.map_cons, List.map_nil, List.sum_cons, List.sum_nil, add_zero] at hload
    omega

theorem OneAtATime.of_idle
    (hidle : ∀ instant, now ≤ instant →
      reservedDemandAt workflow state registry now actorId instant = 0)
    (hdemand : ∀ id, Pending workflow state id →
      taskDemand workflow id ≤ actor.capacity ∧ actor.capacity < 2 * taskDemand workflow id) :
    OneAtATime workflow state registry now actorId actor now where
  busy id _ _ instant hlower hupper := absurd hupper (not_lt.mpr hlower)
  room id hid _ instant hinstant := by
    have hfits := (hdemand id hid).1
    rw [hidle instant hinstant]
    omega
  single id other hid hother _ _ _ instant hinstant := by
    have hlarge := (hdemand id hid).2
    have hotherLarge := (hdemand other hother).2
    rw [hidle instant hinstant]
    omega

theorem OneAtATime.apart (hone : OneAtATime workflow state registry now actorId actor opens)
    (hbatch : Batch workflow state now) (hactor : registry.get actorId = some actor)
    (h : Feasible workflow state registry now plan) {a b : Assignment}
    (ha : a ∈ assignedTo actorId plan) (hb : b ∈ assignedTo actorId plan)
    (hne : a.taskId ≠ b.taskId) :
    a.startTime + taskDuration workflow a.taskId ≤ b.startTime ∨
      b.startTime + taskDuration workflow b.taskId ≤ a.startTime := by
  have haAdmissible := h.admissible_on hactor ha
  have hbAdmissible := h.admissible_on hactor hb
  have haOpens := hone.opens_le hbatch hactor h ha
  have haDuration := hbatch.durations _ (pending_of_admissible haAdmissible)
  have hbDuration := hbatch.durations _ (pending_of_admissible hbAdmissible)
  by_contra hoverlap
  obtain ⟨hbefore, hafter⟩ := not_or.mp hoverlap
  -- Both are there when the later one begins.
  have haCovers : (planned workflow).Covers a (max a.startTime b.startTime) :=
    ⟨le_max_left _ _, max_lt (lt_add_of_pos_right _ haDuration) (not_le.mp hbefore)⟩
  have hbCovers : (planned workflow).Covers b (max a.startTime b.startTime) :=
    ⟨le_max_right _ _, max_lt (not_le.mp hafter) (lt_add_of_pos_right _ hbDuration)⟩
  have hcapacity := h.capacity actorId actor hactor a ha _ haCovers
  have hload := sum_demand_le_load (taskDemand_nonneg hbatch.demands)
    (List.nodup_cons.mpr ⟨fun hmem => hne (congrArg _ (List.mem_singleton.mp hmem)),
      List.nodup_singleton b⟩)
    (fun c hc => by
      rcases List.mem_cons.mp hc with rfl | hc
      · exact ⟨ha, haCovers⟩
      · rw [List.mem_singleton.mp hc]
        exact ⟨hb, hbCovers⟩)
  have hfull :=
    hone.single _ _ (pending_of_admissible haAdmissible) (pending_of_admissible hbAdmissible) hne
    haAdmissible.suits hbAdmissible.suits (max a.startTime b.startTime)
      (le_trans haOpens (le_max_left _ _))
  simp only [List.map_cons, List.map_nil, List.sum_cons, List.sum_nil, add_zero] at hload
  omega

theorem Feasible.opens_le_freeFrom (h : Feasible workflow state registry now plan)
    (hbatch : Batch workflow state now) (opens : Time) (actorId : ActorId) :
    opens ≤ freeFrom workflow opens plan actorId := by
  have hsum : 0 ≤ ((assignedTo actorId plan).map fun a => taskDuration workflow a.taskId).sum := by
    apply List.sum_nonneg
    intro d hd
    obtain ⟨a, ha, rfl⟩ := List.mem_map.mp hd
    obtain ⟨actor, -, hadmissible⟩ := h.admissible a (mem_assignedTo.mp ha).1
    exact le_of_lt (hbatch.durations _ (pending_of_admissible hadmissible))
  exact le_add_of_nonneg_right hsum

theorem freeFrom_append (opens : Time) (plan : List Assignment) (a : Assignment)
    (actorId : ActorId) :
    freeFrom workflow opens (plan ++ [a]) actorId =
      freeFrom workflow opens plan actorId + if a.actorId = actorId then
        taskDuration workflow a.taskId else 0 := by
  unfold freeFrom
  rw [assignedTo_append, List.map_append, List.sum_append]
  split_ifs <;> simp [add_assoc]

theorem Packed.nil (opens : Time) (actorId : ActorId) : Packed workflow opens [] actorId where
  covered instant hopens hfree := by
    simp only [freeFrom, assignedTo, List.filter_nil, List.map_nil, List.sum_nil, add_zero] at hfree
    exact absurd hfree (not_lt.mpr hopens)
  finished b hb := absurd hb (by simp [assignedTo])

theorem Packed.append (h : Packed workflow opens plan actorId) {a : Assignment}
    (hduration : 0 < taskDuration workflow a.taskId)
    (hstart : a.actorId = actorId → a.startTime = freeFrom workflow opens plan actorId) :
    Packed workflow opens (plan ++ [a]) actorId := by
  by_cases hid : a.actorId = actorId
  · have hfree := hstart hid
    constructor
    · intro instant hopens hinstant
      rw [freeFrom_append, if_pos hid] at hinstant
      rw [assignedTo_append, if_pos hid]
      by_cases hearlier : instant < freeFrom workflow opens plan actorId
      · obtain ⟨b, hb, hcovers⟩ := h.covered instant hopens hearlier
        exact ⟨b, List.mem_append_left _ hb, hcovers⟩
      · have hbegun : a.startTime ≤ instant := hfree ▸ not_lt.mp hearlier
        have hunfinished : instant < a.startTime + taskDuration workflow a.taskId :=
          hfree ▸ hinstant
        exact ⟨a, by simp, hbegun, hunfinished⟩
    · intro b hb
      rw [assignedTo_append, if_pos hid] at hb
      rw [freeFrom_append, if_pos hid]
      rcases List.mem_append.mp hb with hb | hb
      · exact (h.finished b hb).trans (le_add_of_nonneg_right (le_of_lt hduration))
      · rw [List.mem_singleton.mp hb, hfree]
  · constructor
    · intro instant hopens hinstant
      rw [freeFrom_append, if_neg hid, add_zero] at hinstant
      rw [assignedTo_append, if_neg hid, List.append_nil]
      exact h.covered instant hopens hinstant
    · intro b hb
      rw [assignedTo_append, if_neg hid, List.append_nil] at hb
      rw [freeFrom_append, if_neg hid, add_zero]
      exact h.finished b hb

end Actors

section Tasks

variable {workflow : Workflow} {state : WorkflowState} {registry : ActorRegistry} {now opens : Time}
variable {profile : ActorRankingProfile} {s : PlanState} {task : PendingTask} {actorId : ActorId}
variable {actor : Actor}

theorem Batch.dependencyReady (hbatch : Batch workflow state now)
    (hs : MaximalInvariant workflow state registry now s)
    (htask : task ∈ collectPendingTasks workflow state) :
    ∃ ready, dependencyReadyTime task s.completionTimes = some ready ∧
      max (max now (effectiveReleaseTime task state)) ready = now := by
  have hdescribes := (mem_collectPendingTasks htask).1
  have hpending := (pending_iff hbatch.disjoint task.info.id).mpr ⟨task, htask, rfl⟩
  have hdone : ∀ process ∈ task.process, ∀ dep ∈ process.dependencyTaskIds,
      DoneBy workflow state now s.assignments dep now := by
    intro process hprocess dep hdep
    have hfirst := hbatch.dependencies _ hpending process (hdescribes.process ▸ hprocess) dep hdep
    exact hfirst.mono fun a ha => absurd ha List.not_mem_nil
  have hsome : (dependencyReadyTime task s.completionTimes).isSome = true := by
    refine dependencyReadyTime_isSome_iff.mpr fun process hprocess dep hdep => ?_
    obtain ⟨time, htime, -⟩ := hs.times dep (hdone process hprocess dep hdep).accounted
    rw [htime]
    rfl
  obtain ⟨ready, hready⟩ := Option.isSome_iff_exists.mp hsome
  have hreadyLe : ready ≤ now := by
    apply dependencyReadyTime_le hready hbatch.origin
    intro process hprocess dep hdep completion hcompletion
    obtain ⟨time, htime, hleast⟩ := hs.times dep (hdone process hprocess dep hdep).accounted
    obtain rfl := Option.some.inj (hcompletion.symm.trans htime)
    exact hleast now (hdone process hprocess dep hdep)
  have hreleaseLe : effectiveReleaseTime task state ≤ now := by
    rw [effectiveReleaseTime, hdescribes.releaseTime, hdescribes.process]
    exact hbatch.released _ hpending
  refine ⟨ready, hready, ?_⟩
  rw [max_eq_left hreleaseLe, max_eq_left hreadyLe]

theorem OneAtATime.earliestStart_eq
    (hone : OneAtATime workflow state registry now actorId actor opens)
    (hbatch : Batch workflow state now) (hactor : registry.get actorId = some actor)
    (hopens : now ≤ opens) (hs : MaximalInvariant workflow state registry now s)
    (hpacked : Packed workflow opens s.assignments actorId)
    (htask : task ∈ collectPendingTasks workflow state)
    (hnew : ∀ a ∈ s.assignments, a.taskId ≠ task.info.id)
    (hsuits : Suits workflow state task.info.id actor) {window : AvailabilityWindow}
    (hwindow : window ∈ actor.availabilityWindows)
    (hstart : window.start ≤ freeFrom workflow opens s.assignments actorId)
    (hstop : freeFrom workflow opens s.assignments actorId + taskDuration workflow task.info.id ≤
      window.stop) :
    earliestStart actor
    (reservationsOf s.reservations actorId) now task.info.duration task.info.demand =
      some (freeFrom workflow opens s.assignments actorId) := by
  have hdescribes := (mem_collectPendingTasks htask).1
  have hpending := (pending_iff hbatch.disjoint task.info.id).mpr ⟨task, htask, rfl⟩
  have hduration := hbatch.durations _ hpending
  have hdemand := taskDemand_nonneg hbatch.demands
  have htables := hs.tables.reservations actorId actor hactor
  have hopensFree := hs.tables.feasible.opens_le_freeFrom hbatch opens actorId
  have hfits : FitsAt actor (reservationsOf s.reservations actorId) now task.info.duration
      task.info.demand (freeFrom workflow opens s.assignments actorId) := by
    rw [hdescribes.duration, hdescribes.demand]
    refine ⟨hopens.trans hopensFree, fun _ => ⟨window, hwindow, hstart, hstop⟩, ?_⟩
    intro instant hlower _
    have hidle : (planned workflow).load (assignedTo actorId s.assignments) instant = 0 := by
      rw [Weighing.load_eq_sum_inForce, Weighing.inForce, List.filter_eq_nil_iff.mpr, List.map_nil,
        List.sum_nil]
      intro b hb hcovers
      have hfinished := hpacked.finished b hb
      have hbefore := (of_decide_eq_true hcovers).2
      exact absurd (lt_of_lt_of_le hbefore hfinished) (not_lt.mpr hlower)
    rw [htables, hidle, add_zero]
    exact hone.room _ hpending hsuits instant (hopensFree.trans hlower)
  obtain ⟨first, hfirst, hle⟩ := hfits.earliestStart_le
  have hfound := earliestStart_fits hfirst
  rw [hdescribes.duration, hdescribes.demand] at hfound
  have hcapacity := hfound.capacity first (le_refl _) (lt_add_of_pos_right _ hduration)
  rw [htables] at hcapacity
  rcases eq_or_lt_of_le hle with heq | hlt
  · rw [hfirst, heq]
  · exfalso
    by_cases hearly : first < opens
    · rcases hone.busy _ hpending hsuits first hfound.released hearly with hclosed | hfull
      · obtain ⟨other, hother, hopen, -⟩ := hfound.window hduration
        exact absurd (hclosed other hother) (not_lt.mpr hopen)
      · have hload : 0 ≤ (planned workflow).load (assignedTo actorId s.assignments) first :=
          sum_demand_le_load hdemand List.nodup_nil fun a ha => absurd ha List.not_mem_nil
        omega
    · obtain ⟨b, hb, hcovers⟩ := hpacked.covered first (not_lt.mp hearly) hlt
      have hadmissible := hs.tables.feasible.admissible_on hactor hb
      have hfull :=
        hone.single _ _ (pending_of_admissible hadmissible) hpending
          (hnew b (mem_assignedTo.mp hb).1)
        hadmissible.suits hsuits first (not_lt.mp hearly)
      have hload := sum_demand_le_load hdemand (List.nodup_singleton b)
        (fun c hc => by rw [List.mem_singleton.mp hc]; exact ⟨hb, hcovers⟩)
      simp only [List.map_cons, List.map_nil, List.sum_cons, List.sum_nil, add_zero] at hload
      omega

theorem exists_selection (profile : ActorRankingProfile) {reservations : ReservationTable}
    {completionTimes : CompletionTable} {candidate : RankedActorCandidate}
    (h : FeasibleCandidate registry state now task reservations completionTimes candidate) :
    ∃ selection, selectBestCandidate registry state now profile task reservations completionTimes =
      some selection ∧
      IsFirst profile.compare
      (FeasibleCandidate registry state now task reservations completionTimes)
        selection.candidate := by
  have hscan := List.Perm.refl registry.actorIds
  rw [selectBestCandidate_eq_among]
  cases hselection : selectBestAmong registry state now task reservations completionTimes profile
    registry.actorIds with
  | none => exact absurd h ((selectBestAmong_eq_none hscan).mp hselection candidate)
  | some selection =>
    exact ⟨selection, rfl, (selectBestAmong_eq_some hscan).mp (by rw [hselection, Option.map_some])⟩

theorem inTime_iff (htask : Describes workflow task) {start : Time} :
    InTime workflow task.info.id start ↔ (∀ latest ∈ task.info.latestStartTime, start ≤ latest) ∧
      ∀ deadline ∈ task.info.deadline, start + task.info.duration ≤ deadline := by
  rw [htask.latestStartTime, htask.deadline, htask.process, htask.duration]
  constructor
  · intro h
    constructor
    · intro latest hlatest
      obtain ⟨process, hprocess, hmem⟩ := Option.bind_eq_some_iff.mp hlatest
      exact h.latestStart process hprocess latest hmem
    · intro deadline hdeadline
      obtain ⟨process, hprocess, hmem⟩ := Option.bind_eq_some_iff.mp hdeadline
      exact h.deadline process hprocess deadline hmem
  · rintro ⟨hlatest, hdeadline⟩
    exact ⟨fun process hprocess latest hmem =>
      hlatest latest (Option.bind_eq_some_iff.mpr ⟨process, hprocess, hmem⟩),
        fun process hprocess deadline hmem =>
          hdeadline deadline (Option.bind_eq_some_iff.mpr ⟨process, hprocess, hmem⟩)⟩

theorem Batch.feasibleCandidate_iff (hbatch : Batch workflow state now)
    (hs : MaximalInvariant workflow state registry now s)
    (htask : task ∈ collectPendingTasks workflow state) {candidate : RankedActorCandidate} :
    FeasibleCandidate registry state now task s.reservations s.completionTimes candidate ↔
      ∃ actor, registry.get actor.id = some actor ∧ actor.id ∉ state.unavailableActors ∧
        Suits workflow state task.info.id actor ∧
        earliestStart actor (reservationsOf s.reservations actor.id) now task.info.duration
          task.info.demand =
          some candidate.startTime ∧
        InTime workflow task.info.id candidate.startTime ∧
        candidate = buildCandidate task actor candidate.startTime state
          (reservationsOf s.reservations actor.id) := by
  have hdescribes := (mem_collectPendingTasks htask).1
  obtain ⟨ready, hready, hnow⟩ := hbatch.dependencyReady hs htask
  rw [FeasibleCandidate.offers hready]
  constructor
  · rintro ⟨actor, hoffers⟩
    have hearliest := hoffers.earliest
    rw [hnow] at hearliest
    exact ⟨actor, hoffers.registered, hoffers.available,
      (actorIsAllowed_iff hdescribes actor).mp hoffers.allowed, hearliest,
      (inTime_iff hdescribes).mpr ⟨hoffers.latestStart, hoffers.deadline⟩, hoffers.built⟩
  · rintro ⟨actor, hregistered, havailable, hsuits, hearliest, hintime, hbuilt⟩
    obtain ⟨hlatest, hdeadline⟩ := (inTime_iff hdescribes).mp hintime
    refine ⟨actor, hregistered, havailable, (actorIsAllowed_iff hdescribes actor).mpr hsuits,
      ?_, hlatest, hdeadline, measures_iff.mpr hbuilt⟩
    rw [hnow]
    exact hearliest

end Tasks

section Rounds

variable {workflow : Workflow} {state : WorkflowState} {registry : ActorRegistry} {now : Time}
variable {profile : ActorRankingProfile} {s : PlanState} {task : PendingTask} {taken : List TaskId}

structure Taken (workflow : Workflow) (state : WorkflowState) (registry : ActorRegistry)
    (now : Time) (s : PlanState) (taken : List TaskId) : Prop where
  maximal : MaximalInvariant workflow state registry now s
  assigned : s.assignments.map Assignment.taskId = taken
  remaining : ∀ id, Pending workflow state id → id ∉ taken → id ∈ s.remainingTaskIds

theorem Taken.new (hs : Taken workflow state registry now s taken) {id : TaskId}
    (hid : id ∉ taken) :
    ∀ a ∈ s.assignments, a.taskId ≠ id := by
  intro a ha heq
  apply hid
  rw [← hs.assigned, ← heq]
  exact List.mem_map_of_mem ha

theorem Taken.planTask (hbatch : Batch workflow state now)
    (hs : Taken workflow state registry now s taken)
    (htask : task ∈ collectPendingTasks workflow state) (hnew : task.info.id ∉ taken)
    {selection : CandidateSelection}
    (h : selectBestCandidate registry state now profile task s.reservations s.completionTimes =
      some selection)
    (progress : Bool) :
    planTask registry state now profile (s, progress) task = (s.place task selection, true) ∧
      Taken workflow state registry now (s.place task selection) (taken ++ [task.info.id]) := by
  have hdescribes := (mem_collectPendingTasks htask).1
  have hpending := (pending_iff hbatch.disjoint task.info.id).mpr ⟨task, htask, rfl⟩
  have hremaining := hs.remaining _ hpending hnew
  have hfree : mutexConflict task s.blockedTaskIds = false := by
    rw [Bool.eq_false_iff]
    intro hconflict
    obtain ⟨process, hprocess, other, hother, haccounted⟩ :=
      (excluded_of_mutexConflict hs.maximal hdescribes).mp hconflict
    obtain ⟨hnotBefore, hnotPending⟩ := hbatch.exclusions _ hpending process hprocess other hother
    rcases haccounted with hcompleted | hinFlight | ⟨a, ha, rfl⟩
    · exact hnotBefore (Or.inl hcompleted)
    · exact hnotBefore (Or.inr (Or.inl hinFlight))
    · obtain ⟨actor, -, hadmissible⟩ := hs.maximal.tables.feasible.admissible a ha
      exact hnotPending (pending_of_admissible hadmissible)
  have hplaced :=
    hs.maximal.place hbatch.disjoint (taskDemand_nonneg hbatch.demands) htask hremaining h
  constructor
  · simp only [Core.planTask, hremaining, not_true_eq_false, if_false, hfree, Bool.false_eq_true, h]
  · refine ⟨hplaced, ?_, ?_⟩
    · simp only [PlanState.place, List.map_append, hs.assigned, List.map_cons, List.map_nil,
        assignmentOf]
    · intro id hid hnot
      rw [List.mem_append, not_or, List.mem_singleton] at hnot
      exact (List.mem_erase_of_ne hnot.2).mpr (hs.remaining id hid hnot.1)

theorem Taken.round (profile : ActorRankingProfile) (hbatch : Batch workflow state now)
    (Inv : PlanState → List TaskId → Prop) {order : List TaskId}
    (hnodup : order.Nodup)
    (hstep : ∀ s taken task, Taken workflow state registry now s taken → Inv s taken →
      task ∈ collectPendingTasks workflow state → taken ++ [task.info.id] <+: order →
        ∃ selection,
          selectBestCandidate registry state now profile task s.reservations s.completionTimes =
          some selection ∧ Inv (s.place task selection) (taken ++ [task.info.id]))
    {tasks : List PendingTask} (htasks : ∀ task ∈ tasks, task ∈ collectPendingTasks workflow state)
    (horder : taken ++ tasks.map (fun task => task.info.id) = order)
    (hs : Taken workflow state registry now s taken) (hinv : Inv s taken) (progress : Bool) :
    let next := (tasks.foldl (Core.planTask registry state now profile) (s, progress)).1
    Taken workflow state registry now next order ∧ Inv next order := by
  induction tasks generalizing s taken progress with
  | nil =>
    rw [List.map_nil, List.append_nil] at horder
    subst horder
    exact ⟨hs, hinv⟩
  | cons task rest ih =>
    have htask := htasks task List.mem_cons_self
    have hsplit : taken ++ [task.info.id] ++ rest.map (fun task => task.info.id) = order := by
      rw [List.append_assoc, List.singleton_append]
      exact horder
    have hfront : taken ++ [task.info.id] <+: order := ⟨_, hsplit⟩
    have hnew : task.info.id ∉ taken := by
      have hshort := hfront.sublist.nodup hnodup
      exact fun hmem => (List.nodup_append.mp hshort).2.2 _ hmem _ (List.mem_singleton_self _) rfl
    obtain ⟨selection, hselection, hnext⟩ := hstep s taken task hs hinv htask hfront
    obtain ⟨hplaced, htaken⟩ := hs.planTask hbatch htask hnew hselection progress
    rw [List.foldl_cons, hplaced]
    exact ih (fun other hother => htasks other (List.mem_cons_of_mem _ hother)) hsplit htaken
      hnext true

theorem Taken.complete (hs : Taken workflow state registry now s taken)
    (h : ∀ id, Pending workflow state id → id ∈ taken) : Complete workflow state s.assignments := by
  intro id hid
  have hmem := h id hid
  rw [← hs.assigned] at hmem
  exact List.mem_map.mp hmem

theorem Taken.initial (hbatch : Batch workflow state now) (registry : ActorRegistry) :
    Taken workflow state registry now
      (initialPlanState workflow state registry now (collectPendingTasks workflow state)) [] where
  maximal := .initial workflow registry now hbatch.disjoint
  assigned := rfl
  remaining id hid _ := by
    obtain ⟨task, htask, rfl⟩ := (pending_iff hbatch.disjoint id).mp hid
    exact List.mem_dedup.mpr (List.mem_map_of_mem htask)

theorem planRounds_eq_round {hash : IterationOrder} {strategy : Option SchedulingStrategy}
    {pendingTasks : List PendingTask} {fuel round : Nat} (hfuel : s.remainingTaskIds.length ≤ fuel)
    (h : ((collectReadyTasks hash strategy pendingTasks round s).foldl
      (planTask registry state now profile) (s, false)).1.remainingTaskIds = []) :
    planRounds hash registry state now strategy profile pendingTasks fuel round s =
      ((collectReadyTasks hash strategy pendingTasks round s).foldl
        (planTask registry state now profile)
        (s, false)).1 := by
  have hover : ∀ fuel round t, t.remainingTaskIds = [] →
      planRounds hash registry state now strategy profile pendingTasks fuel round t = t := by
    intro fuel round t hdone
    cases fuel with
    | zero => rfl
    | succ fuel => rw [planRounds, if_pos hdone]
  have hnone : s.remainingTaskIds = [] →
      collectReadyTasks hash strategy pendingTasks round s = [] := by
    intro hdone
    apply List.eq_nil_iff_forall_not_mem.mpr
    intro task htask
    have hremaining := (ready_of_mem_collectReadyTasks htask).2.1
    rw [hdone] at hremaining
    exact List.not_mem_nil hremaining
  cases fuel with
  | zero =>
    rw [hnone (List.eq_nil_of_length_eq_zero (Nat.le_zero.mp hfuel))]
    rfl
  | succ fuel =>
    rw [planRounds]
    dsimp only
    split_ifs with hdone hempty hprogress
    · rw [hnone hdone]
      rfl
    · rw [List.isEmpty_iff.mp hempty]
      rfl
    · exact hover fuel (round + 1) _ h
    · rfl

theorem Batch.mem_collectReadyTasks (hbatch : Batch workflow state now) (registry : ActorRegistry)
    (hash : IterationOrder) (strategy : Option SchedulingStrategy) (id : TaskId) :
    id ∈ (collectReadyTasks hash strategy (collectPendingTasks workflow state) 0
        (initialPlanState workflow state registry now (collectPendingTasks workflow state))).map
          (fun task => task.info.id) ↔ Pending workflow state id := by
  have hinitial := Taken.initial hbatch registry
  constructor
  · intro hid
    obtain ⟨task, htask, rfl⟩ := List.mem_map.mp hid
    exact (pending_iff hbatch.disjoint _).mpr
      ⟨task, Core.mem_collectReadyTasks hash strategy htask, rfl⟩
  · intro hpending
    by_contra hnot
    have hremaining := hinitial.remaining id hpending List.not_mem_nil
    rcases excluded_or_waiting hash strategy 0 hbatch.disjoint hinitial.maximal hpending hremaining
      (fun task htask heq => hnot (List.mem_map.mpr ⟨task, htask, heq⟩)) with
      ⟨process, hprocess, other, hother, haccounted⟩ | ⟨process, hprocess, dep, hdep, hwaits⟩
    · exact (hbatch.exclusions id hpending process hprocess other hother).1 haccounted
    · exact hwaits (hbatch.dependencies id hpending process hprocess dep hdep).accounted

theorem Batch.validateSupportedTasks_eq_none (hbatch : Batch workflow state now) :
    validateSupportedTasks (collectPendingTasks workflow state) = none := by
  rw [validateSupportedTasks, Option.map_eq_none_iff, List.find?_eq_none]
  intro task htask
  have hprocess := (mem_collectPendingTasks htask).1.process
  have hpending := (pending_iff hbatch.disjoint task.info.id).mpr ⟨task, htask, rfl⟩
  rw [Bool.not_eq_true, hprocess, Option.any_eq_false]
  exact fun process hmem => by simpa using hbatch.supported task.info.id hpending process hmem

theorem Batch.plan_eq_round (hbatch : Batch workflow state now) (registry : ActorRegistry)
    (hash : IterationOrder) {strategy : Option SchedulingStrategy}
    {less : TaskInfo → TaskInfo → Bool} (hstrategy : (strategy.getD edfStrategy).SortsBy less)
    (rankingProfile : Option ActorRankingProfile) :
    ∃ tasks : List PendingTask, (∀ task ∈ tasks, task ∈ collectPendingTasks workflow state) ∧
      (tasks.map fun task => task.info.id).Nodup ∧
      (∀ id, id ∈ tasks.map (fun task => task.info.id) ↔ Pending workflow state id) ∧
      (tasks.map fun task => task.info.id).Pairwise
        (MayPrecede less (collectPendingTasks workflow state)) ∧
      (plan hash workflow state registry now strategy rankingProfile).assignments.Perm
        (tasks.foldl (Core.planTask registry state now (effectiveRankingProfile rankingProfile))
          (initialPlanState workflow state registry now (collectPendingTasks workflow state),
            false)).1.assignments := by
  have hmem := hbatch.mem_collectReadyTasks registry hash strategy
  have hinitial := Taken.initial hbatch registry
  have hnodup := hinitial.maximal.tables.nodup
  refine ⟨_, fun task htask => Core.mem_collectReadyTasks hash strategy htask,
    nodup_collectReadyTasks hash strategy (collectPendingTasks workflow state) 0 hnodup,
    hmem, ?_, ?_⟩
  · cases strategy with
    | none =>
      exact pairwise_collectReadyTasks hash (collectPendingTasks workflow state) 0 hnodup hstrategy
    | some strategy =>
      exact pairwise_collectReadyTasks hash (collectPendingTasks workflow state) 0 hnodup hstrategy
  · have hdone : ((collectReadyTasks hash strategy (collectPendingTasks workflow state) 0
        (initialPlanState workflow state registry now (collectPendingTasks workflow state))).foldl
          (Core.planTask registry state now (effectiveRankingProfile rankingProfile))
          (initialPlanState workflow state registry now (collectPendingTasks workflow state),
            false)).1.remainingTaskIds = [] := by
      rw [foldl_planTask_erases]
      apply List.eq_nil_iff_forall_not_mem.mpr
      intro id hid
      obtain ⟨hremaining, hnot⟩ := (mem_foldl_erase hnodup _ id).mp hid
      obtain ⟨task, htask, rfl⟩ := List.mem_map.mp (List.mem_dedup.mp hremaining)
      have hpending := (pending_iff hbatch.disjoint task.info.id).mpr ⟨task, htask, rfl⟩
      obtain ⟨entry, hentry, heq⟩ := List.mem_map.mp ((hmem _).mpr hpending)
      exact hnot entry hentry heq
    rw [← planRounds_eq_round (le_refl _) hdone]
    unfold plan
    dsimp only
    split_ifs with hempty
    · rw [List.isEmpty_iff.mp hempty]
      exact List.Perm.refl _
    · rw [hbatch.validateSupportedTasks_eq_none]
      exact perm_sortBy _ _

end Rounds

section Others

variable {workflow : Workflow} {state : WorkflowState} {registry : ActorRegistry} {now : Time}
variable {opens : ActorId → Time} {plan : List Assignment} {assignmentFor : TaskId → Assignment}

def timetable (workflow : Workflow) (assignmentFor : TaskId → Assignment) :
    Timetable TaskId ActorId where
  machine id := (assignmentFor id).actorId
  start id := (assignmentFor id).startTime
  duration := taskDuration workflow

theorem Complete.perm {other : List Assignment} (h : Complete workflow state plan)
    (hperm : plan.Perm other) :
    Complete workflow state other := by
  intro id hid
  obtain ⟨a, ha, hsame⟩ := h id hid
  exact ⟨a, hperm.mem_iff.mp ha, hsame⟩

theorem Complete.exists_assignmentFor (h : Complete workflow state plan) :
    ∃ assignmentFor : TaskId → Assignment, ∀ id, Pending workflow state id →
      assignmentFor id ∈ plan ∧ (assignmentFor id).taskId = id := by
  have hsome : ∀ id, ∃ a : Assignment, Pending workflow state id → a ∈ plan ∧ a.taskId = id := by
    intro id
    by_cases hpending : Pending workflow state id
    · obtain ⟨a, ha, hid⟩ := h id hpending
      exact ⟨a, fun _ => ⟨ha, hid⟩⟩
    · exact ⟨⟨id, "", 0⟩, fun habsurd => absurd habsurd hpending⟩
  choose assignmentFor hassignmentFor using hsome
  exact ⟨assignmentFor, hassignmentFor⟩

theorem Feasible.serial (h : Feasible workflow state registry now plan)
    (hbatch : Batch workflow state now)
    (hone : ∀ a ∈ plan, ∀ actor, registry.get a.actorId = some actor →
      OneAtATime workflow state registry now a.actorId actor (opens a.actorId))
    (hfor : ∀ id, Pending workflow state id →
      assignmentFor id ∈ plan ∧ (assignmentFor id).taskId = id)
    {jobs : Finset TaskId} (hjobs : ∀ id ∈ jobs, Pending workflow state id) :
    (timetable workflow assignmentFor).Serial opens jobs where
  positive id hid := hbatch.durations id (hjobs id hid)
  after id hid := by
    obtain ⟨hmem, -⟩ := hfor id (hjobs id hid)
    obtain ⟨actor, hactor, -⟩ := h.admissible _ hmem
    exact (hone _ hmem actor hactor).opens_le hbatch hactor h (mem_assignedTo.mpr ⟨hmem, rfl⟩)
  apart id hid other hother hne hmachine := by
    obtain ⟨hmem, htask⟩ := hfor id (hjobs id hid)
    obtain ⟨hmemOther, htaskOther⟩ := hfor other (hjobs other hother)
    obtain ⟨actor, hactor, -⟩ := h.admissible _ hmem
    have hapart := (hone _ hmem actor hactor).apart hbatch hactor h (mem_assignedTo.mpr ⟨hmem, rfl⟩)
      (mem_assignedTo.mpr ⟨hmemOther, hmachine.symm⟩) (by rw [htask, htaskOther]; exact hne)
    rw [htask, htaskOther] at hapart
    exact hapart

end Others

end TaskOrchestrator.Core
