import TaskOrchestrator.Core.PooledActors

/-!
# The shortest task first

On a pool of interchangeable actors each task goes to the actor that is free first. With the
strategy `sjf` the total of the completion times is then the least of all feasible plans with the
same tasks.
-/

namespace TaskOrchestrator.Core

open Library

set_option autoImplicit false

section Specification

variable (workflow : Workflow) (state : WorkflowState) (registry : ActorRegistry) (now : Time)

def totalCompletion (plan : List Assignment) : Int :=
  (plan.map fun a => a.startTime + taskDuration workflow a.taskId).sum

end Specification

section Order

variable {workflow : Workflow} {state : WorkflowState} {registry : ActorRegistry} {now : Time}

theorem duration_le_of_mayPrecede {x y : TaskId}
    (h : MayPrecede sjfLess (collectPendingTasks workflow state) x y) :
    taskDuration workflow x ≤ taskDuration workflow y := by
  obtain ⟨a, ha, b, hb, rfl, rfl, hless⟩ := h
  rw [← (mem_collectPendingTasks ha).1.duration, ← (mem_collectPendingTasks hb).1.duration]
  rw [sjfLess_eq] at hless
  rcases byKeyThen_eq_false.mp hless with hlt | ⟨heq, -⟩
  · exact le_of_lt hlt
  · exact le_of_eq heq

theorem totalCompletion_append (plan : List Assignment) (a : Assignment) :
    totalCompletion workflow (plan ++ [a]) =
      totalCompletion workflow plan + (a.startTime + taskDuration workflow a.taskId) := by
  simp [totalCompletion]

theorem freeFrom_update (plan : List Assignment) (a : Assignment) :
    freeFrom workflow now (plan ++ [a]) = Function.update (freeFrom workflow now plan) a.actorId
      (freeFrom workflow now plan a.actorId + taskDuration workflow a.taskId) := by
  funext actorId
  rw [freeFrom_append]
  by_cases hid : a.actorId = actorId
  · subst hid
    rw [if_pos rfl, Function.update_self]
  · rw [if_neg hid, add_zero, Function.update_of_ne (Ne.symm hid)]

end Order

section Pass

variable {workflow : Workflow} {state : WorkflowState} {registry : ActorRegistry} {now : Time}
variable {pool : List ActorId}

structure ServedFirst (workflow : Workflow) (now : Time) (pool : List ActorId) (s : PlanState)
    (taken : List TaskId) :
    Prop where
  packed : ∀ actorId, Packed workflow now s.assignments actorId
  queued : ∀ (rest : List Int) (total : Int),
    FreeFirst pool (freeFrom workflow now s.assignments) rest total →
    FreeFirst pool (fun _ => now) (taken.map (taskDuration workflow) ++ rest)
      (totalCompletion workflow s.assignments + total)

theorem ServedFirst.initial (workflow : Workflow) (now : Time) (pool : List ActorId) {s : PlanState}
    (h : s.assignments = []) : ServedFirst workflow now pool s [] where
  packed actorId := by
    rw [h]
    exact .nil now actorId
  queued rest total hrest := by
    have hfree : freeFrom workflow now ([] : List Assignment) = fun _ => now := by
      funext actorId
      simp [freeFrom, assignedTo]
    rw [h] at hrest ⊢
    rw [hfree] at hrest
    simpa [totalCompletion] using hrest

theorem ServedFirst.append {s : PlanState} {taken : List TaskId}
    (h : ServedFirst workflow now pool s taken) {task : PendingTask}
    {selection : CandidateSelection} (hduration : 0 < taskDuration workflow task.info.id)
    (hpool : selection.candidate.actorId ∈ pool)
    (hstart : selection.candidate.startTime =
      freeFrom workflow now s.assignments selection.candidate.actorId)
    (hfirst : ∀ other ∈ pool, freeFrom workflow now s.assignments selection.candidate.actorId ≤
      freeFrom workflow now s.assignments other) :
    ServedFirst workflow now pool (s.place task selection) (taken ++ [task.info.id]) where
  packed actorId := by
    apply (h.packed actorId).append hduration
    rintro rfl
    exact hstart
  queued rest total hrest := by
    have hplaced : (s.place task selection).assignments =
        s.assignments ++ [assignmentOf task selection.candidate] := rfl
    rw [hplaced, freeFrom_update] at hrest
    have hcons := h.queued _ _ (FreeFirst.cons _ hpool hfirst hrest)
    rw [hplaced, totalCompletion_append, List.map_append, List.append_assoc, add_assoc]
    simp only [assignmentOf, hstart]
    exact hcons

theorem sum_stop_eq {assignmentFor : TaskId → Assignment} {ids : List TaskId}
    (h : ∀ id ∈ ids, (assignmentFor id).taskId = id) :
    (ids.map (timetable workflow assignmentFor).stop).sum =
      totalCompletion workflow (ids.map assignmentFor) := by
  rw [totalCompletion, List.map_map]
  congr 1
  apply List.map_congr_left
  intro id hid
  rw [Function.comp_apply, h id hid]
  rfl

end Pass

/-- With interchangeable actors and no deadlines, the shortest task first assigns all pending tasks
of a batch, with the least total of the completion times that a feasible plan of them has. -/
theorem sjf_total_least (hash : IterationOrder) (workflow : Workflow) (state : WorkflowState)
    (registry : ActorRegistry) (now : Time) (strategy : Option SchedulingStrategy)
    (rankingProfile : Option ActorRankingProfile) (pool : List ActorId) (hpool : pool ≠ [])
    (hbatch : Batch workflow state now)
    (hinterchangeable : Interchangeable workflow state registry now pool)
    (hunhurried : Unhurried workflow state)
    (hstrategy : (strategy.getD edfStrategy).SortsBy sjfLess) {criterion : ActorRankingCriterion}
    {rest : List ActorRankingCriterion}
    (hcriteria : (effectiveRankingProfile rankingProfile).criteria = criterion :: rest)
    (hcriterion : criterion = .earliestFeasibleStart ∨ criterion = .earliestFeasibleCompletion) :
    let assignments := (plan hash workflow state registry now strategy rankingProfile).assignments
    Feasible workflow state registry now assignments ∧ Complete workflow state assignments ∧
      ∀ other, Feasible workflow state registry now other → Complete workflow state other →
        totalCompletion workflow assignments ≤ totalCompletion workflow other := by
  intro assignments
  obtain ⟨tasks, htasks, hnodup, hmem, hsorted, hperm⟩ :=
    hbatch.plan_eq_round registry hash hstrategy rankingProfile
  have hround :=
    Taken.round (effectiveRankingProfile rankingProfile) hbatch
      (ServedFirst workflow now pool) hnodup
    (fun s taken task hs hserved htask hfront => by
      have hids : ∀ id ∈ taken ++ [task.info.id], Pending workflow state id := fun id hid =>
        (hmem id).mp (hfront.subset hid)
      obtain ⟨selection, hselection, hchosen, hstart, hfirst⟩ :=
        hinterchangeable.selects hpool hbatch hunhurried
        hcriteria hcriterion hs hserved.packed htask (hfront.sublist.nodup hnodup) hids
      exact ⟨selection, hselection,
        hserved.append (hbatch.durations _ (hids _ (by simp))) hchosen hstart hfirst⟩)
    htasks (List.nil_append _) (Taken.initial hbatch registry)
      (.initial workflow now pool rfl) false
  obtain ⟨htaken, hserved⟩ := hround
  refine ⟨htaken.maximal.tables.feasible.perm hperm.symm,
    (htaken.complete fun id => (hmem id).mpr).perm hperm.symm, fun other hfeasible hcomplete => ?_⟩
  obtain ⟨assignmentFor, hall, hfor, hserial⟩ :=
    hinterchangeable.exists_timetable hbatch hfeasible hcomplete hnodup hmem
  have hqueued := hserved.queued [] 0 (.nil _)
  rw [List.append_nil, add_zero] at hqueued
  have hleast :=
    hqueued.total_le hinterchangeable.nodup hnodup (hsorted.imp duration_le_of_mayPrecede) hserial
    fun id hid => (hfor id hid).2.2
  calc totalCompletion workflow assignments = _ := (hperm.map _).sum_eq
    _ ≤ ((tasks.map fun task => task.info.id).map (timetable workflow assignmentFor).stop).sum :=
    hleast
    _ = totalCompletion workflow ((tasks.map fun task => task.info.id).map assignmentFor) :=
      sum_stop_eq fun id hid => (hfor id hid).2.1
    _ = totalCompletion workflow other := (hall.map _).sum_eq

theorem sjf_total_least_shift :
    let assignments :=
      (plan insertionOrder shiftWorkflow {} shiftRegistry 0
        (some ShippedStrategy.sjf.stable) none).assignments
    totalCompletion shiftWorkflow assignments = 7 ∧
      ∀ other, Feasible shiftWorkflow {} shiftRegistry 0 other → Complete shiftWorkflow {} other →
        7 ≤ totalCompletion shiftWorkflow other := by
  intro assignments
  have htotal : totalCompletion shiftWorkflow assignments = 7 := by decide
  obtain ⟨-, -, hleast⟩ := sjf_total_least insertionOrder shiftWorkflow {} shiftRegistry 0
    (some ShippedStrategy.sjf.stable) none ["x", "y"] (by decide) batch_shift interchangeable_shift
    unhurried_shift (ShippedStrategy.sortsBy_stable .sjf) rfl (Or.inr rfl)
  refine ⟨htotal, fun other hfeasible hcomplete => ?_⟩
  rw [← htotal]
  exact hleast other hfeasible hcomplete

end TaskOrchestrator.Core
