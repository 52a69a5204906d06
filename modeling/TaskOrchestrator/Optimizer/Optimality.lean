import TaskOrchestrator.Optimizer.ListScheduling
import TaskOrchestrator.Optimizer.EarliestStarts

/-!
# When the solution of the search is a best schedule

The solution is best among all feasible schedules exactly when one of the best of them is a
list schedule, as long as every cut stands for the worth of the remaining tasks.

The search loses schedules because tasks compete for actors and it tries one order of them.
Where all the tasks that may run on an actor fit on it at once there is no competition: every
feasible schedule can be followed down the tree, each of its tasks on the actor that it has
there and no later than there.
-/

namespace TaskOrchestrator.Optimizer

open Library
open TaskOrchestrator.Core hiding earliestStart earliestStart_sound

set_option autoImplicit false

variable {model : OptimizationModel} {options : OptimizationOptions}

/-- All the tasks that may run on an actor fit on it at once. -/
def Uncontended (model : OptimizationModel) : Prop :=
  ∀ actor ∈ model.actors,
    ((model.tasks.filter fun task => Allows task actor).map OptimizerTask.demand).sum ≤
      actor.capacity

instance (model : OptimizationModel) : Decidable (Uncontended model) :=
  inferInstanceAs (Decidable (∀ actor ∈ model.actors,
    ((model.tasks.filter fun task => Allows task actor).map OptimizerTask.demand).sum ≤
      actor.capacity))

def WindowsInOrder (model : OptimizationModel) : Prop :=
  ∀ actor ∈ model.actors, actor.availabilityWindows.Pairwise fun v w => v.start ≤ w.start

instance (model : OptimizationModel) : Decidable (WindowsInOrder model) :=
  inferInstanceAs (Decidable (∀ actor ∈ model.actors, actor.availabilityWindows.Pairwise fun v w =>
    v.start ≤ w.start))

theorem demandOf_nonneg (hdemands : ∀ task ∈ model.tasks, 0 ≤ task.demand) (taskId : TaskId) :
    0 ≤ model.demandOf taskId := by
  unfold OptimizationModel.demandOf
  cases hfind : model.tasks.find? fun task => task.id = taskId with
  | none => exact le_refl _
  | some task => exact hdemands task (List.mem_of_find?_eq_some hfind)

/-- Without contention a new task on an actor always finds the capacity free. -/
theorem load_add_demand_le (hunique : model.UniqueIds)
    (hdemands : ∀ task ∈ model.tasks, 0 ≤ task.demand) (huncontended : Uncontended model)
    {schedule : List OptimizedAssignment} (h : FeasibleSchedule model schedule)
    {task : OptimizerTask} (htask : task ∈ model.tasks) (hnew : ∀ a ∈ schedule, a.taskId ≠ task.id)
    {actor : OptimizerActor} (hactor : actor ∈ model.actors) (hallows : Allows task actor)
    (instant : Time) :
    (occupied model).load (runBy actor.id schedule) instant + task.demand ≤ actor.capacity := by
  have hload : (occupied model).load (runBy actor.id schedule) instant ≤
      (((runBy actor.id schedule).map OptimizedAssignment.taskId).map model.demandOf).sum := by
    rw [Weighing.load_eq_sum_inForce, List.map_map]
    apply (List.filter_sublist.map _).sum_le_sum
    intro demand hmem
    obtain ⟨a, -, rfl⟩ := List.mem_map.mp hmem
    exact demandOf_nonneg hdemands a.taskId
  have hall : ((task.id :: (runBy actor.id schedule).map OptimizedAssignment.taskId).map
      model.demandOf).sum ≤
      ((((model.tasks.filter fun other => Allows other actor).map OptimizerTask.id)).map
        model.demandOf).sum := by
    apply sum_map_le_of_subset (demandOf_nonneg hdemands)
    · refine List.nodup_cons.mpr ⟨fun hmem => ?_, h.unique.sublist (List.filter_sublist.map _)⟩
      obtain ⟨a, ha, hid⟩ := List.mem_map.mp hmem
      exact hnew a (List.mem_filter.mp ha).1 hid
    · intro id hid
      rcases List.mem_cons.mp hid with rfl | hid
      · exact List.mem_map_of_mem (List.mem_filter.mpr ⟨htask, decide_eq_true hallows⟩)
      · obtain ⟨a, ha, rfl⟩ := List.mem_map.mp hid
        obtain ⟨ha, howner⟩ := List.mem_filter.mp ha
        obtain ⟨other, hother, owner, howned, hotherId, hownerId, hfits⟩ := h.fits a ha
        obtain rfl := hunique.actor_eq howned hactor (hownerId.trans (of_decide_eq_true howner))
        rw [← hotherId]
        exact List.mem_map_of_mem (List.mem_filter.mpr ⟨hother, decide_eq_true hfits.allows⟩)
  have hdemand : ((model.tasks.filter fun other => Allows other actor).map OptimizerTask.id).map
      model.demandOf =
      (model.tasks.filter fun other => Allows other actor).map OptimizerTask.demand := by
    rw [List.map_map]
    apply List.map_congr_left
    intro other hother
    exact demandOf_task hunique (List.mem_filter.mp hother).1
  rw [hdemand, List.map_cons, List.sum_cons, demandOf_task hunique htask] at hall
  have hcapacity := huncontended actor hactor
  omega

/-- The state has tasks of the schedule only, none later than there, and has dropped none of
them. -/
structure Follows (model : OptimizationModel) (schedule : List OptimizedAssignment)
    (s : SearchState) : Prop where
  invariant : SearchInvariant model s
  placed : ∀ a ∈ s.schedule, ∃ b ∈ schedule, b.taskId = a.taskId ∧ a.endTime ≤ b.endTime
  kept : ∀ b ∈ schedule, b.taskId ∉ s.dropped

section Follow

variable {schedule : List OptimizedAssignment} {s : SearchState}

theorem Follows.root (model : OptimizationModel) (schedule : List OptimizedAssignment) :
    Follows model schedule (rootState model) where
  invariant := .root model
  placed := by simp [SearchState.schedule, rootState]
  kept := by simp [rootState]

theorem Follows.drop (h : Follows model schedule s) {task : OptimizerTask}
    (htask : task ∈ model.tasks) (hscheduled : task.id ∉ s.scheduled)
    (hleft : ∀ b ∈ schedule, b.taskId ≠ task.id) :
    Follows model schedule (s.drop task.id) := by
  refine ⟨h.invariant.drop htask hscheduled, h.placed, fun b hb hmem => ?_⟩
  rcases List.mem_insert_iff.mp hmem with heq | hmem
  · exact hleft b hb heq
  · exact h.kept b hb hmem

theorem Follows.dropDescendants (hfeasible : FeasibleSchedule model schedule)
    (h : Follows model schedule s) :
    Follows model schedule (dropDescendantsIfBlocked model s) := by
  apply dropPasses_keeps _ _ h
  intro t task htask ht hscheduled _ hblocked
  refine ht.drop htask hscheduled fun b hb hid => ?_
  simp only [ConstraintIndex.dependencyBlocked, List.any_eq_true, decide_eq_true_eq] at hblocked
  obtain ⟨dep, hdep, hdropped⟩ := hblocked
  obtain ⟨c, hc, rfl, -⟩ := hfeasible.dependencies b hb task htask hid.symm dep hdep
  exact ht.kept c hc hdropped

variable (hdomain : SearchDomain model) (hordered : WindowsInOrder model)
variable (huncontended : Uncontended model)
  (hfeasible : FeasibleSchedule model schedule) (hexclusions : RespectsExclusions model schedule)

include hdomain hfeasible in
theorem Follows.dependencyReady_le (h : Follows model schedule s) {task : OptimizerTask}
    (hready : IsReady model s task) {b : OptimizedAssignment} (hb : b ∈ schedule)
    (hid : task.id = b.taskId) (hreleased : task.releaseTime ≤ b.startTime) :
    dependencyReady task s ≤ b.startTime := by
  apply Optimizer.dependencyReady_le ((hdomain.times task hready.mem).1.trans hreleased)
  intro dep hdep completion hcompletion
  obtain ⟨a, ha, rfl⟩ := h.invariant.mem_scheduled.mp (hready.dependencies dep hdep)
  obtain rfl := Option.some.inj ((h.invariant.completions a ha).symm.trans hcompletion)
  obtain ⟨c, hc, hcId, hends⟩ := h.placed a ha
  obtain ⟨d, hd, hdId, hbefore⟩ := hfeasible.dependencies b hb task hready.mem hid a.taskId hdep
  obtain rfl : c = d := List.inj_on_of_nodup_map hfeasible.unique hc hd (hcId.trans hdId.symm)
  exact hends.trans hbefore

include hexclusions in
theorem Follows.not_mutexBlocked (h : Follows model schedule s) {task : OptimizerTask}
    (hready : IsReady model s task) {b : OptimizedAssignment} (hb : b ∈ schedule)
    (hid : task.id = b.taskId) : mutexBlocked task s = false := by
  simp only [mutexBlocked, List.any_eq_false, decide_eq_true_eq]
  intro other hlists hscheduled
  obtain ⟨a, ha, rfl⟩ := h.invariant.mem_scheduled.mp hscheduled
  obtain ⟨c, hc, hcId, -⟩ := h.placed a ha
  have hne : b.taskId ≠ c.taskId := by
    rw [hcId, ← hid]
    exact fun heq => hready.notScheduled (heq ▸ hscheduled)
  exact hexclusions b hb c hc hne task hready.mem hid (hcId ▸ hlists)

include hdomain hordered huncontended hfeasible hexclusions in
theorem Follows.place (h : Follows model schedule s) {task : OptimizerTask}
    (hready : IsReady model s task) {b : OptimizedAssignment} (hb : b ∈ schedule)
    (hid : task.id = b.taskId) :
    ∃ candidate ∈ candidatesForTask task (ConstraintIndex.build model) s,
      Follows model schedule (s.place task candidate) := by
  obtain ⟨same, hsame, actor, hactor, hsameId, hactorId, hfits⟩ := hfeasible.fits b hb
  obtain rfl := hdomain.unique.task_eq hsame hready.mem (hsameId.trans hid.symm)
  have hnew : ∀ a ∈ s.schedule, a.taskId ≠ same.id := fun a ha heq =>
    hready.notScheduled (h.invariant.mem_scheduled.mpr ⟨a, ha, heq⟩)
  have hfree : hasCapacityForInterval (reservationsOf s.reservations actor.id) actor.capacity
      b.startTime (b.startTime + same.duration) same.demand = true := by
    rw [hasCapacityForInterval_iff]
    intro instant _ _
    rw [h.invariant.reservations, concurrentDemandAt_reservations]
    exact load_add_demand_le hdomain.unique hdomain.demands huncontended h.invariant.feasible
      hready.mem hnew hactor hfits.allows instant
  have hreleased :=
    max_le hfits.released (h.dependencyReady_le hdomain hfeasible hready hb hid hfits.released)
  obtain ⟨start, hstart, hearly⟩ :=
    earliestStart_le (hordered actor hactor) hreleased hfree fun hpositive =>
    hfits.ends ▸ hfits.window hpositive
  have hends : start + same.duration ≤ b.endTime := by
    rw [hfits.ends]
    exact Int.add_le_add_right hearly _
  obtain ⟨candidate, hcandidate, -, -, hcandidateEnds⟩ :=
    exists_candidateOn hfits.demand hfits.capable hstart
    (fun latest hlatest => hearly.trans (hfits.latestStart latest hlatest))
    fun deadline hdeadline => hends.trans (hfits.deadline deadline hdeadline)
  have hmem := mem_candidatesForTask hdomain.unique hready.mem hactor hfits.allows
    (h.not_mutexBlocked hexclusions hready hb hid) hcandidate
  refine ⟨candidate, hmem, h.invariant.place hdomain.unique hready hmem, ?_, h.kept⟩
  intro a ha
  rw [SearchInvariant.schedule_place] at ha
  rcases List.mem_append.mp ha with ha | ha
  · exact h.placed a ha
  · obtain rfl := List.mem_singleton.mp ha
    exact ⟨b, hb, hid.symm, hcandidateEnds ▸ hends⟩

include hdomain hordered huncontended hfeasible hexclusions in
theorem Follows.exists_leaf (h : Follows model schedule s) (hlist : ListSchedule model s) :
    ∃ t, ListSchedule model t ∧ readyTasks model t = [] ∧ Follows model schedule t := by
  induction hsize : undecided model s using Nat.strong_induction_on generalizing s with
  | h size ih =>
    cases hready : readyTasks model s with
    | nil => exact ⟨s, hlist, hready, h⟩
    | cons task rest =>
      have htask : IsReady model s task := isReady_of_mem (hready ▸ List.mem_cons_self)
      have hshrinks := @searchTree_shrinks model (ConstraintIndex.build model) {} s
      by_cases hin : ∃ b ∈ schedule, b.taskId = task.id
      · obtain ⟨b, hb, hid⟩ := hin
        obtain ⟨candidate, hcandidate, hplaced⟩ :=
          h.place hdomain hordered huncontended hfeasible hexclusions htask hb
          hid.symm
        have hless : undecided model (dropDescendantsIfBlocked model (s.place task candidate)) <
            size :=
          hsize ▸ hshrinks _ (step_place hready hcandidate)
        exact ih _ hless (hplaced.dropDescendants hfeasible) (hlist.place hready hcandidate) rfl
      · have hless : undecided model (dropDescendantsIfBlocked model (s.drop task.id)) < size :=
          hsize ▸ hshrinks _ (step_drop rfl hready)
        have hdropped := h.drop htask.mem htask.notScheduled fun b hb hid => hin ⟨b, hb, hid⟩
        exact ih _ hless (hdropped.dropDescendants hfeasible) (hlist.leaveOut hready) rfl

include hdomain hfeasible in
theorem Follows.scheduled (h : Follows model schedule s) (hnone : readyTasks model s = []) :
    ∀ b ∈ schedule, b.taskId ∈ s.scheduled := by
  obtain ⟨rank, hrank⟩ := hdomain.acyclic
  intro b hb
  induction hn : rank b.taskId using Nat.strong_induction_on generalizing b with
  | h n ih =>
    obtain ⟨task, htask, -, -, hid, -⟩ := hfeasible.fits b hb
    have hdependencies : ∀ dep ∈ task.dependencyTaskIds, dep ∈ s.scheduled := by
      intro dep hdep
      obtain ⟨c, hc, rfl, -⟩ := hfeasible.dependencies b hb task htask hid dep hdep
      refine ih (rank c.taskId) ?_ c hc rfl
      rw [← hn, ← hid]
      exact hrank task htask c.taskId hdep
    by_contra hnot
    have hkept := h.kept b hb
    rw [← hid] at hnot hkept
    have hready : task ∈ readyTasks model s :=
      mem_readyTasks_of_isReady
        { mem := htask, notScheduled := hnot, notDropped := hkept, dependencies := hdependencies }
          fun dep hdep hdropped =>
          h.invariant.apart dep hdropped (hdependencies dep hdep)
    rw [hnone] at hready
    exact absurd hready (by simp)

theorem makespan_le {xs ys : List OptimizedAssignment}
    (h : ∀ a ∈ xs, ∃ b ∈ ys, a.endTime ≤ b.endTime) :
    makespan xs ≤ makespan ys := by
  obtain ⟨hzero, hends⟩ :=
    (foldl_max_le_iff OptimizedAssignment.endTime ys 0 (makespan ys)).mp (le_refl _)
  refine (foldl_max_le_iff OptimizedAssignment.endTime xs 0 (makespan ys)).mpr
    ⟨hzero, fun a ha => ?_⟩
  obtain ⟨b, hb, hle⟩ := h a ha
  exact hle.trans (hends b hb)

include hdomain hfeasible in
theorem Follows.scheduleScore_le (h : Follows model schedule s) (hnone : readyTasks model s = []) :
    scheduleScore model options schedule ≤ scheduleScore model options s.schedule := by
  have hperm : (s.schedule.map OptimizedAssignment.taskId).Perm
      (schedule.map OptimizedAssignment.taskId) := by
    rw [List.perm_ext_iff_of_nodup h.invariant.feasible.unique hfeasible.unique]
    intro id
    constructor
    · intro hmem
      obtain ⟨a, ha, rfl⟩ := List.mem_map.mp hmem
      obtain ⟨b, hb, hid, -⟩ := h.placed a ha
      exact hid ▸ List.mem_map_of_mem hb
    · intro hmem
      obtain ⟨b, hb, rfl⟩ := List.mem_map.mp hmem
      exact h.invariant.scheduled.mem_iff.mp (h.scheduled hdomain hfeasible hnone b hb)
  have hlength : schedule.length = s.schedule.length := by
    simpa using hperm.length_eq.symm
  have hpriority : (schedule.map fun a =>
      model.priorityOf a.taskId * options.objective.priorityWeight).sum =
      (s.schedule.map fun a =>
        model.priorityOf a.taskId * options.objective.priorityWeight).sum := by
    have hsum := (hperm.map fun id => model.priorityOf id * options.objective.priorityWeight).sum_eq
    rw [List.map_map, List.map_map] at hsum
    exact hsum.symm
  have hmakespan : makespan s.schedule ≤ makespan schedule := makespan_le fun a ha => by
    obtain ⟨b, hb, -, hends⟩ := h.placed a ha
    exact ⟨b, hb, hends⟩
  rw [scheduleScore, scheduleScore, hlength, hpriority, Prod.Lex.toLex_le_toLex]
  refine Or.inr ⟨rfl, ?_⟩
  rw [Prod.Lex.toLex_le_toLex]
  exact Or.inr ⟨rfl, Int.neg_le_neg hmakespan⟩

end Follow

/-- Where all the tasks that may run on an actor fit on it at once, the solution is a best
schedule. -/
theorem solve_best_of_uncontended (hdomain : SearchDomain model) (hordered : WindowsInOrder model)
    (huncontended : Uncontended model) (hcovered : CutsCovered model options)
    (hpartialPlan : options.allowPartialPlan = true) :
    IsBest model options (solve model (ConstraintIndex.build model) options).assignments := by
  have hok := (solve_ok_iff model (ConstraintIndex.build model) options).mpr
    (haveBest_of_allowPartialPlan hpartialPlan)
  obtain ⟨state, hs, hassignments, -⟩ := solve_state hdomain.unique hok
  refine ⟨hassignments ▸ hs.feasible,
    solve_respectsExclusions hdomain.unique hdomain.listedBack hok, ?_⟩
  intro other hfeasible hexclusions hbeaten
  obtain ⟨leaf, hlist, hnone, hfollows⟩ :=
    ((Follows.root model other).dropDescendants hfeasible).exists_leaf hdomain
    hordered huncontended hfeasible hexclusions .root
  have hle := listSchedule_le_solution hdomain.unique hcovered hpartialPlan hlist hnone
  exact absurd hbeaten (not_lt.mpr ((hfollows.scheduleScore_le hdomain hfeasible hnone).trans hle))

/-- The solution is a best schedule only if some list schedule is, and is one then if every cut
stands for the worth of the remaining tasks. -/
theorem solve_best_iff_listSchedule (model : OptimizationModel) (options : OptimizationOptions)
    (hunique : model.UniqueIds) (hlisted : ExclusionsListedBack model)
    (hpartialPlan : options.allowPartialPlan = true) :
    (IsBest model options (solve model (ConstraintIndex.build model) options).assignments →
      ListScheduleIsBest model options) ∧
    (CutsCovered model options →
      (IsBest model options (solve model (ConstraintIndex.build model) options).assignments ↔
        ListScheduleIsBest model options)) := by
  have hok := (solve_ok_iff model (ConstraintIndex.build model) options).mpr
    (haveBest_of_allowPartialPlan hpartialPlan)
  obtain ⟨leaf, hleaf, hassignments, -⟩ := solve_leaf hok
  have honly : IsBest model options
      (solve model (ConstraintIndex.build model) options).assignments →
      ListScheduleIsBest model options := fun hbest =>
    ⟨_, (isListSchedule_iff hunique).mpr
      ⟨leaf, listSchedule_of_below hleaf.below, noneReady_iff.mp hleaf.noneReady,
        hassignments.symm⟩, hbest⟩
  refine ⟨honly, fun hcovered => ⟨honly, ?_⟩⟩
  rintro ⟨schedule, hlist, hbest⟩
  obtain ⟨state, hstate, hnone, rfl⟩ := (isListSchedule_iff hunique).mp hlist
  refine ⟨hassignments ▸ (SearchInvariant.leaf hunique hleaf).feasible,
    solve_respectsExclusions hunique hlisted hok, ?_⟩
  intro other hfeasible hexclusions hbeaten
  have hle := listSchedule_le_solution hunique hcovered hpartialPlan hstate hnone
  exact hbest.unbeaten other hfeasible hexclusions (lt_of_le_of_lt hle hbeaten)

/-- One task on one actor, worth more than the bound grants. -/
def loneModel : OptimizationModel where
  actors := [{ id := "x", availabilityWindows := [{ start := 2, stop := 9 }] }]
  tasks := [{ id := "a", duration := 3, priority := 2000 }]

theorem lone_covered : CutsCovered loneModel {} := cutsCovered_of_visits (by decide)

theorem lone_best :
    IsBest loneModel {} (solve loneModel (ConstraintIndex.build loneModel) {}).assignments :=
  solve_best_of_uncontended
    ⟨⟨by decide, by decide⟩, by decide,
      ⟨fun _ => 0, by decide⟩, by decide, by decide, by decide, by decide, by decide⟩
    (by decide) (by decide) lone_covered rfl

theorem solve_best_lone :
    CutsCovered loneModel {} ∧ ListScheduleIsBest loneModel {} ∧
      IsBest loneModel {} (solve loneModel (ConstraintIndex.build loneModel) {}).assignments := by
  obtain ⟨honly, hcovered⟩ :=
    solve_best_iff_listSchedule loneModel {} ⟨by decide, by decide⟩ (by decide) rfl
  exact ⟨lone_covered, honly lone_best, (hcovered lone_covered).mpr (honly lone_best)⟩

/-- The task of the higher priority can wait, the other one cannot. -/
def patientModel : OptimizationModel where
  actors := [{ id := "x", availabilityWindows := [{ start := 0, stop := 10 }] }]
  tasks :=
    [{ id := "a", duration := 5, priority := 1 }, { id := "b", duration := 5, deadline := some 5 }]

theorem first_order_misses_best :
    SearchDomain patientModel ∧
      (solve patientModel (ConstraintIndex.build patientModel) {}).assignments =
      [⟨"a", "x", 0, 5⟩] ∧ FeasibleSchedule patientModel [⟨"b", "x", 0, 5⟩, ⟨"a", "x", 5, 10⟩] ∧
      RespectsExclusions patientModel [⟨"b", "x", 0, 5⟩, ⟨"a", "x", 5, 10⟩] ∧
      scheduleScore patientModel {}
      (solve patientModel (ConstraintIndex.build patientModel) {}).assignments <
        scheduleScore patientModel {} [⟨"b", "x", 0, 5⟩, ⟨"a", "x", 5, 10⟩] :=
  ⟨⟨⟨by decide, by decide⟩, by decide,
    ⟨fun _ => 0, by decide⟩, by decide, by decide, by decide, by decide, by decide⟩, by decide, by
    decide, by decide, by decide⟩

end TaskOrchestrator.Optimizer
