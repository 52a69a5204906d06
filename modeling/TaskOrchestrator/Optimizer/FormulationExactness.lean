import TaskOrchestrator.Optimizer.FormulationTerms

/-!
# The formulation encodes the feasible schedules

A selection satisfies the constraints exactly when the options it chooses form a feasible
schedule. One family of constraints corresponds to one requirement on schedules, so the
equivalence is put together from one lemma for each family.
-/

namespace TaskOrchestrator.Optimizer

open Library
open TaskOrchestrator.Core hiding earliestStart

set_option autoImplicit false

/-- The requests that the formulation is meant for: dependencies on tasks of the model, no
negative release or demand, and durations of at least one. -/
structure FormulationDomain (model : OptimizationModel) : Prop where
  unique : model.UniqueIds
  known : ∀ task ∈ model.tasks, ∀ dep ∈ task.dependencyTaskIds, ∃ other ∈ model.tasks,
    other.id = dep
  released : ∀ task ∈ model.tasks, 0 ≤ task.releaseTime
  durations : ∀ task ∈ model.tasks, 1 ≤ task.duration
  demands : ∀ task ∈ model.tasks, 0 ≤ task.demand

def PlacesMandatory (model : OptimizationModel) (options : OptimizationOptions)
    (schedule : List OptimizedAssignment) : Prop :=
  options.allowPartialPlan = false → ∀ task ∈ model.tasks, task.mandatory = true →
    ∃ a ∈ schedule, a.taskId = task.id

structure AcceptedSchedule (model : OptimizationModel) (options : OptimizationOptions)
    (schedule : List OptimizedAssignment) : Prop where
  feasible : FeasibleSchedule model schedule
  exclusions : RespectsExclusions model schedule
  mandatory : PlacesMandatory model options schedule

theorem AcceptedSchedule.perm {model : OptimizationModel} {options : OptimizationOptions}
    {schedule other : List OptimizedAssignment} (h : AcceptedSchedule model options schedule)
    (hperm : schedule.Perm other) : AcceptedSchedule model options other where
  feasible := h.feasible.perm hperm
  exclusions := fun a ha b hb => h.exclusions a (hperm.mem_iff.mpr ha) b (hperm.mem_iff.mpr hb)
  mandatory := by
    intro hpartialPlan task htask hmandatory
    obtain ⟨a, ha, hid⟩ := h.mandatory hpartialPlan task htask hmandatory
    exact ⟨a, hperm.mem_iff.mp ha, hid⟩

/-- The formulation that the backends build for a request. -/
abbrev formulationOf (model : OptimizationModel) (options : OptimizationOptions) :
    DiscreteTimeFormulation :=
  buildDiscreteTimeFormulation model (ConstraintIndex.build model) options

variable {model : OptimizationModel} {options : OptimizationOptions} {selection : Nat → Bool}

theorem position_eq {α β : Type} {key : α → β} {xs : List α} (hnodup : (xs.map key).Nodup)
    {i j : Nat} {x y : α} (hx : xs[i]? = some x) (hy : xs[j]? = some y)
    (hkey : key x = key y) : i = j := by
  have hlt : i < (xs.map key).length := by
    rw [List.length_map]
    exact (List.getElem?_eq_some_iff.mp hx).1
  refine (List.getElem?_inj hlt hnodup).mp ?_
  rw [List.getElem?_map, List.getElem?_map, hx, hy, Option.map_some, Option.map_some, hkey]

theorem task_of_taskIndexOf {id : TaskId} {position : Nat}
    (h : taskIndexOf model id = some position) :
    ∃ task, model.tasks[position]? = some task ∧ task.id = id := by
  obtain ⟨hlt, hid, -⟩ := List.findIdx?_eq_some_iff_getElem.mp h
  exact ⟨model.tasks[position], List.getElem?_eq_getElem hlt, of_decide_eq_true hid⟩

theorem taskIndexOf_eq_some (hnodup : (model.tasks.map OptimizerTask.id).Nodup) {id : TaskId}
    {position : Nat} :
    taskIndexOf model id = some position ↔ ∃ task, model.tasks[position]? = some task ∧
    task.id = id := by
  constructor
  · exact task_of_taskIndexOf
  · rintro ⟨task, htask, rfl⟩
    have hfound := List.findIdx?_eq_some_of_exists
      (p := fun other : OptimizerTask => other.id = task.id) ⟨task, List.mem_of_getElem? htask,
        decide_eq_true rfl⟩
    obtain ⟨hlt, hid, -⟩ := List.findIdx?_eq_some_iff_getElem.mp hfound
    rw [taskIndexOf, hfound, position_eq hnodup (List.getElem?_eq_getElem hlt) htask
      (of_decide_eq_true hid)]

section Schedule

variable (model options selection)

def chosenSchedule : List OptimizedAssignment :=
  (chosen model (ConstraintIndex.build model) options selection).map DiscreteOption.assignment

variable {model options selection}

theorem allOptions_nodup (index : ConstraintIndex) : (allOptions model index options).Nodup := by
  rw [List.nodup_iff_getElem?_ne_getElem?]
  intro i j hij hlt heq
  obtain ⟨option, hoption⟩ : ∃ option, (allOptions model index options)[j]? = some option :=
    ⟨_, List.getElem?_eq_getElem hlt⟩
  have hi := optionIndex_of_getElem (heq.trans hoption)
  have hj := optionIndex_of_getElem hoption
  omega

variable (hunique : model.UniqueIds)

include hunique in
theorem exists_chosenFor_iff {i : Nat} {task : OptimizerTask} (htask : model.tasks[i]? = some task)
    {P : OptimizedAssignment → Prop} :
    (∃ option ∈ chosenFor model (ConstraintIndex.build model) options selection i,
      P option.assignment) ↔
      ∃ a ∈ chosenSchedule model options selection, a.taskId = task.id ∧ P a := by
  constructor
  · rintro ⟨option, hoption, hP⟩
    obtain ⟨hchosen, rfl⟩ := (mem_chosenFor selection).mp hoption
    obtain ⟨owner, actor, hof⟩ :=
      mem_allOptions hunique (mem_allOptions_of_chosen selection hchosen)
    obtain rfl := Option.some.inj (hof.taskAt.symm.trans htask)
    exact ⟨_, List.mem_map_of_mem hchosen, hof.taskId, hP⟩
  · rintro ⟨a, ha, hid, hP⟩
    obtain ⟨option, hchosen, rfl⟩ := List.mem_map.mp ha
    obtain ⟨owner, actor, hof⟩ :=
      mem_allOptions hunique (mem_allOptions_of_chosen selection hchosen)
    have hposition : option.taskIndex = i :=
      position_eq hunique.tasks hof.taskAt htask (hof.taskId.symm.trans hid)
    exact ⟨option, (mem_chosenFor selection).mpr ⟨hchosen, hposition⟩, hP⟩

include hunique in
theorem fits_of_chosen {a : OptimizedAssignment} (ha : a ∈ chosenSchedule model options selection) :
    ∃ task ∈ model.tasks, ∃ actor ∈ model.actors, task.id = a.taskId ∧ actor.id = a.actorId ∧
    Fits task actor a := by
  obtain ⟨option, hchosen, rfl⟩ := List.mem_map.mp ha
  obtain ⟨task, actor, hof⟩ := mem_allOptions hunique (mem_allOptions_of_chosen selection hchosen)
  exact ⟨task, List.mem_of_getElem? hof.taskAt, actor, List.mem_of_getElem? hof.actorAt,
    hof.taskId.symm, hof.actorId.symm, hof.fits⟩

end Schedule

def ChoosesOnce (model : OptimizationModel) (options : OptimizationOptions)
    (selection : Nat → Bool) : Prop :=
  ∀ taskIndex,
    (chosenFor model (ConstraintIndex.build model) options selection taskIndex).length ≤ 1

theorem ChoosesOnce.cases (h : ChoosesOnce model options selection) (taskIndex : Nat) :
    chosenFor model (ConstraintIndex.build model) options selection taskIndex = [] ∨
      ∃ option, chosenFor model (ConstraintIndex.build model) options selection taskIndex =
        [option] := by
  have hlength := h taskIndex
  cases hchosen : chosenFor model (ConstraintIndex.build model) options selection taskIndex with
  | nil => exact Or.inl rfl
  | cons option rest =>
    rw [hchosen, List.length_cons] at hlength
    obtain rfl := List.eq_nil_of_length_eq_zero (by omega : rest.length = 0)
    exact Or.inr ⟨option, rfl⟩

section Families

variable (hunique : model.UniqueIds)

include hunique in
theorem choosesOnce_iff :
    ChoosesOnce model options selection ↔
      ((chosenSchedule model options selection).map OptimizedAssignment.taskId).Nodup := by
  rw [chosenSchedule, List.map_map]
  constructor
  · intro honce
    apply List.Nodup.map_on _ ((allOptions_nodup _).filter _)
    intro x hx y hy hid
    obtain ⟨task, _, hofX⟩ := mem_allOptions hunique (mem_allOptions_of_chosen selection hx)
    obtain ⟨other, _, hofY⟩ := mem_allOptions hunique (mem_allOptions_of_chosen selection hy)
    have hposition : x.taskIndex = y.taskIndex :=
      position_eq hunique.tasks hofX.taskAt hofY.taskAt
        (hofX.taskId.symm.trans (hid.trans hofY.taskId))
    have hxFor := (mem_chosenFor selection).mpr ⟨hx, hposition⟩
    have hyFor := (mem_chosenFor selection).mpr ⟨hy, rfl⟩
    rcases honce.cases y.taskIndex with hnone | ⟨option, hone⟩
    · rw [hnone] at hxFor
      exact absurd hxFor (by simp)
    · rw [hone] at hxFor hyFor
      exact (List.mem_singleton.mp hxFor).trans (List.mem_singleton.mp hyFor).symm
  · intro hnodup taskIndex
    have hsub : ((chosenFor model (ConstraintIndex.build model) options selection taskIndex).map
        (OptimizedAssignment.taskId ∘ DiscreteOption.assignment)).Nodup :=
      hnodup.sublist (List.filter_sublist.map _)
    match hchosen : chosenFor model (ConstraintIndex.build model) options selection taskIndex with
    | [] => simp
    | [option] => simp
    | first :: second :: rest =>
      have hfirst : first ∈ chosenFor model (ConstraintIndex.build model) options selection
          taskIndex := by
        simp [hchosen]
      have hsecond : second ∈ chosenFor model (ConstraintIndex.build model) options selection
          taskIndex := by
        simp [hchosen]
      obtain ⟨hfirst, hfirstAt⟩ := (mem_chosenFor selection).mp hfirst
      obtain ⟨hsecond, hsecondAt⟩ := (mem_chosenFor selection).mp hsecond
      obtain ⟨task, _, hofFirst⟩ :=
        mem_allOptions hunique (mem_allOptions_of_chosen selection hfirst)
      obtain ⟨other, _, hofSecond⟩ :=
        mem_allOptions hunique (mem_allOptions_of_chosen selection hsecond)
      have hsame : task = other := by
        have htask := hofFirst.taskAt
        rw [hfirstAt, ← hsecondAt, hofSecond.taskAt] at htask
        exact (Option.some.inj htask).symm
      rw [hchosen] at hsub
      have hid : first.taskId = second.taskId := by rw [hofFirst.taskId, hofSecond.taskId, hsame]
      simp [DiscreteOption.assignment, hid] at hsub

theorem linearSum_decision (taskIndex : Nat) (task : OptimizerTask) :
    linearSum (formulationOf model options) selection (fun _ => 1)
        (taskDecision model (ConstraintIndex.build model) options taskIndex task).optionIndexes =
      (chosenFor model (ConstraintIndex.build model) options selection taskIndex).length := by
  rw [linearSum_taskDecision]
  simp

include hunique in
theorem assigned_iff_chosenFor {taskIndex : Nat} {task : OptimizerTask}
    (htask : model.tasks[taskIndex]? = some task) :
    (∃ a ∈ chosenSchedule model options selection, a.taskId = task.id) ↔
      0 < (chosenFor model (ConstraintIndex.build model) options selection taskIndex).length := by
  have hiff :=
    @exists_chosenFor_iff model options selection hunique taskIndex task htask fun _ => True
  simp only [and_true] at hiff
  rw [← hiff, List.length_pos_iff_exists_mem]

theorem chosenFor_of_no_task {taskIndex : Nat} (hnone : model.tasks[taskIndex]? = none) :
    chosenFor model (ConstraintIndex.build model) options selection taskIndex = [] := by
  rw [List.eq_nil_iff_forall_not_mem]
  intro option hoption
  obtain ⟨hchosen, rfl⟩ := (mem_chosenFor selection).mp hoption
  obtain ⟨task, htask, -⟩ := task_of_option (mem_allOptions_of_chosen selection hchosen)
  exact absurd (hnone.symm.trans htask) (by simp)

def RespectsDecisions (formulation : DiscreteTimeFormulation) (selection : Nat → Bool) : Prop :=
  ∀ decision ∈ formulation.taskDecisions,
    if decision.required then linearSum formulation selection
    (fun _ => 1) decision.optionIndexes = 1
    else linearSum formulation selection (fun _ => 1) decision.optionIndexes ≤ 1

theorem RespectsDecisions.at (h : RespectsDecisions (formulationOf model options) selection)
    {taskIndex : Nat} {task : OptimizerTask} (htask : model.tasks[taskIndex]? = some task) :
    if (taskDecision model (ConstraintIndex.build model) options taskIndex task).required then
      ((chosenFor model (ConstraintIndex.build model) options selection taskIndex).length : Int) = 1
    else ((chosenFor model (ConstraintIndex.build model) options selection
      taskIndex).length : Int) ≤ 1 := by
  have hlimit := h (taskDecision model (ConstraintIndex.build model) options taskIndex task)
    (List.mem_map.mpr ⟨(task, taskIndex), List.mem_zipIdx_iff_getElem?.mpr htask, rfl⟩)
  rwa [linearSum_decision] at hlimit

theorem RespectsDecisions.choosesOnce
    (h : RespectsDecisions (formulationOf model options) selection) :
    ChoosesOnce model options selection := by
  intro taskIndex
  cases htask : model.tasks[taskIndex]? with
  | none => simp [chosenFor_of_no_task htask]
  | some task =>
    have hlimit := h.at htask
    split_ifs at hlimit
    · omega
    · omega

include hunique in
theorem decisions_iff :
    RespectsDecisions (formulationOf model options) selection ↔
      ChoosesOnce model options selection ∧
        PlacesMandatory model options (chosenSchedule model options selection) := by
  constructor
  · intro h
    refine ⟨h.choosesOnce, ?_⟩
    intro hpartialPlan task htask hmandatory
    obtain ⟨taskIndex, htaskIndex⟩ := List.mem_iff_getElem?.mp htask
    have hlimit := h.at htaskIndex
    have hrequired :
        (taskDecision model (ConstraintIndex.build model) options taskIndex task).required =
        true := by
      simp [taskDecision, hpartialPlan, hmandatory]
    rw [if_pos hrequired] at hlimit
    rw [assigned_iff_chosenFor hunique htaskIndex]
    omega
  · rintro ⟨honce, hmandatory⟩ decision hdecision
    obtain ⟨⟨task, taskIndex⟩, hentry, rfl⟩ := List.mem_map.mp hdecision
    have htask : model.tasks[taskIndex]? = some task := List.mem_zipIdx_iff_getElem?.mp hentry
    have hlimit := honce taskIndex
    dsimp only
    rw [linearSum_decision]
    split_ifs with hrequired
    · simp only [taskDecision, Bool.and_eq_true, Bool.not_eq_true'] at hrequired
      have hplace := hmandatory hrequired.1 task (List.mem_of_getElem? htask) hrequired.2
      have hlength := (assigned_iff_chosenFor hunique htask).mp hplace
      omega
    · omega

theorem mem_dependencies_iff {dependency : DependencyConstraint} :
    dependency ∈ (formulationOf model options).dependencies ↔
      ∃ task, model.tasks[dependency.successorTaskIndex]? = some task ∧
      ∃ dep ∈ task.dependencyTaskIds,
        taskIndexOf model dep = some dependency.predecessorTaskIndex := by
  simp only [buildDiscreteTimeFormulation, List.mem_flatMap, dependenciesOf, List.mem_filterMap,
    Option.map_eq_some_iff]
  constructor
  · rintro ⟨⟨task, taskIndex⟩, hentry, dep, hdep, position, hposition, rfl⟩
    exact ⟨task, List.mem_zipIdx_iff_getElem?.mp hentry, dep, hdep, hposition⟩
  · rintro ⟨task, htask, dep, hdep, hposition⟩
    exact ⟨(task, dependency.successorTaskIndex), List.mem_zipIdx_iff_getElem?.mpr htask, dep, hdep,
      dependency.predecessorTaskIndex, hposition, rfl⟩

include hunique in
theorem mem_dependencies {dependency : DependencyConstraint} :
    dependency ∈ (formulationOf model options).dependencies ↔
      ∃ task predecessor, model.tasks[dependency.successorTaskIndex]? = some task ∧
        model.tasks[dependency.predecessorTaskIndex]? = some predecessor ∧
          predecessor.id ∈ task.dependencyTaskIds := by
  simp only [mem_dependencies_iff, taskIndexOf_eq_some hunique.tasks]
  constructor
  · rintro ⟨task, htask, dep, hdep, predecessor, hpredecessor, rfl⟩
    exact ⟨task, predecessor, htask, hpredecessor, hdep⟩
  · rintro ⟨task, predecessor, htask, hpredecessor, hdep⟩
    exact ⟨task, htask, predecessor.id, hdep, predecessor, hpredecessor, rfl⟩

theorem dependency_iff (honce : ChoosesOnce model options selection) {i j : Nat}
    {task predecessor : OptimizerTask} (htask : model.tasks[i]? = some task)
    (hpredecessor : model.tasks[j]? = some predecessor) :
    (taskSelected (formulationOf model options) selection i ≤
      taskSelected (formulationOf model options) selection j ∧
      taskStart (formulationOf model options) selection i - taskEnd (formulationOf model options)
        selection j -
          (formulationOf model options).horizonEnd * taskSelected (formulationOf model options)
            selection i ≥
        -(formulationOf model options).horizonEnd) ↔
      ∀ option ∈ chosenFor model (ConstraintIndex.build model) options selection i,
        ∃ before ∈ chosenFor model (ConstraintIndex.build model) options selection j,
          before.endTime ≤ option.startTime := by
  obtain ⟨hnonneg, hends⟩ := (foldl_max_le_iff DiscreteOption.endTime
    (allOptions model (ConstraintIndex.build model) options) 0 _).mp (le_refl _)
  have hhorizon : ∀ before ∈ chosenFor model (ConstraintIndex.build model) options selection j,
      before.endTime ≤ (formulationOf model options).horizonEnd := fun before hbefore =>
    hends before (mem_allOptions_of_chosen selection ((mem_chosenFor selection).mp hbefore).1)
  change 0 ≤ (formulationOf model options).horizonEnd at hnonneg
  rw [taskSelected_eq selection htask, taskSelected_eq selection hpredecessor, taskStart, taskEnd,
    taskSum_eq selection _ htask, taskSum_eq selection _ hpredecessor]
  generalize (formulationOf model options).horizonEnd = horizon at hhorizon hnonneg
  rcases honce.cases i with hnone | ⟨option, hone⟩
  · rcases honce.cases j with hfree | ⟨before, hbefore⟩
    · simp [hnone, hfree, hnonneg]
    · have hend := hhorizon before (by simp [hbefore])
      simp [hnone, hbefore, hend]
  · rcases honce.cases j with hfree | ⟨before, hbefore⟩
    · simp [hone, hfree]
    · simp [hone, hbefore]

include hunique in
theorem dependencies_iff (hknown : ∀ task ∈ model.tasks, ∀ dep ∈ task.dependencyTaskIds,
      ∃ other ∈ model.tasks, other.id = dep) (honce : ChoosesOnce model options selection) :
    (∀ dependency ∈ (formulationOf model options).dependencies,
      taskSelected (formulationOf model options) selection dependency.successorTaskIndex ≤
          taskSelected (formulationOf model options) selection dependency.predecessorTaskIndex ∧
        taskStart (formulationOf model options) selection dependency.successorTaskIndex -
            taskEnd (formulationOf model options) selection dependency.predecessorTaskIndex -
            (formulationOf model options).horizonEnd *
              taskSelected (formulationOf model options) selection dependency.successorTaskIndex ≥
          -(formulationOf model options).horizonEnd) ↔
      ∀ a ∈ chosenSchedule model options selection, ∀ task ∈ model.tasks, task.id = a.taskId →
        ∀ dep ∈ task.dependencyTaskIds, ∃ b ∈ chosenSchedule model options selection,
          b.taskId = dep ∧ b.endTime ≤ a.startTime := by
  constructor
  · intro h a ha task htask hid dep hdep
    obtain ⟨predecessor, hpredecessor, rfl⟩ := hknown task htask dep hdep
    obtain ⟨i, hi⟩ := List.mem_iff_getElem?.mp htask
    obtain ⟨j, hj⟩ := List.mem_iff_getElem?.mp hpredecessor
    have hconstraint := h ⟨j, i⟩ ((mem_dependencies hunique).mpr ⟨task, predecessor, hi, hj, hdep⟩)
    obtain ⟨option, hoption, rfl⟩ :=
      (exists_chosenFor_iff hunique hi (P := fun b => b = a)).mpr ⟨a, ha, hid.symm, rfl⟩
    obtain ⟨before, hbefore, hle⟩ := (dependency_iff honce hi hj).mp hconstraint option hoption
    exact (exists_chosenFor_iff hunique hj).mp ⟨before, hbefore, hle⟩
  · intro h dependency hdependency
    obtain ⟨task, predecessor, hi, hj, hdep⟩ := (mem_dependencies hunique).mp hdependency
    rw [dependency_iff honce hi hj]
    intro option hoption
    obtain ⟨a, ha, hid, rfl⟩ :=
      (exists_chosenFor_iff hunique hi (P := fun b => b = option.assignment)).mp
      ⟨option, hoption, rfl⟩
    have hdone := h option.assignment ha task (List.mem_of_getElem? hi) hid.symm predecessor.id hdep
    exact (exists_chosenFor_iff hunique hj (P := fun b => b.endTime ≤ option.startTime)).mpr hdone

/-- An exclusion is a pair of positions, the lower one first. -/
theorem mem_mutualExclusions_iff {exclusion : MutualExclusionConstraint} :
    exclusion ∈ (formulationOf model options).mutualExclusions ↔
      ∃ i j task, model.tasks[i]? = some task ∧ i ≠ j ∧
        (∃ id ∈ task.mutuallyExclusiveTaskIds, taskIndexOf model id = some j) ∧
        exclusion = ⟨min i j, max i j⟩ := by
  have hminmax : ∀ i j : Nat, min i j ≠ max i j ↔ i ≠ j := by
    intro i j
    omega
  simp only [formulationOf, buildDiscreteTimeFormulation, List.mem_eraseDups, List.mem_flatMap,
    mutualExclusionsOf, List.mem_filterMap, Option.bind_eq_some_iff, hminmax]
  constructor
  · rintro ⟨⟨task, i⟩, hentry, id, hid, j, hposition, hpair⟩
    split_ifs at hpair with hne
    exact ⟨i, j, task, List.mem_zipIdx_iff_getElem?.mp hentry, hne, ⟨id, hid, hposition⟩,
      (Option.some.inj hpair).symm⟩
  · rintro ⟨i, j, task, htask, hne, ⟨id, hid, hposition⟩, rfl⟩
    exact ⟨(task, i), List.mem_zipIdx_iff_getElem?.mpr htask, id, hid, j, hposition, if_pos hne⟩

theorem mem_mutualExclusions (hnodup : (model.tasks.map OptimizerTask.id).Nodup)
    {exclusion : MutualExclusionConstraint} :
    exclusion ∈ (formulationOf model options).mutualExclusions ↔
      ∃ i j task other, model.tasks[i]? = some task ∧ model.tasks[j]? = some other ∧ i ≠ j ∧
        other.id ∈ task.mutuallyExclusiveTaskIds ∧ exclusion = ⟨min i j, max i j⟩ := by
  simp only [mem_mutualExclusions_iff, taskIndexOf_eq_some hnodup]
  constructor
  · rintro ⟨i, j, task, htask, hne, ⟨id, hid, other, hother, rfl⟩, rfl⟩
    exact ⟨i, j, task, other, htask, hother, hne, hid, rfl⟩
  · rintro ⟨i, j, task, other, htask, hother, hne, hlists, rfl⟩
    exact ⟨i, j, task, htask, hne, ⟨other.id, hlists, other, hother, rfl⟩, rfl⟩

theorem taskSelected_pair {i j : Nat} {task other : OptimizerTask}
    (htask : model.tasks[i]? = some task) (hother : model.tasks[j]? = some other) :
    taskSelected (formulationOf model options) selection (min i j) +
        taskSelected (formulationOf model options) selection (max i j) =
      (chosenFor model (ConstraintIndex.build model) options selection i).length +
        (chosenFor model (ConstraintIndex.build model) options selection j).length := by
  rcases Nat.le_total i j with hle | hle
  · rw [min_eq_left hle, max_eq_right hle, taskSelected_eq selection htask,
      taskSelected_eq selection hother]
  · rw [min_eq_right hle, max_eq_left hle, taskSelected_eq selection htask,
      taskSelected_eq selection hother]
    exact Int.add_comm _ _

include hunique in
theorem exclusions_iff (honce : ChoosesOnce model options selection) :
    (∀ exclusion ∈ (formulationOf model options).mutualExclusions,
      taskSelected (formulationOf model options) selection exclusion.firstTaskIndex +
        taskSelected (formulationOf model options) selection exclusion.secondTaskIndex ≤ 1) ↔
      RespectsExclusions model (chosenSchedule model options selection) := by
  constructor
  · intro h a ha b hb hne task htask hid hlists
    obtain ⟨other, hother, -, -, hotherId, -, -⟩ := fits_of_chosen hunique hb
    obtain ⟨i, hi⟩ := List.mem_iff_getElem?.mp htask
    obtain ⟨j, hj⟩ := List.mem_iff_getElem?.mp hother
    have hij : i ≠ j := by
      rintro rfl
      obtain rfl := Option.some.inj (hi.symm.trans hj)
      exact hne (hid.symm.trans hotherId)
    have hlimit := h ⟨min i j, max i j⟩ ((mem_mutualExclusions hunique.tasks).mpr
      ⟨i, j, task, other, hi, hj, hij, hotherId ▸ hlists, rfl⟩)
    dsimp only at hlimit
    rw [taskSelected_pair hi hj] at hlimit
    have hfirst := (assigned_iff_chosenFor hunique hi).mp ⟨a, ha, hid.symm⟩
    have hsecond := (assigned_iff_chosenFor hunique hj).mp ⟨b, hb, hotherId.symm⟩
    omega
  · intro h exclusion hexclusion
    obtain ⟨i, j, task, other, hi, hj, hij, hlists, rfl⟩ :=
      (mem_mutualExclusions hunique.tasks).mp hexclusion
    dsimp only
    rw [taskSelected_pair hi hj]
    have hfirst := honce i
    have hsecond := honce j
    by_contra hboth
    -- Both are chosen, which the schedule rules out.
    have htaken : 0 <
        (chosenFor model (ConstraintIndex.build model) options selection i).length := by omega
    have htakenOther : 0 <
        (chosenFor model (ConstraintIndex.build model) options selection j).length := by omega
    obtain ⟨a, ha, haId⟩ := (assigned_iff_chosenFor hunique hi).mpr htaken
    obtain ⟨b, hb, hbId⟩ := (assigned_iff_chosenFor hunique hj).mpr htakenOther
    have hne : a.taskId ≠ b.taskId := by
      rw [haId, hbId]
      exact fun heq => hij (position_eq hunique.tasks hi hj heq)
    exact h a ha b hb hne task (List.mem_of_getElem? hi) haId.symm (hbId ▸ hlists)

include hunique in
theorem load_chosen {actorIndex : Nat} {actor : OptimizerActor}
    (hactor : model.actors[actorIndex]? = some actor) (time : Time) :
    (occupied model).load (runBy actor.id (chosenSchedule model options selection)) time =
      (((chosen model (ConstraintIndex.build model) options selection).filter fun option =>
        TakesSlot actorIndex time option).map DiscreteOption.demand).sum := by
  have hinForce :
      (occupied model).inForce (runBy actor.id (chosenSchedule model options selection)) time =
      ((chosen model (ConstraintIndex.build model) options selection).filter fun option =>
        TakesSlot actorIndex time option).map DiscreteOption.assignment := by
    rw [Weighing.inForce, runBy, chosenSchedule, List.filter_map, List.filter_map,
      List.filter_filter]
    congr 1
    apply List.filter_congr
    intro option hoption
    obtain ⟨_, owner, hof⟩ := mem_allOptions hunique (mem_allOptions_of_chosen selection hoption)
    have hsame : option.actorId = actor.id ↔ option.actorIndex = actorIndex := by
      rw [hof.actorId]
      constructor
      · exact position_eq hunique.actors hof.actorAt hactor
      · rintro rfl
        rw [Option.some.inj (hof.actorAt.symm.trans hactor)]
    simp only [Function.comp, TakesSlot, ← hsame, ← Bool.decide_and]
    rw [decide_eq_decide]
    exact And.comm
  rw [Weighing.load_eq_sum_inForce, hinForce, List.map_map]
  congr 1
  apply List.map_congr_left
  intro option hoption
  obtain ⟨task, _, hof⟩ :=
    mem_allOptions hunique (mem_allOptions_of_chosen selection (List.mem_filter.mp hoption).1)
  change model.demandOf option.taskId = option.demand
  rw [hof.taskId, demandOf_task hunique (List.mem_of_getElem? hof.taskAt), hof.demand]

include hunique in
theorem slots_iff (hdemands : ∀ task ∈ model.tasks, 0 ≤ task.demand) :
    (∀ slot ∈ (formulationOf model options).actorTimeSlots,
      linearSum (formulationOf model options) selection DiscreteOption.demand slot.optionIndexes ≤
      slot.capacity) ↔ ∀ actor ∈ model.actors, (occupied model).Within (fun _ => 0) actor.capacity
        (runBy actor.id (chosenSchedule model options selection)) := by
  constructor
  · intro h actor hactor a ha time hcovers
    obtain ⟨ha, hid⟩ := List.mem_filter.mp ha
    obtain ⟨option, hoption, rfl⟩ := List.mem_map.mp ha
    have hall := mem_allOptions_of_chosen selection hoption
    obtain ⟨_, owner, hof⟩ := mem_allOptions hunique hall
    obtain rfl : owner = actor :=
      hunique.actor_eq (List.mem_of_getElem? hof.actorAt) hactor
        (hof.actorId.symm.trans (of_decide_eq_true hid))
    have htakes : TakesSlot option.actorIndex time option := ⟨rfl, hcovers⟩
    have hslot := h ⟨option.actorIndex, owner.id, time, owner.capacity,
      ((allOptions model (ConstraintIndex.build model) options).filter fun other =>
        TakesSlot option.actorIndex time other).map DiscreteOption.optionIndex⟩
      (mem_actorTimeSlots.mpr ⟨owner, hof.actorAt, rfl, rfl, ⟨option, hall, htakes⟩, rfl⟩)
    rw [linearSum_slot, ← load_chosen hunique hof.actorAt] at hslot
    rw [zero_add]
    exact hslot
  · intro h slot hslot
    obtain ⟨actor, hactor, -, hcapacity, ⟨taken, htaken, htakes⟩, hindexes⟩ :=
      mem_actorTimeSlots.mp hslot
    rw [hindexes, linearSum_slot, hcapacity]
    by_cases hnone : ((chosen model (ConstraintIndex.build model) options selection).filter
      fun option =>
        TakesSlot slot.actorIndex slot.time option) = []
    · -- A slot exists because some option fits the actor, so its capacity is not negative.
      obtain ⟨task, owner, hof⟩ := mem_allOptions hunique htaken
      obtain rfl : owner = actor := Option.some.inj (hof.actorAt.symm.trans (htakes.1 ▸ hactor))
      rw [hnone]
      exact (hdemands task (List.mem_of_getElem? hof.taskAt)).trans hof.fits.demand
    · obtain ⟨option, hoption⟩ := List.exists_mem_of_ne_nil _ hnone
      obtain ⟨hchosen, hcovers⟩ := List.mem_filter.mp hoption
      have hcovers := of_decide_eq_true hcovers
      obtain ⟨_, owner, hof⟩ := mem_allOptions hunique (mem_allOptions_of_chosen selection hchosen)
      obtain rfl : owner = actor := Option.some.inj (hof.actorAt.symm.trans (hcovers.1 ▸ hactor))
      have hrun : option.assignment ∈ runBy owner.id (chosenSchedule model options selection) :=
        List.mem_filter.mpr ⟨List.mem_map_of_mem hchosen, decide_eq_true hof.actorId⟩
      have hwithin :=
        h owner (List.mem_of_getElem? hactor) option.assignment hrun slot.time hcovers.2
      rwa [zero_add, load_chosen hunique hactor] at hwithin

end Families

/-- A selection satisfies the constraints exactly when what it chooses is a schedule that the
options ask for. -/
theorem satisfies_iff (hdomain : FormulationDomain model) :
    Satisfies (formulationOf model options) selection ↔
      AcceptedSchedule model options (chosenSchedule model options selection) := by
  have hunique := hdomain.unique
  constructor
  · intro h
    obtain ⟨honce, hmandatory⟩ := (decisions_iff hunique).mp h.decisions
    refine ⟨⟨(choosesOnce_iff hunique).mp honce, fun a ha => fits_of_chosen hunique ha, ?_, ?_⟩,
      ?_, hmandatory⟩
    · exact (dependencies_iff hunique hdomain.known honce).mp fun dependency hdependency =>
        ⟨h.presence dependency hdependency, h.precedence dependency hdependency⟩
    · exact (slots_iff hunique hdomain.demands).mp h.slots
    · exact (exclusions_iff hunique honce).mp h.exclusions
  · intro h
    have honce := (choosesOnce_iff hunique).mpr h.feasible.unique
    have hdependencies := (dependencies_iff hunique hdomain.known honce).mpr h.feasible.dependencies
    exact ⟨(decisions_iff hunique).mpr ⟨honce, h.mandatory⟩,
      (slots_iff hunique hdomain.demands).mpr h.feasible.capacity, fun dependency hdependency =>
      (hdependencies dependency hdependency).1,
      fun dependency hdependency => (hdependencies dependency hdependency).2,
      (exclusions_iff hunique honce).mpr h.exclusions⟩

/-- The elements at the positions that a test accepts, for elements that know their position. -/
theorem filterMap_range_filter {α : Type} (position : α → Nat) (p : Nat → Bool) (xs : List α)
    (h : ∀ i x, xs[i]? = some x → position x = i) :
    (((List.range xs.length).filter p).filterMap fun i => xs[i]?) = xs.filter fun x =>
      p (position x) := by
  induction xs using List.reverseRecOn with
  | nil => rfl
  | append_singleton rest x ih =>
    have hx : position x = rest.length := h rest.length x (by simp)
    have hrest : ∀ i y, rest[i]? = some y → position y = i := by
      intro i y hy
      refine h i y ?_
      rw [List.getElem?_append_left (List.getElem?_eq_some_iff.mp hy).1]
      exact hy
    have hbefore : (((List.range rest.length).filter p).filterMap fun i => (rest ++ [x])[i]?) =
        ((List.range rest.length).filter p).filterMap fun i => rest[i]? := by
      apply List.filterMap_congr
      intro i hi
      exact List.getElem?_append_left (List.mem_range.mp (List.mem_filter.mp hi).1)
    rw [List.length_append, List.length_singleton, List.range_succ, List.filter_append,
      List.filterMap_append, hbefore, ih hrest, List.filter_append]
    congr 1
    by_cases hp : p rest.length = true
    · simp [hp, hx]
    · simp [hp, hx]

theorem decode_chosen (backendName : String) (stats : OptimizationStats) :
    let solution := decodeSelectedOptions (formulationOf model options)
      (collectSelectedOptionIndexes (formulationOf model options) selection) backendName stats
    solution.assignments.Perm (chosenSchedule model options selection) ∧
      solution.unfulfilledTaskIds = (model.tasks.filter fun task =>
        task.id ∉ (chosenSchedule model options selection).map OptimizedAssignment.taskId).map
          OptimizerTask.id := by
  have hselected :
      ((collectSelectedOptionIndexes (formulationOf model options) selection).filterMap fun i =>
        (formulationOf model options).options[i]?) =
          chosen model (ConstraintIndex.build model) options selection :=
    filterMap_range_filter DiscreteOption.optionIndex selection _ fun _ _ h =>
      optionIndex_of_getElem h
  have hmodel : (formulationOf model options).model = some model := rfl
  simp only [decodeSelectedOptions, hmodel, hselected]
  refine ⟨perm_sortBy _ _, ?_⟩
  rw [chosenSchedule, List.map_map]
  rfl

def selectionFor (model : OptimizationModel) (options : OptimizationOptions)
    (schedule : List OptimizedAssignment) (optionIndex : Nat) : Bool :=
  let all := allOptions model (ConstraintIndex.build model) options
  all[optionIndex]?.any fun option =>
    option.assignment ∈ schedule ∧
      all.findIdx (fun other => other.assignment = option.assignment) = optionIndex

theorem chosenSchedule_selectionFor (hdomain : FormulationDomain model)
    {schedule : List OptimizedAssignment} (h : FeasibleSchedule model schedule) :
    (chosenSchedule model options (selectionFor model options schedule)).Perm schedule := by
  have hmem : ∀ option, option ∈ chosen model (ConstraintIndex.build model) options
      (selectionFor model options schedule) ↔
        option ∈ allOptions model (ConstraintIndex.build model) options ∧
        option.assignment ∈ schedule ∧
          (allOptions model (ConstraintIndex.build model) options).findIdx
            (fun other => other.assignment = option.assignment) = option.optionIndex := by
    intro option
    rw [chosen, List.mem_filter]
    constructor
    · rintro ⟨hall, hselected⟩
      rw [selectionFor, getElem_optionIndex hall] at hselected
      exact ⟨hall, by simpa using hselected⟩
    · rintro ⟨hall, hselected⟩
      rw [selectionFor, getElem_optionIndex hall]
      exact ⟨hall, by simpa using hselected⟩
  rw [List.perm_ext_iff_of_nodup _ (List.Nodup.of_map _ h.unique)]
  · intro a
    rw [chosenSchedule, List.mem_map]
    constructor
    · rintro ⟨option, hoption, rfl⟩
      exact ((hmem option).mp hoption).2.1
    · intro ha
      obtain ⟨task, htask, actor, hactor, htaskId, hactorId, hfits⟩ := h.fits a ha
      obtain ⟨known, hknown, hassignment⟩ :
          ∃ option ∈ allOptions model (ConstraintIndex.build model) options,
            option.assignment = a :=
        exists_option hdomain.unique htask hactor htaskId hactorId hfits
          (hdomain.durations task htask) (hdomain.released task htask)
      have hlt : (allOptions model (ConstraintIndex.build model) options).findIdx
          (fun other => other.assignment = a) <
            (allOptions model (ConstraintIndex.build model) options).length :=
        List.findIdx_lt_length_of_exists ⟨known, hknown, decide_eq_true hassignment⟩
      have hfirst := of_decide_eq_true (List.findIdx_getElem (w := hlt))
      refine ⟨_, (hmem _).mpr ⟨List.getElem_mem hlt, by rwa [hfirst], ?_⟩, hfirst⟩
      rw [hfirst, optionIndex_of_getElem (List.getElem?_eq_getElem hlt)]
  · apply List.Nodup.map_on _ ((allOptions_nodup _).filter _)
    intro x hx y hy heq
    obtain ⟨hxAll, -, hxFirst⟩ := (hmem x).mp hx
    obtain ⟨hyAll, -, hyFirst⟩ := (hmem y).mp hy
    rw [heq, hyFirst] at hxFirst
    have hsame := getElem_optionIndex hxAll
    rw [← hxFirst, getElem_optionIndex hyAll] at hsame
    exact (Option.some.inj hsame).symm

/-- Every selection that satisfies the constraints decodes to a schedule that the options ask
for, and every such schedule is decoded from one. -/
theorem formulation_sound_and_complete (model : OptimizationModel) (options : OptimizationOptions)
    (hdomain : FormulationDomain model) (backendName : String) (stats : OptimizationStats) :
    let decode := fun selection => decodeSelectedOptions (formulationOf model options)
      (collectSelectedOptionIndexes (formulationOf model options) selection) backendName stats
    (∀ selection, Satisfies (formulationOf model options) selection →
      AcceptedSchedule model options (decode selection).assignments ∧
      Partitions model (decode selection)) ∧
    ∀ schedule, AcceptedSchedule model options schedule →
      ∃ selection, Satisfies (formulationOf model options) selection ∧
        (decode selection).assignments.Perm schedule := by
  intro decode
  constructor
  · intro selection h
    have haccepted := (satisfies_iff hdomain).mp h
    obtain ⟨hperm, hunfulfilled⟩ := @decode_chosen model options selection backendName stats
    refine ⟨haccepted.perm hperm.symm, ?_⟩
    rw [Partitions, hunfulfilled]
    refine ((hperm.map _).append_right _).trans
      (haccepted.feasible.partitions hdomain.unique fun id => ?_)
    exact List.mem_map
  · intro schedule h
    have hperm := @chosenSchedule_selectionFor model options hdomain schedule h.feasible
    refine ⟨selectionFor model options schedule, (satisfies_iff hdomain).mpr
      (h.perm hperm.symm), ?_⟩
    exact (decode_chosen backendName stats).1.trans hperm

def relayModel : OptimizationModel where
  actors := [{ id := "x", availabilityWindows := [{ start := 0, stop := 4 }] }]
  tasks := [{ id := "a", duration := 2 }, { id := "b", duration := 1, dependencyTaskIds := ["a"] }]

theorem formulation_relay :
    let selection := fun optionIndex : Nat => decide (optionIndex = 0 ∨ optionIndex = 5)
    let solution := decodeSelectedOptions (formulationOf relayModel {})
      (collectSelectedOptionIndexes (formulationOf relayModel {}) selection) "ortools_cp_sat" {}
    Satisfies (formulationOf relayModel {}) selection ∧
      solution.assignments = [⟨"a", "x", 0, 2⟩, ⟨"b", "x", 2, 3⟩] ∧
      AcceptedSchedule relayModel {} solution.assignments ∧ Partitions relayModel solution := by
  intro selection solution
  have hdomain : FormulationDomain relayModel :=
    ⟨⟨by decide, by decide⟩, by decide, by decide, by decide, by decide⟩
  have hsatisfies : Satisfies (formulationOf relayModel {}) selection := by decide
  exact ⟨hsatisfies, by decide,
    (formulation_sound_and_complete relayModel {} hdomain "ortools_cp_sat" {}).1 selection
    hsatisfies⟩

end TaskOrchestrator.Optimizer
