import TaskOrchestrator.Core.Dependencies
import TaskOrchestrator.Optimizer.FormulationExactness
import TaskOrchestrator.Optimizer.SearchFeasibility

/-!
# Dependencies on tasks that do not exist

A task that lists an id no task has can never be done, and neither can what depends on it. The
runtime scheduler and the exact search wait for a completion that never comes. The formulation
has no constraint for an unknown id, so what its selections choose are the plans of the tasks on
the actors in which such a dependency counts as met.
-/

namespace TaskOrchestrator.Optimizer

open Library
open TaskOrchestrator.Core hiding earliestStart

set_option autoImplicit false

variable {model : OptimizationModel} {index : ConstraintIndex} {options : OptimizationOptions}
variable {selection : Nat → Bool}

/-- The task lists an id of no task, or one all of whose tasks are doomed themselves. -/
inductive Doomed (model : OptimizationModel) : OptimizerTask → Prop where
  | intro {task : OptimizerTask} {dep : TaskId} (hdep : dep ∈ task.dependencyTaskIds)
    (hdoomed : ∀ other ∈ model.tasks, other.id = dep → Doomed model other) : Doomed model task

def ListsUnknown (model : OptimizationModel) (task : OptimizerTask) : Prop :=
  ∃ dep ∈ task.dependencyTaskIds, ∀ other ∈ model.tasks, other.id ≠ dep

theorem ListsUnknown.doomed {task : OptimizerTask} (h : ListsUnknown model task) :
    Doomed model task := by
  obtain ⟨dep, hdep, hunknown⟩ := h
  exact .intro hdep fun other hother hid => absurd hid (hunknown other hother)

theorem undoomed_kept :
    KeptBySearch model index fun s => ∀ id ∈ s.scheduled, ∃ task ∈ model.tasks, task.id = id ∧
    ¬ Doomed model task where
  drop := fun _ _ _ hs _ _ => hs
  place := by
    intro s task candidate _ hs hready id hid
    rcases List.mem_insert_iff.mp hid with rfl | hid
    · refine ⟨task, hready.mem, rfl, ?_⟩
      rintro ⟨hdep, hdoomed⟩
      obtain ⟨other, hother, hotherId, hfine⟩ := hs _ (hready.dependencies _ hdep)
      exact hfine (hdoomed other hother hotherId)
    · exact hs id hid

theorem solve_undoomed {a : OptimizedAssignment}
    (ha : a ∈ (solve model index options).assignments) :
    ∃ task ∈ model.tasks, task.id = a.taskId ∧ ¬ Doomed model task := by
  cases hok : (solve model index options).ok with
  | false =>
    rw [solve_failed hok] at ha
    exact absurd ha (by simp)
  | true =>
    obtain ⟨state, hleaf, hassignments, -⟩ := solve_leaf hok
    rw [hassignments] at ha
    have hscheduled := scheduled_kept.below (by simp [SearchState.schedule, rootState]) hleaf.below
    have hfine := undoomed_kept.below (by simp [rootState]) hleaf.below
    exact hfine a.taskId ((hscheduled a.taskId).mpr ⟨a, ha, rfl⟩)

theorem solve_unfulfilled (hok : (solve model index options).ok = true) {task : OptimizerTask}
    (htask : task ∈ model.tasks)
    (hdoomed : ∀ other ∈ model.tasks, other.id = task.id → Doomed model other) :
    task.id ∈ (solve model index options).unfulfilledTaskIds := by
  obtain ⟨state, hleaf, -, hunfulfilled⟩ := solve_leaf hok
  have hfine := undoomed_kept.below (by simp [rootState]) hleaf.below
  rw [hunfulfilled]
  refine List.mem_map_of_mem (List.mem_filter.mpr ⟨htask, decide_eq_true fun hscheduled => ?_⟩)
  obtain ⟨other, hother, hid, hnot⟩ := hfine task.id hscheduled
  exact hnot (hdoomed other hother hid)

structure Placement where
  taskIndex : Nat
  actorIndex : Nat
  startTime : Time
  deriving DecidableEq

def OptimizationModel.durationAt (model : OptimizationModel) (taskIndex : Nat) : Duration :=
  (model.tasks[taskIndex]?.map OptimizerTask.duration).getD 0

def OptimizationModel.demandAt (model : OptimizationModel) (taskIndex : Nat) : Int :=
  (model.tasks[taskIndex]?.map OptimizerTask.demand).getD 0

namespace Placement

def endTime (model : OptimizationModel) (p : Placement) : Time :=
  p.startTime + model.durationAt p.taskIndex

def Occupies (model : OptimizationModel) (actorIndex : Nat) (time : Time) (p : Placement) : Prop :=
  p.actorIndex = actorIndex ∧ p.startTime ≤ time ∧ time < p.endTime model

instance (model : OptimizationModel) (actorIndex : Nat) (time : Time) (p : Placement) :
    Decidable (p.Occupies model actorIndex time) :=
  inferInstanceAs (Decidable (_ ∧ _))

/-- The task can be on the actor from the time on, as far as the two by themselves are concerned:
the actor is eligible, has the capacity and the capabilities, and the task keeps its times within
one of the windows. An id of an actor stands for the first actor that has it. -/
structure Suits (model : OptimizationModel) (p : Placement) (task : OptimizerTask)
    (actor : OptimizerActor) (window : AvailabilityWindow) : Prop where
  taskAt : model.tasks[p.taskIndex]? = some task
  actorAt : (model.actors.findIdx? fun other => other.id = actor.id) = some p.actorIndex
  eligible : actor ∈ (ConstraintIndex.build model).eligibleActorsForTask task
  demand : task.demand ≤ actor.capacity
  capable : taskCapabilitiesSupported task actor = true
  listed : window ∈ actor.availabilityWindows
  opens : window.start ≤ p.startTime
  released : task.releaseTime ≤ p.startTime
  long : task.duration ≤ window.stop
  closes : p.startTime + task.duration ≤ window.stop
  latestStart : ∀ latest ∈ task.latestStartTime, p.startTime ≤ latest
  deadline : ∀ deadline ∈ task.deadline, p.startTime + task.duration ≤ deadline

def Possible (model : OptimizationModel) (p : Placement) : Prop :=
  ∃ task actor window, p.Suits model task actor window

end Placement

/-- A plan of the tasks on the actors in which dependencies on unknown ids count as met: a task at
most once and a required one for sure, no actor over its capacity at a time at which a task can be
on it, known dependencies before the task and no two exclusive tasks. An id of a task stands for the
first task that has it. -/
structure LenientPlan (model : OptimizationModel) (options : OptimizationOptions)
    (places : List Placement) :
    Prop where
  once : (places.map Placement.taskIndex).Nodup
  possible : ∀ p ∈ places, p.Possible model
  mandatory : options.allowPartialPlan = false → ∀ i task, model.tasks[i]? = some task →
    task.mandatory = true → ∃ p ∈ places, p.taskIndex = i
  capacity : ∀ i actor, model.actors[i]? = some actor → ∀ time,
    (∃ p : Placement, p.Possible model ∧ p.Occupies model i time) →
      ((places.filter fun p => p.Occupies model i time).map fun p =>
        model.demandAt p.taskIndex).sum ≤ actor.capacity
  dependencies : ∀ p ∈ places, ∀ task, model.tasks[p.taskIndex]? = some task →
    ∀ dep ∈ task.dependencyTaskIds, ∀ j, taskIndexOf model dep = some j →
      ∃ before ∈ places, before.taskIndex = j ∧ before.endTime model ≤ p.startTime
  exclusions : ∀ p ∈ places, ∀ task, model.tasks[p.taskIndex]? = some task →
    ∀ id ∈ task.mutuallyExclusiveTaskIds, ∀ j, taskIndexOf model id = some j → p.taskIndex ≠ j →
      ∀ other ∈ places, other.taskIndex ≠ j

/-- A choice of options for which every constraint of the formulation holds, family by family. -/
structure OptionPlan (model : OptimizationModel) (options : OptimizationOptions)
    (places : List DiscreteOption) :
    Prop where
  nodup : places.Nodup
  possible : ∀ place ∈ places, place ∈ (formulationOf model options).options
  once : ∀ i, (places.filter fun place => place.taskIndex = i).length ≤ 1
  mandatory : options.allowPartialPlan = false → ∀ i task, model.tasks[i]? = some task →
    task.mandatory = true → ∃ place ∈ places, place.taskIndex = i
  capacity : ∀ i actor, model.actors[i]? = some actor → ∀ time,
    (∃ place ∈ (formulationOf model options).options, TakesSlot i time place) →
      ((places.filter fun place => TakesSlot i time place).map DiscreteOption.demand).sum ≤
        actor.capacity
  dependencies : ∀ place ∈ places, ∀ task, model.tasks[place.taskIndex]? = some task →
    ∀ dep ∈ task.dependencyTaskIds, ∀ j, taskIndexOf model dep = some j →
      ∃ before ∈ places, before.taskIndex = j ∧ before.endTime ≤ place.startTime
  exclusions : ∀ place ∈ places, ∀ task, model.tasks[place.taskIndex]? = some task →
    ∀ id ∈ task.mutuallyExclusiveTaskIds, ∀ j, taskIndexOf model id = some j → place.taskIndex ≠ j →
      ∀ other ∈ places, other.taskIndex ≠ j

theorem OptionPlan.perm {places others : List DiscreteOption} (h : OptionPlan model options places)
    (hperm : places.Perm others) : OptionPlan model options others where
  nodup := hperm.nodup_iff.mp h.nodup
  possible := fun place hplace => h.possible place (hperm.mem_iff.mpr hplace)
  once := fun i => (hperm.filter _).length_eq ▸ h.once i
  mandatory := by
    intro hpartialPlan i task htask hmandatory
    obtain ⟨place, hplace, hat⟩ := h.mandatory hpartialPlan i task htask hmandatory
    exact ⟨place, hperm.mem_iff.mp hplace, hat⟩
  capacity := by
    intro i actor hactor time htaken
    rw [← ((hperm.filter _).map _).sum_eq]
    exact h.capacity i actor hactor time htaken
  dependencies := by
    intro place hplace task htask dep hdep j hj
    obtain ⟨before, hbefore, hdone⟩ :=
      h.dependencies place (hperm.mem_iff.mpr hplace) task htask dep hdep j hj
    exact ⟨before, hperm.mem_iff.mp hbefore, hdone⟩
  exclusions := by
    intro place hplace task htask id hid j hj hne other hother
    exact h.exclusions place (hperm.mem_iff.mpr hplace) task htask id hid j hj hne other
      (hperm.mem_iff.mpr hother)

section Families

theorem capacity_iff_options :
    (∀ slot ∈ (formulationOf model options).actorTimeSlots,
      linearSum (formulationOf model options) selection DiscreteOption.demand
      slot.optionIndexes ≤ slot.capacity) ↔ ∀ i actor, model.actors[i]? = some actor → ∀ time,
        (∃ place ∈ (formulationOf model options).options, TakesSlot i time place) →
          (((chosen model (ConstraintIndex.build model) options selection).filter fun place =>
            TakesSlot i time place).map DiscreteOption.demand).sum ≤ actor.capacity := by
  constructor
  · intro h i actor hactor time htaken
    have hslot := h ⟨i, actor.id, time, actor.capacity,
      ((allOptions model (ConstraintIndex.build model) options).filter
        fun place => TakesSlot i time place).map DiscreteOption.optionIndex⟩
      (mem_actorTimeSlots.mpr ⟨actor, hactor, rfl, rfl, htaken, rfl⟩)
    rwa [linearSum_slot] at hslot
  · intro h slot hslot
    obtain ⟨actor, hactor, -, hcapacity, htaken, hindexes⟩ := mem_actorTimeSlots.mp hslot
    rw [hindexes, linearSum_slot, hcapacity]
    exact h slot.actorIndex actor hactor slot.time htaken

theorem decisions_iff_options :
    RespectsDecisions (formulationOf model options) selection ↔
      ChoosesOnce model options selection ∧
      (options.allowPartialPlan = false → ∀ i task, model.tasks[i]? = some task →
        task.mandatory = true →
        ∃ place ∈ chosen model (ConstraintIndex.build model) options selection,
          place.taskIndex = i) := by
  have hchosenFor :
    ∀ i, (∃ place ∈ chosen model (ConstraintIndex.build model) options selection,
      place.taskIndex = i) ↔
      0 < (chosenFor model (ConstraintIndex.build model) options selection i).length := by
    intro i
    rw [List.length_pos_iff_exists_mem]
    simp only [mem_chosenFor]
  simp only [hchosenFor]
  constructor
  · intro h
    refine ⟨h.choosesOnce, ?_⟩
    intro hpartialPlan i task htask hmandatory
    have hlimit := h.at htask
    rw [if_pos (by simp [taskDecision, hpartialPlan, hmandatory])] at hlimit
    omega
  · rintro ⟨honce, hmandatory⟩ decision hdecision
    obtain ⟨⟨task, i⟩, hentry, rfl⟩ := List.mem_map.mp hdecision
    have hlimit := honce i
    dsimp only
    rw [linearSum_decision]
    split_ifs with hrequired
    · simp only [taskDecision, Bool.and_eq_true, Bool.not_eq_true'] at hrequired
      have hplaced :=
        hmandatory hrequired.1 i task (List.mem_zipIdx_iff_getElem?.mp hentry) hrequired.2
      omega
    · omega

theorem dependencies_iff_options (honce : ChoosesOnce model options selection) :
    (∀ dependency ∈ (formulationOf model options).dependencies,
      taskSelected (formulationOf model options) selection dependency.successorTaskIndex ≤
          taskSelected (formulationOf model options) selection dependency.predecessorTaskIndex ∧
        taskStart (formulationOf model options) selection dependency.successorTaskIndex -
            taskEnd (formulationOf model options) selection dependency.predecessorTaskIndex -
            (formulationOf model options).horizonEnd *
              taskSelected (formulationOf model options) selection dependency.successorTaskIndex ≥
          -(formulationOf model options).horizonEnd) ↔
      ∀ place ∈ chosen model (ConstraintIndex.build model) options selection, ∀ task,
        model.tasks[place.taskIndex]? = some task → ∀ dep ∈ task.dependencyTaskIds, ∀ j,
          taskIndexOf model dep = some j →
          ∃ before ∈ chosen model (ConstraintIndex.build model) options selection,
            before.taskIndex = j ∧ before.endTime ≤ place.startTime := by
  constructor
  · intro h place hplace task htask dep hdep j hj
    obtain ⟨predecessor, hpredecessor, -⟩ := task_of_taskIndexOf hj
    have hconstraint :=
      h ⟨j, place.taskIndex⟩ (mem_dependencies_iff.mpr ⟨task, htask, dep, hdep, hj⟩)
    obtain ⟨before, hbefore, hle⟩ := (dependency_iff honce htask hpredecessor).mp hconstraint place
      ((mem_chosenFor selection).mpr ⟨hplace, rfl⟩)
    obtain ⟨hchosen, hat⟩ := (mem_chosenFor selection).mp hbefore
    exact ⟨before, hchosen, hat, hle⟩
  · intro h dependency hdependency
    obtain ⟨task, htask, dep, hdep, hj⟩ := mem_dependencies_iff.mp hdependency
    obtain ⟨predecessor, hpredecessor, -⟩ := task_of_taskIndexOf hj
    rw [dependency_iff honce htask hpredecessor]
    intro place hplace
    obtain ⟨hchosen, hat⟩ := (mem_chosenFor selection).mp hplace
    obtain ⟨before, hbefore, hbeforeAt, hle⟩ := h place hchosen task (hat ▸ htask) dep hdep _ hj
    exact ⟨before, (mem_chosenFor selection).mpr ⟨hbefore, hbeforeAt⟩, hle⟩

theorem exclusions_iff_options (honce : ChoosesOnce model options selection) :
    (∀ exclusion ∈ (formulationOf model options).mutualExclusions,
      taskSelected (formulationOf model options) selection exclusion.firstTaskIndex +
        taskSelected (formulationOf model options) selection exclusion.secondTaskIndex ≤ 1) ↔
      ∀ place ∈ chosen model (ConstraintIndex.build model) options selection, ∀ task,
        model.tasks[place.taskIndex]? = some task → ∀ id ∈ task.mutuallyExclusiveTaskIds, ∀ j,
          taskIndexOf model id = some j → place.taskIndex ≠ j →
            ∀ other ∈ chosen model (ConstraintIndex.build model) options selection,
              other.taskIndex ≠ j := by
  constructor
  · intro h place hplace task htask id hid j hj hne other hother hat
    obtain ⟨listed, hlisted, -⟩ := task_of_taskIndexOf hj
    have hlimit := h ⟨min place.taskIndex j, max place.taskIndex j⟩
      (mem_mutualExclusions_iff.mpr ⟨place.taskIndex, j, task, htask, hne, ⟨id, hid, hj⟩, rfl⟩)
    dsimp only at hlimit
    rw [taskSelected_pair htask hlisted] at hlimit
    have hfirst := List.length_pos_of_mem ((mem_chosenFor selection).mpr ⟨hplace, rfl⟩)
    have hsecond := List.length_pos_of_mem ((mem_chosenFor selection).mpr ⟨hother, hat⟩)
    omega
  · intro h exclusion hexclusion
    obtain ⟨i, j, task, htask, hne, ⟨id, hid, hj⟩, rfl⟩ := mem_mutualExclusions_iff.mp hexclusion
    obtain ⟨listed, hlisted, -⟩ := task_of_taskIndexOf hj
    dsimp only
    rw [taskSelected_pair htask hlisted]
    rcases honce.cases i with hnone | ⟨place, hone⟩
    · have hsecond := honce j
      rw [hnone, List.length_nil]
      omega
    · -- With a place for the first task there is none for the other.
      obtain ⟨hplace, hat⟩ := (mem_chosenFor selection).mp (hone ▸ List.mem_cons_self)
      have hfree : chosenFor model (ConstraintIndex.build model) options selection j = [] := by
        rw [List.eq_nil_iff_forall_not_mem]
        intro other hother
        obtain ⟨hchosen, hotherAt⟩ := (mem_chosenFor selection).mp hother
        exact h place hplace task (hat ▸ htask) id hid j hj (hat ▸ hne) other hchosen hotherAt
      have hfirst := honce i
      rw [hfree, List.length_nil]
      omega

end Families

theorem satisfies_iff_optionPlan :
    Satisfies (formulationOf model options) selection ↔
      OptionPlan model options (chosen model (ConstraintIndex.build model) options selection) := by
  constructor
  · intro h
    obtain ⟨honce, hmandatory⟩ := decisions_iff_options.mp h.decisions
    exact
      { nodup := (allOptions_nodup _).filter _
        possible := fun place hplace => mem_allOptions_of_chosen selection hplace
        once := honce
        mandatory := hmandatory
        capacity := capacity_iff_options.mp h.slots
        dependencies := (dependencies_iff_options honce).mp fun dependency hdependency =>
          ⟨h.presence dependency hdependency, h.precedence dependency hdependency⟩
        exclusions := (exclusions_iff_options honce).mp h.exclusions }
  · intro h
    have honce : ChoosesOnce model options selection := h.once
    have hdependencies := (dependencies_iff_options honce).mpr h.dependencies
    exact
      { decisions := decisions_iff_options.mpr ⟨honce, h.mandatory⟩
        slots := capacity_iff_options.mpr h.capacity
        presence := fun dependency hdependency => (hdependencies dependency hdependency).1
        precedence := fun dependency hdependency => (hdependencies dependency hdependency).2
        exclusions := (exclusions_iff_options honce).mpr h.exclusions }

theorem OptionPlan.exists_selection {places : List DiscreteOption}
    (h : OptionPlan model options places) :
    ∃ selection, Satisfies (formulationOf model options) selection ∧
      places.Perm (chosen model (ConstraintIndex.build model) options selection) := by
  have hperm : places.Perm (chosen model (ConstraintIndex.build model) options fun optionIndex =>
      optionIndex ∈ places.map DiscreteOption.optionIndex) := by
    rw [chosen, List.perm_ext_iff_of_nodup h.nodup ((allOptions_nodup _).filter _)]
    intro place
    simp only [List.mem_filter, decide_eq_true_eq, List.mem_map]
    constructor
    · intro hplace
      exact ⟨h.possible place hplace, place, hplace, rfl⟩
    · rintro ⟨hoption, same, hsame, hindex⟩
      have hat := getElem_optionIndex (h.possible same hsame)
      rw [hindex, getElem_optionIndex hoption] at hat
      exact Option.some.inj hat ▸ hsame
  exact ⟨_, satisfies_iff_optionPlan.mpr (h.perm hperm), hperm⟩

def DiscreteOption.placement (option : DiscreteOption) : Placement where
  taskIndex := option.taskIndex
  actorIndex := option.actorIndex
  startTime := option.startTime

theorem option_suits {option : DiscreteOption}
    (h : option ∈ (formulationOf model options).options) :
    ∃ task actor window, option.placement.Suits model task actor window ∧
      option.endTime = option.startTime + task.duration ∧ option.demand = task.demand := by
  obtain ⟨position, hlt, rfl⟩ := List.mem_mapIdx.mp h
  obtain ⟨entry, hentry, hraw⟩ := List.mem_flatMap.mp (List.getElem_mem hlt)
  obtain ⟨actor, heligible, hactorOptions⟩ := List.mem_flatMap.mp hraw
  unfold actorOptions at hactorOptions
  split_ifs at hactorOptions with hunfit
  · exact absurd hactorOptions (by simp)
  · rw [not_or, Bool.not_eq_false] at hunfit
    split at hactorOptions
    · exact absurd hactorOptions (by simp)
    · rename_i actorIndex hposition
      obtain ⟨window, hwindow, hoption⟩ := List.mem_flatMap.mp hactorOptions
      obtain ⟨htaskIndex, hactorIndex, -, -, hdemand, hends, hstart, hrelease, hlast⟩ :=
        mem_windowOptions hoption
      obtain ⟨hlong, hstop, hlatest, hdeadline⟩ := le_latestFeasibleStart.mp hlast
      refine ⟨entry.1, actor, window, ?_, hends, hdemand⟩
      exact
        { taskAt := htaskIndex ▸ List.mem_zipIdx_iff_getElem?.mp hentry
          actorAt := hactorIndex ▸ hposition
          eligible := heligible
          demand := not_lt.mp hunfit.1
          capable := hunfit.2
          listed := hwindow
          opens := hstart
          released := hrelease
          long := hlong
          closes := hstop
          latestStart := hlatest
          deadline := hdeadline }

theorem exists_option_of_possible {p : Placement} (h : p.Possible model) :
    ∃ option ∈ (formulationOf model options).options, option.placement = p := by
  obtain ⟨task, actor, window, hsuits⟩ := h
  have hfit : ¬(task.demand > actor.capacity ∨ taskCapabilitiesSupported task actor = false) := by
    rw [not_or, Bool.not_eq_false]
    exact ⟨not_lt.mpr hsuits.demand, hsuits.capable⟩
  obtain ⟨last, hlast, hbefore⟩ := le_latestFeasibleStart.mpr
    ⟨hsuits.long, hsuits.closes, hsuits.latestStart, hsuits.deadline⟩
  have hlast' : latestFeasibleStart task window = some last := hlast
  have hrange : p.startTime ∈ Int.range (max window.start task.releaseTime) (last + 1) :=
    Int.mem_range_iff.mpr ⟨max_le hsuits.opens hsuits.released, Int.lt_add_one_of_le hbefore⟩
  obtain ⟨raw, hraw, hplacement⟩ :
      ∃ raw ∈ windowOptions options p.taskIndex task p.actorIndex actor window,
      raw.placement = p := by
    simp only [windowOptions, hlast']
    exact ⟨_, List.mem_map_of_mem hrange, rfl⟩
  have hactor : raw ∈ actorOptions model options p.taskIndex task actor := by
    rw [actorOptions, if_neg hfit, hsuits.actorAt]
    exact List.mem_flatMap.mpr ⟨window, hsuits.listed, hraw⟩
  have hmem : raw ∈ model.tasks.zipIdx.flatMap fun entry =>
      taskOptions model (ConstraintIndex.build model) options entry.2 entry.1 :=
    List.mem_flatMap.mpr ⟨(task, p.taskIndex), List.mem_zipIdx_iff_getElem?.mpr hsuits.taskAt,
      List.mem_flatMap.mpr ⟨actor, hsuits.eligible, hactor⟩⟩
  obtain ⟨position, hlt, rfl⟩ := List.mem_iff_getElem.mp hmem
  exact ⟨_, List.mem_mapIdx.mpr ⟨position, hlt, rfl⟩, hplacement⟩

section Placements

variable {option : DiscreteOption} (h : option ∈ (formulationOf model options).options)

include h in
theorem possible_placement : option.placement.Possible model := by
  obtain ⟨task, actor, window, hsuits, -⟩ := option_suits h
  exact ⟨task, actor, window, hsuits⟩

include h in
theorem endTime_placement : option.placement.endTime model = option.endTime := by
  obtain ⟨task, actor, window, hsuits, hends, -⟩ := option_suits h
  rw [Placement.endTime, OptimizationModel.durationAt, hsuits.taskAt, hends]
  rfl

include h in
theorem demandAt_placement : model.demandAt option.placement.taskIndex = option.demand := by
  obtain ⟨task, actor, window, hsuits, -, hdemand⟩ := option_suits h
  rw [OptimizationModel.demandAt, hsuits.taskAt, hdemand]
  rfl

include h in
theorem occupies_placement (actorIndex : Nat) (time : Time) :
    option.placement.Occupies model actorIndex time ↔ TakesSlot actorIndex time option := by
  rw [Placement.Occupies, endTime_placement h]
  rfl

end Placements

theorem exists_occupies_iff (actorIndex : Nat) (time : Time) :
    (∃ p : Placement, p.Possible model ∧ p.Occupies model actorIndex time) ↔
      ∃ option ∈ (formulationOf model options).options, TakesSlot actorIndex time option := by
  constructor
  · rintro ⟨p, hpossible, hoccupies⟩
    obtain ⟨option, hoption, rfl⟩ := @exists_option_of_possible _ options _ hpossible
    exact ⟨option, hoption, (occupies_placement hoption actorIndex time).mp hoccupies⟩
  · rintro ⟨option, hoption, htakes⟩
    exact ⟨option.placement, possible_placement hoption,
      (occupies_placement hoption actorIndex time).mpr htakes⟩

/-- A task has at most one of the options when their positions are different. -/
theorem nodup_taskIndex_iff {places : List DiscreteOption} :
    (places.map DiscreteOption.taskIndex).Nodup ↔
      places.Nodup ∧ ∀ i, (places.filter fun place => place.taskIndex = i).length ≤ 1 := by
  have hcount : ∀ i, (places.map DiscreteOption.taskIndex).count i =
      (places.filter fun place => place.taskIndex = i).length := by
    intro i
    rw [List.count, List.countP_map, List.countP_eq_length_filter]
    congr 1
  rw [List.nodup_iff_count_le_one]
  simp only [hcount]
  constructor
  · intro honce
    refine ⟨List.Nodup.of_map DiscreteOption.taskIndex
      (List.nodup_iff_count_le_one.mpr fun i => ?_), honce⟩
    rw [hcount]
    exact honce i
  · exact And.right

theorem optionPlan_iff_lenientPlan {places : List DiscreteOption}
    (hoptions : ∀ place ∈ places, place ∈ (formulationOf model options).options) :
    OptionPlan model options places ↔
      LenientPlan model options (places.map DiscreteOption.placement) := by
  have hpositions : (places.map DiscreteOption.placement).map Placement.taskIndex =
      places.map DiscreteOption.taskIndex := by
    rw [List.map_map]
    rfl
  have hload : ∀ i time,
      (((places.map DiscreteOption.placement).filter fun p => p.Occupies model i time).map
        fun p => model.demandAt p.taskIndex).sum =
        ((places.filter fun place => TakesSlot i time place).map DiscreteOption.demand).sum := by
    intro i time
    rw [List.filter_map, List.map_map]
    have hfilter : places.filter
        ((fun p : Placement => decide (p.Occupies model i time)) ∘ DiscreteOption.placement) =
        places.filter fun place => TakesSlot i time place :=
      List.filter_congr fun place hplace =>
        decide_eq_decide.mpr (occupies_placement (hoptions place hplace) i time)
    rw [hfilter]
    refine congrArg List.sum (List.map_congr_left fun place hplace => ?_)
    exact demandAt_placement (hoptions place (List.mem_filter.mp hplace).1)
  constructor
  · intro h
    refine ⟨?_, ?_, ?_, ?_, ?_, ?_⟩
    · rw [hpositions]
      exact nodup_taskIndex_iff.mpr ⟨h.nodup, h.once⟩
    · intro p hp
      obtain ⟨place, hplace, rfl⟩ := List.mem_map.mp hp
      exact possible_placement (hoptions place hplace)
    · intro hpartialPlan i task htask hmandatory
      obtain ⟨place, hplace, hat⟩ := h.mandatory hpartialPlan i task htask hmandatory
      exact ⟨place.placement, List.mem_map_of_mem hplace, hat⟩
    · intro i actor hactor time htaken
      rw [hload]
      exact h.capacity i actor hactor time ((exists_occupies_iff i time).mp htaken)
    · intro p hp task htask dep hdep j hj
      obtain ⟨place, hplace, rfl⟩ := List.mem_map.mp hp
      obtain ⟨before, hbefore, hat, hends⟩ := h.dependencies place hplace task htask dep hdep j hj
      refine ⟨before.placement, List.mem_map_of_mem hbefore, hat, ?_⟩
      rwa [endTime_placement (hoptions before hbefore)]
    · intro p hp task htask id hid j hj hne other hother
      obtain ⟨place, hplace, rfl⟩ := List.mem_map.mp hp
      obtain ⟨otherPlace, hotherPlace, rfl⟩ := List.mem_map.mp hother
      exact h.exclusions place hplace task htask id hid j hj hne otherPlace hotherPlace
  · intro h
    have honce := nodup_taskIndex_iff.mp (hpositions ▸ h.once)
    refine ⟨honce.1, hoptions, honce.2, ?_, ?_, ?_, ?_⟩
    · intro hpartialPlan i task htask hmandatory
      obtain ⟨p, hp, hat⟩ := h.mandatory hpartialPlan i task htask hmandatory
      obtain ⟨place, hplace, rfl⟩ := List.mem_map.mp hp
      exact ⟨place, hplace, hat⟩
    · intro i actor hactor time htaken
      rw [← hload]
      exact h.capacity i actor hactor time ((exists_occupies_iff i time).mpr htaken)
    · intro place hplace task htask dep hdep j hj
      obtain ⟨p, hp, hat, hends⟩ :=
        h.dependencies place.placement (List.mem_map_of_mem hplace) task htask dep hdep j hj
      obtain ⟨before, hbefore, rfl⟩ := List.mem_map.mp hp
      rw [endTime_placement (hoptions before hbefore)] at hends
      exact ⟨before, hbefore, hat, hends⟩
    · intro place hplace task htask id hid j hj hne other hother
      exact h.exclusions place.placement (List.mem_map_of_mem hplace) task htask id hid j hj hne
        other.placement (List.mem_map_of_mem hother)

theorem LenientPlan.exists_selection {places : List Placement}
    (h : LenientPlan model options places) :
    ∃ selection, Satisfies (formulationOf model options) selection ∧
      ∀ p ∈ places, ∃ place ∈ chosen model (ConstraintIndex.build model) options selection,
        place.placement = p := by
  obtain ⟨chosenOptions, hoptions, rfl⟩ : ∃ chosenOptions : List DiscreteOption,
      (∀ place ∈ chosenOptions, place ∈ (formulationOf model options).options) ∧
        chosenOptions.map DiscreteOption.placement = places := by
    have hpossible := h.possible
    clear h
    induction places with
    | nil => exact ⟨[], by simp, rfl⟩
    | cons p rest ih =>
      obtain ⟨option, hoption, rfl⟩ :=
        @exists_option_of_possible _ options _ (hpossible p List.mem_cons_self)
      obtain ⟨others, hothers, rfl⟩ := ih fun q hq => hpossible q (List.mem_cons_of_mem _ hq)
      exact ⟨option :: others, by simpa using ⟨hoption, hothers⟩, rfl⟩
  obtain ⟨selection, hsatisfies, hperm⟩ :=
    ((optionPlan_iff_lenientPlan hoptions).mpr h).exists_selection
  refine ⟨selection, hsatisfies, fun p hp => ?_⟩
  obtain ⟨place, hplace, rfl⟩ := List.mem_map.mp hp
  exact ⟨place, hperm.mem_iff.mp hplace, rfl⟩

theorem lenientPlan_of_satisfies (h : Satisfies (formulationOf model options) selection) :
    LenientPlan model options
      ((chosen model (ConstraintIndex.build model) options selection).map
        DiscreteOption.placement) :=
  (optionPlan_iff_lenientPlan fun _ hplace => mem_allOptions_of_chosen selection hplace).mp
    (satisfies_iff_optionPlan.mp h)

theorem LenientPlan.lists_unknown {places : List Placement} (h : LenientPlan model options places)
    {task : OptimizerTask} (hdoomed : Doomed model task) {place : Placement}
    (hplace : place ∈ places) (htask : model.tasks[place.taskIndex]? = some task) :
    ∃ other ∈ places, ∃ owner, model.tasks[other.taskIndex]? = some owner ∧
    ListsUnknown model owner := by
  induction hdoomed generalizing place with
  | @intro task dep hdep hdoomed ih =>
    cases hj : taskIndexOf model dep with
    | none =>
      refine ⟨place, hplace, task, htask, dep, hdep, fun other hother hid => ?_⟩
      exact absurd (decide_eq_true hid)
        (by simpa using List.findIdx?_eq_none_iff.mp hj other hother)
    | some j =>
      obtain ⟨predecessor, hpredecessor, hid⟩ := task_of_taskIndexOf hj
      obtain ⟨before, hbefore, rfl, -⟩ := h.dependencies place hplace task htask dep hdep j hj
      exact ih predecessor (List.mem_of_getElem? hpredecessor) hid hbefore hpredecessor

def FormulationRefuses (model : OptimizationModel) (options : OptimizationOptions) : Prop :=
  ∀ selection, Satisfies (formulationOf model options) selection →
    ∀ option ∈ (formulationOf model options).options, selection option.optionIndex = true →
      ∀ task, model.tasks[option.taskIndex]? = some task → ¬ Doomed model task

/-- What the engines owe to tasks that can never be done: the runtime scheduler on its own input,
the exact search and the formulation on a request. -/
structure NeverPlanned (hash : IterationOrder) (workflow : Workflow) (state : WorkflowState)
    (registry : ActorRegistry) (now : Time) (strategy : Option SchedulingStrategy)
    (rankingProfile : Option ActorRankingProfile) (model : OptimizationModel)
    (options : OptimizationOptions) : Prop where
  scheduler : ∀ a ∈ (plan hash workflow state registry now strategy rankingProfile).assignments,
    ∀ process ∈ workflow.processForTask a.taskId, ∀ dep ∈ process.dependencyTaskIds,
      Accounted state
      (plan hash workflow state registry now strategy rankingProfile).assignments dep
  exactSearch : ∀ a ∈ (solve model (ConstraintIndex.build model) options).assignments,
    ∃ task ∈ model.tasks, task.id = a.taskId ∧ ¬ Doomed model task
  unfulfilled : (solve model (ConstraintIndex.build model) options).ok = true →
    ∀ task ∈ model.tasks, (∀ other ∈ model.tasks, other.id = task.id → Doomed model other) →
      task.id ∈ (solve model (ConstraintIndex.build model) options).unfulfilledTaskIds
  formulation : FormulationRefuses model options

/-- The formulation lets a doomed task through exactly when some plan of the tasks on the actors
that takes unknown dependencies as met has a task that lists one; the other engines never do. -/
theorem never_planned_iff (hash : IterationOrder) (workflow : Workflow) (state : WorkflowState)
    (registry : ActorRegistry) (now : Time) (strategy : Option SchedulingStrategy)
    (rankingProfile : Option ActorRankingProfile) (model : OptimizationModel)
    (options : OptimizationOptions) :
    NeverPlanned hash workflow state registry now strategy rankingProfile model options ↔
      ∀ places, LenientPlan model options places → ∀ place ∈ places, ∀ task,
        model.tasks[place.taskIndex]? = some task → ¬ ListsUnknown model task := by
  constructor
  · intro h places hplaces place hplace task htask hunknown
    obtain ⟨selection, hsatisfies, hchosen⟩ := hplaces.exists_selection
    obtain ⟨option, hoption, rfl⟩ := hchosen place hplace
    obtain ⟨hmem, hselected⟩ := List.mem_filter.mp hoption
    exact h.formulation selection hsatisfies option hmem hselected task htask hunknown.doomed
  · intro h
    refine ⟨fun a ha => plan_accounted ha, fun a ha => solve_undoomed ha,
      fun hok task htask hdoomed => solve_unfulfilled hok htask hdoomed, ?_⟩
    intro selection hsatisfies option hoption hselected task htask hdoomed
    have hplan := lenientPlan_of_satisfies hsatisfies
    have hchosen : option.placement ∈
        (chosen model (ConstraintIndex.build model) options selection).map
          DiscreteOption.placement :=
      List.mem_map_of_mem (List.mem_filter.mpr ⟨hoption, hselected⟩)
    obtain ⟨other, hother, owner, howner, hunknown⟩ := hplan.lists_unknown hdoomed hchosen htask
    exact h _ hplan other hother owner howner hunknown

def danglingModel : OptimizationModel where
  actors := [{ id := "x", availabilityWindows := [{ start := 0, stop := 1 }] }]
  tasks := [{ id := "a", duration := 1, dependencyTaskIds := ["ghost"] }]

theorem dangling_task_selected :
    ¬ NeverPlanned insertionOrder {} {} {} 0 none none danglingModel {} := by
  intro h
  have hsatisfies : Satisfies (formulationOf danglingModel {}) (fun _ => true) := by decide
  have hoptions : (formulationOf danglingModel {}).options.length = 1 := by decide
  have hdoomed :
      Doomed danglingModel { id := "a", duration := 1, dependencyTaskIds := ["ghost"] } :=
    ListsUnknown.doomed ⟨"ghost", by decide, by decide⟩
  obtain ⟨option, hoption⟩ := List.length_eq_one_iff.mp hoptions
  have hmem : option ∈ (formulationOf danglingModel {}).options := hoption ▸ List.mem_cons_self
  obtain ⟨task, htask, -⟩ := task_of_option hmem
  have hall : ∀ task ∈ danglingModel.tasks, Doomed danglingModel task := by
    intro task htask
    obtain rfl := List.mem_singleton.mp htask
    exact hdoomed
  exact h.formulation _ hsatisfies option hmem rfl task htask
    (hall task (List.mem_of_getElem? htask))

end TaskOrchestrator.Optimizer
