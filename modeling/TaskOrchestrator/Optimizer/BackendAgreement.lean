import TaskOrchestrator.Optimizer.MipBackend

/-!
# The two solver backends on one formulation

Both backends state the same constraints but for one case: a task that names itself as a
dependency, whose options are the predecessor's and the successor's at once. There the MIP rows
hold always, and the CP-SAT constraint asks that the task ends before it starts.
-/

namespace TaskOrchestrator.Optimizer

open Library
open TaskOrchestrator.Core hiding earliestStart

set_option autoImplicit false

variable {model : OptimizationModel} {options : OptimizationOptions} {selection : Nat → Bool}
variable {makespan : Int}

def withoutSelfDependencies (formulation : DiscreteTimeFormulation) : DiscreteTimeFormulation :=
  { formulation with
    dependencies := formulation.dependencies.filter fun dependency =>
      dependency.predecessorTaskIndex ≠ dependency.successorTaskIndex }

/-- An option of positive length is selected for a task that names itself as a dependency. -/
def SelectsSelfDependent (formulation : DiscreteTimeFormulation) (selection : Nat → Bool) : Prop :=
  ∃ dependency ∈ formulation.dependencies, dependency.predecessorTaskIndex =
    dependency.successorTaskIndex ∧
    ∃ option ∈ formulation.options, option.taskIndex = dependency.successorTaskIndex ∧
      selection option.optionIndex = true ∧ option.startTime < option.endTime

theorem mem_withoutSelfDependencies {formulation : DiscreteTimeFormulation}
    {dependency : DependencyConstraint} :
    dependency ∈ (withoutSelfDependencies formulation).dependencies ↔
      dependency ∈ formulation.dependencies ∧
        dependency.predecessorTaskIndex ≠ dependency.successorTaskIndex := by
  simp [withoutSelfDependencies]

theorem selectionRows_iff :
    (∀ decision ∈ (formulationOf model options).taskDecisions,
      (selectionConstraint (formulationOf model options) decision).Holds
      (mipValue selection makespan)) ↔
        RespectsDecisions (formulationOf model options) selection := by
  apply forall₂_congr
  intro decision hdecision
  obtain ⟨⟨task, i⟩, -, rfl⟩ := List.mem_map.mp hdecision
  exact selectionConstraint_holds i task

theorem makespanRows_iff :
    (∀ decision ∈ (formulationOf model options).taskDecisions,
      (makespanConstraint (formulationOf model options) decision).Holds
      (mipValue selection makespan)) ↔
        ∀ decision ∈ (formulationOf model options).taskDecisions,
          makespan ≥ taskEnd (formulationOf model options) selection decision.taskIndex := by
  apply forall₂_congr
  intro decision hdecision
  obtain ⟨⟨task, i⟩, hentry, rfl⟩ := List.mem_map.mp hdecision
  exact makespanConstraint_holds (List.mem_zipIdx_iff_getElem?.mp hentry)

theorem mutexRows_iff :
    (∀ exclusion ∈ (formulationOf model options).mutualExclusions,
      (mutexRow (formulationOf model options) exclusion).Holds (mipValue selection makespan)) ↔
        ∀ exclusion ∈ (formulationOf model options).mutualExclusions,
          taskSelected (formulationOf model options) selection exclusion.firstTaskIndex +
            taskSelected (formulationOf model options) selection exclusion.secondTaskIndex ≤ 1 := by
  apply forall₂_congr
  intro exclusion hexclusion
  obtain ⟨hne, first, second, hfirst, hsecond⟩ := tasks_of_exclusion hexclusion
  exact mutexRow_holds hfirst hsecond hne

def RespectsDependency (formulation : DiscreteTimeFormulation) (selection : Nat → Bool)
    (dependency : DependencyConstraint) : Prop :=
  taskSelected formulation selection dependency.successorTaskIndex ≤
      taskSelected formulation selection dependency.predecessorTaskIndex ∧
    taskStart formulation selection dependency.successorTaskIndex -
        taskEnd formulation selection dependency.predecessorTaskIndex -
        formulation.horizonEnd * taskSelected formulation selection dependency.successorTaskIndex ≥
      -formulation.horizonEnd

theorem dependencyRows_iff (honce : ChoosesOnce model options selection) :
    (∀ dependency ∈ (formulationOf model options).dependencies,
      (presenceConstraint (formulationOf model options) dependency).Holds
        (mipValue selection makespan) ∧
        (timingConstraint (formulationOf model options) dependency).Holds
        (mipValue selection makespan)) ↔
      ∀ dependency ∈ (withoutSelfDependencies (formulationOf model options)).dependencies,
        RespectsDependency (formulationOf model options) selection dependency := by
  constructor
  · intro h dependency hdependency
    obtain ⟨hmem, hne⟩ := mem_withoutSelfDependencies.mp hdependency
    obtain ⟨task, predecessor, htask, hpredecessor⟩ := tasks_of_dependency hmem
    obtain ⟨hpresence, htiming⟩ := h dependency hmem
    exact ⟨(presenceConstraint_holds htask hpredecessor hne.symm).mp hpresence,
      (timingConstraint_holds htask hpredecessor hne.symm).mp htiming⟩
  · intro h dependency hmem
    obtain ⟨task, predecessor, htask, hpredecessor⟩ := tasks_of_dependency hmem
    by_cases hself : dependency.predecessorTaskIndex = dependency.successorTaskIndex
    · obtain ⟨i, j⟩ := dependency
      obtain rfl : i = j := hself
      exact ⟨presenceConstraint_self htask, timingConstraint_self honce htask⟩
    · obtain ⟨hpresence, htiming⟩ := h dependency (mem_withoutSelfDependencies.mpr ⟨hmem, hself⟩)
      have hne := Ne.symm hself
      exact ⟨(presenceConstraint_holds htask hpredecessor hne).mpr hpresence,
        (timingConstraint_holds htask hpredecessor hne).mpr htiming⟩

/-- The rows of the MIP model are the constraints of the CP-SAT model but for those of tasks that
name themselves, and the bounds on the makespan. -/
theorem mipConstraints_iff :
    (∀ row ∈ mipConstraints (formulationOf model options) options,
      row.Holds (mipValue selection makespan)) ↔
      Satisfies (withoutSelfDependencies (formulationOf model options)) selection ∧
        (useMakespan (formulationOf model options) options = true →
          ∀ decision ∈ (formulationOf model options).taskDecisions,
            makespan ≥ taskEnd (formulationOf model options) selection decision.taskIndex) := by
  simp only [mipConstraints, List.forall_mem_append, List.forall_mem_map, List.forall_mem_flatMap,
    List.forall_mem_cons, List.not_mem_nil, false_implies, implies_true, and_true]
  rw [selectionRows_iff, mutexRows_iff]
  have hslots :=
    forall₂_congr fun slot (hslot : slot ∈ (formulationOf model options).actorTimeSlots) =>
      @capacityConstraint_holds model options selection makespan slot hslot
  have hmakespan : (∀ row ∈ (if useMakespan (formulationOf model options) options then
      (formulationOf model options).taskDecisions.map
        (makespanConstraint (formulationOf model options)) else []),
        row.Holds (mipValue selection makespan)) ↔
          (useMakespan (formulationOf model options) options = true →
            ∀ decision ∈ (formulationOf model options).taskDecisions,
            makespan ≥ taskEnd (formulationOf model options) selection decision.taskIndex) := by
    split_ifs with huse
    · rw [List.forall_mem_map, makespanRows_iff]
      exact ⟨fun h _ => h, fun h => h huse⟩
    · exact ⟨fun _ h => absurd h huse, fun _ row hrow => absurd hrow (by simp)⟩
  rw [hslots, hmakespan]
  constructor
  · rintro ⟨⟨⟨⟨hdecisions, hcapacity⟩, hdependencies⟩, hexclusions⟩, hbounds⟩
    have hkept := (dependencyRows_iff hdecisions.choosesOnce).mp hdependencies
    exact ⟨⟨hdecisions, hcapacity, fun d hd => (hkept d hd).1, fun d hd => (hkept d hd).2,
      hexclusions⟩, hbounds⟩
  · rintro ⟨⟨hdecisions, hcapacity, hpresence, hprecedence, hexclusions⟩, hbounds⟩
    have honce : ChoosesOnce model options selection := RespectsDecisions.choosesOnce hdecisions
    refine ⟨⟨⟨⟨hdecisions, hcapacity⟩, (dependencyRows_iff honce).mpr ?_⟩, hexclusions⟩, hbounds⟩
    intro dependency hdependency
    exact ⟨hpresence dependency hdependency, hprecedence dependency hdependency⟩

theorem respectsDependency_self (honce : ChoosesOnce model options selection) {i : Nat}
    {task : OptimizerTask} (htask : model.tasks[i]? = some task) :
    RespectsDependency (formulationOf model options) selection ⟨i, i⟩ ↔
      ∀ option ∈ (formulationOf model options).options, option.taskIndex = i →
      selection option.optionIndex = true →
        option.endTime ≤ option.startTime := by
  refine (dependency_iff honce htask htask).trans ?_
  have hmem : ∀ option, option ∈ chosenFor model (ConstraintIndex.build model) options selection i ↔
      option ∈ (formulationOf model options).options ∧ option.taskIndex = i ∧
      selection option.optionIndex = true := by
    intro option
    rw [mem_chosenFor, chosen, List.mem_filter]
    exact ⟨fun h => ⟨h.1.1, h.2, h.1.2⟩, fun h => ⟨⟨h.1, h.2.2⟩, h.2.1⟩⟩
  constructor
  · intro h option hoption hat hselected
    have hchosen := (hmem option).mpr ⟨hoption, hat, hselected⟩
    obtain ⟨before, hbefore, hle⟩ := h option hchosen
    rcases honce.cases i with hnone | ⟨only, hone⟩
    · rw [hnone] at hchosen
      exact absurd hchosen (by simp)
    · rw [hone, List.mem_singleton] at hchosen hbefore
      rw [hchosen, ← hbefore] at hle ⊢
      exact hle
  · intro h option hchosen
    obtain ⟨hoption, hat, hselected⟩ := (hmem option).mp hchosen
    exact ⟨option, hchosen, h option hoption hat hselected⟩

theorem satisfies_iff_withoutSelfDependencies :
    Satisfies (formulationOf model options) selection ↔
      Satisfies (withoutSelfDependencies (formulationOf model options)) selection ∧
        ¬ SelectsSelfDependent (formulationOf model options) selection := by
  constructor
  · intro h
    have honce : ChoosesOnce model options selection := RespectsDecisions.choosesOnce h.decisions
    refine ⟨⟨h.decisions, h.slots, ?_, ?_, h.exclusions⟩, ?_⟩
    · intro dependency hdependency
      exact h.presence dependency (mem_withoutSelfDependencies.mp hdependency).1
    · intro dependency hdependency
      exact h.precedence dependency (mem_withoutSelfDependencies.mp hdependency).1
    · rintro ⟨dependency, hmem, hself, option, hoption, hat, hselected, hlong⟩
      obtain ⟨task, -, htask, -⟩ := tasks_of_dependency hmem
      have hrespects := And.intro (h.presence dependency hmem) (h.precedence dependency hmem)
      rw [hself] at hrespects
      have hshort := (respectsDependency_self honce htask).mp hrespects option hoption hat hselected
      exact absurd hlong (not_lt.mpr hshort)
  · rintro ⟨h, hnone⟩
    have honce : ChoosesOnce model options selection := RespectsDecisions.choosesOnce h.decisions
    have hdependencies : ∀ dependency ∈ (formulationOf model options).dependencies,
        RespectsDependency (formulationOf model options) selection dependency := by
      intro dependency hmem
      by_cases hself : dependency.predecessorTaskIndex = dependency.successorTaskIndex
      · obtain ⟨task, -, htask, -⟩ := tasks_of_dependency hmem
        have hshort : ∀ option ∈ (formulationOf model options).options,
            option.taskIndex = dependency.successorTaskIndex → selection option.optionIndex = true →
              option.endTime ≤ option.startTime := by
          intro option hoption hat hselected
          by_contra hlong
          exact hnone ⟨dependency, hmem, hself, option, hoption, hat, hselected, not_le.mp hlong⟩
        have hrespects := (respectsDependency_self honce htask).mpr hshort
        rwa [RespectsDependency, ← hself] at hrespects ⊢
      · have hkept := mem_withoutSelfDependencies.mpr ⟨hmem, hself⟩
        exact ⟨h.presence dependency hkept, h.precedence dependency hkept⟩
    exact ⟨h.decisions, h.slots, fun d hd => (hdependencies d hd).1, fun d hd =>
      (hdependencies d hd).2, h.exclusions⟩

/-- Every option has its variable once, so both objectives are one sum. -/
theorem mipObjective_eq :
    mipObjective (formulationOf model options) options selection makespan =
      cpObjective (formulationOf model options) options selection makespan := by
  have hnodup : ((formulationOf model options).options.map fun option =>
      MPVariable.option option.optionIndex).Nodup := by
    have hindexes :
        ((formulationOf model options).options.map DiscreteOption.optionIndex).Nodup := by
      have hall := @optionIndexes_nodup model options fun _ => true
      rwa [List.filter_true] at hall
    rw [← Function.comp_def MPVariable.option DiscreteOption.optionIndex, ← List.map_map]
    exact hindexes.map fun i j heq => MPVariable.option.inj heq
  have hrow : LinearRow.eval (mipValue selection makespan)
      (LinearRow.setAll .empty (formulationOf model options).options
        (fun option => MPVariable.option option.optionIndex) DiscreteOption.objectiveCoefficient) =
          _ :=
    LinearRow.eval_setAll _ _ hnodup fun _ _ => Dictionary.lookup_empty _
  rw [LinearRow.eval_empty, Int.zero_add] at hrow
  rw [mipObjective, mipObjectiveRow, cpObjective]
  split_ifs with huse
  · rw [LinearRow.eval_assign_new]
    · exact congrArg (· + options.objective.makespanWeight * makespan) hrow
    · exact (LinearRow.lookup_setAll_of_notMem .empty DiscreteOption.objectiveCoefficient
        (fun _ _ => by simp)).trans (Dictionary.lookup_empty _)
  · rw [Int.add_zero]
    exact hrow

variable (model options selection)

def cpValues : Set Int :=
  {value | ∃ makespan, CpSatisfies (formulationOf model options) options selection makespan ∧
    cpObjective (formulationOf model options) options selection makespan = value}

def mipValues : Set Int :=
  {value | ∃ makespan, MipSatisfies (formulationOf model options) options selection makespan ∧
    mipObjective (formulationOf model options) options selection makespan = value}

/-- Both backends accept the selection or neither does, and where they accept it they give it one
best value. -/
structure SameProblem : Prop where
  accepts : (cpValues model options selection).Nonempty ↔
    (mipValues model options selection).Nonempty
  best : (cpValues model options selection).Nonempty →
    ∃ best, IsGreatest (cpValues model options selection) best ∧
    IsGreatest (mipValues model options selection) best

variable {model options selection}

theorem cpSatisfies_iff :
    CpSatisfies (formulationOf model options) options selection makespan ↔
      MipSatisfies (formulationOf model options) options selection makespan ∧
        ¬ SelectsSelfDependent (formulationOf model options) selection := by
  constructor
  · intro h
    obtain ⟨hkept, hnone⟩ := satisfies_iff_withoutSelfDependencies.mp h.constraints
    exact ⟨⟨mipConstraints_iff.mpr ⟨hkept, h.makespanBounds⟩, h.domain⟩, hnone⟩
  · rintro ⟨h, hnone⟩
    obtain ⟨hkept, hbounds⟩ := mipConstraints_iff.mp h.rows
    exact ⟨satisfies_iff_withoutSelfDependencies.mpr ⟨hkept, hnone⟩, h.domain, hbounds⟩

/-- Whatever is selected ends by the horizon, so a makespan is always found. -/
theorem mipValues_nonempty_iff :
    (mipValues model options selection).Nonempty ↔
      Satisfies (withoutSelfDependencies (formulationOf model options)) selection := by
  constructor
  · rintro ⟨_, makespan, h, -⟩
    exact (mipConstraints_iff.mp h.rows).1
  · intro h
    have honce : ChoosesOnce model options selection := RespectsDecisions.choosesOnce h.decisions
    refine ⟨_, (formulationOf model options).horizonEnd, ⟨mipConstraints_iff.mpr ⟨h, ?_⟩, ?_⟩, rfl⟩
    · intro _ decision hdecision
      obtain ⟨⟨task, i⟩, hentry, rfl⟩ := List.mem_map.mp hdecision
      exact taskEnd_le_horizonEnd honce (List.mem_zipIdx_iff_getElem?.mp hentry)
    · intro _
      exact ⟨horizonEnd_nonneg, le_refl _⟩

/-- The makespan is bounded by the horizon, so among the values there is a best one. -/
theorem cpValues_exists_best (h : (cpValues model options selection).Nonempty) :
    ∃ best, IsGreatest (cpValues model options selection) best := by
  have hbounded : ∃ bound, ∀ value, value ∈ cpValues model options selection → value ≤ bound := by
    refine ⟨cpObjective (formulationOf model options) options selection 0 +
      |options.objective.makespanWeight| * (formulationOf model options).horizonEnd, ?_⟩
    rintro _ ⟨makespan, hmakespan, rfl⟩
    have hweight := mul_nonneg (abs_nonneg options.objective.makespanWeight)
      (@horizonEnd_nonneg model options)
    unfold cpObjective
    split_ifs with huse
    · obtain ⟨hfrom, hto⟩ := hmakespan.domain huse
      have hterm : options.objective.makespanWeight * makespan ≤
          |options.objective.makespanWeight| * (formulationOf model options).horizonEnd :=
        (mul_le_mul_of_nonneg_right (le_abs_self _) hfrom).trans
          (mul_le_mul_of_nonneg_left hto (abs_nonneg _))
      omega
    · omega
  obtain ⟨best, hbest, hgreatest⟩ := Int.exists_greatest_of_bdd hbounded h
  exact ⟨best, hbest, fun value hvalue => hgreatest value hvalue⟩

/-- The backends agree on a selection unless it meets all other constraints and gives an option
of positive length to a task that names itself, which the MIP rows let through. -/
theorem backends_agree_iff (model : OptimizationModel) (options : OptimizationOptions)
    (selection : Nat → Bool) :
    SameProblem model options selection ↔
      ¬ (Satisfies (withoutSelfDependencies (formulationOf model options)) selection ∧
        SelectsSelfDependent (formulationOf model options) selection) := by
  constructor
  · rintro hsame ⟨hkept, hself⟩
    obtain ⟨_, makespan, hcp, -⟩ := hsame.accepts.mpr (mipValues_nonempty_iff.mpr hkept)
    exact (cpSatisfies_iff.mp hcp).2 hself
  · intro hcondition
    have hvalues : cpValues model options selection = mipValues model options selection := by
      ext value
      unfold cpValues mipValues
      simp only [Set.mem_ofPred_eq, mipObjective_eq, cpSatisfies_iff]
      constructor
      · rintro ⟨makespan, ⟨hmip, -⟩, hvalue⟩
        exact ⟨makespan, hmip, hvalue⟩
      · rintro ⟨makespan, hmip, hvalue⟩
        refine ⟨makespan, ⟨hmip, fun hself => hcondition ⟨?_, hself⟩⟩, hvalue⟩
        exact (mipConstraints_iff.mp hmip.rows).1
    refine ⟨by rw [hvalues], fun hnonempty => ?_⟩
    obtain ⟨best, hbest⟩ := cpValues_exists_best hnonempty
    exact ⟨best, hbest, hvalues ▸ hbest⟩

/-- A task that names itself, with one option of length one. -/
def loopModel : OptimizationModel where
  actors := [{ id := "x", availabilityWindows := [{ start := 0, stop := 1 }] }]
  tasks := [{ id := "a", duration := 1, dependencyTaskIds := ["a"] }]

theorem self_dependency_divides_backends : ¬ SameProblem loopModel {} (fun _ => true) := by
  intro hsame
  have hkept : Satisfies (withoutSelfDependencies (formulationOf loopModel {})) (fun _ => true) :=
    by decide
  have hrefused : ¬ Satisfies (formulationOf loopModel {}) (fun _ => true) := by decide
  obtain ⟨_, makespan, hcp, -⟩ := hsame.accepts.mpr (mipValues_nonempty_iff.mpr hkept)
  exact hrefused hcp.constraints

end TaskOrchestrator.Optimizer
