import TaskOrchestrator.Library.LinearRows
import TaskOrchestrator.Optimizer.FormulationExactness

/-!
# The MIP backend

The CP-SAT backend adds linear expressions up, term by term. The MIP backend makes rows and sets
one coefficient for each variable, so a row in which an option stands twice keeps the later
coefficient. Here are both models with the makespan variable and the objective, and what each
kind of row comes to for a selection of a built formulation.

`none` as a bound is the solver's infinity, and the variables of the MIP model are the options and
the makespan.
-/

namespace TaskOrchestrator.Optimizer

open Library
open TaskOrchestrator.Core hiding earliestStart

set_option autoImplicit false

def useMakespan (formulation : DiscreteTimeFormulation) (options : OptimizationOptions) : Bool :=
  options.objective.makespanWeight ≠ 0 ∧ formulation.horizonEnd > 0

section CpSat

variable (formulation : DiscreteTimeFormulation) (options : OptimizationOptions)
variable (selection : Nat → Bool)
  (makespan : Int)

/-- The values satisfy all constraints of the CP-SAT model. -/
structure CpSatisfies : Prop where
  constraints : Satisfies formulation selection
  domain : useMakespan formulation options = true → 0 ≤ makespan ∧ makespan ≤ formulation.horizonEnd
  makespanBounds : useMakespan formulation options = true → ∀ decision ∈ formulation.taskDecisions,
    makespan ≥ taskEnd formulation selection decision.taskIndex

def cpObjective : Int :=
  (formulation.options.map fun option =>
    option.objectiveCoefficient * optionValue selection option.optionIndex).sum +
    if useMakespan formulation options then options.objective.makespanWeight * makespan else 0

end CpSat

inductive MPVariable where
  | option (optionIndex : Nat)
  | makespan
  deriving DecidableEq

structure MPConstraint where
  lowerBound : Option Int := none
  upperBound : Option Int := none
  coefficients : Dictionary MPVariable Int := .empty

namespace MPConstraint

def setBounds (constraint : MPConstraint) (lower upper : Option Int) : MPConstraint :=
  { constraint with lowerBound := lower, upperBound := upper }

def setCoefficient (constraint : MPConstraint) (x : MPVariable)
    (coefficient : Int) : MPConstraint :=
  { constraint with coefficients := constraint.coefficients.assign x coefficient }

def Holds (constraint : MPConstraint) (value : MPVariable → Int) : Prop :=
  (∀ lower ∈ constraint.lowerBound, lower ≤ LinearRow.eval value constraint.coefficients) ∧
    ∀ upper ∈ constraint.upperBound, LinearRow.eval value constraint.coefficients ≤ upper

end MPConstraint

def makeRowConstraint (lower upper : Option Int) : MPConstraint :=
  { lowerBound := lower, upperBound := upper }

section Mip

variable (formulation : DiscreteTimeFormulation) (options : OptimizationOptions)

def coefficientAt (coefficientForOption : DiscreteOption → Int) (optionIndex : Nat) : Int :=
  (formulation.options[optionIndex]?.map coefficientForOption).getD 0

def setConstraintCoefficients (constraint : MPConstraint) (optionIndexes : List Nat)
    (coefficientForOption : DiscreteOption → Int) : MPConstraint :=
  optionIndexes.foldl (fun constraint optionIndex =>
    constraint.setCoefficient (.option optionIndex)
      (coefficientAt formulation coefficientForOption optionIndex))
    constraint

def selectionConstraint (decision : DiscreteTaskDecision) : MPConstraint :=
  let row := makeRowConstraint (some 0) (some 1)
  let row := if decision.required then row.setBounds (some 1) (some 1) else row
  setConstraintCoefficients formulation row decision.optionIndexes fun _ => 1

def capacityConstraint (slot : ActorTimeSlotConstraint) : MPConstraint :=
  setConstraintCoefficients formulation (makeRowConstraint none (some slot.capacity))
    slot.optionIndexes DiscreteOption.demand

def decisionOptions (taskIndex : Nat) : List Nat :=
  (formulation.taskDecisions[taskIndex]?.map DiscreteTaskDecision.optionIndexes).getD []

def presenceConstraint (dependency : DependencyConstraint) : MPConstraint :=
  let row := makeRowConstraint none (some 0)
  let row := setConstraintCoefficients formulation row
    (decisionOptions formulation dependency.successorTaskIndex) fun _ => 1
  setConstraintCoefficients formulation row
    (decisionOptions formulation dependency.predecessorTaskIndex) fun _ => -1

def timingConstraint (dependency : DependencyConstraint) : MPConstraint :=
  let bigM := formulation.horizonEnd
  let row := makeRowConstraint (some (-bigM)) none
  let row := setConstraintCoefficients formulation row
    (decisionOptions formulation dependency.successorTaskIndex) fun option =>
      option.startTime - bigM
  setConstraintCoefficients formulation row
    (decisionOptions formulation dependency.predecessorTaskIndex) fun option => -option.endTime

def mutexRow (exclusion : MutualExclusionConstraint) : MPConstraint :=
  let row := makeRowConstraint none (some 1)
  let row := setConstraintCoefficients formulation row
    (decisionOptions formulation exclusion.firstTaskIndex) fun _ => 1
  setConstraintCoefficients formulation row
    (decisionOptions formulation exclusion.secondTaskIndex) fun _ => 1

def makespanConstraint (decision : DiscreteTaskDecision) : MPConstraint :=
  let row := (makeRowConstraint (some 0) none).setCoefficient .makespan 1
  setConstraintCoefficients formulation row decision.optionIndexes fun option => -option.endTime

/-- The rows of the MIP model, in the order in which they are made. -/
def mipConstraints : List MPConstraint :=
  formulation.taskDecisions.map (selectionConstraint formulation) ++
  formulation.actorTimeSlots.map (capacityConstraint formulation) ++
  formulation.dependencies.flatMap (fun dependency =>
    [presenceConstraint formulation dependency, timingConstraint formulation dependency]) ++
  formulation.mutualExclusions.map (mutexRow formulation) ++
  if useMakespan formulation options then
    formulation.taskDecisions.map (makespanConstraint formulation) else []

def mipObjectiveRow : Dictionary MPVariable Int :=
  let row := formulation.options.foldl (fun (row : Dictionary MPVariable Int) option =>
    row.assign (.option option.optionIndex) option.objectiveCoefficient) KeyedRows.empty
  if useMakespan formulation options
    then Dictionary.assign row .makespan options.objective.makespanWeight else row

variable (selection : Nat → Bool) (makespan : Int)

def mipValue : MPVariable → Int
  | .option optionIndex => optionValue selection optionIndex
  | .makespan => makespan

structure MipSatisfies : Prop where
  rows : ∀ row ∈ mipConstraints formulation options, row.Holds (mipValue selection makespan)
  domain : useMakespan formulation options = true → 0 ≤ makespan ∧ makespan ≤ formulation.horizonEnd

def mipObjective : Int :=
  LinearRow.eval (mipValue selection makespan) (mipObjectiveRow formulation options)

end Mip

section Rows

variable {formulation : DiscreteTimeFormulation} {selection : Nat → Bool} {makespan : Int}

variable (formulation selection) in
theorem linearSum_neg (coefficient : DiscreteOption → Int) (optionIndexes : List Nat) :
    linearSum formulation selection (fun option => -coefficient option) optionIndexes =
      -linearSum formulation selection coefficient optionIndexes := by
  induction optionIndexes with
  | nil => rfl
  | cons optionIndex rest ih =>
    simp only [linearSum, List.map_cons, List.sum_cons] at ih ⊢
    rw [ih]
    cases formulation.options[optionIndex]? with
    | none => simp
    | some option =>
      simp only [Option.map_some, Option.getD_some]
      ring

theorem linearSum_sub_const (coefficient : DiscreteOption → Int) (c : Int)
    (optionIndexes : List Nat) :
    linearSum formulation selection (fun option => coefficient option - c) optionIndexes =
      linearSum formulation selection coefficient optionIndexes -
        c * linearSum formulation selection (fun _ => 1) optionIndexes := by
  induction optionIndexes with
  | nil => simp [linearSum]
  | cons optionIndex rest ih =>
    simp only [linearSum, List.map_cons, List.sum_cons] at ih ⊢
    rw [ih]
    cases formulation.options[optionIndex]? with
    | none => simp
    | some option =>
      simp only [Option.map_some, Option.getD_some]
      ring

variable (formulation selection) in
theorem linearSum_nonneg {coefficient : DiscreteOption → Int}
    (hnonneg : ∀ option, 0 ≤ coefficient option) (optionIndexes : List Nat) :
    0 ≤ linearSum formulation selection coefficient optionIndexes := by
  apply List.sum_nonneg
  intro term hterm
  obtain ⟨optionIndex, -, rfl⟩ := List.mem_map.mp hterm
  apply mul_nonneg
  · cases formulation.options[optionIndex]? with
    | none => exact le_refl _
    | some option => exact hnonneg option
  · unfold optionValue
    split_ifs
    · exact Int.zero_le_ofNat 1
    · exact le_refl _

theorem setConstraintCoefficients_eq (constraint : MPConstraint) (optionIndexes : List Nat)
    (coefficient : DiscreteOption → Int) :
    setConstraintCoefficients formulation constraint optionIndexes coefficient =
      { constraint with
        coefficients :=
          LinearRow.setAll constraint.coefficients optionIndexes MPVariable.option
            (coefficientAt formulation coefficient) } := by
  induction optionIndexes generalizing constraint with
  | nil => rfl
  | cons optionIndex rest ih =>
    exact ih (constraint.setCoefficient (.option optionIndex)
      (coefficientAt formulation coefficient optionIndex))

theorem from_iff {bound v : Int} :
    ((∀ lower ∈ some bound, lower ≤ v) ∧ ∀ upper ∈ (none : Option Int), v ≤ upper) ↔ bound ≤ v := by
  simp

theorem upTo_iff {bound v : Int} :
    ((∀ lower ∈ (none : Option Int), lower ≤ v) ∧ ∀ upper ∈ some bound, v ≤ upper) ↔ v ≤ bound := by
  simp

theorem eval_options {row : Dictionary MPVariable Int} {optionIndexes : List Nat}
    (coefficient : DiscreteOption → Int) (hnodup : optionIndexes.Nodup)
    (hnew : ∀ optionIndex ∈ optionIndexes, row.lookup (.option optionIndex) = none) :
    LinearRow.eval (mipValue selection makespan)
        (LinearRow.setAll row optionIndexes MPVariable.option
          (coefficientAt formulation coefficient)) =
      LinearRow.eval (mipValue selection makespan) row +
        linearSum formulation selection coefficient optionIndexes := by
  apply LinearRow.eval_setAll _ _ _ hnew
  apply hnodup.map
  intro i j heq
  exact MPVariable.option.inj heq

theorem eval_single (coefficient : DiscreteOption → Int) {optionIndexes : List Nat}
    (hnodup : optionIndexes.Nodup) :
    LinearRow.eval (mipValue selection makespan)
        (LinearRow.setAll .empty optionIndexes MPVariable.option
          (coefficientAt formulation coefficient)) =
      linearSum formulation selection coefficient optionIndexes := by
  rw [eval_options coefficient hnodup fun _ _ => rfl, LinearRow.eval_empty, Int.zero_add]

theorem eval_disjoint (first second : DiscreteOption → Int) {xs ys : List Nat} (hxs : xs.Nodup)
    (hys : ys.Nodup) (hdisjoint : ∀ optionIndex ∈ ys, optionIndex ∉ xs) :
    LinearRow.eval (mipValue selection makespan)
        (LinearRow.setAll
          (LinearRow.setAll .empty xs MPVariable.option (coefficientAt formulation first)) ys
          MPVariable.option (coefficientAt formulation second)) =
      linearSum formulation selection first xs + linearSum formulation selection second ys := by
  rw [eval_options second hys, eval_single first hxs]
  intro optionIndex hy
  apply LinearRow.lookup_setAll_of_notMem
  intro other hother heq
  exact hdisjoint optionIndex hy (MPVariable.option.inj heq ▸ hother)

end Rows

section Built

variable {model : OptimizationModel} {options : OptimizationOptions} {selection : Nat → Bool}
variable {makespan : Int}

theorem optionIndexes_nodup (p : DiscreteOption → Bool) :
    (((allOptions model (ConstraintIndex.build model) options).filter p).map
      DiscreteOption.optionIndex).Nodup := by
  apply List.Nodup.map_on _ ((allOptions_nodup _).filter _)
  intro x hx y hy heq
  have hx' := getElem_optionIndex (List.mem_filter.mp hx).1
  have hy' := getElem_optionIndex (List.mem_filter.mp hy).1
  rw [heq] at hx'
  exact Option.some.inj (hx'.symm.trans hy')

theorem decisionOptions_eq {i : Nat} {task : OptimizerTask} (htask : model.tasks[i]? = some task) :
    decisionOptions (formulationOf model options) i =
      (taskDecision model (ConstraintIndex.build model) options i task).optionIndexes := by
  have hentry : model.tasks.zipIdx[i]? = some (task, i) := by simp [List.getElem?_zipIdx, htask]
  simp [decisionOptions, buildDiscreteTimeFormulation, List.getElem?_map, hentry]

theorem taskSum_eq_linearSum (coefficient : DiscreteOption → Int) {i : Nat} {task : OptimizerTask}
    (htask : model.tasks[i]? = some task) :
    taskSum (formulationOf model options) selection coefficient i =
      linearSum (formulationOf model options) selection coefficient
        (decisionOptions (formulationOf model options) i) := by
  rw [taskSum_eq selection coefficient htask, decisionOptions_eq htask,
    linearSum_taskDecision selection coefficient i task]

theorem decisionOptions_disjoint {i j : Nat} {task other : OptimizerTask}
    (htask : model.tasks[i]? = some task) (hother : model.tasks[j]? = some other) (hne : i ≠ j) :
    ∀ optionIndex ∈ decisionOptions (formulationOf model options) j,
      optionIndex ∉ decisionOptions (formulationOf model options) i := by
  rw [decisionOptions_eq htask, decisionOptions_eq hother]
  intro optionIndex hj hi
  obtain ⟨x, hx, rfl⟩ := List.mem_map.mp hj
  obtain ⟨y, hy, heq⟩ := List.mem_map.mp hi
  obtain ⟨hx, hxAt⟩ := List.mem_filter.mp hx
  obtain ⟨hy, hyAt⟩ := List.mem_filter.mp hy
  have hsame := getElem_optionIndex hy
  rw [heq, getElem_optionIndex hx] at hsame
  obtain rfl := Option.some.inj hsame
  exact hne ((of_decide_eq_true hyAt).symm.trans (of_decide_eq_true hxAt))

theorem decisionOptions_nodup {i : Nat} {task : OptimizerTask}
    (htask : model.tasks[i]? = some task) :
    (decisionOptions (formulationOf model options) i).Nodup := by
  rw [decisionOptions_eq htask]
  exact optionIndexes_nodup _

theorem eval_tasks (first second : DiscreteOption → Int) {i j : Nat} {task other : OptimizerTask}
    (htask : model.tasks[i]? = some task) (hother : model.tasks[j]? = some other) (hne : i ≠ j) :
    LinearRow.eval (mipValue selection makespan)
        (LinearRow.setAll (LinearRow.setAll .empty (decisionOptions (formulationOf model options) i)
          MPVariable.option (coefficientAt (formulationOf model options) first))
          (decisionOptions (formulationOf model options) j) MPVariable.option
          (coefficientAt (formulationOf model options) second)) =
      taskSum (formulationOf model options) selection first i +
        taskSum (formulationOf model options) selection second j := by
  rw [eval_disjoint first second (decisionOptions_nodup htask) (decisionOptions_nodup hother)
    (decisionOptions_disjoint htask hother hne), taskSum_eq_linearSum first htask,
    taskSum_eq_linearSum second hother]

/-- Where both lists are the options of one task, the second coefficients replace the first. -/
theorem eval_same_task (first second : DiscreteOption → Int) {i : Nat} {task : OptimizerTask}
    (htask : model.tasks[i]? = some task) :
    LinearRow.eval (mipValue selection makespan)
        (LinearRow.setAll (LinearRow.setAll .empty (decisionOptions (formulationOf model options) i)
          MPVariable.option (coefficientAt (formulationOf model options) first))
          (decisionOptions (formulationOf model options) i) MPVariable.option
          (coefficientAt (formulationOf model options) second)) =
      taskSum (formulationOf model options) selection second i := by
  rw [LinearRow.eval_setAll_setAll, eval_single second (decisionOptions_nodup htask),
    taskSum_eq_linearSum second htask]

theorem holds_single (lower upper : Option Int) (coefficient : DiscreteOption → Int)
    {optionIndexes : List Nat} (hnodup : optionIndexes.Nodup)
    {formulation : DiscreteTimeFormulation} :
    (setConstraintCoefficients formulation (makeRowConstraint lower upper) optionIndexes
      coefficient).Holds
        (mipValue selection makespan) ↔
      (∀ bound ∈ lower, bound ≤ linearSum formulation selection coefficient optionIndexes) ∧
        ∀ bound ∈ upper, linearSum formulation selection coefficient optionIndexes ≤ bound := by
  rw [setConstraintCoefficients_eq, MPConstraint.Holds]
  dsimp only [makeRowConstraint]
  rw [eval_single coefficient hnodup]

theorem selectionConstraint_holds (i : Nat) (task : OptimizerTask) :
    (selectionConstraint (formulationOf model options)
      (taskDecision model (ConstraintIndex.build model) options i task)).Holds
        (mipValue selection makespan) ↔
      if (taskDecision model (ConstraintIndex.build model) options i task).required then
        linearSum (formulationOf model options) selection (fun _ => 1)
          (taskDecision model (ConstraintIndex.build model) options i task).optionIndexes = 1
      else linearSum (formulationOf model options) selection (fun _ => 1)
          (taskDecision model (ConstraintIndex.build model) options i task).optionIndexes ≤ 1 := by
  have hnodup :
      (taskDecision model (ConstraintIndex.build model) options i task).optionIndexes.Nodup :=
    optionIndexes_nodup _
  -- 0/1 values make the lower bound of an optional task superfluous
  have hnonneg : 0 ≤ linearSum (formulationOf model options) selection (fun _ => 1)
      (taskDecision model (ConstraintIndex.build model) options i task).optionIndexes :=
    linearSum_nonneg _ _ (fun _ => Int.zero_le_ofNat 1) _
  unfold selectionConstraint
  dsimp only
  split_ifs with hrequired
  · refine (holds_single (some 1) (some 1) (fun _ => 1) hnodup).trans ?_
    simp only [Option.mem_some_iff, forall_eq']
    omega
  · refine (holds_single (some 0) (some 1) (fun _ => 1) hnodup).trans ?_
    simp only [Option.mem_some_iff, forall_eq']
    omega

theorem capacityConstraint_holds {slot : ActorTimeSlotConstraint}
    (hslot : slot ∈ (formulationOf model options).actorTimeSlots) :
    (capacityConstraint (formulationOf model options) slot).Holds (mipValue selection makespan) ↔
      linearSum (formulationOf model options) selection DiscreteOption.demand slot.optionIndexes ≤
        slot.capacity := by
  obtain ⟨actor, -, -, -, -, hindexes⟩ := mem_actorTimeSlots.mp hslot
  have hnodup : slot.optionIndexes.Nodup := by
    rw [hindexes]
    exact optionIndexes_nodup _
  exact (holds_single none (some slot.capacity) DiscreteOption.demand hnodup).trans upTo_iff

section Pair

variable {i j : Nat} {task other : OptimizerTask} (htask : model.tasks[i]? = some task)
  (hother : model.tasks[j]? = some other)

include htask hother in
theorem mutexRow_holds (hne : i ≠ j) :
    (mutexRow (formulationOf model options) ⟨i, j⟩).Holds (mipValue selection makespan) ↔
      taskSelected
      (formulationOf model options) selection i + taskSelected
      (formulationOf model options) selection j ≤ 1 := by
  simp only [mutexRow, setConstraintCoefficients_eq, makeRowConstraint, MPConstraint.Holds,
    eval_tasks (fun _ => 1) (fun _ => 1) htask hother hne]
  exact upTo_iff

include htask hother in
theorem presenceConstraint_holds (hne : i ≠ j) :
    (presenceConstraint (formulationOf model options) ⟨j, i⟩).Holds (mipValue selection makespan) ↔
      taskSelected (formulationOf model options) selection i ≤
        taskSelected (formulationOf model options) selection j := by
  simp only [presenceConstraint, setConstraintCoefficients_eq,
    makeRowConstraint, MPConstraint.Holds, eval_tasks (fun _ => 1) (fun _ => -1) htask hother hne]
  have hneg : taskSum (formulationOf model options) selection (fun _ => -1) j =
      -taskSelected (formulationOf model options) selection j := by
    rw [taskSelected, taskSum_eq_linearSum _ hother, taskSum_eq_linearSum _ hother]
    exact linearSum_neg _ _ (fun _ => 1) _
  rw [hneg, ← taskSelected, upTo_iff]
  omega

include htask hother in
theorem timingConstraint_holds (hne : i ≠ j) :
    (timingConstraint (formulationOf model options) ⟨j, i⟩).Holds (mipValue selection makespan) ↔
      taskStart (formulationOf model options) selection i - taskEnd (formulationOf model options)
        selection j -
          (formulationOf model options).horizonEnd * taskSelected (formulationOf model options)
            selection i ≥
        -(formulationOf model options).horizonEnd := by
  simp only [timingConstraint, setConstraintCoefficients_eq, makeRowConstraint, MPConstraint.Holds,
    eval_tasks (fun option => option.startTime - (formulationOf model options).horizonEnd)
      (fun option => -option.endTime) htask hother hne]
  have hstart : taskSum (formulationOf model options) selection
      (fun option => option.startTime - (formulationOf model options).horizonEnd) i =
        taskStart (formulationOf model options) selection i -
          (formulationOf model options).horizonEnd * taskSelected (formulationOf model options)
            selection i := by
    rw [taskStart, taskSelected, taskSum_eq_linearSum _ htask, taskSum_eq_linearSum _ htask,
      taskSum_eq_linearSum _ htask]
    exact linearSum_sub_const DiscreteOption.startTime _ _
  have hend : taskSum (formulationOf model options) selection (fun option => -option.endTime) j =
      -taskEnd (formulationOf model options) selection j := by
    rw [taskEnd, taskSum_eq_linearSum _ hother, taskSum_eq_linearSum _ hother]
    exact linearSum_neg _ _ DiscreteOption.endTime _
  rw [hstart, hend, from_iff]
  omega

end Pair

theorem presenceConstraint_self {i : Nat} {task : OptimizerTask}
    (htask : model.tasks[i]? = some task) :
    (presenceConstraint (formulationOf model options) ⟨i, i⟩).Holds
    (mipValue selection makespan) := by
  simp only [presenceConstraint, setConstraintCoefficients_eq,
    makeRowConstraint, MPConstraint.Holds, eval_same_task (fun _ => 1) (fun _ => -1) htask]
  rw [upTo_iff, taskSum_eq_linearSum _ htask]
  have hneg := linearSum_neg (formulationOf model options) selection (fun _ => 1)
    (decisionOptions (formulationOf model options) i)
  have hnonneg : 0 ≤ linearSum (formulationOf model options) selection (fun _ => 1)
      (decisionOptions (formulationOf model options) i) :=
    linearSum_nonneg _ _ (fun _ => Int.zero_le_ofNat 1) _
  omega

theorem horizonEnd_nonneg : 0 ≤ (formulationOf model options).horizonEnd :=
  ((foldl_max_le_iff DiscreteOption.endTime _ 0 _).mp (le_refl _)).1

theorem endTime_le_horizonEnd {option : DiscreteOption}
    (hoption : option ∈ allOptions model (ConstraintIndex.build model) options) :
    option.endTime ≤ (formulationOf model options).horizonEnd :=
  ((foldl_max_le_iff DiscreteOption.endTime _ 0 _).mp (le_refl _)).2 option hoption

theorem taskEnd_le_horizonEnd (honce : ChoosesOnce model options selection) {i : Nat}
    {task : OptimizerTask} (htask : model.tasks[i]? = some task) :
    taskEnd (formulationOf model options) selection i ≤
    (formulationOf model options).horizonEnd := by
  rw [taskEnd, taskSum_eq selection _ htask]
  rcases honce.cases i with hnone | ⟨option, hone⟩
  · rw [hnone]
    exact horizonEnd_nonneg
  · have hmem : option ∈ chosenFor model (ConstraintIndex.build model) options selection i := by
      simp [hone]
    have hend :=
      endTime_le_horizonEnd
        (mem_allOptions_of_chosen selection ((mem_chosenFor selection).mp hmem).1)
    rw [hone]
    simpa using hend

/-- So does its timing row: the coefficients of the start are gone. -/
theorem timingConstraint_self (honce : ChoosesOnce model options selection) {i : Nat}
    {task : OptimizerTask} (htask : model.tasks[i]? = some task) :
    (timingConstraint (formulationOf model options)
      ⟨i, i⟩).Holds (mipValue selection makespan) := by
  simp only [timingConstraint, setConstraintCoefficients_eq, makeRowConstraint, MPConstraint.Holds,
    eval_same_task (fun option => option.startTime - (formulationOf model options).horizonEnd)
      (fun option => -option.endTime) htask]
  have hend : taskSum (formulationOf model options) selection (fun option => -option.endTime) i =
      -taskEnd (formulationOf model options) selection i := by
    rw [taskEnd, taskSum_eq_linearSum _ htask, taskSum_eq_linearSum _ htask]
    exact linearSum_neg _ _ DiscreteOption.endTime _
  rw [from_iff, hend]
  have hle := taskEnd_le_horizonEnd honce htask
  omega

theorem makespanConstraint_holds {i : Nat} {task : OptimizerTask}
    (htask : model.tasks[i]? = some task) :
    (makespanConstraint (formulationOf model options)
        (taskDecision model (ConstraintIndex.build model) options i task)).Holds
          (mipValue selection makespan) ↔
      makespan ≥ taskEnd (formulationOf model options) selection i := by
  have hend : linearSum (formulationOf model options) selection (fun option => -option.endTime)
      (taskDecision model (ConstraintIndex.build model) options i task).optionIndexes =
        -taskEnd (formulationOf model options) selection i := by
    rw [taskEnd, taskSum_eq_linearSum _ htask, ← decisionOptions_eq htask]
    exact linearSum_neg _ _ DiscreteOption.endTime _
  have hrow : LinearRow.eval (mipValue selection makespan)
      (Dictionary.assign (.empty : Dictionary MPVariable Int) .makespan 1) = makespan := by
    rw [LinearRow.eval_assign_new _ (Dictionary.lookup_empty _), LinearRow.eval_empty, mipValue]
    omega
  have hnodup : (taskDecision model
      (ConstraintIndex.build model) options i task).optionIndexes.Nodup :=
    optionIndexes_nodup _
  unfold makespanConstraint
  rw [setConstraintCoefficients_eq, MPConstraint.Holds]
  dsimp only [MPConstraint.setCoefficient, makeRowConstraint]
  rw [eval_options _ hnodup, hrow, hend, from_iff]
  · omega
  · intro optionIndex _
    rw [Dictionary.lookup_assign, if_neg (by simp), Dictionary.lookup_empty]

theorem tasks_of_dependency {dependency : DependencyConstraint}
    (h : dependency ∈ (formulationOf model options).dependencies) :
    ∃ task predecessor, model.tasks[dependency.successorTaskIndex]? = some task ∧
      model.tasks[dependency.predecessorTaskIndex]? = some predecessor := by
  obtain ⟨task, htask, dep, -, hposition⟩ := mem_dependencies_iff.mp h
  obtain ⟨predecessor, hpredecessor, -⟩ := task_of_taskIndexOf hposition
  exact ⟨task, predecessor, htask, hpredecessor⟩

theorem tasks_of_exclusion {exclusion : MutualExclusionConstraint}
    (h : exclusion ∈ (formulationOf model options).mutualExclusions) :
    exclusion.firstTaskIndex ≠ exclusion.secondTaskIndex ∧
      ∃ first second, model.tasks[exclusion.firstTaskIndex]? = some first ∧
        model.tasks[exclusion.secondTaskIndex]? = some second := by
  obtain ⟨i, j, task, htask, hne, ⟨id, -, hposition⟩, rfl⟩ := mem_mutualExclusions_iff.mp h
  obtain ⟨other, hother, -⟩ := task_of_taskIndexOf hposition
  have hminmax : min i j ≠ max i j := by omega
  refine ⟨hminmax, ?_⟩
  rcases Nat.le_total i j with hle | hle
  · exact ⟨task, other, by rwa [min_eq_left hle], by rwa [max_eq_right hle]⟩
  · exact ⟨other, task, by rwa [min_eq_right hle], by rwa [max_eq_left hle]⟩

end Built

end TaskOrchestrator.Optimizer
