import TaskOrchestrator.Optimizer.SearchFeasibility
import Mathlib.Data.Int.ConditionallyCompleteOrder
import Mathlib.Order.ConditionallyCompleteLattice.Basic

/-!
# What the indexed exact search is exact for

The search tries one order of the tasks only, and one start on each actor. What it can reach
are the list schedules of that order. Over these it is exact, as long as every cut stands when the
tasks that remain are counted for what they are worth.
-/

namespace TaskOrchestrator.Optimizer

open Library
open TaskOrchestrator.Core hiding earliestStart earliestStart_sound

set_option autoImplicit false

variable {model : OptimizationModel} {index : ConstraintIndex} {options : OptimizationOptions}

def ObjectiveScore.lex (score : ObjectiveScore) : Nat ×ₗ Int ×ₗ Int :=
  toLex (score.fulfilled, toLex (score.totalPriority, -score.makespan))

theorem lex_le_iff {lhs rhs : ObjectiveScore} :
    lhs.lex ≤ rhs.lex ↔ lhs.fulfilled < rhs.fulfilled ∨ lhs.fulfilled = rhs.fulfilled ∧
      (lhs.totalPriority < rhs.totalPriority ∨
        lhs.totalPriority = rhs.totalPriority ∧ -lhs.makespan ≤ -rhs.makespan) := by
  simp only [ObjectiveScore.lex, Prod.Lex.toLex_le_toLex]

theorem betterScore_iff {lhs rhs : ObjectiveScore} :
    betterScore lhs rhs = true ↔ rhs.lex < lhs.lex := by
  simp only [betterScore, ObjectiveScore.lex, Prod.Lex.toLex_lt_toLex, decide_eq_true_eq, gt_iff_lt]
  rw [eq_comm, @eq_comm _ lhs.totalPriority]

theorem not_betterScore_iff {lhs rhs : ObjectiveScore} :
    betterScore lhs rhs = false ↔ lhs.lex ≤ rhs.lex := by
  rw [← Bool.not_eq_true, betterScore_iff, not_lt]

theorem foldl_add_eq_sum {α : Type} (f : α → Int) (xs : List α) (first : Int) :
    xs.foldl (fun running x => running + f x) first = first + (xs.map f).sum := by
  induction xs generalizing first with
  | nil => simp
  | cons x rest ih =>
    rw [List.foldl_cons, ih, List.map_cons, List.sum_cons]
    omega

theorem lex_scoreFor {state : SearchState} (hs : SearchInvariant model state) :
    (scoreFor state options).lex = scheduleScore model options state.schedule := by
  have hpriority : (scoreFor state options).totalPriority =
      (state.schedule.map fun a =>
        model.priorityOf a.taskId * options.objective.priorityWeight).sum := by
    simp only [scoreFor, SearchState.schedule, foldl_add_eq_sum, List.map_map, zero_add]
    congr 1
    apply List.map_congr_left
    intro a ha
    rw [hs.priorities a ha]
    rfl
  have hmakespan : (scoreFor state options).makespan = makespan state.schedule := by
    simp only [scoreFor, makespan, SearchState.schedule, List.foldl_map]
  have hcount : (scoreFor state options).fulfilled = state.schedule.length := by
    simp [scoreFor, SearchState.schedule]
  rw [ObjectiveScore.lex, scheduleScore, hpriority, hmakespan, hcount]

/-- The tasks that are neither scheduled nor dropped. -/
def remainingTasks (model : OptimizationModel) (s : SearchState) : List OptimizerTask :=
  model.tasks.filter fun task => ¬ IsDecided s task.id

def worthOf (options : OptimizationOptions) (tasks : List OptimizerTask) : Int :=
  (tasks.map fun task => task.priority * options.objective.priorityWeight).sum

/-- The optimistic score of a node with each remaining task counted for its own worth. -/
def worthScore (model : OptimizationModel) (options : OptimizationOptions) (s : SearchState) :
    ObjectiveScore :=
  { optimisticScore model options s with
    totalPriority := (scoreFor s options).totalPriority + worthOf options (remainingTasks model s) }

/-- The decided tasks are tasks of the model, each there once, and the scheduled ones are
assigned. -/
structure Tally (model : OptimizationModel) (s : SearchState) : Prop where
  scheduled : s.scheduled.length = s.assignments.length
  once : (s.scheduled ++ s.dropped).Nodup
  known : s.scheduled ++ s.dropped ⊆ model.tasks.map OptimizerTask.id

theorem Tally.root (model : OptimizationModel) :
    Tally model (rootState model) := ⟨rfl, List.nodup_nil, List.nil_subset _⟩

theorem Tally.kept (model : OptimizationModel) (index : ConstraintIndex) :
    KeptBySearch model index (Tally model) where
  drop := by
    intro s task htask hs hscheduled hdropped
    have hperm : (s.scheduled ++ (task.id :: s.dropped)).Perm
        (task.id :: (s.scheduled ++ s.dropped)) :=
      List.perm_middle
    have hnew : task.id ∉ s.scheduled ++ s.dropped := by simp [hscheduled, hdropped]
    have hdrop : (s.drop task.id).dropped = task.id :: s.dropped := List.insert_of_not_mem hdropped
    refine ⟨hs.scheduled, ?_, ?_⟩
    · rw [hdrop]
      exact hperm.nodup_iff.mpr (List.nodup_cons.mpr ⟨hnew, hs.once⟩)
    · rw [hdrop]
      exact List.Subset.trans hperm.subset
        (List.cons_subset.mpr ⟨List.mem_map_of_mem htask, hs.known⟩)
  place := by
    intro s task candidate _ hs hready
    have hnew : task.id ∉ s.scheduled ++ s.dropped := by
      simp [hready.notScheduled, hready.notDropped]
    have hplace : (s.place task candidate).scheduled = task.id :: s.scheduled :=
      List.insert_of_not_mem hready.notScheduled
    refine ⟨?_, ?_, ?_⟩
    · have hscheduled := hs.scheduled
      rw [hplace, List.length_cons]
      simp only [SearchState.place, List.length_append, List.length_singleton]
      omega
    · rw [hplace]
      exact List.nodup_cons.mpr ⟨hnew, hs.once⟩
    · rw [hplace]
      exact List.cons_subset.mpr ⟨List.mem_map_of_mem hready.mem, hs.known⟩

/-- The decided tasks and the remaining ones are not more than there are tasks. -/
theorem Tally.remaining_le {s : SearchState} (hs : Tally model s) :
    s.assignments.length + s.dropped.length + (remainingTasks model s).length ≤
      model.tasks.length := by
  have hdecided : (s.scheduled ++ s.dropped) ⊆
      (model.tasks.filter fun task => IsDecided s task.id).map OptimizerTask.id := by
    intro id hid
    obtain ⟨task, htask, rfl⟩ := List.mem_map.mp (hs.known hid)
    exact List.mem_map_of_mem (List.mem_filter.mpr ⟨htask, decide_eq_true (List.mem_append.mp hid)⟩)
  have hle := (List.subperm_of_subset hs.once hdecided).length_le
  rw [List.length_append, List.length_map, hs.scheduled] at hle
  have hsplit := List.length_eq_length_filter_add (l := model.tasks) fun task =>
    decide (IsDecided s task.id)
  have hrest : (remainingTasks model s).length =
      (model.tasks.filter fun task => !decide (IsDecided s task.id)).length := by
        simp [remainingTasks]
  omega

/-- The tasks that were scheduled on the way from the state `s` to one below it, the last first. -/
structure Continues (model : OptimizationModel) (options : OptimizationOptions) (s : SearchState)
    (placed : List OptimizerTask) (u : SearchState) : Prop where
  tally : Tally model u
  decided : ∀ id, IsDecided s id → IsDecided u id
  known : ∀ task ∈ placed, task ∈ model.tasks ∧ ¬ IsDecided s task.id ∧ task.id ∈ u.scheduled
  once : placed.Nodup
  longer : u.assignments.length = s.assignments.length + placed.length
  priority : (scoreFor u options).totalPriority =
    (scoreFor s options).totalPriority + worthOf options placed
  makespan : (scoreFor s options).makespan ≤ (scoreFor u options).makespan

theorem Continues.refl {s : SearchState} (hs : Tally model s) : Continues model options s [] s where
  tally := hs
  decided := fun _ hid => hid
  known := by simp
  once := List.nodup_nil
  longer := rfl
  priority := by simp [worthOf]
  makespan := le_refl _

theorem Continues.kept (options : OptimizationOptions) (index : ConstraintIndex) (s : SearchState) :
    KeptBySearch model index fun u => ∃ placed, Continues model options s placed u where
  drop := by
    rintro u task htask ⟨placed, hu⟩ hscheduled hdropped
    exact ⟨placed,
      { hu with
        tally := (Tally.kept model index).drop u task htask hu.tally hscheduled hdropped
        decided := fun id hid => isDecided_drop.mpr (Or.inr (hu.decided id hid)) }⟩
  place := by
    rintro u task candidate hcandidate ⟨placed, hu⟩ hready
    have hscheduled : (u.place task candidate).scheduled = u.scheduled.insert task.id := rfl
    refine ⟨task :: placed, ?_⟩
    constructor
    · exact (Tally.kept model index).place u task candidate hcandidate hu.tally hready
    · exact fun id hid => isDecided_place.mpr (Or.inr (hu.decided id hid))
    · intro other hother
      rw [hscheduled, List.mem_insert_iff]
      rcases List.mem_cons.mp hother with rfl | hother
      · exact ⟨hready.mem, fun hs =>
          not_or.mpr ⟨hready.notScheduled, hready.notDropped⟩ (hu.decided _ hs), Or.inl rfl⟩
      · obtain ⟨hmem, hopen, hin⟩ := hu.known other hother
        exact ⟨hmem, hopen, Or.inr hin⟩
    · exact List.nodup_cons.mpr ⟨fun hin => hready.notScheduled (hu.known task hin).2.2, hu.once⟩
    · have hlonger := hu.longer
      simp only [SearchState.place, List.length_append, List.length_cons, List.length_nil]
      omega
    · have hscore : (scoreFor (u.place task candidate) options).totalPriority =
          (scoreFor u options).totalPriority + task.priority *
          options.objective.priorityWeight := by
        simp [scoreFor, SearchState.place]
      rw [hscore, hu.priority, worthOf, worthOf, List.map_cons, List.sum_cons]
      omega
    · have hmakespan : (scoreFor (u.place task candidate) options).makespan =
          max (scoreFor u options).makespan candidate.endTime := by
        simp [scoreFor, SearchState.place]
      rw [hmakespan]
      exact hu.makespan.trans (le_max_left _ _)

theorem Continues.subperm {s u : SearchState} {placed : List OptimizerTask}
    (hu : Continues model options s placed u) : placed.Subperm (remainingTasks model s) := by
  apply List.subperm_of_subset hu.once
  intro task htask
  obtain ⟨hmem, hopen, -⟩ := hu.known task htask
  exact List.mem_filter.mpr ⟨hmem, by simpa using hopen⟩

/-- No state below a node scores better than the node with its remaining tasks all scheduled at
once. -/
theorem lex_le_worthScore {s u : SearchState} {placed : List OptimizerTask} (hs : Tally model s)
    (hu : Continues model options s placed u) :
    (scoreFor u options).lex ≤ (worthScore model options s).lex := by
  have hall := hs.remaining_le
  have hplaced := hu.subperm.length_le
  have hscheduled := hs.scheduled
  have hlonger := hu.longer
  have hremaining : remainingPossible model s =
      model.tasks.length - s.assignments.length - s.dropped.length := by
    rw [remainingPossible, hscheduled]
  rw [lex_le_iff]
  change u.assignments.length < s.assignments.length + remainingPossible model s ∨
    u.assignments.length = s.assignments.length + remainingPossible model s ∧ _
  rcases Nat.lt_or_ge u.assignments.length
    (s.assignments.length + remainingPossible model s) with hless | hsame
  · exact Or.inl hless
  · -- All that remained is scheduled, so its worth is what the score has on top.
    have hcount : u.assignments.length = s.assignments.length + remainingPossible model s := by
      omega
    have hperm : placed.Perm (remainingTasks model s) := hu.subperm.perm_of_length_le (by omega)
    have hworth : worthOf options placed = worthOf options (remainingTasks model s) :=
      (hperm.map fun task : OptimizerTask =>
        task.priority * options.objective.priorityWeight).sum_eq
    refine Or.inr ⟨hcount, Or.inr ⟨?_, Int.neg_le_neg hu.makespan⟩⟩
    rw [hu.priority, hworth]
    rfl

/-- Every node that is cut would also be cut with each remaining task counted for its own worth. -/
def CutsCovered (model : OptimizationModel) (options : OptimizationOptions) : Prop :=
  ∀ state incumbent,
    (searchTree model (ConstraintIndex.build model) options).Visits (model.tasks.length + 1)
      (rootState model)
      { best := { ok := true, backendName := backendName } } state incumbent →
    (searchTree model (ConstraintIndex.build model) options).cut state incumbent = true →
    betterScore (worthScore model options state) incumbent.bestScore = false

def BoundCovers (model : OptimizationModel) (options : OptimizationOptions) : Prop :=
  ∀ task ∈ model.tasks, task.priority * options.objective.priorityWeight ≤
    kPriorityOptimizationUpperBoundPerTask

instance (model : OptimizationModel) (options : OptimizationOptions) :
    Decidable (BoundCovers model options) :=
  inferInstanceAs (Decidable (∀ task ∈ model.tasks,
    task.priority * options.objective.priorityWeight ≤ kPriorityOptimizationUpperBoundPerTask))

theorem BoundCovers.worthOf_le (hbound : BoundCovers model options) (s : SearchState) :
    worthOf options (remainingTasks model s) ≤
      (remainingTasks model s).length * kPriorityOptimizationUpperBoundPerTask := by
  have hsum := List.sum_le_card_nsmul
    ((remainingTasks model s).map fun task => task.priority * options.objective.priorityWeight)
    kPriorityOptimizationUpperBoundPerTask fun worth hworth => ?_
  · rwa [List.length_map, nsmul_eq_mul] at hsum
  · obtain ⟨task, htask, rfl⟩ := List.mem_map.mp hworth
    exact hbound task (List.mem_filter.mp htask).1

def Incumbent.value (incumbent : Incumbent) : WithBot (Nat ×ₗ Int ×ₗ Int) :=
  if incumbent.haveBest then incumbent.bestScore.lex else ⊥

theorem searchTree_keepsBest (model : OptimizationModel) (index : ConstraintIndex)
    (options : OptimizationOptions) :
    (searchTree model index options).KeepsBest (fun state => (scoreFor state options).lex)
      Incumbent.value where
  visit := fun _ => rfl
  cutResult := fun _ => rfl
  leaf := by
    intro state incumbent
    dsimp only [searchTree]
    cases hbest : incumbent.haveBest with
    | false => simp [Incumbent.value, Incumbent.record, hbest]
    | true =>
      cases hbetter : betterScore (scoreFor state options) incumbent.bestScore with
      | false =>
        have hle := not_betterScore_iff.mp hbetter
        simp [Incumbent.value, hbest, hle]
      | true =>
        have hlt := betterScore_iff.mp hbetter
        simp [Incumbent.value, Incumbent.record, hbest, hlt.le]

/-- Where the next task always has a candidate or may be left out, the search ends with a solution. -/
theorem haveBest_of_children
    (h : ∀ s task rest, readyTasks model s = task :: rest →
      candidatesForTask task index s ≠ [] ∨ (options.allowPartialPlan || !task.mandatory) = true) :
    (finalIncumbent model index options).haveBest = true := by
  have hsome :=
    TreeSearch.explore_ne_bot (searchTree_keepsBest model index options) searchTree_shrinks
    (fun s b hb => ?_) (fun s nodes hnodes => ?_)
    (Nat.lt_succ_of_le (undecided_le model (dropDescendantsIfBlocked model (rootState model))))
    { best := { ok := true, backendName := backendName } }
  · by_contra hnone
    exact hsome (if_neg hnone)
  · have hnone : b.haveBest = false := by
      by_contra hbest
      rw [Bool.not_eq_false] at hbest
      rw [Incumbent.value, if_pos hbest] at hb
      exact WithBot.coe_ne_bot hb
    simp [searchTree, hnone]
  · cases hready : readyTasks model s with
    | nil =>
      rw [searchTree_children_nil hready] at hnodes
      exact absurd hnodes (by simp)
    | cons task rest =>
      rw [searchTree_children_cons hready] at hnodes
      obtain rfl := Option.some.inj hnodes
      rcases h s task rest hready with hcandidates | hdrop
      · simp [hcandidates]
      · simp [hdrop]

/-- With partial plans allowed the search always ends with a solution. -/
theorem haveBest_of_allowPartialPlan (hpartialPlan : options.allowPartialPlan = true) :
    (finalIncumbent model index options).haveBest = true := by
  apply haveBest_of_children
  intro s task rest _
  exact Or.inr (by simp [hpartialPlan])

theorem tally_of_visits {state : SearchState} {incumbent start : Incumbent} {depth : Nat}
    (h : (searchTree model index options).Visits depth (rootState model) start state incumbent) :
    Tally model state :=
  (Tally.kept model index).below (.root model) h.isBelow

/-- A cut that stands for the worth of the remaining tasks loses no leaf that beats the incumbent. -/
theorem leaf_le_of_cut {s : SearchState} {incumbent : Incumbent} (hs : Tally model s)
    (hcut : (searchTree model index options).cut s incumbent = true)
    (hcovered : betterScore (worthScore model options s) incumbent.bestScore = false)
    {u : SearchState} (hbelow : (searchTree model index options).Below s u) :
    ((scoreFor u options).lex : WithBot (Nat ×ₗ Int ×ₗ Int)) ≤ incumbent.value := by
  obtain ⟨placed, hcontinues⟩ : ∃ placed, Continues model options s placed u :=
    hbelow.invariant ⟨[], .refl hs⟩ fun _ _ hv hstep =>
      (Continues.kept options index s).step hv hstep
  simp only [searchTree, Bool.and_eq_true, Bool.not_eq_true'] at hcut
  rw [Incumbent.value, if_pos hcut.1, WithBot.coe_le_coe]
  exact (lex_le_worthScore hs hcontinues).trans (not_betterScore_iff.mp hcovered)

theorem leaf_le_solution (hcovered : CutsCovered model options) {state : SearchState}
    (hleaf : IsLeaf model (ConstraintIndex.build model) options state) :
    ((scoreFor state options).lex : WithBot (Nat ×ₗ Int ×ₗ Int)) ≤
      (finalIncumbent model (ConstraintIndex.build model) options).value := by
  apply TreeSearch.score_le_explore_visited
    (searchTree_keepsBest model (ConstraintIndex.build model) options)
    searchTree_shrinks _ (Nat.lt_succ_of_le (undecided_le model _)) hleaf.below hleaf.noneReady
  intro s incumbent hvisits hcut u hbelow _
  exact leaf_le_of_cut (tally_of_visits hvisits) hcut (hcovered s incumbent hvisits hcut) hbelow

theorem cutsCovered_of_boundCovers (hbound : BoundCovers model options) :
    CutsCovered model options := by
  intro state incumbent hvisits hcut
  simp only [searchTree, Bool.and_eq_true, Bool.not_eq_true'] at hcut
  rw [not_betterScore_iff]
  refine le_trans ?_ (not_betterScore_iff.mp hcut.2)
  have htally := (tally_of_visits hvisits).remaining_le
  have hscheduled := (tally_of_visits hvisits).scheduled
  have hworth := hbound.worthOf_le state
  have hcount : (remainingTasks model state).length ≤ remainingPossible model state := by
    rw [remainingPossible, hscheduled]
    omega
  have hgranted : ((remainingTasks model state).length : Int) *
      kPriorityOptimizationUpperBoundPerTask ≤
      remainingPossible model state * kPriorityOptimizationUpperBoundPerTask :=
    Int.mul_le_mul_of_nonneg_right (Int.ofNat_le.mpr hcount) (by decide)
  rw [lex_le_iff]
  refine Or.inr ⟨rfl, ?_⟩
  change (scoreFor state options).totalPriority + _ < (scoreFor state options).totalPriority + _ ∨
    (scoreFor state options).totalPriority + _ = (scoreFor state options).totalPriority + _ ∧ _ ≤ _
  rcases lt_or_eq_of_le (hworth.trans hgranted) with hlt | heq
  · exact Or.inl (by omega)
  · exact Or.inr ⟨by rw [heq], le_refl _⟩

theorem cutsCovered_of_visits
    (h : ∀ visit ∈ (searchTree model (ConstraintIndex.build model) options).visits
      (model.tasks.length + 1) (rootState model)
      { best := { ok := true, backendName := backendName } },
      (searchTree model (ConstraintIndex.build model) options).cut visit.1 visit.2 = true →
      betterScore (worthScore model options visit.1) visit.2.bestScore = false) :
      CutsCovered model options :=
  fun _ _ hvisits => h _ hvisits.mem_visits

/-- The states that are reached by taking, again and again, the first ready task in the order
of the search and either putting it on one of its actors, at the start that is found there,
or leaving it out. -/
inductive ListSchedule (model : OptimizationModel) : SearchState → Prop where
  | root : ListSchedule model (dropDescendantsIfBlocked model (rootState model))
  | place {state : SearchState} {task : OptimizerTask} {rest : List OptimizerTask}
    {candidate : Candidate} :
      ListSchedule model state → readyTasks model state = task :: rest →
      candidate ∈ candidatesForTask task (ConstraintIndex.build model) state →
      ListSchedule model (dropDescendantsIfBlocked model (state.place task candidate))
  | leaveOut {state : SearchState} {task : OptimizerTask} {rest : List OptimizerTask} :
      ListSchedule model state → readyTasks model state = task :: rest →
      ListSchedule model (dropDescendantsIfBlocked model (state.drop task.id))

theorem ListSchedule.inTree (hpartialPlan : options.allowPartialPlan = true) {state : SearchState}
    (h : ListSchedule model state) :
    (searchTree model (ConstraintIndex.build model) options).Below
      (dropDescendantsIfBlocked model (rootState model)) state := by
  induction h with
  | root => exact .refl _
  | place _ hready hcandidate ih =>
    exact Relation.ReflTransGen.tail ih (step_place hready hcandidate)
  | leaveOut _ hready ih => exact Relation.ReflTransGen.tail ih (step_drop hpartialPlan hready)

theorem listSchedule_of_below {state : SearchState}
    (h : (searchTree model (ConstraintIndex.build model) options).Below
      (dropDescendantsIfBlocked model (rootState model)) state) : ListSchedule model state := by
  induction h with
  | refl => exact .root
  | @tail state _ _ hstep ih =>
    obtain ⟨nodes, child, hnodes, hchild, rfl⟩ := hstep
    cases hready : readyTasks model state with
    | nil =>
      rw [searchTree_children_nil hready] at hnodes
      exact absurd hnodes (by simp)
    | cons task rest =>
      rw [searchTree_children_cons hready] at hnodes
      obtain rfl := Option.some.inj hnodes
      rcases List.mem_append.mp hchild with hplaced | hdropped
      · obtain ⟨candidate, hcandidate, rfl⟩ := List.mem_map.mp hplaced
        exact ih.place hready hcandidate
      · split_ifs at hdropped
        · obtain rfl := List.mem_singleton.mp hdropped
          exact ih.leaveOut hready
        · exact absurd hdropped (by simp)

theorem noneReady_iff {state : SearchState} :
    (searchTree model index options).children state = none ↔ readyTasks model state = [] := by
  constructor
  · intro hnone
    cases hready : readyTasks model state with
    | nil => rfl
    | cons task rest =>
      rw [searchTree_children_cons hready] at hnone
      exact absurd hnone (by simp)
  · exact searchTree_children_nil

structure IsBest (model : OptimizationModel) (options : OptimizationOptions)
    (schedule : List OptimizedAssignment) :
    Prop where
  feasible : FeasibleSchedule model schedule
  exclusions : RespectsExclusions model schedule
  unbeaten : ∀ other, FeasibleSchedule model other → RespectsExclusions model other →
    ¬ scheduleScore model options schedule < scheduleScore model options other

theorem scheduleScore_solution (hunique : model.UniqueIds)
    (hpartialPlan : options.allowPartialPlan = true) :
    (finalIncumbent model (ConstraintIndex.build model) options).value =
      scheduleScore model options
      (solve model (ConstraintIndex.build model) options).assignments := by
  have hbest :=
    @haveBest_of_allowPartialPlan model (ConstraintIndex.build model) options hpartialPlan
  obtain ⟨state, hleaf, hrecord⟩ :=
    (finalIncumbent_record model (ConstraintIndex.build model) options).2.1 hbest
  rw [solve_eq, if_pos hbest, hrecord.assignments, ← lex_scoreFor (.leaf hunique hleaf),
    Incumbent.value, if_pos hbest, hrecord.score]

theorem listSchedule_le_solution (hunique : model.UniqueIds) (hcovered : CutsCovered model options)
    (hpartialPlan : options.allowPartialPlan = true) {state : SearchState}
    (hlist : ListSchedule model state) (hnone : readyTasks model state = []) :
    scheduleScore model options state.schedule ≤
      scheduleScore model options
      (solve model (ConstraintIndex.build model) options).assignments := by
  have hleaf : IsLeaf model (ConstraintIndex.build model) options state :=
    ⟨hlist.inTree hpartialPlan, noneReady_iff.mpr hnone⟩
  have hle := leaf_le_solution hcovered hleaf
  rwa [scheduleScore_solution hunique hpartialPlan, WithBot.coe_le_coe,
    lex_scoreFor (.leaf hunique hleaf)] at hle

/-- The requests that the search is meant to be exact for: known dependencies without a cycle,
exclusions that are listed by both tasks, positive durations and no negative time or demand. -/
structure SearchDomain (model : OptimizationModel) : Prop where
  unique : model.UniqueIds
  known : ∀ task ∈ model.tasks, ∀ dep ∈ task.dependencyTaskIds, ∃ other ∈ model.tasks,
    other.id = dep
  acyclic : ∃ rank : TaskId → Nat, ∀ task ∈ model.tasks, ∀ dep ∈ task.dependencyTaskIds, rank dep <
    rank task.id
  listedBack : ExclusionsListedBack model
  durations : ∀ task ∈ model.tasks, 1 ≤ task.duration
  times : ∀ task ∈ model.tasks, 0 ≤ task.releaseTime ∧
    (∀ latest ∈ task.latestStartTime, 0 ≤ latest) ∧
    ∀ deadline ∈ task.deadline, 0 ≤ deadline
  windows : ∀ actor ∈ model.actors, ∀ window ∈ actor.availabilityWindows, 0 ≤ window.start ∧
    0 ≤ window.stop
  demands : ∀ task ∈ model.tasks, 0 ≤ task.demand

end TaskOrchestrator.Optimizer
