import TaskOrchestrator.Optimizer.IndexedExact
import TaskOrchestrator.Library.TreeSearch

/-!
# The tree of the indexed exact search

The search of the backend as a search of a tree, so that the rules for such searches apply:
what one step down the tree can do, what every node keeps, how deep the tree is, and which
leaf the solution comes from.
-/

namespace TaskOrchestrator.Optimizer

open Library
open TaskOrchestrator.Core hiding earliestStart

set_option autoImplicit false

section Tree

variable (model : OptimizationModel) (index : ConstraintIndex) (options : OptimizationOptions)

def searchTree : TreeSearch SearchState Incumbent where
  visit := Incumbent.countNode
  enter := dropDescendantsIfBlocked model
  cut state incumbent :=
    incumbent.haveBest && !betterScore (optimisticScore model options state) incumbent.bestScore
  cutResult := Incumbent.countPruned
  children state :=
    match readyTasks model state with
    | [] => none
    | task :: _ => some ((candidatesForTask task index state).map (state.place task) ++
        if options.allowPartialPlan || !task.mandatory then [state.drop task.id] else [])
  leaf state incumbent :=
    if !incumbent.haveBest || betterScore (scoreFor state options) incumbent.bestScore then
      incumbent.record model state (scoreFor state options)
    else incumbent

variable {model index options}

theorem searchTree_children_nil {s : SearchState} (h : readyTasks model s = []) :
    (searchTree model index options).children s = none := by
  simp only [searchTree, h]

theorem searchTree_children_cons {s : SearchState} {task : OptimizerTask}
    {rest : List OptimizerTask} (h : readyTasks model s = task :: rest) :
    (searchTree model index options).children s =
      some ((candidatesForTask task index s).map (s.place task) ++
        if options.allowPartialPlan || !task.mandatory then [s.drop task.id] else []) := by
  simp only [searchTree, h]

variable (model index options)

theorem dfs_eq_explore (depth : Nat) (node : SearchState) (incumbent : Incumbent) :
    dfs model index options depth node incumbent =
      (searchTree model index options).explore depth node incumbent := by
  induction depth generalizing node incumbent with
  | zero => rfl
  | succ depth ih =>
    simp only [dfs, TreeSearch.explore]
    by_cases hcut : (incumbent.countNode.haveBest &&
        !betterScore (optimisticScore model options (dropDescendantsIfBlocked model node))
          incumbent.countNode.bestScore) = true
    · rw [if_pos hcut]
      exact (if_pos hcut).symm
    · rw [if_neg hcut]
      refine Eq.trans ?_ (if_neg hcut).symm
      cases hready : readyTasks model (dropDescendantsIfBlocked model node) with
      | nil =>
        have hnone : (searchTree model index options).children
            ((searchTree model index options).enter node) = none :=
          searchTree_children_nil hready
        rw [hnone]
        rfl
      | cons task rest =>
        have hnodes : (searchTree model index options).children
            ((searchTree model index options).enter node) = _ :=
          searchTree_children_cons hready
        rw [hnodes]
        dsimp only
        rw [List.foldl_append, List.foldl_map]
        simp only [ih]
        split_ifs
        · rfl
        · rfl

end Tree

variable {model : OptimizationModel} {index : ConstraintIndex} {options : OptimizationOptions}

/-- The task can be taken next: it is neither scheduled nor dropped, and its dependencies are
scheduled. -/
structure IsReady (model : OptimizationModel) (state : SearchState)
    (task : OptimizerTask) : Prop where
  mem : task ∈ model.tasks
  notScheduled : task.id ∉ state.scheduled
  notDropped : task.id ∉ state.dropped
  dependencies : ∀ dep ∈ task.dependencyTaskIds, dep ∈ state.scheduled

theorem isReady_of_mem {state : SearchState} {task : OptimizerTask}
    (h : task ∈ readyTasks model state) :
    IsReady model state task := by
  have hmem := (perm_sortBy _ _).mem_iff.mp h
  simp only [List.mem_filter, Bool.and_eq_true, Bool.not_eq_true', Bool.or_eq_false_iff,
    decide_eq_false_iff_not, ConstraintIndex.dependenciesSatisfied, List.all_eq_true,
    decide_eq_true_eq] at hmem
  obtain ⟨htask, ⟨⟨hscheduled, hdropped⟩, -⟩, hdependencies⟩ := hmem
  exact ⟨htask, hscheduled, hdropped, fun dep hdep => (hdependencies dep hdep).1⟩

theorem mem_readyTasks_of_isReady {state : SearchState} {task : OptimizerTask}
    (h : IsReady model state task)
    (hdropped : ∀ dep ∈ task.dependencyTaskIds, dep ∉ state.dropped) :
    task ∈ readyTasks model state := by
  rw [readyTasks, (perm_sortBy _ _).mem_iff, List.mem_filter]
  simp only [h.notScheduled, h.notDropped, ConstraintIndex.dependencyBlocked,
    ConstraintIndex.dependenciesSatisfied, decide_false, Bool.or_false, Bool.not_false,
    Bool.true_and, Bool.and_eq_true, Bool.not_eq_true',
    List.any_eq_false, List.all_eq_true, decide_eq_true_eq]
  exact ⟨h.mem, hdropped, fun dep hdep => ⟨h.dependencies dep hdep, hdropped dep hdep⟩⟩

/-- A step schedules or drops a ready task, and drops what is below dropped tasks. -/
theorem searchTree_step {s u : SearchState} (h : (searchTree model index options).Step s u) :
    ∃ task, IsReady model s task ∧
      ((∃ candidate ∈ candidatesForTask task index s, u = dropDescendantsIfBlocked model
        (s.place task candidate)) ∨ u = dropDescendantsIfBlocked model (s.drop task.id)) := by
  obtain ⟨nodes, child, hnodes, hchild, rfl⟩ := h
  cases hready : readyTasks model s with
  | nil =>
    rw [searchTree_children_nil hready] at hnodes
    exact absurd hnodes (by simp)
  | cons task rest =>
    rw [searchTree_children_cons hready] at hnodes
    obtain rfl := Option.some.inj hnodes
    refine ⟨task, isReady_of_mem (hready ▸ List.mem_cons_self), ?_⟩
    rcases List.mem_append.mp hchild with hplaced | hdropped
    · obtain ⟨candidate, hcandidate, rfl⟩ := List.mem_map.mp hplaced
      exact Or.inl ⟨candidate, hcandidate, rfl⟩
    · split_ifs at hdropped
      · obtain rfl := List.mem_singleton.mp hdropped
        exact Or.inr rfl
      · exact absurd hdropped (by simp)

theorem step_place {s : SearchState} {task : OptimizerTask} {rest : List OptimizerTask}
    (hready : readyTasks model s = task :: rest) {candidate : Candidate}
    (hcandidate : candidate ∈ candidatesForTask task index s) :
    (searchTree model index options).Step s
      (dropDescendantsIfBlocked model (s.place task candidate)) := by
  refine ⟨_, s.place task candidate, searchTree_children_cons hready, ?_, rfl⟩
  exact List.mem_append_left _ (List.mem_map_of_mem hcandidate)

theorem step_drop (hpartialPlan : options.allowPartialPlan = true) {s : SearchState}
    {task : OptimizerTask} {rest : List OptimizerTask}
    (hready : readyTasks model s = task :: rest) :
    (searchTree model index options).Step s (dropDescendantsIfBlocked model (s.drop task.id)) := by
  refine ⟨_, s.drop task.id, searchTree_children_cons hready, ?_, rfl⟩
  simp [hpartialPlan]

/-- The passes only drop tasks that are neither scheduled nor dropped and depend on a dropped one. -/
theorem dropPasses_keeps {P : SearchState → Prop}
    (hdrop : ∀ s, ∀ task ∈ model.tasks, P s → task.id ∉ s.scheduled → task.id ∉ s.dropped →
      ConstraintIndex.dependencyBlocked task s.dropped = true → P (s.drop task.id))
    (fuel : Nat) {s : SearchState} (hs : P s) : P (dropPasses model fuel s) := by
  have hpass : ∀ t, P t → P (model.tasks.foldl dropIfBlocked (t, false)).1 := by
    intro t ht
    apply TreeSearch.foldl_keeps (fun changing : SearchState × Bool => P changing.1) _ ht
    intro task htask changing hchanging
    simp only [dropIfBlocked]
    split_ifs with hdecided hblocked
    · exact hchanging
    · rw [not_or] at hdecided
      exact hdrop _ task htask hchanging hdecided.1 hdecided.2 hblocked
    · exact hchanging
  induction fuel generalizing s with
  | zero => exact hs
  | succ fuel ih =>
    rw [dropPasses]
    dsimp only
    split_ifs
    · exact ih (hpass s hs)
    · exact hpass s hs

/-- A property of search states that survives scheduling a ready task and dropping one that is
neither scheduled nor dropped. -/
structure KeptBySearch (model : OptimizationModel) (index : ConstraintIndex)
    (Inv : SearchState → Prop) : Prop where
  drop : ∀ s, ∀ task ∈ model.tasks, Inv s → task.id ∉ s.scheduled → task.id ∉ s.dropped →
    Inv (s.drop task.id)
  place : ∀ s task, ∀ candidate ∈ candidatesForTask task index s, Inv s → IsReady model s task →
    Inv (s.place task candidate)

namespace KeptBySearch

variable {Inv : SearchState → Prop}

theorem dropPasses (h : KeptBySearch model index Inv) (fuel : Nat) {s : SearchState} (hs : Inv s) :
    Inv (dropPasses model fuel s) :=
  dropPasses_keeps (fun t task htask ht hscheduled hdropped _ =>
    h.drop t task htask ht hscheduled hdropped) fuel hs

theorem step (h : KeptBySearch model index Inv) {s u : SearchState} (hs : Inv s)
    (hstep : (searchTree model index options).Step s u) : Inv u := by
  obtain ⟨task, hready, ⟨candidate, hcandidate, rfl⟩ | rfl⟩ := searchTree_step hstep
  · exact h.dropPasses _ (h.place s task candidate hcandidate hs hready)
  · exact h.dropPasses _ (h.drop s task hready.mem hs hready.notScheduled hready.notDropped)

theorem below (h : KeptBySearch model index Inv) {s u : SearchState} (hs : Inv s)
    (hbelow : (searchTree model index options).Below (dropDescendantsIfBlocked model s) u) :
    Inv u :=
  hbelow.invariant (h.dropPasses _ hs) fun _ _ hv hstep => h.step hv hstep

end KeptBySearch

def IsDecided (s : SearchState) (taskId : TaskId) : Prop :=
  taskId ∈ s.scheduled ∨ taskId ∈ s.dropped

instance (s : SearchState) (taskId : TaskId) :
    Decidable (IsDecided s taskId) := inferInstanceAs (Decidable (_ ∨ _))

/-- The number of tasks that are neither scheduled nor dropped. -/
def undecided (model : OptimizationModel) (s : SearchState) : Nat :=
  (model.tasks.filter fun task => ¬ IsDecided s task.id).length

theorem isDecided_place {s : SearchState} {task : OptimizerTask} {candidate : Candidate}
    {taskId : TaskId} :
    IsDecided (s.place task candidate) taskId ↔ taskId = task.id ∨ IsDecided s taskId := by
  simp only [IsDecided, SearchState.place, List.mem_insert_iff]
  tauto

theorem isDecided_drop {s : SearchState} {dropped taskId : TaskId} :
    IsDecided (s.drop dropped) taskId ↔ taskId = dropped ∨ IsDecided s taskId := by
  simp only [IsDecided, SearchState.drop, List.mem_insert_iff]
  tauto

theorem isDecided_kept (taskId : TaskId) :
    KeptBySearch model index fun s => IsDecided s taskId where
  drop := fun _ _ _ hs _ _ => isDecided_drop.mpr (Or.inr hs)
  place := fun _ _ _ _ hs _ => isDecided_place.mpr (Or.inr hs)

theorem undecided_lt {s u : SearchState} (hgrows : ∀ id, IsDecided s id → IsDecided u id)
    {task : OptimizerTask} (htask : task ∈ model.tasks) (hbefore : ¬ IsDecided s task.id)
    (hafter : IsDecided u task.id) :
    undecided model u < undecided model s := by
  have hfilter : (model.tasks.filter fun task => ¬ IsDecided u task.id) =
      (model.tasks.filter fun task => ¬ IsDecided s task.id).filter fun task =>
        ¬ IsDecided u task.id := by
    rw [List.filter_filter]
    apply List.filter_congr
    intro other _
    by_cases hother : IsDecided u other.id
    · simp [hother]
    · have hstill : ¬ IsDecided s other.id := fun hs => hother (hgrows _ hs)
      simp [hother, hstill]
  unfold undecided
  rw [hfilter, List.length_filter_lt_length_iff_exists]
  exact ⟨task, by simpa using ⟨htask, hbefore⟩, by simpa using hafter⟩

theorem searchTree_shrinks : (searchTree model index options).Shrinks (undecided model) := by
  intro s u hstep
  have hgrows : ∀ id, IsDecided s id → IsDecided u id :=
    fun id hs => (isDecided_kept id).step hs hstep
  obtain ⟨task, hready, htaken⟩ := searchTree_step hstep
  have hbefore : ¬ IsDecided s task.id := not_or.mpr ⟨hready.notScheduled, hready.notDropped⟩
  apply undecided_lt hgrows hready.mem hbefore
  rcases htaken with ⟨candidate, -, rfl⟩ | rfl
  · exact (@isDecided_kept model index task.id).dropPasses _ (isDecided_place.mpr (Or.inl rfl))
  · exact (@isDecided_kept model index task.id).dropPasses _ (isDecided_drop.mpr (Or.inl rfl))

theorem undecided_le (model : OptimizationModel) (s : SearchState) :
    undecided model s ≤ model.tasks.length := List.length_filter_le _ _

/-- The depth that `solve` gives to the search is enough: more of it changes nothing. -/
theorem dfs_depth (model : OptimizationModel) (index : ConstraintIndex)
    (options : OptimizationOptions) {depth : Nat} (hdepth : model.tasks.length < depth)
    (node : SearchState) (incumbent : Incumbent) :
    dfs model index options depth node incumbent =
      dfs model index options (model.tasks.length + 1) node incumbent := by
  have hsize := undecided_le model (dropDescendantsIfBlocked model node)
  rw [dfs_eq_explore, dfs_eq_explore]
  apply TreeSearch.explore_depth searchTree_shrinks
  · exact lt_of_le_of_lt hsize hdepth
  · exact Nat.lt_succ_of_le hsize

namespace SearchState

def schedule (state : SearchState) : List OptimizedAssignment :=
  state.assignments.map SearchAssignment.assignment

end SearchState

structure IsLeaf (model : OptimizationModel) (index : ConstraintIndex)
    (options : OptimizationOptions) (state : SearchState) : Prop where
  below : (searchTree model index options).Below
    (dropDescendantsIfBlocked model (rootState model)) state
  noneReady : (searchTree model index options).children state = none

structure RecordOf (model : OptimizationModel) (options : OptimizationOptions)
    (incumbent : Incumbent) (state : SearchState) : Prop where
  assignments : incumbent.best.assignments = state.schedule
  unfulfilled : incumbent.best.unfulfilledTaskIds =
    (model.tasks.filter fun task => task.id ∉ state.scheduled).map OptimizerTask.id
  score : incumbent.bestScore = scoreFor state options

def finalIncumbent (model : OptimizationModel) (index : ConstraintIndex)
    (options : OptimizationOptions) : Incumbent :=
  (searchTree model index options).explore (model.tasks.length + 1) (rootState model)
    { best := { ok := true, backendName := backendName } }

theorem solve_eq (model : OptimizationModel) (index : ConstraintIndex)
    (options : OptimizationOptions) :
    solve model index options =
      if (finalIncumbent model index options).haveBest then
        (finalIncumbent model index options).best
      else { (finalIncumbent model index options).best with
        ok := false, errorMessage := "No optimization result could be produced." } := by
  rw [solve, dfs_eq_explore]
  rfl

/-- What the search ends with is the record of a leaf, if it has found one, and else is empty. -/
theorem finalIncumbent_record (model : OptimizationModel) (index : ConstraintIndex)
    (options : OptimizationOptions) :
    (finalIncumbent model index options).best.ok = true ∧
      ((finalIncumbent model index options).haveBest = true →
        ∃ state, IsLeaf model index options state ∧
          RecordOf model options (finalIncumbent model index options) state) ∧
      ((finalIncumbent model index options).haveBest = false →
        (finalIncumbent model index options).best.assignments = []) := by
  apply TreeSearch.explore_keeps fun incumbent : Incumbent => incumbent.best.ok = true ∧
    (incumbent.haveBest = true → ∃ state, IsLeaf model index options state ∧
      RecordOf model options incumbent state) ∧
    (incumbent.haveBest = false → incumbent.best.assignments = [])
  · rintro incumbent ⟨hok, hrecord, hnone⟩
    refine ⟨hok, fun hbest => ?_, hnone⟩
    obtain ⟨state, hleaf, hassignments, hunfulfilled, hscore⟩ := hrecord hbest
    exact ⟨state, hleaf, hassignments, hunfulfilled, hscore⟩
  · rintro incumbent ⟨hok, hrecord, hnone⟩
    refine ⟨hok, fun hbest => ?_, hnone⟩
    obtain ⟨state, hleaf, hassignments, hunfulfilled, hscore⟩ := hrecord hbest
    exact ⟨state, hleaf, hassignments, hunfulfilled, hscore⟩
  · intro state hbelow hnone incumbent hincumbent
    dsimp only [searchTree]
    split_ifs
    · exact ⟨hincumbent.1, fun _ => ⟨state, ⟨hbelow, hnone⟩, rfl, rfl, rfl⟩, fun hbest =>
        absurd hbest (by
          simp [Incumbent.record])⟩
    · exact hincumbent
  · exact ⟨rfl, fun hbest => absurd hbest Bool.false_ne_true, fun _ => rfl⟩

theorem solve_ok_iff (model : OptimizationModel) (index : ConstraintIndex)
    (options : OptimizationOptions) :
    (solve model index options).ok = true ↔ (finalIncumbent model index options).haveBest =
    true := by
  rw [solve_eq]
  split_ifs with hbest
  · simp [hbest, (finalIncumbent_record model index options).1]
  · simp [hbest]

theorem solve_leaf (hok : (solve model index options).ok = true) :
    ∃ state, IsLeaf model index options state ∧
    (solve model index options).assignments = state.schedule ∧
      (solve model index options).unfulfilledTaskIds =
        (model.tasks.filter fun task => task.id ∉ state.scheduled).map OptimizerTask.id := by
  have hbest := (solve_ok_iff model index options).mp hok
  obtain ⟨state, hleaf, hrecord⟩ := (finalIncumbent_record model index options).2.1 hbest
  refine ⟨state, hleaf, ?_⟩
  rw [solve_eq, if_pos hbest]
  exact ⟨hrecord.assignments, hrecord.unfulfilled⟩

theorem solve_failed (hfailed : (solve model index options).ok = false) :
    (solve model index options).assignments = [] := by
  have hnone : (finalIncumbent model index options).haveBest = false := by
    rw [← Bool.not_eq_true, ← solve_ok_iff, hfailed]
    exact Bool.false_ne_true
  rw [solve_eq, if_neg (by simp [hnone])]
  exact (finalIncumbent_record model index options).2.2 hnone

end TaskOrchestrator.Optimizer
